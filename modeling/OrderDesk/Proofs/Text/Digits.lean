import OrderDesk.Proofs.Text.Case
import OrderDesk.Proofs.Text.Integer

/-!
Texts of digits of any script. Not all that counts as a digit has a decimal value; a text of digits
is a number where all have one, and where they are not too many.
-/

namespace OrderDesk.Text

variable {characters : List Char} {text : String} {values : List Nat} {number : Int}

def HasValues (characters : List Char) (values : List Nat) : Prop :=
  characters.map decimalValue? = values.map some

theorem hasValues_cons {first : Char} {rest : List Char} :
    HasValues (first :: rest) values ↔ ∃ value others, values = value :: others ∧
      decimalValue? first = some value ∧ HasValues rest others := by
  cases values with
  | nil => exact ⟨nofun, nofun⟩
  | cons value others =>
    constructor
    · intro same
      rcases List.cons.inj same with ⟨head, tail⟩
      exact ⟨value, others, rfl, head, tail⟩
    · rintro ⟨_, _, ⟨⟩, head, tail⟩
      exact List.cons_eq_cons.mpr ⟨head, tail⟩

theorem HasValues.exists_value (valued : HasValues characters values) {character : Char}
    (member : character ∈ characters) : ∃ value, decimalValue? character = some value := by
  have found : decimalValue? character ∈ values.map some := valued ▸ List.mem_map_of_mem member
  rcases List.mem_map.mp found with ⟨value, _, same⟩
  exact ⟨value, same.symm⟩

theorem HasValues.joinsDigits (valued : HasValues characters values) {character : Char}
    (member : character ∈ characters) : joinsDigits character = true := by
  rcases valued.exists_value member with ⟨value, found⟩
  rw [Text.joinsDigits, found]
  exact Bool.or_true _

theorem HasValues.length (valued : HasValues characters values) :
    values.length = characters.length := by
  have same := congrArg List.length valued
  rw [List.length_map, List.length_map] at same
  exact same.symm

theorem exists_hasValues (decimal : ∀ character ∈ characters, decimalValue? character ≠ none) :
    ∃ values, HasValues characters values := by
  induction characters with
  | nil => exact ⟨[], rfl⟩
  | cons first rest induction =>
    rcases induction fun character member => decimal character (List.mem_cons_of_mem _ member) with
      ⟨others, valued⟩
    rcases Option.ne_none_iff_exists'.mp (decimal first List.mem_cons_self) with ⟨value, found⟩
    exact ⟨value :: others, hasValues_cons.mpr ⟨value, others, rfl, found, valued⟩⟩

theorem digitValues?_eq_some (some_digit : characters ≠ []) (noMark : '_' ∉ characters) :
    digitValues? characters = some values ↔ HasValues characters values := by
  fun_induction digitValues? characters generalizing values with
  | case1 => exact absurd rfl some_digit
  | case2 last =>
    rw [Option.map_eq_some_iff, hasValues_cons]
    constructor
    · rintro ⟨value, found, rfl⟩
      exact ⟨value, [], rfl, found, rfl⟩
    · rintro ⟨value, others, rfl, found, none⟩
      rw [List.map_eq_nil_iff.mp none.symm]
      exact ⟨value, found, rfl⟩
  | case3 first rest induction => exact absurd (by simp) noMark
  | case4 first second rest separated induction =>
    have later : '_' ∉ second :: rest := fun member => noMark (List.mem_cons_of_mem first member)
    rw [hasValues_cons]
    simp only [bind, Option.bind_eq_some_iff, induction (List.cons_ne_nil _ _) later]
    constructor
    · rintro ⟨value, found, others, valued, ⟨⟩⟩
      exact ⟨value, others, rfl, found, valued⟩
    · rintro ⟨value, others, rfl, found, valued⟩
      exact ⟨value, found, others, valued, rfl⟩

/-! ## What digits are not -/

theorem isDigit_blankCodes : ∀ code ∈ blankCodes, isDigit (Char.ofNat code) = false := by
  decide +kernel

theorem isBlank_of_digit {character : Char} (digit : isDigit character = true) :
    isBlank character = false := by
  rw [Bool.eq_false_iff]
  intro blank
  have noDigit := isDigit_blankCodes _ (mem_blankCodes blank)
  rw [Char.ofNat_toNat] at noDigit
  exact Bool.false_ne_true (noDigit.symm.trans digit)

theorem splitSign_of_digits (digits : ∀ character ∈ characters, isDigit character = true) :
    splitSign characters = (false, characters) := by
  rw [splitSign.eq_def]
  split
  · exact absurd (digits '-' List.mem_cons_self) (by decide)
  · exact absurd (digits '+' List.mem_cons_self) (by decide)
  · rfl

/-- Digits are a number exactly if each has a decimal value and they are not too many. -/
theorem readInteger_of_digits (some_digit : text ≠ "")
    (digits : ∀ character ∈ text.toList, isDigit character = true) :
    readInteger text = .ok number ↔ ∃ values, HasValues text.toList values ∧
      values.length ≤ maxIntegerDigits ∧ number = ofDigits values := by
  have unblank : Unblank text := fun character member => isBlank_of_digit (digits character member)
  have noMark : '_' ∉ text.toList := fun member => absurd (digits '_' member) (by decide)
  have some_character : text.toList ≠ [] := fun none =>
    some_digit (String.toList_eq_nil_iff.mp none)
  rw [readInteger, integerBody_of_unblank unblank, splitSign_of_digits digits]
  dsimp only
  constructor
  · intro reads
    split at reads
    · cases reads
    · next values found =>
      split at reads
      · cases reads
      · next few =>
        split at reads
        · cases reads
        · next all =>
          -- the run of digits stops nowhere
          have run : text.toList.takeWhile joinsDigits = text.toList :=
            (List.takeWhile_prefix _).eq_of_length_le (Nat.le_of_not_lt all)
          rw [run] at found
          exact ⟨values, (digitValues?_eq_some some_character noMark).mp found,
            Nat.le_of_not_lt few, (Except.ok.inj reads).symm⟩
  · rintro ⟨values, valued, few, rfl⟩
    have run : text.toList.takeWhile joinsDigits = text.toList :=
      List.takeWhile_eq_self_iff.mpr fun character member => valued.joinsDigits member
    rw [run, (digitValues?_eq_some some_character noMark).mpr valued]
    dsimp only
    rw [if_neg (Nat.not_lt.mpr few), if_neg (Nat.lt_irrefl _)]
    rfl

end OrderDesk.Text
