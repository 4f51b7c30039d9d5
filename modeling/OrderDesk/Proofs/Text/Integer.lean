import OrderDesk.Proofs.Text.Blank
import OrderDesk.Text.Integer

/-! Whole numbers written in decimal are read as what they are, as long as their digits are not too
many. -/

namespace OrderDesk.Text

variable {digits : List Char}

theorem decimalValue?_of_isDigit {character : Char} (digit : character.isDigit = true) :
    decimalValue? character = some (character.toNat - '0'.toNat) := by
  rw [Char.isDigit_iff_toNat] at digit
  have first : (decide (0x30 ≤ character.toNat) && decide (character.toNat < 0x30 + 10)) = true := by
    change 48 ≤ character.toNat ∧ character.toNat ≤ 57 at digit
    simp only [Bool.and_eq_true, decide_eq_true_eq]
    omega
  rw [decimalValue?, zeroCodes, List.find?_cons, first]
  rfl

theorem digitValues?_of_isDigit (some_digit : digits ≠ [])
    (plain : ∀ character ∈ digits, character.isDigit = true) :
    digitValues? digits = some (digits.map fun character => character.toNat - '0'.toNat) := by
  fun_induction digitValues? digits with
  | case1 => exact absurd rfl some_digit
  | case2 last =>
    rw [decimalValue?_of_isDigit (plain last (List.mem_cons_self ..))]
    rfl
  | case3 first rest induction => exact absurd (plain '_' (by simp)) (by decide)
  | case4 first second rest separated induction =>
    rw [decimalValue?_of_isDigit (plain first (List.mem_cons_self ..)),
      induction (List.cons_ne_nil _ _) fun character member =>
        plain character (List.mem_cons_of_mem first member)]
    rfl

theorem ofDigits_map_toNat :
    ofDigits (digits.map fun character => character.toNat - '0'.toNat) =
      Nat.ofDigitChars 10 digits 0 := by
  rw [ofDigits, List.foldl_map, Nat.ofDigitChars_eq_foldl]

theorem joinsDigits_of_isDigit {character : Char} (digit : character.isDigit = true) :
    joinsDigits character = true := by
  rw [joinsDigits, decimalValue?_of_isDigit digit]
  exact Bool.or_true _

theorem integerBody_of_unblank {text : String} (unblank : Unblank text) :
    integerBody text = text.toList := by
  have kept {characters : List Char}
      (all : ∀ character ∈ characters, isBlank character = false) :
      characters.dropWhile isIntegerBlank = characters := by
    refine List.dropWhile_eq_self_iff.mpr fun nonempty => ?_
    rw [isIntegerBlank, all _ (List.getElem_mem nonempty)]
    exact Bool.false_ne_true
  rw [integerBody, kept unblank, kept fun character member =>
    unblank character (List.mem_reverse.mp member), List.reverse_reverse]

theorem readInteger_of_splitSign {text : String} {negative : Bool} {number : Nat}
    (signed : splitSign (integerBody text) = (negative, Nat.toDigits 10 number))
    (short : (Nat.toDigits 10 number).length ≤ maxIntegerDigits) :
    readInteger text = .ok (if negative then -(number : Int) else number) := by
  have plain : ∀ character ∈ Nat.toDigits 10 number, character.isDigit = true :=
    fun character => Nat.isDigit_of_mem_toDigits (by decide) (by decide)
  have run : (Nat.toDigits 10 number).takeWhile joinsDigits = Nat.toDigits 10 number :=
    List.takeWhile_eq_self_iff.mpr fun character member =>
      joinsDigits_of_isDigit (plain character member)
  rw [readInteger, signed]
  simp only [run, digitValues?_of_isDigit Nat.toDigits_ne_nil plain, List.length_map,
    ofDigits_map_toNat, Nat.ofDigitChars_ten_toDigits]
  rw [if_neg (Nat.not_lt.mpr short), if_neg (Nat.lt_irrefl _)]

theorem splitSign_toDigits (number : Nat) :
    splitSign (Nat.toDigits 10 number) = (false, Nat.toDigits 10 number) := by
  have plain : ∀ character ∈ Nat.toDigits 10 number, character.isDigit = true :=
    fun character => Nat.isDigit_of_mem_toDigits (by decide) (by decide)
  generalize Nat.toDigits 10 number = digits at plain
  rw [splitSign.eq_def]
  split
  · exact absurd (plain '-' (List.mem_cons_self ..)) (by decide)
  · exact absurd (plain '+' (List.mem_cons_self ..)) (by decide)
  · rfl

theorem splitSign_toString (number : Int) :
    splitSign (toString number).toList = (decide (number < 0), Nat.toDigits 10 number.natAbs) := by
  cases number with
  | ofNat number =>
    change splitSign number.repr.toList = _
    rw [Nat.toList_repr, splitSign_toDigits]
    rfl
  | negSucc number =>
    change splitSign ("-" ++ (number + 1).repr).toList = _
    rw [String.toList_append, Nat.toList_repr, decide_eq_true (Int.negSucc_lt_zero number)]
    rfl

theorem eq_of_toString_eq {number other : Int} (same : toString number = toString other) :
    number = other := by
  have parts := splitSign_toString number
  rw [same, splitSign_toString other, Prod.mk.injEq, decide_eq_decide] at parts
  obtain ⟨signs, digits⟩ := parts
  have values := congrArg (Nat.ofDigitChars 10 · 0) digits
  simp only [Nat.ofDigitChars_ten_toDigits] at values
  omega

theorem ne_empty_of_readInteger {text : String} {number : Int}
    (reads : readInteger text = .ok number) : text ≠ "" := by
  rintro rfl
  exact nomatch reads

theorem short_of_lt {number : Nat} (small : number < 0x8000000000000000) :
    (Nat.toDigits 10 number).length ≤ maxIntegerDigits := by
  have few : (Nat.toDigits 10 number).length ≤ 19 :=
    (Nat.length_toDigits_le_iff (by decide) (by decide)).mpr (Nat.lt_trans small (by decide))
  exact Nat.le_trans few (by decide)

theorem readInteger_toString (number : Int)
    (short : (Nat.toDigits 10 number.natAbs).length ≤ maxIntegerDigits) :
    readInteger (toString number) = .ok number := by
  have signed : splitSign (integerBody (toString number)) =
      (decide (number < 0), Nat.toDigits 10 number.natAbs) := by
    rw [integerBody_of_unblank (unblank_toString number), splitSign_toString]
  rw [readInteger_of_splitSign signed short]
  congr 1
  split
  · next negative =>
    have below := of_decide_eq_true negative
    omega
  · next negative =>
    have above := of_decide_eq_false (Bool.eq_false_iff.mpr negative)
    omega

end OrderDesk.Text
