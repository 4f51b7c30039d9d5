import Mathlib.Data.List.DropRight
import Mathlib.Data.List.TakeWhile
import OrderDesk.Text.Basic

/-! Texts without blanks, which trimming leaves alone. -/

namespace OrderDesk.Text

def Unblank (text : String) : Prop :=
  ∀ character ∈ text.toList, isBlank character = false

instance (text : String) : Decidable (Unblank text) :=
  List.decidableBAll _ _

theorem Unblank.append {first second : String} (left : Unblank first) (right : Unblank second) :
    Unblank (first ++ second) := by
  intro character member
  rw [String.toList_append] at member
  rcases List.mem_append.mp member with early | late
  · exact left character early
  · exact right character late

theorem dropBlanks_of_unblank {characters : List Char}
    (unblank : ∀ character ∈ characters, isBlank character = false) :
    dropBlanks characters = characters := by
  refine List.dropWhile_eq_self_iff.mpr fun nonempty => ?_
  rw [unblank _ (List.getElem_mem nonempty)]
  exact Bool.false_ne_true

theorem trim_of_unblank {text : String} (unblank : Unblank text) : trim text = text := by
  have reversed : ∀ character ∈ text.toList.reverse, isBlank character = false :=
    fun character member => unblank character (List.mem_reverse.mp member)
  rw [trim, trimChars, dropBlanks_of_unblank unblank, dropTrailingBlanks,
    dropBlanks_of_unblank reversed, List.reverse_reverse, String.ofList_toList]

def IsTrimmed (characters : List Char) : Prop :=
  (∀ first ∈ characters.head?, isBlank first = false) ∧
    ∀ last ∈ characters.getLast?, isBlank last = false

theorem dropBlanks_of_head? {characters : List Char}
    (unblank : ∀ first ∈ characters.head?, isBlank first = false) :
    dropBlanks characters = characters := by
  cases characters with
  | nil => rfl
  | cons first rest => exact List.dropWhile_cons_of_neg (by simpa using unblank first rfl)

theorem head?_dropBlanks {characters : List Char} {first : Char}
    (head : first ∈ (dropBlanks characters).head?) : isBlank first = false := by
  have unblank := List.head?_dropWhile_not isBlank characters
  rw [dropBlanks, Option.mem_def] at head
  rw [head] at unblank
  exact unblank

theorem IsTrimmed.trimChars_eq {characters : List Char} (trimmed : IsTrimmed characters) :
    trimChars characters = characters := by
  have trailing : dropBlanks characters.reverse = characters.reverse :=
    dropBlanks_of_head? (by simpa using trimmed.2)
  rw [trimChars, dropBlanks_of_head? trimmed.1, dropTrailingBlanks, trailing, List.reverse_reverse]

theorem isTrimmed_trimChars (characters : List Char) : IsTrimmed (trimChars characters) := by
  constructor
  · intro first head
    obtain ⟨blanks, split⟩ : trimChars characters <+: dropBlanks characters :=
      List.rdropWhile_prefix ..
    have leads : first ∈ (dropBlanks characters).head? := by
      rw [← split, List.head?_append, Option.mem_def.mp head]
      rfl
    exact head?_dropBlanks leads
  · intro last ends
    rw [trimChars, dropTrailingBlanks, List.getLast?_reverse] at ends
    exact head?_dropBlanks ends

theorem trim_trim (text : String) : trim (trim text) = trim text := by
  rw [trim, trim, String.toList_ofList]
  exact congrArg String.ofList (isTrimmed_trimChars _).trimChars_eq

example : trim "\u3000 a b\t\x85" = "a b" ∧ trim "a b" = "a b" := by decide

theorem toList_truncate {count : Nat} {text : String} :
    (truncate count text).toList = text.toList.take count := by
  rw [truncate, String.toList_ofList]

theorem isBlank_of_isDigit {character : Char} (digit : character.isDigit = true) :
    isBlank character = false := by
  simp only [Char.isDigit, Bool.and_eq_true, decide_eq_true_eq, ge_iff_le,
    UInt32.le_iff_toNat_le] at digit
  change 48 ≤ character.val.toNat ∧ character.val.toNat ≤ 57 at digit
  rw [Bool.eq_false_iff]
  intro blank
  simp only [isBlank, Bool.or_eq_true, Bool.and_eq_true, decide_eq_true_eq, beq_iff_eq,
    UInt32.le_iff_toNat_le, ← UInt32.toNat_inj, UInt32.reduceToNat] at blank
  omega

theorem mem_toString {number : Int} {character : Char}
    (member : character ∈ (toString number).toList) :
    character = '-' ∨ character.isDigit = true := by
  have digit {number : Nat} (member : character ∈ number.repr.toList) :
      character.isDigit = true := by
    rw [Nat.toList_repr] at member
    exact Nat.isDigit_of_mem_toDigits (by decide) (by decide) member
  cases number with
  | ofNat number => exact Or.inr (digit member)
  | negSucc number =>
    change character ∈ ("-" ++ (number + 1).repr).toList at member
    rw [String.toList_append] at member
    exact (List.mem_append.mp member).imp List.mem_singleton.mp digit

theorem unblank_toString (number : Int) : Unblank (toString number) := by
  intro character member
  rcases mem_toString member with rfl | digit
  · decide
  · exact isBlank_of_isDigit digit

end OrderDesk.Text
