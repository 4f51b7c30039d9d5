import Mathlib.Tactic.SplitIfs
import OrderDesk.Json.Parser
import OrderDesk.Json.Printer

/-!
Texts read back from JSON. Whatever characters a text has, its written form is ASCII between quotes,
and reading takes just this form off the front.
-/

namespace OrderDesk.Json

open Text (CodePoint)

def codes (characters : List Char) : List CodePoint :=
  characters.map .char

theorem codes_append (first second : List Char) :
    codes (first ++ second) = codes first ++ codes second :=
  List.map_append

theorem length_codes (characters : List Char) : (codes characters).length = characters.length :=
  List.length_map _

variable {code high low fuel opening offset : Nat} {rest read : List CodePoint} {character : Char}

/-! ## Escapes -/

theorem isHighSurrogate_iff : Text.isHighSurrogate code = true ↔ 0xD800 ≤ code ∧ code ≤ 0xDBFF := by
  rw [Text.isHighSurrogate, Bool.and_eq_true, decide_eq_true_iff, decide_eq_true_iff]

theorem isLowSurrogate_iff : Text.isLowSurrogate code = true ↔ 0xDC00 ≤ code ∧ code ≤ 0xDFFF := by
  rw [Text.isLowSurrogate, Bool.and_eq_true, decide_eq_true_iff, decide_eq_true_iff]

theorem hexValue?_digitChar : ∀ digit < 16, hexValue? (.char digit.digitChar) = some digit := by
  decide

theorem hexDigits_four (code : Nat) : Text.hexDigits 4 code =
    [(code / 4096 % 16).digitChar, (code / 256 % 16).digitChar, (code / 16 % 16).digitChar,
      (code / 1 % 16).digitChar] :=
  rfl

theorem hexQuad?_hexDigits (small : code < 0x10000) :
    hexQuad? (codes (Text.hexDigits 4 code) ++ rest) = some code := by
  have digit (number : Nat) : hexValue? (.char (number % 16).digitChar) = some (number % 16) :=
    hexValue?_digitChar _ (Nat.mod_lt _ (by decide))
  rw [hexDigits_four]
  simp only [codes, List.map_cons, List.map_nil, List.cons_append, List.nil_append, hexQuad?, digit,
    Option.bind_eq_bind, Option.bind_some, Option.pure_def, Option.some.injEq]
  omega

def unitTail (code : Nat) : List Char :=
  'u' :: Text.hexDigits 4 code

theorem drop_hexDigits : (codes (Text.hexDigits 4 code) ++ rest).drop 4 = rest :=
  rfl

theorem readEscape_unit (small : code < 0x10000) (whole : Text.isHighSurrogate code = false)
    (more : rest ≠ []) :
    readEscape offset opening (codes (unitTail code) ++ rest) = .ok (.ofNat code, 6) := by
  change readEscape offset opening (.char 'u' :: (codes (Text.hexDigits 4 code) ++ rest)) = _
  simp only [readEscape, drop_hexDigits, List.isEmpty_eq_false_iff.mpr more, Bool.false_eq_true,
    if_false, hexQuad?_hexDigits small, whole, Bool.false_and]
  split <;> rfl

theorem readEscape_pair (isHigh : Text.isHighSurrogate high = true)
    (isLow : Text.isLowSurrogate low = true) (more : rest ≠ []) :
    readEscape offset opening (codes (unitTail high ++ unitEscape low) ++ rest) =
      .ok (.char (Char.ofNat (Text.joinSurrogates high low)), 12) := by
  have small : high < 0x10000 ∧ low < 0x10000 := by
    have inHigh := isHighSurrogate_iff.mp isHigh
    have inLow := isLowSurrogate_iff.mp isLow
    omega
  change readEscape offset opening (.char 'u' :: (codes (Text.hexDigits 4 high) ++
    (.char '\\' :: .char 'u' :: (codes (Text.hexDigits 4 low) ++ rest)))) = _
  simp only [readEscape, drop_hexDigits, List.isEmpty_cons, List.isEmpty_eq_false_iff.mpr more,
    Bool.false_eq_true, if_false, hexQuad?_hexDigits small.1, hexQuad?_hexDigits small.2, isHigh,
    isLow, Bool.not_false, Bool.and_self, if_true]

theorem readString_of_escape {tail : List CodePoint} {meant : CodePoint} {length : Nat}
    (escape : readEscape offset opening tail = .ok (meant, length)) :
    readString (fuel + 1) opening read ⟨offset, .char '\\' :: tail⟩ =
      readString fuel opening (meant :: read)
        ⟨offset + length, (.char '\\' :: tail).drop length⟩ := by
  rw [readString.eq_def]
  simp only [escape]
  rfl

/-! ## Characters -/

theorem toNat_valid (character : Char) :
    character.toNat < 0xD800 ∨ 0xDFFF < character.toNat ∧ character.toNat < 0x110000 :=
  character.valid

theorem not_surrogate (character : Char) : Text.isHighSurrogate character.toNat = false ∧
    Text.isLowSurrogate character.toNat = false := by
  have valid := toNat_valid character
  simp only [Bool.eq_false_iff, ne_eq, isHighSurrogate_iff, isLowSurrogate_iff]
  omega

theorem ofNat_toNat (character : Char) : CodePoint.ofNat character.toNat = .char character := by
  have whole := not_surrogate character
  rw [CodePoint.ofNat, whole.1, whole.2, Char.ofNat_toNat]
  rfl

theorem readString_plain (noQuote : character ≠ '"') (noSlash : character ≠ '\\')
    (shows : 0x20 ≤ character.toNat) :
    readString (fuel + 1) opening read ⟨offset, .char character :: rest⟩ =
      readString fuel opening (.char character :: read) ⟨offset + 1, rest⟩ := by
  have visible : isControl (.char character) = false :=
    decide_eq_false (Nat.not_lt.mpr shows)
  rw [readString.eq_def]
  split
  · next absurd => cases absurd
  · next absurd => cases absurd
  · next same => exact absurd (CodePoint.char.inj (List.cons.inj same).1) noQuote
  · next same => exact absurd (CodePoint.char.inj (List.cons.inj same).1) noSlash
  · next counted same =>
    cases counted
    cases same
    rw [visible]
    rfl

theorem pair_of_astral (astral : 0x10000 ≤ code) (valid : code < 0x110000) :
    Text.isHighSurrogate (0xD800 + (code - 0x10000) / 0x400) = true ∧
    Text.isLowSurrogate (0xDC00 + (code - 0x10000) % 0x400) = true ∧
    Text.joinSurrogates (0xD800 + (code - 0x10000) / 0x400) (0xDC00 + (code - 0x10000) % 0x400) =
      code := by
  rw [isHighSurrogate_iff, isLowSurrogate_iff]
  unfold Text.joinSurrogates
  omega

/-- One escaped character is read as it is, and one unit of fuel is spent on it. -/
theorem readString_escapedChar (character : Char) (more : rest ≠ []) :
    readString (fuel + 1) opening read ⟨offset, codes (escapedChar character) ++ rest⟩ =
      readString fuel opening (.char character :: read)
        ⟨offset + (escapedChar character).length, rest⟩ := by
  rw [escapedChar]
  split
  · next same => subst same; rfl
  split
  · next same => subst same; rfl
  split
  · next same => subst same; rfl
  split
  · next same => subst same; rfl
  split
  · next same => subst same; rfl
  split
  · next same => subst same; rfl
  split
  · next same => subst same; rfl
  split
  · next shows => exact readString_plain ‹_› ‹_› shows.1
  split
  · next small =>
    have escape : readEscape offset opening (codes (unitTail character.toNat) ++ rest) =
        .ok (.char character, 6) := by
      rw [readEscape_unit small (not_surrogate character).1 more, ofNat_toNat]
    exact readString_of_escape escape
  · next large =>
    have valid := toNat_valid character
    obtain ⟨isHigh, isLow, joined⟩ := pair_of_astral (Nat.le_of_not_lt large) (by omega)
    refine readString_of_escape ((readEscape_pair isHigh isLow more).trans ?_)
    rw [joined, Char.ofNat_toNat]
    rfl

theorem readString_quoted {characters : List Char} (enough : characters.length < fuel) :
    readString fuel opening read
        ⟨offset, codes (characters.flatMap escapedChar) ++ .char '"' :: rest⟩ =
      .ok (read.reverse ++ codes characters,
        ⟨offset + (characters.flatMap escapedChar).length + 1, rest⟩) := by
  induction characters generalizing fuel offset read with
  | nil =>
    obtain ⟨fuel, rfl⟩ := Nat.exists_eq_add_one_of_ne_zero (Nat.ne_of_gt enough)
    change _ = Except.ok (read.reverse ++ [], _)
    rw [List.append_nil]
    rfl
  | cons first others induction =>
    obtain ⟨fuel, rfl⟩ := Nat.exists_eq_add_one_of_ne_zero (Nat.ne_of_gt (Nat.zero_lt_of_lt enough))
    rw [List.flatMap_cons, codes_append, List.append_assoc,
      readString_escapedChar first (by simp), induction (Nat.lt_of_succ_lt_succ enough),
      List.length_append, List.reverse_cons, List.append_assoc, Nat.add_assoc offset]
    rfl

theorem escapedChar_ne_nil (character : Char) : escapedChar character ≠ [] := by
  rw [escapedChar]
  split_ifs <;> exact List.cons_ne_nil _ _

theorem length_le_escaped (characters : List Char) :
    characters.length ≤ (characters.flatMap escapedChar).length := by
  induction characters with
  | nil => exact Nat.le_refl 0
  | cons first others induction =>
    have some_char := List.length_pos_iff.mpr (escapedChar_ne_nil first)
    rw [List.flatMap_cons, List.length_cons, List.length_append]
    omega

end OrderDesk.Json
