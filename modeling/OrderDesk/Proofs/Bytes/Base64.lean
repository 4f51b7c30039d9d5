import Mathlib.Data.List.TakeWhile
import OrderDesk.Bytes.Base64
import OrderDesk.Proofs.Text.Blank

/-! Base64 read back: what standard Base64 writes, the strict reader reads as the same bytes, and so
does the reader of the URL alphabet with what is written in that one. -/

namespace OrderDesk

theorem Bytes.ofText_ofList {characters : List Char}
    (ascii : ∀ character ∈ characters, character.toNat < 0x80) :
    ofText (String.ofList characters) = characters.map (·.val.toUInt8) := by
  have single : characters.flatMap String.utf8EncodeChar = characters.map (·.val.toUInt8) := by
    rw [List.map_eq_flatMap]
    refine List.flatMap_congr fun character member => ?_
    refine String.utf8EncodeChar_eq_singleton (Char.utf8Size_eq_one_iff.mpr ?_)
    exact Nat.le_of_lt_succ (ascii character member)
  rw [ofText, String.toUTF8_eq_toByteArray, String.toByteArray_ofList, List.utf8Encode,
    ← single, List.data_toByteArray]

namespace Base64

/-! ## Digits -/

def readsAsDigit (character : Char) : Bool :=
  character.toNat < 0x80 && (decodeDigit? character.val.toUInt8).isSome

theorem decodeDigit?_encodeDigit : ∀ value < 64,
    decodeDigit? (encodeDigit standard value).val.toUInt8 = some value := by
  decide

theorem readsAsDigit_encodeDigit : ∀ value < 64,
    readsAsDigit (encodeDigit standard value) = true := by
  decide

theorem not_readsAsDigit_pad : readsAsDigit '=' = false := by
  decide

theorem not_blank_of_readsAsDigit {character : Char} (digit : readsAsDigit character = true) :
    Text.isBlank character = false := by
  rw [readsAsDigit, Bool.and_eq_true, decide_eq_true_eq] at digit
  have all : ∀ code : Fin 0x80, (decodeDigit? (Char.ofNat code).val.toUInt8).isSome = true →
      Text.isBlank (Char.ofNat code) = false := by
    decide
  have here := all ⟨character.toNat, digit.1⟩
  rw [Char.ofNat_toNat] at here
  exact here digit.2

/-- What is written: digits, and the padding that completes their last group. -/
structure Written (characters digits : List Char) (padding : Nat) : Prop where
  parts : characters = digits ++ List.replicate padding '='
  plain : ∀ character ∈ digits, readsAsDigit character = true
  whole : (padding = 0 ∧ digits.length % 4 = 0) ∨
    (0 < padding ∧ digits.length % 4 + padding = 4 ∧ 2 ≤ digits.length % 4)

theorem Written.group {characters digits group : List Char} {padding : Nat}
    (written : Written characters digits padding) (four : group.length = 4)
    (plain : ∀ character ∈ group, readsAsDigit character = true) :
    Written (group ++ characters) (group ++ digits) padding where
  parts := by rw [written.parts, List.append_assoc]
  plain := List.forall_mem_append.mpr ⟨plain, written.plain⟩
  whole := by
    have whole := written.whole
    rw [List.length_append, four]
    omega

theorem written_encodeChars (bytes : Bytes) :
    ∃ digits padding, Written (encodeChars standard ['='] bytes) digits padding := by
  have small (byte : UInt8) : byte.toNat < 256 := byte.toNat_lt
  fun_induction encodeChars standard ['='] bytes with
  | case1 => exact ⟨[], 0, rfl, by simp, by simp⟩
  | case2 first =>
    refine ⟨[_, _], 2, rfl, ?_, by simp⟩
    simp only [List.forall_mem_cons]
    have := small first
    exact ⟨readsAsDigit_encodeDigit _ (by omega), readsAsDigit_encodeDigit _ (by omega), by simp⟩
  | case3 first second =>
    refine ⟨[_, _, _], 1, rfl, ?_, by simp⟩
    simp only [List.forall_mem_cons]
    have := small first
    have := small second
    exact ⟨readsAsDigit_encodeDigit _ (by omega), readsAsDigit_encodeDigit _ (by omega),
      readsAsDigit_encodeDigit _ (by omega), by simp⟩
  | case4 first second third rest induction =>
    rcases induction with ⟨digits, padding, written⟩
    refine ⟨_, padding, written.group rfl ?_⟩
    simp only [List.forall_mem_cons]
    have := small first
    have := small second
    have := small third
    exact ⟨readsAsDigit_encodeDigit _ (by omega), readsAsDigit_encodeDigit _ (by omega),
      readsAsDigit_encodeDigit _ (by omega), readsAsDigit_encodeDigit _ (by omega), by simp⟩

theorem Written.takeWhile {characters digits : List Char} {padding : Nat}
    (written : Written characters digits padding) :
    characters.takeWhile readsAsDigit = digits := by
  rw [written.parts, List.takeWhile_append_of_pos written.plain]
  cases padding with
  | zero => simp
  | succ padding => simp [List.replicate_succ, not_readsAsDigit_pad]

theorem Written.dropWhile {characters digits : List Char} {padding : Nat}
    (written : Written characters digits padding) :
    characters.dropWhile readsAsDigit = List.replicate padding '=' := by
  rw [written.parts, List.dropWhile_append_of_pos written.plain]
  cases padding with
  | zero => simp
  | succ padding => simp [List.replicate_succ, not_readsAsDigit_pad]

theorem isWellFormed_ofList (characters : List Char) :
    let digits := characters.takeWhile readsAsDigit
    let padding := characters.dropWhile readsAsDigit
    isWellFormed (String.ofList characters) =
      (padding.all (· == '=') &&
        if digits.length % 4 = 0 then padding.isEmpty || !digits.isEmpty
        else digits.length % 4 + padding.length == 4) := by
  rw [isWellFormed, String.toList_ofList]
  rfl

theorem isWellFormed_encode (bytes : Bytes) : isWellFormed (encode bytes) = true := by
  rcases written_encodeChars bytes with ⟨digits, padding, written⟩
  rw [encode, isWellFormed_ofList, written.takeWhile, written.dropWhile]
  rcases written.whole with ⟨rfl, whole⟩ | ⟨some_padding, whole, rest⟩
  · simp [whole]
  · rw [if_neg (by omega)]
    simp [whole]

theorem unblank_encode (bytes : Bytes) : Text.Unblank (encode bytes) := by
  rcases written_encodeChars bytes with ⟨digits, padding, written⟩
  intro character member
  rw [encode, String.toList_ofList, written.parts] at member
  rcases List.mem_append.mp member with digit | pad
  · exact not_blank_of_readsAsDigit (written.plain character digit)
  · rw [List.eq_of_mem_replicate pad]
    decide

theorem encodeChars_ascii (bytes : Bytes) :
    ∀ character ∈ encodeChars standard ['='] bytes, character.toNat < 0x80 := by
  rcases written_encodeChars bytes with ⟨digits, padding, written⟩
  intro character member
  rw [written.parts] at member
  rcases List.mem_append.mp member with digit | pad
  · have reads := written.plain character digit
    rw [readsAsDigit, Bool.and_eq_true, decide_eq_true_eq] at reads
    exact reads.1
  · rw [List.eq_of_mem_replicate pad]
    decide

/-! ## Groups -/

theorem decodeFrom_digit {group : Group} {value : Nat} {rest : Bytes} (small : value < 64) :
    decodeFrom group ((encodeDigit standard value).val.toUInt8 :: rest) =
      match group.push value with
      | (some written, next) => (decodeFrom next rest).map (written :: ·)
      | (none, next) => decodeFrom next rest := by
  have digit := decodeDigit?_encodeDigit value small
  have proper : (encodeDigit standard value).val.toUInt8 ≠ 61 := by
    intro pad
    rw [pad] at digit
    cases digit
  rw [decodeFrom, if_neg proper]
  exact digit ▸ rfl

theorem decodeFrom_encodeChars (bytes : Bytes) :
    decodeFrom .start ((encodeChars standard ['='] bytes).map (·.val.toUInt8)) = some bytes := by
  have small (byte : UInt8) : byte.toNat < 256 := byte.toNat_lt
  have same {number : Nat} {byte : UInt8} (equal : number = byte.toNat) :
      UInt8.ofNat number = byte := by rw [equal, UInt8.ofNat_toNat]
  fun_induction encodeChars standard ['='] bytes with
  | case1 => rfl
  | case2 first =>
    have := small first
    have one : UInt8.ofNat (first.toNat / 4 * 4 + first.toNat % 4 * 16 / 16) = first :=
      same (by omega)
    simp only [List.cons_append, List.nil_append, List.map_cons, List.map_nil]
    rw [decodeFrom_digit (by omega)]
    simp only [Group.start, Group.push]
    rw [decodeFrom_digit (by omega)]
    simp only [Group.push, one]
    rfl
  | case3 first second =>
    have := small first
    have := small second
    have one : UInt8.ofNat (first.toNat / 4 * 4 + (first.toNat % 4 * 16 + second.toNat / 16) / 16) =
        first := same (by omega)
    have two : UInt8.ofNat ((first.toNat % 4 * 16 + second.toNat / 16) % 16 * 16 +
        second.toNat % 16 * 4 / 4) = second := same (by omega)
    simp only [List.cons_append, List.nil_append, List.map_cons, List.map_nil]
    rw [decodeFrom_digit (by omega)]
    simp only [Group.start, Group.push]
    rw [decodeFrom_digit (by omega)]
    simp only [Group.push, one]
    rw [decodeFrom_digit (by omega)]
    simp only [Group.push, two]
    rfl
  | case4 first second third rest induction =>
    have := small first
    have := small second
    have := small third
    have one : UInt8.ofNat (first.toNat / 4 * 4 + (first.toNat % 4 * 16 + second.toNat / 16) / 16) =
        first := same (by omega)
    have two : UInt8.ofNat ((first.toNat % 4 * 16 + second.toNat / 16) % 16 * 16 +
        (second.toNat % 16 * 4 + third.toNat / 64) / 4) = second := same (by omega)
    have three : UInt8.ofNat ((second.toNat % 16 * 4 + third.toNat / 64) % 4 * 64 +
        third.toNat % 64) = third := same (by omega)
    simp only [List.cons_append, List.nil_append, List.map_cons]
    rw [decodeFrom_digit (by omega)]
    simp only [Group.start, Group.push]
    rw [decodeFrom_digit (by omega)]
    simp only [Group.push, one]
    rw [decodeFrom_digit (by omega)]
    simp only [Group.push, two]
    rw [decodeFrom_digit (by omega)]
    simp only [Group.push, three, induction]
    rfl

/-- What is written is read back. -/
theorem decode?_encode (bytes : Bytes) : decode? (encode bytes) = some bytes := by
  rw [decode?, if_pos (isWellFormed_encode bytes), decodeLenient?, encode,
    Bytes.ofText_ofList (encodeChars_ascii bytes), decodeFrom_encodeChars]

example : encode [102, 111, 111, 98] = "Zm9vYg==" ∧
    decode? "Zm9vYg==" = some [102, 111, 111, 98] := by decide +kernel

/-! ## The URL alphabet -/

theorem mem_encodeChars {alphabet : Alphabet} {bytes : Bytes} {character : Char}
    (member : character ∈ encodeChars alphabet [] bytes) :
    ∃ value < 64, character = encodeDigit alphabet value := by
  have small (byte : UInt8) : byte.toNat < 256 := byte.toNat_lt
  fun_induction encodeChars alphabet [] bytes with
  | case1 => exact absurd member List.not_mem_nil
  | case2 first =>
    have := small first
    simp only [List.append_nil, List.mem_cons, List.not_mem_nil, or_false] at member
    rcases member with rfl | rfl <;> exact ⟨_, by omega, rfl⟩
  | case3 first second =>
    have := small first
    have := small second
    simp only [List.append_nil, List.mem_cons, List.not_mem_nil, or_false] at member
    rcases member with rfl | rfl | rfl <;> exact ⟨_, by omega, rfl⟩
  | case4 first second third rest induction =>
    have := small first
    have := small second
    have := small third
    simp only [List.mem_append, List.mem_cons, List.not_mem_nil, or_false] at member
    rcases member with (rfl | rfl | rfl | rfl) | later
    · exact ⟨_, by omega, rfl⟩
    · exact ⟨_, by omega, rfl⟩
    · exact ⟨_, by omega, rfl⟩
    · exact ⟨_, by omega, rfl⟩
    · exact induction later

def standardByte (byte : UInt8) : UInt8 :=
  if byte = 45 then 43 else if byte = 95 then 47 else byte

theorem standardByte_encodeDigit : ∀ value < 64,
    standardByte (encodeDigit url value).val.toUInt8 =
      (encodeDigit standard value).val.toUInt8 := by
  decide

theorem decodeUrl?_eq (bytes : Bytes) : decodeUrl? bytes =
    decodeLenient? (bytes.map standardByte ++ List.replicate ((4 - bytes.length % 4) % 4) 61) :=
  rfl

theorem standard_encodeChars (bytes : Bytes) :
    (encodeChars url [] bytes).map (standardByte ·.val.toUInt8) ++
        List.replicate ((4 - (encodeChars url [] bytes).length % 4) % 4) 61 =
      (encodeChars standard ['='] bytes).map (·.val.toUInt8) := by
  have small (byte : UInt8) : byte.toNat < 256 := byte.toNat_lt
  fun_induction encodeChars url [] bytes with
  | case1 => rfl
  | case2 first =>
    have := small first
    simp only [List.append_nil, List.map_cons, List.map_nil]
    rw [standardByte_encodeDigit _ (by omega), standardByte_encodeDigit _ (by omega)]
    rfl
  | case3 first second =>
    have := small first
    have := small second
    simp only [List.append_nil, List.map_cons, List.map_nil]
    rw [standardByte_encodeDigit _ (by omega), standardByte_encodeDigit _ (by omega),
      standardByte_encodeDigit _ (by omega)]
    rfl
  | case4 first second third rest induction =>
    have := small first
    have := small second
    have := small third
    rw [encodeChars, List.map_append, List.map_append, ← induction, List.length_append,
      List.append_assoc]
    change _ ++ (_ ++ List.replicate ((4 - (4 + _) % 4) % 4) 61) = _
    rw [Nat.add_mod_left]
    simp only [List.map_cons, List.map_nil]
    rw [standardByte_encodeDigit _ (by omega), standardByte_encodeDigit _ (by omega),
      standardByte_encodeDigit _ (by omega), standardByte_encodeDigit _ (by omega)]

theorem encodeUrl_ascii {bytes : Bytes} :
    ∀ character ∈ encodeChars url [] bytes, character.toNat < 0x80 := by
  have ascii : ∀ value < 64, (encodeDigit url value).toNat < 0x80 := by decide
  intro character member
  rcases mem_encodeChars member with ⟨value, small, rfl⟩
  exact ascii value small

/-- What is written in the URL alphabet is read back. -/
theorem decodeUrl?_encodeUrl (bytes : Bytes) :
    decodeUrl? (Bytes.ofText (encodeUrl bytes)) = some bytes := by
  rw [encodeUrl, Bytes.ofText_ofList encodeUrl_ascii, decodeUrl?_eq, List.map_map, List.length_map]
  change decodeFrom .start ((encodeChars url [] bytes).map (standardByte ·.val.toUInt8) ++ _) = _
  rw [standard_encodeChars, decodeFrom_encodeChars]

theorem point_not_mem_encodeUrl (bytes : Bytes) :
    (46 : UInt8) ∉ Bytes.ofText (encodeUrl bytes) := by
  have other : ∀ value < 64, (encodeDigit url value).val.toUInt8 ≠ 46 := by decide
  rw [encodeUrl, Bytes.ofText_ofList encodeUrl_ascii]
  intro member
  rcases List.mem_map.mp member with ⟨character, written, point⟩
  rcases mem_encodeChars written with ⟨value, small, rfl⟩
  exact other value small point

end Base64

end OrderDesk
