import OrderDesk.Proofs.Failure
import OrderDesk.Proofs.Json.Strings
import OrderDesk.Proofs.Text.Integer

/-!
Objects read back from JSON: one whose values are texts and whole numbers is read as what was
written, and of fields with the same name the last one counts.
-/

namespace OrderDesk

open Text (CodePoint)

theorem Text.head_toDigits {number : Nat} (positive : 0 < number) :
    (Nat.toDigits 10 number).head? ≠ some '0' := by
  induction number using Nat.strongRecOn with
  | ind number induction =>
    rcases Nat.lt_or_ge number 10 with small | large
    · rw [Nat.toDigits_of_lt_base small]
      have digits : ∀ digit < 10, 0 < digit → [digit.digitChar].head? ≠ some '0' := by decide
      exact digits number small positive
    · rw [Nat.toDigits_of_base_le (by decide) large,
        List.head?_append_of_ne_nil _ Nat.toDigits_ne_nil]
      exact induction _ (Nat.div_lt_self positive (by decide)) (Nat.div_pos large (by decide))

namespace Json

variable {reading : Reading} {fuel depth offset : Nat} {rest : List CodePoint}

/-! ## Numbers -/

theorem isDigit_char (character : Char) : isDigit (.char character) = character.isDigit :=
  rfl

theorem digitsValue_codes (digits : List Char) :
    digitsValue (codes digits) = Nat.ofDigitChars 10 digits 0 := by
  rw [digitsValue, codes, List.foldl_map, Nat.ofDigitChars_eq_foldl]
  rfl

/-- What may follow a value inside an object. -/
def Delimited (rest : List CodePoint) : Prop :=
  ∃ tail, rest = .char ',' :: tail ∨ rest = .char '\x7d' :: tail

theorem Delimited.takeWhile_isDigit (ends : Delimited rest) : rest.takeWhile isDigit = [] := by
  rcases ends with ⟨tail, rfl | rfl⟩ <;> rfl

theorem Delimited.fractionOf (ends : Delimited rest) : fractionOf rest = [] := by
  rcases ends with ⟨tail, rfl | rfl⟩ <;> rfl

theorem Delimited.exponentOf? (ends : Delimited rest) : exponentOf? rest = none := by
  rcases ends with ⟨tail, rfl | rfl⟩ <;> rfl

structure Digits (digits : List Char) : Prop where
  plain : ∀ digit ∈ digits, digit.isDigit = true
  nonempty : digits ≠ []
  lead : digits.head? = some '0' → digits = ['0']

theorem digits_toDigits (number : Nat) : Digits (Nat.toDigits 10 number) where
  plain _ := Nat.isDigit_of_mem_toDigits (by decide) (by decide)
  nonempty := Nat.toDigits_ne_nil
  lead leading := by
    rcases Nat.eq_zero_or_pos number with rfl | positive
    · exact Nat.toDigits_zero 10
    · exact absurd leading (Text.head_toDigits positive)

variable {digits : List Char}

theorem Digits.wholePartOf (whole : Digits digits) (ends : Delimited rest) :
    wholePartOf (codes digits ++ rest) = codes digits := by
  obtain ⟨first, others, rfl⟩ := List.exists_cons_of_ne_nil whole.nonempty
  by_cases zero : first = '0'
  · subst zero
    rw [whole.lead rfl]
    rfl
  · have all : ∀ code ∈ codes (first :: others), isDigit code = true := by
      simpa [codes, isDigit_char] using whole.plain
    have taken : (codes (first :: others) ++ rest).takeWhile isDigit = codes (first :: others) := by
      rw [List.takeWhile_append_of_pos all, ends.takeWhile_isDigit, List.append_nil]
    rw [Json.wholePartOf.eq_def]
    split
    · next same => exact absurd (CodePoint.char.inj (List.cons.inj same).1) zero
    · exact taken

def signed (negative : Bool) (digits : List Char) : List Char :=
  if negative then '-' :: digits else digits

theorem toList_toString (value : Int) :
    (toString value).toList = signed (decide (value < 0)) (Nat.toDigits 10 value.natAbs) := by
  cases value with
  | ofNat number =>
    change number.repr.toList = Nat.toDigits 10 number
    exact Nat.toList_repr
  | negSucc number =>
    have written : toString (Int.negSucc number) = "-" ++ (number + 1).repr := rfl
    rw [written, String.toList_append, Nat.toList_repr, decide_eq_true (Int.negSucc_lt_zero number)]
    rfl

theorem atFront?_signed (negative : Bool) (whole : Digits digits) (ends : Delimited rest) :
    Numeral.atFront? (codes (signed negative digits) ++ rest) =
      some ⟨negative, codes digits, [], none, (signed negative digits).length⟩ := by
  have some_code : (codes digits).isEmpty = false := by
    simpa [codes] using whole.nonempty
  have after : (codes digits ++ rest).drop (codes digits).length = rest := List.drop_left
  have sign : ((codes (signed negative digits) ++ rest).head? == some (.char '-')) = negative := by
    obtain ⟨first, others, rfl⟩ := List.exists_cons_of_ne_nil whole.nonempty
    cases negative with
    | true => rfl
    | false =>
      refine beq_eq_false_iff_ne.mpr fun minus => ?_
      cases minus
      exact absurd (whole.plain '-' List.mem_cons_self) (by decide)
  have unsigned : (if negative then (codes (signed negative digits) ++ rest).drop 1
      else codes (signed negative digits) ++ rest) = codes digits ++ rest := by
    cases negative <;> rfl
  simp only [Numeral.atFront?, sign, unsigned, whole.wholePartOf ends, some_code, after,
    ends.fractionOf, List.isEmpty_nil, if_true, List.drop_zero, ends.exponentOf?]
  cases negative <;> simp [signed, length_codes]
  omega

theorem literals_miss (negative : Bool) (whole : Digits digits) :
    (literals.findSome? fun (word, value) =>
      (Cursor.skip? ⟨offset, codes (signed negative digits) ++ rest⟩ word).map (value, ·)) =
        none := by
  obtain ⟨first, others, rfl⟩ := List.exists_cons_of_ne_nil whole.nonempty
  have digit : first.isDigit = true := whole.plain first List.mem_cons_self
  have other {letter : Char} (noDigit : letter.isDigit = false) : letter ≠ first := by
    rintro rfl
    exact absurd digit (by simp [noDigit])
  have n : 'n' ≠ first := other (by decide)
  have t : 't' ≠ first := other (by decide)
  have f : 'f' ≠ first := other (by decide)
  have nan : 'N' ≠ first := other (by decide)
  have infinity : 'I' ≠ first := other (by decide)
  have minus : '-' ≠ first := other (by decide)
  cases negative <;>
    simp [literals, Cursor.skip?, codes, signed, Text.CodePoints.ofText, n, t, f, nan, infinity,
      minus]

theorem value_signed {value : Int} {length : Nat}
    (short : (Nat.toDigits 10 value.natAbs).length ≤ Text.maxIntegerDigits) :
    Numeral.value ⟨decide (value < 0), codes (Nat.toDigits 10 value.natAbs), [], none, length⟩ =
      .ok (int value) := by
  have size : (if decide (value < 0) then -(value.natAbs : Int) else value.natAbs) = value := by
    split
    · next negative => have := of_decide_eq_true negative; omega
    · next positive => have := of_decide_eq_false (Bool.eq_false_iff.mpr positive); omega
  simp only [Numeral.value, List.isEmpty_nil, Option.isNone_none, Bool.and_self, if_true,
    length_codes, if_neg (Nat.not_lt.mpr short), digitsValue_codes, Nat.ofDigitChars_ten_toDigits,
    size]

theorem readScalar_int {value : Int} (plain : reading.keepsNumbers = false)
    (short : (Nat.toDigits 10 value.natAbs).length ≤ Text.maxIntegerDigits)
    (ends : Delimited rest) :
    readScalar reading ⟨offset, codes (toString value).toList ++ rest⟩ =
      .ok (int value, ⟨offset + (toString value).toList.length, rest⟩) := by
  have whole := digits_toDigits value.natAbs
  have numeral := atFront?_signed (decide (value < 0)) whole ends
  rw [toList_toString, readScalar, literals_miss _ whole]
  simp only [readNumber, numeral, plain, Bool.false_eq_true, if_false, value_signed short,
    Cursor.drop]
  rw [← length_codes, List.drop_left]
  rfl

/-! ## Values -/

inductive Scalar : Json → Prop
  | text (value : String) : Scalar (.text value)
  | int {value : Int} (short : (Nat.toDigits 10 value.natAbs).length ≤ Text.maxIntegerDigits) :
    Scalar (.int value)

def written (value : Json) : List Char :=
  (value.print .compact).toList

theorem toList_quotedString (value : String) :
    (quotedString value).toList = '"' :: (value.toList.flatMap escapedChar ++ ['"']) := by
  rw [quotedString, String.toList_ofList]
  rfl

theorem readString_quotedString {value : String} {tail : List CodePoint}
    (opens : codes (quotedString value).toList ++ rest = .char '"' :: tail)
    (enough : (quotedString value).toList.length ≤ fuel + 1) :
    readString (fuel + 1) offset [] ⟨offset + 1, tail⟩ =
      .ok (Text.CodePoints.ofText value, ⟨offset + (quotedString value).toList.length, rest⟩) := by
  have after : tail = codes (value.toList.flatMap escapedChar) ++ .char '"' :: rest := by
    rw [toList_quotedString] at opens
    simpa [codes] using (List.cons.inj opens).2.symm
  have length : (quotedString value).toList.length =
      1 + (value.toList.flatMap escapedChar).length + 1 := by
    rw [toList_quotedString, List.length_cons, List.length_append, List.length_singleton]
    omega
  have fits := length_le_escaped value.toList
  rw [after, readString_quoted (by omega), length, Nat.add_assoc, Nat.add_assoc, Nat.add_assoc]
  rfl

theorem checkHalves_ofText (value : String) :
    checkHalves reading offset (Text.CodePoints.ofText value) = .ok () := by
  have whole : (Text.CodePoints.ofText value).all (·.char?.isSome) = true := by
    simp [Text.CodePoints.ofText, CodePoint.char?]
  rw [checkHalves, whole, Bool.or_true, if_pos rfl]

theorem skipSpaces_of_solid {mark : Char} (solid : Cursor.isSpace (.char mark) = false) :
    Cursor.skipSpaces ⟨offset, .char mark :: rest⟩ = ⟨offset, .char mark :: rest⟩ := by
  rw [Cursor.skipSpaces, List.takeWhile_cons_of_neg (by rw [solid]; exact Bool.false_ne_true)]
  rfl

theorem readValue_text {value : String} (enough : (quotedString value).toList.length ≤ fuel + 1) :
    readValue reading (fuel + 1) depth ⟨offset, codes (quotedString value).toList ++ rest⟩ =
      .ok (.text value, ⟨offset + (quotedString value).toList.length, rest⟩) := by
  obtain ⟨tail, opens⟩ : ∃ tail, codes (quotedString value).toList ++ rest = .char '"' :: tail := by
    rw [toList_quotedString]
    exact ⟨_, rfl⟩
  rw [opens, readValue.eq_def]
  change (readString (fuel + 1) offset [] ⟨offset + 1, tail⟩ >>= _) = _
  rw [readString_quotedString opens enough]
  change (checkHalves reading offset (Text.CodePoints.ofText value) >>= _) = _
  rw [checkHalves_ofText]
  change Except.ok (ofCodes (Text.CodePoints.ofText value), _) = _
  rw [ofCodes, Text.CodePoints.toText?_ofText]

theorem signed_head (negative : Bool) (whole : Digits digits) :
    ∃ first others, signed negative digits = first :: others ∧
      (first = '-' ∨ first.isDigit = true) := by
  obtain ⟨first, others, rfl⟩ := List.exists_cons_of_ne_nil whole.nonempty
  cases negative with
  | true => exact ⟨'-', first :: others, rfl, Or.inl rfl⟩
  | false => exact ⟨first, others, rfl, Or.inr (whole.plain first List.mem_cons_self)⟩

theorem readValue_int {value : Int} (plain : reading.keepsNumbers = false)
    (short : (Nat.toDigits 10 value.natAbs).length ≤ Text.maxIntegerDigits)
    (ends : Delimited rest) :
    readValue reading (fuel + 1) depth ⟨offset, codes (toString value).toList ++ rest⟩ =
      .ok (.int value, ⟨offset + (toString value).toList.length, rest⟩) := by
  rw [← readScalar_int plain short ends]
  obtain ⟨first, others, opens, head⟩ :=
    signed_head (decide (value < 0)) (digits_toDigits value.natAbs)
  have other {letter : Char} {tail : List CodePoint} (noDigit : letter.isDigit = false)
      (noSign : letter ≠ '-') :
      codes (first :: others) ++ rest ≠ .char letter :: tail := by
    intro same
    cases CodePoint.char.inj (List.cons.inj same).1
    exact head.elim noSign fun digit => by simp [noDigit] at digit
  rw [toList_toString, opens, readValue.eq_def]
  split
  · next none => cases none
  · next counted =>
    split
    · next same => exact absurd same (other (by decide) (by decide))
    · next same => exact absurd same (other (by decide) (by decide))
    · next same => exact absurd same (other (by decide) (by decide))
    · rfl

theorem Scalar.readValue {value : Json} (scalar : Scalar value)
    (plain : reading.keepsNumbers = false)
    (enough : (written value).length ≤ fuel + 1) (ends : Delimited rest) :
    readValue reading (fuel + 1) depth ⟨offset, codes (written value) ++ rest⟩ =
      .ok (value, ⟨offset + (written value).length, rest⟩) := by
  cases scalar with
  | text value => exact readValue_text enough
  | int short => exact readValue_int plain short ends

theorem Scalar.head {value : Json} (scalar : Scalar value) :
    ∃ first others, written value = first :: others ∧ Cursor.isSpace (.char first) = false := by
  cases scalar with
  | text value => exact ⟨'"', _, toList_quotedString value, by decide⟩
  | @int value short =>
    obtain ⟨first, others, opens, head⟩ :=
      signed_head (decide (value < 0)) (digits_toDigits value.natAbs)
    refine ⟨first, others, (toList_toString value).trans opens, ?_⟩
    rcases head with rfl | digit
    · decide
    · rw [Bool.eq_false_iff]
      intro blank
      simp only [Cursor.isSpace, Bool.or_eq_true, beq_iff_eq, CodePoint.char.injEq] at blank
      rcases blank with ((rfl | rfl) | rfl) | rfl <;> exact absurd digit (by decide)

/-! ## Fields -/

variable {key : String} {value : Json} {before fields : Fields}

def writtenField (field : String × Json) : List Char :=
  (quotedString field.1).toList ++ ':' :: written field.2

def afterField (reading : Reading) (fuel depth : Nat) (fields : Fields) (next : Cursor) :
    Except ParseError (Json × Cursor) :=
  match next.rest with
  | .char '\x7d' :: _ => .ok (object fields, next.drop 1)
  | .char ',' :: _ => readFields reading fuel depth fields (next.drop 1).skipSpaces
  | _ => .error (.malformed next.offset)

theorem Delimited.skipSpaces (ends : Delimited rest) :
    Cursor.skipSpaces ⟨offset, rest⟩ = ⟨offset, rest⟩ := by
  rcases ends with ⟨tail, rfl | rfl⟩ <;> exact skipSpaces_of_solid (by decide)

theorem putField_ofText :
    putField before (Text.CodePoints.ofText key) value = before.put key value := by
  rw [putField, Text.CodePoints.toText?_ofText]

theorem readFields_field (scalar : Scalar value) (plain : reading.keepsNumbers = false)
    (enough : (writtenField (key, value)).length ≤ fuel + 1) (ends : Delimited rest) :
    readFields reading (fuel + 1) depth before ⟨offset, codes (writtenField (key, value)) ++ rest⟩ =
      afterField reading fuel depth (before.put key value)
        ⟨offset + (writtenField (key, value)).length, rest⟩ := by
  obtain ⟨first, others, opens, solid⟩ := scalar.head
  have quoted := toList_quotedString key
  have length : (writtenField (key, value)).length =
      (quotedString key).toList.length + 1 + (written value).length := by
    simp only [writtenField, List.length_append, List.length_cons]
    omega
  have keyLength : 2 ≤ (quotedString key).toList.length := by
    rw [quoted, List.length_cons, List.length_append, List.length_singleton]
    omega
  obtain ⟨fuel, rfl⟩ : ∃ less, fuel = less + 1 := ⟨fuel - 1, by omega⟩
  have apart : codes (writtenField (key, value)) ++ rest =
      codes (quotedString key).toList ++ (.char ':' :: (codes (written value) ++ rest)) := by
    simp [writtenField, codes]
  obtain ⟨tail, quote⟩ : ∃ tail, codes (quotedString key).toList ++
      (.char ':' :: (codes (written value) ++ rest)) = .char '"' :: tail := by
    rw [quoted]
    exact ⟨_, rfl⟩
  have begins : Cursor.skipSpaces ⟨offset + (quotedString key).toList.length + 1,
      codes (written value) ++ rest⟩ =
        ⟨offset + (quotedString key).toList.length + 1, codes (written value) ++ rest⟩ := by
    rw [opens]
    exact skipSpaces_of_solid solid
  rw [apart, quote, readFields.eq_def]
  change (readString (fuel + 1 + 1) offset [] ⟨offset + 1, tail⟩ >>= _) = _
  rw [readString_quotedString quote (by omega)]
  change (checkHalves reading offset (Text.CodePoints.ofText key) >>= _) = _
  have colon : Cursor.isSpace (.char ':') = false := by decide
  rw [checkHalves_ofText, Outcome.ok_bind, skipSpaces_of_solid colon]
  change (readValue reading (fuel + 1) depth (Cursor.skipSpaces
    ⟨offset + (quotedString key).toList.length + 1, codes (written value) ++ rest⟩) >>= _) = _
  rw [begins, scalar.readValue plain (by omega) ends, Outcome.ok_bind]
  dsimp only
  rw [ends.skipSpaces, putField_ofText, length, ← Nat.add_assoc, ← Nat.add_assoc]
  rfl

def writtenFields (fields : Fields) : List Char :=
  [','].intercalate (fields.map writtenField)

theorem writtenFields_cons {field next : String × Json} :
    writtenFields (field :: next :: fields) =
      writtenField field ++ ',' :: writtenFields (next :: fields) := by
  simp [writtenFields, List.intercalate]

theorem writtenField_head (field : String × Json) :
    ∃ others, writtenField field = '"' :: others := by
  rw [writtenField, toList_quotedString]
  exact ⟨_, rfl⟩

theorem writtenFields_head (some_field : fields ≠ []) :
    ∃ others, writtenFields fields = '"' :: others := by
  obtain ⟨field, more, rfl⟩ := List.exists_cons_of_ne_nil some_field
  obtain ⟨others, opens⟩ := writtenField_head field
  cases more with
  | nil =>
    rw [writtenFields, List.map_singleton, List.intercalate_singleton]
    exact ⟨_, opens⟩
  | cons next more =>
    rw [writtenFields_cons, opens]
    exact ⟨_, rfl⟩

theorem skipSpaces_writtenFields (some_field : fields ≠ []) :
    Cursor.skipSpaces ⟨offset, codes (writtenFields fields) ++ rest⟩ =
      ⟨offset, codes (writtenFields fields) ++ rest⟩ := by
  obtain ⟨others, opens⟩ := writtenFields_head some_field
  rw [opens]
  exact skipSpaces_of_solid (by decide)

theorem readFields_written (some_field : fields ≠ []) (scalars : ∀ field ∈ fields, Scalar field.2)
    (plain : reading.keepsNumbers = false) (enough : (writtenFields fields).length ≤ fuel) :
    readFields reading fuel depth before
        ⟨offset, codes (writtenFields fields) ++ .char '\x7d' :: rest⟩ =
      .ok (object (before.putAll fields), ⟨offset + (writtenFields fields).length + 1, rest⟩) := by
  induction fields generalizing fuel offset before with
  | nil => exact absurd rfl some_field
  | cons field more induction =>
    obtain ⟨key, value⟩ := field
    obtain ⟨others, opens⟩ := writtenField_head (key, value)
    have scalar : Scalar value := scalars (key, value) List.mem_cons_self
    cases more with
    | nil =>
      have alone : writtenFields [(key, value)] = writtenField (key, value) :=
        List.intercalate_singleton
      rw [alone] at enough ⊢
      obtain ⟨fuel, rfl⟩ : ∃ less, fuel = less + 1 :=
        Nat.exists_eq_add_one_of_ne_zero (by rintro rfl; simp [opens] at enough)
      rw [readFields_field scalar plain enough ⟨rest, Or.inr rfl⟩]
      rfl
    | cons next more =>
      rw [writtenFields_cons] at enough ⊢
      rw [List.length_append, List.length_cons] at enough
      obtain ⟨fuel, rfl⟩ : ∃ less, fuel = less + 1 := ⟨fuel - 1, by omega⟩
      have apart : codes (writtenField (key, value) ++ ',' :: writtenFields (next :: more)) ++
          .char '\x7d' :: rest = codes (writtenField (key, value)) ++ .char ',' ::
            (codes (writtenFields (next :: more)) ++ .char '\x7d' :: rest) := by
        simp [codes]
      have some_more : next :: more ≠ [] := List.cons_ne_nil next more
      have later : ∀ field ∈ next :: more, Scalar field.2 := fun other member =>
        scalars other (List.mem_cons_of_mem _ member)
      have place : offset + (writtenField (key, value)).length + 1 +
          (writtenFields (next :: more)).length + 1 = offset + ((writtenField (key, value)).length +
            ((writtenFields (next :: more)).length + 1)) + 1 := by omega
      rw [apart, readFields_field scalar plain (by omega) ⟨_, Or.inl rfl⟩]
      change readFields reading fuel depth (before.put key value) (Cursor.skipSpaces
        ⟨offset + (writtenField (key, value)).length + 1,
          codes (writtenFields (next :: more)) ++ .char '\x7d' :: rest⟩) = _
      rw [skipSpaces_writtenFields some_more, induction some_more later (by omega),
        List.length_append, List.length_cons, place]
      rfl

/-! ## Objects -/

theorem printFields_scalars (scalars : ∀ field ∈ fields, Scalar field.2) :
    (printFields .compact fields).map String.toList = fields.map writtenField := by
  induction fields with
  | nil => rfl
  | cons field more induction =>
    obtain ⟨key, value⟩ := field
    have rest := induction fun other member => scalars other (List.mem_cons_of_mem _ member)
    have here : (quotedString key ++ ":" ++ value.print .compact).toList =
        writtenField (key, value) := by
      rw [String.toList_append, String.toList_append, List.append_assoc]
      rfl
    rw [List.map_cons, ← rest, ← here]
    cases scalars (key, value) List.mem_cons_self <;> rfl

theorem written_object (scalars : ∀ field ∈ fields, Scalar field.2) :
    written (object fields) = '\x7b' :: (writtenFields fields ++ ['\x7d']) := by
  rw [written, print, String.toList_append, String.toList_append, String.toList_intercalate,
    printFields_scalars scalars]
  rfl

theorem readValue_object (some_field : fields ≠ []) (scalars : ∀ field ∈ fields, Scalar field.2)
    (plain : reading.keepsNumbers = false) (deep : reading.allowsDepth (depth + 1) = true)
    (enough : (writtenFields fields).length ≤ fuel) :
    readValue reading (fuel + 1) depth
        ⟨offset, .char '\x7b' :: (codes (writtenFields fields) ++ .char '\x7d' :: rest)⟩ =
      .ok (object (Fields.putAll [] fields),
        ⟨offset + 1 + (writtenFields fields).length + 1, rest⟩) := by
  obtain ⟨tail, begins⟩ := writtenFields_head some_field
  have opened : (Cursor.drop ⟨offset, .char '\x7b' :: (codes (writtenFields fields) ++
      CodePoint.char '\x7d' :: rest)⟩ 1).skipSpaces =
        ⟨offset + 1, codes (writtenFields fields) ++ CodePoint.char '\x7d' :: rest⟩ :=
    skipSpaces_writtenFields some_field
  rw [← readFields_written some_field scalars plain enough, readValue.eq_def]
  dsimp only
  rw [opened, deep, begins]
  rfl

/-- An object of texts and whole numbers, written and read: each of its fields set in turn. -/
theorem parse_print_object (some_field : fields ≠ []) (scalars : ∀ field ∈ fields, Scalar field.2)
    (plain : reading.keepsNumbers = false) (deep : reading.allowsDepth 1 = true) :
    parse ((object fields).print .compact) reading = .ok (object (Fields.putAll [] fields)) := by
  have text : Text.CodePoints.ofText ((object fields).print .compact) =
      .char '\x7b' :: (codes (writtenFields fields) ++ [.char '\x7d']) := by
    change codes (written (object fields)) = _
    rw [written_object scalars]
    simp [codes]
  have enough : (writtenFields fields).length ≤
      2 * (CodePoint.char '\x7b' :: (codes (writtenFields fields) ++ [.char '\x7d'])).length +
        1 := by
    rw [List.length_cons, List.length_append, length_codes]
    omega
  rw [parse, text, parseCodes, Cursor.start, skipSpaces_of_solid (by decide),
    readValue_object some_field scalars plain deep enough]
  rfl

theorem parse_print_text (value : String) :
    parse ((text value).print .compact) reading = .ok (text value) := by
  have quoted : Text.CodePoints.ofText ((text value).print .compact) =
      codes (quotedString value).toList ++ [] :=
    (List.append_nil _).symm
  have opens : (quotedString value).toList = '"' :: _ := toList_quotedString value
  have start : Cursor.skipSpaces (.start (codes (quotedString value).toList ++ [])) =
      ⟨0, codes (quotedString value).toList ++ []⟩ := by
    rw [opens]
    exact skipSpaces_of_solid (by decide)
  have enough : (quotedString value).toList.length ≤
      2 * (codes (quotedString value).toList ++ []).length + 1 + 1 := by
    rw [List.append_nil, length_codes]
    omega
  rw [parse, quoted, parseCodes, start, readValue_text enough]
  rfl

end Json

namespace Fields

variable {before fields : Fields} {key : String} {value : Json}

theorem put_of_not_mem (fresh : key ∉ fields.map (·.1)) :
    fields.put key value = fields ++ [(key, value)] := by
  induction fields with
  | nil => rfl
  | cons field rest induction =>
    rw [List.map_cons, List.mem_cons, not_or] at fresh
    rw [put, if_neg (Ne.symm fresh.1), induction fresh.2]
    rfl

theorem putAll_append (distinct : ((before ++ fields).map (·.1)).Nodup) :
    putAll before fields = before ++ fields := by
  induction fields generalizing before with
  | nil => exact (List.append_nil _).symm
  | cons field rest induction =>
    obtain ⟨key, value⟩ := field
    have fresh : key ∉ before.map (·.1) := by
      rw [List.map_append, List.map_cons] at distinct
      exact fun member => (List.nodup_append.mp distinct).2.2 key member key List.mem_cons_self rfl
    change putAll (before.put key value) rest = _
    rw [List.append_cons] at distinct ⊢
    rw [put_of_not_mem fresh, induction distinct]

end Fields

end OrderDesk
