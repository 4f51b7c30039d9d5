import OrderDesk.Proofs.Text.Blank
import OrderDesk.Settings

/-!
Upper case and trimming agree with each other: blanks have no case, and what is in upper case stays
as it is. So a currency code in its form is left alone when it is brought into its form once more.
-/

namespace OrderDesk

namespace Text

/-! ## Blanks -/

def blankCodes : List Nat :=
  [0x9, 0xa, 0xb, 0xc, 0xd, 0x1c, 0x1d, 0x1e, 0x1f, 0x20, 0x85, 0xa0, 0x1680, 0x2000, 0x2001,
    0x2002, 0x2003, 0x2004, 0x2005, 0x2006, 0x2007, 0x2008, 0x2009, 0x200a, 0x2028, 0x2029, 0x202f,
    0x205f, 0x3000]

theorem mem_blankCodes {character : Char} (blank : isBlank character = true) :
    character.toNat ∈ blankCodes := by
  change character.val.toNat ∈ blankCodes
  simp only [isBlank, Bool.or_eq_true, Bool.and_eq_true, decide_eq_true_eq, beq_iff_eq,
    UInt32.le_iff_toNat_le, ← UInt32.toNat_inj, UInt32.reduceToNat] at blank
  simp only [blankCodes, List.mem_cons, List.not_mem_nil, or_false]
  omega

theorem upperChar_blank : ∀ code ∈ blankCodes,
    upperChar (Char.ofNat code) = [Char.ofNat code] := by
  decide +kernel

/-! ## Runs -/

namespace CaseRun

def low (run : CaseRun) : Nat := (run.first + run.shift).toNat
def high (run : CaseRun) : Nat := (run.last + run.shift).toNat

def reaches (run : CaseRun) (code : Nat) : Bool :=
  run.low.ble code && code.ble run.high && (code - run.low) % run.step == 0

/-- Another run leaves alone what a run leads to. Most runs are far apart. -/
def clears (run other : CaseRun) : Bool :=
  run.high.blt other.first || other.last.blt run.low ||
    (List.range (run.high - run.low + 1)).all fun offset =>
      offset % run.step != 0 || !other.covers (run.low + offset)

def IsSound (run : CaseRun) : Prop :=
  0 ≤ run.first + run.shift ∧ (run.high < 0xd800 ∨ 0xdfff < run.low ∧ run.high < 0x110000)

instance (run : CaseRun) : Decidable run.IsSound :=
  inferInstanceAs (Decidable (_ ∧ _))

def StaysBeyond (run : CaseRun) (letters : List Nat) : Prop :=
  0x80 ≤ run.low ∨ run.low = run.high ∧ run.low ∈ letters

instance (run : CaseRun) (letters : List Nat) : Decidable (run.StaysBeyond letters) :=
  inferInstanceAs (Decidable (_ ∨ _))

variable {run other : CaseRun} {code : Nat}

theorem reaches_of_covers (sound : run.IsSound) (covers : run.covers code = true) :
    run.reaches (code + run.shift).toNat = true := by
  have above := sound.1
  simp only [CaseRun.covers, Bool.and_eq_true, decide_eq_true_eq] at covers
  rcases covers with ⟨⟨least, most⟩, stepped⟩
  have same : (code + run.shift).toNat - run.low = code - run.first := by
    rw [low]
    omega
  have lowest : run.low ≤ (code + run.shift).toNat := by
    rw [low]
    omega
  have highest : (code + run.shift).toNat ≤ run.high := by
    rw [high]
    omega
  simp only [reaches, same, stepped, Nat.ble_eq.mpr lowest, Nat.ble_eq.mpr highest, Bool.and_self]

theorem covers_of_clears (clears : run.clears other = true) (reached : run.reaches code = true) :
    other.covers code = false := by
  simp only [reaches, Bool.and_eq_true, Nat.ble_eq, beq_iff_eq] at reached
  rcases reached with ⟨⟨lowest, highest⟩, stepped⟩
  rw [Bool.eq_false_iff]
  intro covers
  have within : other.first ≤ code ∧ code ≤ other.last := by
    simp only [CaseRun.covers, Bool.and_eq_true, decide_eq_true_eq] at covers
    exact covers.1
  simp only [CaseRun.clears, Bool.or_eq_true, Nat.blt_eq, List.all_eq_true, List.mem_range,
    bne_iff_ne, Bool.not_eq_true'] at clears
  rcases clears with (below | above) | clears
  · omega
  · omega
  · have uncovered := (clears (code - run.low) (by omega)).resolve_left (absurd stepped)
    rw [Nat.add_sub_cancel' lowest, covers] at uncovered
    cases uncovered

theorem within_of_reaches (reached : run.reaches code = true) :
    run.low ≤ code ∧ code ≤ run.high := by
  simp only [reaches, Bool.and_eq_true, Nat.ble_eq] at reached
  exact reached.1

theorem toNat_ofNat_of_reaches (sound : run.IsSound) (reached : run.reaches code = true) :
    (Char.ofNat code).toNat = code := by
  have valid := sound.2
  have within := within_of_reaches reached
  have isChar : code.isValidChar := by
    rw [Nat.isValidChar]
    omega
  rw [Char.ofNat, dif_pos isChar]
  rfl

end CaseRun

theorem upperCaseRuns_sound : ∀ run ∈ upperCaseRuns, run.IsSound := by
  decide +kernel

theorem upperCaseRuns_ascii : ∀ run ∈ upperCaseRuns, run.StaysBeyond [0x49, 0x53] := by
  decide +kernel

theorem upperCaseRuns_clear :
    (upperCaseRuns.all fun run => upperCaseRuns.all run.clears) = true := by
  decide +kernel

theorem upperCaseRuns_miss_long :
    (upperCaseRuns.all fun run => longUpperCases.all fun entry => !run.reaches entry.1) = true := by
  decide +kernel

theorem upperCaseRuns_miss_blanks :
    (upperCaseRuns.all fun run => blankCodes.all fun code => !run.reaches code) = true := by
  decide +kernel

/-! ## Upper case once more -/

def Settled (character : Char) : Prop :=
  upperChar character = [character] ∧ isBlank character = false

instance (character : Char) : Decidable (Settled character) :=
  inferInstanceAs (Decidable (_ ∧ _))

theorem toUpper_settled : ∀ code < 0x80, isBlank (Char.ofNat code) = false →
    Settled (Char.ofNat code).toUpper := by
  decide +kernel

theorem longUpperCases_settled : ∀ entry ∈ longUpperCases,
    entry.2 ≠ [] ∧ ∀ code ∈ entry.2, Settled (Char.ofNat code) := by
  decide +kernel

theorem settled_of_reached {run : CaseRun} (member : run ∈ upperCaseRuns) {code : Nat}
    (reached : run.reaches code = true) : Settled (Char.ofNat code) := by
  have within := CaseRun.within_of_reaches reached
  have code_eq := CaseRun.toNat_ofNat_of_reaches (upperCaseRuns_sound run member) reached
  rcases upperCaseRuns_ascii run member with beyond | ⟨only, letter⟩
  · constructor
    · have short : longUpperCases.find? (·.1 == (Char.ofNat code).toNat) = none := by
        have missed := List.all_eq_true.mp (List.all_eq_true.mp upperCaseRuns_miss_long run member)
        refine List.find?_eq_none.mpr fun entry long same => ?_
        have unreached := missed entry long
        rw [beq_iff_eq.mp same, code_eq, reached] at unreached
        cases unreached
      have kept : upperCaseRuns.find? (·.covers (Char.ofNat code).toNat) = none := by
        have clear := List.all_eq_true.mp (List.all_eq_true.mp upperCaseRuns_clear run member)
        refine List.find?_eq_none.mpr fun other present => ?_
        rw [code_eq, CaseRun.covers_of_clears (clear other present) reached]
        exact Bool.false_ne_true
      have high : ¬(Char.ofNat code).toNat < 0x80 := by omega
      rw [upperChar, if_neg high, short]
      dsimp only
      rw [shiftCase, kept]
    · have missed := List.all_eq_true.mp (List.all_eq_true.mp upperCaseRuns_miss_blanks run member)
      rw [Bool.eq_false_iff]
      intro blank
      have unreached := missed _ (mem_blankCodes blank)
      rw [code_eq, reached] at unreached
      cases unreached
  · have same : code = run.low := by omega
    have letters : ∀ code ∈ [0x49, 0x53], Settled (Char.ofNat code) := by decide
    rw [same]
    exact letters run.low letter

/-- Blanks have no case; all else becomes something that is in upper case. -/
theorem upperChar_cases (character : Char) :
    upperChar character = [character] ∨ isBlank character = false ∧ upperChar character ≠ [] ∧
      ∀ upper ∈ upperChar character, Settled upper := by
  cases blank : isBlank character with
  | true =>
    have fixed := upperChar_blank character.toNat (mem_blankCodes blank)
    rw [Char.ofNat_toNat] at fixed
    exact .inl fixed
  | false =>
    have of_singleton {upper : Char} (settled : Settled upper) :
        [upper] ≠ [] ∧ ∀ other ∈ [upper], Settled other := by
      simpa using settled
    rw [upperChar]
    split
    · next ascii =>
      have settled := toUpper_settled character.toNat ascii
      rw [Char.ofNat_toNat] at settled
      exact .inr ⟨rfl, of_singleton (settled blank)⟩
    · split
      · next entry codes found =>
        rcases longUpperCases_settled _ (List.mem_of_find?_eq_some found) with ⟨some, settled⟩
        refine .inr ⟨rfl, ?_, ?_⟩
        · simpa using some
        · simpa using settled
      · rw [shiftCase]
        cases found : upperCaseRuns.find? (·.covers character.toNat) with
        | none => exact .inl rfl
        | some run =>
          have member := List.mem_of_find?_eq_some found
          have covers : run.covers character.toNat = true := by
            simpa using List.find?_some found
          have reached := CaseRun.reaches_of_covers (upperCaseRuns_sound run member) covers
          exact .inr ⟨rfl, of_singleton (settled_of_reached member reached)⟩

theorem upperChar_upperChar {character upper : Char} (member : upper ∈ upperChar character) :
    upperChar upper = [upper] := by
  rcases upperChar_cases character with fixed | ⟨-, -, settled⟩
  · rw [fixed, List.mem_singleton] at member
    rw [member, fixed]
  · exact (settled upper member).1

theorem isBlank_upperChar {character upper : Char} (member : upper ∈ upperChar character) :
    isBlank upper = isBlank character := by
  rcases upperChar_cases character with fixed | ⟨unblank, -, settled⟩
  · rw [fixed, List.mem_singleton] at member
    rw [member]
  · rw [(settled upper member).2, unblank]

theorem upperChar_ne_nil (character : Char) : upperChar character ≠ [] := by
  rcases upperChar_cases character with fixed | ⟨-, some, -⟩
  · rw [fixed]
    exact List.cons_ne_nil _ _
  · exact some

theorem upper_upper (text : String) : upper (upper text) = upper text := by
  rw [upper, upper, String.toList_ofList, List.flatMap_assoc]
  refine congrArg String.ofList (List.flatMap_congr fun character _ => ?_)
  calc (upperChar character).flatMap upperChar
    _ = (upperChar character).flatMap fun upper => [upper] :=
        List.flatMap_congr fun _ member => upperChar_upperChar member
    _ = upperChar character := List.flatMap_singleton' _

example : upper "straße" = "STRASSE" ∧ upper "STRASSE" = "STRASSE" := by decide +kernel

/-! ## Trimming -/

theorem dropBlanks_flatMap {form : Char → List Char} (some : ∀ character, form character ≠ [])
    (same : ∀ character, ∀ formed ∈ form character, isBlank formed = isBlank character)
    (characters : List Char) :
    dropBlanks (characters.flatMap form) = (dropBlanks characters).flatMap form := by
  induction characters with
  | nil => rfl
  | cons first rest induction =>
    rw [List.flatMap_cons, dropBlanks, dropBlanks, List.dropWhile_cons]
    split
    · next blank =>
      rw [List.dropWhile_append_of_pos fun formed member => (same first formed member).trans blank]
      exact induction
    · next unblank =>
      rcases List.exists_cons_of_ne_nil (some first) with ⟨head, tail, formed⟩
      have headUnblank : isBlank head = false := by
        rw [same first head (formed ▸ List.mem_cons_self ..)]
        simpa using unblank
      rw [List.flatMap_cons, formed, List.cons_append, List.dropWhile_cons, headUnblank]
      rfl

theorem dropTrailingBlanks_flatMap_upperChar (characters : List Char) :
    dropTrailingBlanks (characters.flatMap upperChar) =
      (dropTrailingBlanks characters).flatMap upperChar := by
  have some (character : Char) : (List.reverse ∘ upperChar) character ≠ [] := by
    simp [upperChar_ne_nil]
  have same (character formed : Char) (member : formed ∈ (List.reverse ∘ upperChar) character) :
      isBlank formed = isBlank character :=
    isBlank_upperChar (List.mem_reverse.mp member)
  have twice : List.reverse ∘ List.reverse ∘ upperChar = upperChar := by
    funext character
    exact List.reverse_reverse _
  rw [dropTrailingBlanks, List.reverse_flatMap, dropBlanks_flatMap some same, List.reverse_flatMap,
    twice, dropTrailingBlanks]

theorem trim_upper (text : String) : trim (upper text) = upper (trim text) := by
  rw [trim, upper, upper, trim, String.toList_ofList, String.toList_ofList, trimChars, trimChars,
    dropBlanks_flatMap upperChar_ne_nil fun _ _ => isBlank_upperChar,
    dropTrailingBlanks_flatMap_upperChar]

/-! ## Currency codes -/

/-- A currency code in the form in which codes are compared. -/
structure IsCode (text : String) : Prop where
  nonempty : text ≠ ""
  formed : currencyCode (some text) = text

instance (text : String) : Decidable (IsCode text) :=
  decidable_of_iff (text ≠ "" ∧ currencyCode (some text) = text)
    ⟨fun code => ⟨code.1, code.2⟩, fun code => ⟨code.nonempty, code.formed⟩⟩

theorem currencyCode_currencyCode (text : Option String) :
    currencyCode (some (currencyCode text)) = currencyCode text := by
  change upper (trim (upper (trim (text.getD "")))) = upper (trim (text.getD ""))
  rw [trim_upper, trim_trim, upper_upper]

theorem isCode_currencyCode {text : Option String} (some : currencyCode text ≠ "") :
    IsCode (currencyCode text) :=
  ⟨some, currencyCode_currencyCode text⟩

theorem isCode_orElse {text : Option String} {second : String} (code : IsCode second) :
    IsCode (orElse (currencyCode text) second) := by
  rw [orElse]
  split
  · exact code
  · next some => exact isCode_currencyCode some

end Text

theorem Settings.isCode_walletCurrency (settings : Settings) :
    Text.IsCode settings.walletCurrency :=
  Text.isCode_orElse (by decide +kernel)

end OrderDesk
