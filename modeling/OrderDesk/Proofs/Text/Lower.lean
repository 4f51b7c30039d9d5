import OrderDesk.Proofs.Text.Case

/-!
Lower case and trimming. What is in lower case stays as it is, wherever it stands in a text, and
blanks have no case. So a word in the form in which words are compared is left alone when it is
brought into that form once more.
-/

namespace OrderDesk.Text

/-! ## Characters in lower case -/

/-- A character that lower case leaves alone, whatever stands around it. -/
def IsLower (character : Char) : Prop :=
  if character.toNat < 0x80 then character.toLower = character
  else character ≠ 'Σ' ∧ character ≠ 'İ' ∧ shiftCase lowerCaseRuns character = character

instance (character : Char) : Decidable (IsLower character) :=
  inferInstanceAs (Decidable (ite _ _ _))

theorem IsLower.lowerChar_eq {character : Char} (lower : IsLower character)
    (before after : List Char) : lowerChar before character after = [character] := by
  rw [IsLower] at lower
  rw [lowerChar]
  split at lower
  · next ascii => rw [if_pos ascii, lower]
  · next beyond => rw [if_neg beyond, if_neg lower.1, if_neg lower.2.1, lower.2.2]

theorem isLower_of_blank {character : Char} (blank : isBlank character = true) :
    IsLower character := by
  have blanks : ∀ code ∈ blankCodes, IsLower (Char.ofNat code) := by decide +kernel
  have lower := blanks character.toNat (mem_blankCodes blank)
  rwa [Char.ofNat_toNat] at lower

/-! ## What the runs lead to -/

theorem lowerCaseRuns_sound : ∀ run ∈ lowerCaseRuns, run.IsSound := by
  decide +kernel

theorem lowerCaseRuns_ascii : ∀ run ∈ lowerCaseRuns, run.StaysBeyond [0x6b] := by
  decide +kernel

theorem lowerCaseRuns_clear :
    (lowerCaseRuns.all fun run => lowerCaseRuns.all run.clears) = true := by
  decide +kernel

theorem lowerCaseRuns_miss :
    (lowerCaseRuns.all fun run =>
      ('Σ'.toNat :: 'İ'.toNat :: blankCodes).all fun code => !run.reaches code) = true := by
  decide +kernel

def Lowered (character : Char) : Prop :=
  IsLower character ∧ isBlank character = false

instance (character : Char) : Decidable (Lowered character) :=
  inferInstanceAs (Decidable (_ ∧ _))

theorem lowered_of_reached {run : CaseRun} (member : run ∈ lowerCaseRuns) {code : Nat}
    (reached : run.reaches code = true) : Lowered (Char.ofNat code) := by
  have within := CaseRun.within_of_reaches reached
  have code_eq := CaseRun.toNat_ofNat_of_reaches (lowerCaseRuns_sound run member) reached
  have missed {other : Char} (listed : other.toNat ∈ 'Σ'.toNat :: 'İ'.toNat :: blankCodes) :
      Char.ofNat code ≠ other := by
    rintro rfl
    have unreached := List.all_eq_true.mp (List.all_eq_true.mp lowerCaseRuns_miss run member) _
      listed
    rw [code_eq, reached] at unreached
    cases unreached
  rcases lowerCaseRuns_ascii run member with beyond | ⟨only, letter⟩
  · constructor
    · have kept : lowerCaseRuns.find? (·.covers (Char.ofNat code).toNat) = none := by
        have clear := List.all_eq_true.mp (List.all_eq_true.mp lowerCaseRuns_clear run member)
        refine List.find?_eq_none.mpr fun other present => ?_
        rw [code_eq, CaseRun.covers_of_clears (clear other present) reached]
        exact Bool.false_ne_true
      have high : ¬(Char.ofNat code).toNat < 0x80 := by omega
      rw [IsLower, if_neg high, shiftCase, kept]
      exact ⟨missed (by decide), missed (by decide), rfl⟩
    · rw [Bool.eq_false_iff]
      intro blank
      exact missed (List.mem_cons_of_mem _ (List.mem_cons_of_mem _ (mem_blankCodes blank))) rfl
  · have same : code = run.low := by omega
    have letters : ∀ code ∈ [0x6b], Lowered (Char.ofNat code) := by decide +kernel
    rw [same]
    exact letters run.low letter

theorem toLower_lowered : ∀ code < 0x80, isBlank (Char.ofNat code) = false →
    Lowered (Char.ofNat code).toLower := by
  decide +kernel

theorem sigma_lowered : Lowered 'σ' ∧ Lowered 'ς' :=
  ⟨by decide +kernel, by decide +kernel⟩

theorem dotted_lowered : Lowered 'i' ∧ Lowered '\u0307' :=
  ⟨by decide +kernel, by decide +kernel⟩

theorem lowerChar_cases (before : List Char) (character : Char) (after : List Char) :
    (IsLower character ∧ lowerChar before character after = [character]) ∨
      (isBlank character = false ∧ lowerChar before character after ≠ [] ∧
        ∀ lower ∈ lowerChar before character after, Lowered lower) := by
  cases blank : isBlank character with
  | true => exact .inl ⟨isLower_of_blank blank, (isLower_of_blank blank).lowerChar_eq _ _⟩
  | false =>
    have of_singleton {lower : Char} (lowered : Lowered lower) :
        [lower] ≠ [] ∧ ∀ other ∈ [lower], Lowered other := by
      simpa using lowered
    rw [lowerChar]
    split
    · next ascii =>
      have lowered := toLower_lowered character.toNat ascii
      rw [Char.ofNat_toNat] at lowered
      exact .inr ⟨rfl, of_singleton (lowered blank)⟩
    · next beyond =>
      split
      · refine .inr ⟨rfl, of_singleton ?_⟩
        split
        · exact sigma_lowered.2
        · exact sigma_lowered.1
      · next other =>
        split
        · refine .inr ⟨rfl, List.cons_ne_nil _ _, ?_⟩
          simpa using dotted_lowered
        · next another =>
          cases found : lowerCaseRuns.find? (·.covers character.toNat) with
          | none =>
            have fixed : shiftCase lowerCaseRuns character = character := by
              rw [shiftCase, found]
            rw [fixed, IsLower, if_neg beyond]
            exact .inl ⟨⟨other, another, fixed⟩, rfl⟩
          | some run =>
            have member := List.mem_of_find?_eq_some found
            have covers : run.covers character.toNat = true := by
              simpa using List.find?_some found
            have reached := CaseRun.reaches_of_covers (lowerCaseRuns_sound run member) covers
            rw [shiftCase, found]
            exact .inr ⟨rfl, of_singleton (lowered_of_reached member reached)⟩

theorem isLower_of_mem_lowerChar {before after : List Char} {character lower : Char}
    (member : lower ∈ lowerChar before character after) : IsLower lower := by
  rcases lowerChar_cases before character after with ⟨own, fixed⟩ | ⟨-, -, lowered⟩
  · rw [fixed, List.mem_singleton] at member
    rwa [member]
  · exact (lowered lower member).1

/-! ## Texts in lower case -/

theorem isLower_of_mem_lowerChars {before characters : List Char} {lower : Char}
    (member : lower ∈ lowerChars before characters) : IsLower lower := by
  induction characters generalizing before with
  | nil => nomatch member
  | cons character after induction =>
    rcases List.mem_append.mp member with own | later
    · exact isLower_of_mem_lowerChar own
    · exact induction later

theorem lowerChars_eq_self {before characters : List Char}
    (lower : ∀ character ∈ characters, IsLower character) :
    lowerChars before characters = characters := by
  induction characters generalizing before with
  | nil => rfl
  | cons character after induction =>
    obtain ⟨own, later⟩ := List.forall_mem_cons.mp lower
    rw [lowerChars, own.lowerChar_eq, induction later, List.singleton_append]

theorem lower_lower (text : String) : lower (lower text) = lower text := by
  rw [lower, lower, String.toList_ofList]
  exact congrArg String.ofList (lowerChars_eq_self fun _ => isLower_of_mem_lowerChars)

/-! ## Words as they are compared -/

theorem isBlank_of_mem_lowerChar {before after : List Char} {character lower : Char}
    (member : lower ∈ lowerChar before character after) : isBlank lower = isBlank character := by
  rcases lowerChar_cases before character after with ⟨-, fixed⟩ | ⟨unblank, -, lowered⟩
  · rw [fixed, List.mem_singleton] at member
    rw [member]
  · rw [(lowered lower member).2, unblank]

theorem lowerChar_ne_nil {before after : List Char} {character : Char} :
    lowerChar before character after ≠ [] := by
  rcases lowerChar_cases before character after with ⟨-, fixed⟩ | ⟨-, some, -⟩
  · rw [fixed]
    exact List.cons_ne_nil _ _
  · exact some

theorem lowerChars_append_singleton (before front : List Char) (last : Char) :
    ∃ lowered, lowerChars before (front ++ [last]) =
      lowered ++ lowerChar (front.reverse ++ before) last [] := by
  induction front generalizing before with
  | nil => exact ⟨[], List.append_nil _⟩
  | cons first rest induction =>
    obtain ⟨lowered, ends⟩ := induction (first :: before)
    refine ⟨lowerChar before first (rest ++ [last]) ++ lowered, ?_⟩
    rw [List.cons_append, lowerChars, ends, List.append_assoc, List.reverse_cons,
      List.append_assoc, List.singleton_append]

theorem IsTrimmed.lowerChars {characters : List Char} (trimmed : IsTrimmed characters) :
    IsTrimmed (lowerChars [] characters) := by
  constructor
  · intro lower first
    cases characters with
    | nil => nomatch first
    | cons character after =>
      rw [Text.lowerChars, List.head?_append_of_ne_nil _ lowerChar_ne_nil] at first
      rw [isBlank_of_mem_lowerChar (List.mem_of_mem_head? first)]
      exact trimmed.1 character rfl
  · intro lower last
    rcases List.eq_nil_or_concat' characters with rfl | ⟨front, character, rfl⟩
    · nomatch last
    · obtain ⟨lowered, ends⟩ := lowerChars_append_singleton [] front character
      rw [ends, List.getLast?_append_of_ne_nil _ lowerChar_ne_nil] at last
      rw [isBlank_of_mem_lowerChar (List.mem_of_getLast? last)]
      exact trimmed.2 character List.getLast?_concat

theorem keyword_keyword (text : Option String) : keyword (some (keyword text)) = keyword text := by
  have trimmed : trim (lower (trim (text.getD ""))) = lower (trim (text.getD "")) := by
    rw [trim, lower, String.toList_ofList, trim, String.toList_ofList]
    exact congrArg String.ofList (isTrimmed_trimChars _).lowerChars.trimChars_eq
  change lower (trim (lower (trim (text.getD "")))) = lower (trim (text.getD ""))
  rw [trimmed, lower_lower]

end OrderDesk.Text
