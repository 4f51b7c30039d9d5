import OrderDesk.Proofs.Text.Blank

/-! A text split at a mark. Blanks at the ends of the text end up around its first and last part. -/

namespace OrderDesk.Text

variable {mark blank : Char} {characters : List Char}

theorem trimChars_cons_of_blank (isBlank : isBlank blank = true) :
    trimChars (blank :: characters) = trimChars characters := by
  rw [trimChars, dropBlanks, List.dropWhile_cons_of_pos isBlank, trimChars, dropBlanks]

theorem trimChars_concat_of_blank (isBlank : isBlank blank = true) :
    trimChars (characters ++ [blank]) = trimChars characters := by
  have trailing : dropBlanks [blank] = [] := List.dropWhile_cons_of_pos isBlank
  rw [trimChars, trimChars, dropBlanks, List.dropWhile_append]
  split
  · next none =>
    change dropTrailingBlanks (dropBlanks [blank]) = dropTrailingBlanks (dropBlanks characters)
    rw [trailing, dropBlanks, List.isEmpty_iff.mp none]
  · exact List.rdropWhile_concat_pos _ _ _ isBlank

theorem splitOn_concat {last : Char} (other : last ≠ mark) : ∃ front part,
    characters.splitOn mark = front ++ [part] ∧
    (characters ++ [last]).splitOn mark = front ++ [part ++ [last]] := by
  induction characters with
  | nil =>
    refine ⟨[], [], rfl, ?_⟩
    rw [List.nil_append, List.splitOn_cons_eq_if_modifyHead, if_neg (by simpa using other)]
    rfl
  | cons first rest induction =>
    rcases induction with ⟨front, part, early, late⟩
    rw [List.cons_append, List.splitOn_cons_eq_if_modifyHead, List.splitOn_cons_eq_if_modifyHead,
      early, late]
    split
    · exact ⟨[] :: front, part, rfl, rfl⟩
    · cases front with
      | nil => exact ⟨[], first :: part, rfl, rfl⟩
      | cons head tail => exact ⟨(first :: head) :: tail, part, rfl, rfl⟩

theorem not_mem_of_mem_splitOn {part : List Char} (member : part ∈ characters.splitOn mark) :
    mark ∉ part := by
  induction characters generalizing part with
  | nil =>
    rw [List.splitOn_nil, List.mem_singleton] at member
    rw [member]
    exact List.not_mem_nil
  | cons first rest induction =>
    rw [List.splitOn_cons_eq_if_modifyHead] at member
    split at member
    · rcases List.mem_cons.mp member with rfl | inside
      · exact List.not_mem_nil
      · exact induction inside
    · next other =>
      cases parts : rest.splitOn mark with
      | nil => exact absurd parts (List.splitOn_ne_nil mark rest)
      | cons head tail =>
        rw [parts] at induction
        rw [parts, List.modifyHead_cons] at member
        rcases List.mem_cons.mp member with rfl | inside
        · rw [List.mem_cons, not_or]
          exact ⟨fun same => other (by simp [same]), induction List.mem_cons_self⟩
        · exact induction (List.mem_cons_of_mem head inside)

/-- Some parts are those of a text if they make it up and have no mark in them. -/
theorem splitOn_eq_iff {parts : List (List Char)} (some_part : parts ≠ []) :
    characters.splitOn mark = parts ↔
      characters = [mark].intercalate parts ∧ ∀ part ∈ parts, mark ∉ part := by
  constructor
  · rintro rfl
    exact ⟨(List.intercalate_splitOn mark).symm, fun _ => not_mem_of_mem_splitOn⟩
  · rintro ⟨rfl, whole⟩
    exact List.splitOn_intercalate mark whole some_part

theorem ne_of_isBlank (isMark : isBlank mark = false) (isBlank : isBlank blank = true) :
    blank ≠ mark := by
  rintro rfl
  rw [isMark] at isBlank
  exact Bool.false_ne_true isBlank

theorem map_trimChars_splitOn_cons (isMark : isBlank mark = false)
    (isBlank : isBlank blank = true) :
    ((blank :: characters).splitOn mark).map trimChars =
      (characters.splitOn mark).map trimChars := by
  rw [List.splitOn_cons_eq_if_modifyHead,
    if_neg (by simpa using ne_of_isBlank isMark isBlank)]
  cases characters.splitOn mark with
  | nil => rfl
  | cons part parts =>
    rw [List.modifyHead_cons, List.map_cons, List.map_cons, trimChars_cons_of_blank isBlank]

theorem map_trimChars_splitOn_concat (isMark : isBlank mark = false)
    (isBlank : isBlank blank = true) :
    ((characters ++ [blank]).splitOn mark).map trimChars =
      (characters.splitOn mark).map trimChars := by
  have other : blank ≠ mark := ne_of_isBlank isMark isBlank
  obtain ⟨front, part, early, late⟩ : ∃ front part, characters.splitOn mark = front ++ [part] ∧
      (characters ++ [blank]).splitOn mark = front ++ [part ++ [blank]] := splitOn_concat other
  rw [early, late, List.map_append, List.map_append, List.map_singleton, List.map_singleton,
    trimChars_concat_of_blank isBlank]

theorem map_trimChars_splitOn_dropBlanks (isMark : isBlank mark = false) :
    ((dropBlanks characters).splitOn mark).map trimChars =
      (characters.splitOn mark).map trimChars := by
  induction characters with
  | nil => rfl
  | cons first rest induction =>
    cases blank : isBlank first with
    | true =>
      rw [dropBlanks, List.dropWhile_cons_of_pos blank, map_trimChars_splitOn_cons isMark blank]
      exact induction
    | false =>
      rw [dropBlanks, List.dropWhile_cons_of_neg (by rw [blank]; exact Bool.false_ne_true)]

theorem map_trimChars_splitOn_dropTrailingBlanks (isMark : isBlank mark = false) :
    ((dropTrailingBlanks characters).splitOn mark).map trimChars =
      (characters.splitOn mark).map trimChars := by
  induction characters using List.reverseRecOn with
  | nil => rfl
  | append_singleton front last induction =>
    cases blank : isBlank last with
    | true =>
      have dropped : dropTrailingBlanks (front ++ [last]) = dropTrailingBlanks front :=
        List.rdropWhile_concat_pos _ _ _ blank
      rw [dropped, map_trimChars_splitOn_concat isMark blank]
      exact induction
    | false =>
      have kept : dropTrailingBlanks (front ++ [last]) = front ++ [last] :=
        List.rdropWhile_concat_neg _ _ _ (by rw [blank]; exact Bool.false_ne_true)
      rw [kept]

theorem map_trimChars_splitOn_trimChars (isMark : isBlank mark = false) :
    ((trimChars characters).splitOn mark).map trimChars =
      (characters.splitOn mark).map trimChars := by
  rw [trimChars, map_trimChars_splitOn_dropTrailingBlanks isMark,
    map_trimChars_splitOn_dropBlanks isMark]

end OrderDesk.Text
