import Mathlib.Data.List.DropRight
import OrderDesk.Proofs.Text.Blank
import OrderDesk.Proofs.Text.Integer
import OrderDesk.Proofs.Text.Parts
import OrderDesk.Webhook.Verifier

/-! What a signature header says: the last time that it names, and every signature. -/

namespace OrderDesk.Webhook

def partsOf (text : String) : List (List Char) :=
  (text.toList.splitOn ',').map Text.trimChars

def Dates (part : List Char) (timestamp : Int) : Prop :=
  ∃ number, part = 't' :: '=' :: number ∧
    Text.readInteger (String.ofList number) = .ok timestamp

def Signs (part : List Char) (value : String) : Prop :=
  part = 'v' :: '1' :: '=' :: value.toList

/-- The last of some parts that names a time names this one. -/
def LastDated (parts : List (List Char)) (timestamp : Int) : Prop :=
  ∃ early part late, parts = early ++ part :: late ∧ Dates part timestamp ∧
    ∀ other ∈ late, ∀ time, ¬Dates other time

variable {part : List Char} {parts : List (List Char)} {header : SignatureHeader}
  {timestamp : Int} {value : String}

theorem split_concat {early late : List (List Char)} {dated : List Char}
    (split : parts ++ [part] = early ++ dated :: late) :
    late = [] ∧ part = dated ∨ ∃ front, late = front ++ [part] ∧ parts = early ++ dated :: front := by
  rcases List.eq_nil_or_concat' late with rfl | ⟨front, final, rfl⟩
  · have same := List.append_inj_right' split rfl
    rw [List.cons.injEq] at same
    exact Or.inl ⟨rfl, same.1⟩
  · rw [← List.cons_append, ← List.append_assoc] at split
    have same := List.append_inj_right' split rfl
    rw [List.cons.injEq] at same
    exact Or.inr ⟨front, by rw [same.1], List.append_inj_left' split rfl⟩

theorem not_lastDated_nil : ¬LastDated [] timestamp := by
  rintro ⟨early, part, late, split, -⟩
  exact List.cons_ne_nil _ _ (List.append_eq_nil_iff.mp split.symm).2

theorem lastDated_concat_of_dates (dates : Dates part timestamp) :
    LastDated (parts ++ [part]) timestamp :=
  ⟨parts, part, [], rfl, dates, fun _ member => absurd member List.not_mem_nil⟩

theorem Dates.eq {other : Int} (dates : Dates part timestamp) (also : Dates part other) :
    timestamp = other := by
  rcases dates with ⟨number, reads, isTime⟩
  rcases also with ⟨again, rereads, isOther⟩
  rw [reads, List.cons.injEq, List.cons.injEq] at rereads
  rw [rereads.2.2, isOther] at isTime
  exact (Except.ok.inj isTime).symm

theorem LastDated.eq_of_dates {time : Int} (last : LastDated (parts ++ [part]) timestamp)
    (dates : Dates part time) : timestamp = time := by
  rcases last with ⟨early, dated, late, split, named, others⟩
  rcases split_concat split with ⟨-, rfl⟩ | ⟨front, rfl, -⟩
  · exact named.eq dates
  · exact absurd dates (others part (by simp) time)

theorem lastDated_concat_of_undated (undated : ∀ time, ¬Dates part time) :
    LastDated (parts ++ [part]) timestamp ↔ LastDated parts timestamp := by
  constructor
  · rintro ⟨early, dated, late, split, named, others⟩
    rcases split_concat split with ⟨-, rfl⟩ | ⟨front, rfl, rest⟩
    · exact absurd named (undated timestamp)
    · exact ⟨early, dated, front, rest, named, fun other member =>
        others other (List.mem_append_left _ member)⟩
  · rintro ⟨early, dated, late, rfl, named, others⟩
    refine ⟨early, dated, late ++ [part], by simp, named, fun other member => ?_⟩
    rcases List.mem_append.mp member with inside | final
    · exact others other inside
    · rw [List.mem_singleton.mp final]
      exact undated

namespace SignatureHeader

theorem splitField?_time (content : List Char) :
    splitField? ('t' :: '=' :: content) = some ("t", String.ofList content) := rfl

theorem splitField?_signature (content : List Char) :
    splitField? ('v' :: '1' :: '=' :: content) = some ("v1", String.ofList content) := rfl

theorem eq_of_splitField? {name content : String}
    (found : splitField? part = some (name, content)) :
    part = name.toList ++ '=' :: content.toList := by
  rw [splitField?] at found
  split at found
  · next mark after rest =>
    have marked : mark = '=' := by
      have stopped := List.head_dropWhile_not (· != '=') (by rw [rest]; simp)
      simpa [rest] using stopped
    rw [Option.some.injEq, Prod.mk.injEq] at found
    rw [marked] at rest
    rw [← found.1, ← found.2, String.toList_ofList, String.toList_ofList, ← rest,
      List.takeWhile_append_dropWhile]
  · exact nomatch found

theorem addPart_of_dates (dates : Dates (Text.trimChars part) timestamp) :
    addPart header part = { header with timestamp } := by
  rcases dates with ⟨number, reads, isTime⟩
  rw [addPart, reads, splitField?_time]
  simp only [isTime]

theorem timestamp_addPart_of_undated (undated : ∀ time, ¬Dates (Text.trimChars part) time) :
    (addPart header part).timestamp = header.timestamp := by
  rw [addPart]
  split
  · next content found =>
    split
    · next time reads =>
      have named := eq_of_splitField? found
      exact absurd ⟨content.toList, named, by rw [String.ofList_toList]; exact reads⟩
        (undated time)
    · rfl
  · rfl
  · rfl

theorem mem_signatures_addPart :
    value ∈ (addPart header part).signatures ↔
      value ∈ header.signatures ∨ Signs (Text.trimChars part) value := by
  rw [addPart, Signs]
  split
  · next content found =>
    have named := eq_of_splitField? found
    rw [named]
    split <;> simp
  · next content found =>
    have named := eq_of_splitField? found
    rw [named]
    simp [String.toList_inj, eq_comm]
  · next other =>
    refine ⟨Or.inl, fun either => either.resolve_right fun signs => ?_⟩
    exact other value (by rw [signs, splitField?_signature, String.ofList_toList])

theorem timestamp_foldl (some_time : timestamp ≠ 0) :
    (parts.foldl addPart ⟨0, []⟩).timestamp = timestamp ↔
      LastDated (parts.map Text.trimChars) timestamp := by
  induction parts using List.reverseRecOn with
  | nil => exact iff_of_false some_time.symm not_lastDated_nil
  | append_singleton front part induction =>
    rw [List.foldl_append, List.foldl_cons, List.foldl_nil, List.map_append, List.map_singleton]
    by_cases dated : ∃ time, Dates (Text.trimChars part) time
    · rcases dated with ⟨time, dates⟩
      rw [addPart_of_dates dates]
      constructor
      · rintro rfl
        exact lastDated_concat_of_dates dates
      · exact fun last => (last.eq_of_dates dates).symm
    · have undated := not_exists.mp dated
      rw [timestamp_addPart_of_undated undated, lastDated_concat_of_undated undated]
      exact induction

theorem mem_signatures_foldl :
    value ∈ (parts.foldl addPart ⟨0, []⟩).signatures ↔
      ∃ part ∈ parts.map Text.trimChars, Signs part value := by
  induction parts using List.reverseRecOn with
  | nil => simp
  | append_singleton front part induction =>
    rw [List.foldl_append, List.foldl_cons, List.foldl_nil, mem_signatures_addPart, induction]
    simp [or_and_right, exists_or]

/-- A header is read if it names a time other than zero and some signature. -/
theorem parse_eq_ok {text : String} {found : SignatureHeader} : parse text = .ok found ↔
    found = (text.toList.splitOn ',').foldl addPart ⟨0, []⟩ ∧ found.timestamp ≠ 0 ∧
      found.signatures ≠ [] := by
  rw [parse]
  split
  · next refused =>
    refine iff_of_false (fun equal => nomatch equal) ?_
    rintro ⟨rfl, some_time, some_value⟩
    exact refused.elim some_time fun none => some_value (List.isEmpty_iff.mp none)
  · next accepted =>
    rw [not_or, List.isEmpty_iff] at accepted
    rw [Except.ok.injEq]
    exact ⟨fun equal => equal ▸ ⟨rfl, accepted⟩, fun reads => reads.1.symm⟩

end SignatureHeader

theorem ne_empty_of_signs {text : String} (member : part ∈ partsOf text)
    (signs : Signs part value) : text ≠ "" := by
  rintro rfl
  change part ∈ [[]] at member
  rw [List.mem_singleton.mp member] at signs
  exact nomatch signs

theorem partsOf_trim (text : String) : partsOf (Text.trim text) = partsOf text := by
  rw [partsOf, Text.trim, String.toList_ofList, Text.map_trimChars_splitOn_trimChars (by decide),
    partsOf]

theorem partsOf_intercalate {texts : List String} (some_text : texts ≠ [])
    (whole : ∀ text ∈ texts, ',' ∉ text.toList) :
    partsOf (String.intercalate "," texts) = (texts.map Text.trim).map String.toList := by
  have split : (String.intercalate "," texts).toList.splitOn ',' = texts.map String.toList := by
    rw [String.toList_intercalate]
    refine List.splitOn_intercalate ',' ?_ (by simpa using some_text)
    intro part member
    rcases List.mem_map.mp member with ⟨text, inside, rfl⟩
    exact whole text inside
  rw [partsOf, split, List.map_map, List.map_map]
  refine List.map_congr_left fun text _ => ?_
  rw [Function.comp_apply, Function.comp_apply, Text.trim, String.toList_ofList]

theorem lastDated_of_perm {others : List (List Char)} (same : parts.Perm (part :: others))
    (dates : Dates part timestamp) (undated : ∀ other ∈ others, ∀ time, ¬Dates other time) :
    LastDated parts timestamp := by
  rcases List.append_of_mem (same.mem_iff.mpr List.mem_cons_self) with ⟨early, late, rfl⟩
  refine ⟨early, part, late, rfl, dates, fun other member => undated other ?_⟩
  have rest : (early ++ late).Perm others := (List.perm_middle.symm.trans same).cons_inv
  exact rest.mem_iff.mp (List.mem_append_right _ member)

theorem named_of_perm {texts others : List String} (whole : ∀ text ∈ texts, ',' ∉ text.toList)
    (same : (texts.map Text.trim).Perm (("t=" ++ toString timestamp) :: ("v1=" ++ value) :: others))
    (untimed : ∀ other ∈ others, ¬"t=".toList <+: other.toList)
    (short : (Nat.toDigits 10 timestamp.natAbs).length ≤ Text.maxIntegerDigits) :
    LastDated (partsOf (String.intercalate "," texts)) timestamp ∧
      ∃ part ∈ partsOf (String.intercalate "," texts), Signs part value := by
  have some_text : texts ≠ [] := by
    rintro rfl
    exact absurd same.length_eq (by simp)
  have dates : Dates ("t=" ++ toString timestamp).toList timestamp :=
    ⟨(toString timestamp).toList, String.toList_append, by
      rw [String.ofList_toList]
      exact Text.readInteger_toString timestamp short⟩
  have undated {text : String} (other : ¬"t=".toList <+: text.toList) (time : Int) :
      ¬Dates text.toList time := by
    rintro ⟨number, reads, -⟩
    exact other ⟨number, by rw [reads]; rfl⟩
  rw [partsOf_intercalate some_text whole]
  constructor
  · refine lastDated_of_perm (same.map String.toList) dates fun part member time => ?_
    rcases List.mem_map.mp member with ⟨text, inside, rfl⟩
    rcases List.mem_cons.mp inside with rfl | inside
    · refine undated (fun front => ?_) time
      rw [String.toList_append] at front
      exact absurd (List.cons_prefix_cons.mp front).1 (by decide)
    · exact undated (untimed text inside) time
  · have signed := same.mem_iff.mpr (List.mem_cons_of_mem _ List.mem_cons_self)
    exact ⟨_, List.mem_map_of_mem signed, String.toList_append⟩

theorem mem_hex {bytes : Bytes} {character : Char} (member : character ∈ (Bytes.hex bytes).toList) :
    ∃ digit < 16, character = Nat.digitChar digit := by
  rw [Bytes.hex, String.toList_ofList] at member
  rcases List.mem_flatMap.mp member with ⟨byte, -, member⟩
  rcases List.mem_map.mp member with ⟨place, -, rfl⟩
  exact ⟨_, Nat.mod_lt _ (by decide), rfl⟩

theorem unblank_hex (bytes : Bytes) : Text.Unblank (Bytes.hex bytes) := by
  intro character member
  rcases mem_hex member with ⟨digit, small, rfl⟩
  have digits : ∀ digit < 16, Text.isBlank (Nat.digitChar digit) = false := by decide
  exact digits digit small

end OrderDesk.Webhook
