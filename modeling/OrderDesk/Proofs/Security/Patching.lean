import OrderDesk.Gate.Basic
import OrderDesk.Proofs.Text.Lower

/-!
Patches of the security setting, field by field. What some patches come to is told by the last patch
that gives each field, and the gate reads a row made of patches no differently than it is shown.
-/

namespace OrderDesk

namespace SecurityPatch

/-- What the last of some patches to give a value has given, or a default if none has. -/
def lastGiven {Value : Type} (patches : List SecurityPatch) (given : SecurityPatch → Option Value)
    (default : Value) : Value :=
  (patches.filterMap given).getLast?.getD default

def namedAlgorithm? (patch : SecurityPatch) : Option String :=
  patch.algorithm.bind fun text => Text.nonEmpty? (Text.lower (Text.trim text))

theorem orElse_keyword (patch : SecurityPatch) (otherwise : String) :
    Text.orElse (Text.keyword patch.algorithm) otherwise =
      patch.namedAlgorithm?.getD otherwise := by
  rw [namedAlgorithm?]
  cases patch.algorithm with
  | none =>
    have blank : Text.keyword none = "" := by decide
    rw [blank, Text.orElse, if_pos rfl, Option.bind_none, Option.getD_none]
  | some text =>
    have word : Text.keyword (some text) = Text.lower (Text.trim text) := rfl
    rw [word, Option.bind_some, Text.orElse, Text.nonEmpty?]
    split <;> rfl

theorem namedAlgorithm?_eq_some {patch : SecurityPatch} {algorithm : String}
    (named : patch.namedAlgorithm? = some algorithm) :
    Text.keyword (some algorithm) = algorithm ∧ algorithm ≠ "" := by
  obtain ⟨text, -, named⟩ := Option.bind_eq_some_iff.mp named
  rw [Text.nonEmpty?] at named
  split at named
  · nomatch named
  · next filled =>
    obtain rfl := Option.some.inj named
    exact ⟨Text.keyword_keyword (some text), filled⟩

variable {Value : Type} {patches : List SecurityPatch} {given : SecurityPatch → Option Value}
  {default : Value}

theorem lastGiven_append {patch : SecurityPatch} :
    lastGiven (patches ++ [patch]) given default =
      (given patch).getD (lastGiven patches given default) := by
  rw [lastGiven, lastGiven, List.filterMap_append, List.filterMap_cons]
  cases given patch with
  | none => rw [List.filterMap_nil, List.append_nil, Option.getD_none]
  | some value =>
    rw [List.filterMap_nil, List.getLast?_append, List.getLast?_singleton, Option.some_or,
      Option.getD_some, Option.getD_some]

theorem lastGiven_induction (Kept : Value → Prop) (start : Kept default)
    (kept : ∀ patch value, given patch = some value → Kept value) :
    Kept (lastGiven patches given default) := by
  rw [lastGiven]
  cases found : (patches.filterMap given).getLast? with
  | none => exact start
  | some value =>
    obtain ⟨patch, -, gave⟩ := List.mem_filterMap.mp (List.mem_of_getLast? found)
    exact kept patch value gave

end SecurityPatch

namespace SecuritySetting

open SecurityPatch

/-- The row that some patches come to, each of them made at its time. -/
def folded (id : Int) (createdAt : Instant) (made : List (SecurityPatch × Instant)) :
    SecuritySetting :=
  let patches := made.map (·.1)
  { id
    enabled := lastGiven patches (·.enabled) false
    apiKey := lastGiven patches (·.apiKey.map Text.trim) ""
    apiSecret := lastGiven patches (·.apiSecret.map Text.trim) ""
    algorithm := lastGiven patches (·.namedAlgorithm?) "aes-gcm"
    nonceTtlSeconds := lastGiven patches (·.nonceTtlSeconds.map (max · 0)) 300
    createdAt
    updatedAt := (made.getLast?.map (·.2)).getD createdAt }

variable {id : Int} {createdAt now : Instant} {made : List (SecurityPatch × Instant)}

theorem patched_folded {patch : SecurityPatch} :
    (folded id createdAt made).patched patch now =
      folded id createdAt (made ++ [(patch, now)]) := by
  simp only [folded, patched, List.map_append, List.map_singleton, lastGiven_append,
    orElse_keyword, List.getLast?_append, List.getLast?_singleton, Option.some_or,
    Option.map_some, Option.getD_some]

/-! ## How a row is read -/

theorem effectiveNonceTtl_pos (seconds : Option Int) : 0 < effectiveNonceTtl seconds := by
  rw [effectiveNonceTtl]
  split
  · next positive => exact positive
  · decide

structure IsFormed (setting : SecuritySetting) : Prop where
  apiKey : Text.trim setting.apiKey = setting.apiKey
  apiSecret : Text.trim setting.apiSecret = setting.apiSecret
  algorithm : Text.keyword (some setting.algorithm) = setting.algorithm
  named : setting.algorithm ≠ ""

theorem isFormed_folded : (folded id createdAt made).IsFormed where
  apiKey := by
    refine lastGiven_induction (fun key => Text.trim key = key) (by decide) ?_
    rintro patch key gave
    obtain ⟨text, -, rfl⟩ := Option.map_eq_some_iff.mp gave
    exact Text.trim_trim text
  apiSecret := by
    refine lastGiven_induction (fun secret => Text.trim secret = secret) (by decide) ?_
    rintro patch secret gave
    obtain ⟨text, -, rfl⟩ := Option.map_eq_some_iff.mp gave
    exact Text.trim_trim text
  algorithm := by
    refine lastGiven_induction (fun algorithm => Text.keyword (some algorithm) = algorithm)
      (by decide +kernel) ?_
    exact fun patch algorithm named => (namedAlgorithm?_eq_some named).1
  named := by
    refine lastGiven_induction (fun algorithm => algorithm ≠ "") (by decide) ?_
    exact fun patch algorithm named => (namedAlgorithm?_eq_some named).2

theorem IsFormed.json_eq {setting : SecuritySetting} (formed : setting.IsFormed) :
    let gate := GateSetting.ofRow (some setting)
    setting.json = .object [
      ("id", .int setting.id), ("third_party_api_enabled", .bool gate.enabled),
      ("api_key", .text gate.apiKey), ("api_secret", .text gate.apiSecret),
      ("encryption_algorithm", .text gate.algorithm),
      ("nonce_ttl_seconds", .int gate.nonceTtlSeconds),
      ("created_at", .int setting.createdAt.unixSeconds),
      ("updated_at", .int setting.updatedAt.unixSeconds)] := by
  have shown : Text.orElse setting.algorithm defaultAlgorithm = setting.algorithm :=
    if_neg formed.named
  simp only [json, GateSetting.ofRow, shown, formed.apiKey, formed.apiSecret, formed.algorithm]

end SecuritySetting

end OrderDesk
