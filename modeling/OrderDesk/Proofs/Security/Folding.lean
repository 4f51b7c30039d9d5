import OrderDesk.Proofs.Desk.History
import OrderDesk.Proofs.Gate.Clock
import OrderDesk.Proofs.Security.Patching

/-!
The security setting over a run. There is no row until a call succeeds and one row ever after, which
the patches that have succeeded tell field by field, and by which the gate goes.
-/

namespace OrderDesk

/-! ## Single pieces of work -/

namespace Security

variable {context : Context} {store after : Store} {row : Option SecuritySetting}
  {setting : SecuritySetting}

theorem opened_of_openSetting (held : store.securitySettings = row.toList)
    (done : openSetting context store = .ok (setting, after)) :
    Table.securitySettings ∉ store.dropped ∧ setting = row.getD (.initial context.now 1) ∧
      after = { store with securitySettings := [setting] } := by
  rw [openSetting, Work.bind_eq_ok] at done
  obtain ⟨found, _, looked, done⟩ := done
  obtain ⟨allowed, rfl, rfl⟩ := Work.securitySetting?_eq_ok.mp looked
  have present : Table.securitySettings ∉ store.dropped := by simpa using allowed.present
  have first : store.securitySetting? = row := by
    rw [Store.securitySetting?, held]
    cases row <;> rfl
  rw [first] at done
  refine ⟨present, ?_⟩
  cases row with
  | some kept =>
    obtain ⟨rfl, rfl⟩ := Work.pure_eq_ok.mp done
    refine ⟨rfl, ?_⟩
    rw [← Option.toList_some, ← held]
  | none =>
    dsimp only at done
    rw [Work.now_bind, Work.insertSecuritySetting_eq_ok, held] at done
    exact ⟨done.2.1, done.2.2⟩

theorem replace_patched {patch : SecurityPatch} {now : Instant} :
    Store.replace (·.id) (setting.patched patch now) [setting] = [setting.patched patch now] := by
  have same : setting.id = (setting.patched patch now).id := rfl
  rw [Store.replace, List.map_singleton, if_pos same]

theorem patched_of_patchSetting {patch : SecurityPatch} (held : store.securitySettings = row.toList)
    (done : patchSetting patch context store = .ok (setting, after)) :
    Table.securitySettings ∉ store.dropped ∧
      setting = (row.getD (.initial context.now 1)).patched patch context.now ∧
      after = { store with securitySettings := [setting] } := by
  rw [patchSetting, Work.bind_eq_ok] at done
  obtain ⟨opened, _, opening, done⟩ := done
  obtain ⟨present, rfl, rfl⟩ := opened_of_openSetting held opening
  rw [Work.now_bind, Work.bind_eq_ok] at done
  obtain ⟨_, _, saved, done⟩ := done
  obtain ⟨-, rfl⟩ := Work.saveSecuritySetting_eq_ok.mp saved
  obtain ⟨rfl, rfl⟩ := Work.pure_eq_ok.mp done
  exact ⟨present, rfl, congrArg (fun settings => { store with securitySettings := settings })
    replace_patched⟩

end Security

/-! ## Single calls -/

def Operation.onSetting : Operation → Bool
  | securitySetting | updateSecurity _ => true
  | _ => false

def Operation.patch? : Operation → Option SecurityPatch
  | updateSecurity patch => some patch
  | _ => none

def Operation.settingAfter (operation : Operation) (now : Instant)
    (row : Option SecuritySetting) : SecuritySetting :=
  let setting := row.getD (.initial now 1)
  (operation.patch?.map (setting.patched · now)).getD setting

namespace Step

variable {step : Step} {row : Option SecuritySetting}

theorem setting_of_ok (asked : step.call.operation.onSetting = true)
    (held : step.desk.store.securitySettings = row.toList) {reply : Reply}
    (answered : step.answer = .ok reply) :
    let setting := step.call.operation.settingAfter step.call.context.now row
    Table.securitySettings ∉ step.desk.store.dropped ∧ reply = .setting setting ∧
      step.after.store = { step.desk.store with securitySettings := [setting] } := by
  obtain ⟨desk, operation, context⟩ := step
  have ran : operation.perform.run context desk =
      (.ok reply, (Step.mk desk ⟨operation, context⟩).after) := Prod.ext answered rfl
  cases operation with
  | securitySetting =>
    obtain ⟨setting, between, opened, told⟩ := Service.run_bind_eq_ok.mp ran
    obtain ⟨rfl, same⟩ := Service.run_pure_eq_ok.mp told
    obtain ⟨store, done, rfl⟩ := Service.run_transaction_eq_ok opened
    obtain ⟨present, rfl, rfl⟩ := Security.opened_of_openSetting held done
    exact ⟨present, rfl, same ▸ rfl⟩
  | updateSecurity patch =>
    obtain ⟨setting, between, changed, told⟩ := Service.run_bind_eq_ok.mp ran
    obtain ⟨rfl, same⟩ := Service.run_pure_eq_ok.mp told
    obtain ⟨_, _, patched, closed⟩ := Service.run_bind_eq_ok.mp changed
    obtain ⟨store, done, rfl⟩ := Service.run_transaction_eq_ok patched
    obtain ⟨present, rfl, rfl⟩ := Security.patched_of_patchSetting held done
    cases closed
    exact ⟨present, rfl, same ▸ rfl⟩
  | _ => nomatch asked

theorem untouched_of_error (asked : step.call.operation.onSetting = true) {failure : Failure}
    (failed : step.answer = .error failure) : step.after.store = step.desk.store := by
  obtain ⟨desk, operation, context⟩ := step
  have atomic : Service.Atomic operation.perform context desk fun _ _ => True := by
    cases operation with
    | securitySetting =>
      exact Service.Atomic.bind (Service.atomic_transaction _) (fun _ => .pure _)
        fun _ _ _ => ⟨_, rfl, trivial⟩
    | updateSecurity patch =>
      exact (Security.update_atomic patch).bind (fun _ => .pure _) fun _ _ _ => ⟨_, rfl, trivial⟩
    | _ => nomatch asked
  rcases atomic with untouched | ⟨reply, answered, -⟩
  · exact untouched.store_eq
  · cases failed.symm.trans answered

def patch? (step : Step) : Option (SecurityPatch × Instant) :=
  if step.answer.isOk then step.call.operation.patch?.map (·, step.call.context.now) else none

end Step

/-! ## Runs -/

/-- The setting after some steps: none before a step has succeeded, and then the row that all
patches have come to, opened by the first step that has succeeded. -/
def settingAfter (steps : List Step) : Option SecuritySetting :=
  (steps.find? (·.answer.isOk)).map fun first =>
    .folded 1 first.call.context.now (steps.filterMap (·.patch?))

theorem settingAfter_append {steps : List Step} {step : Step} :
    settingAfter (steps ++ [step]) =
      ((steps.find? (·.answer.isOk)).or ([step].find? (·.answer.isOk))).map fun first =>
        .folded 1 first.call.context.now (steps.filterMap (·.patch?) ++ step.patch?.toList) := by
  have added : [step].filterMap (·.patch?) = step.patch?.toList := by
    rw [List.filterMap_cons]
    cases step.patch? <;> rfl
  rw [settingAfter, List.find?_append, List.filterMap_append, added]

theorem settingAfter_append_of_error {steps : List Step} {step : Step} {failure : Failure}
    (failed : step.answer = .error failure) :
    settingAfter (steps ++ [step]) = settingAfter steps := by
  have unsuccessful : [step].find? (·.answer.isOk) = none := by
    rw [List.find?_singleton, failed]
    rfl
  have unpatched : step.patch? = none := by
    rw [Step.patch?, failed]
    rfl
  rw [settingAfter_append, unsuccessful, Option.or_none, unpatched, Option.toList_none,
    List.append_nil, settingAfter]

theorem patches_eq_nil {steps : List Step} (failed : steps.find? (·.answer.isOk) = none) :
    steps.filterMap (·.patch?) = [] :=
  List.filterMap_eq_nil_iff.mpr fun step member => if_neg (List.find?_eq_none.mp failed step member)

theorem settingAfter_append_of_ok {steps : List Step} {step : Step} {reply : Reply}
    (answered : step.answer = .ok reply) :
    settingAfter (steps ++ [step]) =
      some (step.call.operation.settingAfter step.call.context.now (settingAfter steps)) := by
  have successful : [step].find? (·.answer.isOk) = some step := by
    rw [List.find?_singleton, answered]
    rfl
  have patch_eq : step.patch? = step.call.operation.patch?.map (·, step.call.context.now) := by
    rw [Step.patch?, answered]
    rfl
  have adds (created : Instant) (made : List (SecurityPatch × Instant)) :
      SecuritySetting.folded 1 created (made ++ step.patch?.toList) =
        step.call.operation.settingAfter step.call.context.now (some (.folded 1 created made)) := by
    rw [patch_eq, Operation.settingAfter]
    cases step.call.operation.patch? with
    | none => rw [Option.map_none, Option.toList_none, List.append_nil]; rfl
    | some patch => exact SecuritySetting.patched_folded.symm
  rw [settingAfter_append, successful, settingAfter]
  cases found : steps.find? (·.answer.isOk) with
  | none =>
    rw [patches_eq_nil found]
    exact congrArg some (adds step.call.context.now [])
  | some first => exact congrArg some (adds first.call.context.now _)

namespace Desk

/-- The stored setting is what a history says, and it is there only if its table is. -/
structure Holds (desk : Desk) (row : Option SecuritySetting) : Prop where
  rows : desk.store.securitySettings = row.toList
  present : row ≠ none → Table.securitySettings ∉ desk.store.dropped

theorem Holds.after {step : Step} {steps : List Step}
    (held : step.desk.Holds (settingAfter steps))
    (asked : step.call.operation.onSetting = true) :
    step.after.Holds (settingAfter (steps ++ [step])) := by
  cases answered : step.answer with
  | error failure =>
    have same := step.untouched_of_error asked answered
    rw [settingAfter_append_of_error answered]
    exact ⟨same ▸ held.rows, same ▸ held.present⟩
  | ok reply =>
    obtain ⟨present, -, changed⟩ := step.setting_of_ok asked held.rows answered
    rw [settingAfter_append_of_ok answered]
    exact ⟨congrArg Store.securitySettings changed, fun _ => changed ▸ present⟩

variable {desk : Desk} {calls : List Call}

theorem holds_settingAfter (empty : desk.store.securitySettings = [])
    (asked : ∀ call ∈ calls, call.operation.onSetting = true) :
    (desk.afterAll calls).Holds (settingAfter (desk.steps calls)) := by
  induction calls using List.reverseRecOn with
  | nil => exact ⟨empty, absurd rfl⟩
  | append_singleton calls call induction =>
    let step : Step := ⟨desk.afterAll calls, call⟩
    have held : step.desk.Holds (settingAfter (desk.steps calls)) :=
      induction fun other member => asked other (List.mem_append_left _ member)
    rw [afterAll_append, steps_append]
    exact held.after (asked call (List.mem_append_right _ (List.mem_singleton_self call)))

/-! ## The gate -/

/-- The gate finds in the store what is shown of a setting, and there is always a time at which it
takes a call. -/
def Agrees (desk : Desk) (setting : SecuritySetting) : Prop :=
  ∃ gate : GateSetting,
    (∀ context, (Service.query Security.loadGateSetting).run context desk = (.ok gate, desk)) ∧
    setting.json = .object [
      ("id", .int setting.id), ("third_party_api_enabled", .bool gate.enabled),
      ("api_key", .text gate.apiKey), ("api_secret", .text gate.apiSecret),
      ("encryption_algorithm", .text gate.algorithm),
      ("nonce_ttl_seconds", .int gate.nonceTtlSeconds),
      ("created_at", .int setting.createdAt.unixSeconds),
      ("updated_at", .int setting.updatedAt.unixSeconds)] ∧
    0 < gate.nonceTtlSeconds ∧
    ∀ now : Int, now.natAbs < Nat.pow 2 52 →
      Gate.isOutside (.ofSeconds now) now gate.nonceTtlSeconds = .ok false

theorem isOutside_self {now window : Int} (near : now.natAbs < Nat.pow 2 52)
    (positive : 0 < window) : Gate.isOutside (.ofSeconds now) now window = .ok false := by
  have wider : Nat.pow 2 52 ≤ Nat.pow 2 53 := by decide +kernel
  rw [Gate.isOutside_ofSeconds near near, Gate.exactJudge_eq_false]
  refine ⟨Gate.holdsInt_of_lt (Nat.lt_of_lt_of_le near wider), ?_⟩
  rw [sub_self, abs_zero]
  exact_mod_cast positive.le

theorem Holds.agrees {setting : SecuritySetting} (held : desk.Holds (some setting))
    (formed : setting.IsFormed) : desk.Agrees setting := by
  have first : desk.store.securitySetting? = some setting := by
    rw [Store.securitySetting?, held.rows]
    rfl
  have positive : 0 < (GateSetting.ofRow (some setting)).nonceTtlSeconds :=
    SecuritySetting.effectiveNonceTtl_pos _
  refine ⟨.ofRow (some setting), fun context => ?_, formed.json_eq, positive,
    fun now near => isOutside_self near positive⟩
  rw [Security.run_loadGateSetting (held.present (Option.some_ne_none setting)), first]

theorem isFormed_settingAfter {steps : List Step} {setting : SecuritySetting}
    (made : settingAfter steps = some setting) : setting.IsFormed := by
  obtain ⟨first, -, rfl⟩ := Option.map_eq_some_iff.mp made
  exact SecuritySetting.isFormed_folded

theorem settingAfter_stays {first : List Step} (rest : List Step) {setting : SecuritySetting}
    (made : settingAfter first = some setting) :
    ∃ kept, settingAfter (first ++ rest) = some kept ∧ kept.id = setting.id ∧
      kept.createdAt = setting.createdAt := by
  obtain ⟨opening, found, rfl⟩ := Option.map_eq_some_iff.mp made
  rw [settingAfter, List.find?_append, found]
  exact ⟨_, rfl, rfl, rfl⟩

/-- However the setting is read and changed from an empty table on, by calls that succeed or fail:
there is one row from the first success on, which stays, and each of its fields is what the last
patch to give it has given. A call that fails changes nothing. What is shown of the row is what the
gate goes by. -/
theorem setting_folds (empty : desk.store.securitySettings = [])
    (asked : ∀ call ∈ calls, call.operation.onSetting = true) :
    (desk.afterAll calls).store.securitySettings = (settingAfter (desk.steps calls)).toList ∧
    (∀ before later, calls = before ++ later →
      ∀ setting ∈ (desk.afterAll before).store.securitySettings,
        ∃ kept, (desk.afterAll calls).store.securitySettings = [kept] ∧ kept.id = setting.id ∧
          kept.createdAt = setting.createdAt) ∧
    ∀ step ∈ desk.steps calls,
      (∀ failure, step.answer = .error failure → step.after.store = step.desk.store) ∧
      (∀ reply, step.answer = .ok reply →
        ∃ setting, reply = .setting setting ∧ step.after.store.securitySettings = [setting]) ∧
      ∀ setting ∈ step.after.store.securitySettings, step.after.Agrees setting := by
  have held := holds_settingAfter empty asked
  refine ⟨held.rows, ?_, fun step member => ?_⟩
  · rintro before later rfl setting stored
    have earlier := holds_settingAfter empty fun call member =>
      asked call (List.mem_append_left later member)
    rw [earlier.rows, Option.mem_toList] at stored
    obtain ⟨kept, made, same⟩ := settingAfter_stays ((desk.afterAll before).steps later) stored
    rw [← steps_append] at made
    exact ⟨kept, by rw [held.rows, made, Option.toList_some], same⟩
  · obtain ⟨before, later, rfl, met⟩ := calls_of_step member
    have own := asked step.call (List.mem_append_right _ (List.mem_cons_self ..))
    have earlier : step.desk.Holds (settingAfter (desk.steps before)) :=
      met ▸ holds_settingAfter empty fun call member => asked call (List.mem_append_left _ member)
    refine ⟨fun failure failed => step.untouched_of_error own failed, fun reply answered => ?_, ?_⟩
    · obtain ⟨-, told, changed⟩ := step.setting_of_ok own earlier.rows answered
      exact ⟨_, told, congrArg Store.securitySettings changed⟩
    · intro setting stored
      have after := earlier.after own
      rw [after.rows, Option.mem_toList] at stored
      rw [stored] at after
      exact after.agrees (isFormed_settingAfter stored)

def samplePatches : List Call := [
  sampleCall 10 (.updateSecurity { apiKey := some "lost", nonceTtlSeconds := some (2 ^ 63) }),
  sampleCall 20 .securitySetting,
  sampleCall 30 (.updateSecurity {
    enabled := some true, apiKey := some " first ", apiSecret := some "secret\n",
    algorithm := some " AES-GCM ", nonceTtlSeconds := some (-5) }),
  sampleCall 40 (.updateSecurity { apiKey := some "second", algorithm := some " " })]

theorem sample_setting_folds :
    ({} : Desk).store.securitySettings = [] ∧
      (∀ call ∈ samplePatches, call.operation.onSetting = true) ∧
      (({} : Desk).steps samplePatches).map (·.answer.isOk) = [false, true, true, true] ∧
      (({} : Desk).afterAll samplePatches).store.securitySettings = [{
        id := 1, enabled := true, apiKey := "second", apiSecret := "secret", algorithm := "aes-gcm",
        nonceTtlSeconds := 0, createdAt := .ofSeconds 20, updatedAt := .ofSeconds 40 }] := by
  have asked : ∀ call ∈ samplePatches, call.operation.onSetting = true := by decide
  refine ⟨rfl, asked, by decide +kernel, ?_⟩
  rw [(setting_folds rfl asked).1]
  decide +kernel

end Desk

end OrderDesk
