import OrderDesk.Http.Answer
import OrderDesk.Proofs.Store.Rows
import OrderDesk.Proofs.Desk.Service

/-!
What handlers of requests leave of the store, and who stands behind a request that a handler goes on
with.
-/

namespace OrderDesk.Http

namespace Handler

variable {α β : Type} {context : Context} {desk after : Desk}

/-! ## Running handlers -/

theorem bind_apply {handler : Handler α} {next : α → Handler β} :
    (handler >>= next) context desk =
      match handler context desk with
      | (.ok value, between) => next value context between
      | (.error problem, between) => (.error problem, between) := by
  change (ExceptT.bindCont (fun value => next value context) (handler context desk).1)
    (handler context desk).2 = match handler context desk with
      | (.ok value, between) => next value context between
      | (.error problem, between) => (.error problem, between)
  rcases handler context desk with ⟨result, between⟩
  cases result <;> rfl

theorem run_apply {service : Service α} :
    run service context desk =
      ((service.run context desk).1.mapError .failed, (service.run context desk).2) := by
  simp only [run, Service.run, ExceptT.mk, ExceptT.run, bind, StateT.bind]
  rcases service context desk with ⟨result, between⟩
  cases result <;> rfl

theorem bind_eq_ok {handler : Handler α} {next : α → Handler β} {value : β} :
    (handler >>= next) context desk = (.ok value, after) ↔
      ∃ first between, handler context desk = (.ok first, between) ∧
        next first context between = (.ok value, after) := by
  rw [bind_apply]
  rcases handler context desk with ⟨result, between⟩
  cases result with
  | error problem =>
    constructor
    · rintro ⟨⟩
    · rintro ⟨_, _, ⟨⟩, -⟩
  | ok first =>
    constructor
    · intro rest
      exact ⟨first, between, rfl, rest⟩
    · rintro ⟨_, _, ⟨⟩, rest⟩
      exact rest

theorem run_eq_ok {service : Service α} {value : α} :
    run service context desk = (.ok value, after) ↔
      service.run context desk = (.ok value, after) := by
  rw [run_apply]
  rcases service.run context desk with ⟨result, between⟩
  cases result with
  | error failure => exact ⟨nofun, nofun⟩
  | ok present =>
    constructor
    · rintro ⟨⟩
      rfl
    · rintro ⟨⟩
      rfl

theorem lift_eq_ok {outcome : Except Failure α} {value : α} :
    lift outcome context desk = (.ok value, after) ↔ outcome = .ok value ∧ desk = after := by
  rw [lift, run_eq_ok, Service.run_lift_eq_ok]

theorem pure_eq_ok {value result : α} :
    (pure value : Handler α) context desk = (.ok result, after) ↔
      value = result ∧ desk = after := by
  change (Except.ok value, desk) = (.ok result, after) ↔ _
  rw [Prod.mk.injEq, Except.ok.injEq]

theorem refuse_ite_eq_ok {condition : Prop} [Decidable condition] {refusal : Refusal}
    {next : α → Handler β} {rest : Handler β} {value : β} :
    (if condition then (refuse refusal >>= next) else rest) context desk = (.ok value, after) ↔
      ¬condition ∧ rest context desk = (.ok value, after) := by
  by_cases holds : condition
  · rw [if_pos holds, bind_eq_ok]
    constructor
    · rintro ⟨_, _, ⟨⟩, -⟩
    · rintro ⟨passed, -⟩
      exact absurd holds passed
  · rw [if_neg holds]
    exact (and_iff_right holds).symm

/-! ## Handlers that leave the store alone -/

def Harmless (handler : Handler α) : Prop :=
  ∀ (context : Context) (desk : Desk), (handler context desk).2.store = desk.store

namespace Harmless

theorem pure (value : α) : Harmless (pure value) :=
  fun _ _ => rfl

theorem throw (problem : Problem) : Harmless (throw problem : Handler α) :=
  fun _ _ => rfl

theorem read : Harmless (read : Handler Context) :=
  fun _ _ => rfl

theorem run {service : Service α} (quiet : Service.Quiet service) : Harmless (run service) := by
  intro context desk
  rw [run_apply, quiet context desk]

theorem query (work : Work α) : Harmless (Handler.run (Service.query work)) :=
  run (.query work)

theorem lift (outcome : Except Failure α) : Harmless (lift outcome) :=
  run (.lift outcome)

theorem refuse (refusal : Refusal) : Harmless (refuse refusal : Handler α) :=
  throw _

theorem checked (result : Checked α) : Harmless (checked result) := by
  cases result with
  | valid value => exact pure value
  | invalid issues => exact throw _

theorem bind {handler : Handler α} {next : α → Handler β} (first : Harmless handler)
    (rest : ∀ value, Harmless (next value)) : Harmless (handler >>= next) := by
  intro context desk
  have same := first context desk
  rw [bind_apply]
  split
  · next value between ran =>
    rw [ran] at same
    exact (rest value context between).trans same
  · next ran =>
    rw [ran] at same
    exact same

theorem ite {condition : Prop} [Decidable condition] {first second : Handler α}
    (left : Harmless first) (right : Harmless second) :
    Harmless (if condition then first else second) := by
  split
  · exact left
  · exact right

theorem throw_ite {condition : Prop} [Decidable condition] {problem : Problem}
    {next : α → Handler β} {rest : Handler β} (passed : Harmless rest) :
    Harmless (if condition then ((MonadExcept.throw problem : Handler α) >>= next) else rest) :=
  .ite (fun _ _ => rfl) passed

end Harmless

/-! ## What handlers commit -/

/-- From a store the handler leaves the store as it is, or a change to it has been committed. -/
def Commits (handler : Handler α) (context : Context) (store : Store)
    (Committed : Store → Prop) : Prop :=
  ∀ desk : Desk, desk.store = store →
    (handler context desk).2.store = store ∨ Committed (handler context desk).2.store

section

variable {store : Store} {Committed : Store → Prop}

theorem Harmless.commits {handler : Handler α} (harmless : Harmless handler) :
    Commits handler context store Committed := by
  rintro desk rfl
  exact .inl (harmless context desk)

theorem Harmless.bind_commits {handler : Handler α} {next : α → Handler β}
    (harmless : Harmless handler)
    (rest : ∀ value, (∃ desk after, desk.store = store ∧
      handler context desk = (.ok value, after)) → Commits (next value) context store Committed) :
    Commits (handler >>= next) context store Committed := by
  rintro desk rfl
  have same := harmless context desk
  rw [bind_apply]
  split
  · next value between ran =>
    rw [ran] at same
    exact rest value ⟨desk, between, rfl, ran⟩ between same
  · next ran =>
    rw [ran] at same
    exact .inl same

theorem Commits.bind_harmless {handler : Handler α} {next : α → Handler β}
    (commits : Commits handler context store Committed)
    (harmless : ∀ value, Harmless (next value)) :
    Commits (handler >>= next) context store Committed := by
  intro desk same
  have committed := commits desk same
  rw [bind_apply]
  split
  · next value between ran =>
    rw [ran] at committed
    rwa [harmless value context between]
  · next ran =>
    rw [ran] at committed
    exact committed

theorem commits_run {service : Service α}
    (commits : ∀ desk : Desk, desk.store = store → service.Commits context desk Committed) :
    Commits (run service) context store Committed := by
  rintro desk rfl
  rw [run_apply]
  exact commits desk rfl

end

end Handler

end OrderDesk.Http
