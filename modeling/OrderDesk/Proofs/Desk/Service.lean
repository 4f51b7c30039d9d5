import OrderDesk.Desk.Call
import OrderDesk.Proofs.Failure

/-!
What services leave of the desk. A quiet service leaves all of it alone; an atomic one either leaves
the rows and the caches alone, or is answered with a change that its transaction has committed.
-/

namespace OrderDesk

/-- Rows and caches are the same before and after. The order numbers that have been given out and
the metrics may differ. -/
def Desk.Untouched (before after : Desk) : Prop :=
  after = { before with lastNumber := after.lastNumber, metrics := after.metrics }

namespace Desk.Untouched

theorem refl (desk : Desk) : desk.Untouched desk :=
  rfl

theorem trans {first second third : Desk} (early : first.Untouched second)
    (late : second.Untouched third) : first.Untouched third := by
  rw [Untouched] at early late ⊢
  rw [late, early]

theorem store_eq {before after : Desk} (untouched : before.Untouched after) :
    after.store = before.store := by
  rw [untouched]

end Desk.Untouched

namespace Service

variable {α β : Type} {context : Context} {desk : Desk}

/-! ## Running services -/

theorem run_bind {service : Service α} {next : α → Service β} :
    (service >>= next).run context desk =
      match service.run context desk with
      | (.ok value, between) => (next value).run context between
      | (.error failure, between) => (.error failure, between) := by
  change (ExceptT.bindCont (fun value => next value context) (service context desk).1)
    (service context desk).2 = match service context desk with
      | (.ok value, between) => next value context between
      | (.error failure, between) => (.error failure, between)
  rcases service context desk with ⟨result, between⟩
  cases result <;> rfl

theorem run_pure {value : α} : (pure value : Service α).run context desk = (.ok value, desk) :=
  rfl

theorem run_refuse {refusal : Refusal} :
    (refuse refusal : Service α).run context desk = (.error (.refused refusal), desk) :=
  rfl

theorem run_lift {outcome : Except Failure α} :
    (lift outcome).run context desk = (outcome, desk) := by
  cases outcome <;> rfl

theorem run_read : (read : Service Context).run context desk = (.ok context, desk) :=
  rfl

theorem run_get : (get : Service Desk).run context desk = (.ok desk, desk) :=
  rfl

theorem run_tryCatch {service : Service α} {handler : Failure → Service α} :
    (tryCatch service handler).run context desk =
      match service.run context desk with
      | (.ok value, after) => (.ok value, after)
      | (.error failure, between) => (handler failure).run context between := by
  change (ExceptT.tryCatch (service context) fun failure => handler failure context) desk =
    match service context desk with
    | (.ok value, after) => (.ok value, after)
    | (.error failure, between) => handler failure context between
  simp only [ExceptT.tryCatch, ExceptT.mk, bind, StateT.bind]
  rcases service context desk with ⟨result, between⟩
  cases result <;> rfl

theorem run_query {work : Work α} :
    (query work).run context desk =
      match work { context with deadlinePassed := false } desk.store with
      | .ok (value, _) => (.ok value, desk)
      | .error failure => (.error failure, desk) := by
  simp only [query, run_bind, run_read, run_get]
  cases work { context with deadlinePassed := false } desk.store <;> rfl

theorem run_query_ok {work : Work α} {value : α} {seen : Store}
    (done : work { context with deadlinePassed := false } desk.store = .ok (value, seen)) :
    (query work).run context desk = (.ok value, desk) := by
  rw [run_query, done]

theorem run_query_bind_of_ok {β : Type} {work : Work α} {value : α} {seen : Store}
    {next : α → Service β}
    (done : work { context with deadlinePassed := false } desk.store = .ok (value, seen)) :
    (query work >>= next).run context desk = (next value).run context desk := by
  rw [run_bind, run_query_ok done]

theorem timed_false {outcome : Except Failure α} : timed false outcome = outcome :=
  rfl

theorem timed_eq_ok {runsOut : Bool} {outcome : Except Failure α} {value : α} :
    timed runsOut outcome = .ok value ↔ runsOut = false ∧ outcome = .ok value := by
  cases runsOut with
  | false => simp [timed_false]
  | true =>
    rw [timed.eq_def]
    split <;> simp_all

theorem timed_error {runsOut : Bool} {failure : Failure}
    (other : failure ≠ .broken .uniqueKeyTaken) :
    timed runsOut (.error failure : Except Failure α) = .error failure := by
  rw [timed.eq_def]
  split <;> simp_all

theorem timed_map {runsOut : Bool} {outcome : Except Failure α} {change : α → β} :
    timed runsOut (outcome.map change) = (timed runsOut outcome).map change := by
  cases runsOut with
  | false => rfl
  | true =>
    cases outcome with
    | ok value => rfl
    | error failure =>
      by_cases taken : failure = .broken .uniqueKeyTaken
      · rw [taken]
        rfl
      · change timed true (.error failure) = _
        rw [timed_error taken, timed_error taken]
        rfl

theorem run_transaction {work : Work α} :
    (transaction work).run context desk =
      match context.settings.timeoutSeconds with
      | .error fault => (.error (.broken fault), desk)
      | .ok _ =>
        match timed context.runsOut (work context desk.store) with
        | .ok (value, store) => (.ok value, { desk with store })
        | .error failure => (.error failure.atCommit, desk) := by
  simp only [transaction, run_bind, run_read, run_lift]
  cases context.settings.timeoutSeconds with
  | error fault => rfl
  | ok seconds =>
    simp only [Failure.breaking_ok, run_get]
    cases timed context.runsOut (work context desk.store) <;> rfl

theorem run_sampled {sample : Option α → Metrics → Except Fault Unit × Metrics}
    {service : Service α} :
    let ran := service.run context desk
    let sampling := sample ran.1.toOption ran.2.metrics
    (sampled sample service).run context desk =
      (sampling.1.mapError .broken >>= fun _ => ran.1, { ran.2 with metrics := sampling.2 }) := by
  simp only [sampled, run, ExceptT.mk, ExceptT.run, bind, StateT.bind]
  rcases service context desk with ⟨result, between⟩
  dsimp only [get, getThe, MonadStateOf.get, StateT.get, modify, modifyGet,
    MonadStateOf.modifyGet, StateT.modifyGet, pure]
  rcases sample result.toOption between.metrics with ⟨taken, metrics⟩
  cases taken <;> rfl

/-! ## Services that answer -/

theorem run_bind_eq_ok {service : Service α} {next : α → Service β} {value : β} {after : Desk} :
    (service >>= next).run context desk = (.ok value, after) ↔
      ∃ first between, service.run context desk = (.ok first, between) ∧
        (next first).run context between = (.ok value, after) := by
  rw [run_bind]
  rcases service.run context desk with ⟨result, between⟩
  cases result with
  | error failure => simp
  | ok first =>
    constructor
    · intro rest
      exact ⟨first, between, rfl, rest⟩
    · rintro ⟨_, _, ⟨⟩, rest⟩
      exact rest

theorem run_pure_eq_ok {value result : α} {after : Desk} :
    (pure value : Service α).run context desk = (.ok result, after) ↔
      value = result ∧ desk = after := by
  rw [run_pure, Prod.mk.injEq, Except.ok.injEq]

theorem run_lift_eq_ok {outcome : Except Failure α} {value : α} {after : Desk} :
    (lift outcome).run context desk = (.ok value, after) ↔ outcome = .ok value ∧ desk = after := by
  rw [run_lift, Prod.mk.injEq]

theorem run_query_eq_ok {work : Work α} {value : α} {after : Desk} :
    (query work).run context desk = (.ok value, after) ↔
      (∃ seen, work { context with deadlinePassed := false } desk.store = .ok (value, seen)) ∧
        desk = after := by
  rw [run_query]
  cases work { context with deadlinePassed := false } desk.store with
  | error failure => simp
  | ok result => simp [Prod.ext_iff]

theorem run_query_bind_eq_ok {work : Work α} {next : α → Service β} {value : β} {after : Desk} :
    (query work >>= next).run context desk = (.ok value, after) ↔
      ∃ found, (∃ seen,
          work { context with deadlinePassed := false } desk.store = .ok (found, seen)) ∧
        (next found).run context desk = (.ok value, after) := by
  rw [run_bind_eq_ok]
  constructor
  · rintro ⟨found, _, queried, rest⟩
    rcases run_query_eq_ok.mp queried with ⟨seen, rfl⟩
    exact ⟨found, seen, rest⟩
  · rintro ⟨found, seen, rest⟩
    exact ⟨found, desk, run_query_eq_ok.mpr ⟨seen, rfl⟩, rest⟩

theorem run_refuse_ite_eq_ok {condition : Prop} [Decidable condition] {refusal : Refusal}
    {next : α → Service β} {rest : Service β} {value : β} {after : Desk} :
    (if condition then (refuse refusal >>= next) else rest).run context desk =
        (.ok value, after) ↔
      ¬condition ∧ rest.run context desk = (.ok value, after) := by
  by_cases holds : condition
  · rw [if_pos holds, run_bind, run_refuse]
    simp [holds]
  · simp [holds]

theorem run_transaction_eq_ok {work : Work α} {value : α} {after : Desk}
    (ran : (transaction work).run context desk = (.ok value, after)) :
    ∃ store, work context desk.store = .ok (value, store) ∧ after = { desk with store } := by
  rw [run_transaction] at ran
  split at ran
  · cases ran
  · split at ran
    · next _ store done =>
      rcases Prod.mk.inj ran with ⟨same, rfl⟩
      exact ⟨store, Except.ok.inj same ▸ (timed_eq_ok.mp done).2, rfl⟩
    · cases ran

theorem run_sampled_eq_ok {sample : Option α → Metrics → Except Fault Unit × Metrics}
    {service : Service α} {value : α} {after : Desk}
    (ran : (sampled sample service).run context desk = (.ok value, after)) :
    ∃ between, service.run context desk = (.ok value, between) ∧
      after = { between with metrics := after.metrics } := by
  rw [run_sampled] at ran
  rcases served : service.run context desk with ⟨result, between⟩
  rw [served] at ran
  rcases Prod.mk.inj ran with ⟨answered, rfl⟩
  cases taken : (sample result.toOption between.metrics).1 with
  | error fault =>
    rw [taken] at answered
    cases answered
  | ok done =>
    rw [taken] at answered
    exact ⟨between, congrArg (·, between) answered, rfl⟩

theorem run_tryCatch_eq_ok {service : Service α} {handler : Failure → Service α} {value : α}
    {after : Desk} (ran : (tryCatch service handler).run context desk = (.ok value, after)) :
    service.run context desk = (.ok value, after) ∨
      ∃ failure between, service.run context desk = (.error failure, between) ∧
        (handler failure).run context between = (.ok value, after) := by
  rw [run_tryCatch] at ran
  split at ran
  · next served =>
    left
    rwa [served]
  · next failure between served => exact .inr ⟨failure, between, served, ran⟩

/-! ## Quiet services -/

def Quiet (service : Service α) : Prop :=
  ∀ (context : Context) (desk : Desk), (service.run context desk).2 = desk

theorem Quiet.pure (value : α) : Quiet (pure value : Service α) :=
  fun _ _ => rfl

theorem Quiet.refuse (refusal : Refusal) : Quiet (refuse refusal : Service α) :=
  fun _ _ => rfl

theorem Quiet.breakOff (fault : Fault) : Quiet (breakOff fault : Service α) :=
  fun _ _ => rfl

theorem Quiet.throw (failure : Failure) : Quiet (throw failure : Service α) :=
  fun _ _ => rfl

theorem Quiet.read : Quiet (read : Service Context) :=
  fun _ _ => rfl

theorem Quiet.lift (outcome : Except Failure α) : Quiet (lift outcome) := by
  intro context desk
  rw [run_lift]

theorem Quiet.query (work : Work α) : Quiet (query work) := by
  intro context desk
  rw [run_query]
  split <;> rfl

theorem Quiet.bind {service : Service α} {next : α → Service β} (first : Quiet service)
    (rest : ∀ value, Quiet (next value)) : Quiet (service >>= next) := by
  intro context desk
  have same := first context desk
  rw [run_bind]
  split
  · next value between ran =>
    rw [ran] at same
    exact (rest value context between).trans same
  · next ran =>
    rw [ran] at same
    exact same

theorem run_bind_quiet {service : Service α} {next : α → Service β}
    (quiet : ∀ value, Quiet (next value)) :
    ((service >>= next).run context desk).2 = (service.run context desk).2 := by
  rw [run_bind]
  rcases service.run context desk with ⟨result, between⟩
  cases result with
  | error failure => rfl
  | ok value => exact quiet value context between

theorem Quiet.ite {condition : Prop} [Decidable condition] {first second : Service α}
    (left : Quiet first) (right : Quiet second) :
    Quiet (if condition then first else second) := by
  split
  · exact left
  · exact right

theorem Quiet.refuse_ite {condition : Prop} [Decidable condition] {refusal : Refusal}
    {next : α → Service β} {rest : Service β} (passed : Quiet rest) :
    Quiet (if condition then (Service.refuse refusal >>= next) else rest) := by
  refine .ite (fun context desk => ?_) passed
  rw [run_bind, run_refuse]

theorem Quiet.userById (id : Option Int) : Quiet (userById id) := by
  cases id with
  | none => exact .pure none
  | some id => exact .query _

/-! ## Atomic services -/

/-- A run of the service leaves rows and caches as they are, or it is answered with a value whose
change to the store has been committed. -/
def Atomic (service : Service α) (context : Context) (desk : Desk)
    (Committed : α → Store → Prop) : Prop :=
  desk.Untouched (service.run context desk).2 ∨
    ∃ value, (service.run context desk).1 = .ok value ∧
      Committed value (service.run context desk).2.store

section

variable {Committed : α → Store → Prop} {Answered : β → Store → Prop}

theorem Quiet.atomic {service : Service α} (quiet : Quiet service) :
    Atomic service context desk Committed := by
  rw [Atomic, quiet context desk]
  exact .inl (.refl desk)

theorem atomic_transaction (work : Work α) :
    Atomic (transaction work) context desk fun value after =>
      work context desk.store = .ok (value, after) := by
  rw [Atomic, run_transaction]
  cases context.settings.timeoutSeconds with
  | error fault => exact .inl (.refl desk)
  | ok seconds =>
    cases done : timed context.runsOut (work context desk.store) with
    | error failure => exact .inl (.refl desk)
    | ok result => exact .inr ⟨result.1, rfl, (timed_eq_ok.mp done).2⟩

theorem Atomic.mono {service : Service α} {Weaker : α → Store → Prop}
    (atomic : Atomic service context desk Committed)
    (weaken : ∀ value after, Committed value after → Weaker value after) :
    Atomic service context desk Weaker := by
  rcases atomic with untouched | ⟨value, answered, committed⟩
  · exact .inl untouched
  · exact .inr ⟨value, answered, weaken _ _ committed⟩

theorem bind_atomic_of_untouched {service : Service α} {next : α → Service β}
    (untouched : desk.Untouched (service.run context desk).2)
    (rest : ∀ value between, service.run context desk = (.ok value, between) →
      Atomic (next value) context between Answered) :
    Atomic (service >>= next) context desk Answered := by
  rw [Atomic, run_bind]
  split
  · next value between ran =>
    rw [ran] at untouched
    rcases rest value between ran with later | answered
    · exact .inl (untouched.trans later)
    · exact .inr answered
  · next ran =>
    rw [ran] at untouched
    exact .inl untouched

theorem Quiet.bind_atomic {service : Service α} {next : α → Service β} (quiet : Quiet service)
    (rest : ∀ value, service.run context desk = (.ok value, desk) →
      Atomic (next value) context desk Answered) :
    Atomic (service >>= next) context desk Answered := by
  have same := quiet context desk
  refine bind_atomic_of_untouched ?_ fun value between ran => ?_
  · rw [same]
    exact .refl desk
  · rw [ran] at same
    rcases same with rfl
    exact rest value ran

theorem lift_bind_atomic {outcome : Except Failure α} {next : α → Service β}
    (rest : ∀ value, outcome = .ok value → Atomic (next value) context desk Answered) :
    Atomic (lift outcome >>= next) context desk Answered := by
  refine (Quiet.lift outcome).bind_atomic fun value ran => ?_
  exact rest value (run_lift_eq_ok.mp ran).1

theorem Atomic.sampled {service : Service α}
    {sample : Option α → Metrics → Except Fault Unit × Metrics}
    (atomic : Atomic service context desk Committed)
    (taken : ∀ value after metrics, Committed value after →
      (sample (some value) metrics).1 = .ok ()) :
    Atomic (sampled sample service) context desk Committed := by
  rw [Atomic, run_sampled]
  rcases atomic with untouched | ⟨value, answered, committed⟩
  · exact .inl (untouched.trans rfl)
  · have counted := taken value _ (service.run context desk).2.metrics committed
    refine .inr ⟨value, ?_, committed⟩
    rw [answered]
    change ((sample (some value) (service.run context desk).2.metrics).1.mapError
      Failure.broken >>= fun _ => Except.ok value) = Except.ok value
    rw [counted]
    rfl

theorem Atomic.tryCatch {service : Service α} {handler : Failure → Service α}
    (atomic : Atomic service context desk Committed) (quiet : ∀ failure, Quiet (handler failure)) :
    Atomic (tryCatch service handler) context desk Committed := by
  rw [Atomic, run_tryCatch]
  rcases atomic with untouched | ⟨value, answered, committed⟩
  · left
    split
    · next ran =>
      rw [ran] at untouched
      exact untouched
    · next failure between ran =>
      rw [ran] at untouched
      rwa [quiet failure context between]
  · right
    split
    · next ran =>
      rw [ran] at answered committed
      exact ⟨value, answered, committed⟩
    · next ran =>
      rw [ran] at answered
      cases answered

theorem Atomic.bind {service : Service α} {next : α → Service β}
    (atomic : Atomic service context desk Committed) (quiet : ∀ value, Quiet (next value))
    (answers : ∀ value between, Committed value between.store →
      ∃ result, ((next value).run context between).1 = .ok result ∧
        Answered result between.store) :
    Atomic (service >>= next) context desk Answered := by
  rw [Atomic, run_bind]
  rcases atomic with untouched | ⟨value, answered, committed⟩
  · left
    split
    · next value between ran =>
      rw [ran] at untouched
      rwa [quiet value context between]
    · next ran =>
      rw [ran] at untouched
      exact untouched
  · right
    split
    · next first between ran =>
      rw [ran] at answered committed
      cases answered
      rcases answers value between committed with ⟨result, answers, holds⟩
      refine ⟨result, answers, ?_⟩
      rw [quiet value context between]
      exact holds
    · next ran =>
      rw [ran] at answered
      cases answered

end

/-! ## What services commit -/

/-- A run of the service leaves the store as it is, or a change to it has been committed. -/
def Commits (service : Service α) (context : Context) (desk : Desk)
    (Committed : Store → Prop) : Prop :=
  (service.run context desk).2.store = desk.store ∨
    Committed (service.run context desk).2.store

section

variable {Committed : Store → Prop}

theorem Quiet.commits {service : Service α} (quiet : Quiet service) :
    Commits service context desk Committed :=
  .inl (congrArg Desk.store (quiet context desk))

theorem Atomic.commits {service : Service α} {Answered : α → Store → Prop}
    (atomic : Atomic service context desk Answered)
    (commit : ∀ value after, Answered value after → Committed after) :
    Commits service context desk Committed := by
  rcases atomic with untouched | ⟨value, -, committed⟩
  · exact .inl untouched.store_eq
  · exact .inr (commit _ _ committed)

theorem Commits.mono {service : Service α} {Weaker : Store → Prop}
    (commits : Commits service context desk Committed)
    (weaken : ∀ after, Committed after → Weaker after) : Commits service context desk Weaker :=
  commits.imp_right (weaken _)

theorem Quiet.bind_commits {service : Service α} {next : α → Service β} (quiet : Quiet service)
    (rest : ∀ value, service.run context desk = (.ok value, desk) →
      Commits (next value) context desk Committed) :
    Commits (service >>= next) context desk Committed := by
  have same := quiet context desk
  rw [Commits, run_bind]
  split
  · next value between ran =>
    rw [ran] at same
    rcases same with rfl
    exact rest value ran
  · next ran =>
    rw [ran] at same
    exact .inl (congrArg Desk.store same)

theorem Commits.bind_quiet {service : Service α} {next : α → Service β}
    (commits : Commits service context desk Committed) (quiet : ∀ value, Quiet (next value)) :
    Commits (service >>= next) context desk Committed := by
  rwa [Commits, run_bind_quiet quiet]

end

end Service

end OrderDesk
