import OrderDesk.Order.Detail
import OrderDesk.Proofs.Failure

/-!
What a piece of work has done when it succeeds: one equivalence for each way of composing work and
for each statement, so that the work of a whole operation is taken apart without opening either.
-/

namespace OrderDesk.Work

variable {α β : Type} {context : Context} {store after : Store}

/-! ## Steps -/

theorem bind_eq_ok {work : Work α} {next : α → Work β} {value : β} :
    (work >>= next) context store = .ok (value, after) ↔
      ∃ first between, work context store = .ok (first, between) ∧
        next first context between = .ok (value, after) := by
  change (work context store >>= fun done => next done.1 context done.2) = _ ↔ _
  cases work context store with
  | error failure => simp [bind, Except.bind]
  | ok done =>
    rcases done with ⟨first, between⟩
    constructor
    · intro rest
      exact ⟨first, between, rfl, rest⟩
    · rintro ⟨_, _, ⟨⟩, rest⟩
      exact rest

theorem bind_of_ok {work : Work α} {next : α → Work β} {value : α} {between : Store}
    (done : work context store = .ok (value, between)) :
    (work >>= next) context store = next value context between := by
  change (work context store >>= fun done => next done.1 context done.2) = _
  rw [done]
  rfl

theorem bind_of_error {work : Work α} {next : α → Work β} {failure : Failure}
    (failed : work context store = .error failure) :
    (work >>= next) context store = .error failure := by
  change (work context store >>= fun done => next done.1 context done.2) = _
  rw [failed]
  rfl

theorem pure_eq_ok {value result : α} :
    (pure value : Work α) context store = .ok (result, after) ↔
      value = result ∧ store = after := by
  change Except.ok (value, store) = .ok (result, after) ↔ _
  rw [Except.ok.injEq, Prod.mk.injEq]

theorem refuse_eq_ok {refusal : Refusal} {result : α × Store} :
    (refuse refusal : Work α) context store = .ok result ↔ False :=
  ⟨nofun, False.elim⟩

theorem breakOff_eq_ok {fault : Fault} {result : α × Store} :
    (breakOff fault : Work α) context store = .ok result ↔ False :=
  ⟨nofun, False.elim⟩

theorem ite_eq_ok {condition : Prop} [Decidable condition] {first second : Work α}
    {result : α × Store} :
    (if condition then first else second) context store = .ok result ↔
      (condition ∧ first context store = .ok result) ∨
        (¬condition ∧ second context store = .ok result) := by
  by_cases holds : condition <;> simp [holds]

theorem refuse_ite_eq_ok {condition : Prop} [Decidable condition] {refusal : Refusal}
    {next : α → Work β} {rest : Work β} {result : β × Store} :
    (if condition then (refuse refusal >>= next) else rest) context store = .ok result ↔
      ¬condition ∧ rest context store = .ok result := by
  rw [ite_eq_ok, bind_eq_ok]
  simp [refuse_eq_ok]

theorem breakOff_ite_eq_ok {condition : Prop} [Decidable condition] {fault : Fault}
    {next : α → Work β} {rest : Work β} {result : β × Store} :
    (if condition then (breakOff fault >>= next) else rest) context store = .ok result ↔
      ¬condition ∧ rest context store = .ok result := by
  rw [ite_eq_ok, bind_eq_ok]
  simp [breakOff_eq_ok]

theorem lift_eq_ok {outcome : Except Refusal α} {value : α} :
    lift outcome context store = .ok (value, after) ↔ outcome = .ok value ∧ store = after := by
  cases outcome with
  | error refusal => simp [lift, refuse_eq_ok]
  | ok present => rw [lift, pure_eq_ok, Except.ok.injEq]

theorem liftFault_eq_ok {outcome : Except Fault α} {value : α} :
    liftFault outcome context store = .ok (value, after) ↔
      outcome = .ok value ∧ store = after := by
  cases outcome with
  | error fault => simp [liftFault, breakOff_eq_ok]
  | ok present => rw [liftFault, pure_eq_ok, Except.ok.injEq]

/-! Reading the surroundings and the store, and changing the store, cannot fail. -/

theorem read_bind {next : Context → Work β} :
    ((read : Work Context) >>= next) context store = next context context store :=
  rfl

theorem now_bind {next : Instant → Work β} :
    (now >>= next) context store = next context.now context store :=
  rfl

theorem walletNow_bind {next : Instant → Work β} :
    (walletNow >>= next) context store = next context.walletNow context store :=
  rfl

theorem get_bind {next : Store → Work β} :
    ((get : Work Store) >>= next) context store = next store context store :=
  rfl

theorem modify_bind {change : Store → Store} {next : Unit → Work β} :
    ((modify change : Work Unit) >>= next) context store = next () context (change store) :=
  rfl

theorem modify_eq_ok {change : Store → Store} {done : Unit} :
    (modify change : Work Unit) context store = .ok (done, after) ↔ after = change store := by
  change Except.ok ((), change store) = .ok (done, after) ↔ _
  rw [Except.ok.injEq, Prod.mk.injEq, @eq_comm _ _ after]
  exact and_iff_right rfl

/-! ## Statements -/

/-- What a statement requires of its surroundings, of the tables and of its numbers. -/
structure Allowed (context : Context) (store : Store) (tables : List Table)
    (numbers : List Int) : Prop where
  inTime : context.deadlinePassed = false
  present : ∀ table ∈ tables, table ∉ store.dropped
  fit : ∀ number ∈ numbers, Store.fitsColumn number = true

theorem statement_eq_ok {tables : List Table} {numbers : List Int} {done : Unit} :
    statement tables numbers context store = .ok (done, after) ↔
      Allowed context store tables numbers ∧ store = after := by
  simp only [statement, read_bind, refuse_ite_eq_ok, get_bind, breakOff_ite_eq_ok]
  rw [ite_eq_ok, breakOff_eq_ok, pure_eq_ok]
  constructor
  · rintro ⟨inTime, present, ⟨_, ⟨⟩⟩ | ⟨fit, -, unchanged⟩⟩
    exact ⟨⟨by simpa using inTime, by simpa using present, by simpa using fit⟩, unchanged⟩
  · rintro ⟨⟨inTime, present, fit⟩, unchanged⟩
    exact ⟨by simpa using inTime, by simpa using present,
      .inr ⟨by simpa using fit, rfl, unchanged⟩⟩

theorem statement_bind_eq_ok {tables : List Table} {numbers : List Int} {next : Unit → Work β}
    {result : β × Store} :
    (statement tables numbers >>= next) context store = .ok result ↔
      Allowed context store tables numbers ∧ next () context store = .ok result := by
  rcases result with ⟨value, after⟩
  rw [bind_eq_ok]
  constructor
  · rintro ⟨_, between, stated, rest⟩
    rcases statement_eq_ok.mp stated with ⟨allowed, rfl⟩
    exact ⟨allowed, rest⟩
  · rintro ⟨allowed, rest⟩
    exact ⟨(), store, statement_eq_ok.mpr ⟨allowed, rfl⟩, rest⟩

/-! Where no table is missing, only the time and the numbers of a statement matter. -/

def accept (context : Context) (numbers : List Int) : Except Failure Unit := do
  if context.deadlinePassed then throw (.refused .deadlinePassed)
  if numbers.any fun number => !Store.fitsColumn number then throw (.broken .columnOverflow)

theorem accept_eq_ok {numbers : List Int} :
    accept context numbers = .ok () ↔
      context.deadlinePassed = false ∧ ∀ number ∈ numbers, Store.fitsColumn number = true := by
  rw [accept, Outcome.throw_ite_eq_ok, Bool.not_eq_true]
  apply and_congr_right
  intro _
  split
  · next overflows => simpa [throw, throwThe, MonadExceptOf.throw] using overflows
  · next fit => simpa [pure, Except.pure] using fit

theorem statement_bind_of_complete (complete : store.dropped = []) {tables : List Table}
    {numbers : List Int} {next : Unit → Work β} :
    (statement tables numbers >>= next) context store =
      accept context numbers >>= fun _ => next () context store := by
  have present : ¬(tables.any store.dropped.contains) = true := by simp [complete]
  have stated : statement tables numbers context store =
      (accept context numbers).map fun _ => ((), store) := by
    by_cases late : context.deadlinePassed = true
    · simp only [statement, read_bind, accept, if_pos late]
      rfl
    · simp only [statement, read_bind, accept, if_neg late, get_bind, if_neg present]
      split <;> rfl
  cases accepted : accept context numbers with
  | error failure =>
    rw [accepted] at stated
    exact bind_of_error stated
  | ok =>
    rw [accepted] at stated
    exact bind_of_ok stated

end OrderDesk.Work
