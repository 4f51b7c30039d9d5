import OrderDesk.Proofs.Desk.Commit

/-! Runs as histories: every call of a run together with the desk that it met. -/

namespace OrderDesk

structure Step where
  desk : Desk
  call : Call

namespace Step

def answer (step : Step) : Except Failure Reply :=
  (step.call.outcome step.desk).1

def after (step : Step) : Desk :=
  step.desk.after step.call

def added {Row : Type} (step : Step) (rows : Store → List Row) : List Row :=
  (rows step.after.store).drop (rows step.desk.store).length

variable {Row : Type} {step : Step} {rows : Store → List Row}

theorem added_eq_nil (same : step.after.store = step.desk.store) : step.added rows = [] := by
  rw [added, same, List.drop_length]

theorem added_append {new : List Row} (grown : rows step.after.store = rows step.desk.store ++ new) :
    step.added rows = new := by
  rw [added, grown, List.drop_left]

theorem commits (step : Step) :
    step.after.store = step.desk.store ∨
      step.call.operation.Committed step.call.context step.desk.lastNumber step.desk.store
        step.after.store :=
  step.desk.after_commits step.call

end Step

namespace Desk

def steps (desk : Desk) : List Call → List Step
  | [] => []
  | call :: rest => ⟨desk, call⟩ :: (desk.after call).steps rest

variable {desk : Desk} {calls : List Call}

theorem steps_append {later : List Call} :
    desk.steps (calls ++ later) = desk.steps calls ++ (desk.afterAll calls).steps later := by
  induction calls generalizing desk with
  | nil => rfl
  | cons first rest induction => exact congrArg (List.cons _) induction

theorem calls_of_step {step : Step} (member : step ∈ desk.steps calls) :
    ∃ before later, calls = before ++ step.call :: later ∧ step.desk = desk.afterAll before := by
  induction calls generalizing desk with
  | nil => nomatch member
  | cons call rest induction =>
    rcases List.mem_cons.mp member with rfl | member
    · exact ⟨[], rest, rfl, rfl⟩
    · obtain ⟨before, later, rfl, met⟩ := induction member
      exact ⟨call :: before, later, rfl, met⟩

/-- What every committed change preserves holds wherever the run comes by. -/
theorem steps_induction (Invariant : Store → Prop) (start : Invariant desk.store)
    (kept : ∀ call ∈ calls, ∀ last store after, Invariant store →
      call.operation.Committed call.context last store after → Invariant after) :
    ∀ step ∈ desk.steps calls, Invariant step.desk.store := by
  induction calls generalizing desk with
  | nil => exact fun _ member => (List.not_mem_nil member).elim
  | cons call rest induction =>
    have next : Invariant (desk.after call).store := by
      rcases desk.after_commits call with same | committed
      · rwa [same]
      · exact kept call (List.mem_cons_self ..) _ _ _ start committed
    intro step member
    rcases List.mem_cons.mp member with rfl | later
    · exact start
    · exact induction next (fun later member => kept later (List.mem_cons_of_mem _ member)) step
        later

/-- Two steps of a run are related if the first one brings about something that lasts, and whatever
lasts relates the two. -/
theorem steps_pairwise {Related : Step → Step → Prop} (Lasting : Step → Store → Prop)
    (kept : ∀ early, ∀ call ∈ calls, ∀ last store after, Lasting early store →
      call.operation.Committed call.context last store after → Lasting early after)
    (begins : ∀ early ∈ desk.steps calls, Lasting early early.after.store)
    (related : ∀ early late, Lasting early late.desk.store → Related early late) :
    (desk.steps calls).Pairwise Related := by
  induction calls generalizing desk with
  | nil => exact .nil
  | cons call rest induction =>
    have keptLater := fun early later member => kept early later (List.mem_cons_of_mem call member)
    refine .cons (fun late member => related _ _ ?_)
      (induction keptLater fun early member => begins early (List.mem_cons_of_mem _ member))
    exact steps_induction (Lasting ⟨desk, call⟩) (begins _ (List.mem_cons_self ..)) (keptLater _)
      late member

theorem steps_eq_cons {step : Step} {later : List Step} (ran : desk.steps calls = step :: later) :
    step.desk = desk ∧ ∃ rest, step.after.steps rest = later := by
  cases calls with
  | nil => cases ran
  | cons call rest =>
    rcases List.cons.inj ran with ⟨rfl, rfl⟩
    exact ⟨rfl, rest, rfl⟩

theorem steps_until (Lasting : Store → Prop) {between late : List Step} {again : Step}
    (ran : desk.steps calls = between ++ again :: late) (start : Lasting desk.store)
    (kept : ∀ step ∈ between, Lasting step.desk.store → Lasting step.after.store) :
    Lasting again.desk.store := by
  induction between generalizing desk calls with
  | nil =>
    rcases steps_eq_cons ran with ⟨rfl, -⟩
    exact start
  | cons step between induction =>
    rcases steps_eq_cons ran with ⟨rfl, rest, ran⟩
    exact induction ran (kept step (List.mem_cons_self ..) start)
      fun later member => kept later (List.mem_cons_of_mem _ member)

/-- What a step brings about is still there when another one is taken, if the steps between the two
keep it. -/
theorem steps_between (Lasting : Store → Prop) {early between late : List Step} {first again : Step}
    (ran : desk.steps calls = early ++ first :: (between ++ again :: late))
    (begins : Lasting first.after.store)
    (kept : ∀ step ∈ between, Lasting step.desk.store → Lasting step.after.store) :
    Lasting again.desk.store := by
  induction early generalizing desk calls with
  | nil =>
    rcases steps_eq_cons ran with ⟨-, rest, ran⟩
    exact steps_until Lasting ran begins kept
  | cons step early induction =>
    rcases steps_eq_cons ran with ⟨-, rest, ran⟩
    exact induction ran

end Desk

end OrderDesk
