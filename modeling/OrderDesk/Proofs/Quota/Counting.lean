import Mathlib.Algebra.Order.Group.Defs
import OrderDesk.RateLimit

/-!
Counting requests by client. What is counted for one client is no matter of the requests of others,
so a client is judged as if all others were not there.
-/

namespace OrderDesk.RateLimit

theorem key_inj {quota first second : String} :
    key quota first = key quota second ↔ first = second := by
  rw [key, key, String.append_right_inj]

structure Arrival (Time : Type) where
  authorization : Option String := none
  connection : Option String := none
  forwarded : Option String := none
  time : Time
  deriving DecidableEq

def Arrival.client {Time : Type} (arrival : Arrival Time) : String :=
  RateLimit.client arrival.authorization arrival.connection arrival.forwarded

variable {Time : Type}

def Counters.counter? (counters : Counters Time) (key : String) : Option (Counter Time) :=
  counters.find? (·.key = key)

section

variable [Add Time] [LE Time] [DecidableRel (· ≤ · : Time → Time → Prop)] {window now : Time}
  {counters : Counters Time} {key other : String}

theorem key_tick {counter : Counter Time} : (counter.tick window now).key = counter.key := by
  rw [Counter.tick]
  split <;> rfl

theorem counter_of_count : (count window now key counters).1 =
    ((counters.counter? key).getD (.start window now key)).tick window now := by
  induction counters with
  | nil => rfl
  | cons counter rest induction =>
    rw [count, Counters.counter?, List.find?_cons]
    by_cases own : counter.key = key
    · rw [if_pos own, decide_eq_true own]
      rfl
    · rw [if_neg own, decide_eq_false own]
      exact induction

theorem counter?_count : (count window now key counters).2.counter? key =
    some (count window now key counters).1 := by
  induction counters with
  | nil =>
    have own : ((Counter.start window now key).tick window now).key = key := key_tick
    rw [count, Counters.counter?, List.find?_cons, decide_eq_true own]
  | cons counter rest induction =>
    rw [count]
    by_cases own : counter.key = key
    · have ticked : (counter.tick window now).key = key := key_tick.trans own
      rw [if_pos own, Counters.counter?, List.find?_cons, decide_eq_true ticked]
    · rw [if_neg own, Counters.counter?, List.find?_cons, decide_eq_false own]
      exact induction

theorem counter?_count_of_ne (different : other ≠ key) :
    (count window now key counters).2.counter? other = counters.counter? other := by
  induction counters with
  | nil =>
    have foreign : ((Counter.start window now key).tick window now).key ≠ other := by
      rw [key_tick]
      exact different.symm
    rw [count, Counters.counter?, List.find?_cons, decide_eq_false foreign]
    rfl
  | cons counter rest induction =>
    rw [count]
    by_cases own : counter.key = key
    · have before : counter.key ≠ other := fun same => different (same.symm.trans own)
      have after : (counter.tick window now).key ≠ other := by rwa [key_tick]
      rw [if_pos own, Counters.counter?, Counters.counter?, List.find?_cons, List.find?_cons,
        decide_eq_false before, decide_eq_false after]
    · rw [if_neg own, Counters.counter?, Counters.counter?, List.find?_cons, List.find?_cons]
      cases decide (counter.key = other) with
      | true => rfl
      | false => exact induction

end

/-! ## Verdicts -/

section

variable [Add Time] [LE Time] [DecidableRel (· ≤ · : Time → Time → Prop)] (limit : Nat)
  (window : Time) (quota : String)

/-- Requests one after the other, each with whether it is let through. -/
def judge (counters : Counters Time) : List (Arrival Time) → List (Arrival Time × Bool)
  | [] => []
  | arrival :: rest =>
    let (allowed, counters) :=
      consume limit window arrival.time (key quota arrival.client) counters
    (arrival, allowed) :: judge counters rest

variable {limit window quota} {counters alone : Counters Time} {client : String}
  {arrival : Arrival Time} {arrivals : List (Arrival Time)}

/-- Where a client's counters are the same, the client is judged as if all others were not there. -/
theorem judge_filter
    (same : counters.counter? (key quota client) = alone.counter? (key quota client)) :
    (judge limit window quota counters arrivals).filter (·.1.client = client) =
      judge limit window quota alone (arrivals.filter (·.client = client)) := by
  induction arrivals generalizing counters alone with
  | nil => rfl
  | cons arrival rest induction =>
    rw [judge, List.filter_cons, List.filter_cons]
    by_cases own : arrival.client = client
    · subst own
      have counted : (count window arrival.time (key quota arrival.client) counters).1 =
          (count window arrival.time (key quota arrival.client) alone).1 := by
        rw [counter_of_count, counter_of_count, same]
      have kept := counter?_count.trans ((congrArg some counted).trans counter?_count.symm)
      rw [if_pos (decide_eq_true rfl), if_pos (decide_eq_true rfl), judge]
      simp only [consume, counted]
      exact congrArg (List.cons _) (induction kept)
    · have foreign : key quota client ≠ key quota arrival.client :=
        fun shared => own (key_inj.mp shared).symm
      rw [if_neg (by simpa using own), if_neg (by simpa using own)]
      exact induction ((counter?_count_of_ne foreign).trans same)

theorem map_judge : (judge limit window quota counters arrivals).map (·.1) = arrivals := by
  induction arrivals generalizing counters with
  | nil => rfl
  | cons arrival rest induction => exact congrArg (List.cons arrival) induction

theorem judge_isPrefix {later : List (Arrival Time)} :
    judge limit window quota counters arrivals <+:
      judge limit window quota counters (arrivals ++ later) := by
  induction arrivals generalizing counters with
  | nil => exact List.nil_prefix
  | cons arrival rest induction => exact List.cons_prefix_cons.mpr ⟨rfl, induction⟩

end

end OrderDesk.RateLimit
