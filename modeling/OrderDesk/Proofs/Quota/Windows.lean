import Mathlib.Algebra.Order.Group.Int
import Mathlib.Algebra.Order.Monoid.Unbundled.Basic
import OrderDesk.Proofs.Quota.Counting

/-!
Windows of time. The requests of a client fall into windows, one after the other, and of each window
the first requests are let through, as many as the limit says.
-/

namespace OrderDesk.RateLimit

variable {Time : Type}

/-- A request that opens a window, and those that it goes on to hold. -/
structure Window (Time : Type) where
  first : Arrival Time
  rest : List (Arrival Time)

def grantFirst (allowance : Nat) (arrivals : List (Arrival Time)) : List (Arrival Time × Bool) :=
  (arrivals.take allowance).map (·, true) ++ (arrivals.drop allowance).map (·, false)

namespace Window

def opening (window : Window Time) : Time :=
  window.first.time

def arrivals (window : Window Time) : List (Arrival Time) :=
  window.first :: window.rest

def verdicts (limit : Nat) (window : Window Time) : List (Arrival Time × Bool) :=
  grantFirst limit window.arrivals

end Window

@[simp] theorem grantFirst_nil {allowance : Nat} :
    grantFirst allowance ([] : List (Arrival Time)) = [] := by
  rw [grantFirst, List.take_nil, List.drop_nil]
  rfl

theorem grantFirst_cons {allowance : Nat} {arrival : Arrival Time} {rest : List (Arrival Time)} :
    grantFirst allowance (arrival :: rest) =
      (arrival, decide (0 < allowance)) :: grantFirst (allowance - 1) rest := by
  cases allowance <;> rfl

theorem countP_grantFirst_le {allowance : Nat} {arrivals : List (Arrival Time)}
    {selected : Arrival Time × Bool → Bool}
    (allowed : ∀ judged, selected judged = true → judged.2 = true) :
    (grantFirst allowance arrivals).countP selected ≤ allowance := by
  have refused : ((arrivals.drop allowance).map (·, false)).countP selected = 0 := by
    rw [List.countP_eq_zero]
    intro judged member counted
    obtain ⟨arrival, -, rfl⟩ := List.mem_map.mp member
    exact Bool.false_ne_true (allowed _ counted)
  calc (grantFirst allowance arrivals).countP selected
    _ = ((arrivals.take allowance).map (·, true)).countP selected := by
      rw [grantFirst, List.countP_append, refused, Nat.add_zero]
    _ ≤ ((arrivals.take allowance).map (·, true)).length := List.countP_le_length
    _ ≤ allowance := by
      rw [List.length_map]
      exact List.length_take_le _ _

theorem map_grantFirst (allowance : Nat) (arrivals : List (Arrival Time)) :
    (grantFirst allowance arrivals).map (·.1) = arrivals := by
  rw [grantFirst, List.map_append, List.map_map, List.map_map]
  exact (congrArg₂ _ (List.map_id _) (List.map_id _)).trans (List.take_append_drop _ _)

theorem Window.mem_arrivals {limit : Nat} {window : Window Time} {verdict : Arrival Time × Bool}
    (member : verdict ∈ window.verdicts limit) : verdict.1 ∈ window.arrivals := by
  rw [← map_grantFirst limit window.arrivals]
  exact List.mem_map_of_mem member

section

variable [AddCommGroup Time] [LinearOrder Time] (limit : Nat) (length : Time)

/-- The windows that some requests fall into, and what becomes of the requests. Each window is
opened by the first request at or after the end of the window before, and has a certain length. -/
structure Rationed (windows : List (Window Time)) (judged : List (Arrival Time × Bool)) : Prop where
  judged_eq : judged = windows.flatMap (·.verdicts limit)
  within : ∀ window ∈ windows, ∀ arrival ∈ window.arrivals,
    window.opening ≤ arrival.time ∧ arrival.time < window.opening + length
  apart : windows.Pairwise fun window next => window.opening + length ≤ next.opening

variable {limit length} {window : Window Time} {windows : List (Window Time)}
  {judged : List (Arrival Time × Bool)}

theorem Rationed.arrivals_eq (rationed : Rationed limit length windows judged) :
    judged.map (·.1) = windows.flatMap (·.arrivals) := by
  rw [rationed.judged_eq, List.map_flatMap]
  exact congrArg (windows.flatMap ·) (funext fun window => map_grantFirst limit window.arrivals)

theorem Rationed.tail (rationed : Rationed limit length (window :: windows) judged) :
    ∃ later, judged = window.verdicts limit ++ later ∧ Rationed limit length windows later :=
  ⟨_, rationed.judged_eq.trans List.flatMap_cons, rfl,
    fun _ member => rationed.within _ (List.mem_cons_of_mem _ member), rationed.apart.of_cons⟩

theorem Rationed.end_le (rationed : Rationed limit length (window :: windows) judged) :
    ∀ next ∈ windows, window.opening + length ≤ next.opening :=
  (List.pairwise_cons.mp rationed.apart).1

/-! ## Requests fall into windows -/

variable [IsOrderedAddMonoid Time]

theorem Rationed.cons (rationed : Rationed limit length windows judged) (positive : 0 < length)
    {arrival : Arrival Time} {inside : List (Arrival Time)}
    (held : ∀ other ∈ inside, arrival.time ≤ other.time ∧ other.time < arrival.time + length)
    (later : ∀ window ∈ windows, arrival.time + length ≤ window.opening) :
    Rationed limit length (⟨arrival, inside⟩ :: windows)
      ((arrival, decide (0 < limit)) :: (grantFirst (limit - 1) inside ++ judged)) where
  judged_eq := by
    rw [List.flatMap_cons, ← rationed.judged_eq, Window.verdicts, Window.arrivals, grantFirst_cons,
      List.cons_append]
  within := by
    refine List.forall_mem_cons.mpr ⟨List.forall_mem_cons.mpr ⟨?_, held⟩, rationed.within⟩
    exact ⟨le_refl _, lt_add_of_pos_right _ positive⟩
  apart := .cons later rationed.apart

/-- What a client's counter makes of the requests that follow: those before its end take what is
left of the limit, and the others fall into windows of their own. -/
theorem judge_of_counter (limit : Nat) {quota client : String} (positive : 0 < length)
    {arrivals : List (Arrival Time)} (own : ∀ arrival ∈ arrivals, arrival.client = client)
    (ordered : arrivals.Pairwise (·.time ≤ ·.time)) {counters : Counters Time}
    {counter : Counter Time} (kept : counters.counter? (key quota client) = some counter) :
    ∃ inside windows judged,
      judge limit length quota counters arrivals =
        grantFirst (limit - counter.count) inside ++ judged ∧
      (∀ arrival ∈ inside, arrival ∈ arrivals ∧ arrival.time < counter.resetAt) ∧
      (∀ window ∈ windows, counter.resetAt ≤ window.opening) ∧
      Rationed limit length windows judged := by
  induction arrivals generalizing counters counter with
  | nil => exact ⟨[], [], [], by simp [judge], nofun, nofun, rfl, nofun, .nil⟩
  | cons arrival rest induction =>
    obtain ⟨rfl, others⟩ := List.forall_mem_cons.mp own
    obtain ⟨first, ordered⟩ := List.pairwise_cons.mp ordered
    have ticked : (count length arrival.time (key quota arrival.client) counters).1 =
        counter.tick length arrival.time := by
      rw [counter_of_count, kept, Option.getD_some]
    obtain ⟨inside, windows, judged, verdicts, early, late, rationed⟩ :=
      induction others ordered (counter?_count.trans (congrArg some ticked))
    simp only [judge, consume, ticked, verdicts, Int.ofNat_le]
    by_cases ended : counter.resetAt ≤ arrival.time
    · -- the request opens a window, which holds what is inside by now
      have opened : counter.tick length arrival.time =
          { counter with count := 1, resetAt := arrival.time + length } := if_pos ended
      rw [opened] at early late ⊢
      refine ⟨[], ⟨arrival, inside⟩ :: windows, _, by rw [grantFirst_nil]; rfl, nofun, ?_,
        rationed.cons positive ?_ late⟩
      · refine List.forall_mem_cons.mpr ⟨ended, fun window member => ?_⟩
        exact (ended.trans (le_add_of_nonneg_right positive.le)).trans (late window member)
      · exact fun other member => ⟨first other (early other member).1, (early other member).2⟩
    · have counted : counter.tick length arrival.time =
          { counter with count := counter.count + 1 } := if_neg ended
      rw [counted] at early late ⊢
      refine ⟨arrival :: inside, windows, judged, ?_, ?_, late, rationed⟩
      · rw [grantFirst_cons, Nat.sub_sub]
        simp only [Nat.sub_pos_iff_lt, Nat.succ_le_iff, List.cons_append]
      · refine List.forall_mem_cons.mpr ⟨⟨List.mem_cons_self .., not_le.mp ended⟩, ?_⟩
        exact fun other member =>
          ⟨List.mem_cons_of_mem _ (early other member).1, (early other member).2⟩

theorem rationed_judge (limit : Nat) (quota : String) {client : String} (positive : 0 < length)
    {arrivals : List (Arrival Time)} (own : ∀ arrival ∈ arrivals, arrival.client = client)
    (ordered : arrivals.Pairwise (·.time ≤ ·.time)) :
    ∃ windows, Rationed limit length windows (judge limit length quota [] arrivals) := by
  cases arrivals with
  | nil => exact ⟨[], rfl, nofun, .nil⟩
  | cons arrival rest =>
    obtain ⟨rfl, others⟩ := List.forall_mem_cons.mp own
    obtain ⟨first, ordered⟩ := List.pairwise_cons.mp ordered
    have opened : (count length arrival.time (key quota arrival.client) []).1 =
        ⟨key quota arrival.client, 1, arrival.time + length⟩ :=
      if_neg (not_le.mpr (lt_add_of_pos_right _ positive))
    obtain ⟨inside, windows, judged, verdicts, early, late, rationed⟩ :=
      judge_of_counter limit positive others ordered
        (counter?_count.trans (congrArg some opened))
    simp only [judge, consume, opened, verdicts, Int.ofNat_le]
    refine ⟨_, rationed.cons positive (fun other member => ?_) late⟩
    exact ⟨first other (early other member).1, (early other member).2⟩

end

end OrderDesk.RateLimit
