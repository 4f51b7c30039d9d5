import Mathlib.Algebra.Order.Ring.Int
import OrderDesk.Proofs.Quota.Windows

/-!
What a quota grants. A client is let through as often as the limit says in each of its windows, no
more than twice as often in any stretch of time that is as long as a window, and again as soon as a
window has ended.
-/

namespace OrderDesk.RateLimit

variable {Time : Type} [LinearOrder Time]

def grantedWithin (earliest latest : Time) (verdict : Arrival Time × Bool) : Bool :=
  verdict.2 && (decide (earliest ≤ verdict.1.time) && decide (verdict.1.time ≤ latest))

variable {limit : Nat} {earliest latest : Time} {window : Window Time}
  {windows : List (Window Time)} {judged : List (Arrival Time × Bool)}

theorem countP_verdicts_le :
    (window.verdicts limit).countP (grantedWithin earliest latest) ≤ limit :=
  countP_grantFirst_le fun _ granted => (Bool.and_eq_true_iff.mp granted).1

/-! ## How many are let through in a stretch of time -/

variable [AddCommGroup Time] {length : Time}

theorem Rationed.countP_of_later (rationed : Rationed limit length windows judged)
    (later : ∀ window ∈ windows, latest < window.opening) :
    judged.countP (grantedWithin earliest latest) = 0 := by
  rw [rationed.judged_eq, List.countP_eq_zero]
  intro verdict member granted
  obtain ⟨window, listed, judged⟩ := List.mem_flatMap.mp member
  have opened := (rationed.within window listed _ (Window.mem_arrivals judged)).1
  simp only [grantedWithin, Bool.and_eq_true, decide_eq_true_eq] at granted
  exact absurd (opened.trans granted.2.2) (not_le.mpr (later window listed))

variable [IsOrderedAddMonoid Time]

theorem Rationed.countP_of_opening (rationed : Rationed limit length windows judged)
    (brief : latest ≤ earliest + length)
    (opening : ∀ window ∈ windows, earliest < window.opening) :
    judged.countP (grantedWithin earliest latest) ≤ limit := by
  cases windows with
  | nil => simp [rationed.judged_eq]
  | cons window rest =>
    obtain ⟨later, rfl, rationed'⟩ := rationed.tail
    have none : later.countP (grantedWithin earliest latest) = 0 := by
      refine rationed'.countP_of_later fun next member => ?_
      calc latest
        _ ≤ earliest + length := brief
        _ < window.opening + length :=
          add_lt_add_left (opening window (List.mem_cons_self ..)) length
        _ ≤ next.opening := rationed.end_le next member
    rw [List.countP_append, none, Nat.add_zero]
    exact countP_verdicts_le

theorem Rationed.countP_le (rationed : Rationed limit length windows judged)
    (brief : latest ≤ earliest + length) :
    judged.countP (grantedWithin earliest latest) ≤ 2 * limit := by
  induction windows generalizing judged with
  | nil => simp [rationed.judged_eq]
  | cons window rest induction =>
    obtain ⟨later, rfl, rationed'⟩ := rationed.tail
    rw [List.countP_append]
    by_cases ended : window.opening + length ≤ earliest
    · have none : (window.verdicts limit).countP (grantedWithin earliest latest) = 0 := by
        rw [List.countP_eq_zero]
        intro verdict member granted
        have early := (rationed.within window (List.mem_cons_self ..) _
          (Window.mem_arrivals member)).2
        simp only [grantedWithin, Bool.and_eq_true, decide_eq_true_eq] at granted
        exact absurd granted.2.1 (not_le.mpr (early.trans_le ended))
      rw [none, Nat.zero_add]
      exact induction rationed'
    · rw [Nat.two_mul]
      refine Nat.add_le_add countP_verdicts_le
        (rationed'.countP_of_opening brief fun next member => ?_)
      exact (not_le.mp ended).trans_le (rationed.end_le next member)

/-! ## Who is let through again -/

theorem Rationed.granted_again (rationed : Rationed limit length windows judged)
    (positive : 0 < length) (allowing : 0 < limit) (listed : window ∈ windows)
    {again : Arrival Time × Bool}
    (found : judged.find? (window.opening + length ≤ ·.1.time) = some again) : again.2 = true := by
  induction windows generalizing judged with
  | nil => exact absurd listed List.not_mem_nil
  | cons first rest induction =>
    obtain ⟨later, rfl, rationed'⟩ := rationed.tail
    have opened : first.opening ≤ window.opening := by
      rcases List.mem_cons.mp listed with rfl | listed
      · exact le_refl _
      · exact (le_add_of_nonneg_right positive.le).trans (rationed.end_le window listed)
    have passed : (first.verdicts limit).find? (window.opening + length ≤ ·.1.time) = none := by
      rw [List.find?_eq_none]
      intro verdict member late
      have early := (rationed.within first (List.mem_cons_self ..) _
        (Window.mem_arrivals member)).2
      exact absurd ((add_le_add_left opened length).trans (of_decide_eq_true late))
        (not_le.mpr early)
    rw [List.find?_append, passed, Option.none_or] at found
    rcases List.mem_cons.mp listed with rfl | listed
    · cases rest with
      | nil =>
        rw [rationed'.judged_eq] at found
        nomatch found
      | cons next rest =>
        have opening : later.find? (window.opening + length ≤ ·.1.time) =
            some (next.first, decide (0 < limit)) := by
          rw [rationed'.judged_eq, List.flatMap_cons, Window.verdicts, Window.arrivals,
            grantFirst_cons, List.cons_append]
          exact List.find?_cons_of_pos
            (decide_eq_true (rationed.end_le next (List.mem_cons_self ..)))
        rw [opening] at found
        obtain rfl := Option.some.inj found
        exact decide_eq_true allowing
    · exact induction rationed' listed found

/-! ## What is granted -/

/-- A client is judged as if all others were not there, and by what has come before. Its requests
fall into windows, the first ones of which are let through and no others. -/
theorem quota_granted (limit : Nat) (quota client : String) (positive : 0 < length)
    {arrivals : List (Arrival Time)} (ordered : arrivals.Pairwise (·.time ≤ ·.time)) :
    let judged := (judge limit length quota [] arrivals).filter (·.1.client = client)
    judged = judge limit length quota [] (arrivals.filter (·.client = client)) ∧
    (∀ later, judge limit length quota [] arrivals <+:
      judge limit length quota [] (arrivals ++ later)) ∧
    ∃ windows, windows.flatMap Window.arrivals = arrivals.filter (·.client = client) ∧
      Rationed limit length windows judged ∧
      (∀ earliest latest, latest ≤ earliest + length →
        judged.countP (grantedWithin earliest latest) ≤ 2 * limit) ∧
      (0 < limit → ∀ window ∈ windows, ∀ again,
        judged.find? (window.opening + length ≤ ·.1.time) = some again → again.2 = true) := by
  intro judged
  have alone : judged = judge limit length quota [] (arrivals.filter (·.client = client)) :=
    judge_filter rfl
  refine ⟨alone, fun later => judge_isPrefix, ?_⟩
  have own : ∀ arrival ∈ arrivals.filter (·.client = client), arrival.client = client :=
    fun arrival member => of_decide_eq_true (List.mem_filter.mp member).2
  obtain ⟨windows, rationed⟩ :=
    rationed_judge limit quota positive own (ordered.filter _)
  refine ⟨windows, rationed.arrivals_eq.symm.trans map_judge, alone ▸ rationed, ?_, ?_⟩
  · exact fun earliest latest brief => alone ▸ rationed.countP_le brief
  · exact fun allowing window listed again found =>
      rationed.granted_again positive allowing listed (alone ▸ found)

def sampleArrivals : List (Arrival Int) :=
  [{ connection := some "10.0.0.1", time := 0 }, { connection := some "10.0.0.2", time := 1 },
    { connection := some "10.0.0.1", time := 4 },
    { forwarded := some "10.0.0.1, 10.0.0.9", time := 9 },
    { connection := some "10.0.0.2", time := 9 }, { connection := some "10.0.0.1", time := 10 }]

theorem sample_quota_granted :
    (judge 2 10 "orders" [] sampleArrivals).map (·.2) = [true, true, true, false, true, true] ∧
    ∃ windows, windows.flatMap Window.arrivals = sampleArrivals.filter (·.client = "10.0.0.1") ∧
      Rationed 2 10 windows
        ((judge 2 10 "orders" [] sampleArrivals).filter (·.1.client = "10.0.0.1")) := by
  refine ⟨by decide +kernel, ?_⟩
  obtain ⟨-, -, windows, arrivals, rationed, -, -⟩ :=
    quota_granted 2 "orders" "10.0.0.1" (by decide : (0 : Int) < 10)
      (by decide : sampleArrivals.Pairwise (·.time ≤ ·.time))
  exact ⟨windows, arrivals, rationed⟩

end OrderDesk.RateLimit
