import Mathlib.Algebra.Order.Group.Int
import Mathlib.Algebra.Order.Monoid.Unbundled.Basic
import Mathlib.Data.List.Induction
import OrderDesk.Proofs.Gate.Turns

/-!
When a cache loads. Over any run of invalidations and callers, nothing is loaded while a fresh value
is kept, and whoever is answered gets the value that has been loaded last.
-/

namespace OrderDesk.Cache

/-! ## What holds all along -/

/-- What holds of everything in a list, in the light of what stands before it. -/
def Throughout {α : Type} (Holds : List α → α → Prop) (list : List α) : Prop :=
  ∀ before element later, list = before ++ element :: later → Holds before element

theorem throughout_append_singleton {α : Type} {Holds : List α → α → Prop} {list : List α}
    {last : α} :
    Throughout Holds (list ++ [last]) ↔ Throughout Holds list ∧ Holds list last := by
  constructor
  · intro all
    refine ⟨fun before element later split => ?_, all list last [] rfl⟩
    refine all before element (later ++ [last]) ?_
    rw [split, List.append_assoc, List.cons_append]
  · rintro ⟨all, final⟩ before element later split
    rcases List.eq_nil_or_concat' later with rfl | ⟨between, _, rfl⟩
    · obtain ⟨rfl, ⟨⟩⟩ := List.append_inj' split rfl
      exact final
    · rw [← List.cons_append, ← List.append_assoc] at split
      exact all before element between (List.append_inj' split rfl).1

/-! ## What has been loaded last -/

section

variable {Value Time : Type}

def Step.time? : Step Time → Option Time
  | invalidate => none
  | call now _ => some now

def Happening.leaves (last : Option (Value × Time)) : Happening Value Time → Option (Value × Time)
  | invalidated => none
  | loaded value time => some (value, time)
  | _ => last

def lastLoad (history : List (Happening Value Time)) : Option (Value × Time) :=
  history.foldl Happening.leaves none

theorem lastLoad_append {history : List (Happening Value Time)} {happening : Happening Value Time} :
    lastLoad (history ++ [happening]) = happening.leaves (lastLoad history) :=
  List.foldl_concat ..

end

theorem fresh?_eq_some {Value Time : Type} [Sub Time] [LT Time]
    [DecidableRel (· < · : Time → Time → Prop)] {lifetime now : Time} {cache : Cache Value Time}
    {value : Value} :
    cache.fresh? lifetime now = some value ↔
      ∃ loadedAt, cache.held = some (value, loadedAt) ∧ now - loadedAt < lifetime := by
  rw [Cache.fresh?]
  cases cache.held with
  | none => simp
  | some kept =>
    constructor
    · intro found
      obtain ⟨recent, same⟩ := Option.ite_none_right_eq_some.mp found
      exact ⟨kept.2, congrArg (fun value => some (value, kept.2)) (Option.some.inj same), recent⟩
    · rintro ⟨loadedAt, ⟨⟩, recent⟩
      exact if_pos recent

section

variable {Value Time : Type} [AddCommGroup Time] [LinearOrder Time] (lifetime : Time)

/-- A value with which a caller is answered has been loaded last, not too long before or at the same
time. -/
def Told (history : List (Happening Value Time)) : Prop :=
  ∀ before caller value time later, history = before ++ .answered caller value time :: later →
    ∃ loadedAt, lastLoad before = some (value, loadedAt) ∧ loadedAt ≤ time ∧
      (time - loadedAt < lifetime ∨ loadedAt = time)

/-- A site that has been visited at some times. -/
structure Site.Sound (times : List Time) (site : Site Value Time) : Prop where
  held_eq : site.cache.held = lastLoad site.history
  past : ∀ value loadedAt, site.cache.held = some (value, loadedAt) → loadedAt ∈ times
  told : Told lifetime site.history

variable {lifetime} {now : Time} {load : Nat → Value} {times : List Time}
  {history : List (Happening Value Time)} {happening : Happening Value Time}

theorem told_iff_throughout : Told lifetime history ↔ Throughout (fun before happening =>
    ∀ caller value time, happening = .answered caller value time →
      ∃ loadedAt, lastLoad before = some (value, loadedAt) ∧ loadedAt ≤ time ∧
        (time - loadedAt < lifetime ∨ loadedAt = time)) history := by
  constructor
  · rintro told before _ later split caller value time rfl
    exact told before caller value time later split
  · intro all before caller value time later split
    exact all before _ later split caller value time rfl

theorem told_append_singleton : Told lifetime (history ++ [happening]) ↔ Told lifetime history ∧
    ∀ caller value time, happening = .answered caller value time →
      ∃ loadedAt, lastLoad history = some (value, loadedAt) ∧ loadedAt ≤ time ∧
        (time - loadedAt < lifetime ∨ loadedAt = time) := by
  rw [told_iff_throughout, told_iff_throughout, throughout_append_singleton]

theorem Crowd.sound_of_move {crowd next : Crowd Value Time} {move : Move}
    (sound : crowd.toSite.Sound lifetime (times ++ [now])) (past : ∀ time ∈ times, time ≤ now)
    (made : crowd.move lifetime now load move = some next) :
    next.toSite.Sound lifetime (times ++ [now]) := by
  have upToNow : ∀ time ∈ times ++ [now], time ≤ now := by
    simpa [or_imp, forall_and] using past
  have answered {value : Value} (caller : Nat)
      (fresh : crowd.cache.fresh? lifetime now = some value) :
      lastLoad (crowd.history ++ [.answered caller value now]) = lastLoad crowd.history ∧
        Told lifetime (crowd.history ++ [.answered caller value now]) := by
    obtain ⟨loadedAt, held, recent⟩ := fresh?_eq_some.mp fresh
    refine ⟨lastLoad_append, told_append_singleton.mpr ⟨sound.told, ?_⟩⟩
    rintro _ _ _ ⟨⟩
    exact ⟨loadedAt, sound.held_eq.symm.trans held, upToNow _ (sound.past _ _ held), .inl recent⟩
  cases moved_of_move made with
  | served fresh =>
    have told := answered crowd.arrived fresh
    exact ⟨sound.held_eq.trans told.1.symm, sound.past, told.2⟩
  | @servedLate caller waiting value turn free fresh =>
    have told := answered caller fresh
    exact ⟨sound.held_eq.trans told.1.symm, sound.past, told.2⟩
  | queued | entered => exact sound
  | @loaded caller value turn value_eq =>
    have loads : lastLoad (crowd.history ++ [.loaded value now]) = some (value, now) :=
      lastLoad_append
    have split : crowd.history ++ [.loaded value now, .answered caller value now] =
        (crowd.history ++ [.loaded value now]) ++ [.answered caller value now] := by
      rw [List.append_assoc]
      rfl
    constructor
    · change some (value, now) = lastLoad (crowd.history ++ [_, _])
      rw [split, lastLoad_append, loads]
      rfl
    · rintro _ _ ⟨⟩
      exact List.mem_append_right _ (List.mem_singleton_self now)
    · change Told lifetime (crowd.history ++ [_, _])
      rw [split, told_append_singleton, told_append_singleton]
      refine ⟨⟨sound.told, nofun⟩, ?_⟩
      rintro _ _ _ ⟨⟩
      exact ⟨now, loads, le_refl now, .inr rfl⟩

theorem Site.Sound.after {site next : Site Value Time} {step : Step Time}
    (sound : site.Sound lifetime times)
    (past : ∀ now ∈ step.time?, ∀ time ∈ times, time ≤ now)
    (made : site.after lifetime load step = some next) :
    next.Sound lifetime (times ++ step.time?.toList) := by
  cases step with
  | invalidate =>
    obtain rfl := Option.some.inj made
    refine ⟨?_, nofun, told_append_singleton.mpr ⟨sound.told, nofun⟩⟩
    change none = lastLoad (site.history ++ [.invalidated])
    rw [lastLoad_append]
    rfl
  | call now schedule =>
    obtain ⟨crowd, moved, done⟩ := Option.bind_eq_some_iff.mp made
    obtain ⟨-, done⟩ := Option.ite_none_right_eq_some.mp done
    obtain rfl := Option.some.inj done
    refine Crowd.moves_induction (fun crowd => crowd.toSite.Sound lifetime (times ++ [now])) ?_
      (fun _ _ _ sound made => Crowd.sound_of_move sound (past now rfl) made) moved
    exact ⟨sound.held_eq, fun value loadedAt held =>
      List.mem_append_left _ (sound.past value loadedAt held), sound.told⟩

theorem sound_afterAll {steps : List (Step Time)} {site : Site Value Time}
    (clock : (steps.filterMap (·.time?)).Pairwise (· ≤ ·))
    (ran : ({} : Site Value Time).afterAll lifetime load steps = some site) :
    site.Sound lifetime (steps.filterMap (·.time?)) := by
  induction steps using List.reverseRecOn generalizing site with
  | nil =>
    obtain rfl := Option.some.inj ran
    exact ⟨rfl, nofun, by simp [Told]⟩
  | append_singleton steps step induction =>
    have added : [step].filterMap (·.time?) = step.time?.toList := by
      cases step <;> rfl
    rw [List.filterMap_append, added] at clock ⊢
    obtain ⟨earlier, -, upTo⟩ := List.pairwise_append.mp clock
    rw [Site.afterAll, List.foldlM_append] at ran
    obtain ⟨before, began, rest⟩ := Option.bind_eq_some_iff.mp ran
    obtain ⟨_, made, same⟩ := Option.bind_eq_some_iff.mp rest
    obtain rfl := Option.some.inj same
    refine (induction earlier began).after (fun now timed time member => ?_) made
    exact upTo time member now (Option.mem_toList.mpr timed)

/-! ## What some callers get -/

variable (lifetime now load) in
/-- What happens at a site where callers come at one time who are all answered. -/
structure Site.Serves (site : Site Value Time) (callers : Nat)
    (happened : List (Happening Value Time)) : Prop where
  /-- A fresh value is for all, and nothing is loaded. -/
  kept : ∀ value loadedAt, site.cache.held = some (value, loadedAt) → now - loadedAt < lifetime →
    happened.filterMap (·.load?) = [] ∧
      (happened.filterMap (·.answer?)).Perm ((List.range callers).map (·, value))
  /-- Without one, a value that lasts is loaded once for all. -/
  shared : (∀ value loadedAt, site.cache.held = some (value, loadedAt) →
      ¬now - loadedAt < lifetime) → 0 < lifetime →
    happened.filterMap (·.load?) = [(site.next load 0, now)] ∧
      (happened.filterMap (·.answer?)).Perm ((List.range callers).map (·, site.next load 0))
  /-- Where no value lasts, each caller gets one of their own, in the order of their coming. -/
  single : (∀ value loadedAt, site.cache.held = some (value, loadedAt) →
      ¬now - loadedAt < lifetime) → lifetime = 0 →
    happened.filterMap (·.load?) =
        (List.range callers).map (fun caller => (site.next load caller, now)) ∧
      happened.filterMap (·.answer?) =
        (List.range callers).map fun caller => (caller, site.next load caller)

variable {site after : Site Value Time} {schedule : List Move}

theorem exists_crowd (called : site.after lifetime load (.call now schedule) = some after) :
    ∃ crowd : Crowd Value Time, crowd.toSite = after ∧
      crowd.arrived = schedule.count .arrive ∧ crowd.isDone = true ∧
      Crowd.Stage lifetime now load site crowd := by
  obtain ⟨crowd, moved, ended⟩ := Option.bind_eq_some_iff.mp called
  obtain ⟨done, same⟩ := Option.ite_none_right_eq_some.mp ended
  exact ⟨crowd, Option.some.inj same, (Crowd.arrived_of_moves moved).trans (Nat.zero_add _), done,
    Crowd.stage_of_moves moved⟩

theorem serves_of_called (visited : .arrive ∈ schedule)
    (called : site.after lifetime load (.call now schedule) = some after) :
    ∃ happened, after.history = site.history ++ happened ∧
      site.Serves lifetime now load (schedule.count .arrive) happened := by
  obtain ⟨crowd, rfl, arrived, done, stage⟩ := exists_crowd called
  have some_arrived : crowd.arrived ≠ 0 :=
    arrived ▸ Nat.ne_of_gt (List.count_pos_iff.mpr visited)
  rw [← arrived]
  have found {value : Value} {loadedAt : Time} (stale : site.cache.fresh? lifetime now = none)
      (held : site.cache.held = some (value, loadedAt)) : ¬now - loadedAt < lifetime :=
    fun recent => Option.some_ne_none value <|
      (fresh?_eq_some.mpr ⟨loadedAt, held, recent⟩).symm.trans stale
  rcases stage.of_isDone done with ⟨value, fresh, -, history_eq⟩ |
    ⟨stale, ⟨single, -, history_eq⟩ | ⟨lasting, -, served, all, history_eq⟩⟩
  · obtain ⟨loadedAt, held, recent⟩ := fresh?_eq_some.mp fresh
    refine ⟨_, history_eq, ⟨fun other _ keeps _ => ?_, fun stale => ?_, fun stale => ?_⟩⟩
    · obtain rfl := congrArg Prod.fst (Option.some.inj (held.symm.trans keeps))
      rw [loads_answered, answers_answered]
      exact ⟨rfl, .refl _⟩
    · exact absurd recent (stale value loadedAt held)
    · exact absurd recent (stale value loadedAt held)
  · have brief : lifetime ≤ 0 := single.resolve_left some_arrived
    refine ⟨_, history_eq, ⟨fun _ _ held recent => ?_, fun _ lasting => ?_, fun _ _ => ?_⟩⟩
    · exact absurd recent (found stale held)
    · exact absurd lasting (not_lt.mpr brief)
    · exact ⟨loads_eachLoading _, answers_eachLoading _⟩
  · refine ⟨_, history_eq, ⟨fun _ _ held recent => ?_, fun _ _ => ?_, fun _ none => ?_⟩⟩
    · exact absurd recent (found stale held)
    · rw [loads_sharing, answers_sharing]
      exact ⟨rfl, all.map _⟩
    · exact absurd none lasting.ne'

theorem serve_of_called (visited : .arrive ∈ schedule)
    (called : site.after lifetime load (.call now schedule) = some after) :
    ∃ happened values, after.history = site.history ++ happened ∧
      serve lifetime now load (schedule.count .arrive) site.cache
          (site.history.filterMap (·.load?)).length =
        (values, after.cache, (after.history.filterMap (·.load?)).length) ∧
      (happened.filterMap (·.answer?)).Perm ((List.range (schedule.count .arrive)).zip values) := by
  obtain ⟨crowd, rfl, arrived, done, stage⟩ := exists_crowd called
  obtain ⟨others, some_arrived⟩ := Nat.exists_eq_succ_of_ne_zero
    (Nat.ne_of_gt (List.count_pos_iff.mpr visited))
  rw [← arrived] at some_arrived ⊢
  have zip_replicate (value : Value) : (List.range crowd.arrived).zip
      (List.replicate crowd.arrived value) = (List.range crowd.arrived).map (·, value) := by
    rw [List.map_prod_left_eq_zip, List.map_const', List.length_range]
  rcases stage.of_isDone done with ⟨value, fresh, cache_eq, history_eq⟩ |
    ⟨stale, ⟨single, cache_eq, history_eq⟩ | ⟨lasting, cache_eq, served, all, history_eq⟩⟩
  · refine ⟨_, List.replicate crowd.arrived value, history_eq, ?_, ?_⟩
    · rw [serve_of_fresh fresh, cache_eq, history_eq, List.filterMap_append, loads_answered,
        List.append_nil]
    · rw [answers_answered, zip_replicate]
  · have brief : lifetime ≤ 0 := single.resolve_left (by omega)
    have each : serve lifetime now load crowd.arrived site.cache
        (site.history.filterMap (·.load?)).length = _ := serve_eachLoading stale brief 0
    simp only [Nat.zero_add] at each
    refine ⟨_, (List.range crowd.arrived).map (site.next load), history_eq, ?_, ?_⟩
    · rw [each, cache_eq, history_eq, List.filterMap_append, loads_eachLoading,
        List.length_append, List.length_map, List.length_range]
    · rw [answers_eachLoading, List.map_prod_left_eq_zip]
  · refine ⟨_, List.replicate crowd.arrived (site.next load 0), history_eq, ?_, ?_⟩
    · rw [some_arrived, serve_sharing stale lasting, cache_eq, history_eq, List.filterMap_append,
        loads_sharing, List.length_append, List.length_singleton]
    · rw [answers_sharing, zip_replicate]
      exact all.map _

/-! ## What a cache does over a run -/

/-- Whatever has happened at a cache, callers who come at one time find a fresh value, or they make
one load in all where a value lasts, or one load each where none does. Each is answered with what
has been loaded last, just as if all had come one after the other, and nobody waits forever. -/
theorem loads_when_due (load : Nat → Value) {steps : List (Step Time)}
    (clock : (steps.filterMap (·.time?) ++ [now]).Pairwise (· ≤ ·))
    (ran : ({} : Site Value Time).afterAll lifetime load steps = some site) :
    site.cache.held = lastLoad site.history ∧
    (∀ schedule after, .arrive ∈ schedule →
      site.after lifetime load (.call now schedule) = some after →
      ∃ happened values, after.history = site.history ++ happened ∧
        site.Serves lifetime now load (schedule.count .arrive) happened ∧
        Told lifetime after.history ∧
        serve lifetime now load (schedule.count .arrive) site.cache
            (site.history.filterMap (·.load?)).length =
          (values, after.cache, (after.history.filterMap (·.load?)).length) ∧
        (happened.filterMap (·.answer?)).Perm
          ((List.range (schedule.count .arrive)).zip values)) ∧
    ∀ begun crowd, Crowd.moves lifetime now load { toSite := site } begun = some crowd →
      begun.length ≤ 3 * begun.count .arrive ∧
      ∃ rest after, rest.count .arrive = 0 ∧
        site.after lifetime load (.call now (begun ++ rest)) = some after := by
  obtain ⟨earlier, -, upTo⟩ := List.pairwise_append.mp clock
  have sound := sound_afterAll earlier ran
  refine ⟨sound.held_eq, fun schedule after visited called => ?_, fun begun crowd moved => ?_⟩
  · obtain ⟨happened, history_eq, serves⟩ := serves_of_called visited called
    obtain ⟨other, values, same, served, answers⟩ := serve_of_called visited called
    obtain rfl := List.append_cancel_left (history_eq.symm.trans same)
    have told := (sound.after (fun _ timed time member => ?_) called).told
    · exact ⟨happened, values, history_eq, serves, told, served, answers⟩
    · obtain rfl := Option.some.inj timed
      exact upTo time member now (List.mem_singleton_self now)
  · have few := Crowd.length_of_moves moved
    obtain ⟨rest, ended, alone, completed, done⟩ :=
      Crowd.exists_completion lifetime now load crowd
    have nothing : ({ toSite := site } : Crowd Value Time).remaining = 0 := rfl
    refine ⟨by omega, rest, ended.toSite, alone, ?_⟩
    refine Option.bind_eq_some_iff.mpr ⟨ended, ?_, if_pos done⟩
    rw [Crowd.moves_append, moved]
    exact completed

end

def sampleVisits : List (Step Int) := [
  .call 10 [.arrive, .enter, .arrive, .finish, .arrive, .enter],
  .invalidate,
  .call 12 [.arrive, .enter, .finish]]

def sampleSite : Site Nat Int where
  cache := .store 101 12
  history := [
    .loaded 100 10, .answered 0 100 10, .answered 2 100 10, .answered 1 100 10, .invalidated,
    .loaded 101 12, .answered 0 101 12]

theorem sample_loads_when_due :
    (sampleVisits.filterMap Step.time? ++ [17]).Pairwise (· ≤ ·) ∧
      ({} : Site Nat Int).afterAll 5 (· + 100) sampleVisits = some sampleSite ∧
      sampleSite.cache.held = lastLoad sampleSite.history ∧
      ∀ schedule after, .arrive ∈ schedule →
        sampleSite.after 5 (· + 100) (.call 17 schedule) = some after →
        ∃ happened, after.history = sampleSite.history ++ happened ∧
          sampleSite.Serves 5 17 (· + 100) (schedule.count .arrive) happened := by
  have clock : (sampleVisits.filterMap Step.time? ++ [17]).Pairwise (· ≤ ·) := by decide
  have ran : ({} : Site Nat Int).afterAll 5 (· + 100) sampleVisits = some sampleSite := by decide
  obtain ⟨held, serving, -⟩ := loads_when_due (· + 100) clock ran
  refine ⟨clock, ran, held, fun schedule after visited called => ?_⟩
  obtain ⟨happened, -, history_eq, serves, -⟩ := serving schedule after visited called
  exact ⟨happened, history_eq, serves⟩

end OrderDesk.Cache
