import Mathlib.Algebra.Order.Group.Defs
import Mathlib.Data.List.Perm.Basic
import OrderDesk.Gate.Cache

/-!
Callers who come at one time. Whatever turns they take, either they find a fresh value, or one of
them loads it for all, or each of them loads a value, in the order in which they have come.
-/

namespace OrderDesk.Cache

/-! ## Moves and schedules -/

theorem Crowd.isDone_iff {Value Time : Type} {crowd : Crowd Value Time} :
    crowd.isDone = true ↔ crowd.waiting = [] ∧ crowd.loading = none := by
  rw [isDone, Bool.and_eq_true, List.isEmpty_iff, Option.isNone_iff_eq_none]

section

variable {Value Time : Type} [Sub Time] [LT Time] [DecidableRel (· < · : Time → Time → Prop)]
  {lifetime now : Time} {load : Nat → Value} {crowd after : Crowd Value Time}

theorem Crowd.moves_induction (Invariant : Crowd Value Time → Prop) (start : Invariant crowd)
    (kept : ∀ crowd move next, Invariant crowd → crowd.move lifetime now load move = some next →
      Invariant next)
    {schedule : List Move} (moved : crowd.moves lifetime now load schedule = some after) :
    Invariant after := by
  induction schedule generalizing crowd with
  | nil => exact Option.some.inj moved ▸ start
  | cons move rest induction =>
    obtain ⟨next, made, moved⟩ := Option.bind_eq_some_iff.mp moved
    exact induction (kept crowd move next start made) moved

theorem Crowd.moves_append {first rest : List Move} :
    crowd.moves lifetime now load (first ++ rest) =
      (crowd.moves lifetime now load first).bind (·.moves lifetime now load rest) := by
  induction first generalizing crowd with
  | nil => rfl
  | cons move first induction =>
    rw [List.cons_append, moves, moves, Option.bind_assoc]
    exact congrArg _ (funext fun _ => induction)

inductive Crowd.Moved (lifetime now : Time) (load : Nat → Value) (crowd : Crowd Value Time) :
    Move → Crowd Value Time → Prop
  | served {value : Value} (fresh : crowd.cache.fresh? lifetime now = some value) :
      Moved lifetime now load crowd .arrive { crowd with
        history := crowd.history ++ [.answered crowd.arrived value now]
        arrived := crowd.arrived + 1 }
  | queued (stale : crowd.cache.fresh? lifetime now = none) :
      Moved lifetime now load crowd .arrive { crowd with
        waiting := crowd.waiting ++ [crowd.arrived], arrived := crowd.arrived + 1 }
  | servedLate {caller : Nat} {waiting : List Nat} {value : Value}
      (turn : crowd.waiting = caller :: waiting) (free : crowd.loading = none)
      (fresh : crowd.cache.fresh? lifetime now = some value) :
      Moved lifetime now load crowd .enter { crowd with
        history := crowd.history ++ [.answered caller value now], waiting }
  | entered {caller : Nat} {waiting : List Nat} (turn : crowd.waiting = caller :: waiting)
      (free : crowd.loading = none) (stale : crowd.cache.fresh? lifetime now = none) :
      Moved lifetime now load crowd .enter { crowd with waiting, loading := some caller }
  | loaded {caller : Nat} {value : Value} (turn : crowd.loading = some caller)
      (value_eq : value = load (crowd.history.filterMap (·.load?)).length) :
      Moved lifetime now load crowd .finish { crowd with
        cache := .store value now
        history := crowd.history ++ [.loaded value now, .answered caller value now]
        loading := none }

theorem Crowd.moved_of_move {move : Move}
    (made : crowd.move lifetime now load move = some after) :
    crowd.Moved lifetime now load move after := by
  cases move with
  | arrive =>
    rw [Crowd.move] at made
    split at made
    · next fresh => exact Option.some.inj made ▸ .served fresh
    · next stale => exact Option.some.inj made ▸ .queued stale
  | enter =>
    rw [Crowd.move] at made
    split at made
    · next turn free =>
      split at made
      · next fresh => exact Option.some.inj made ▸ .servedLate turn free fresh
      · next stale => exact Option.some.inj made ▸ .entered turn free stale
    · nomatch made
  | finish =>
    rw [Crowd.move] at made
    split at made
    · next turn => exact Option.some.inj made ▸ .loaded turn rfl
    · nomatch made

theorem Crowd.arrived_of_moves {schedule : List Move}
    (moved : crowd.moves lifetime now load schedule = some after) :
    after.arrived = crowd.arrived + schedule.count .arrive := by
  induction schedule generalizing crowd with
  | nil => exact Option.some.inj moved ▸ rfl
  | cons move rest induction =>
    obtain ⟨next, made, moved⟩ := Option.bind_eq_some_iff.mp moved
    rw [induction moved, List.count_cons]
    cases moved_of_move made <;> simp <;> omega

/-! ## Nobody waits forever -/

def Crowd.remaining (crowd : Crowd Value Time) : Nat :=
  2 * crowd.waiting.length + crowd.loading.toList.length

theorem Crowd.exists_move (lifetime now : Time) (load : Nat → Value)
    (waits : crowd.isDone = false) :
    ∃ move next, move ≠ .arrive ∧ crowd.move lifetime now load move = some next ∧
      next.remaining < crowd.remaining := by
  cases loading : crowd.loading with
  | some caller =>
    refine ⟨.finish, _, nofun, by rw [Crowd.move, loading], ?_⟩
    simp [remaining, loading]
  | none =>
    cases waiting : crowd.waiting with
    | nil => exact absurd (isDone_iff.mpr ⟨waiting, loading⟩) (Bool.eq_false_iff.mp waits)
    | cons caller rest =>
      cases fresh : crowd.cache.fresh? lifetime now with
      | some value =>
        refine ⟨.enter, _, nofun, by rw [Crowd.move, waiting, loading]; dsimp only; rw [fresh], ?_⟩
        simp [remaining, waiting, loading]
      | none =>
        refine ⟨.enter, _, nofun, by rw [Crowd.move, waiting, loading]; dsimp only; rw [fresh], ?_⟩
        simp [remaining, waiting, loading]
        omega

/-- Whatever turns have been taken, all who have come can be answered without anybody else. -/
theorem Crowd.exists_completion (lifetime now : Time) (load : Nat → Value)
    (crowd : Crowd Value Time) :
    ∃ schedule after, schedule.count .arrive = 0 ∧
      crowd.moves lifetime now load schedule = some after ∧ after.isDone = true := by
  cases done : crowd.isDone with
  | true => exact ⟨[], crowd, rfl, rfl, done⟩
  | false =>
    obtain ⟨move, next, own, made, fewer⟩ := exists_move lifetime now load done
    obtain ⟨schedule, after, alone, moved, done⟩ := exists_completion lifetime now load next
    refine ⟨move :: schedule, after, ?_, by rw [moves, made]; exact moved, done⟩
    rw [List.count_cons_of_ne own, alone]
termination_by crowd.remaining

theorem Crowd.length_of_moves {schedule : List Move}
    (moved : crowd.moves lifetime now load schedule = some after) :
    schedule.length + after.remaining ≤ crowd.remaining + 3 * schedule.count .arrive := by
  induction schedule generalizing crowd with
  | nil => simp [Option.some.inj moved]
  | cons move rest induction =>
    obtain ⟨next, made, moved⟩ := Option.bind_eq_some_iff.mp moved
    have fewer := induction moved
    have cost : next.remaining + 1 ≤ crowd.remaining + 3 * [move].count .arrive := by
      cases moved_of_move made <;> simp_all [remaining] <;> omega
    rw [List.length_cons, ← List.singleton_append, List.count_append]
    omega

end

/-! ## What a crowd comes to -/

section

variable {Value Time : Type} (now : Time) (load : Nat → Value) (site : Site Value Time)

def Site.next (later : Nat) : Value :=
  load ((site.history.filterMap (·.load?)).length + later)

def Site.cacheAfter : Nat → Cache Value Time
  | 0 => site.cache
  | served + 1 => .store (site.next load served) now

def Site.eachLoading (served : Nat) : List (Happening Value Time) :=
  (List.range served).flatMap fun caller =>
    [.loaded (site.next load caller) now, .answered caller (site.next load caller) now]

def Site.sharing (served : List Nat) : List (Happening Value Time) :=
  .loaded (site.next load 0) now :: served.map (.answered · (site.next load 0) now)

variable {now load site}

theorem loads_answered (callers : List Nat) (value : Value) :
    (callers.map (Happening.answered · value now)).filterMap (·.load?) = [] := by
  rw [List.filterMap_map, List.filterMap_eq_nil_iff]
  exact fun _ _ => rfl

theorem answers_answered (callers : List Nat) (value : Value) :
    (callers.map (Happening.answered · value now)).filterMap (·.answer?) =
      callers.map (·, value) := by
  rw [List.filterMap_map]
  exact congrFun List.filterMap_eq_map' callers

theorem loads_sharing (served : List Nat) :
    (site.sharing now load served).filterMap (·.load?) = [(site.next load 0, now)] :=
  congrArg (List.cons _) (loads_answered served _)

theorem answers_sharing (served : List Nat) :
    (site.sharing now load served).filterMap (·.answer?) = served.map (·, site.next load 0) :=
  answers_answered served _

theorem loads_eachLoading (served : Nat) :
    (site.eachLoading now load served).filterMap (·.load?) =
      (List.range served).map fun caller => (site.next load caller, now) := by
  rw [Site.eachLoading, List.filterMap_flatMap]
  exact List.map_eq_flatMap.symm

theorem answers_eachLoading (served : Nat) :
    (site.eachLoading now load served).filterMap (·.answer?) =
      (List.range served).map fun caller => (caller, site.next load caller) := by
  rw [Site.eachLoading, List.filterMap_flatMap]
  exact List.map_eq_flatMap.symm

theorem eachLoading_succ (served : Nat) :
    site.eachLoading now load (served + 1) = site.eachLoading now load served ++
      [.loaded (site.next load served) now, .answered served (site.next load served) now] := by
  rw [Site.eachLoading, List.range_succ, List.flatMap_append, List.flatMap_singleton,
    Site.eachLoading]

theorem sharing_append (served : List Nat) (caller : Nat) :
    site.sharing now load (served ++ [caller]) =
      site.sharing now load served ++ [.answered caller (site.next load 0) now] := by
  rw [Site.sharing, List.map_append, List.map_singleton, ← List.cons_append, Site.sharing]

theorem eq_of_range_append {served arrived caller : Nat} {rest : List Nat}
    (queue : List.range served ++ caller :: rest = List.range arrived) : caller = served := by
  have at_served := congrArg (·[served]?) queue
  have within : served < arrived := by
    have lengths := congrArg List.length queue
    simp at lengths
    omega
  simpa [within] using at_served

end

section

variable {Value Time : Type} [AddCommGroup Time] [LinearOrder Time] (lifetime now : Time)
  (load : Nat → Value) (site : Site Value Time)

/-- Where a crowd has got to. Either a fresh value was there from the beginning; or it was not, and
all who have come are in the queue, but for those who have loaded a value each, where no value
lasts; or the first caller has loaded a value for all. -/
inductive Crowd.Stage : Crowd Value Time → Prop
  | found {value : Value} (fresh : site.cache.fresh? lifetime now = some value) (arrived : Nat) :
      Stage {
        cache := site.cache
        history := site.history ++ (List.range arrived).map (.answered · value now)
        arrived }
  | queued (stale : site.cache.fresh? lifetime now = none) {served arrived : Nat}
      {waiting : List Nat} {loading : Option Nat} (single : served = 0 ∨ lifetime ≤ 0)
      (queue : List.range served ++ (loading.toList ++ waiting) = List.range arrived) :
      Stage {
        cache := site.cacheAfter now load served
        history := site.history ++ site.eachLoading now load served
        waiting, loading, arrived }
  | shared (stale : site.cache.fresh? lifetime now = none) (lasting : 0 < lifetime)
      {served waiting : List Nat} {arrived : Nat}
      (all : (served ++ waiting).Perm (List.range arrived)) :
      Stage {
        cache := .store (site.next load 0) now
        history := site.history ++ site.sharing now load served
        waiting, arrived }

variable {lifetime now load site}

theorem fresh?_store (now : Time) (value : Value) :
    (Cache.store value now).fresh? lifetime now = if 0 < lifetime then some value else none := by
  change (if now - now < lifetime then some value else none) = _
  rw [sub_self]

variable {crowd next : Crowd Value Time}

theorem fresh?_cacheAfter (now : Time) (load : Nat → Value)
    (stale : site.cache.fresh? lifetime now = none) {served : Nat}
    (single : served = 0 ∨ lifetime ≤ 0) :
    (site.cacheAfter now load served).fresh? lifetime now = none := by
  cases served with
  | zero => exact stale
  | succ served =>
    have brief : lifetime ≤ 0 := single.resolve_left (Nat.succ_ne_zero served)
    rw [Site.cacheAfter, fresh?_store, if_neg (not_lt.mpr brief)]

theorem Crowd.Stage.moved (stage : Stage lifetime now load site crowd) {move : Move}
    (made : crowd.move lifetime now load move = some next) :
    Stage lifetime now load site next := by
  have moved := moved_of_move made
  cases stage with
  | @found value fresh arrived =>
    cases moved with
    | served still =>
      obtain rfl := Option.some.inj (fresh.symm.trans still)
      have grown : (List.range arrived).map (.answered · value now) ++
            [.answered arrived value now] =
          (List.range (arrived + 1)).map (Happening.answered · value now) := by
        rw [List.range_succ, List.map_append, List.map_singleton]
      rw [List.append_assoc, grown]
      exact .found fresh (arrived + 1)
    | queued stale => cases fresh.symm.trans stale
    | servedLate turn | entered turn | loaded turn => nomatch turn
  | @queued stale served arrived waiting loading single queue =>
    have unfresh := fresh?_cacheAfter now load stale single
    cases moved with
    | served fresh | servedLate _ _ fresh => cases unfresh.symm.trans fresh
    | queued =>
      refine .queued stale single ?_
      rw [← List.append_assoc, ← List.append_assoc, List.append_assoc (List.range served), queue,
        List.range_succ]
    | entered turn free =>
      obtain rfl : loading = none := free
      obtain rfl := turn
      exact .queued stale single queue
    | @loaded caller value turn value_eq =>
      obtain rfl : loading = some caller := turn
      obtain rfl := eq_of_range_append queue
      have next_eq : value = site.next load caller := by
        rw [value_eq, List.filterMap_append, List.length_append, loads_eachLoading, List.length_map,
          List.length_range, Site.next]
      rw [next_eq]
      rcases lt_or_ge 0 lifetime with lasting | brief
      · obtain rfl := single.resolve_right (not_le.mpr lasting)
        have all : ([0] ++ waiting).Perm (List.range arrived) := .of_eq queue
        have first : site.history ++ site.eachLoading now load 0 = site.history :=
          List.append_nil _
        rw [first]
        exact .shared stale lasting all
      · have grown : List.range (caller + 1) ++ waiting = List.range arrived := by
          rw [List.range_succ, List.append_assoc]
          exact queue
        rw [List.append_assoc, ← eachLoading_succ]
        exact @queued _ _ _ _ lifetime now load site stale (caller + 1) arrived waiting none
          (.inr brief) grown
  | @shared stale lasting served waiting arrived all =>
    have fresh := (fresh?_store now (site.next load 0)).trans (if_pos lasting)
    cases moved with
    | served still =>
      obtain rfl := Option.some.inj (fresh.symm.trans still)
      have grown : ((served ++ [arrived]) ++ waiting).Perm (List.range (arrived + 1)) := by
        rw [List.range_succ, List.append_assoc]
        refine (List.perm_append_comm.append_left served).trans ?_
        rw [← List.append_assoc]
        exact all.append_right [arrived]
      rw [List.append_assoc, ← sharing_append]
      exact .shared stale lasting grown
    | queued unfresh | entered _ _ unfresh => cases fresh.symm.trans unfresh
    | @servedLate caller rest value turn free still =>
      obtain rfl := Option.some.inj (fresh.symm.trans still)
      obtain rfl : waiting = caller :: rest := turn
      have served_next : ((served ++ [caller]) ++ rest).Perm (List.range arrived) := by
        rwa [List.append_assoc]
      rw [List.append_assoc, ← sharing_append]
      exact .shared stale lasting served_next
    | loaded turn => nomatch turn

theorem Crowd.Stage.of_isDone (stage : Stage lifetime now load site crowd)
    (done : crowd.isDone = true) :
    (∃ value, site.cache.fresh? lifetime now = some value ∧ crowd.cache = site.cache ∧
      crowd.history = site.history ++ (List.range crowd.arrived).map (.answered · value now)) ∨
    site.cache.fresh? lifetime now = none ∧
      ((crowd.arrived = 0 ∨ lifetime ≤ 0) ∧
          crowd.cache = site.cacheAfter now load crowd.arrived ∧
          crowd.history = site.history ++ site.eachLoading now load crowd.arrived ∨
        0 < lifetime ∧ crowd.cache = .store (site.next load 0) now ∧
          ∃ served, served.Perm (List.range crowd.arrived) ∧
            crowd.history = site.history ++ site.sharing now load served) := by
  obtain ⟨nobody, free⟩ := isDone_iff.mp done
  cases stage with
  | found fresh arrived => exact .inl ⟨_, fresh, rfl, rfl⟩
  | @queued stale served arrived waiting loading single queue =>
    obtain rfl : waiting = [] := nobody
    obtain rfl : loading = none := free
    obtain rfl : served = arrived := by
      simpa using congrArg List.length queue
    exact .inr ⟨stale, .inl ⟨single, rfl, rfl⟩⟩
  | @shared stale lasting served waiting arrived all =>
    obtain rfl : waiting = [] := nobody
    rw [List.append_nil] at all
    exact .inr ⟨stale, .inr ⟨lasting, rfl, served, all, rfl⟩⟩

theorem Crowd.stage_of_moves {schedule : List Move}
    (moved : Crowd.moves lifetime now load { toSite := site } schedule = some crowd) :
    Stage lifetime now load site crowd := by
  refine moves_induction (Stage lifetime now load site) ?_
    (fun _ _ _ stage made => stage.moved made) moved
  cases fresh : site.cache.fresh? lifetime now with
  | some value =>
    have found : Stage lifetime now load site _ := .found fresh 0
    rwa [List.range_zero, List.map_nil, List.append_nil] at found
  | none =>
    have queued := @Stage.queued _ _ _ _ lifetime now load site fresh 0 0 [] none (.inl rfl) rfl
    rwa [Site.eachLoading, List.range_zero, List.flatMap_nil, List.append_nil] at queued

/-! ## One caller after the other -/

variable (lifetime now load) in
def serve : Nat → Cache Value Time → Nat → List Value × Cache Value Time × Nat
  | 0, cache, loads => ([], cache, loads)
  | callers + 1, cache, loads =>
    let loading : StateM Nat Value := modifyGet fun loads => (load loads, loads + 1)
    let ((value, cache), loads) := (cache.get lifetime now loading).run loads
    let (values, rest) := serve callers cache loads
    (value :: values, rest)

variable {cache : Cache Value Time} {callers loads : Nat}

theorem serve_succ_of_fresh {value : Value} (fresh : cache.fresh? lifetime now = some value) :
    serve lifetime now load (callers + 1) cache loads =
      (value :: (serve lifetime now load callers cache loads).1,
        (serve lifetime now load callers cache loads).2) := by
  rw [serve, Cache.get, fresh]
  rfl

theorem serve_succ_of_stale (stale : cache.fresh? lifetime now = none) :
    serve lifetime now load (callers + 1) cache loads =
      (load loads :: (serve lifetime now load callers (.store (load loads) now) (loads + 1)).1,
        (serve lifetime now load callers (.store (load loads) now) (loads + 1)).2) := by
  rw [serve, Cache.get, stale]
  rfl

theorem serve_of_fresh {value : Value} (fresh : cache.fresh? lifetime now = some value) :
    serve lifetime now load callers cache loads = (List.replicate callers value, cache, loads) := by
  induction callers with
  | zero => rfl
  | succ callers induction => rw [serve_succ_of_fresh fresh, induction, List.replicate_succ]

theorem serve_sharing (stale : site.cache.fresh? lifetime now = none) (lasting : 0 < lifetime) :
    serve lifetime now load (callers + 1) site.cache (site.history.filterMap (·.load?)).length =
      (List.replicate (callers + 1) (site.next load 0), .store (site.next load 0) now,
        (site.history.filterMap (·.load?)).length + 1) := by
  have fresh := (fresh?_store now (site.next load 0)).trans (if_pos lasting)
  rw [serve_succ_of_stale stale]
  change (_ :: (serve lifetime now load callers (.store (site.next load 0) now) _).1,
    (serve lifetime now load callers (.store (site.next load 0) now) _).2) = _
  rw [serve_of_fresh fresh, List.replicate_succ]
  rfl

theorem serve_eachLoading (stale : site.cache.fresh? lifetime now = none) (brief : lifetime ≤ 0)
    (served : Nat) :
    serve lifetime now load callers (site.cacheAfter now load served)
        ((site.history.filterMap (·.load?)).length + served) =
      ((List.range callers).map fun caller => site.next load (served + caller),
        site.cacheAfter now load (served + callers),
        (site.history.filterMap (·.load?)).length + (served + callers)) := by
  induction callers generalizing served with
  | zero => rfl
  | succ callers induction =>
    have following := induction (served + 1)
    rw [serve_succ_of_stale (fresh?_cacheAfter now load stale (.inr brief))]
    change (_ :: (serve lifetime now load callers (site.cacheAfter now load (served + 1)) _).1,
      (serve lifetime now load callers (site.cacheAfter now load (served + 1)) _).2) = _
    rw [Nat.add_assoc, following, List.range_succ_eq_map, List.map_cons, List.map_map]
    simp only [Function.comp_def, Nat.succ_eq_add_one, Nat.add_assoc, Nat.add_comm 1]
    rfl

end

end OrderDesk.Cache
