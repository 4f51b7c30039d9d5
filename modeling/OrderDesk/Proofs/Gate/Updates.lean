import Mathlib.Algebra.Order.Group.Defs
import Mathlib.Algebra.Order.Group.Int
import OrderDesk.Gate.Basic
import OrderDesk.Proofs.Gate.Loading

/-!
Updates of what a cache loads. Whoever comes after an update has returned gets what that update or a
later one has committed, but for one case: a load that had read before the update was committed may
hand over what it has read after the update has returned, and that is then kept.
-/

namespace OrderDesk.Cache

/-! ## What a turn can do -/

section

variable {Value Time : Type} [Sub Time] [LT Time] [DecidableRel (· < · : Time → Time → Prop)]
  {lifetime : Time} {traffic next : Traffic Value Time}

inductive Traffic.Turned (lifetime : Time) (traffic : Traffic Value Time) :
    Turn Value Time → Traffic Value Time → Prop
  | served {now : Time} {value : Value} (fresh : traffic.cache.fresh? lifetime now = some value) :
      Turned lifetime traffic (.arrive now) { traffic with
        history :=
          traffic.history ++ [.came traffic.arrived] ++ [.answered traffic.arrived value now]
        arrived := traffic.arrived + 1 }
  | queued {now : Time} (stale : traffic.cache.fresh? lifetime now = none) :
      Turned lifetime traffic (.arrive now) { traffic with
        history := traffic.history ++ [.came traffic.arrived]
        waiting := traffic.waiting ++ [traffic.arrived]
        arrived := traffic.arrived + 1 }
  | servedLate {now : Time} {caller : Nat} {waiting : List Nat} {value : Value}
      (turn : traffic.waiting = caller :: waiting) (free : traffic.loading = none)
      (fresh : traffic.cache.fresh? lifetime now = some value) :
      Turned lifetime traffic (.enter now) { traffic with
        history := traffic.history ++ [.answered caller value now], waiting }
  | entered {now : Time} {caller : Nat} {waiting : List Nat}
      (turn : traffic.waiting = caller :: waiting) (free : traffic.loading = none)
      (stale : traffic.cache.fresh? lifetime now = none) :
      Turned lifetime traffic (.enter now) { traffic with waiting, loading := some caller }
  | read {caller : Nat} (turn : traffic.loading = some caller) (unread : traffic.read = none) :
      Turned lifetime traffic .read { traffic with
        history := traffic.history ++ [.read caller traffic.committed]
        read := some traffic.committed }
  | finished {now : Time} {caller : Nat} {value : Value} (turn : traffic.loading = some caller)
      (read : traffic.read = some value) :
      Turned lifetime traffic (.finish now) { traffic with
        cache := .store value now
        history := traffic.history ++ [.loaded value now, .answered caller value now]
        loading := none
        read := none }
  | committed (value : Value) :
      Turned lifetime traffic (.commit value) { traffic with
        history := traffic.history ++ [.committed (traffic.updates + 1) value]
        committed := value
        updates := traffic.updates + 1
        returning := traffic.returning ++ [traffic.updates + 1] }
  | returned {update : Nat} (pending : update ∈ traffic.returning) :
      Turned lifetime traffic (.conclude update) { traffic with
        cache := .empty
        history := traffic.history ++ [.invalidated] ++ [.returned update]
        returning := traffic.returning.erase update }

theorem Traffic.turned_of_turn {turn : Turn Value Time}
    (made : traffic.turn lifetime turn = some next) : traffic.Turned lifetime turn next := by
  cases turn with
  | arrive now =>
      rcases Option.map_eq_some_iff.mp made with ⟨crowd, moved, rfl⟩
      cases Crowd.moved_of_move moved with
      | served fresh => exact .served fresh
      | queued stale => exact .queued stale
  | enter now =>
      rcases Option.map_eq_some_iff.mp made with ⟨crowd, moved, rfl⟩
      cases Crowd.moved_of_move moved with
      | servedLate turn free fresh => exact .servedLate turn free fresh
      | entered turn free stale => exact .entered turn free stale
  | read =>
      rw [turn] at made
      split at made
      · next turn unread => exact Option.some.inj made ▸ .read turn unread
      · nomatch made
  | finish now =>
      rcases Option.bind_eq_some_iff.mp made with ⟨value, read, made⟩
      rcases Option.bind_eq_some_iff.mp made with ⟨moved, handed, same⟩
      rcases Option.map_eq_some_iff.mp handed with ⟨crowd, moved, rfl⟩
      rcases Option.some.inj same with rfl
      cases Crowd.moved_of_move moved with
      | loaded turn value_eq => exact value_eq ▸ .finished turn read
  | commit value => exact Option.some.inj made ▸ .committed value
  | conclude update =>
      rcases Option.ite_none_right_eq_some.mp made with ⟨pending, same⟩
      exact Option.some.inj same ▸ .returned pending

theorem Traffic.Turned.turn_eq_some {turn : Turn Value Time}
    (turned : traffic.Turned lifetime turn next) : traffic.turn lifetime turn = some next := by
  cases turned with
  | served fresh | queued fresh => simp [Traffic.turn, move, note, Crowd.move, fresh]
  | servedLate turn free fresh | entered turn free fresh =>
      simp [Traffic.turn, move, Crowd.move, turn, free, fresh]
  | read turn unread => simp [Traffic.turn, note, turn, unread]
  | finished turn read => simp [Traffic.turn, move, Crowd.move, turn, read]
  | committed value => rfl
  | returned pending => exact if_pos pending

theorem Traffic.Turned.followed {turn : Turn Value Time} {rest : List (Turn Value Time)}
    {Ends : Traffic Value Time → Prop} (turned : traffic.Turned lifetime turn next)
    (rest_ran : ∃ after, next.turns lifetime rest = some after ∧ Ends after) :
    ∃ after, traffic.turns lifetime (turn :: rest) = some after ∧ Ends after := by
  rw [turns, List.foldlM_cons, turned.turn_eq_some]
  exact rest_ran

end

/-! ## What a history says of an update -/

section

variable {Value Time : Type}

def Happening.update? : Happening Value Time → Option Nat
  | committed update _ => some update
  | returned update => some update
  | _ => none

def IsCommitted (history : List (Happening Value Time)) (update : Nat) : Prop :=
  ∃ value, .committed update value ∈ history

/-- The value is what an update or a later one has committed. -/
def AsOf (history : List (Happening Value Time)) (update : Nat) (value : Value) : Prop :=
  ∃ number, update ≤ number ∧ .committed number value ∈ history

/-- A load has read a value before an update was committed, and has handed it over after that update
had returned. -/
def Straddled (history : List (Happening Value Time)) (update : Nat) (value : Value)
    (stored : Time) : Prop :=
  ∃ before during later loader,
    history = before ++ .read loader value :: during ++ .loaded value stored :: later ∧
      IsCommitted during update ∧ .returned update ∈ during ∧ during.filterMap (·.load?) = []

/-- Whoever comes after an update has returned gets what it or a later one has committed. -/
def AtOnce (history : List (Happening Value Time)) : Prop :=
  ∀ before caller between value time later update,
    history = before ++ .came caller :: between ++ .answered caller value time :: later →
      .returned update ∈ before → AsOf (before ++ .came caller :: between) update value

def Current (history : List (Happening Value Time)) (value : Value) : Prop :=
  ∀ update ∈ history.filterMap (·.update?), AsOf history update value

variable {history added : List (Happening Value Time)} {update : Nat} {value : Value}

theorem IsCommitted.append (committed : IsCommitted history update) :
    IsCommitted (history ++ added) update := by
  rcases committed with ⟨value, member⟩
  exact ⟨value, List.mem_append_left added member⟩

theorem AsOf.append (told : AsOf history update value) : AsOf (history ++ added) update value := by
  rcases told with ⟨number, later, member⟩
  exact ⟨number, later, List.mem_append_left added member⟩

theorem Straddled.append {stored : Time} (straddled : Straddled history update value stored) :
    Straddled (history ++ added) update value stored := by
  rcases straddled with ⟨before, during, later, loader, rfl, inside⟩
  exact ⟨before, during, later ++ added, loader, by simp, inside⟩

theorem IsCommitted.mem_updates (committed : IsCommitted history update) :
    update ∈ history.filterMap (·.update?) := by
  rcases committed with ⟨value, member⟩
  exact List.mem_filterMap.mpr ⟨_, member, rfl⟩

theorem mem_updates_of_returned (returned : .returned update ∈ history) :
    update ∈ history.filterMap (·.update?) :=
  List.mem_filterMap.mpr ⟨_, returned, rfl⟩

/-! ### Updates that have been committed -/

/-- Updates are numbered as they are committed, none returns before, and the value is as of the last
one. -/
structure Posted (history : List (Happening Value Time)) (updates : Nat) (returning : List Nat)
    (value : Value) : Prop where
  numbered : ∀ update ∈ history.filterMap (·.update?), update ≤ updates
  pending : ∀ update ∈ returning, IsCommitted history update
  returned : ∀ update, .returned update ∈ history → IsCommitted history update
  current : Current history value

variable {updates : Nat} {returning : List Nat}

theorem Posted.append (posted : Posted history updates returning value)
    (quiet : added.filterMap (·.update?) = []) :
    Posted (history ++ added) updates returning value := by
  have same : (history ++ added).filterMap (·.update?) = history.filterMap (·.update?) := by
    rw [List.filterMap_append, quiet, List.append_nil]
  constructor
  · rw [same]
    exact posted.numbered
  · intro update member
    exact (posted.pending update member).append
  · intro update member
    rcases List.mem_append.mp member with member | member
    · exact (posted.returned update member).append
    · exact absurd (mem_updates_of_returned member) (quiet ▸ List.not_mem_nil)
  · intro update member
    rw [same] at member
    exact (posted.current update member).append

theorem Posted.commit (posted : Posted history updates returning value) (next : Value) :
    Posted (history ++ [.committed (updates + 1) next]) (updates + 1)
      (returning ++ [updates + 1]) next := by
  have latest : .committed (updates + 1) next ∈ history ++ [.committed (updates + 1) next] :=
    List.mem_append_right history (List.mem_singleton_self _)
  have known : ∀ update ∈ (history ++ [Happening.committed (updates + 1) next]).filterMap
      Happening.update?, update ≤ updates + 1 := by
    intro update member
    rw [List.filterMap_append] at member
    rcases List.mem_append.mp member with member | member
    · exact Nat.le_succ_of_le (posted.numbered update member)
    · exact (List.mem_singleton.mp member).le
  constructor
  · exact known
  · intro update member
    rcases List.mem_append.mp member with member | member
    · exact (posted.pending update member).append
    · exact ⟨next, List.mem_singleton.mp member ▸ latest⟩
  · intro update member
    rcases List.mem_append.mp member with member | member
    · exact (posted.returned update member).append
    · simp at member
  · intro update member
    exact ⟨updates + 1, known update member, latest⟩

theorem Posted.conclude (posted : Posted history updates returning value)
    (pending : update ∈ returning) :
    Posted (history ++ [.returned update]) updates (returning.erase update) value := by
  have committed := posted.pending update pending
  have known : ∀ other ∈ (history ++ [Happening.returned update]).filterMap Happening.update?,
      other ∈ history.filterMap Happening.update? := by
    intro other member
    rw [List.filterMap_append] at member
    rcases List.mem_append.mp member with member | member
    · exact member
    · exact List.mem_singleton.mp member ▸ committed.mem_updates
  constructor
  · intro other member
    exact posted.numbered other (known other member)
  · intro other member
    exact (posted.pending other (List.mem_of_mem_erase member)).append
  · intro other member
    rcases List.mem_append.mp member with member | member
    · exact (posted.returned other member).append
    · obtain rfl : other = update := by simpa using member
      exact committed.append
  · intro other member
    exact (posted.current other (known other member)).append

/-! ### What a caller is told -/

def HasRead (history : List (Happening Value Time)) (loader : Nat) (value : Value) : Prop :=
  ∃ before during, history = before ++ .read loader value :: during ∧ Current before value ∧
    .came loader ∉ during ∧ during.filterMap (·.load?) = []

/-- A value as of every update that has returned, but for those that a load has straddled. -/
def Keeps (history : List (Happening Value Time)) (value : Value) (stored : Time) : Prop :=
  ∀ update, .returned update ∈ history →
    AsOf history update value ∨ Straddled history update value stored

/-- How a caller is answered who has come after an update had returned. -/
def Informs [Sub Time] [LT Time] (lifetime : Time) (upTo : List (Happening Value Time))
    (happening : Happening Value Time) : Prop :=
  ∀ before caller between value time update, happening = .answered caller value time →
    upTo = before ++ .came caller :: between → .returned update ∈ before →
      AsOf upTo update value ∨
        ∃ stored, Straddled upTo update value stored ∧ time - stored < lifetime

variable {loader : Nat} {stored : Time}

theorem HasRead.append (read : HasRead history loader value) (away : .came loader ∉ added)
    (quiet : added.filterMap (·.load?) = []) : HasRead (history ++ added) loader value := by
  rcases read with ⟨before, during, rfl, current, awayBefore, quietBefore⟩
  refine ⟨before, during ++ added, by simp, current, ?_, ?_⟩
  · simp [awayBefore, away]
  · rw [List.filterMap_append, quietBefore, quiet, List.append_nil]

theorem Keeps.append (keeps : Keeps history value stored)
    (quiet : ∀ update, .returned update ∉ added) : Keeps (history ++ added) value stored := by
  intro update returned
  have earlier := (List.mem_append.mp returned).resolve_right (quiet update)
  exact (keeps update earlier).imp AsOf.append Straddled.append

theorem HasRead.keeps (read : HasRead history loader value)
    (posted : ∀ update, .returned update ∈ history → IsCommitted history update) (stored : Time) :
    Keeps (history ++ [.loaded value stored]) value stored := by
  rcases read with ⟨before, during, rfl, current, -, quiet⟩
  have upToDate {update : Nat} (known : update ∈ before.filterMap (·.update?)) :
      AsOf (before ++ .read loader value :: during ++ [.loaded value stored]) update value := by
    rw [List.append_assoc]
    exact (current update known).append
  intro update returned
  have returned : .returned update ∈ before ++ .read loader value :: during := by
    simpa using returned
  rcases posted update returned with ⟨setting, committed⟩
  -- Both in the load, or else one of them before the value was read.
  rcases List.mem_append.mp returned with returned | returned
  · exact .inl (upToDate (mem_updates_of_returned returned))
  · rcases List.mem_append.mp committed with committed | committed
    · exact .inl (upToDate (IsCommitted.mem_updates ⟨setting, committed⟩))
    · refine .inr ⟨before, during, [], loader, rfl, ⟨setting, ?_⟩, ?_, quiet⟩
      · simpa using committed
      · simpa using returned

theorem mem_of_append_eq_append_cons {α : Type} {before during earlier between : List α} {a b : α}
    (same : before ++ during = earlier ++ a :: between) (away : a ∉ during)
    (member : b ∈ earlier) : b ∈ before := by
  rcases List.append_eq_append_iff.mp same with ⟨rest, rfl, rfl⟩ | ⟨rest, rfl, -⟩
  · simp at away
  · exact List.mem_append_left rest member

theorem HasRead.informs [Sub Time] [LT Time] {lifetime time : Time}
    (read : HasRead history loader value) :
    Informs lifetime (history ++ [.loaded value stored]) (.answered loader value time) := by
  rcases read with ⟨before, during, rfl, current, away, -⟩
  intro earlier _ between _ _ update same split returned
  cases same
  rw [List.append_assoc] at split ⊢
  have known : .returned update ∈ before :=
    mem_of_append_eq_append_cons split (by simp [away]) returned
  exact .inl (current update (mem_updates_of_returned known)).append

theorem Keeps.informs [Sub Time] [LT Time] {lifetime time : Time} {caller : Nat}
    (keeps : Keeps history value stored) (recent : time - stored < lifetime) :
    Informs lifetime history (.answered caller value time) := by
  intro before _ between _ _ update same split returned
  cases same
  have earlier : .returned update ∈ history := split ▸ List.mem_append_left _ returned
  exact (keeps update earlier).imp_right fun straddled => ⟨stored, straddled, recent⟩

theorem informs_of_unanswered [Sub Time] [LT Time] {lifetime : Time}
    {happening : Happening Value Time} (unanswered : happening.answer? = none) :
    Informs lifetime history happening := by
  intro _ caller _ value time _ same
  cases same
  nomatch unanswered

end

section

variable {Value Time : Type} [Sub Time] [LT Time] [DecidableRel (· < · : Time → Time → Prop)]
  {lifetime : Time} {traffic next : Traffic Value Time}

/-- What is known of callers and updates, whatever turns have been taken. -/
structure Traffic.Tracked (lifetime : Time) (traffic : Traffic Value Time) : Prop where
  posted : Posted traffic.history traffic.updates traffic.returning traffic.committed
  come : ∀ caller ∈ traffic.loading.toList ++ traffic.waiting, caller < traffic.arrived
  reading : ∀ value, traffic.read = some value →
    ∃ loader, traffic.loading = some loader ∧ HasRead traffic.history loader value
  keeping : ∀ value stored, traffic.cache.held = some (value, stored) →
    Keeps traffic.history value stored
  informing : Throughout (Informs lifetime) traffic.history

theorem Traffic.Tracked.keeps_of_fresh {now : Time} {value : Value}
    (tracked : traffic.Tracked lifetime)
    (fresh : traffic.cache.fresh? lifetime now = some value) :
    ∃ stored, Keeps traffic.history value stored ∧ now - stored < lifetime := by
  rcases fresh?_eq_some.mp fresh with ⟨stored, held, recent⟩
  exact ⟨stored, tracked.keeping value stored held, recent⟩

theorem Traffic.Tracked.turned {turn : Turn Value Time} (tracked : traffic.Tracked lifetime)
    (turned : traffic.Turned lifetime turn next) : next.Tracked lifetime := by
  have ⟨posted, come, reading, keeping, informing⟩ := tracked
  have reading_append {added : List (Happening Value Time)}
      (away : ∀ loader < traffic.arrived, .came loader ∉ added)
      (quiet : added.filterMap (·.load?) = []) (value : Value) (read : traffic.read = some value) :
      ∃ loader, traffic.loading = some loader ∧
        HasRead (traffic.history ++ added) loader value := by
    rcases reading value read with ⟨loader, loading, has⟩
    have earlier := come loader (List.mem_append_left _ (Option.mem_toList.mpr loading))
    exact ⟨loader, loading, has.append (away loader earlier) quiet⟩
  have keeping_append {added : List (Happening Value Time)}
      (quiet : ∀ update, .returned update ∉ added) (value : Value) (stored : Time)
      (held : traffic.cache.held = some (value, stored)) :
      Keeps (traffic.history ++ added) value stored :=
    (keeping value stored held).append quiet
  cases turned with
  | @served now value fresh =>
      rcases tracked.keeps_of_fresh fresh with ⟨stored, keeps, recent⟩
      rw [List.append_assoc]
      constructor
      · exact posted.append rfl
      · exact fun caller member => Nat.lt_succ_of_lt (come caller member)
      · exact reading_append (by simp; omega) rfl
      · exact keeping_append (by simp)
      · rw [← List.append_assoc]
        refine throughout_append_singleton.mpr ⟨throughout_append_singleton.mpr
          ⟨informing, informs_of_unanswered rfl⟩, Keeps.informs (keeps.append (by simp)) recent⟩
  | queued stale =>
      constructor
      · exact posted.append rfl
      · intro caller member
        rw [← List.append_assoc] at member
        rcases List.mem_append.mp member with member | member
        · exact Nat.lt_succ_of_lt (come caller member)
        · exact List.mem_singleton.mp member ▸ Nat.lt_succ_self _
      · exact reading_append (by simp; omega) rfl
      · exact keeping_append (by simp)
      · exact throughout_append_singleton.mpr ⟨informing, informs_of_unanswered rfl⟩
  | servedLate turn free fresh =>
      rcases tracked.keeps_of_fresh fresh with ⟨stored, keeps, recent⟩
      constructor
      · exact posted.append rfl
      · rw [turn] at come
        intro other member
        rcases List.mem_append.mp member with loading | waiting
        · exact come other (List.mem_append_left _ loading)
        · exact come other (List.mem_append_right _ (List.mem_cons_of_mem _ waiting))
      · exact reading_append (by simp) rfl
      · exact keeping_append (by simp)
      · exact throughout_append_singleton.mpr ⟨informing, keeps.informs recent⟩
  | entered turn free stale =>
      rw [turn, free] at come
      constructor
      · exact posted
      · exact come
      · intro value read
        rcases reading value read with ⟨loader, loading, -⟩
        nomatch free.symm.trans loading
      · exact keeping
      · exact informing
  | @read loader turn unread =>
      constructor
      · exact posted.append rfl
      · exact come
      · rintro _ ⟨⟩
        exact ⟨loader, turn, traffic.history, [], rfl, posted.current, by simp, rfl⟩
      · exact keeping_append (by simp)
      · exact throughout_append_singleton.mpr ⟨informing, informs_of_unanswered rfl⟩
  | @finished now loader value turn read =>
      rcases reading value read with ⟨_, loading, has⟩
      rcases Option.some.inj (turn.symm.trans loading) with rfl
      have keeps := has.keeps posted.returned now
      rw [List.append_cons traffic.history]
      constructor
      · rw [List.append_assoc]
        exact posted.append rfl
      · exact fun caller member => come caller (List.mem_append_right _ member)
      · nofun
      · rintro _ _ ⟨⟩
        exact keeps.append (by simp)
      · exact throughout_append_singleton.mpr ⟨throughout_append_singleton.mpr
          ⟨informing, informs_of_unanswered rfl⟩, has.informs⟩
  | committed value =>
      constructor
      · exact posted.commit value
      · exact come
      · exact reading_append (by simp) rfl
      · exact keeping_append (by simp)
      · exact throughout_append_singleton.mpr ⟨informing, informs_of_unanswered rfl⟩
  | returned pending =>
      rw [List.append_assoc]
      constructor
      · rw [← List.append_assoc]
        exact (posted.append rfl).conclude pending
      · exact come
      · exact reading_append (by simp) rfl
      · nofun
      · rw [← List.append_assoc]
        exact throughout_append_singleton.mpr ⟨throughout_append_singleton.mpr
          ⟨informing, informs_of_unanswered rfl⟩, informs_of_unanswered rfl⟩

theorem Traffic.turns_induction (Invariant : Traffic Value Time → Prop) (start : Invariant traffic)
    (kept : ∀ traffic turn next, Invariant traffic → traffic.turn lifetime turn = some next →
      Invariant next)
    {schedule : List (Turn Value Time)} (ran : traffic.turns lifetime schedule = some next) :
    Invariant next := by
  induction schedule generalizing traffic with
  | nil => exact Option.some.inj ran ▸ start
  | cons turn rest induction =>
      rw [turns, List.foldlM_cons] at ran
      rcases Option.bind_eq_some_iff.mp ran with ⟨after, made, ran⟩
      exact induction (kept traffic turn after start made) ran

variable {setting : Value} {schedule : List (Turn Value Time)}

theorem Traffic.tracked_of_turns
    (ran : Traffic.turns lifetime { committed := setting } schedule = some traffic) :
    traffic.Tracked lifetime := by
  refine turns_induction (Tracked lifetime) ?_ (fun _ _ _ tracked made =>
    tracked.turned (turned_of_turn made)) ran
  constructor
  · exact ⟨nofun, nofun, nofun, nofun⟩
  · nofun
  · nofun
  · nofun
  · intro before element later split
    simp at split

/-! ## Updates are not seen by a load that has read -/

theorem Traffic.straddled_update {loader : Nat} {value : Value} {stored now : Time}
    (loading : traffic.loading = some loader) (read : traffic.read = some value)
    (recent : now - stored < lifetime) (next : Value) :
    ∃ after, traffic.turns lifetime
        [.commit next, .conclude (traffic.updates + 1), .finish stored, .arrive now] = some after ∧
      after.history = traffic.history ++
        [.committed (traffic.updates + 1) next, .invalidated, .returned (traffic.updates + 1),
          .loaded value stored, .answered loader value stored,
          .came traffic.arrived, .answered traffic.arrived value now] := by
  have pending : traffic.updates + 1 ∈ traffic.returning ++ [traffic.updates + 1] :=
    List.mem_append_right _ (List.mem_singleton_self _)
  have fresh : (Cache.store value stored).fresh? lifetime now = some value :=
    fresh?_eq_some.mpr ⟨stored, rfl, recent⟩
  refine Turned.followed (.committed next) ?_
  refine Turned.followed (.returned pending) ?_
  refine Turned.followed (.finished loading read) ?_
  refine Turned.followed (.served fresh) ?_
  exact ⟨_, rfl, by simp⟩

/-! ## Nobody waits forever -/

def Traffic.remaining (traffic : Traffic Value Time) : Nat :=
  3 * traffic.waiting.length + 2 * traffic.loading.toList.length - traffic.read.toList.length

theorem Traffic.exists_turn (now : Time) (tracked : traffic.Tracked lifetime)
    (waits : traffic.isDone = false) :
    ∃ turn next, (turn = .enter now ∨ turn = .read ∨ turn = .finish now) ∧
      traffic.Turned lifetime turn next ∧ next.remaining < traffic.remaining := by
  cases loading : traffic.loading with
  | some caller =>
      cases read : traffic.read with
      | none =>
          refine ⟨_, _, .inr (.inl rfl), .read loading read, ?_⟩
          simp [remaining, loading, read]
      | some value =>
          refine ⟨_, _, .inr (.inr rfl), .finished loading read, ?_⟩
          simp [remaining, loading, read]
  | none =>
      have unread : traffic.read = none := by
        refine Option.eq_none_iff_forall_ne_some.mpr fun value read => ?_
        rcases tracked.reading value read with ⟨loader, busy, -⟩
        nomatch loading.symm.trans busy
      cases waiting : traffic.waiting with
      | nil =>
          exact absurd (Crowd.isDone_iff.mpr ⟨waiting, loading⟩) (Bool.eq_false_iff.mp waits)
      | cons caller rest =>
          cases fresh : traffic.cache.fresh? lifetime now with
          | some value =>
              refine ⟨_, _, .inl rfl, .servedLate waiting loading fresh, ?_⟩
              simp [remaining, loading, unread, waiting]
          | none =>
              refine ⟨_, _, .inl rfl, .entered waiting loading fresh, ?_⟩
              simp [remaining, loading, unread, waiting]
              omega

theorem Traffic.exists_completion (now : Time) (traffic : Traffic Value Time)
    (tracked : traffic.Tracked lifetime) :
    ∃ rest, (∀ turn ∈ rest, turn = .enter now ∨ turn = .read ∨ turn = .finish now) ∧
      ∃ after, traffic.turns lifetime rest = some after ∧ after.isDone = true := by
  cases done : traffic.isDone with
  | true => exact ⟨[], nofun, traffic, rfl, done⟩
  | false =>
      rcases exists_turn now tracked done with ⟨turn, next, own, turned, fewer⟩
      rcases exists_completion now next (tracked.turned turned) with ⟨rest, others, ran⟩
      exact ⟨turn :: rest, List.forall_mem_cons.mpr ⟨own, others⟩, turned.followed ran⟩
termination_by traffic.remaining

/-- A caller who is alone is served as by `Cache.get`. -/
theorem Traffic.exists_lone_call (now : Time) (alone : traffic.isDone = true)
    (unread : traffic.read = none) :
    ∃ schedule after, traffic.turns lifetime schedule = some after ∧
      ∃ value, after.history.getLast? = some (.answered traffic.arrived value now) ∧
        (traffic.cache.get lifetime now (pure traffic.committed) : Id _) =
          (value, after.cache) := by
  rcases Crowd.isDone_iff.mp alone with ⟨nobody, free⟩
  rw [Cache.get]
  cases fresh : traffic.cache.fresh? lifetime now with
  | some value =>
      refine ⟨[.arrive now], Turned.followed (.served fresh) ?_⟩
      exact ⟨_, rfl, value, by simp, rfl⟩
  | none =>
      have queue : traffic.waiting ++ [traffic.arrived] = [traffic.arrived] := by
        rw [nobody, List.nil_append]
      refine ⟨[.arrive now, .enter now, .read, .finish now], Turned.followed (.queued fresh) ?_⟩
      refine Turned.followed (.entered queue free fresh) ?_
      refine Turned.followed (.read rfl unread) ?_
      refine Turned.followed (.finished rfl rfl) ?_
      exact ⟨_, rfl, traffic.committed, by simp, rfl⟩

end

/-! ## The clock -/

section

variable {Value Time : Type}

def Turn.time? : Turn Value Time → Option Time
  | arrive now | enter now | finish now => some now
  | _ => none

def Happening.time? : Happening Value Time → Option Time
  | loaded _ time | answered _ _ time => some time
  | _ => none

variable [AddCommGroup Time] [LinearOrder Time] {lifetime : Time} {setting : Value}
  {traffic next : Traffic Value Time}

theorem Traffic.Turned.exists_added {turn : Turn Value Time}
    (turned : traffic.Turned lifetime turn next) :
    ∃ added, next.history = traffic.history ++ added ∧
      ∀ time ∈ added.filterMap Happening.time?, turn.time? = some time := by
  cases turned with
  | served fresh =>
      refine ⟨_, List.append_assoc .., ?_⟩
      simp [Happening.time?, Turn.time?]
  | queued stale => exact ⟨_, rfl, nofun⟩
  | servedLate turn free fresh => exact ⟨_, rfl, by simp [Happening.time?, Turn.time?]⟩
  | entered turn free stale => exact ⟨[], (List.append_nil _).symm, nofun⟩
  | read turn unread => exact ⟨_, rfl, nofun⟩
  | finished turn read => exact ⟨_, rfl, by simp [Happening.time?, Turn.time?]⟩
  | committed value => exact ⟨_, rfl, nofun⟩
  | returned pending => exact ⟨_, List.append_assoc .., nofun⟩

theorem Traffic.times_of_turns {schedule : List (Turn Value Time)}
    (clock : (schedule.filterMap Turn.time?).Pairwise (· ≤ ·))
    (ran : Traffic.turns lifetime { committed := setting } schedule = some traffic) :
    (traffic.history.filterMap Happening.time?).Pairwise (· ≤ ·) ∧
      ∀ time ∈ traffic.history.filterMap Happening.time?,
        time ∈ schedule.filterMap Turn.time? := by
  induction schedule using List.reverseRecOn generalizing traffic with
  | nil => exact Option.some.inj ran ▸ ⟨.nil, nofun⟩
  | append_singleton schedule turn induction =>
      rw [turns, List.foldlM_append] at ran
      rcases Option.bind_eq_some_iff.mp ran with ⟨before, began, rest⟩
      rcases Option.bind_eq_some_iff.mp rest with ⟨_, made, same⟩
      rcases Option.some.inj same with rfl
      rw [List.filterMap_append] at clock ⊢
      rcases List.pairwise_append.mp clock with ⟨earlier, -, upTo⟩
      rcases induction earlier began with ⟨ordered, timed⟩
      rcases (turned_of_turn made).exists_added with ⟨added, history_eq, atOnce⟩
      have last {time : Time} (member : time ∈ added.filterMap Happening.time?) :
          time ∈ [turn].filterMap Turn.time? :=
        List.mem_filterMap.mpr ⟨turn, List.mem_singleton_self turn, atOnce time member⟩
      rw [history_eq, List.filterMap_append]
      constructor
      · refine List.pairwise_append.mpr ⟨ordered, ?_, fun time member other added => ?_⟩
        · refine List.pairwise_of_forall_mem_list fun time member other added => ?_
          exact (Option.some.inj ((atOnce time member).symm.trans (atOnce other added))).le
        · exact upTo time (timed time member) other (last added)
      · intro time member
        rcases List.mem_append.mp member with member | member
        · exact List.mem_append_left _ (timed time member)
        · exact List.mem_append_right _ (last member)

/-! ## What callers get while updates come in -/

variable [IsOrderedAddMonoid Time] {schedule : List (Turn Value Time)}

theorem atOnce_of_brief (brief : lifetime ≤ 0)
    (clock : (schedule.filterMap Turn.time?).Pairwise (· ≤ ·))
    (ran : Traffic.turns lifetime { committed := setting } schedule = some traffic) :
    AtOnce traffic.history := by
  intro before caller between value time later update split returned
  have informed := (Traffic.tracked_of_turns ran).informing _ _ later split
  refine (informed before caller between value time update rfl rfl returned).resolve_right ?_
  rintro ⟨stored, ⟨_, _, rest, _, upTo, -⟩, recent⟩
  have ordered := (Traffic.times_of_turns clock ran).1
  rw [split, upTo, List.filterMap_append] at ordered
  have earlier : stored ≤ time :=
    (List.pairwise_append.mp ordered).2.2 stored
      (List.mem_filterMap.mpr ⟨.loaded value stored, by simp, rfl⟩) time
      (List.mem_filterMap.mpr ⟨.answered caller value time, List.mem_cons_self, rfl⟩)
  exact absurd (recent.trans_le brief) (not_lt.mpr (sub_nonneg.mpr earlier))

/-- Whoever comes after an update has returned gets what it or a later one has committed, or else
what a load had read before the update was committed and handed over after it had returned, less
than a lifetime ago. The latter never occurs where nothing lasts, and otherwise it can occur as soon
as a load has read. Nobody waits forever. -/
theorem answers_follow_updates
    (ran : Traffic.turns lifetime { committed := setting } schedule = some traffic) :
    (∀ before caller between value time later update,
      traffic.history = before ++ .came caller :: between ++ .answered caller value time :: later →
        .returned update ∈ before →
          AsOf (before ++ .came caller :: between) update value ∨
            ∃ stored, Straddled (before ++ .came caller :: between) update value stored ∧
              time - stored < lifetime) ∧
    (lifetime ≤ 0 → (schedule.filterMap Turn.time?).Pairwise (· ≤ ·) → AtOnce traffic.history) ∧
    (∀ loader value stored now next, traffic.loading = some loader → traffic.read = some value →
      now - stored < lifetime →
        ∃ after, traffic.turns lifetime [.commit next, .conclude (traffic.updates + 1),
            .finish stored, .arrive now] = some after ∧
          after.history = traffic.history ++
            [.committed (traffic.updates + 1) next, .invalidated, .returned (traffic.updates + 1),
              .loaded value stored, .answered loader value stored,
              .came traffic.arrived, .answered traffic.arrived value now]) ∧
    ∀ now, ∃ rest, (∀ turn ∈ rest, turn = .enter now ∨ turn = .read ∨ turn = .finish now) ∧
      ∃ after, traffic.turns lifetime rest = some after ∧ after.isDone = true := by
  have tracked := Traffic.tracked_of_turns ran
  refine ⟨?_, fun brief clock => atOnce_of_brief brief clock ran, ?_, ?_⟩
  · intro before caller between value time later update split returned
    exact tracked.informing _ _ later split before caller between value time update rfl rfl returned
  · intro loader value stored now next loading read recent
    exact Traffic.straddled_update loading read recent next
  · intro now
    exact Traffic.exists_completion now traffic tracked

end

def replacedSetting : GateSetting := { enabled := true, apiKey := "old", apiSecret := "lost" }
def replacingSetting : GateSetting := { enabled := true, apiKey := "new", apiSecret := "kept" }

def sampleTurns : List (Turn GateSetting Int) := [
  .arrive 0, .enter 0, .read, .commit replacingSetting, .conclude 1, .finish 10, .arrive 39]

def sampleTraffic : Traffic GateSetting Int where
  cache := .store replacedSetting 10
  history := [
    .came 0, .read 0 replacedSetting, .committed 1 replacingSetting, .invalidated, .returned 1,
    .loaded replacedSetting 10, .answered 0 replacedSetting 10, .came 1,
    .answered 1 replacedSetting 39]
  arrived := 2
  committed := replacingSetting
  updates := 1

theorem replaced_setting_answered :
    Traffic.turns 30 { committed := replacedSetting } sampleTurns = some sampleTraffic ∧
      ¬AtOnce sampleTraffic.history := by
  refine ⟨rfl, fun atOnce => ?_⟩
  rcases atOnce (sampleTraffic.history.take 7) 1 [] replacedSetting 39 [] 1 rfl
    (by simp [sampleTraffic]) with ⟨number, -, committed⟩
  simp [sampleTraffic, replacedSetting, replacingSetting] at committed

theorem sample_answers_follow_updates :
    Traffic.turns 30 { committed := replacedSetting } sampleTurns = some sampleTraffic ∧
      ∃ stored, Straddled (sampleTraffic.history.take 7 ++ [.came 1]) 1 replacedSetting stored ∧
        39 - stored < 30 := by
  have ran : Traffic.turns 30 { committed := replacedSetting } sampleTurns = some sampleTraffic :=
    rfl
  rcases answers_follow_updates ran with ⟨answers, -⟩
  refine ⟨ran, (answers (sampleTraffic.history.take 7) 1 [] replacedSetting 39 [] 1 rfl
    (by simp [sampleTraffic])).resolve_left ?_⟩
  rintro ⟨number, -, committed⟩
  simp [sampleTraffic, replacedSetting, replacingSetting] at committed

end OrderDesk.Cache
