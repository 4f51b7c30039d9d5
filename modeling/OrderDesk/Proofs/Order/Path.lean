import Mathlib.Data.List.Chain
import Mathlib.Data.List.Nodup
import OrderDesk.Order.Status

/-!
The way of an order through its states. However many moves are tried, legal and illegal ones mixed,
the legal ones make a short path that never comes back, because every move leaves fewer to follow.
The times that an order remembers are those of the last moves of their kinds.
-/

namespace OrderDesk

namespace OrderStatus

def movesLeft : OrderStatus → Nat
  | pending | pendingPayment => 4
  | paid => 3
  | partiallyRefunded => 2
  | refunded | paymentFailed => 1
  | cancelled | other _ => 0

theorem movesLeft_le_four (status : OrderStatus) : status.movesLeft ≤ 4 := by
  cases status <;> simp [movesLeft]

/-- A legal move leaves fewer to follow, so no way leads back. -/
theorem movesLeft_lt_of_mem_successors {current target : OrderStatus}
    (legal : target ∈ current.successors) : target.movesLeft < current.movesLeft := by
  cases current <;> grind [successors, movesLeft]

def IsPath (states : List OrderStatus) : Prop :=
  states.IsChain fun current target => target ∈ current.successors

instance (states : List OrderStatus) : Decidable (IsPath states) :=
  inferInstanceAs (Decidable (states.IsChain fun current target => target ∈ current.successors))

namespace IsPath

variable {states entered : List OrderStatus} {start : OrderStatus}

theorem length_le (path : IsPath (start :: entered)) : entered.length ≤ start.movesLeft := by
  induction entered generalizing start with
  | nil => exact Nat.zero_le _
  | cons next rest induction =>
      have ⟨legal, later⟩ := List.isChain_cons_cons.mp path
      have fewer := movesLeft_lt_of_mem_successors legal
      have bound := induction later
      rw [List.length_cons]
      omega

theorem nodup (path : IsPath states) : states.Nodup := by
  have descending : (states.map movesLeft).IsChain (· > ·) := by
    rw [List.isChain_map]
    exact path.imp fun _ _ legal => movesLeft_lt_of_mem_successors legal
  apply List.Nodup.of_map movesLeft
  exact (List.isChain_iff_pairwise.mp descending).nodup

end IsPath

end OrderStatus

structure Move (Time : Type) where
  target : OrderStatus
  now : Time
  stamp : Option Time := none

namespace Move

variable {Time : Type}

def moment (move : Move Time) : Time :=
  move.stamp.getD move.now

def momentInto (states : List OrderStatus) (move : Move Time) : Option Time :=
  if move.target ∈ states then some move.moment else none

end Move

namespace Progress

variable {Time : Type} {progress : Progress Time} {next : Move Time}

def tried (progress : Progress Time) (next : Move Time) : Progress Time :=
  match progress.move next.target next.now next.stamp with
  | .ok moved => moved
  | .error _ => progress

def afterMoves (progress : Progress Time) (moves : List (Move Time)) : Progress Time :=
  moves.foldl tried progress

def taken (progress : Progress Time) : List (Move Time) → List (Move Time)
  | [] => []
  | next :: rest =>
      match progress.move next.target next.now next.stamp with
      | .ok moved => next :: moved.taken rest
      | .error _ => progress.taken rest

/-! ## One move -/

theorem move_of_illegal (illegal : progress.status.canMove next.target = false) :
    progress.move next.target next.now next.stamp =
      .error (.illegalTransition progress.status.text next.target.text) := by
  simp [move, illegal]

theorem move_of_legal (legal : progress.status.canMove next.target = true) :
    progress.move next.target next.now next.stamp =
      .ok { progress.stamped next.moment next.target with
        status := next.target, updatedAt := some next.now } := by
  simp [move, legal, Move.moment]

theorem tried_of_illegal (illegal : progress.status.canMove next.target = false) :
    progress.tried next = progress := by
  rw [tried, move_of_illegal illegal]

theorem tried_of_legal (legal : progress.status.canMove next.target = true) :
    progress.tried next =
      { progress.stamped next.moment next.target with
        status := next.target, updatedAt := some next.now } := by
  rw [tried, move_of_legal legal]

theorem taken_cons_of_illegal (illegal : progress.status.canMove next.target = false)
    (rest : List (Move Time)) : progress.taken (next :: rest) = progress.taken rest := by
  rw [taken, move_of_illegal illegal]

theorem taken_cons_of_legal (legal : progress.status.canMove next.target = true)
    (rest : List (Move Time)) :
    progress.taken (next :: rest) = next :: (progress.tried next).taken rest := by
  rw [taken, move_of_legal legal, tried_of_legal legal]

section

variable (legal : progress.status.canMove next.target = true)

include legal

theorem status_tried : (progress.tried next).status = next.target := by
  rw [tried_of_legal legal]

theorem updatedAt_tried : (progress.tried next).updatedAt = some next.now := by
  rw [tried_of_legal legal]

theorem paidAt_tried :
    (progress.tried next).paidAt = (next.momentInto [.paid]).or progress.paidAt := by
  rw [tried_of_legal legal, Move.momentInto]
  cases next.target <;> rfl

theorem cancelledAt_tried :
    (progress.tried next).cancelledAt = (next.momentInto [.cancelled]).or progress.cancelledAt := by
  rw [tried_of_legal legal, Move.momentInto]
  cases next.target <;> rfl

theorem refundedAt_tried :
    (progress.tried next).refundedAt =
      (next.momentInto [.partiallyRefunded, .refunded]).or progress.refundedAt := by
  rw [tried_of_legal legal, Move.momentInto]
  cases next.target <;> rfl

end

/-! ## Many moves -/

variable {start : Progress Time} {moves before later : List (Move Time)}

theorem afterMoves_append :
    start.afterMoves (before ++ later) = (start.afterMoves before).afterMoves later :=
  List.foldl_append

theorem taken_append :
    start.taken (before ++ later) =
      start.taken before ++ (start.afterMoves before).taken later := by
  induction before generalizing start with
  | nil => rfl
  | cons first rest induction =>
      rw [List.cons_append, afterMoves, List.foldl_cons, ← afterMoves]
      cases allowed : start.status.canMove first.target with
      | false =>
          rw [taken_cons_of_illegal allowed, taken_cons_of_illegal allowed,
            tried_of_illegal allowed, induction]
      | true =>
          rw [taken_cons_of_legal allowed, taken_cons_of_legal allowed, induction]
          rfl

theorem path_taken (start : Progress Time) (moves : List (Move Time)) :
    OrderStatus.IsPath (start.status :: (start.taken moves).map (·.target)) := by
  induction moves generalizing start with
  | nil => exact .singleton _
  | cons next rest induction =>
      cases allowed : start.status.canMove next.target with
      | false =>
          rw [taken_cons_of_illegal allowed]
          exact induction start
      | true =>
          have later := induction (start.tried next)
          rw [status_tried allowed] at later
          rw [taken_cons_of_legal allowed]
          exact .cons_cons (of_decide_eq_true allowed) later

/-- What every move that is made may write anew is told by the last one that does. -/
theorem view_afterMoves {Value : Type} (view : Progress Time → Option Value)
    (written : Move Time → Option Value)
    (step : ∀ progress next, progress.status.canMove next.target = true →
      view (progress.tried next) = (written next).or (view progress))
    (start : Progress Time) (moves : List (Move Time)) :
    view (start.afterMoves moves) =
      ((start.taken moves).filterMap written).getLast?.or (view start) := by
  induction moves generalizing start with
  | nil => rfl
  | cons next rest induction =>
      have later := induction (start.tried next)
      rw [afterMoves, List.foldl_cons, ← afterMoves, later]
      cases allowed : start.status.canMove next.target with
      | false => rw [tried_of_illegal allowed, taken_cons_of_illegal allowed]
      | true =>
          rw [taken_cons_of_legal allowed, step start next allowed]
          -- What is written now counts only if no later move writes again.
          cases wrote : written next with
          | none => rw [List.filterMap_cons_none wrote, Option.none_or]
          | some value =>
              rw [List.filterMap_cons_some wrote, List.getLast?_cons]
              cases (((start.tried next).taken rest).filterMap written).getLast? <;> rfl

theorem ends_taken (start : Progress Time) (moves : List (Move Time)) :
    (start.status :: (start.taken moves).map (·.target)).getLast? =
      some (start.afterMoves moves).status := by
  have status := view_afterMoves (fun progress => some progress.status)
    (fun next => some next.target) (fun _ _ legal => congrArg some (status_tried legal)) start moves
  rw [status, List.getLast?_cons, List.filterMap_eq_map']
  cases ((start.taken moves).map (·.target)).getLast? <;> rfl

/-- What becomes of an order for which moves are tried. -/
structure Moved (start : Progress Time) (moves : List (Move Time)) : Prop where
  /-- The states that are entered make a legal path, … -/
  path : OrderStatus.IsPath (start.status :: (start.taken moves).map (·.target))
  /-- … at whose end the order is, … -/
  ends : (start.status :: (start.taken moves).map (·.target)).getLast? =
    some (start.afterMoves moves).status
  /-- … which has four moves at the most, … -/
  short : (start.taken moves).length ≤ 4
  /-- … and comes to no state twice. -/
  distinct : (start.status :: (start.taken moves).map (·.target)).Nodup
  /-- A move that is illegal where it is tried is refused, and all goes on as without it. -/
  refused : ∀ before next later, moves = before ++ next :: later →
    (start.afterMoves before).status.canMove next.target = false →
      (start.afterMoves before).move next.target next.now next.stamp = .error
          (.illegalTransition (start.afterMoves before).status.text next.target.text) ∧
        start.afterMoves (before ++ [next]) = start.afterMoves before ∧
        start.afterMoves moves = start.afterMoves (before ++ later) ∧
        start.taken moves = start.taken (before ++ later)
  /-- The times are those at which a state of their kind was last entered, … -/
  paidAt : (start.afterMoves moves).paidAt =
    ((start.taken moves).filterMap (Move.momentInto [.paid])).getLast?.or start.paidAt
  cancelledAt : (start.afterMoves moves).cancelledAt =
    ((start.taken moves).filterMap (Move.momentInto [.cancelled])).getLast?.or start.cancelledAt
  refundedAt : (start.afterMoves moves).refundedAt =
    ((start.taken moves).filterMap
      (Move.momentInto [.partiallyRefunded, .refunded])).getLast?.or start.refundedAt
  /-- … and the order was last updated at the present of the last move. -/
  updatedAt : (start.afterMoves moves).updatedAt =
    ((start.taken moves).getLast?.map (·.now)).or start.updatedAt

/-- Whatever moves are tried, an order goes a short way through its states and never comes back. -/
theorem way_of_moves (start : Progress Time) (moves : List (Move Time)) : Moved start moves where
  path := path_taken start moves
  ends := ends_taken start moves
  short := by
    have bound := (path_taken start moves).length_le
    rw [List.length_map] at bound
    exact Nat.le_trans bound (OrderStatus.movesLeft_le_four _)
  distinct := (path_taken start moves).nodup
  refused := by
    rintro before next later rfl illegal
    refine ⟨move_of_illegal illegal, ?still, ?state, ?path⟩
    case still =>
      rw [afterMoves_append]
      exact tried_of_illegal illegal
    case state =>
      rw [afterMoves_append, afterMoves_append, afterMoves, List.foldl_cons,
        tried_of_illegal illegal, ← afterMoves]
    case path => rw [taken_append, taken_append, taken_cons_of_illegal illegal]
  paidAt := view_afterMoves _ _ (fun _ _ => paidAt_tried) start moves
  cancelledAt := view_afterMoves _ _ (fun _ _ => cancelledAt_tried) start moves
  refundedAt := view_afterMoves _ _ (fun _ _ => refundedAt_tried) start moves
  updatedAt := by
    have written := view_afterMoves Progress.updatedAt (fun next => some next.now)
      (fun _ _ => updatedAt_tried) start moves
    rwa [List.filterMap_eq_map', List.getLast?_map] at written

theorem sample_way_of_moves :
    let start : Progress Nat := { status := .pendingPayment }
    let moves : List (Move Nat) := [⟨.refunded, 1, none⟩, ⟨.paid, 2, some 1⟩,
      ⟨.partiallyRefunded, 3, none⟩, ⟨.refunded, 4, none⟩, ⟨.paid, 5, none⟩, ⟨.cancelled, 6, none⟩]
    Moved start moves ∧ start.afterMoves moves = ⟨.cancelled, some 1, some 6, some 4, some 6⟩ ∧
      (start.taken moves).map (·.target) =
        [.paid, .partiallyRefunded, .refunded, .cancelled] :=
  ⟨way_of_moves _ _, by decide, by decide⟩

end Progress

end OrderDesk
