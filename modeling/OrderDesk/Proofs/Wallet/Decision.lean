import OrderDesk.Proofs.Desk.Soundness
import OrderDesk.Proofs.Order.Binding
import OrderDesk.Proofs.Wallet.Currency

/-!
What becomes of a movement. It is decided from the balance of its user alone; then the movement is
made in full, with one entry and one balance, or nothing is left of it.
-/

namespace OrderDesk

/-! ## Deciding a movement -/

namespace Wallet

/-- What is decided about a movement of a user's wallet from the balance that it starts from: the
kind of the entry that it leaves, or why there is none. -/
def decision (context : Context) (userId : Int) (held : Balance) (movement : Movement) :
    Except Failure MovementKind := do
  if movement.amountCents = 0 then throw (.refused .zeroAmount)
  let some kind := MovementKind.ofText? (Text.keyword movement.kind)
    | throw (.refused (.unsupportedMovement movement.kind))
  Work.accept context [userId]
  let asked := Text.currencyCode movement.currency
  if asked ≠ "" ∧ asked ≠ held.currency then
    throw (.refused (.currencyMismatch held.currency asked))
  let cents := held.cents + movement.amountCents
  if cents < 0 then throw (.refused .insufficientBalance)
  Work.accept context [userId, movement.amountCents, cents]
  return kind

variable {context : Context} {store : Store} {userId : Int} {movement : Movement}

def made (context : Context) (store : Store) (userId : Int) (movement : Movement)
    (kind : MovementKind) : (LedgerEntry × Balance) × Store :=
  let entry := entry context store userId movement kind
  let balance := settled (held context store userId movement) entry
  ((entry, balance), { store with
    balances := Store.keep balance store.balances
    ledger := store.ledger ++ [entry] })

theorem openBalance_of_accepted (complete : store.dropped = [])
    (accepted : Work.accept context [userId] = .ok ()) :
    ∃ opened, openBalance userId movement.currency context store = .ok opened := by
  rcases Work.accept_eq_ok.mp accepted with ⟨inTime, fit⟩
  have allowed : Work.Allowed context store [.balances] [userId] :=
    ⟨inTime, by simp [complete], fit⟩
  have looked := Work.balance?_eq_ok.mpr ⟨allowed, rfl, rfl⟩
  rw [openBalance, Work.bind_of_ok looked]
  cases store.balance? userId with
  | some balance => exact ⟨_, rfl⟩
  | none =>
    refine ⟨_, Work.insertBalance_eq_ok.mpr ⟨⟨inTime, by simp [complete], ?_⟩, rfl, rfl⟩⟩
    have zero : Store.fitsColumn 0 = true := rfl
    simpa [zero] using fit

theorem openBalance_of_refused {failure : Failure} (complete : store.dropped = [])
    (refused : Work.accept context [userId] = .error failure) :
    openBalance userId movement.currency context store = .error failure := by
  apply Work.bind_of_error
  rw [Work.balance?, Work.statement_bind_of_complete complete, refused]
  rfl

theorem post_eq (complete : store.dropped = []) :
    post userId movement context store =
      (decision context userId (held context store userId movement) movement).map
        (made context store userId movement) := by
  rw [post, decision]
  by_cases still : movement.amountCents = 0
  · rw [if_pos still, if_pos still]
    rfl
  rw [if_neg still, if_neg still]
  cases MovementKind.ofText? (Text.keyword movement.kind) with
  | none => rfl
  | some kind =>
    dsimp only
    cases accepted : Work.accept context [userId] with
    | error failure => exact Work.bind_of_error (openBalance_of_refused complete accepted)
    | ok =>
      have opens : ∃ opened, openBalance userId movement.currency context store = .ok opened :=
        openBalance_of_accepted complete accepted
      obtain ⟨⟨_, _⟩, opened⟩ := opens
      rcases openBalance_ok opened with ⟨rfl, -, balances, rfl, keeps⟩
      rw [Work.bind_of_ok opened, Outcome.ok_bind]
      split
      · rfl
      split
      · rfl
      have kept := keeps (settled (held context store userId movement)
        (entry context store userId movement kind)) held_userId
      have untouched : { store with balances }.dropped = [] := complete
      rw [Work.walletNow_bind, Work.insertEntry_bind_of_complete untouched]
      cases Work.accept context [userId, movement.amountCents,
          (held context store userId movement).cents + movement.amountCents] with
      | error failure => rfl
      | ok =>
        rw [Outcome.ok_bind, Outcome.ok_bind, Work.saveBalance_bind]
        exact congrArg (fun balances => Except.ok (_, { store with
          balances
          ledger := store.ledger ++ [entry context store userId movement kind] })) kept

def refundDecision (context : Context) (userId : Int) (held : Balance) (movement : Movement) :
    Except Failure MovementKind := do
  if movement.amountCents ≤ 0 then throw (.refused .refundNotPositive)
  decision context userId held (credit movement)

theorem postRefund_eq (complete : store.dropped = []) :
    postRefund userId movement context store =
      (refundDecision context userId (held context store userId (credit movement)) movement).map
        (made context store userId (credit movement)) := by
  rw [postRefund, refundDecision]
  split
  · rfl
  · exact post_eq complete

theorem decision_eq_ok {held : Balance} {kind : MovementKind} :
    decision context userId held movement = .ok kind ↔
      movement.amountCents ≠ 0 ∧ MovementKind.ofText? (Text.keyword movement.kind) = some kind ∧
        Work.accept context [userId] = .ok () ∧
        (Text.currencyCode movement.currency = "" ∨
          Text.currencyCode movement.currency = held.currency) ∧
        0 ≤ held.cents + movement.amountCents ∧
        Work.accept context
          [userId, movement.amountCents, held.cents + movement.amountCents] = .ok () := by
  rw [decision, Outcome.throw_ite_eq_ok]
  apply and_congr_right
  intro _
  cases MovementKind.ofText? (Text.keyword movement.kind) with
  | none => simp [throw, throwThe, MonadExceptOf.throw]
  | some named =>
    simp only [Outcome.bind_eq_ok, Outcome.throw_ite_eq_ok, pure, Except.pure, Except.ok.injEq,
      Option.some.injEq, ne_eq, not_and_or, not_not, not_lt]
    constructor
    · rintro ⟨_, owner, currency, covered, _, fit, rfl⟩
      exact ⟨rfl, owner, currency, covered, fit⟩
    · rintro ⟨rfl, owner, currency, covered, fit⟩
      exact ⟨(), owner, currency, covered, (), fit, rfl⟩

theorem posting_of_decided {kind : MovementKind} (complete : store.dropped = [])
    (decided : decision context userId (held context store userId movement) movement = .ok kind) :
    let done := made context store userId movement kind
    Posting context store userId movement done.1.1 done.1.2 done.2 := by
  apply post_ok
  rw [post_eq complete, decided]
  rfl

end Wallet

/-! ## Wallets that can be moved -/

namespace Store

/-- All tables are there, every user has one balance at most, and no balance is overdrawn or too
large for its column. -/
structure Solvent (store : Store) : Prop where
  complete : store.dropped = []
  oneBalance : (store.balances.map (·.userId)).Nodup
  balances : ∀ balance ∈ store.balances, balance.Sound

/-- A wallet takes a movement: it moves something, is of one of the kinds, asks for no other
currency than that of the wallet, and leaves it neither overdrawn nor too full. -/
structure Takes (store : Store) (userId : Int) (movement : Movement) : Prop where
  moves : movement.amountCents ≠ 0
  named : ∃ kind : MovementKind, Text.keyword movement.kind = kind.text
  sameCurrency : Text.currencyCode movement.currency = "" ∨
    ∀ balance, store.balance? userId = some balance →
      Text.currencyCode movement.currency = balance.currency
  covered : 0 ≤ store.spendableCents userId + movement.amountCents
  fits : store.spendableCents userId + movement.amountCents ≤ 2 ^ 63 - 1

theorem Solvent.committed {context : Context} {last : Int} {store after : Store}
    {operation : Operation} (solvent : store.Solvent)
    (committed : operation.Committed context last store after) : after.Solvent where
  complete := committed.dropped_eq.trans solvent.complete
  oneBalance := by
    rcases committed.wallets with ⟨same, -⟩ | ⟨_, _, _, _, between, posting, same, -⟩
    · rw [same]
      exact solvent.oneBalance
    · rw [same, posting.store_eq]
      exact nodup_keep solvent.oneBalance
  balances := committed.balancesSound solvent.balances

theorem Solvent.spendable {store : Store} (solvent : store.Solvent) (userId : Int) :
    0 ≤ store.spendableCents userId ∧ store.spendableCents userId < columnLimit := by
  rw [spendableCents]
  cases found : store.balance? userId with
  | none => exact ⟨Int.le_refl 0, by decide⟩
  | some balance =>
    have sound := solvent.balances balance (balance?_eq_some found).1
    exact ⟨sound.covered, (fitsColumn_iff.mp sound.cents).2⟩

end Store

theorem Desk.afterEvents_solvent {desk : Desk} (solvent : desk.store.Solvent)
    (events : List Event) : (desk.afterEvents events).store.Solvent := by
  apply afterEvents_induction Store.Solvent solvent
  · intro _ _ _ _ _ solvent committed
    exact solvent.committed committed
  · intro store users plans solvent
    exact ⟨solvent.complete, solvent.oneBalance, solvent.balances⟩
  · intro store order _ solvent
    exact ⟨solvent.complete, solvent.oneBalance, solvent.balances⟩

namespace Wallet

variable {context : Context} {store : Store} {userId : Int} {movement : Movement}

theorem currency_matches_held :
    (Text.currencyCode movement.currency = "" ∨
        Text.currencyCode movement.currency = (held context store userId movement).currency) ↔
      (Text.currencyCode movement.currency = "" ∨
        ∀ balance, store.balance? userId = some balance →
          Text.currencyCode movement.currency = balance.currency) := by
  cases found : store.balance? userId with
  | none =>
    rw [held_currency_of_none found, Text.orElse]
    by_cases blank : Text.currencyCode movement.currency = "" <;> simp [blank]
  | some balance => simp [held_of_found found]

theorem decided_iff_takes (solvent : store.Solvent) (owner : Store.fitsColumn userId = true) :
    (∃ kind, decision context userId (held context store userId movement) movement = .ok kind) ↔
      context.deadlinePassed = false ∧ store.Takes userId movement := by
  have limit : Store.columnLimit = 2 ^ 63 := rfl
  have spendable := solvent.spendable userId
  simp only [decision_eq_ok, Work.accept_eq_ok, currency_matches_held, held_spendable,
    MovementKind.ofText?_eq_some]
  constructor
  · rintro ⟨kind, moves, named, ⟨inTime, -⟩, sameCurrency, covered, -, fit⟩
    have fits := Store.fitsColumn_iff.mp (fit (store.spendableCents userId + movement.amountCents)
      (by simp))
    exact ⟨inTime, moves, ⟨kind, named⟩, sameCurrency, covered, by omega⟩
  · rintro ⟨inTime, moves, ⟨kind, named⟩, sameCurrency, covered, fits⟩
    refine ⟨kind, moves, named, ⟨inTime, by simpa using owner⟩, sameCurrency, covered, inTime, ?_⟩
    intro number member
    simp only [List.mem_cons, List.not_mem_nil, or_false] at member
    rcases member with rfl | rfl | rfl
    · exact owner
    · exact Store.fitsColumn_iff.mpr (by omega)
    · exact Store.fitsColumn_iff.mpr (by omega)

theorem refund_decided_iff_takes (solvent : store.Solvent)
    (owner : Store.fitsColumn userId = true) :
    (∃ kind, refundDecision context userId (held context store userId (credit movement)) movement =
        .ok kind) ↔
      context.deadlinePassed = false ∧ 0 < movement.amountCents ∧
        store.Takes userId (credit movement) := by
  simp only [refundDecision, Outcome.throw_ite_eq_ok, exists_and_left, not_le,
    decided_iff_takes solvent owner]
  exact and_left_comm

/-! ## Movements in full -/

/-- A movement that has been made: one new entry, the balance of its user to match, and every other
row as it was. -/
structure Moved (context : Context) (before : Store) (userId : Int) (movement : Movement)
    (entry : LedgerEntry) (balance : Balance) (after : Store) : Prop where
  id_eq : entry.id = Store.nextId (before.ledger.map (·.id))
  userId_eq : entry.userId = userId
  amountCents_eq : entry.amountCents = movement.amountCents
  kind_eq : entry.kind.text = Text.keyword movement.kind
  currency_eq : entry.currency = balance.currency
  balanceAfterCents_eq :
    entry.balanceAfterCents = before.spendableCents userId + movement.amountCents
  kept : balance.userId = userId ∧ balance.cents = entry.balanceAfterCents ∧
    balance.lastEntryId = some entry.id
  keepsCurrency : ∀ present, before.balance? userId = some present →
    balance.currency = present.currency
  opensCurrency : before.balance? userId = none →
    balance.currency =
      Text.orElse (Text.currencyCode movement.currency) context.settings.walletCurrency
  own : after.balancesOf userId = [balance]
  others : ∀ other, other ≠ userId → after.balancesOf other = before.balancesOf other
  ledger : after.ledger = before.ledger ++ [entry]
  rest : after = { before with balances := after.balances, ledger := after.ledger }

theorem Posting.moved {after : Store} {entry : LedgerEntry} {balance : Balance}
    (posting : Posting context store userId movement entry balance after)
    (oneBalance : (store.balances.map (·.userId)).Nodup) :
    Moved context store userId movement entry balance after where
  id_eq := posting.id_eq
  userId_eq := posting.userId_eq
  amountCents_eq := posting.amountCents_eq
  kind_eq := (MovementKind.ofText?_eq_some.mp posting.kind_eq).symm
  currency_eq := posting.balance_currency.symm
  balanceAfterCents_eq := posting.balanceAfterCents_spendable
  kept := by
    refine ⟨posting.balance_userId, ?_⟩
    rw [posting.balance_eq]
    exact ⟨rfl, rfl⟩
  keepsCurrency := by
    intro present found
    rw [posting.balance_currency, ← posting.held_currency, held_of_found found]
  opensCurrency := by
    intro absent
    rw [posting.balance_currency, ← posting.held_currency, held_currency_of_none absent]
  own := by
    have distinct : (after.balances.map (·.userId)).Nodup := by
      rw [posting.store_eq]
      exact Store.nodup_keep oneBalance
    rw [Store.balancesOf, ← posting.balance_userId]
    exact Store.filter_eq_singleton distinct (posting.mem_balances.mpr (.inl rfl))
  others := by
    intro other foreign
    rw [Store.balancesOf, posting.store_eq]
    exact Store.filter_keep_of_ne (posting.balance_userId.symm ▸ foreign)
  ledger := posting.ledger_eq
  rest := by
    rw [posting.store_eq]

end Wallet

/-! ## Calls that move wallets -/

def Reply.unnumbered : Reply → Reply
  | .moved entry balance => .moved { entry with id := 0 } { balance with lastEntryId := none }
  | reply => reply

/-- A call moves the wallet of a user once, as a movement says, or else does nothing. Which of the
two it does, and what it answers but for ids, is up to nobody else's rows. -/
structure Call.MovesOnce (call : Call) (desk : Desk) (userId : Int) (movement : Movement)
    (admitted : Prop) : Prop where
  answered : (∃ reply, (call.outcome desk).1 = .ok reply) ↔ call.context.Timely ∧ admitted
  moved : ∀ reply, (call.outcome desk).1 = .ok reply → ∃ entry balance after,
    reply = .moved entry balance ∧ (call.outcome desk).2 = { desk with store := after } ∧
      Wallet.Moved call.context desk.store userId movement entry balance after
  untouched : ∀ failure, (call.outcome desk).1 = .error failure → (call.outcome desk).2 = desk
  alone : ∀ other : Desk, other.store.dropped = [] →
    other.store.balance? userId = desk.store.balance? userId →
      (call.outcome other).1.map Reply.unnumbered = (call.outcome desk).1.map Reply.unnumbered

namespace Wallet

variable {context : Context} {desk : Desk} {userId : Int} {movement : Movement}

/-- The end of a call about whose movement something has been decided. -/
def conclude (context : Context) (desk : Desk) (userId : Int) (movement : Movement)
    (decided : Except Failure MovementKind) : Except Failure Reply × Desk :=
  match context.settings.timeoutSeconds with
  | .error fault => (.error (.broken fault), desk)
  | .ok _ =>
    match Service.timed context.runsOut decided with
    | .error failure => (.error failure.atCommit, desk)
    | .ok kind =>
      let done := made context desk.store userId movement kind
      (.ok (.moved done.1.1 done.1.2), { desk with store := done.2 })

theorem outcome_moveWallet (complete : desk.store.dropped = []) :
    (Call.mk (.moveWallet userId movement) context).outcome desk =
      conclude context desk userId movement
        (decision context userId (held context desk.store userId movement) movement) := by
  rw [Call.outcome, Operation.perform, Service.run_bind, move, Service.run_transaction,
    post_eq complete, Service.timed_map]
  unfold conclude
  cases context.settings.timeoutSeconds with
  | error fault => rfl
  | ok seconds =>
    cases Service.timed context.runsOut
      (decision context userId (held context desk.store userId movement) movement) <;> rfl

theorem outcome_refundWallet (complete : desk.store.dropped = []) :
    (Call.mk (.refundWallet userId movement) context).outcome desk =
      conclude context desk userId (credit movement)
        (refundDecision context userId (held context desk.store userId (credit movement))
          movement) := by
  rw [Call.outcome, Operation.perform, Service.run_bind, refund, Service.run_transaction,
    postRefund_eq complete, Service.timed_map]
  unfold conclude
  cases context.settings.timeoutSeconds with
  | error fault => rfl
  | ok seconds =>
    cases Service.timed context.runsOut
      (refundDecision context userId (held context desk.store userId (credit movement))
        movement) <;> rfl

theorem conclude_answers {decided : Except Failure MovementKind} :
    (∃ reply, (conclude context desk userId movement decided).1 = .ok reply) ↔
      context.settings.requestTimeoutSeconds.isSome = true ∧ context.runsOut = false ∧
        ∃ kind, decided = .ok kind := by
  simp only [← exists_and_left, ← Service.timed_eq_ok]
  unfold conclude Settings.timeoutSeconds
  cases context.settings.requestTimeoutSeconds with
  | none => simp
  | some seconds => cases Service.timed context.runsOut decided <;> simp

theorem conclude_of_ok {decided : Except Failure MovementKind} {reply : Reply}
    (answered : (conclude context desk userId movement decided).1 = .ok reply) :
    ∃ kind, decided = .ok kind ∧
      let done := made context desk.store userId movement kind
      conclude context desk userId movement decided =
        (.ok (.moved done.1.1 done.1.2), { desk with store := done.2 }) := by
  rcases conclude_answers.mp ⟨reply, answered⟩ with ⟨limited, lasting, kind, rfl⟩
  rcases Option.isSome_iff_exists.mp limited with ⟨seconds, timed⟩
  refine ⟨kind, rfl, ?_⟩
  rw [conclude, Settings.timeoutSeconds, timed, lasting, Service.timed_false]

theorem conclude_of_error {decided : Except Failure MovementKind} {failure : Failure}
    (failed : (conclude context desk userId movement decided).1 = .error failure) :
    (conclude context desk userId movement decided).2 = desk := by
  unfold conclude at failed ⊢
  split
  · rfl
  · next timed =>
    rw [timed] at failed
    cases ended : Service.timed context.runsOut decided with
    | error cause => rfl
    | ok kind =>
      rw [ended] at failed
      cases failed

theorem conclude_unnumbered {decided : Except Failure MovementKind} {other : Desk}
    (same : other.store.balance? userId = desk.store.balance? userId) :
    (conclude context other userId movement decided).1.map Reply.unnumbered =
      (conclude context desk userId movement decided).1.map Reply.unnumbered := by
  have sameHeld : held context other.store userId movement =
      held context desk.store userId movement := by
    rw [held, held, same]
  unfold conclude
  cases context.settings.timeoutSeconds with
  | error fault => rfl
  | ok seconds =>
    cases Service.timed context.runsOut decided with
    | error failure => rfl
    | ok kind => simp [Except.map, Reply.unnumbered, made, entry, settled, sameHeld]

theorem movesOnce_of_decided {operation : Operation} {admitted : Prop}
    (judge : Balance → Except Failure MovementKind) (solvent : desk.store.Solvent)
    (concluded : ∀ desk : Desk, desk.store.dropped = [] →
      (Call.mk operation context).outcome desk =
        conclude context desk userId movement (judge (held context desk.store userId movement)))
    (judged : ∀ kind, judge (held context desk.store userId movement) = .ok kind →
      decision context userId (held context desk.store userId movement) movement = .ok kind)
    (admits : (∃ kind, judge (held context desk.store userId movement) = .ok kind) ↔
      context.deadlinePassed = false ∧ admitted) :
    (Call.mk operation context).MovesOnce desk userId movement admitted where
  answered := by
    rw [concluded desk solvent.complete, conclude_answers, admits]
    constructor
    · rintro ⟨limited, lasting, inTime, taken⟩
      exact ⟨⟨inTime, lasting, limited⟩, taken⟩
    · rintro ⟨timely, taken⟩
      exact ⟨timely.limited, timely.lasting, timely.inTime, taken⟩
  moved := by
    intro reply answered
    rw [concluded desk solvent.complete] at answered ⊢
    rcases conclude_of_ok answered with ⟨kind, decided, done⟩
    rw [done] at answered ⊢
    have posting := posting_of_decided solvent.complete (judged kind decided)
    exact ⟨_, _, _, (Except.ok.inj answered).symm, rfl, posting.moved solvent.oneBalance⟩
  untouched := by
    intro failure failed
    rw [concluded desk solvent.complete] at failed ⊢
    exact conclude_of_error failed
  alone := by
    intro other complete same
    have sameHeld : held context other.store userId movement =
        held context desk.store userId movement := by
      rw [held, held, same]
    rw [concluded other complete, concluded desk solvent.complete, sameHeld]
    exact conclude_unnumbered same

end Wallet

namespace Desk

/-- Wherever events have led, a wallet is moved once by a call that it takes, and not at all by any
other. Refunds have to be credits besides, and are of their own kind whatever kind they name. -/
theorem moves_wallet_once_or_not {start : Desk} (solvent : start.store.Solvent)
    (events : List Event) {userId : Int} (owner : Store.fitsColumn userId = true)
    (movement : Movement) (context : Context) :
    let desk := start.afterEvents events
    (Call.mk (.moveWallet userId movement) context).MovesOnce desk userId movement
        (desk.store.Takes userId movement) ∧
      (Call.mk (.refundWallet userId movement) context).MovesOnce desk userId
        (Wallet.credit movement)
        (0 < movement.amountCents ∧ desk.store.Takes userId (Wallet.credit movement)) := by
  intro desk
  have reached : desk.store.Solvent := afterEvents_solvent solvent events
  constructor
  · exact Wallet.movesOnce_of_decided
      (fun held => Wallet.decision context userId held movement) reached
      (fun _ complete => Wallet.outcome_moveWallet complete) (fun _ decided => decided)
      (Wallet.decided_iff_takes reached owner)
  · apply Wallet.movesOnce_of_decided
      (fun held => Wallet.refundDecision context userId held movement) reached
      (fun _ complete => Wallet.outcome_refundWallet complete)
    · intro kind decided
      exact (Outcome.throw_ite_eq_ok.mp decided).2
    · exact Wallet.refund_decided_iff_takes reached owner

def sampleSpending (cents : Int) : Movement :=
  { kind := some " Purchase", amountCents := -cents }

theorem sample_spends_all_once :
    sample.store.Solvent ∧
      let desk := sample.afterEvents (sampleCalls.map .called)
      let call (cents : Int) := sampleCall 50 (.moveWallet 1 (sampleSpending cents))
      (∃ reply, ((call 500).outcome desk).1 = .ok reply) ∧
        ¬∃ reply, ((call 501).outcome desk).1 = .ok reply := by
  have solvent : sample.store.Solvent := ⟨rfl, List.nodup_nil, nofun⟩
  have owner : Store.fitsColumn 1 = true := rfl
  have moves (cents : Int) := (moves_wallet_once_or_not solvent (sampleCalls.map .called) owner
    (sampleSpending cents) { now := .ofSeconds 50 }).1
  have left : (sample.afterEvents (sampleCalls.map .called)).store.spendableCents 1 = 500 := by
    decide +kernel
  refine ⟨solvent, (moves 500).answered.mpr ⟨⟨rfl, rfl, rfl⟩, ?_⟩, fun done => ?_⟩
  · refine ⟨by decide, ⟨.purchase, by decide +kernel⟩, .inl (by decide), ?_, ?_⟩
    · rw [left]
      decide
    · rw [left]
      decide
  · have covered := ((moves 501).answered.mp done).2.covered
    rw [left] at covered
    cases covered

end Desk

end OrderDesk
