import OrderDesk.Proofs.Order.Closure
import OrderDesk.Proofs.Text.Case
import OrderDesk.Proofs.Wallet.Agreement

/-!
Wallets and their currencies. A wallet is opened in one currency and keeps it, its entries are in
that currency, and a movement that asks for another one is refused.
-/

namespace OrderDesk

def Balance.purse (balance : Balance) : Int × String :=
  (balance.userId, balance.currency)

namespace Store

/-- Every user has one balance at most, each of them in a currency, and no entry is in another
currency than its user's balance. -/
structure WalletsInCurrency (store : Store) : Prop where
  oneBalance : (store.balances.map (·.userId)).Nodup
  balances : ∀ balance ∈ store.balances, Text.IsCode balance.currency
  entries : ∀ entry ∈ store.ledger, ∃ balance, store.balance? entry.userId = some balance ∧
    balance.currency = entry.currency

theorem balance?_of_mem {store : Store} {balance : Balance}
    (oneBalance : (store.balances.map (·.userId)).Nodup) (member : balance ∈ store.balances) :
    store.balance? balance.userId = some balance :=
  find?_of_mem oneBalance member

theorem map_purse_keep {balance : Balance} {balances : List Balance}
    (same : ∀ present ∈ balances, present.userId = balance.userId →
      balance.purse = present.purse) :
    balances.map (·.purse) <+: (keep balance balances).map (·.purse) := by
  rw [keep]
  split
  · exact (map_replace same).symm ▸ List.prefix_rfl
  · rw [List.map_append]
    exact List.prefix_append _ _

end Store

namespace Wallet

variable {context : Context} {store after : Store} {userId : Int} {movement : Movement}
  {posted : LedgerEntry} {balance : Balance}

theorem held_of_found (found : store.balance? userId = some balance) :
    held context store userId movement = balance := by
  rw [held, found, Option.getD_some]

theorem held_currency_of_none (absent : store.balance? userId = none) :
    (held context store userId movement).currency =
      Text.orElse (Text.currencyCode movement.currency) context.settings.walletCurrency := by
  rw [held, absent, Option.getD_none]

theorem isCode_held (wallets : store.WalletsInCurrency) :
    Text.IsCode (held context store userId movement).currency := by
  cases found : store.balance? userId with
  | none =>
    rw [held_currency_of_none found]
    exact Text.isCode_orElse context.settings.isCode_walletCurrency
  | some balance =>
    rw [held_of_found found]
    exact wallets.balances balance (Store.balance?_eq_some found).1

namespace Posting

theorem held_currency (posting : Posting context store userId movement posted balance after) :
    (held context store userId movement).currency = posted.currency :=
  (congrArg LedgerEntry.currency posting.entry_eq).symm

theorem balance_currency (posting : Posting context store userId movement posted balance after) :
    balance.currency = posted.currency := by
  rw [posting.balance_eq, ← posting.held_currency]
  rfl

theorem purse_eq (posting : Posting context store userId movement posted balance after)
    {present : Balance} (found : store.balance? userId = some present) :
    balance.purse = present.purse := by
  rw [Balance.purse, Balance.purse, posting.balance_userId, posting.balance_currency,
    ← posting.held_currency, held_of_found found, (Store.balance?_eq_some found).2]

theorem purses (posting : Posting context store userId movement posted balance after)
    (oneBalance : (store.balances.map (·.userId)).Nodup) :
    store.balances.map (·.purse) <+: after.balances.map (·.purse) := by
  rw [posting.store_eq]
  refine Store.map_purse_keep fun present member owner => posting.purse_eq ?_
  rw [← posting.balance_userId, ← owner]
  exact Store.balance?_of_mem oneBalance member

theorem posted_eq (posting : Posting context store userId movement posted balance after)
    {entry : LedgerEntry} (entered : after.ledger = store.ledger ++ [entry]) : posted = entry :=
  List.singleton_inj.mp (List.append_inj' (posting.ledger_eq.symm.trans entered) rfl).2

theorem walletsInCurrency (posting : Posting context store userId movement posted balance after)
    (wallets : store.WalletsInCurrency) : after.WalletsInCurrency := by
  have oneBalance : (after.balances.map (·.userId)).Nodup := by
    rw [posting.store_eq]
    exact Store.nodup_keep wallets.oneBalance
  refine ⟨oneBalance, fun other member => ?_, fun entry member => ?_⟩
  · rcases posting.mem_balances.mp member with rfl | ⟨present, -⟩
    · rw [posting.balance_currency, ← posting.held_currency]
      exact isCode_held wallets
    · exact wallets.balances other present
  · rw [posting.ledger_eq] at member
    rcases List.mem_append.mp member with old | new
    · rcases wallets.entries entry old with ⟨present, found, currency⟩
      by_cases own : entry.userId = userId
      · have same := posting.purse_eq (own ▸ found)
        exact ⟨balance, own ▸ posting.balance?_self,
          (congrArg Prod.snd same).trans currency⟩
      · have kept : present ∈ after.balances := posting.mem_balances.mpr (.inr
          ⟨(Store.balance?_eq_some found).1, (Store.balance?_eq_some found).2 ▸ own⟩)
        refine ⟨present, ?_, currency⟩
        rw [← (Store.balance?_eq_some found).2]
        exact Store.balance?_of_mem oneBalance kept
    · rcases List.mem_singleton.mp new with rfl
      rw [posting.userId_eq]
      exact ⟨balance, posting.balance?_self, posting.balance_currency⟩

end Posting

end Wallet

theorem Store.WalletsInCurrency.congr {store after : Store}
    (balances : after.balances = store.balances) (ledger : after.ledger = store.ledger)
    (wallets : store.WalletsInCurrency) : after.WalletsInCurrency := by
  have found : after.balance? = store.balance? := by
    funext userId
    rw [Store.balance?, Store.balance?, balances]
  constructor
  · rw [balances]
    exact wallets.oneBalance
  · rw [balances]
    exact wallets.balances
  · rw [ledger, found]
    exact wallets.entries

namespace Operation

variable {context : Context} {last : Int} {store after : Store} {operation : Operation}

theorem Committed.walletsInCurrency (committed : Committed context last store operation after)
    (wallets : store.WalletsInCurrency) : after.WalletsInCurrency := by
  rcases committed.wallets with
    ⟨balances, ledger⟩ | ⟨_, _, _, _, between, posting, balances, ledger⟩
  · exact wallets.congr balances ledger
  · exact (posting.walletsInCurrency wallets).congr balances ledger

theorem Committed.purses (committed : Committed context last store operation after)
    (oneBalance : (store.balances.map (·.userId)).Nodup) :
    store.balances.map (·.purse) <+: after.balances.map (·.purse) := by
  rcases committed.wallets with ⟨balances, -⟩ | ⟨_, _, _, _, between, posting, balances, -⟩
  · exact balances ▸ List.prefix_rfl
  · exact balances ▸ posting.purses oneBalance

end Operation

/-! ## Movements in another currency -/

namespace Wallet

def AsksForOther (movement : Movement) (balance : Balance) : Prop :=
  Text.currencyCode movement.currency ≠ "" ∧
    Text.currencyCode movement.currency ≠ balance.currency

section

variable (context : Context) {store : Store} {userId : Int} {movement : Movement}
  {balance : Balance} (found : store.balance? userId = some balance)
  (other : AsksForOther movement balance)

include found other

theorem post_of_other : ∃ failure, post userId movement context store = .error failure := by
  cases done : post userId movement context store with
  | error failure => exact ⟨failure, rfl⟩
  | ok result =>
    rcases result with ⟨⟨posted, settled⟩, after⟩
    have posting := post_ok done
    refine absurd (posting.currency_matches other.1) ?_
    rw [← posting.held_currency, held_of_found found]
    exact other.2

theorem postRefund_of_other :
    ∃ failure, postRefund userId movement context store = .error failure := by
  rw [postRefund]
  split
  · exact ⟨_, rfl⟩
  · exact post_of_other context found other

theorem post_refused (allowed : Work.Allowed context store [.balances] [userId])
    (moves : movement.amountCents ≠ 0) {kind : MovementKind}
    (named : MovementKind.ofText? (Text.keyword movement.kind) = some kind) :
    post userId movement context store =
      .error (.refused (.currencyMismatch balance.currency
        (Text.currencyCode movement.currency))) := by
  have opened : openBalance userId movement.currency context store = .ok (balance, store) := by
    refine Work.bind_eq_ok.mpr ⟨some balance, store, ?_, rfl⟩
    exact Work.balance?_eq_ok.mpr ⟨allowed, found, rfl⟩
  rw [post, if_neg moves, named]
  dsimp only
  rw [Work.bind_of_ok opened, if_pos ⟨other.1, other.2⟩]
  rfl

end

end Wallet

namespace Service

variable {α : Type} {work : Work α} {context : Context} {desk : Desk} {failure : Failure}

theorem run_transaction_of_error (failed : work context desk.store = .error failure) :
    ∃ answered, (transaction work).run context desk = (.error answered, desk) := by
  rw [run_transaction, failed]
  cases context.settings.timeoutSeconds with
  | error fault => exact ⟨_, rfl⟩
  | ok seconds =>
    cases ended : timed context.runsOut (.error failure : Except Failure (α × Store)) with
    | ok done => cases (timed_eq_ok.mp ended).2
    | error answered => exact ⟨_, rfl⟩

theorem run_transaction_error (timely : context.Timely)
    (failed : work context desk.store = .error failure) :
    (transaction work).run context desk = (.error failure.atCommit, desk) := by
  rcases timely.timeoutSeconds_ok with ⟨seconds, timed⟩
  rw [run_transaction, timed, timely.lasting, timed_false, failed]

end Service

/-- A movement is refused for its currency, whether it is one of its own, a refund, or a part of
some larger work, and nothing changes. -/
structure Desk.RefusesCurrency (desk : Desk) (context : Context) (userId : Int)
    (movement : Movement) (balance : Balance) : Prop where
  within : ∃ failure, Wallet.post userId movement context desk.store = .error failure
  moved : ∃ failure, (Call.mk (.moveWallet userId movement) context).outcome desk =
    (.error failure, desk)
  refunded : ∃ failure, (Call.mk (.refundWallet userId movement) context).outcome desk =
    (.error failure, desk)
  reason : context.Timely → Work.Allowed context desk.store [.balances] [userId] →
    let refused : Except Failure Reply × Desk := (.error (.refused (.currencyMismatch
      balance.currency (Text.currencyCode movement.currency))), desk)
    (∀ kind, MovementKind.ofText? (Text.keyword movement.kind) = some kind →
      movement.amountCents ≠ 0 →
        (Call.mk (.moveWallet userId movement) context).outcome desk = refused) ∧
    (0 < movement.amountCents →
      (Call.mk (.refundWallet userId movement) context).outcome desk = refused)

namespace Desk

variable {desk : Desk} {context : Context} {userId : Int} {movement : Movement}
  {balance : Balance}

theorem refusesCurrency (found : desk.store.balance? userId = some balance)
    (other : Wallet.AsksForOther movement balance) :
    desk.RefusesCurrency context userId movement balance := by
  rcases Wallet.post_of_other context found other with ⟨failure, failed⟩
  refine ⟨⟨failure, failed⟩, ?_, ?_, fun timely allowed => ⟨fun kind named moves => ?_,
    fun positive => ?_⟩⟩
  · rcases Service.run_transaction_of_error failed with ⟨answered, ran⟩
    refine ⟨answered, ?_⟩
    rw [Call.outcome, Operation.perform, Service.run_bind, Wallet.move, ran]
  · rcases Wallet.postRefund_of_other context found other with ⟨failure, failed⟩
    rcases Service.run_transaction_of_error failed with ⟨answered, ran⟩
    refine ⟨answered, ?_⟩
    rw [Call.outcome, Operation.perform, Service.run_bind, Wallet.refund, ran]
  · have refused := Wallet.post_refused context found other allowed moves named
    rw [Call.outcome, Operation.perform, Service.run_bind, Wallet.move,
      Service.run_transaction_error timely refused]
    rfl
  · have credited : Wallet.postRefund userId movement context desk.store =
        .error (.refused (.currencyMismatch balance.currency
          (Text.currencyCode movement.currency))) := by
      rw [Wallet.postRefund, if_neg (Int.not_le.mpr positive)]
      have alike : Wallet.AsksForOther (Wallet.credit movement) balance := other
      exact Wallet.post_refused context found alike allowed (Int.ne_of_gt positive)
        (MovementKind.ofText?_keyword .refund)
    rw [Call.outcome, Operation.perform, Service.run_bind, Wallet.refund,
      Service.run_transaction_error timely credited]
    rfl

end Desk

end OrderDesk
