import OrderDesk.Proofs.Store.Rows
import OrderDesk.Wallet.Movement

/-!
What a movement of a wallet comes to: one balance is kept anew, and the ledger grows by one entry
that says what the balance has become.
-/

namespace OrderDesk

namespace Store

def keep (balance : Balance) (balances : List Balance) : List Balance :=
  if balances.any (·.userId == balance.userId) then replace (·.userId) balance balances
  else balances ++ [balance]

section

variable {balance : Balance} {balances : List Balance}

theorem keep_of_mem {present : Balance} (member : present ∈ balances)
    (same : present.userId = balance.userId) :
    keep balance balances = replace (·.userId) balance balances := by
  rw [keep, if_pos]
  exact List.any_eq_true.mpr ⟨present, member, by simpa using same⟩

theorem keep_of_fresh (fresh : ∀ present ∈ balances, present.userId ≠ balance.userId) :
    keep balance balances = balances ++ [balance] := by
  rw [keep, if_neg]
  simpa using fresh

theorem mem_keep {other : Balance} :
    other ∈ keep balance balances ↔
      other = balance ∨ other ∈ balances ∧ other.userId ≠ balance.userId := by
  by_cases present : ∃ held ∈ balances, held.userId = balance.userId
  · rcases present with ⟨held, member, same⟩
    rw [keep_of_mem member same]
    constructor
    · exact mem_replace
    · rintro (rfl | ⟨kept, different⟩)
      · exact List.mem_of_find?_eq_some (find?_replace_self member same)
      · exact (mem_replace_of_ne _ _ _ different).mpr kept
  · have fresh : ∀ held ∈ balances, held.userId ≠ balance.userId :=
      fun held member same => present ⟨held, member, same⟩
    rw [keep_of_fresh fresh, List.mem_append, List.mem_singleton, or_comm]
    exact or_congr_right (iff_self_and.mpr (fresh other))

theorem find?_keep :
    (keep balance balances).find? (·.userId == balance.userId) = some balance := by
  by_cases present : ∃ held ∈ balances, held.userId = balance.userId
  · rcases present with ⟨held, member, same⟩
    rw [keep_of_mem member same]
    exact find?_replace_self member same
  · have fresh : ∀ held ∈ balances, held.userId ≠ balance.userId :=
      fun held member same => present ⟨held, member, same⟩
    rw [keep_of_fresh fresh, List.find?_append, List.find?_eq_none.mpr (by simpa using fresh)]
    simp

theorem nodup_keep (nodup : (balances.map (·.userId)).Nodup) :
    ((keep balance balances).map (·.userId)).Nodup := by
  rw [keep]
  split
  · rwa [map_key_replace]
  · next absent =>
    rw [List.map_append, List.nodup_append]
    refine ⟨nodup, by simp, ?_⟩
    simpa using absent

end

end Store

namespace MovementKind

theorem ofText?_eq_some {text : String} {kind : MovementKind} :
    ofText? text = some kind ↔ text = kind.text := by
  constructor
  · intro read
    unfold ofText? at read
    split at read <;> cases read <;> rfl
  · rintro rfl
    cases kind <;> rfl

theorem ofText?_keyword (kind : MovementKind) :
    ofText? (Text.keyword (some kind.text)) = some kind := by
  cases kind <;> decide

end MovementKind

namespace Wallet

/-- The balance that a movement starts from: the user's own, or a new one. -/
def held (context : Context) (store : Store) (userId : Int) (movement : Movement) : Balance :=
  (store.balance? userId).getD ⟨userId, 0,
    Text.orElse (Text.currencyCode movement.currency) context.settings.walletCurrency, none,
    some context.walletNow, some context.walletNow⟩

theorem held_userId {context : Context} {store : Store} {userId : Int} {movement : Movement} :
    (held context store userId movement).userId = userId := by
  rw [held]
  cases found : store.balance? userId with
  | none => rfl
  | some balance => exact (Store.balance?_eq_some found).2

def entry (context : Context) (store : Store) (userId : Int) (movement : Movement)
    (kind : MovementKind) : LedgerEntry where
  id := Store.nextId (store.ledger.map (·.id))
  userId := userId
  kind := kind
  amountCents := movement.amountCents
  currency := (held context store userId movement).currency
  balanceAfterCents := (held context store userId movement).cents + movement.amountCents
  reference := Text.truncate maxReferenceLength (Text.trim? movement.reference)
  description := Text.truncate maxDescriptionLength (Text.trim? movement.description)
  metadata := movement.metadata
  createdAt := context.walletNow

def settled (held : Balance) (entry : LedgerEntry) : Balance :=
  { held with
    cents := entry.balanceAfterCents
    lastEntryId := some entry.id
    updatedAt := some entry.createdAt }

structure Posting (context : Context) (store : Store) (userId : Int) (movement : Movement)
    (posted : LedgerEntry) (balance : Balance) (after : Store) : Prop where
  amount_ne_zero : movement.amountCents ≠ 0
  kind_eq : MovementKind.ofText? (Text.keyword movement.kind) = some posted.kind
  currency_matches : Text.currencyCode movement.currency ≠ "" →
    Text.currencyCode movement.currency = posted.currency
  covered : 0 ≤ posted.balanceAfterCents
  balanceAllowed : Work.Allowed context store [.balances] [userId]
  entryAllowed : Work.Allowed context store [.ledger]
    [userId, posted.amountCents, posted.balanceAfterCents]
  entry_eq : posted = entry context store userId movement posted.kind
  balance_eq : balance = settled (held context store userId movement) posted
  store_eq : after = { store with
    balances := Store.keep balance store.balances
    ledger := store.ledger ++ [posted] }

variable {context : Context} {store after : Store} {userId : Int} {movement : Movement}
  {posted : LedgerEntry} {balance : Balance}

/-- Opening a balance leaves the store with the balance that a movement starts from: keeping it
later in another state forgets that it was opened. -/
theorem openBalance_ok (opened : openBalance userId movement.currency context store =
      .ok (balance, after)) :
    balance = held context store userId movement ∧
      Work.Allowed context store [.balances] [userId] ∧
      ∃ balances, after = { store with balances } ∧
        ∀ later : Balance, later.userId = userId →
          Store.replace (·.userId) later balances = Store.keep later store.balances := by
  rw [openBalance, Work.bind_eq_ok] at opened
  rcases opened with ⟨found, _, looked, opened⟩
  rcases Work.balance?_eq_ok.mp looked with ⟨allowed, rfl, rfl⟩
  rw [held]
  cases present : store.balance? userId with
  | some balance =>
    rw [present] at opened
    rcases Work.pure_eq_ok.mp opened with ⟨rfl, rfl⟩
    have ⟨member, same⟩ := Store.balance?_eq_some present
    refine ⟨rfl, allowed, store.balances, rfl, fun later owner => ?_⟩
    exact (Store.keep_of_mem member (same.trans owner.symm)).symm
  | none =>
    rw [present] at opened
    dsimp only at opened
    rw [Work.read_bind] at opened
    rcases Work.insertBalance_eq_ok.mp opened with ⟨-, rfl, rfl⟩
    have fresh := Store.balance?_eq_none.mp present
    refine ⟨rfl, allowed, _, rfl, fun later owner => ?_⟩
    have freshLater : ∀ held ∈ store.balances, held.userId ≠ later.userId := owner ▸ fresh
    rw [Store.keep_of_fresh freshLater]
    exact Store.replace_append_of_fresh freshLater owner.symm

namespace Posting

theorem userId_eq (posting : Posting context store userId movement posted balance after) :
    posted.userId = userId :=
  congrArg LedgerEntry.userId posting.entry_eq

theorem id_eq (posting : Posting context store userId movement posted balance after) :
    posted.id = Store.nextId (store.ledger.map (·.id)) :=
  congrArg LedgerEntry.id posting.entry_eq

theorem amountCents_eq (posting : Posting context store userId movement posted balance after) :
    posted.amountCents = movement.amountCents :=
  congrArg LedgerEntry.amountCents posting.entry_eq

theorem createdAt_eq (posting : Posting context store userId movement posted balance after) :
    posted.createdAt = context.walletNow :=
  congrArg LedgerEntry.createdAt posting.entry_eq

theorem balanceAfterCents_held
    (posting : Posting context store userId movement posted balance after) :
    posted.balanceAfterCents =
      (held context store userId movement).cents + movement.amountCents :=
  congrArg LedgerEntry.balanceAfterCents posting.entry_eq

theorem kind_eq_of_named (posting : Posting context store userId movement posted balance after)
    {kind : MovementKind} (named : movement.kind = some kind.text) : posted.kind = kind := by
  have read := posting.kind_eq
  rw [named, MovementKind.ofText?_keyword] at read
  exact (Option.some.inj read).symm

theorem ledger_eq (posting : Posting context store userId movement posted balance after) :
    after.ledger = store.ledger ++ [posted] := by
  rw [posting.store_eq]

end Posting

theorem Posting.of_same_wallets
    (posting : Posting context store userId movement posted balance after)
    (other : Store) (balances : other.balances = store.balances)
    (ledger : other.ledger = store.ledger) (dropped : other.dropped = store.dropped) :
    Posting context other userId movement posted balance
      { other with
        balances := Store.keep balance other.balances
        ledger := other.ledger ++ [posted] } := by
  have sameHeld : held context other userId movement = held context store userId movement := by
    rw [held, held, Store.balance?, Store.balance?, balances]
  exact {
    amount_ne_zero := posting.amount_ne_zero
    kind_eq := posting.kind_eq
    currency_matches := posting.currency_matches
    covered := posting.covered
    balanceAllowed := ⟨posting.balanceAllowed.inTime, dropped ▸ posting.balanceAllowed.present,
      posting.balanceAllowed.fit⟩
    entryAllowed := ⟨posting.entryAllowed.inTime, dropped ▸ posting.entryAllowed.present,
      posting.entryAllowed.fit⟩
    entry_eq := by rw [entry, sameHeld, ledger]; exact posting.entry_eq
    balance_eq := by rw [sameHeld]; exact posting.balance_eq
    store_eq := rfl }

theorem post_ok (done : post userId movement context store = .ok ((posted, balance), after)) :
    Posting context store userId movement posted balance after := by
  rw [post, Work.refuse_ite_eq_ok] at done
  rcases done with ⟨amount_ne_zero, done⟩
  cases kind_eq : MovementKind.ofText? (Text.keyword movement.kind) with
  | none =>
    rw [kind_eq] at done
    exact (Work.refuse_eq_ok.mp done).elim
  | some kind =>
    rw [kind_eq] at done
    dsimp only at done
    rcases Work.bind_eq_ok.mp done with ⟨_, _, opened, done⟩
    rcases openBalance_ok opened with ⟨rfl, balanceAllowed, balances, rfl, keeps⟩
    rw [Work.refuse_ite_eq_ok] at done
    rcases done with ⟨currency_matches, done⟩
    rw [Work.refuse_ite_eq_ok] at done
    rcases done with ⟨covered, done⟩
    rw [Work.walletNow_bind, Work.bind_eq_ok] at done
    rcases done with ⟨_, _, inserted, done⟩
    rcases Work.insertEntry_eq_ok.mp inserted with ⟨entryAllowed, rfl, rfl⟩
    rw [Work.saveBalance_bind, Work.pure_eq_ok] at done
    rcases done with ⟨equal, rfl⟩
    rcases Prod.mk.inj equal with ⟨rfl, rfl⟩
    have kept := keeps (settled (held context store userId movement)
      (entry context store userId movement kind)) held_userId
    exact {
      amount_ne_zero, kind_eq, balanceAllowed
      currency_matches := fun asked => by simpa [asked] using currency_matches
      covered := Int.not_lt.mp covered
      entryAllowed := ⟨entryAllowed.inTime, entryAllowed.present, entryAllowed.fit⟩
      entry_eq := rfl
      balance_eq := rfl
      store_eq := congrArg (fun balances => { store with
        balances
        ledger := store.ledger ++ [entry context store userId movement kind] }) kept }

def credit (movement : Movement) : Movement :=
  { movement with kind := some MovementKind.refund.text }

theorem postRefund_ok
    (done : postRefund userId movement context store = .ok ((posted, balance), after)) :
    0 < movement.amountCents ∧
      Posting context store userId (credit movement) posted balance after := by
  rw [postRefund, Work.refuse_ite_eq_ok] at done
  exact ⟨Int.not_le.mp done.1, post_ok done.2⟩

end Wallet

end OrderDesk
