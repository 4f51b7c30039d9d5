import Mathlib.Algebra.Ring.Int.Defs
import OrderDesk.Proofs.Desk.Commit

/-!
Balances and the ledger never drift apart. Every entry notes what the amounts of its user have come
to, and every balance is what the last entry of its user has noted.
-/

namespace OrderDesk

/-- The ledger explains all balances. -/
structure Store.WalletsAgree (store : Store) : Prop where
  oneBalance : (store.balances.map (·.userId)).Nodup
  inOrder : store.ledger.Pairwise (·.id < ·.id)
  moved : ∀ userId, (∃ balance ∈ store.balances, balance.userId = userId) ↔
    store.entriesOf userId ≠ []
  running : ∀ userId earlier entry later, store.entriesOf userId = earlier ++ entry :: later →
    entry.amountCents ≠ 0 ∧ 0 ≤ entry.balanceAfterCents ∧
      entry.balanceAfterCents = ((earlier ++ [entry]).map (·.amountCents)).sum
  latest : ∀ balance ∈ store.balances, 0 ≤ balance.cents ∧
    ∃ last, (store.entriesOf balance.userId).getLast? = some last ∧
      balance.cents = last.balanceAfterCents ∧ balance.lastEntryId = some last.id

theorem Store.ledgerSum_eq {store : Store} {userId : Int} :
    store.ledgerSum userId = ((store.entriesOf userId).map (·.amountCents)).sum := by
  rw [ledgerSum, List.sum_eq_foldl]

namespace Wallet

variable {context : Context} {store after : Store} {userId : Int} {movement : Movement}
  {posted : LedgerEntry} {balance : Balance}

namespace Posting

theorem entriesOf_self (posting : Posting context store userId movement posted balance after) :
    after.entriesOf userId = store.entriesOf userId ++ [posted] := by
  rw [Store.entriesOf, posting.ledger_eq]
  exact Store.filter_append_of_eq posting.userId_eq

theorem entriesOf_of_ne (posting : Posting context store userId movement posted balance after)
    {other : Int} (different : other ≠ userId) :
    after.entriesOf other = store.entriesOf other := by
  rw [Store.entriesOf, posting.ledger_eq]
  exact Store.filter_append_of_ne (posting.userId_eq ▸ different.symm)

theorem balance_userId (posting : Posting context store userId movement posted balance after) :
    balance.userId = userId := by
  rw [posting.balance_eq]
  exact held_userId

end Posting

theorem held_cents (agree : store.WalletsAgree) :
    (held context store userId movement).cents = store.ledgerSum userId := by
  rw [held, Store.ledgerSum_eq]
  cases found : store.balance? userId with
  | none =>
    have absent := Store.balance?_eq_none.mp found
    have unmoved : store.entriesOf userId = [] := by
      refine Classical.byContradiction fun moved => ?_
      rcases (agree.moved userId).mpr moved with ⟨balance, member, owner⟩
      exact absent balance member owner
    rw [unmoved]
    rfl
  | some balance =>
    rcases Store.balance?_eq_some found with ⟨member, rfl⟩
    rcases agree.latest balance member with ⟨-, last, isLast, cents_eq, -⟩
    rcases List.getLast?_eq_some_iff.mp isLast with ⟨earlier, entries_eq⟩
    rcases agree.running balance.userId earlier last [] entries_eq with ⟨-, -, sum_eq⟩
    rw [entries_eq, ← sum_eq]
    exact cents_eq

theorem Posting.mem_balances (posting : Posting context store userId movement posted balance after)
    {other : Balance} :
    other ∈ after.balances ↔ other = balance ∨ other ∈ store.balances ∧ other.userId ≠ userId := by
  rw [posting.store_eq, Store.mem_keep, posting.balance_userId]

theorem Posting.balance?_self
    (posting : Posting context store userId movement posted balance after) :
    after.balance? userId = some balance := by
  rw [Store.balance?, posting.store_eq, ← posting.balance_userId]
  exact Store.find?_keep

theorem Posting.balanceAfterCents_eq
    (posting : Posting context store userId movement posted balance after)
    (agree : store.WalletsAgree) :
    posted.balanceAfterCents = ((store.entriesOf userId ++ [posted]).map (·.amountCents)).sum := by
  rw [posting.balanceAfterCents_held, held_cents agree, Store.ledgerSum_eq, List.map_append,
    List.sum_append, ← posting.amountCents_eq]
  simp

theorem Posting.walletsAgree
    (posting : Posting context store userId movement posted balance after)
    (agree : store.WalletsAgree) : after.WalletsAgree where
  oneBalance := by
    rw [posting.store_eq]
    exact Store.nodup_keep agree.oneBalance
  inOrder := by
    rw [posting.ledger_eq]
    refine List.pairwise_append.mpr ⟨agree.inOrder, List.pairwise_singleton _ _, ?_⟩
    intro entry member last isLast
    rw [List.mem_singleton.mp isLast, posting.id_eq]
    exact Store.lt_nextId (List.mem_map_of_mem member)
  moved := by
    intro other
    by_cases own : other = userId
    · subst own
      rw [posting.entriesOf_self]
      exact iff_of_true ⟨balance, posting.mem_balances.mpr (.inl rfl), posting.balance_userId⟩
        (List.append_ne_nil_of_right_ne_nil _ (List.cons_ne_nil _ _))
    · rw [posting.entriesOf_of_ne own, ← agree.moved other]
      constructor
      · rintro ⟨held, member, rfl⟩
        rcases posting.mem_balances.mp member with rfl | ⟨present, -⟩
        · exact absurd posting.balance_userId own
        · exact ⟨held, present, rfl⟩
      · rintro ⟨held, present, rfl⟩
        exact ⟨held, posting.mem_balances.mpr (.inr ⟨present, own⟩), rfl⟩
  running := by
    intro other earlier entry later split
    by_cases own : other = userId
    · subst own
      rw [posting.entriesOf_self] at split
      -- Either it is the new entry itself, or the entries around it were there before.
      rcases List.eq_nil_or_concat later with rfl | ⟨front, last, rfl⟩
      · rcases List.append_inj' split rfl with ⟨rfl, same⟩
        rcases List.cons.inj same with ⟨rfl, -⟩
        exact ⟨posting.amountCents_eq ▸ posting.amount_ne_zero, posting.covered,
          posting.balanceAfterCents_eq agree⟩
      · have shorter : store.entriesOf other = earlier ++ entry :: front := by
          rw [List.concat_eq_append, ← List.cons_append, ← List.append_assoc] at split
          exact (List.append_inj' split rfl).1
        exact agree.running other earlier entry front shorter
    · rw [posting.entriesOf_of_ne own] at split
      exact agree.running other earlier entry later split
  latest := by
    intro other member
    rcases posting.mem_balances.mp member with rfl | ⟨present, foreign⟩
    · rw [posting.balance_userId, posting.entriesOf_self, posting.balance_eq]
      exact ⟨posting.covered, posted, List.getLast?_concat, rfl, rfl⟩
    · rw [posting.entriesOf_of_ne foreign]
      exact agree.latest other present

end Wallet

theorem Store.WalletsAgree.congr {store after : Store} (balances : after.balances = store.balances)
    (ledger : after.ledger = store.ledger) (agree : store.WalletsAgree) : after.WalletsAgree := by
  have entries (userId : Int) : after.entriesOf userId = store.entriesOf userId := by
    rw [Store.entriesOf, Store.entriesOf, ledger]
  exact {
    oneBalance := by
      rw [balances]
      exact agree.oneBalance
    inOrder := by
      rw [ledger]
      exact agree.inOrder
    moved := by
      intro userId
      rw [balances, entries]
      exact agree.moved userId
    running := by
      intro userId
      rw [entries]
      exact agree.running userId
    latest := by
      intro balance member
      rw [balances] at member
      rw [entries]
      exact agree.latest balance member }

theorem Operation.Committed.walletsAgree {context : Context} {last : Int} {store after : Store}
    {operation : Operation} (committed : operation.Committed context last store after)
    (agree : store.WalletsAgree) : after.WalletsAgree := by
  rcases committed.wallets with ⟨balances, ledger⟩ | ⟨_, _, _, _, between, posting, balances, ledger⟩
  · exact agree.congr balances ledger
  · exact (posting.walletsAgree agree).congr balances ledger

/-! ## The newest entry -/

namespace LedgerEntry

theorem before_trans (first second third : LedgerEntry) (early : first.before second = true)
    (late : second.before third = true) : first.before third = true := by
  simp only [before, Bool.or_eq_true, Bool.and_eq_true, decide_eq_true_eq, beq_iff_eq]
    at early late ⊢
  omega

theorem before_total (first second : LedgerEntry) :
    (first.before second || second.before first) = true := by
  simp only [before, Bool.or_eq_true, Bool.and_eq_true, decide_eq_true_eq, beq_iff_eq]
  omega

/-- Where ids and times both grow, the entry to come first among the newest is the last one. -/
theorem head?_newestFirst {entries : List LedgerEntry} (inOrder : entries.Pairwise (·.id < ·.id))
    (inTime : entries.Pairwise (·.createdAt.micros ≤ ·.createdAt.micros)) :
    (newestFirst entries).head? = entries.getLast? := by
  rcases List.eq_nil_or_concat entries with rfl | ⟨earlier, last, rfl⟩
  · rw [newestFirst, List.mergeSort_nil]
    rfl
  · rw [List.concat_eq_append] at inOrder inTime ⊢
    have sorted : ((earlier ++ [last]).mergeSort before).Pairwise (before · ·) :=
      List.pairwise_mergeSort before_trans before_total _
    have same {entry : LedgerEntry} : entry ∈ (earlier ++ [last]).mergeSort before ↔
        entry ∈ earlier ++ [last] := List.mem_mergeSort
    have lastMember : last ∈ earlier ++ [last] := List.mem_concat_self
    rw [newestFirst, List.getLast?_concat]
    cases newest : (earlier ++ [last]).mergeSort before with
    | nil =>
      rw [newest] at same
      cases same.mpr lastMember
    | cons first rest =>
      rw [newest] at sorted same
      rw [List.head?_cons]
      rcases List.mem_cons.mp (same.mpr lastMember) with isFirst | behind
      · rw [isFirst]
      · have newer := (List.pairwise_cons.mp sorted).1 last behind
        rcases List.mem_append.mp (same.mp (List.mem_cons_self ..)) with member | isLast
        · have lower := (List.pairwise_append.mp inOrder).2.2 first member last
            (List.mem_singleton_self _)
          have older := (List.pairwise_append.mp inTime).2.2 first member last
            (List.mem_singleton_self _)
          simp only [before, Bool.or_eq_true, Bool.and_eq_true, decide_eq_true_eq, beq_iff_eq]
            at newer
          omega
        · rw [List.mem_singleton.mp isLast]

end LedgerEntry

/-! ## Runs -/

namespace Desk

/-- Entries are in the order of time as long as no call comes before the times of the ledger, nor
before the call ahead of it. -/
theorem afterAll_inTime {desk : Desk} {calls : List Call}
    (inTime : desk.store.ledger.Pairwise (·.createdAt.micros ≤ ·.createdAt.micros))
    (past : ∀ entry ∈ desk.store.ledger, ∀ call ∈ calls,
      entry.createdAt.micros ≤ call.context.walletNow.micros)
    (clock : (calls.map (·.context.walletNow.micros)).Pairwise (· ≤ ·)) :
    (desk.afterAll calls).store.ledger.Pairwise (·.createdAt.micros ≤ ·.createdAt.micros) := by
  induction calls generalizing desk with
  | nil => exact inTime
  | cons call rest induction =>
    rcases List.pairwise_cons.mp clock with ⟨first, later⟩
    have next : ∀ call' ∈ rest, call.context.walletNow.micros ≤ call'.context.walletNow.micros :=
      fun call' member => first _ (List.mem_map_of_mem member)
    have grown : (desk.after call).store.ledger = desk.store.ledger ∨
        ∃ posted : LedgerEntry, posted.createdAt = call.context.walletNow ∧
          (desk.after call).store.ledger = desk.store.ledger ++ [posted] := by
      rcases desk.after_commits call with same | committed
      · exact .inl (congrArg Store.ledger same)
      · rcases committed.wallets with ⟨-, ledger⟩ | ⟨_, _, posted, _, _, posting, -, ledger⟩
        · exact .inl ledger
        · exact .inr ⟨posted, posting.createdAt_eq, ledger.trans posting.ledger_eq⟩
    refine induction ?_ ?_ later
    · rcases grown with same | ⟨posted, stamped, ledger⟩
      · rw [same]
        exact inTime
      · rw [ledger]
        refine List.pairwise_append.mpr ⟨inTime, List.pairwise_singleton _ _, ?_⟩
        intro entry member last isLast
        rw [List.mem_singleton.mp isLast, stamped]
        exact past entry member call (List.mem_cons_self ..)
    · intro entry member call' behind
      rcases grown with same | ⟨posted, stamped, ledger⟩
      · rw [same] at member
        exact past entry member call' (List.mem_cons_of_mem _ behind)
      · rw [ledger] at member
        rcases List.mem_append.mp member with old | new
        · exact past entry old call' (List.mem_cons_of_mem _ behind)
        · rw [List.mem_singleton.mp new, stamped]
          exact next call' behind

/-- Whatever is asked of a desk without any money, its balances and its ledger agree afterwards; and
if the clock of its wallets never runs backwards, the newest entry of a user is the last one. -/
theorem wallets_agree {desk : Desk} (noBalances : desk.store.balances = [])
    (noEntries : desk.store.ledger = []) (calls : List Call) :
    (desk.afterAll calls).store.WalletsAgree ∧
      ((calls.map (·.context.walletNow.micros)).Pairwise (· ≤ ·) → ∀ userId,
        (desk.afterAll calls).store.newestIn? userId =
          ((desk.afterAll calls).store.entriesOf userId).getLast?) := by
  have start : desk.store.WalletsAgree := by
    constructor <;> simp [noBalances, noEntries, Store.entriesOf]
  have agree : (desk.afterAll calls).store.WalletsAgree :=
    afterAll_induction Store.WalletsAgree start
      fun _ _ _ _ _ agree committed => committed.walletsAgree agree
  refine ⟨agree, fun clock userId => ?_⟩
  have inTime : (desk.afterAll calls).store.ledger.Pairwise
      (·.createdAt.micros ≤ ·.createdAt.micros) :=
    afterAll_inTime (by simp [noEntries]) (by simp [noEntries]) clock
  exact LedgerEntry.head?_newestFirst (agree.inOrder.filter _) (inTime.filter _)

theorem sample_wallets_agree :
    (sample.afterAll sampleCalls).store.WalletsAgree ∧
      (sample.afterAll sampleCalls).store.newestIn? 1 =
        ((sample.afterAll sampleCalls).store.entriesOf 1).getLast? ∧
      ((sample.afterAll sampleCalls).store.entriesOf 1).map (·.balanceAfterCents) =
        [1600, 600, 100, 500] := by
  have agree := @wallets_agree sample rfl rfl sampleCalls
  exact ⟨agree.1, agree.2 (by decide) 1, by decide +kernel⟩

end Desk

end OrderDesk
