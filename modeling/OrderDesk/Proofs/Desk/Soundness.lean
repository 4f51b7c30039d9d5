import OrderDesk.Proofs.Order.Ownership

/-!
Sound stores: the numbers that the desk goes on reckoning with fit a column, and what it takes apart
has members. Calls keep a store sound, whatever they ask for.
-/

namespace OrderDesk

def Json.IsCollection (value : Json) : Prop :=
  value.membersIfPresent?.isSome = true

structure User.Sound (user : User) : Prop where
  id : Store.fitsColumn user.id = true
  roles : user.roles.IsCollection

structure Plan.Sound (plan : Plan) : Prop where
  price : Store.fitsColumn plan.priceCents = true
  features : plan.features.IsCollection
  tags : plan.tags.IsCollection

structure Order.Sound (order : Order) : Prop where
  id : Store.fitsColumn order.id = true
  total : Store.fitsColumn order.totalCents = true
  refunded : 0 ≤ order.refundedCents

structure Balance.Sound (balance : Balance) : Prop where
  cents : Store.fitsColumn balance.cents = true
  covered : 0 ≤ balance.cents

structure Store.Sound (store : Store) : Prop extends store.Intact where
  users : ∀ user ∈ store.users, user.Sound
  plans : ∀ plan ∈ store.plans, plan.Sound
  orders : ∀ order ∈ store.orders, order.Sound
  balances : ∀ balance ∈ store.balances, balance.Sound

/-! ## What can be told of sound rows -/

theorem Json.IsCollection.listOf_ok {value : Json} (collection : value.IsCollection) :
    ∃ members, Plan.listOf value = .ok members := by
  rcases Option.isSome_iff_exists.mp collection with ⟨members, taken⟩
  exact ⟨.list members, by rw [Plan.listOf, taken]⟩

theorem Plan.Sound.snapshot_ok {plan : Plan} (sound : plan.Sound) (currency : String) :
    ∃ snapshot, plan.snapshot currency = .ok snapshot := by
  rcases sound.features.listOf_ok with ⟨features, listed⟩
  rcases sound.tags.listOf_ok with ⟨tags, tagged⟩
  rw [Plan.snapshot, listed, tagged]
  exact ⟨_, rfl⟩

theorem User.Sound.isAdmin_ok {user : User} (sound : user.Sound) :
    ∃ decision, user.isAdmin = .ok decision := by
  rcases Option.isSome_iff_exists.mp sound.roles with ⟨members, taken⟩
  rw [User.isAdmin, User.hasRole, User.names, User.roleNames, taken]
  exact ⟨_, rfl⟩

theorem Store.fitsColumn_iff {number : Int} :
    fitsColumn number = true ↔ -columnLimit ≤ number ∧ number < columnLimit := by
  rw [fitsColumn, Bool.and_eq_true, decide_eq_true_eq, decide_eq_true_eq]

namespace Store

variable {store : Store}

theorem Sound.user {id : Int} {user : User} (sound : store.Sound)
    (found : store.user? id = some user) : user.Sound ∧ user.id = id :=
  ⟨sound.users user (List.mem_of_find?_eq_some found), by simpa using List.find?_some found⟩

theorem Sound.plan {id : Int} {plan : Plan} (sound : store.Sound)
    (found : store.plan? id = some plan) : plan.Sound ∧ plan.id = id :=
  ⟨sound.plans plan (List.mem_of_find?_eq_some found), by simpa using List.find?_some found⟩

def spendableCents (store : Store) (userId : Int) : Int :=
  ((store.balance? userId).map (·.cents)).getD 0

def HasRoom (store : Store) (userId amount : Int) : Prop :=
  fitsColumn (store.spendableCents userId + amount) = true

theorem Sound.spendable (sound : store.Sound) (userId : Int) :
    fitsColumn (store.spendableCents userId) = true ∧ 0 ≤ store.spendableCents userId := by
  rw [Store.spendableCents]
  cases found : store.balance? userId with
  | none => exact ⟨rfl, Int.le_refl 0⟩
  | some balance =>
    have kept := sound.balances balance (balance?_eq_some found).1
    exact ⟨kept.cents, kept.covered⟩

theorem Sound.hasRoom_neg (sound : store.Sound) (userId : Int) {amount : Int}
    (charged : 0 ≤ amount) (fits : fitsColumn amount = true) :
    store.HasRoom userId (-amount) := by
  rcases sound.spendable userId with ⟨held, covered⟩
  rw [HasRoom]
  rw [fitsColumn_iff] at fits held ⊢
  omega

end Store

theorem Wallet.held_spendable {context : Context} {store : Store} {userId : Int}
    {movement : Movement} :
    (held context store userId movement).cents = store.spendableCents userId := by
  rw [held, Store.spendableCents]
  cases store.balance? userId <;> rfl

theorem Wallet.Posting.balanceAfterCents_spendable {context : Context} {store after : Store}
    {userId : Int} {movement : Movement} {posted : LedgerEntry} {balance : Balance}
    (posting : Posting context store userId movement posted balance after) :
    posted.balanceAfterCents = store.spendableCents userId + movement.amountCents := by
  rw [posting.balanceAfterCents_held, held_spendable]

/-! ## Soundness is kept -/

theorem Wallet.Posting.sound {context : Context} {store after : Store} {userId : Int}
    {movement : Movement} {posted : LedgerEntry} {balance : Balance}
    (posting : Posting context store userId movement posted balance after) : balance.Sound := by
  have fits := posting.entryAllowed.fit posted.balanceAfterCents (by simp)
  rcases posting.balance_eq with rfl
  exact ⟨fits, posting.covered⟩

namespace Orders

variable {context : Context} {store after : Store}

theorem Handled.orderSound {orderId : Int} {order result : Order}
    (handled : Handled context store orderId order result after) (sound : order.Sound)
    (refunded : order.refundedCents ≤ result.refundedCents) : result.Sound where
  id := handled.id_eq ▸ sound.id
  total := handled.totalCents_eq ▸ sound.total
  refunded := Int.le_trans sound.refunded refunded

theorem Unrefunded.le {order result : Order} (unrefunded : Unrefunded store order result after) :
    order.refundedCents ≤ result.refundedCents := by
  rcases unrefunded.advanced with rfl | advanced
  · exact Int.le_refl _
  · exact Int.le_of_eq advanced.refundedCents_eq.symm

theorem Handled.ordersSound {orderId : Int} {order result : Order}
    (handled : Handled context store orderId order result after)
    (refunded : order.refundedCents ≤ result.refundedCents)
    (sound : ∀ order ∈ store.orders, order.Sound) : ∀ order ∈ after.orders, order.Sound := by
  intro other member
  rcases handled.mem_orders member with rfl | present
  · exact handled.orderSound (sound order handled.present) refunded
  · exact sound other present

theorem Ordered.ordersSound {last : Int} {caller : Option User} {request : OrderRequest}
    {receipt : Receipt} (ordered : Ordered context last store caller request receipt after)
    (sound : ∀ order ∈ store.orders, order.Sound) : ∀ order ∈ after.orders, order.Sound := by
  rcases ordered with ⟨user, purchase, -, -, -, placing⟩
  cases placing with
  | @intro draft settlement between item drafting item_eq settled unbound itemAllowed =>
    intro order member
    rcases List.mem_append.mp member with present | new
    · exact sound order present
    · rcases List.mem_singleton.mp new with rfl
      have framed := settled.framed
      rcases drafting.draft_eq with ⟨snapshot, -, drafted⟩
      refine ⟨?_, ?_, ?_⟩
      · rw [framed.id_eq]
        exact itemAllowed.fit draft.id (List.mem_cons_self ..)
      · rw [framed.totalCents_eq, drafted]
        exact drafting.allowed.fit purchase.totalCents (by simp)
      · rw [framed.refundedCents_eq, drafted]
        exact Int.le_refl 0

end Orders

namespace Operation

variable {context : Context} {last : Int} {store after : Store} {operation : Operation}

theorem Committed.users_eq (committed : Committed context last store operation after) :
    after.users = store.users := by
  cases committed with
  | moved posting | credited positive posting => rw [posting.store_eq]
  | created ordered | createdLate ordered =>
    rcases ordered with ⟨user, purchase, -, -, -, placing⟩
    cases placing with
    | intro drafting item_eq settled unbound => exact settled.sameBut.users
  | cancelled cancelling | cancelledByAdmin cancelling =>
    cases cancelling with
    | already | called => rfl
  | settled admin supported settling =>
    cases settling with
    | uncharged => rfl
    | charged found pending outstanding posting => rw [Orders.saved, posting.store_eq]
  | refunded admin crediting ending =>
    rcases crediting.credited with ⟨balance, between, posting, rfl⟩
    rw [Orders.saved, posting.store_eq]
  | reported read reporting =>
    cases reporting with
    | replayed | accepted => rfl
  | opened | patched => rfl

theorem Committed.ordersSound (committed : Committed context last store operation after)
    (sound : ∀ order ∈ store.orders, order.Sound) : ∀ order ∈ after.orders, order.Sound := by
  cases committed with
  | moved posting | credited positive posting =>
    rcases posting.store_eq with rfl
    exact sound
  | created ordered | createdLate ordered => exact ordered.ordersSound sound
  | cancelled cancelling | cancelledByAdmin cancelling =>
    rcases cancelling.handled with ⟨order, handled, unrefunded⟩
    exact handled.ordersSound unrefunded.le sound
  | settled admin supported settling =>
    rcases settling.handled with ⟨order, handled, unrefunded⟩
    exact handled.ordersSound unrefunded.le sound
  | refunded admin crediting ending =>
    have positive := crediting.positive
    refine (crediting.handled ending).ordersSound ?_ sound
    cases ending with
    | partly | closed => exact Int.le_add_of_nonneg_right (Int.le_of_lt positive)
  | reported read reporting =>
    rcases reporting.handled with ⟨order, handled, unrefunded⟩
    exact handled.ordersSound unrefunded.le sound
  | opened | patched => exact sound

theorem Committed.balancesSound (committed : Committed context last store operation after)
    (sound : ∀ balance ∈ store.balances, balance.Sound) :
    ∀ balance ∈ after.balances, balance.Sound := by
  rcases committed.wallets with ⟨same, -⟩ | ⟨_, _, _, kept, between, posting, same, -⟩
  · rwa [same]
  · intro balance member
    rw [same, posting.store_eq] at member
    rcases Store.mem_keep.mp member with rfl | ⟨present, -⟩
    · exact posting.sound
    · exact sound balance present

theorem Committed.sound (committed : Committed context last store operation after)
    (sound : store.Sound) : after.Sound where
  toIntact := committed.intact sound.toIntact
  users := committed.users_eq ▸ sound.users
  plans := committed.plans_eq ▸ sound.plans
  orders := committed.ordersSound sound.orders
  balances := committed.balancesSound sound.balances

end Operation

theorem Desk.afterAll_sound {desk : Desk} (sound : desk.store.Sound) (calls : List Call) :
    (desk.afterAll calls).store.Sound :=
  afterAll_induction Store.Sound sound fun _ _ _ _ _ sound committed => committed.sound sound

end OrderDesk
