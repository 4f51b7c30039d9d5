import OrderDesk.Proofs.Desk.Atomicity

/-!
The keys of users and the orders that they are bound to. A key is bound by the transaction that
makes its order; from then on it finds the same order, whatever becomes of it.
-/

namespace OrderDesk

namespace Store

variable {store after : Store} {userId : Int} {endpoint key : String} {order : Order}

/-! ## Finding bindings -/

theorem binding?_eq_some {binding : KeyBinding}
    (found : store.binding? userId endpoint key = some binding) :
    binding ∈ store.keyBindings ∧
      binding.userId = userId ∧ binding.endpoint = endpoint ∧ binding.key = key := by
  have fits := List.find?_some found
  simp only [Bool.and_eq_true, beq_iff_eq] at fits
  exact ⟨List.mem_of_find?_eq_some found, fits.1.1, fits.1.2, fits.2⟩

theorem boundOrder?_eq_some :
    store.boundOrder? userId endpoint key = some order ↔
      ∃ binding, store.binding? userId endpoint key = some binding ∧
        store.order? binding.orderId = some order :=
  Option.bind_eq_some_iff

theorem boundOrder?_eq_none_of_unbound (unbound : store.binding? userId endpoint key = none) :
    store.boundOrder? userId endpoint key = none := by
  rw [boundOrder?, unbound]
  rfl

section

variable {binding : KeyBinding} (appended : after.keyBindings = store.keyBindings ++ [binding])

include appended

theorem binding?_append_of_bound {present : KeyBinding}
    (bound : store.binding? userId endpoint key = some present) :
    after.binding? userId endpoint key = some present := by
  rw [binding?, appended, List.find?_append, ← binding?, bound]
  rfl

theorem binding?_append_self (owner : binding.userId = userId)
    (activity : binding.endpoint = endpoint) (spelled : binding.key = key)
    (unbound : store.binding? userId endpoint key = none) :
    after.binding? userId endpoint key = some binding := by
  rw [binding?, appended, List.find?_append, ← binding?, unbound]
  simp [owner, activity, spelled]

theorem binding?_append_of_ne
    (different : (binding.userId, binding.key) ≠ (userId, key)) :
    after.binding? userId endpoint key = store.binding? userId endpoint key := by
  have foreign : ¬((binding.userId = userId ∧ binding.endpoint = endpoint) ∧ binding.key = key) :=
    fun same => different (Prod.ext same.1.1 same.2)
  rw [binding?, appended, List.find?_append, ← binding?]
  simp [foreign]

end

theorem binding?_congr (bindings : after.keyBindings = store.keyBindings) :
    after.binding? = store.binding? := by
  funext userId endpoint key
  rw [binding?, binding?, bindings]

/-- The ids that bindings name have room in their columns. -/
def KeysFit (store : Store) : Prop :=
  ∀ binding ∈ store.keyBindings,
    fitsColumn binding.userId = true ∧ fitsColumn binding.orderId = true

def Binds (store : Store) (userId : Int) (key : String) (id : Int) (number : String) : Prop :=
  ∃ order, store.boundOrder? userId OrderRequest.endpoint key = some order ∧
    order.id = id ∧ order.number = number

theorem Binds.unique {id otherId : Int} {number otherNumber : String}
    (first : store.Binds userId key id number) (second : store.Binds userId key otherId otherNumber) :
    otherId = id ∧ otherNumber = number := by
  rcases first with ⟨order, found, rfl, rfl⟩
  rcases second with ⟨other, found', rfl, rfl⟩
  rcases Option.some.inj (found.symm.trans found') with rfl
  exact ⟨rfl, rfl⟩

end Store

theorem Purchase.bindings_of_named {purchase : Purchase} {context : Context} {store : Store}
    {userId orderId : Int} (named : purchase.key ≠ "") :
    purchase.bindings context store userId orderId =
      [⟨Store.nextId (store.keyBindings.map (·.id)), userId, OrderRequest.endpoint, purchase.key,
        orderId, context.now⟩] :=
  if_neg named

namespace Operation

variable {context : Context} {last : Int} {store after : Store} {operation : Operation}

/-! ## What becomes of orders and bindings -/

theorem OrdersAfter.order?_stays (changed : OrdersAfter context last store after) {id : Int}
    {order : Order} (present : store.order? id = some order) :
    ∃ later, after.order? id = some later ∧ later.id = order.id ∧ later.number = order.number ∧
      later.userId = order.userId := by
  have of_handled {orderId : Int} {before result : Order}
      (handled : Orders.Handled context store orderId before result after) :
      ∃ later, after.order? id = some later ∧ later.id = order.id ∧
        later.number = order.number ∧ later.userId = order.userId := by
    rcases handled.order?_cases present with ⟨rfl, found⟩ | found
    · exact ⟨result, found, handled.id_eq, handled.number_eq, handled.userId_eq⟩
    · exact ⟨order, found, rfl, rfl, rfl⟩
  cases changed with
  | kept orders => exact ⟨order, Store.order?_congr orders ▸ present, rfl, rfl, rfl⟩
  | placed purchasing drafting settled orders =>
    exact ⟨order, Store.order?_append_of_found orders present, rfl, rfl, rfl⟩
  | handled handled => exact of_handled handled
  | refunded crediting ending saved =>
    subst saved
    exact of_handled (crediting.handled ending)

/-- The user who orders by an operation, and the key that the request carries. -/
def key? : Operation → Option (Int × String)
  | create (some userId) request | createAfterMiss (some userId) request =>
    some (userId, request.key)
  | _ => none

theorem key?_eq_some {userId : Int} {key : String} (keyed : operation.key? = some (userId, key)) :
    ∃ request : OrderRequest, request.key = key ∧
      (operation = create (some userId) request ∨
        operation = createAfterMiss (some userId) request) := by
  rw [key?.eq_def] at keyed
  split at keyed
  · rcases Prod.mk.inj (Option.some.inj keyed) with ⟨rfl, rfl⟩
    exact ⟨_, rfl, .inl rfl⟩
  · rcases Prod.mk.inj (Option.some.inj keyed) with ⟨rfl, rfl⟩
    exact ⟨_, rfl, .inr rfl⟩
  · cases keyed

/-- What has become of the bindings: they are the same, or a key that was unbound is bound to the
order that has been made with it. -/
inductive BindingsAfter (store : Store) (operation : Operation) (after : Store) : Prop
  | kept (bindings : after.keyBindings = store.keyBindings)
  | bound {binding : KeyBinding}
      (keyed : operation.key? = some (binding.userId, binding.key))
      (activity : binding.endpoint = OrderRequest.endpoint)
      (unbound : store.binding? binding.userId OrderRequest.endpoint binding.key = none)
      (fits : Store.fitsColumn binding.userId = true ∧ Store.fitsColumn binding.orderId = true)
      (bindings : after.keyBindings = store.keyBindings ++ [binding])

theorem key?_of_caller {callerId : Option Int} {user : User}
    (caller : callerId.bind store.user? = some user) : callerId = some user.id := by
  rcases Option.bind_eq_some_iff.mp caller with ⟨userId, rfl, found⟩
  have same : user.id = userId := by simpa using List.find?_some found
  rw [same]

theorem bindingsAfter_of_ordered {callerId : Option Int} {request : OrderRequest}
    {receipt : Receipt}
    (keyed : ∀ userId, callerId = some userId → operation.key? = some (userId, request.key))
    (ordered : Orders.Ordered context last store (callerId.bind store.user?) request receipt after) :
    BindingsAfter store operation after := by
  rcases ordered with ⟨user, purchase, caller, -, purchasing, placing⟩
  have keyed := keyed user.id (key?_of_caller caller)
  cases placing with
  | @intro draft settlement between item drafting item_eq settled unbound itemAllowed =>
    by_cases named : purchase.key = ""
    · refine .kept ?_
      simp only [Purchase.bindings, if_pos named, List.append_nil]
    · refine .bound ?_ ?_ ?_ ⟨?_, ?_⟩
        (congrArg (store.keyBindings ++ ·) (Purchase.bindings_of_named named))
      · rw [keyed, purchasing.key_eq]
      · rfl
      · exact unbound named
      · exact drafting.allowed.fit _ (List.mem_cons_self ..)
      · exact itemAllowed.fit _ (List.mem_cons_self ..)

theorem Committed.keyBindings (committed : Committed context last store operation after) :
    BindingsAfter store operation after := by
  cases committed with
  | moved posting | credited positive posting =>
    rcases posting.store_eq with rfl
    exact .kept rfl
  | created ordered | createdLate ordered =>
    exact bindingsAfter_of_ordered (by rintro userId rfl; rfl) ordered
  | cancelled cancelling | cancelledByAdmin cancelling =>
    cases cancelling with
    | already | called => exact .kept rfl
  | settled admin supported settling =>
    cases settling with
    | uncharged => exact .kept rfl
    | charged found pending outstanding posting =>
      rcases posting.store_eq with rfl
      exact .kept rfl
  | refunded admin crediting ending =>
    rcases crediting.credited with ⟨balance, between, posting, rfl⟩
    rcases posting.store_eq with rfl
    exact .kept rfl
  | reported read reporting =>
    cases reporting with
    | replayed | accepted => exact .kept rfl
  | opened | patched => exact .kept rfl

theorem Committed.dropped_eq (committed : Committed context last store operation after) :
    after.dropped = store.dropped := by
  cases committed with
  | moved posting | credited positive posting => rw [posting.store_eq]
  | created ordered | createdLate ordered =>
    rcases ordered with ⟨user, purchase, -, -, purchasing, placing⟩
    cases placing with
    | intro drafting item_eq settled unbound => exact settled.framed.dropped_eq
  | cancelled cancelling | cancelledByAdmin cancelling =>
    rcases cancelling.handled with ⟨order, handled, -⟩
    exact handled.dropped_eq
  | settled admin supported settling =>
    rcases settling.handled with ⟨order, handled, -⟩
    exact handled.dropped_eq
  | refunded admin crediting ending => exact (crediting.handled ending).dropped_eq
  | reported read reporting =>
    rcases reporting.handled with ⟨order, handled, -⟩
    exact handled.dropped_eq
  | opened | patched => rfl

namespace BindingsAfter

variable {userId : Int} {endpoint key : String} {binding : KeyBinding}

theorem keysFit (changed : BindingsAfter store operation after) (fit : store.KeysFit) :
    after.KeysFit := by
  intro binding member
  cases changed with
  | kept bindings => exact fit binding (bindings ▸ member)
  | bound keyed activity unbound fits bindings =>
    rw [bindings] at member
    rcases List.mem_append.mp member with present | new
    · exact fit binding present
    · rw [List.mem_singleton.mp new]
      exact fits

theorem binding?_stays (changed : BindingsAfter store operation after)
    (bound : store.binding? userId endpoint key = some binding) :
    after.binding? userId endpoint key = some binding := by
  cases changed with
  | kept bindings => rw [Store.binding?_congr bindings, bound]
  | bound keyed activity unbound fits bindings => exact Store.binding?_append_of_bound bindings bound

theorem binding?_of_ne (changed : BindingsAfter store operation after)
    (different : operation.key? ≠ some (userId, key)) :
    after.binding? userId endpoint key = store.binding? userId endpoint key := by
  cases changed with
  | kept bindings => rw [Store.binding?_congr bindings]
  | bound keyed activity unbound fits bindings =>
    refine Store.binding?_append_of_ne bindings fun same => different ?_
    rw [keyed, same]

end BindingsAfter

/-- A bound key finds the same order ever after. -/
theorem Committed.binds_stays (committed : Committed context last store operation after)
    {userId : Int} {key : String} {id : Int} {number : String}
    (binds : store.Binds userId key id number) : after.Binds userId key id number := by
  rcases binds with ⟨order, found, rfl, rfl⟩
  rcases Store.boundOrder?_eq_some.mp found with ⟨binding, bound, present⟩
  rcases committed.orders.order?_stays present with ⟨later, stays, id_eq, number_eq, -⟩
  refine ⟨later, Store.boundOrder?_eq_some.mpr ⟨binding, ?_, stays⟩, id_eq, number_eq⟩
  exact committed.keyBindings.binding?_stays bound

end Operation

namespace Desk

theorem afterAll_keysFit {desk : Desk} (fit : desk.store.KeysFit) (calls : List Call) :
    (desk.afterAll calls).store.KeysFit :=
  afterAll_induction Store.KeysFit fit fun _ _ _ _ _ fit committed => committed.keyBindings.keysFit fit

end Desk

end OrderDesk
