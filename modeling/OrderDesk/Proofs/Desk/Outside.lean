import OrderDesk.Proofs.Order.Closure
import OrderDesk.Wallet.Account

/-!
What happens to a desk besides the calls that are made to it. Users and plans are edited from
outside, orders come from elsewhere, and somebody may try to tamper with the ledger.
-/

namespace OrderDesk

inductive Event
  | called (call : Call)
  /-- users and plans have been replaced by any others -/
  | edited (users : List User) (plans : List Plan)
  /-- an order has come from elsewhere, and receives the next id -/
  | received (order : Order)
  /-- somebody tries to change the amount of a ledger entry -/
  | amended (context : Context) (entryId : Int) (amount : Option Int)
  /-- somebody tries to strike out a ledger entry -/
  | struck (context : Context) (entryId : Int)

/-- The store with one more order, which has not been made by the desk. -/
def Store.receive (store : Store) (order : Order) : Store :=
  { store with
    orders := store.orders ++ [{ order with id := Store.nextId (store.orders.map (·.id)) }] }

namespace Wallet

theorem quiet_amend (id : Int) (amount : Option Int) : Service.Quiet (amend id amount) := by
  refine .bind (.query _) fun found => ?_
  cases found with
  | none => exact .breakOff _
  | some entry => exact .ite (.breakOff _) (.pure _)

theorem quiet_strike (id : Int) : Service.Quiet (strike id) := by
  refine .bind (.query _) fun found => ?_
  cases found with
  | none => exact .breakOff _
  | some entry => exact .breakOff _

end Wallet

namespace Desk

def afterEvent (desk : Desk) : Event → Desk
  | .called call => desk.after call
  | .edited users plans => { desk with store := { desk.store with users, plans } }
  | .received order => { desk with store := desk.store.receive order }
  | .amended context entryId amount => ((Wallet.amend entryId amount).run context desk).2
  | .struck context entryId => ((Wallet.strike entryId).run context desk).2

def afterEvents (desk : Desk) (events : List Event) : Desk :=
  events.foldl afterEvent desk

theorem afterEvents_append (desk : Desk) (first second : List Event) :
    desk.afterEvents (first ++ second) = (desk.afterEvents first).afterEvents second :=
  List.foldl_append

theorem afterEvents_called (desk : Desk) (calls : List Call) :
    desk.afterEvents (calls.map .called) = desk.afterAll calls :=
  List.foldl_map

variable {desk : Desk} {events : List Event}

/-- What no committed change, no edit and no order from elsewhere can end holds after all events. -/
theorem afterEvents_induction (Invariant : Store → Prop) (start : Invariant desk.store)
    (committed : ∀ {context last store after} {operation : Operation}, Invariant store →
      operation.Committed context last store after → Invariant after)
    (edited : ∀ store users plans, Invariant store → Invariant { store with users, plans })
    (received : ∀ store order, .received order ∈ events → Invariant store →
      Invariant (store.receive order)) :
    Invariant (desk.afterEvents events).store := by
  induction events generalizing desk with
  | nil => exact start
  | cons event rest induction =>
    have next : Invariant (desk.afterEvent event).store := by
      cases event with
      | called call =>
        rcases desk.after_commits call with same | changed
        · exact same ▸ start
        · exact committed start changed
      | edited users plans => exact edited desk.store users plans start
      | received order => exact received desk.store order (List.mem_cons_self ..) start
      | amended context entryId amount =>
        rw [afterEvent, Wallet.quiet_amend]
        exact start
      | struck context entryId =>
        rw [afterEvent, Wallet.quiet_strike]
        exact start
    exact induction next fun store order later =>
      received store order (List.mem_cons_of_mem event later)

end Desk

end OrderDesk
