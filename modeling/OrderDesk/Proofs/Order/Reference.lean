import OrderDesk.Order.Basic
import OrderDesk.Order.Settle
import OrderDesk.Proofs.Text.Blank

/-!
The references that tie ledger entries to orders. The ledger keeps only so many characters of a
reference, which is enough to tell orders apart as long as their numbers fit their column.
-/

namespace OrderDesk

namespace OrderNumber

def maxLength : Nat := 40

theorem unblank_text (value : Int) : Text.Unblank (text value) := by
  have label : Text.Unblank "ORD-" := by decide
  exact label.append (Text.unblank_toString value)

def limit : Int := Int.pow 10 36

theorem length_text_le {value : Int} (nonneg : 0 ≤ value) (below : value < limit) :
    (text value).length ≤ maxLength := by
  rcases Int.eq_ofNat_of_zero_le nonneg with ⟨digits, rfl⟩
  have scaled : limit = (10 ^ 36 : Nat) := by decide
  have small : digits < 10 ^ 36 := by omega
  have label : "ORD-".length = 4 := by decide
  have short : (toString (digits : Int)).length ≤ 36 :=
    (Nat.length_repr_le_iff (by decide)).mpr small
  rw [text, String.length_append, label, maxLength]
  omega

end OrderNumber

namespace Orders

variable {order other : Order} {movement : Movement}

/-- Whether a reference reads as that of an order. -/
def NamesOrder (reference : String) : Prop :=
  "order:".toList <+: reference.toList

instance (reference : String) : Decidable (NamesOrder reference) :=
  inferInstanceAs (Decidable ("order:".toList <+: reference.toList))

theorem toList_ledgerReference :
    (ledgerReference order).toList = "order:".toList ++ order.number.toList :=
  String.toList_append

theorem namesOrder_ledgerReference : NamesOrder (ledgerReference order) :=
  ⟨order.number.toList, toList_ledgerReference.symm⟩

def keptReference (movement : Movement) : String :=
  Text.truncate Wallet.maxReferenceLength (Text.trim? movement.reference)

def ledgerMark (order : Order) : String :=
  Text.truncate Wallet.maxReferenceLength (ledgerReference order)

theorem ledgerMark_congr (same : order.number = other.number) :
    ledgerMark order = ledgerMark other := by
  rw [ledgerMark, ledgerMark, ledgerReference, ledgerReference, same]

theorem keptReference_eq (unblank : Text.Unblank order.number)
    (named : movement.reference = some (ledgerReference order)) :
    keptReference movement = ledgerMark order := by
  have label : Text.Unblank "order:" := by decide
  have trimmed : Text.trim (ledgerReference order) = ledgerReference order :=
    Text.trim_of_unblank (label.append unblank)
  rw [keptReference, named, Text.trim?, Option.getD_some, trimmed, ledgerMark]

theorem namesOrder_of_kept (names : NamesOrder (keptReference movement)) :
    NamesOrder (Text.trim? movement.reference) := by
  rw [NamesOrder, keptReference, Text.toList_truncate] at names
  exact names.trans (List.take_prefix ..)

theorem toList_ledgerMark : (ledgerMark order).toList =
    ("order:".toList ++ order.number.toList).take Wallet.maxReferenceLength := by
  rw [ledgerMark, Text.toList_truncate, toList_ledgerReference]

theorem ledgerMark_eq (fits : order.number.length ≤ OrderNumber.maxLength) :
    ledgerMark order = ledgerReference order := by
  rw [← String.toList_inj, toList_ledgerMark, toList_ledgerReference]
  refine List.take_of_length_le ?_
  have label : "order:".toList.length = 6 := by decide
  rw [List.length_append, label, String.length_toList, Wallet.maxReferenceLength]
  rw [OrderNumber.maxLength] at fits
  omega

/-- An order whose number fits its column is told from all others by its reference. -/
theorem number_eq_of_ledgerMark (fits : order.number.length ≤ OrderNumber.maxLength)
    (same : ledgerMark other = ledgerReference order) : other.number = order.number := by
  rw [← String.toList_inj, toList_ledgerMark, toList_ledgerReference] at same
  have label : "order:".toList.length = 6 := by decide
  have lengths := congrArg List.length same
  rw [List.length_take, List.length_append, List.length_append, label, String.length_toList,
    String.length_toList, Wallet.maxReferenceLength] at lengths
  rw [OrderNumber.maxLength] at fits
  have whole : ("order:".toList ++ other.number.toList).length ≤ Wallet.maxReferenceLength := by
    rw [List.length_append, label, String.length_toList, Wallet.maxReferenceLength]
    omega
  rw [List.take_of_length_le whole] at same
  exact String.toList_inj.mp (List.append_cancel_left same)

end Orders

end OrderDesk
