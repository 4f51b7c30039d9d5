import Mathlib.Data.List.Sort
import Mathlib.Data.List.TakeWhile
import OrderDesk.Proofs.Order.Viewing
import OrderDesk.Proofs.Wallet.Agreement

/-!
Which rows a listing is made of, and in which order. A listing of orders is the one list of all
orders that meet its filter, sorted by the key in the direction that is asked for; a listing of a
ledger is the one list of all entries of a user that are of a kind, the newest first.
-/

namespace OrderDesk

/-! ## Words and numbers that are asked for -/

namespace Text

/-- A word is asked for if it is the stored one in lower case. A blank text asks for nothing. -/
def Asks (asked : Option String) (stored : String) : Prop :=
  keyword asked = "" ∨ lowerAscii stored = keyword asked

def folded (text : String) : List Char :=
  text.toList.map Char.toLower

def Contains (whole part : String) : Prop :=
  folded part <:+: folded whole

def compared (text : String) : List Char :=
  (folded text).takeWhile (· != '\x00')

/-- A text contains another one as far as the store can tell. A zero character in the other one is
taken for the end. -/
def Holds (whole part : String) : Prop :=
  compared part <:+: compared whole ∧ ('\x00' ∈ part.toList → compared part <:+ compared whole)

theorem toLower_eq_zero {character : Char} : character.toLower = '\x00' ↔ character = '\x00' := by
  delta Char.toLower
  split
  · next upper =>
    have low : 65 ≤ character.toNat := upper.1
    have high : character.toNat ≤ 90 := upper.2
    simp only [Char.ext_iff, UInt32.ext_iff]
    change (character.toNat + 32) % 4294967296 = 0 ↔ character.toNat = 0
    omega
  · rfl

theorem zero_mem_folded {text : String} : '\x00' ∈ folded text ↔ '\x00' ∈ text.toList := by
  rw [folded, List.mem_map]
  constructor
  · rintro ⟨character, member, zero⟩
    rwa [← toLower_eq_zero.mp zero]
  · exact fun member => ⟨_, member, rfl⟩

theorem compared_eq_folded_iff {text : String} :
    compared text = folded text ↔ '\x00' ∉ text.toList := by
  rw [compared, List.takeWhile_eq_self_iff, ← zero_mem_folded]
  constructor
  · intro plain zero
    simpa using plain _ zero
  · intro plain character member
    have other : character ≠ '\x00' := fun zero => plain (zero ▸ member)
    simpa using other

/-- Without zero characters the store tells the truth. -/
theorem holds_iff_contains {whole part : String} (plain : '\x00' ∉ whole.toList)
    (plainPart : '\x00' ∉ part.toList) : Holds whole part ↔ Contains whole part := by
  rw [Holds, compared_eq_folded_iff.mpr plain, compared_eq_folded_iff.mpr plainPart, Contains]
  exact and_iff_left fun zero => absurd zero plainPart

end Text

namespace OrderFilter

theorem matchesWord_iff {asked : Option String} {stored : String} :
    matchesWord asked stored = true ↔ Text.Asks asked stored := by
  rw [matchesWord, Bool.or_eq_true, beq_iff_eq, beq_iff_eq, Text.Asks]

theorem beforeZero_lowerAscii (text : String) :
    beforeZero (Text.lowerAscii text) = Text.compared text := by
  rw [beforeZero, Text.lowerAscii, String.toList_ofList, Text.compared, Text.folded]

theorem compared_shorter_iff {text : String} :
    (Text.compared text).length < text.length ↔ '\x00' ∈ text.toList := by
  have whole : (Text.folded text).length = text.length := by
    rw [Text.folded, List.length_map, String.length_toList]
  have start : Text.compared text <+: Text.folded text := List.takeWhile_prefix _
  rw [← whole]
  constructor
  · intro shorter
    by_contra plain
    rw [Text.compared_eq_folded_iff.mpr plain] at shorter
    exact Nat.lt_irrefl _ shorter
  · intro zero
    refine Nat.lt_of_le_of_ne start.length_le fun same => ?_
    exact Text.compared_eq_folded_iff.mp (start.eq_of_length same) zero

theorem matchesNumber_iff {asked : Option String} {number : String} :
    matchesNumber asked number = true ↔ Text.Holds number (Text.trim? asked) := by
  rw [matchesNumber, beforeZero_lowerAscii, beforeZero_lowerAscii, Text.Holds]
  by_cases zero : '\x00' ∈ (Text.trim? asked).toList
  · rw [if_pos (compared_shorter_iff.mpr zero), List.isSuffixOf_iff_suffix]
    exact ⟨fun ends => ⟨ends.isInfix, fun _ => ends⟩, fun holds => holds.2 zero⟩
  · rw [if_neg (mt compared_shorter_iff.mp zero), Text.occursIn_iff]
    exact (and_iff_left fun present => absurd present zero).symm

/-- An order is one that a filter asks for, if it is settled which numbers contain a text. -/
structure Wants (contains : String → String → Prop) (filter : OrderFilter) (order : Order) :
    Prop where
  user : ∀ id ∈ filter.userId, order.userId = id
  status : Text.Asks filter.status order.status.text
  method : Text.Asks filter.paymentMethod order.paymentMethod.text
  payment : Text.Asks filter.paymentStatus order.paymentStatus.text
  number : contains order.number (Text.trim? filter.number)

theorem admits_iff {filter : OrderFilter} {order : Order} :
    filter.admits order = true ↔ filter.Wants Text.Holds order := by
  simp only [admits, Bool.and_eq_true, matchesWord_iff, matchesNumber_iff, Option.all_eq_true,
    beq_iff_eq]
  constructor
  · rintro ⟨⟨⟨⟨user, status⟩, method⟩, payment⟩, number⟩
    exact ⟨fun id named => (user id named).symm, status, method, payment, number⟩
  · rintro ⟨user, status, method, payment, number⟩
    exact ⟨⟨⟨⟨fun id named => (user id named).symm, status⟩, method⟩, payment⟩, number⟩

theorem Wants.imp {holds contains : String → String → Prop} {filter : OrderFilter} {order : Order}
    (known : holds order.number (Text.trim? filter.number) →
      contains order.number (Text.trim? filter.number))
    (wants : filter.Wants holds order) : filter.Wants contains order :=
  { wants with number := known wants.number }

end OrderFilter

/-! ## Sorted selections -/

structure Selection {Row : Type} (wanted : Row → Prop) (precedes : Row → Row → Prop)
    (rows all : List Row) : Prop where
  mem_iff : ∀ row, row ∈ all ↔ row ∈ rows ∧ wanted row
  sorted : all.Pairwise precedes

/-- Rows go up by rank, and of two that have the same rank the one with the larger id is first. -/
def PrecedesBy {Row : Type} (id rank : Row → Int) (first second : Row) : Prop :=
  rank first < rank second ∨ rank first = rank second ∧ id second < id first

section

variable {Row : Type} {id rank : Row → Int} {wanted : Row → Prop} {rows all other : List Row}

theorem PrecedesBy.asymm {first second : Row} (precedes : PrecedesBy id rank first second) :
    ¬PrecedesBy id rank second first := by
  unfold PrecedesBy at *
  omega

namespace Selection

theorem unique (selection : Selection wanted (PrecedesBy id rank) rows all)
    (others : Selection wanted (PrecedesBy id rank) rows other) : other = all := by
  have asymm : Std.Asymm (PrecedesBy id rank) := ⟨fun _ _ => PrecedesBy.asymm⟩
  refine others.sorted.eq_of_mem_iff selection.sorted fun row => ?_
  rw [selection.mem_iff, others.mem_iff]

theorem congr_wanted {like : Row → Prop} {precedes : Row → Row → Prop}
    (selection : Selection wanted precedes rows all) (same : ∀ row ∈ rows, wanted row ↔ like row) :
    Selection like precedes rows all where
  mem_iff row := (selection.mem_iff row).trans (and_congr_right (same row))
  sorted := selection.sorted

theorem of_mergeSort {admits : Row → Bool} {before : Row → Row → Bool}
    (distinct : (rows.map id).Nodup) (known : ∀ row, admits row = true ↔ wanted row)
    (before_iff : ∀ first second, before first second = true ↔
      rank first < rank second ∨ rank first = rank second ∧ id second ≤ id first) :
    Selection wanted (PrecedesBy id rank) rows ((rows.filter admits).mergeSort before) where
  mem_iff row := by rw [List.mem_mergeSort, List.mem_filter, known]
  sorted := by
    have trans (first second third : Row) (early : before first second = true)
        (late : before second third = true) : before first third = true := by
      rw [before_iff] at early late ⊢
      omega
    have total (first second : Row) : (before first second || before second first) = true := by
      rw [Bool.or_eq_true, before_iff, before_iff]
      omega
    have apart : ((rows.filter admits).mergeSort before).Pairwise fun first second =>
        id first ≠ id second := by
      rw [← List.pairwise_map]
      exact (((List.mergeSort_perm _ before).map id).nodup_iff).mpr
        (distinct.sublist (List.filter_sublist.map id))
    refine ((List.pairwise_mergeSort trans total _).and apart).imp ?_
    rintro first second ⟨weakly, differ⟩
    rw [before_iff] at weakly
    unfold PrecedesBy
    omega

end Selection

end

namespace OrderFilter

def rank (filter : OrderFilter) (order : Order) : Int :=
  let key := (SortKey.ofText filter.sort).value order
  if Text.keyword filter.direction = "asc" then key else -key

theorem before_iff {filter : OrderFilter} {first second : Order} :
    filter.before first second = true ↔ filter.rank first < filter.rank second ∨
      filter.rank first = filter.rank second ∧ second.id ≤ first.id := by
  unfold before rank ascending
  by_cases upwards : Text.keyword filter.direction = "asc"
  · simp [upwards]
  · simp [upwards]
    omega

theorem select_selection {filter : OrderFilter} {orders : List Order}
    (distinct : (orders.map (·.id)).Nodup) :
    Selection (filter.Wants Text.Holds) (PrecedesBy (·.id) filter.rank) orders
      (filter.select orders) :=
  .of_mergeSort distinct (fun _ => admits_iff) fun _ _ => before_iff

end OrderFilter

namespace LedgerEntry

def Wanted (userId : Int) (kind : Option String) (entry : LedgerEntry) : Prop :=
  entry.userId = userId ∧ Text.Asks kind entry.kind.text

def rank (entry : LedgerEntry) : Int :=
  -entry.createdAt.micros

theorem newestFirst_selection {store : Store} (distinct : (store.ledger.map (·.id)).Nodup)
    (userId : Int) (kind : Option String) :
    Selection (Wanted userId kind) (PrecedesBy (·.id) rank) store.ledger
      (newestFirst ((store.entriesOf userId).filter (·.matchesKind kind))) := by
  rw [newestFirst, Store.entriesOf, List.filter_filter]
  refine .of_mergeSort distinct (fun entry => ?_) fun first second => ?_
  · rw [Bool.and_eq_true, matchesKind, OrderFilter.matchesWord_iff, beq_iff_eq, Wanted, and_comm]
  · simp only [before, rank, Bool.or_eq_true, Bool.and_eq_true, decide_eq_true_eq, beq_iff_eq]
    omega

end LedgerEntry

end OrderDesk
