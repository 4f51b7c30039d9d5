import Mathlib.Data.List.Forall2
import Mathlib.Data.List.Induction
import Mathlib.Data.List.Nodup
import OrderDesk.Desk.Service
import OrderDesk.Proofs.Text.Integer

/-!
The sequence of order numbers. Whatever the clock reads, the values that are given out ascend, and
none is behind the reading that it was given out for. What the readings so far come to is said in
closed form.
-/

namespace OrderDesk

namespace OrderNumber

variable {last : Int} {readings : List Int}

/-- How far the readings of a clock reach: every reading is counted on by one for each reading after
it, and there is at least one value for each. -/
def reach (readings : List Int) : Int :=
  (readings.mapIdx fun (index : Nat) (reading : Int) =>
    reading + (readings.length - (index + 1))).foldl max readings.length

/-! ## The closed form -/

theorem foldl_max_succ (start : Int) (values : List Int) :
    (values.map (· + 1)).foldl max (start + 1) = values.foldl max start + 1 := by
  induction values generalizing start with
  | nil => rfl
  | cons value rest induction =>
      have later : max (start + 1) (value + 1) = max start value + 1 := by omega
      rw [List.map_cons, List.foldl_cons, List.foldl_cons, later]
      exact induction (max start value)

/-- One more reading makes the next value of how far the readings have reached. -/
theorem reach_concat (reading : Int) :
    reach (readings ++ [reading]) = next (reach readings) reading := by
  have longer : ((readings ++ [reading]).length : Int) = readings.length + 1 := by simp
  have counted : (readings.mapIdx fun index earlier =>
        earlier + ((readings.length + 1 : Int) - (index + 1))) =
      (readings.mapIdx fun index earlier =>
        earlier + ((readings.length : Int) - (index + 1))).map (· + 1) := by
    apply List.ext_getElem?
    intro index
    rw [List.getElem?_map, List.getElem?_mapIdx, List.getElem?_mapIdx, Option.map_map]
    congr 1
    funext earlier
    simp only [Function.comp_apply]
    omega
  rw [reach, longer, List.mapIdx_concat, List.foldl_concat, counted, foldl_max_succ, ← reach, next,
    Int.sub_self, Int.add_zero]
  exact Int.max_comm _ _

theorem foldl_next (readings : List Int) : readings.foldl next 0 = reach readings := by
  induction readings using List.reverseRecOn with
  | nil => rfl
  | append_singleton earlier reading induction =>
      rw [List.foldl_concat, induction, reach_concat]

example : reach [7, 3, 7] = 9 := by decide

theorem cons_values : last :: values last readings = readings.scanl next last := by
  induction readings generalizing last with
  | nil => rfl
  | cons reading rest induction => rw [values, List.scanl_cons, induction]

theorem getElem?_values (readings : List Int) (index : Nat) :
    (values 0 readings)[index]? =
      if index < readings.length then some (reach (readings.take (index + 1))) else none := by
  rw [← List.getElem?_cons_succ (a := 0), cons_values, List.getElem?_scanl, foldl_next]
  rfl

/-! ## Order among the values -/

theorem lt_of_mem_values {value : Int} (member : value ∈ values last readings) : last < value := by
  induction readings generalizing last with
  | nil => cases member
  | cons reading rest induction =>
      rcases List.mem_cons.mp member with rfl | later
      · exact lt_next last reading
      · exact Int.lt_trans (lt_next last reading) (induction later)

theorem pairwise_values : (values last readings).Pairwise (· < ·) := by
  induction readings generalizing last with
  | nil => exact .nil
  | cons reading rest induction => exact .cons (fun _ => lt_of_mem_values) induction

theorem forall₂_le_values : List.Forall₂ (· ≤ ·) readings (values last readings) := by
  induction readings generalizing last with
  | nil => exact .nil
  | cons reading rest induction => exact .cons (Int.le_max_left _ _) induction

theorem values_eq_self (ahead : (last :: readings).Pairwise (· < ·)) :
    values last readings = readings := by
  induction readings generalizing last with
  | nil => rfl
  | cons reading rest induction =>
      rcases List.pairwise_cons.mp ahead with ⟨above, later⟩
      have following : next last reading = reading :=
        Int.max_eq_left (above reading (List.mem_cons_self ..))
      rw [values, following, induction later]

theorem text_injective : Function.Injective text := by
  intro value other same
  exact Text.eq_of_toString_eq ((String.append_right_inj _).mp same)

end OrderNumber

/-! ## The desk's numbers -/

def Desk.drawn (desk : Desk) : List Context → List (Except Failure String)
  | [] => []
  | context :: rest =>
      let (number, after) := Service.nextOrderNumber context desk
      number :: after.drawn rest

def Context.reading (context : Context) : Int :=
  context.now.micros * 1000

theorem Desk.drawn_eq (desk : Desk) (contexts : List Context) :
    desk.drawn contexts =
      (OrderNumber.values desk.lastNumber (contexts.map Context.reading)).map fun value =>
        .ok (OrderNumber.text value) := by
  induction contexts generalizing desk with
  | nil => rfl
  | cons context rest induction => exact congrArg (List.cons _) (induction _)

namespace OrderNumber

structure Sequenced (readings : List Int) : Prop where
  /-- Every value is told by the readings up to its own. -/
  told : ∀ index, (values 0 readings)[index]? =
    if index < readings.length then some (reach (readings.take (index + 1))) else none
  /-- The values ascend, … -/
  ascending : (values 0 readings).Pairwise (· < ·)
  /-- … none is behind its reading, … -/
  reached : List.Forall₂ (· ≤ ·) readings (values 0 readings)
  /-- … and no two of them are written alike. -/
  distinct : ((values 0 readings).map text).Nodup
  /-- A clock that ascends from above zero is followed. -/
  followed : (∀ reading ∈ readings, 0 < reading) → readings.Pairwise (· < ·) →
    values 0 readings = readings
  /-- These are the numbers that are drawn from a desk which has given out none before. -/
  drawn : ∀ (desk : Desk) (contexts : List Context), desk.lastNumber = 0 →
    contexts.map Context.reading = readings →
      desk.drawn contexts = (values 0 readings).map fun value => .ok (text value)

/-- Order numbers never repeat, whatever the clock does. -/
theorem numbers_ascend (readings : List Int) : Sequenced readings where
  told := getElem?_values readings
  ascending := pairwise_values
  reached := forall₂_le_values
  distinct := pairwise_values.nodup.map text_injective
  followed positive ascending := values_eq_self (.cons positive ascending)
  drawn := by
    rintro desk contexts fresh rfl
    rw [desk.drawn_eq, fresh]

theorem sample_numbers_ascend :
    Sequenced [7, 7, -3, 20] ∧ values 0 [7, 7, -3, 20] = [7, 8, 9, 20] ∧
      values 0 [5, 9] = [5, 9] :=
  ⟨numbers_ascend _, by decide, (numbers_ascend [5, 9]).followed (by decide) (by decide)⟩

end OrderNumber

end OrderDesk
