import Mathlib.Algebra.Order.Ring.Rat
import Mathlib.Algebra.Order.Ring.Abs
import OrderDesk.Gate.Basic
import OrderDesk.Proofs.Decimal.Whole

/-! Judging times by an exact clock. On whole seconds the clock of doubles judges no differently. -/

namespace OrderDesk.Gate

/-- The judge by an exact present time. A time beyond every double still has no distance. -/
def exactJudge (now : ℚ) : TimeJudge := fun seconds window =>
  if Binary64.holdsInt seconds then .ok (decide ((window : ℚ) < |now - seconds|))
  else .error .floatOverflow

def Within (now : ℚ) (seconds window : Int) : Prop :=
  Binary64.holdsInt seconds = true ∧ |now - seconds| ≤ window

variable {now : ℚ} {seconds window : Int}

theorem exactJudge_eq_false : exactJudge now seconds window = .ok false ↔
    Within now seconds window := by
  rw [exactJudge, Within]
  split
  · next held => simp [held]
  · next unheld => simp [unheld]

theorem within_iff (near : |now| + window < Binary64.integerLimit) :
    Within now seconds window ↔ |now - seconds| ≤ window := by
  refine and_iff_right_of_imp fun close => ?_
  have size : |(seconds : ℚ)| ≤ |now| + window := calc
    |(seconds : ℚ)| ≤ |now| + |now - seconds| := by
      rw [abs_sub_comm]
      exact le_add_of_sub_left_le ((abs_sub_abs_le_abs_sub _ _))
    _ ≤ |now| + window := add_le_add_right close _
  have held : ((seconds.natAbs : Int) : ℚ) < (Binary64.integerLimit : Nat) := by
    rw [Int.natCast_natAbs, Int.cast_abs]
    exact lt_of_le_of_lt size near
  exact decide_eq_true (by exact_mod_cast held)

theorem holdsInt_of_lt (small : seconds.natAbs < Nat.pow 2 53) :
    Binary64.holdsInt seconds = true := by
  have below : Nat.pow 2 53 ≤ Binary64.integerLimit := by decide +kernel
  exact decide_eq_true (Nat.lt_of_lt_of_le small below)

theorem isOutside_ofSeconds {now : Int} (present : now.natAbs < Nat.pow 2 52)
    (past : seconds.natAbs < Nat.pow 2 52) :
    isOutside (.ofSeconds now) seconds window = exactJudge now seconds window := by
  have wider : Nat.pow 2 53 = 2 * Nat.pow 2 52 := by decide +kernel
  have held : seconds.natAbs < Nat.pow 2 53 := by omega
  have clock : Binary64.Denotes (Instant.ofSeconds now).seconds now :=
    Binary64.denotes_ofQuotient (by omega) (by decide : 0 < 1000000)
  have distance : Binary64.Denotes ((Instant.ofSeconds now).seconds - .ofInt seconds)
      (now - seconds) := clock.sub (Binary64.denotes_ofInt held) (by omega)
  have size : (((now - seconds).natAbs : Int) : ℚ) = |(now : ℚ) - seconds| := by
    rw [Int.natCast_natAbs, Int.cast_abs, Int.cast_sub]
  have same : window < (now - seconds).natAbs ↔ (window : ℚ) < |(now : ℚ) - seconds| := by
    rw [← size, Int.cast_lt]
  rw [isOutside, exactJudge, if_pos (holdsInt_of_lt held), if_pos (holdsInt_of_lt held),
    distance.exceedsInSize, decide_eq_decide.mpr same]

end OrderDesk.Gate
