import Mathlib.Tactic.Positivity
import Mathlib.Tactic.Ring
import OrderDesk.Decimal.Binary64

/-! Whole numbers as doubles. Up to 53 bits they are held as they are, and so are their differences. -/

namespace OrderDesk.Binary64

/-- The double is a whole number, exactly. -/
def Denotes (double : Binary64) (number : Int) : Prop :=
  ∃ negative exponent, exponent ≤ 0 ∧
    double = finite negative (number.natAbs * Nat.pow 2 (-exponent).toNat) exponent ∧
    (if negative then -(number.natAbs : Int) else number.natAbs) = number

variable {number : Int}

theorem roundHalfEven_mul {quotient denominator : Nat} (positive : 0 < denominator) :
    roundHalfEven (quotient * denominator) denominator = quotient := by
  rw [roundHalfEven, Nat.mul_mod_left, Nat.mul_div_left quotient positive, if_pos]
  exact positive

theorem quotientExponent_nonpos {size scale : Nat} (small : size < Nat.pow 2 53)
    (some_size : size ≠ 0) (positive : 0 < scale) : quotientExponent (size * scale) scale ≤ 0 := by
  have bits : (size * scale).log2 ≤ 53 + scale.log2 := by
    have below : size * scale < 2 ^ (53 + scale.log2 + 1) := calc
      size * scale < 2 ^ 53 * 2 ^ (scale.log2 + 1) :=
        Nat.mul_lt_mul'' small Nat.lt_log2_self
      _ = 2 ^ (53 + scale.log2 + 1) := by rw [← Nat.pow_add]; rfl
    have scaled : size * scale ≠ 0 := Nat.mul_ne_zero some_size (Nat.ne_of_gt positive)
    exact Nat.le_of_lt_succ ((Nat.log2_lt scaled).mpr below)
  rw [quotientExponent]
  refine max_le ?_ (by decide)
  split
  · next reached =>
    -- the guess is reached, so it is at most the number of bits
    by_contra large
    have guess : (53 : Int) ≤ (size * scale).log2 - scale.log2 := by omega
    have exact : ((size * scale).log2 : Int) - scale.log2 = 53 := by omega
    rw [exact] at reached
    change scale * Nat.pow 2 53 ≤ size * scale * 1 at reached
    rw [Nat.mul_one, Nat.mul_comm size] at reached
    exact absurd (Nat.le_of_mul_le_mul_left reached positive) (Nat.not_le.mpr small)
  · omega

theorem ofRatio_whole {size scale : Nat} (negative : Bool) (small : size < Nat.pow 2 53)
    (positive : 0 < scale) :
    ∃ exponent ≤ 0, ofRatio negative (size * scale) scale =
      finite negative (size * Nat.pow 2 (-exponent).toNat) exponent := by
  by_cases none : size = 0
  · exact ⟨minExponent, by decide, by simp [ofRatio, none]⟩
  · have nonpos := quotientExponent_nonpos small none positive
    have whole : size * scale ≠ 0 := Nat.mul_ne_zero none (Nat.ne_of_gt positive)
    rw [ofRatio, if_neg whole]
    dsimp only
    generalize quotientExponent (size * scale) scale = exponent at nonpos
    have up : scaleUp (size * scale) (-exponent) =
        size * Nat.pow 2 (-exponent).toNat * scale := by rw [scaleUp]; ring
    have down : scaleUp scale exponent = scale := by
      rw [scaleUp, Int.toNat_of_nonpos nonpos]
      exact Nat.mul_one scale
    rw [up, down, roundHalfEven_mul positive]
    by_cases carried : size * Nat.pow 2 (-exponent).toNat = Nat.pow 2 53
    · -- the carry only moves a factor of two, because the number is below the limit
      have shifted : exponent ≠ 0 := by
        rintro rfl
        exact absurd carried (Nat.ne_of_lt (by simpa using small))
      refine ⟨exponent + 1, by omega, ?_⟩
      have halved : size * Nat.pow 2 (-(exponent + 1)).toNat = Nat.pow 2 52 := by
        have step : (-exponent).toNat = (-(exponent + 1)).toNat + 1 := by omega
        have doubled : size * Nat.pow 2 (-(exponent + 1)).toNat * 2 = Nat.pow 2 52 * 2 := by
          rw [Nat.mul_assoc]
          change size * Nat.pow 2 ((-(exponent + 1)).toNat + 1) = Nat.pow 2 53
          rw [← step, carried]
        exact Nat.eq_of_mul_eq_mul_right (by decide) doubled
      have held : ¬maxExponent < exponent + 1 := by simp only [maxExponent]; omega
      simp only [carried, beq_self_eq_true, if_true, if_neg held, halved]
    · refine ⟨exponent, nonpos, ?_⟩
      have held : ¬maxExponent < exponent := by simp only [maxExponent]; omega
      simp only [beq_false_of_ne carried, Bool.false_eq_true, if_false, if_neg held]

theorem denotes_ofRatio {scale : Nat} (small : number.natAbs < Nat.pow 2 53) (positive : 0 < scale) :
    Denotes (ofRatio (decide (number < 0)) (number.natAbs * scale) scale) number := by
  rcases ofRatio_whole (decide (number < 0)) small positive with ⟨exponent, nonpos, exactly⟩
  refine ⟨_, exponent, nonpos, exactly, ?_⟩
  by_cases below : number < 0
  · rw [decide_eq_true below, if_pos rfl]
    omega
  · rw [decide_eq_false below, if_neg Bool.false_ne_true]
    omega

theorem denotes_ofInt (small : number.natAbs < Nat.pow 2 53) : Denotes (ofInt number) number := by
  have whole := denotes_ofRatio small Nat.one_pos
  rwa [Nat.mul_one] at whole

theorem mul_neg_iff_of_pos {number scale : Int} (positive : 0 < scale) :
    number * scale < 0 ↔ number < 0 := by
  have scaled : number * scale < 0 * scale ↔ number < 0 := mul_lt_mul_iff_left₀ positive
  rwa [Int.zero_mul] at scaled

theorem denotes_ofQuotient {scale : Nat} (small : number.natAbs < Nat.pow 2 53)
    (positive : 0 < scale) : Denotes (ofQuotient (number * scale) scale) number := by
  have sign : (number * scale < 0) = (number < 0) :=
    propext (mul_neg_iff_of_pos (Int.natCast_pos.mpr positive))
  have whole := denotes_ofRatio small positive
  simp only [ofQuotient, sign, Int.natAbs_mul, Int.natAbs_natCast]
  exact whole

theorem Denotes.neg {double : Binary64} (denotes : Denotes double number) :
    Denotes double.neg (-number) := by
  rcases denotes with ⟨negative, exponent, nonpos, rfl, signed⟩
  refine ⟨!negative, exponent, nonpos, by rw [Int.natAbs_neg]; rfl, ?_⟩
  rw [Int.natAbs_neg]
  cases negative with
  | false => exact congrArg Neg.neg signed
  | true => exact (Int.neg_eq_comm.mp signed).symm

theorem units_eq {negative : Bool} {exponent unit : Int} (nonpos : exponent ≤ 0)
    (fine : unit ≤ exponent)
    (signed : (if negative then -(number.natAbs : Int) else number.natAbs) = number) :
    units negative (number.natAbs * Nat.pow 2 (-exponent).toNat) exponent unit =
      number * (Nat.pow 2 (-unit).toNat : Nat) := by
  have scaled : scaleUp (number.natAbs * Nat.pow 2 (-exponent).toNat) (exponent - unit) =
      number.natAbs * Nat.pow 2 (-unit).toNat := by
    have steps : (-unit).toNat = (-exponent).toNat + (exponent - unit).toNat := by omega
    have split : Nat.pow 2 (-unit).toNat =
        Nat.pow 2 (-exponent).toNat * Nat.pow 2 (exponent - unit).toNat := by
      rw [steps]
      exact Nat.pow_add 2 _ _
    rw [scaleUp, split, Nat.mul_assoc]
  rw [units, scaled, Int.natCast_mul]
  cases negative with
  | false => rw [if_neg Bool.false_ne_true] at signed ⊢; rw [signed]
  | true => rw [if_pos rfl] at signed ⊢; rw [← Int.neg_mul, signed]

theorem Denotes.sub {first second : Binary64} {other : Int} (left : Denotes first number)
    (right : Denotes second other) (small : (number - other).natAbs < Nat.pow 2 53) :
    Denotes (first - second) (number - other) := by
  rcases left with ⟨negative₁, exponent₁, nonpos₁, rfl, signed₁⟩
  rcases right.neg with ⟨negative₂, exponent₂, nonpos₂, opposite, signed₂⟩
  change Denotes (add _ second.neg) _
  rw [opposite, add]
  have below : min exponent₁ exponent₂ ≤ 0 := le_trans (min_le_left ..) nonpos₁
  have scale : 0 < Nat.pow 2 (-min exponent₁ exponent₂).toNat := Nat.pow_pos (by decide)
  rw [units_eq nonpos₁ (min_le_left ..) signed₁, units_eq nonpos₂ (min_le_right ..) signed₂,
    ← Int.add_mul, ← Int.sub_eq_add_neg]
  split
  · next zero =>
    have none : number - other = 0 :=
      (Int.mul_eq_zero.mp zero).resolve_right (Int.natCast_ne_zero.mpr (Nat.ne_of_gt scale))
    rw [none]
    refine ⟨negative₁ && negative₂, minExponent, by decide, ?_, ?_⟩
    · rw [Int.natAbs_zero, Nat.zero_mul]
    · split <;> rfl
  · have flat : scaleUp ((number - other) * (Nat.pow 2 (-min exponent₁ exponent₂).toNat : Nat)).natAbs
        (min exponent₁ exponent₂) =
        (number - other).natAbs * Nat.pow 2 (-min exponent₁ exponent₂).toNat := by
      rw [scaleUp, Int.toNat_of_nonpos below, Int.natAbs_mul, Int.natAbs_natCast]
      exact Nat.mul_one _
    have sign : ((number - other) * (Nat.pow 2 (-min exponent₁ exponent₂).toNat : Nat) < 0) =
        (number - other < 0) :=
      propext (mul_neg_iff_of_pos (Int.natCast_pos.mpr scale))
    rw [ofUnits, flat]
    simp only [sign]
    exact denotes_ofRatio small scale

theorem Denotes.exceedsInSize {double : Binary64} (denotes : Denotes double number) (bound : Int) :
    double.exceedsInSize bound = decide (bound < number.natAbs) := by
  rcases denotes with ⟨negative, exponent, nonpos, rfl, -⟩
  have scale : (0 : Int) < (Nat.pow 2 (-exponent).toNat : Nat) :=
    Int.natCast_pos.mpr (Nat.pow_pos (by decide))
  have flat : scaleUp (number.natAbs * Nat.pow 2 (-exponent).toNat) exponent =
      number.natAbs * Nat.pow 2 (-exponent).toNat := by
    rw [scaleUp, Int.toNat_of_nonpos nonpos]
    exact Nat.mul_one _
  simp only [Binary64.exceedsInSize, flat, Int.natCast_mul]
  exact decide_eq_decide.mpr (mul_lt_mul_iff_left₀ scale)

end OrderDesk.Binary64
