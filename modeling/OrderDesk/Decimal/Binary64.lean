/-!
Doubles as exact dyadic rationals. Every operation computes the exact result and rounds it once,
to the nearest double, a half going to the even significand.
-/

namespace OrderDesk

/-- A double: `significand * 2 ^ exponent` with a sign, an infinity, or no number at all. -/
inductive Binary64
  | finite (negative : Bool) (significand : Nat) (exponent : Int)
  | infinite (negative : Bool)
  | nan
  deriving DecidableEq, Repr

namespace Binary64

def minExponent : Int := -1074
def maxExponent : Int := 971

/-- `numerator / denominator` to the nearest whole number, a half to the even neighbour. -/
def roundHalfEven (numerator denominator : Nat) : Nat :=
  let quotient := numerator / denominator
  let doubled := 2 * (numerator % denominator)
  if doubled < denominator then quotient
  else if denominator < doubled then quotient + 1
  else quotient + quotient % 2

def scaleUp (number : Nat) (power : Int) : Nat :=
  number * Nat.pow 2 power.toNat

/-- The largest exponent at which a positive quotient still fills the 53 bits of a significand. -/
def quotientExponent (numerator denominator : Nat) : Int :=
  let guess : Int := (numerator.log2 : Int) - denominator.log2
  let reached := scaleUp denominator guess ≤ scaleUp numerator (-guess)
  max ((if reached then guess else guess - 1) - 52) minExponent

def ofRatio (negative : Bool) (numerator denominator : Nat) : Binary64 :=
  if numerator = 0 then finite negative 0 minExponent
  else
    let exponent := quotientExponent numerator denominator
    let significand :=
      roundHalfEven (scaleUp numerator (-exponent)) (scaleUp denominator exponent)
    let carried := significand == Nat.pow 2 53
    let exponent := if carried then exponent + 1 else exponent
    if maxExponent < exponent then infinite negative
    else finite negative (if carried then Nat.pow 2 52 else significand) exponent

def zero : Binary64 := finite false 0 minExponent

instance : Inhabited Binary64 := ⟨zero⟩

def ofInt (number : Int) : Binary64 :=
  ofRatio (decide (number < 0)) number.natAbs 1

def ofQuotient (numerator : Int) (denominator : Nat) : Binary64 :=
  ofRatio (decide (numerator < 0)) numerator.natAbs denominator

/-- `± digits * 10 ^ power`. Powers far outside the range of doubles need no exact arithmetic. -/
def ofDecimal (negative : Bool) (digits : Nat) (power : Int) : Binary64 :=
  if digits = 0 then finite negative 0 minExponent
  else if 400 < power then infinite negative
  else if power < -(400 + digits.log2 : Int) then finite negative 0 minExponent
  else ofRatio negative (digits * Nat.pow 10 power.toNat) (Nat.pow 10 (-power).toNat)

/-- A finite value as a whole number of units of `2 ^ unit`, where `unit` is at most the
exponent. -/
def units (negative : Bool) (significand : Nat) (exponent unit : Int) : Int :=
  let size : Int := scaleUp significand (exponent - unit)
  if negative then -size else size

def ofUnits (units unit : Int) : Binary64 :=
  ofRatio (decide (units < 0)) (scaleUp units.natAbs unit) (Nat.pow 2 (-unit).toNat)

def neg : Binary64 → Binary64
  | finite negative significand exponent => finite (!negative) significand exponent
  | infinite negative => infinite (!negative)
  | nan => nan

def add : Binary64 → Binary64 → Binary64
  | nan, _ => nan
  | _, nan => nan
  | infinite first, infinite second => if first = second then infinite first else nan
  | infinite negative, finite .. => infinite negative
  | finite .., infinite negative => infinite negative
  | finite negative₁ significand₁ exponent₁, finite negative₂ significand₂ exponent₂ =>
    let unit := min exponent₁ exponent₂
    let total := units negative₁ significand₁ exponent₁ unit +
      units negative₂ significand₂ exponent₂ unit
    if total = 0 then finite (negative₁ && negative₂) 0 minExponent else ofUnits total unit

def sub (first second : Binary64) : Binary64 :=
  first.add second.neg

def divNat (number : Binary64) (divisor : Nat) : Binary64 :=
  match number with
  | finite negative significand exponent =>
    ofRatio negative (scaleUp significand exponent) (divisor * Nat.pow 2 (-exponent).toNat)
  | other => other

/-- Nothing is before or after a value that is no number. -/
def lt : Binary64 → Binary64 → Bool
  | nan, _ => false
  | _, nan => false
  | infinite first, infinite second => first && !second
  | infinite negative, finite .. => negative
  | finite .., infinite negative => !negative
  | finite negative₁ significand₁ exponent₁, finite negative₂ significand₂ exponent₂ =>
    let unit := min exponent₁ exponent₂
    units negative₁ significand₁ exponent₁ unit < units negative₂ significand₂ exponent₂ unit

def le (first second : Binary64) : Bool :=
  match first, second with
  | nan, _ => false
  | _, nan => false
  | _, _ => !second.lt first

instance : Add Binary64 := ⟨add⟩
instance : Sub Binary64 := ⟨sub⟩
instance : Neg Binary64 := ⟨neg⟩
instance : LT Binary64 := ⟨fun first second => first.lt second = true⟩
instance : LE Binary64 := ⟨fun first second => first.le second = true⟩
instance (first second : Binary64) : Decidable (first < second) :=
  inferInstanceAs (Decidable (first.lt second = true))
instance (first second : Binary64) : Decidable (first ≤ second) :=
  inferInstanceAs (Decidable (first.le second = true))

/-- Whether a double lies further from zero than a whole number says. The two are compared
exactly. -/
def exceedsInSize (number : Binary64) (bound : Int) : Bool :=
  match number with
  | finite _ significand exponent =>
    bound * Nat.pow 2 (-exponent).toNat < scaleUp significand exponent
  | infinite _ => true
  | nan => false

def isZero : Binary64 → Bool
  | finite _ significand _ => significand == 0
  | _ => false

def isFinite : Binary64 → Bool
  | finite .. => true
  | _ => false

def truncate? : Binary64 → Option Int
  | finite negative significand exponent =>
    let size : Int := scaleUp significand exponent / Nat.pow 2 (-exponent).toNat
    some (if negative then -size else size)
  | _ => none

def isWhole : Binary64 → Bool
  | finite _ significand exponent => significand % Nat.pow 2 (-exponent).toNat == 0
  | _ => false

/-- Whole numbers from this size on round beyond the largest double. -/
def integerLimit : Nat := Nat.pow 2 1024 - Nat.pow 2 970

def holdsInt (number : Int) : Bool :=
  number.natAbs < integerLimit

end Binary64

end OrderDesk
