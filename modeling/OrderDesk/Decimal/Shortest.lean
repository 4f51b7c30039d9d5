import OrderDesk.Decimal.Binary64

/-!
The shortest decimal that reads back as a given double, and the forms it is written in.
-/

namespace OrderDesk

namespace Binary64

/-- A decimal `0.d₁d₂… * 10 ^ point` with its digits as one whole number. -/
structure Decimal where
  digits : List Nat
  point : Int
  deriving DecidableEq, Repr

def digitsOf (number : Nat) : List Nat :=
  (Nat.toDigits 10 number).map (·.toNat - '0'.toNat)

def decimalPoint (numerator denominator : Nat) : Int :=
  let guess : Int := ((digitsOf (numerator / denominator)).length : Int)
  if denominator ≤ numerator then guess
  else
    let inverse := digitsOf (denominator / numerator)
    let exact := denominator = numerator * Nat.pow 10 (inverse.length - 1)
    if exact then 2 - (inverse.length : Int) else 1 - (inverse.length : Int)

/-- The neighbour of `numerator / denominator` with `count` digits that reads back as `number`,
the nearer one when both do. -/
def candidate? (number : Binary64) (numerator denominator : Nat) (point : Int) (count : Nat) :
    Option (Nat × Int) :=
  let power := point - count
  let scaledNumerator := numerator * Nat.pow 10 (-power).toNat
  let scaledDenominator := denominator * Nat.pow 10 power.toNat
  let below := scaledNumerator / scaledDenominator
  let readsBack (digits : Nat) : Bool := ofDecimal false digits power == number
  let nearer := roundHalfEven scaledNumerator scaledDenominator
  if readsBack nearer then some (nearer, power)
  else if readsBack below then some (below, power)
  else if readsBack (below + 1) then some (below + 1, power)
  else none

/-- The fewest digits that read back as a positive finite double; seventeen always do. -/
def shortestDigits (significand : Nat) (exponent : Int) : Nat × Int :=
  let number := finite false significand exponent
  let numerator := scaleUp significand exponent
  let denominator := Nat.pow 2 (-exponent).toNat
  let point := decimalPoint numerator denominator
  ((List.range 17).findSome? fun place =>
    candidate? number numerator denominator point (place + 1)).getD (0, 0)

def withoutTrailingZeros (digits : List Nat) : List Nat :=
  (digits.reverse.dropWhile (· == 0)).reverse

def shortest (significand : Nat) (exponent : Int) : Decimal :=
  let (digits, power) := shortestDigits significand exponent
  let digits := digitsOf digits
  ⟨withoutTrailingZeros digits, digits.length + power⟩

def digitChars (digits : List Nat) : List Char :=
  digits.map Nat.digitChar

def exponentChars (exponent : Int) : List Char :=
  let digits := (Nat.toDigits 10 exponent.natAbs)
  (if exponent < 0 then '-' else '+') ::
    (if digits.length < 2 then '0' :: digits else digits)

/-- Positional from `0.0001` up to `10 ^ 16`, with a fraction of at least one digit; with an
exponent elsewhere. -/
def Decimal.chars (decimal : Decimal) : List Char :=
  let digits := digitChars decimal.digits
  if -4 < decimal.point ∧ decimal.point ≤ 16 then
    if decimal.point ≤ 0 then
      '0' :: '.' :: List.replicate (-decimal.point).toNat '0' ++ digits
    else
      let whole := decimal.point.toNat
      if digits.length ≤ whole then
        digits ++ List.replicate (whole - digits.length) '0' ++ ['.', '0']
      else digits.take whole ++ '.' :: digits.drop whole
  else
    let mantissa := match digits with
      | first :: [] => [first]
      | first :: rest => first :: '.' :: rest
      | [] => []
    mantissa ++ 'e' :: exponentChars (decimal.point - 1)

/-- The shortest text that reads back, with a point or an exponent so that it is no whole number. -/
def text : Binary64 → String
  | nan => "nan"
  | infinite negative => if negative then "-inf" else "inf"
  | finite negative significand exponent =>
    let size := if significand = 0 then ['0', '.', '0'] else (shortest significand exponent).chars
    String.ofList (if negative then '-' :: size else size)

end Binary64

end OrderDesk
