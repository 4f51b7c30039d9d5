import OrderDesk.Text.Integer

/-!
Whole numbers as texts in a request. A plain number has a minus sign at most and no zeros in front.
Other texts are first made plain: blanks around, a plus sign, zeros in front, a fraction of zeros
and single underscores are taken away.
-/

namespace OrderDesk.Http.IntegerText

/-- Zeros in front of a minus sign are taken away like those in front of a digit. -/
def leads (character : Char) : Bool :=
  character == '-' || ('1' ≤ character && character ≤ '9')

/-- What a text goes on with after zeros and underscores of which `last` is the last one. The last
one stays where nothing else is left of the whole part. -/
def afterZeros? (last : Char) : List Char → Option (List Char)
  | [] => some [last]
  | first :: rest =>
    if first = '0' ∨ first = '_' then afterZeros? first rest
    else if first = '.' then some (last :: first :: rest)
    else if leads first then some (first :: rest)
    else none

def withoutZeros? : List Char → Option (List Char)
  | [] => none
  | first :: rest =>
    if first = '0' then afterZeros? first rest
    else if leads first then some (first :: rest)
    else none

def withoutFraction (text : List Char) : List Char :=
  let whole := text.takeWhile (· != '.')
  let fraction := text.drop (whole.length + 1)
  if !fraction.isEmpty && fraction.all (· == '0') then whole else text

def separates : List Char → Bool
  | [] => true
  | [last] => last != '_'
  | first :: second :: rest => !(first == '_' && second == '_') && separates (second :: rest)

def withoutUnderscores (text : List Char) : List Char :=
  if text.head? ≠ some '_' ∧ separates text then text.filter (· != '_') else text

def withoutPlus? : List Char → Option (List Char)
  | '+' :: '-' :: _ => none
  | '+' :: rest => some rest
  | text => some text

def plain? (text : String) : Option (List Char) := do
  let digits ← withoutZeros? (← withoutPlus? (Text.integerBody text))
  return withoutUnderscores (withoutFraction digits)

/-- The number of at most 4300 digits that a plain text writes. -/
def value? (text : List Char) : Option Int :=
  let negative := text.head? == some '-'
  let digits := if negative then text.drop 1 else text
  if digits.isEmpty || !digits.all Char.isDigit ||
      (digits.head? == some '0' && 1 < digits.length) ||
      Text.maxIntegerDigits < digits.length then none
  else
    let size : Int := Text.ofDigits (digits.map fun digit => digit.toNat - '0'.toNat)
    some (if negative then -size else size)

def read? (text : String) : Option Int :=
  (plain? text).bind value?

end OrderDesk.Http.IntegerText
