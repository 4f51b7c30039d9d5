import OrderDesk.Text.Basic

/-! Decimal digits of every script, and reading whole numbers written with them. -/

namespace OrderDesk.Text

/-! ## Decimal digits -/

/-- Code points of the zeros; each is followed by the digits one to nine of its script. -/
def zeroCodes : List Nat := [
  0x30, 0x660, 0x6f0, 0x7c0, 0x966, 0x9e6, 0xa66, 0xae6, 0xb66, 0xbe6, 0xc66, 0xce6, 0xd66, 0xde6,
  0xe50, 0xed0, 0xf20, 0x1040, 0x1090, 0x17e0, 0x1810, 0x1946, 0x19d0, 0x1a80, 0x1a90, 0x1b50,
  0x1bb0, 0x1c40, 0x1c50, 0xa620, 0xa8d0, 0xa900, 0xa9d0, 0xa9f0, 0xaa50, 0xabf0, 0xff10, 0x104a0,
  0x10d30, 0x11066, 0x110f0, 0x11136, 0x111d0, 0x112f0, 0x11450, 0x114d0, 0x11650, 0x116c0,
  0x11730, 0x118e0, 0x11950, 0x11c50, 0x11d50, 0x11da0, 0x16a60, 0x16ac0, 0x16b50, 0x1d7ce,
  0x1d7d8, 0x1d7e2, 0x1d7ec, 0x1d7f6, 0x1e140, 0x1e2f0, 0x1e950, 0x1fbf0]

def decimalValue? (character : Char) : Option Nat :=
  (zeroCodes.find? fun code => code ≤ character.toNat && character.toNat < code + 10).map
    (character.toNat - ·)

def otherDigitRanges : List (Nat × Nat) := [
  (0xb2, 0xb3), (0xb9, 0xb9), (0x1369, 0x1371), (0x19da, 0x19da), (0x2070, 0x2070),
  (0x2074, 0x2079), (0x2080, 0x2089), (0x2460, 0x2468), (0x2474, 0x247c), (0x2488, 0x2490),
  (0x24ea, 0x24ea), (0x24f5, 0x24fd), (0x24ff, 0x24ff), (0x2776, 0x277e), (0x2780, 0x2788),
  (0x278a, 0x2792), (0x10a40, 0x10a43), (0x10e60, 0x10e68), (0x11052, 0x1105a), (0x1f100, 0x1f10a)]

/-- A digit in the wide sense: decimal, superscript, circled or of another style. -/
def isDigit (character : Char) : Bool :=
  (decimalValue? character).isSome ||
    otherDigitRanges.any fun (first, last) => first ≤ character.toNat && character.toNat ≤ last

/-! ## Whole numbers -/

inductive NotInteger
  | malformed
  | tooLong (digits : Nat)
  deriving DecidableEq, Repr

def maxIntegerDigits : Nat := 4300

/-- The blanks skipped around a number; the information separators are none of them. -/
def isIntegerBlank (character : Char) : Bool :=
  isBlank character && !(0x1C ≤ character.val && character.val ≤ 0x1F)

def digitValues? : List Char → Option (List Nat)
  | [] => none
  | [last] => (decimalValue? last).map ([·])
  | first :: '_' :: rest => do return (← decimalValue? first) :: (← digitValues? rest)
  | first :: second :: rest => do
    return (← decimalValue? first) :: (← digitValues? (second :: rest))

def ofDigits (values : List Nat) : Nat :=
  values.foldl (fun number value => 10 * number + value) 0

def splitSign : List Char → Bool × List Char
  | '-' :: digits => (true, digits)
  | '+' :: digits => (false, digits)
  | digits => (false, digits)

def joinsDigits (character : Char) : Bool :=
  character == '_' || (decimalValue? character).isSome

def integerBody (text : String) : List Char :=
  ((text.toList.dropWhile isIntegerBlank).reverse.dropWhile isIntegerBlank).reverse

/-- Digits are counted before what follows them is looked at: a run of too many is refused as such
whatever comes after it. -/
def readInteger (text : String) : Except NotInteger Int :=
  let (negative, digits) := splitSign (integerBody text)
  let run := digits.takeWhile joinsDigits
  match digitValues? run with
  | none => .error .malformed
  | some values =>
    if maxIntegerDigits < values.length then .error (.tooLong values.length)
    else if run.length < digits.length then .error .malformed
    else .ok (if negative then -(ofDigits values : Int) else ofDigits values)

end OrderDesk.Text
