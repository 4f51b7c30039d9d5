import OrderDesk.Text.Basic

/-! Internet addresses of both versions: reading them and writing the short form. -/

namespace OrderDesk

inductive IpVersion
  | v4
  | v6
  deriving DecidableEq, Repr

namespace IpVersion

def bits : IpVersion → Nat
  | v4 => 32
  | v6 => 128

end IpVersion

structure IpAddress where
  version : IpVersion
  value : Nat
  zone : Option String
  deriving DecidableEq, Repr

namespace IpAddress

def isAsciiDigit (character : Char) : Bool :=
  '0' ≤ character && character ≤ '9'

def decimal (digits : List Char) : Nat :=
  digits.foldl (fun number digit => 10 * number + (digit.toNat - '0'.toNat)) 0

/-- One to three digits without a zero in front, at most 255. -/
def octet? (text : List Char) : Option Nat :=
  if text.isEmpty || !text.all isAsciiDigit || 3 < text.length then none
  else if text.head? == some '0' && text != ['0'] then none
  else
    let value := decimal text
    if value ≤ 255 then some value else none

def parseV4? (text : List Char) : Option Nat :=
  match text.splitOn '.' with
  | [first, second, third, fourth] => do
    let a ← octet? first
    let b ← octet? second
    let c ← octet? third
    let d ← octet? fourth
    return ((a * 256 + b) * 256 + c) * 256 + d
  | _ => none

def hexValue? (character : Char) : Option Nat :=
  if '0' ≤ character ∧ character ≤ '9' then some (character.toNat - '0'.toNat)
  else if 'a' ≤ character ∧ character ≤ 'f' then some (character.toNat - 'a'.toNat + 10)
  else if 'A' ≤ character ∧ character ≤ 'F' then some (character.toNat - 'A'.toNat + 10)
  else none

def hextet? (text : List Char) : Option Nat :=
  if text.isEmpty || 4 < text.length then none
  else text.foldl (fun value digit => do return 16 * (← value) + (← hexValue? digit)) (some 0)

def joinHextets (hextets : List Nat) : Nat :=
  hextets.foldl (fun value hextet => value * 65536 + hextet) 0

/-- Parts on one side of a run of zeros. At the outer end of the text a single empty part belongs
to the run itself. -/
def sideOfRun? (parts : List (List Char)) : Option (List Nat) :=
  if parts = [[]] then some [] else parts.mapM hextet?

def hextets? (parts : List (List Char)) : Option (List Nat) :=
  let inner := (parts.drop 1).dropLast
  if 9 < parts.length || 1 < inner.count [] then none
  else if inner.contains [] then do
    let place := 1 + inner.idxOf []
    let above ← sideOfRun? (parts.take place)
    let below ← sideOfRun? (parts.drop (place + 1))
    if above.length + below.length < 8 then
      return above ++ List.replicate (8 - above.length - below.length) 0 ++ below
    else none
  else if parts.length = 8 then parts.mapM hextet?
  else none

/-- A last part with points is an address of version 4 and stands for two parts. -/
def expandTail? (parts : List (List Char)) : Option (List (List Char)) :=
  match parts.getLast? with
  | some last =>
    if last.contains '.' then do
      let value ← parseV4? last
      return parts.dropLast ++ [Nat.toDigits 16 (value / 65536), Nat.toDigits 16 (value % 65536)]
    else some parts
  | none => some parts

def parseV6? (text : List Char) : Option Nat := do
  let parts := text.splitOn ':'
  if parts.length < 3 then none
  else return joinHextets (← hextets? (← expandTail? parts))

/-- The text before a percent sign and the interface named after it, which has no slash. -/
def splitZone? (text : List Char) : Option (List Char × Option String) :=
  match text.splitOn '%' with
  | [address] => some (address, none)
  | [address, zone] =>
    if zone.isEmpty || zone.contains '/' then none
    else some (address, some (String.ofList zone))
  | _ => none

def parse? (text : List Char) : Option IpAddress :=
  match parseV4? text with
  | some value => some ⟨.v4, value, none⟩
  | none => do
    let (address, zone) ← splitZone? text
    return ⟨.v6, ← parseV6? address, zone⟩

def hextetsOf (value : Nat) : List Nat :=
  (List.range 8).reverse.map fun place => value / Nat.pow 65536 place % 65536

def longestRun (hextets : List Nat) : Nat × Nat :=
  (List.range hextets.length).foldl (fun (start, length) place =>
    let here := ((hextets.drop place).takeWhile (· == 0)).length
    if length < here then (place, here) else (start, length)) (0, 0)

def joinColons (hextets : List Nat) : String :=
  String.intercalate ":" (hextets.map fun hextet => String.ofList (Nat.toDigits 16 hextet))

/-- A run of two or more zeros is left out of the written form. -/
def textV6 (value : Nat) : String :=
  let hextets := hextetsOf value
  let (start, length) := longestRun hextets
  if length < 2 then joinColons hextets
  else joinColons (hextets.take start) ++ "::" ++ joinColons (hextets.drop (start + length))

def textV4 (value : Nat) : String :=
  String.intercalate "."
    ((List.range 4).reverse.map fun place => toString (value / Nat.pow 256 place % 256))

def text (address : IpAddress) : String :=
  match address.version with
  | .v4 => textV4 address.value
  | .v6 => textV6 address.value ++ (address.zone.map ("%" ++ ·)).getD ""

end IpAddress

end OrderDesk
