import OrderDesk.Net.Address

/-! Networks: an address whose leading bits are fixed. -/

namespace OrderDesk

/-- All addresses that agree with `base` in their first `length` bits. -/
structure IpNetwork where
  base : IpAddress
  length : Nat
  deriving DecidableEq, Repr

namespace IpNetwork

def lengthOfDecimal? (version : IpVersion) (text : List Char) : Option Nat :=
  if text.isEmpty || !text.all IpAddress.isAsciiDigit || 4300 < text.length then none
  else
    let length := IpAddress.decimal text
    if length ≤ version.bits then some length else none

def onesInFront? (mask : Nat) : Option Nat :=
  (List.range 33).find? fun length =>
    mask = (Nat.pow 2 length - 1) * Nat.pow 2 (32 - length)

def lengthOfMask? (text : List Char) : Option Nat := do
  let mask ← IpAddress.parseV4? text
  match onesInFront? mask with
  | some length => return length
  | none => onesInFront? (0xffffffff - mask)

def length? (version : IpVersion) : Option (List Char) → Option Nat
  | none => some version.bits
  | some text =>
    match lengthOfDecimal? version text, version with
    | some length, _ => some length
    | none, .v4 => lengthOfMask? text
    | none, .v6 => none

def hostSize (version : IpVersion) (length : Nat) : Nat :=
  Nat.pow 2 (version.bits - length)

/-- A network through an address. The bits that are not fixed are cleared, and with them a zone. -/
def around (address : IpAddress) (length : Nat) : IpNetwork :=
  let size := hostSize address.version length
  if address.value % size = 0 then ⟨address, length⟩
  else ⟨⟨address.version, address.value / size * size, none⟩, length⟩

def parseAs? (version : IpVersion) (text : List Char) (length : Option (List Char)) :
    Option IpNetwork := do
  let address ← match version with
    | .v4 => (IpAddress.parseV4? text).map (⟨.v4, ·, none⟩)
    | .v6 => do
      let (address, zone) ← IpAddress.splitZone? text
      pure ⟨.v6, ← IpAddress.parseV6? address, zone⟩
  return around address (← length? version length)

def parse? (text : List Char) : Option IpNetwork :=
  match text.splitOn '/' with
  | [address] => (parseAs? .v4 address none).or (parseAs? .v6 address none)
  | [address, length] =>
    (parseAs? .v4 address (some length)).or (parseAs? .v6 address (some length))
  | _ => none

def contains (network : IpNetwork) (address : IpAddress) : Bool :=
  let size := hostSize network.base.version network.length
  address.version == network.base.version && address.value / size == network.base.value / size

def text (network : IpNetwork) : String :=
  network.base.text ++ "/" ++ toString network.length

end IpNetwork

end OrderDesk
