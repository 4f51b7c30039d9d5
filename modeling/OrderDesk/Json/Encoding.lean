import OrderDesk.Bytes.Basic
import OrderDesk.Text.CodePoint

/-!
The code points of JSON in bytes. A byte order mark tells the encoding; without one, the places of
the zero bytes among the first four do. Halves of surrogate pairs are let through.
-/

namespace OrderDesk.Json

open Text (CodePoint)

inductive Encoding
  | utf8
  | utf16 (bigEndian : Bool)
  | utf32 (bigEndian : Bool)
  deriving DecidableEq, Repr

namespace Encoding

def ofMark? : Bytes → Option (Encoding × Bytes)
  | 0x00 :: 0x00 :: 0xFE :: 0xFF :: rest => some (utf32 true, rest)
  | 0xFF :: 0xFE :: 0x00 :: 0x00 :: rest => some (utf32 false, rest)
  | 0xFE :: 0xFF :: rest => some (utf16 true, rest)
  | 0xFF :: 0xFE :: rest => some (utf16 false, rest)
  | 0xEF :: 0xBB :: 0xBF :: rest => some (utf8, rest)
  | _ => none

/-- The encoding of bytes without a mark: JSON begins with ASCII characters, whose other bytes are
zero in the wide encodings. -/
def guess : Bytes → Encoding
  | first :: second :: third :: fourth :: _ =>
    if first = 0 then (if second = 0 then utf32 true else utf16 true)
    else if second = 0 then (if third = 0 ∧ fourth = 0 then utf32 false else utf16 false)
    else utf8
  | [first, second] =>
    if first = 0 then utf16 true
    else if second = 0 then utf16 false
    else utf8
  | _ => utf8

/-- What must follow a leading byte when halves of pairs are let through. -/
def following (lead : UInt8) : Nat × UInt8 × UInt8 :=
  if lead = 0xED then (2, 0x80, 0xBF) else Bytes.following lead

def codeOf (lead : UInt8) (rest : Bytes) : Nat :=
  let payload := match rest.length with
    | 1 => lead.toNat % 32
    | 2 => lead.toNat % 16
    | _ => lead.toNat % 8
  rest.foldl (fun code byte => 64 * code + byte.toNat % 64) payload

/-- Fuel bounds the number of bytes. -/
def ofUtf8? : (fuel : Nat) → Bytes → Option (List CodePoint)
  | 0, bytes => if bytes.isEmpty then some [] else none
  | _ + 1, [] => some []
  | fuel + 1, lead :: rest =>
    if lead < 0x80 then do return .char (Char.ofNat lead.toNat) :: (← ofUtf8? fuel rest)
    else do
      let (count, low, high) := following lead
      let found := Bytes.continuation count low high rest
      if count = 0 ∨ found.length < count then none
      else return .ofNat (codeOf lead found) :: (← ofUtf8? fuel (rest.drop count))

def units? (width : Nat) (bigEndian : Bool) (bytes : Bytes) : Option (List Nat) :=
  if bytes.length % width ≠ 0 then none
  else some <| (Bytes.blocks width bytes).map fun block =>
    Bytes.toNat (if bigEndian then block else block.reverse)

def ofUnits16 : List Nat → List CodePoint
  | first :: second :: rest =>
    if Text.isHighSurrogate first && Text.isLowSurrogate second then
      .char (Char.ofNat (Text.joinSurrogates first second)) :: ofUnits16 rest
    else .ofNat first :: ofUnits16 (second :: rest)
  | [last] => [.ofNat last]
  | [] => []

def maxCode : Nat := 0x10FFFF

def ofUnits32? (units : List Nat) : Option (List CodePoint) :=
  if units.all (· ≤ maxCode) then some (units.map .ofNat) else none

def decode? (encoding : Encoding) (bytes : Bytes) : Option (List CodePoint) :=
  match encoding with
  | utf8 => ofUtf8? bytes.length bytes
  | utf16 bigEndian => (units? 2 bigEndian bytes).map ofUnits16
  | utf32 bigEndian => (units? 4 bigEndian bytes).bind ofUnits32?

end Encoding

def codesOfBytes? (bytes : Bytes) : Option (List CodePoint) :=
  match Encoding.ofMark? bytes with
  | some (encoding, rest) => encoding.decode? rest
  | none => (Encoding.guess bytes).decode? bytes

end OrderDesk.Json
