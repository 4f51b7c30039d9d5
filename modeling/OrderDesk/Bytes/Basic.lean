import OrderDesk.Text.Quoted

/-! Byte strings, their hexadecimal form, and the bytes of a text. -/

namespace OrderDesk

abbrev Bytes := List UInt8

namespace Bytes

def ofText (text : String) : Bytes :=
  text.toUTF8.data.toList

def toText? (bytes : Bytes) : Option String :=
  String.fromUTF8? ⟨bytes.toArray⟩

def hex (bytes : Bytes) : String :=
  String.ofList (bytes.flatMap fun byte => Text.hexDigits 2 byte.toNat)

def bigEndian (width number : Nat) : Bytes :=
  (List.range width).reverse.map fun place => UInt8.ofNat (number / Nat.pow 256 place)

def toNat (bytes : Bytes) : Nat :=
  bytes.foldl (fun number byte => 256 * number + byte.toNat) 0

def xor (first second : Bytes) : Bytes :=
  first.zipWith (· ^^^ ·) second

def blocksWithin (size : Nat) : (count : Nat) → Bytes → List Bytes
  | 0, _ => []
  | _ + 1, [] => []
  | count + 1, bytes => bytes.take size :: blocksWithin size count (bytes.drop size)

def blocks (size : Nat) (bytes : Bytes) : List Bytes :=
  blocksWithin size bytes.length bytes

def padded (size : Nat) (bytes : Bytes) : Bytes :=
  bytes ++ List.replicate ((size - bytes.length % size) % size) 0

/-! ## Bytes of texts -/

variable {first second : String}

theorem ofText_inj : ofText first = ofText second ↔ first = second := by
  constructor
  · intro same
    have bytes : first.toByteArray.data = second.toByteArray.data := Array.toList_inj.mp same
    exact String.toByteArray_inj.mp (ByteArray.ext bytes)
  · rintro rfl
    rfl

theorem ofText_append : ofText (first ++ second) = ofText first ++ ofText second := by
  rw [ofText, String.toUTF8_eq_toByteArray, String.toByteArray_append, ByteArray.data_append,
    Array.toList_append]
  rfl

theorem toText?_ofText (text : String) : toText? (ofText text) = some text := by
  rw [toText?, ofText, Array.toArray_toList, String.fromUTF8?, String.toUTF8_eq_toByteArray,
    dif_pos text.isValidUTF8]
  rfl

/-! ## UTF-8 -/

/-- What must follow a leading byte: how many bytes, and the range of the first of them. -/
def following (lead : UInt8) : Nat × UInt8 × UInt8 :=
  if lead < 0xC2 then (0, 0x80, 0xBF)
  else if lead ≤ 0xDF then (1, 0x80, 0xBF)
  else if lead = 0xE0 then (2, 0xA0, 0xBF)
  else if lead = 0xED then (2, 0x80, 0x9F)
  else if lead ≤ 0xEF then (2, 0x80, 0xBF)
  else if lead = 0xF0 then (3, 0x90, 0xBF)
  else if lead ≤ 0xF3 then (3, 0x80, 0xBF)
  else if lead = 0xF4 then (3, 0x80, 0x8F)
  else (0, 0x80, 0xBF)

def continuation (count : Nat) (low high : UInt8) : Bytes → Bytes
  | [] => []
  | byte :: rest =>
    match count with
    | 0 => []
    | count + 1 =>
      if low ≤ byte ∧ byte ≤ high then byte :: continuation count 0x80 0xBF rest else []

def replacement : Char := '\ufffd'

def characterOf (lead : UInt8) (rest : Bytes) : Char :=
  let payload := match rest.length with
    | 1 => lead.toNat % 32
    | 2 => lead.toNat % 16
    | _ => lead.toNat % 8
  Char.ofNat (rest.foldl (fun code byte => 64 * code + byte.toNat % 64) payload)

def readFrom : (fuel : Nat) → Bytes → List Char
  | 0, _ => []
  | _ + 1, [] => []
  | fuel + 1, lead :: rest =>
    if lead < 0x80 then Char.ofNat lead.toNat :: readFrom fuel rest
    else
      let (count, low, high) := following lead
      let found := continuation count low high rest
      let character :=
        if count = 0 ∨ found.length < count then replacement else characterOf lead found
      character :: readFrom fuel (rest.drop found.length)

def readText (bytes : Bytes) : String :=
  String.ofList (readFrom bytes.length bytes)

end Bytes

end OrderDesk
