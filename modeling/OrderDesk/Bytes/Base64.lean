import OrderDesk.Bytes.Basic

/-!
Base64 in the standard and the URL alphabet. The lenient reader skips characters outside the
alphabet and stops at the padding that completes a group.
-/

namespace OrderDesk

namespace Base64

/-- The two alphabets differ in the digits 62 and 63. -/
structure Alphabet where
  digit62 : Char
  digit63 : Char

def standard : Alphabet := ⟨'+', '/'⟩
def url : Alphabet := ⟨'-', '_'⟩

def encodeDigit (alphabet : Alphabet) (value : Nat) : Char :=
  if value < 26 then Char.ofNat ('A'.toNat + value)
  else if value < 52 then Char.ofNat ('a'.toNat + (value - 26))
  else if value < 62 then Char.ofNat ('0'.toNat + (value - 52))
  else if value = 62 then alphabet.digit62
  else alphabet.digit63

def decodeDigit? (byte : UInt8) : Option Nat :=
  let code := byte.toNat
  if 65 ≤ code ∧ code ≤ 90 then some (code - 65)
  else if 97 ≤ code ∧ code ≤ 122 then some (code - 71)
  else if 48 ≤ code ∧ code ≤ 57 then some (code + 4)
  else if code = 43 then some 62
  else if code = 47 then some 63
  else none

def encodeChars (alphabet : Alphabet) (pad : List Char) : Bytes → List Char
  | [] => []
  | [first] =>
    [encodeDigit alphabet (first.toNat / 4), encodeDigit alphabet (first.toNat % 4 * 16)] ++
      pad ++ pad
  | [first, second] =>
    [encodeDigit alphabet (first.toNat / 4),
      encodeDigit alphabet (first.toNat % 4 * 16 + second.toNat / 16),
      encodeDigit alphabet (second.toNat % 16 * 4)] ++ pad
  | first :: second :: third :: rest =>
    [encodeDigit alphabet (first.toNat / 4),
      encodeDigit alphabet (first.toNat % 4 * 16 + second.toNat / 16),
      encodeDigit alphabet (second.toNat % 16 * 4 + third.toNat / 64),
      encodeDigit alphabet (third.toNat % 64)] ++ encodeChars alphabet pad rest

def encode (bytes : Bytes) : String :=
  String.ofList (encodeChars standard ['='] bytes)

def encodeUrl (bytes : Bytes) : String :=
  String.ofList (encodeChars url [] bytes)

/-- How far a group of four digits has been read: the number of digits, the bits not written yet,
and the padding seen since the last digit. -/
structure Group where
  digits : Nat
  carry : Nat
  padding : Nat

def Group.start : Group := ⟨0, 0, 0⟩

def Group.push (group : Group) (digit : Nat) : Option UInt8 × Group :=
  match group.digits with
  | 0 => (none, ⟨1, digit, 0⟩)
  | 1 => (some (UInt8.ofNat (group.carry * 4 + digit / 16)), ⟨2, digit % 16, 0⟩)
  | 2 => (some (UInt8.ofNat (group.carry * 16 + digit / 4)), ⟨3, digit % 4, 0⟩)
  | _ => (some (UInt8.ofNat (group.carry * 64 + digit)), .start)

def decodeFrom (group : Group) : Bytes → Option Bytes
  | [] => if group.digits = 0 then some [] else none
  | byte :: rest =>
    if byte = 61 then
      if 2 ≤ group.digits then
        if 4 ≤ group.digits + group.padding + 1 then some []
        else decodeFrom { group with padding := group.padding + 1 } rest
      else decodeFrom group rest
    else match decodeDigit? byte with
      | none => decodeFrom group rest
      | some digit =>
        match group.push digit with
        | (some written, next) => (decodeFrom next rest).map (written :: ·)
        | (none, next) => decodeFrom next rest

/-- Reads standard Base64, skipping every byte outside the alphabet. -/
def decodeLenient? (bytes : Bytes) : Option Bytes :=
  decodeFrom .start bytes

/-- Reads the URL alphabet (the standard one too), supplying missing padding. -/
def decodeUrl? (bytes : Bytes) : Option Bytes :=
  let missing := (4 - bytes.length % 4) % 4
  let standardDigits := bytes.map fun byte =>
    if byte = 45 then 43 else if byte = 95 then 47 else byte
  decodeLenient? (standardDigits ++ List.replicate missing 61)

/-- Whether a text consists of digits with padding after them: what completes the last group, or
any number of signs after complete groups. -/
def isWellFormed (text : String) : Bool :=
  let isDigit (character : Char) : Bool :=
    character.toNat < 0x80 && (decodeDigit? character.val.toUInt8).isSome
  let digits := text.toList.takeWhile isDigit
  let padding := text.toList.dropWhile isDigit
  padding.all (· == '=') &&
    if digits.length % 4 = 0 then padding.isEmpty || !digits.isEmpty
    else digits.length % 4 + padding.length == 4

/-- Reads standard Base64 that holds nothing but digits and padding. -/
def decode? (text : String) : Option Bytes :=
  if isWellFormed text then decodeLenient? (Bytes.ofText text) else none

end Base64

end OrderDesk
