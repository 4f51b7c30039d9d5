import OrderDesk.Json.Value

/-! Writing JSON in ASCII: characters beyond it are escaped as UTF-16 units. -/

namespace OrderDesk

namespace Json

structure Separators where
  item : String
  key : String

def Separators.compact : Separators := ⟨",", ":"⟩
def Separators.spaced : Separators := ⟨", ", ": "⟩

def unitEscape (code : Nat) : List Char :=
  '\\' :: 'u' :: Text.hexDigits 4 code

def escapedChar (character : Char) : List Char :=
  if character = '"' then ['\\', '"']
  else if character = '\\' then ['\\', '\\']
  else if character = '\n' then ['\\', 'n']
  else if character = '\r' then ['\\', 'r']
  else if character = '\t' then ['\\', 't']
  else if character = '\x0c' then ['\\', 'f']
  else if character = '\x08' then ['\\', 'b']
  else if 0x20 ≤ character.toNat ∧ character.toNat < 0x7F then [character]
  else if character.toNat < 0x10000 then unitEscape character.toNat
  else
    let offset := character.toNat - 0x10000
    unitEscape (0xD800 + offset / 0x400) ++ unitEscape (0xDC00 + offset % 0x400)

def escapedCode : Text.CodePoint → List Char
  | .char character => escapedChar character
  | .half code => unitEscape code

def quotedString (value : String) : String :=
  String.ofList ('"' :: value.toList.flatMap escapedChar ++ ['"'])

def quotedCodes (codes : List Text.CodePoint) : String :=
  String.ofList ('"' :: codes.flatMap escapedCode ++ ['"'])

def floatText : Binary64 → String
  | .nan => "NaN"
  | .infinite negative => if negative then "-Infinity" else "Infinity"
  | value => value.text

mutual

def print (separators : Separators) : Json → String
  | null => "null"
  | bool value => if value then "true" else "false"
  | int value => toString value
  | float value => floatText value
  | text value => quotedString value
  | unpaired codes => quotedCodes codes
  | misnamed _ value => value.print separators
  | list items => "[" ++ String.intercalate separators.item (printItems separators items) ++ "]"
  | object fields =>
    "\x7b" ++ String.intercalate separators.item (printFields separators fields) ++ "\x7d"

def printItems (separators : Separators) : List Json → List String
  | [] => []
  | item :: rest => item.print separators :: printItems separators rest

def printFields (separators : Separators) : List (String × Json) → List String
  | [] => []
  | (_, misnamed key value) :: rest =>
    (quotedCodes key ++ separators.key ++ value.print separators) :: printFields separators rest
  | (key, value) :: rest =>
    (quotedString key ++ separators.key ++ value.print separators) :: printFields separators rest

end

end Json

end OrderDesk
