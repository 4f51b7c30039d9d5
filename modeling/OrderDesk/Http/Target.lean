import OrderDesk.Bytes.Basic
import OrderDesk.Text.Quoted

/-! The target of a request: its path and its query, and the escapes in them. -/

namespace OrderDesk.Http

def hexDigit? (character : Char) : Option Nat :=
  let code := character.toNat
  if '0'.toNat ≤ code ∧ code ≤ '9'.toNat then some (code - '0'.toNat)
  else if 'a'.toNat ≤ code ∧ code ≤ 'f'.toNat then some (code - 'a'.toNat + 10)
  else if 'A'.toNat ≤ code ∧ code ≤ 'F'.toNat then some (code - 'A'.toNat + 10)
  else none

def unescapeBytes : List Char → Bytes
  | '%' :: high :: low :: rest =>
    match hexDigit? high, hexDigit? low with
    | some high, some low => UInt8.ofNat (16 * high + low) :: unescapeBytes rest
    | _, _ => Bytes.ofText "%" ++ unescapeBytes (high :: low :: rest)
  | character :: rest => Bytes.ofText (String.singleton character) ++ unescapeBytes rest
  | [] => []

def unescape (text : List Char) : String :=
  Bytes.readText (unescapeBytes text)

def needsEscape (character : Char) : Bool :=
  character.toNat ≤ 0x20 || 0x7F ≤ character.toNat || character == '"' || character == '<' ||
    character == '>'

def escapeByte (byte : UInt8) : List Char :=
  '%' :: (Text.hexDigits 2 byte.toNat).map Char.toUpper

def escape (text : List Char) : List Char :=
  text.flatMap fun character =>
    if needsEscape character then
      (Bytes.ofText (String.singleton character)).flatMap escapeByte
    else [character]

/-- Where a request goes. The path is unescaped, the query is kept as it is sent. -/
structure Target where
  path : String
  query : String
  deriving DecidableEq, Repr

namespace Target

/-- A fragment after a number sign is not sent. -/
def parse (url : String) : Target :=
  let sent := url.toList.takeWhile (· != '#')
  let path := sent.takeWhile (· != '?')
  { path := unescape path
    query := String.ofList (escape (sent.drop (path.length + 1))) }

def isLineMark (character : Char) : Bool :=
  character == '\t' || character == '\n' || character == '\r'

/-- The target that a signature covers: the unescaped path and the query, put together and taken
apart once more. -/
def resplit (target : Target) : Target :=
  let query := if target.query = "" then "" else "?" ++ target.query
  let whole := (target.path ++ query).toList.filter (!isLineMark ·)
  let sent := whole.takeWhile (· != '#')
  let path := sent.takeWhile (· != '?')
  { path := String.ofList path
    query := String.ofList (sent.drop (path.length + 1)) }

def unescapeField (text : List Char) : String :=
  unescape (text.map fun character => if character = '+' then ' ' else character)

/-- The fields of a query. A field without a sign between name and value has an empty value. -/
def fields (query : String) : List (String × String) :=
  ((query.toList.splitOn '&').filter (!·.isEmpty)).map fun field =>
    let name := field.takeWhile (· != '=')
    (unescapeField name, unescapeField (field.drop (name.length + 1)))

end Target

end OrderDesk.Http
