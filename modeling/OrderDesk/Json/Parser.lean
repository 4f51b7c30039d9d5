import OrderDesk.Json.Value

/-!
Reading JSON. A failure tells the place where reading stopped, counted in code points from the
start of the text. `NaN`, `Infinity` and `-Infinity` are read as doubles, and the last value of a
repeated key wins.
-/

namespace OrderDesk

namespace Json

open Text (CodePoint)

inductive ParseError
  | malformed (offset : Nat)
  | integerTooLong (digits : Nat)
  | nestedTooDeeply
  deriving DecidableEq, Repr

/-- What a reader accepts, and what it makes of numbers. -/
structure Reading where
  /-- How deeply lists and objects may be nested, if that is limited. -/
  maxDepth : Option Nat := none
  /-- Whether a list or object without members counts as a level. -/
  countsEmpty : Bool := true
  /-- Whether a text may hold a half of a surrogate pair. -/
  allowsHalves : Bool := true
  /-- Whether a number stands for its own written form. -/
  keepsNumbers : Bool := false
  deriving DecidableEq, Repr

def Reading.allowsDepth (reading : Reading) (depth : Nat) : Bool :=
  reading.maxDepth.all (depth ≤ ·)

structure Cursor where
  offset : Nat
  rest : List CodePoint

namespace Cursor

def start (source : List CodePoint) : Cursor := ⟨0, source⟩

def drop (cursor : Cursor) (count : Nat) : Cursor :=
  ⟨cursor.offset + count, cursor.rest.drop count⟩

def isSpace (code : CodePoint) : Bool :=
  code == .char ' ' || code == .char '\t' || code == .char '\n' || code == .char '\r'

def skipSpaces (cursor : Cursor) : Cursor :=
  cursor.drop (cursor.rest.takeWhile isSpace).length

def skip? (cursor : Cursor) (word : List CodePoint) : Option Cursor :=
  if word.isPrefixOf cursor.rest then some (cursor.drop word.length) else none

end Cursor

def hexValue? : CodePoint → Option Nat
  | .half _ => none
  | .char character =>
    if '0' ≤ character ∧ character ≤ '9' then some (character.toNat - '0'.toNat)
    else if 'a' ≤ character ∧ character ≤ 'f' then some (character.toNat - 'a'.toNat + 10)
    else if 'A' ≤ character ∧ character ≤ 'F' then some (character.toNat - 'A'.toNat + 10)
    else none

def hexQuad? : List CodePoint → Option Nat
  | first :: second :: third :: fourth :: _ => do
    return 4096 * (← hexValue? first) + 256 * (← hexValue? second) +
      16 * (← hexValue? third) + (← hexValue? fourth)
  | _ => none

def shortEscape? : CodePoint → Option Char
  | .char '"' => some '"'
  | .char '\\' => some '\\'
  | .char '/' => some '/'
  | .char 'b' => some '\x08'
  | .char 'f' => some '\x0c'
  | .char 'n' => some '\n'
  | .char 'r' => some '\r'
  | .char 't' => some '\t'
  | _ => none

/-- The code point written by an escape whose backslash stands at `offset`, and the number of code
points the escape takes. Two escapes that write the halves of a pair write one character. -/
def readEscape (offset opening : Nat) : List CodePoint → Except ParseError (CodePoint × Nat)
  | [] => .error (.malformed opening)
  | .char 'u' :: rest =>
    -- Four digits and at least one more code point have to follow.
    if (rest.drop 4).isEmpty then .error (.malformed (offset + 1))
    else match hexQuad? rest with
      | none => .error (.malformed (offset + 1))
      | some code =>
        match rest.drop 4 with
        | .char '\\' :: .char 'u' :: tail =>
          if Text.isHighSurrogate code && !(tail.drop 4).isEmpty then
            match hexQuad? tail with
            | none => .error (.malformed (offset + 7))
            | some low =>
              if Text.isLowSurrogate low then
                .ok (.char (Char.ofNat (Text.joinSurrogates code low)), 12)
              else .ok (.ofNat code, 6)
          else .ok (.ofNat code, 6)
        | _ => .ok (.ofNat code, 6)
  | code :: _ =>
    match shortEscape? code with
    | some meant => .ok (.char meant, 2)
    | none => .error (.malformed offset)

def isControl : CodePoint → Bool
  | .char character => character.toNat < 0x20
  | .half _ => false

/-- The rest of a string whose opening quote stands at `opening`; `read` holds its code points so
far, the last one first. Fuel bounds the number of code points that can still be read. -/
def readString (fuel opening : Nat) (read : List CodePoint) (cursor : Cursor) :
    Except ParseError (List CodePoint × Cursor) :=
  match fuel, cursor.rest with
  | 0, _ => .error (.malformed opening)
  | _ + 1, [] => .error (.malformed opening)
  | _ + 1, .char '"' :: _ => .ok (read.reverse, cursor.drop 1)
  | fuel + 1, .char '\\' :: rest =>
    match readEscape cursor.offset opening rest with
    | .error failure => .error failure
    | .ok (code, length) => readString fuel opening (code :: read) (cursor.drop length)
  | fuel + 1, code :: _ =>
    if isControl code then .error (.malformed cursor.offset)
    else readString fuel opening (code :: read) (cursor.drop 1)

def ofCodes (codes : List CodePoint) : Json :=
  match Text.CodePoints.toText? codes with
  | some value => text value
  | none => unpaired codes

def putField (fields : Fields) (key : List CodePoint) (value : Json) : Fields :=
  match Text.CodePoints.toText? key with
  | some key => fields.put key value
  | none => fields.put (Text.CodePoints.shown key) (misnamed key value)

def checkHalves (reading : Reading) (opening : Nat) (codes : List CodePoint) :
    Except ParseError Unit :=
  if reading.allowsHalves || codes.all (·.char?.isSome) then .ok ()
  else .error (.malformed opening)

def isDigit : CodePoint → Bool
  | .char character => '0' ≤ character && character ≤ '9'
  | .half _ => false

def digitsValue (digits : List CodePoint) : Nat :=
  digits.foldl (fun number digit => 10 * number + (digit.shown.toNat - '0'.toNat)) 0

def fractionOf : List CodePoint → List CodePoint
  | .char '.' :: rest => rest.takeWhile isDigit
  | _ => []

def splitExponentSign : List CodePoint → Bool × Nat × List CodePoint
  | .char '-' :: rest => (true, 1, rest)
  | .char '+' :: rest => (false, 1, rest)
  | rest => (false, 0, rest)

def exponentOf? : List CodePoint → Option (Int × Nat)
  | mark :: rest =>
    if mark = .char 'e' ∨ mark = .char 'E' then
      let (negative, signLength, afterSign) := splitExponentSign rest
      let digits := afterSign.takeWhile isDigit
      if digits.isEmpty then none
      else
        let size : Int := digitsValue digits
        some (if negative then -size else size, 1 + signLength + digits.length)
    else none
  | [] => none

def wholePartOf : List CodePoint → List CodePoint
  | .char '0' :: _ => [.char '0']
  | codes => codes.takeWhile isDigit

structure Numeral where
  negative : Bool
  whole : List CodePoint
  fraction : List CodePoint
  exponent : Option Int
  length : Nat

namespace Numeral

def atFront? (source : List CodePoint) : Option Numeral :=
  let negative := source.head? == some (.char '-')
  let unsigned := if negative then source.drop 1 else source
  let whole := wholePartOf unsigned
  if whole.isEmpty then none
  else
    let afterWhole := unsigned.drop whole.length
    let fraction := fractionOf afterWhole
    let fractionLength := if fraction.isEmpty then 0 else fraction.length + 1
    let exponent := exponentOf? (afterWhole.drop fractionLength)
    some {
      negative, whole, fraction
      exponent := exponent.map (·.1)
      length := (if negative then 1 else 0) + whole.length + fractionLength +
        (exponent.map (·.2)).getD 0 }

def value (numeral : Numeral) : Except ParseError Json :=
  if numeral.fraction.isEmpty && numeral.exponent.isNone then
    if Text.maxIntegerDigits < numeral.whole.length then
      .error (.integerTooLong numeral.whole.length)
    else
      let size : Int := digitsValue numeral.whole
      .ok (int (if numeral.negative then -size else size))
  else
    .ok (float (Binary64.ofDecimal numeral.negative
      (digitsValue (numeral.whole ++ numeral.fraction))
      (numeral.exponent.getD 0 - numeral.fraction.length)))

end Numeral

def readNumber (reading : Reading) (cursor : Cursor) : Except ParseError (Json × Cursor) :=
  match Numeral.atFront? cursor.rest with
  | none => .error (.malformed cursor.offset)
  | some numeral => do
    let after := cursor.drop numeral.length
    if reading.keepsNumbers then
      return (text (Text.CodePoints.shown (cursor.rest.take numeral.length)), after)
    return (← numeral.value, after)

def literals : List (List CodePoint × Json) := [
  (Text.CodePoints.ofText "null", null),
  (Text.CodePoints.ofText "true", bool true),
  (Text.CodePoints.ofText "false", bool false),
  (Text.CodePoints.ofText "NaN", float .nan),
  (Text.CodePoints.ofText "Infinity", float (.infinite false)),
  (Text.CodePoints.ofText "-Infinity", float (.infinite true))]

def readScalar (reading : Reading) (cursor : Cursor) : Except ParseError (Json × Cursor) :=
  match literals.findSome? fun (word, value) => (cursor.skip? word).map (value, ·) with
  | some found => .ok found
  | none => readNumber reading cursor

mutual

/-- The value at the cursor, inside as many lists and objects as `depth` says. Fuel bounds the
number of code points that can still be read. -/
def readValue (reading : Reading) (fuel depth : Nat) (cursor : Cursor) :
    Except ParseError (Json × Cursor) :=
  match fuel with
  | 0 => .error (.malformed cursor.offset)
  | fuel + 1 =>
    match cursor.rest with
    | .char '"' :: _ => do
      let (codes, after) ← readString (fuel + 1) cursor.offset [] (cursor.drop 1)
      checkHalves reading cursor.offset codes
      return (ofCodes codes, after)
    | .char '[' :: _ =>
      let first := (cursor.drop 1).skipSpaces
      let isDeeper := !reading.allowsDepth (depth + 1)
      if isDeeper && reading.countsEmpty then .error .nestedTooDeeply
      else match first.rest with
        | .char ']' :: _ => .ok (list [], first.drop 1)
        | _ =>
          if isDeeper then .error .nestedTooDeeply else readItems reading fuel (depth + 1) [] first
    | .char '\x7b' :: _ =>
      let first := (cursor.drop 1).skipSpaces
      let isDeeper := !reading.allowsDepth (depth + 1)
      if isDeeper && reading.countsEmpty then .error .nestedTooDeeply
      else match first.rest with
        | .char '\x7d' :: _ => .ok (object [], first.drop 1)
        | _ =>
          if isDeeper then .error .nestedTooDeeply else readFields reading fuel (depth + 1) [] first
    | _ => readScalar reading cursor

def readItems (reading : Reading) (fuel depth : Nat) (items : List Json) (cursor : Cursor) :
    Except ParseError (Json × Cursor) :=
  match fuel with
  | 0 => .error (.malformed cursor.offset)
  | fuel + 1 => do
    let (item, after) ← readValue reading fuel depth cursor
    let next := after.skipSpaces
    match next.rest with
    | .char ']' :: _ => return (list (items ++ [item]), next.drop 1)
    | .char ',' :: _ => readItems reading fuel depth (items ++ [item]) (next.drop 1).skipSpaces
    | _ => .error (.malformed next.offset)

def readFields (reading : Reading) (fuel depth : Nat) (fields : Fields) (cursor : Cursor) :
    Except ParseError (Json × Cursor) :=
  match fuel with
  | 0 => .error (.malformed cursor.offset)
  | fuel + 1 =>
    match cursor.rest with
    | .char '"' :: _ => do
      let (key, afterKey) ← readString (fuel + 1) cursor.offset [] (cursor.drop 1)
      checkHalves reading cursor.offset key
      let colon := afterKey.skipSpaces
      match colon.rest with
      | .char ':' :: _ =>
        let (value, after) ← readValue reading fuel depth (colon.drop 1).skipSpaces
        let next := after.skipSpaces
        let fields := putField fields key value
        match next.rest with
        | .char '\x7d' :: _ => return (object fields, next.drop 1)
        | .char ',' :: _ => readFields reading fuel depth fields (next.drop 1).skipSpaces
        | _ => .error (.malformed next.offset)
      | _ => .error (.malformed colon.offset)
    | _ => .error (.malformed cursor.offset)

end

def parseCodes (reading : Reading) (source : List CodePoint) : Except ParseError Json := do
  let (value, after) ←
    readValue reading (2 * source.length + 2) 0 (Cursor.start source).skipSpaces
  let rest := after.skipSpaces
  if rest.rest.isEmpty then return value else .error (.malformed rest.offset)

def parse (source : String) (reading : Reading := {}) : Except ParseError Json :=
  parseCodes reading (Text.CodePoints.ofText source)

end Json

end OrderDesk
