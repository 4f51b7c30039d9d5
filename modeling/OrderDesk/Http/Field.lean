import OrderDesk.Http.IntegerText
import OrderDesk.Http.Issue
import OrderDesk.Text.Case

/-!
Reading typed fields out of JSON values, leniently: whole numbers and truth values may also be
written as texts or as numbers of another kind.
-/

namespace OrderDesk.Http

abbrev Reader (α : Type) := Json → Except IssueKind α

namespace Reader

/-- The size from which whole numbers take more than 64 bits. -/
def wordLimit : Int := 0x8000000000000000

def wholeFloat (value : Binary64) : Except IssueKind Int :=
  match value.truncate? with
  | none => .error .finiteNumber
  | some whole =>
    if !value.isWhole then .error .intFromFloat
    else if -wordLimit < whole ∧ whole < wordLimit then .ok whole
    else .error .intParsingSize

def integer : Reader Int
  | .int value => .ok value
  | .bool value => .ok (if value then 1 else 0)
  | .float value => wholeFloat value
  | .text text =>
    match IntegerText.read? text with
    | some value => .ok value
    | none => .error .intParsing
  | .unpaired _ => .error .stringUnicode
  | _ => .error .intType

def integerFrom (bound : Int) : Reader Int := fun value => do
  let number ← integer value
  if number < bound then throw .greaterThanEqual
  return number

def falseWords : List String := ["0", "off", "f", "false", "n", "no"]
def trueWords : List String := ["1", "on", "t", "true", "y", "yes"]

def flagOfInt (number : Int) : Except IssueKind Bool :=
  if number = 0 then .ok false
  else if number = 1 then .ok true
  else .error .boolParsing

def flag : Reader Bool
  | .bool value => .ok value
  | .text text =>
    let word := Text.lowerAscii text
    if word ∈ falseWords then .ok false
    else if word ∈ trueWords then .ok true
    else .error .boolParsing
  | .int value =>
    if -wordLimit ≤ value ∧ value < wordLimit then flagOfInt value else .error .boolType
  | .float value =>
    match wholeFloat value with
    | .ok whole => flagOfInt whole
    | .error _ => .error .boolType
  | .unpaired _ => .error .stringUnicode
  | _ => .error .boolType

def text : Reader String
  | .text text => .ok text
  | .unpaired _ => .error .stringUnicode
  | _ => .error .stringType

def textUpTo (limit : Nat) : Reader String := fun value => do
  let text ← text value
  if limit < text.length then throw .stringTooLong
  return text

def dictionary : Reader Fields
  | .object fields => .ok fields
  | _ => .error .dictType

def nullable {α : Type} (reader : Reader α) : Reader (Option α)
  | .null => .ok none
  | value => (reader value).map some

end Reader

structure Source where
  place : String
  fields : Fields

namespace Source

variable {α : Type}

def read (source : Source) (name : String) (reader : Reader α) (value : Json) : Checked α :=
  match reader value with
  | .ok value => .valid value
  | .error kind => .invalid [.ofInput [.text source.place, .text name] kind value]

def required (source : Source) (name : String) (reader : Reader α) : Checked α :=
  match source.fields.get? name with
  | some value => source.read name reader value
  | none =>
    .invalid [.ofInput [.text source.place, .text name] .missing (.object source.fields)]

def withDefault (source : Source) (name : String) (absent : α) (reader : Reader α) : Checked α :=
  match source.fields.get? name with
  | some value => source.read name reader value
  | none => .valid absent

def optional (source : Source) (name : String) (reader : Reader α) : Checked (Option α) :=
  source.withDefault name none (Reader.nullable reader)

end Source

end OrderDesk.Http
