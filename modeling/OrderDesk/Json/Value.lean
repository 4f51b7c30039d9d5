import OrderDesk.Decimal.Shortest
import OrderDesk.Failure
import OrderDesk.Text.CodePoint
import OrderDesk.Text.Integer
import OrderDesk.Text.Quoted

/-!
JSON values with objects in insertion order, and whole numbers kept apart from doubles. JSON can
write texts with halves of surrogate pairs in them; such texts are kept apart from all others.
-/

namespace OrderDesk

inductive Json
  | null
  | bool (value : Bool)
  | int (value : Int)
  | float (value : Binary64)
  | text (value : String)
  /-- a text with a half of a surrogate pair in it -/
  | unpaired (codes : List Text.CodePoint)
  | list (items : List Json)
  | object (fields : List (String × Json))
  /-- the value of a field whose key has such a half in it and is only shown in its place -/
  | misnamed (key : List Text.CodePoint) (value : Json)
  deriving Repr, BEq

/-- The fields of an object, each key once, in the order of their first insertion. -/
abbrev Fields := List (String × Json)

namespace Fields

def get? (fields : Fields) (key : String) : Option Json :=
  (fields.find? (·.1 == key)).map (·.2)

/-- Sets a key; a key that is present keeps its place. -/
def put : Fields → String → Json → Fields
  | [], key, value => [(key, value)]
  | (present, old) :: rest, key, value =>
    if present = key then (key, value) :: rest else (present, old) :: put rest key value

def putAll (fields : Fields) (values : Fields) : Fields :=
  values.foldl (fun merged (key, value) => merged.put key value) fields

theorem get?_put (fields : Fields) (key other : String) (value : Json) :
    (fields.put key value).get? other = if key = other then some value else fields.get? other := by
  induction fields with
  | nil => by_cases same : key = other <;> simp [put, get?, same]
  | cons field rest induction =>
    obtain ⟨present, old⟩ := field
    simp only [get?] at induction
    by_cases here : present = key <;> by_cases same : key = other <;>
      by_cases first : present = other <;> simp_all [put, get?]

end Fields

namespace Json

instance : Inhabited Json := ⟨null⟩

def ofOption {α : Type} (encode : α → Json) : Option α → Json
  | some value => encode value
  | none => null

def ofText? (value : Option String) : Json :=
  ofOption text value

def ofInt? (value : Option Int) : Json :=
  ofOption int value

def text? : Json → Option String
  | text value => some value
  | _ => none

/-- The value of a field, without the mark on one whose key cannot be written. -/
def unmarked : Json → Json
  | misnamed _ value => value
  | value => value

def keyOf : String × Json → Json
  | (_, misnamed key _) => unpaired key
  | (key, _) => text key

def ofCode : Text.CodePoint → Json
  | .char character => text (String.singleton character)
  | half => unpaired [half]

/-- The members of a collection: the items of a list, the keys of an object, the characters of a
text. -/
def members? : Json → Option (List Json)
  | list items => some items
  | object fields => some (fields.map keyOf)
  | text value => some ((Text.CodePoints.ofText value).map ofCode)
  | unpaired codes => some (codes.map ofCode)
  | _ => none

/-- Whether a value stands for something: not null, false, a zero or an empty text, list or
object. -/
def isPresent : Json → Bool
  | null => false
  | bool value => value
  | int value => value != 0
  | float value => !value.isZero
  | text value => value != ""
  | unpaired _ => true
  | list items => !items.isEmpty
  | object fields => !fields.isEmpty
  | misnamed _ value => value.isPresent

def membersIfPresent? (value : Json) : Option (List Json) :=
  if value.isPresent then value.members? else some []

mutual

/-- Whether a value can be sent: every double in it is finite and every text has a UTF-8 form. -/
def isSendable : Json → Bool
  | float value => value.isFinite
  | unpaired _ | misnamed .. => false
  | list items => areSendable items
  | object fields => areFieldsSendable fields
  | _ => true

def areSendable : List Json → Bool
  | [] => true
  | item :: rest => item.isSendable && areSendable rest

def areFieldsSendable : List (String × Json) → Bool
  | [] => true
  | (_, value) :: rest => value.isSendable && areFieldsSendable rest

end

mutual

def shown : Json → String
  | null => "None"
  | bool value => if value then "True" else "False"
  | int value => toString value
  | float value => value.text
  | text value => Text.quoted value
  | unpaired codes => Text.quoted (Text.CodePoints.shown codes)
  | misnamed _ value => value.shown
  | list items => "[" ++ String.intercalate ", " (shownItems items) ++ "]"
  | object fields => "\x7b" ++ String.intercalate ", " (shownFields fields) ++ "\x7d"

def shownItems : List Json → List String
  | [] => []
  | item :: rest => item.shown :: shownItems rest

def shownFields : List (String × Json) → List String
  | [] => []
  | (key, value) :: rest => (Text.quoted key ++ ": " ++ value.shown) :: shownFields rest

end

def display : Json → String
  | text value => value
  | value => value.shown

/-! ## The numbers that a value stands for -/

/-- The whole number that a value stands for. Numbers lose their fraction, truth values count as
one and zero, and texts are read. -/
def integer : Json → Except IntegerFault Int
  | bool value => .ok (if value then 1 else 0)
  | int value => .ok value
  | float value =>
    match value with
    | .nan => .error .notNumber
    | .infinite _ => .error .infinite
    | value => .ok (value.truncate?.getD 0)
  | text value => (Text.readInteger value).mapError (.ofText value)
  | unpaired codes => .error (.malformed (Text.CodePoints.shown codes))
  | null | list _ | object _ | misnamed .. => .error .notConvertible

def integerOrZero (value : Json) : Except Fault Int :=
  if value.isPresent then value.integer.mapError .integer else .ok 0

def double : Json → Except Fault Binary64
  | float value => .ok value
  | int value => if Binary64.holdsInt value then .ok (.ofInt value) else .error .floatOverflow
  | bool value => .ok (.ofInt (if value then 1 else 0))
  | _ => .error .notReal

end Json

end OrderDesk
