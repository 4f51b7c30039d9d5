import OrderDesk.Json.Value

/-! What may be wrong with the fields of a request, and collecting all of it. -/

namespace OrderDesk.Http

inductive IssueKind
  | jsonInvalid
  | missing
  | modelAttributesType
  | intType
  | intParsing
  | intParsingSize
  | intFromFloat
  | finiteNumber
  | greaterThanEqual
  | boolType
  | boolParsing
  | stringType
  | stringUnicode
  | stringTooLong
  | dictType
  deriving DecidableEq, Repr

namespace IssueKind

def name : IssueKind → String
  | jsonInvalid => "json_invalid"
  | missing => "missing"
  | modelAttributesType => "model_attributes_type"
  | intType => "int_type"
  | intParsing => "int_parsing"
  | intParsingSize => "int_parsing_size"
  | intFromFloat => "int_from_float"
  | finiteNumber => "finite_number"
  | greaterThanEqual => "greater_than_equal"
  | boolType => "bool_type"
  | boolParsing => "bool_parsing"
  | stringType => "string_type"
  | stringUnicode => "string_unicode"
  | stringTooLong => "string_too_long"
  | dictType => "dict_type"

end IssueKind

structure Issue where
  location : List Json
  kind : IssueKind
  /-- Whether the value that is wrong can be sent back. -/
  isSendable : Bool := true
  deriving Repr

namespace Issue

def ofInput (location : List Json) (kind : IssueKind) (input : Json) : Issue :=
  ⟨location, kind, input.isSendable⟩

def json (issue : Issue) : Json := .object [
  ("loc", .list issue.location),
  ("type", .text issue.kind.name)]

end Issue

inductive Checked (α : Type)
  | valid (value : α)
  | invalid (issues : List Issue)
  deriving Repr

namespace Checked

variable {α β : Type}

def map (f : α → β) : Checked α → Checked β
  | valid value => valid (f value)
  | invalid issues => invalid issues

/-- Both sides are checked; what is wrong with the first comes first. -/
def seq (f : Checked (α → β)) (checked : Checked α) : Checked β :=
  match f, checked with
  | valid f, valid value => valid (f value)
  | valid _, invalid issues => invalid issues
  | invalid issues, valid _ => invalid issues
  | invalid first, invalid second => invalid (first ++ second)

instance : Functor Checked where
  map := map

instance : Applicative Checked where
  pure := valid
  seq f checked := seq f (checked ())

def both (first : Checked α) (second : Checked β) : Checked (α × β) :=
  Prod.mk <$> first <*> second

end Checked

end OrderDesk.Http
