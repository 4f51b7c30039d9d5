import OrderDesk.Gate.Basic
import OrderDesk.Http.Field
import OrderDesk.Http.Target
import OrderDesk.Json.Encoding
import OrderDesk.Json.Parser
import OrderDesk.Json.Printer

/-! Requests as they arrive, and responses. -/

namespace OrderDesk.Http

structure Request where
  method : String
  target : Target
  /-- Names of headers in lower case, each once. -/
  headers : List (String × String) := []
  /-- The address of the connection. -/
  client : Option String := none
  body : Bytes := []

namespace Request

def lookup (request : Request) : Headers := fun name =>
  Headers.ofList request.headers (Text.lowerAscii name)

/-- The fields of the query, where the last of equal names counts. -/
def query (request : Request) : Source where
  place := "query"
  fields := (Target.fields request.target.query).foldl
    (fun fields (name, value) => fields.put name (.text value)) []

end Request

inductive Content
  | json (value : Json)
  | text (text : String)
  deriving Repr

structure Response where
  status : Nat
  content : Content
  deriving Repr

namespace Response

def failed : Response := ⟨500, .text "Internal Server Error"⟩

/-- A response in JSON, which knows no infinite numbers and no halves of surrogate pairs. -/
def json (status : Nat) (value : Json) : Response :=
  if value.isSendable then ⟨status, .json value⟩ else failed

def detail (status : Nat) (text : String) : Response :=
  .json status (.object [("detail", .text text)])

end Response

/-! ## The body -/

inductive Body
  | empty
  | value (value : Json)
  /-- bytes that are not declared to be JSON -/
  | plain (bytes : Bytes)
  deriving Repr

inductive BodyFault
  | malformed (offset : Nat)
  | unreadable
  deriving DecidableEq, Repr

namespace Body

def mediaType (header : String) : String :=
  Text.keyword (String.ofList (header.toList.takeWhile (· != ';')))

/-- A body counts as JSON if it is declared as such, or not declared at all. A media type has one
slash. -/
def isJson (contentType : String) : Bool :=
  let type := mediaType contentType
  contentType == "" || type == "application/json" ||
    (type.startsWith "application/" && type.endsWith "+json" && type.toList.count '/' == 1)

def reading : Json.Reading := { maxDepth := some 955 }

def parseJson (bytes : Bytes) : Except BodyFault Json :=
  match Json.codesOfBytes? bytes with
  | none => .error .unreadable
  | some codes =>
    match Json.parseCodes reading codes with
    | .ok json => .ok json
    | .error (.malformed offset) => .error (.malformed offset)
    | .error _ => .error .unreadable

def ofRequest (request : Request) : Except BodyFault Body :=
  if request.body.isEmpty then .ok .empty
  else if isJson ((request.lookup "content-type").getD "") then
    (parseJson request.body).map .value
  else .ok (.plain request.body)

def place : Json := .text "body"

def source (fields : Fields) : Source := ⟨"body", fields⟩

def required {α : Type} (fields : Source → Checked α) : Body → Checked α
  | .empty => .invalid [.ofInput [place] .missing .null]
  | .value (.object object) => fields (source object)
  | .value other => .invalid [.ofInput [place] .modelAttributesType other]
  | .plain bytes =>
    .invalid [⟨[place], .modelAttributesType, (Bytes.toText? bytes).isSome⟩]

def optional {α : Type} (absent : α) (fields : Source → Checked α) : Body → Checked α
  | .empty => .valid absent
  | .value .null => .valid absent
  | body => required fields body

end Body

end OrderDesk.Http
