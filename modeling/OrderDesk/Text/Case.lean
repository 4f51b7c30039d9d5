import OrderDesk.Text.Basic
import OrderDesk.Text.CaseTable

/-! Lower and upper case of a text by the full Unicode rules. -/

namespace OrderDesk.Text

namespace CaseRun

def covers (run : CaseRun) (code : Nat) : Bool :=
  run.first ≤ code && code ≤ run.last && (code - run.first) % run.step == 0

def partner (run : CaseRun) (code : Nat) : Char :=
  Char.ofNat (code + run.shift).toNat

end CaseRun

def shiftCase (runs : List CaseRun) (character : Char) : Char :=
  match runs.find? (·.covers character.toNat) with
  | some run => run.partner character.toNat
  | none => character

def isWithin (ranges : List (Nat × Nat)) (character : Char) : Bool :=
  ranges.any fun (first, last) => first ≤ character.toNat && character.toNat ≤ last

def meetsCased (characters : List Char) : Bool :=
  match characters.dropWhile (isWithin caseIgnorableRanges) with
  | nearest :: _ => isWithin casedRanges nearest
  | [] => false

/-- The lower case of one character. The capital sigma at the end of a word has a form of its own,
so the characters before (nearest first) and after it matter. -/
def lowerChar (before : List Char) (character : Char) (after : List Char) : List Char :=
  if character.toNat < 0x80 then [character.toLower]
  else if character = 'Σ' then [if meetsCased before && !meetsCased after then 'ς' else 'σ']
  else if character = 'İ' then ['i', '\u0307']
  else [shiftCase lowerCaseRuns character]

def lowerChars (before : List Char) : List Char → List Char
  | [] => []
  | character :: after =>
    lowerChar before character after ++ lowerChars (character :: before) after

def upperChar (character : Char) : List Char :=
  if character.toNat < 0x80 then [character.toUpper]
  else match longUpperCases.find? (·.1 == character.toNat) with
    | some (_, codes) => codes.map Char.ofNat
    | none => [shiftCase upperCaseRuns character]

def lower (text : String) : String :=
  String.ofList (lowerChars [] text.toList)

def upper (text : String) : String :=
  String.ofList (text.toList.flatMap upperChar)

/-- Lower case of the ASCII letters alone, the folding that stored texts are compared with. -/
def lowerAscii (text : String) : String :=
  String.ofList (text.toList.map Char.toLower)

/-- The form in which words typed by people are compared: trimmed and in lower case. A missing
text counts as the empty one. -/
def keyword (text : Option String) : String :=
  lower (trim? text)

def currencyCode (text : Option String) : String :=
  upper (trim? text)

end OrderDesk.Text
