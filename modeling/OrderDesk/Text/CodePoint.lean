/-!
Code points of a text that may hold halves of surrogate pairs. Such a half is no character, so a
text with one in it has no UTF-8 form.
-/

namespace OrderDesk.Text

/-- A character, or a half of a surrogate pair that stands alone. -/
inductive CodePoint
  | char (character : Char)
  | half (code : Nat)
  deriving DecidableEq, Repr

def isHighSurrogate (code : Nat) : Bool := 0xD800 ≤ code && code ≤ 0xDBFF
def isLowSurrogate (code : Nat) : Bool := 0xDC00 ≤ code && code ≤ 0xDFFF

def joinSurrogates (high low : Nat) : Nat :=
  0x10000 + (high - 0xD800) * 0x400 + (low - 0xDC00)

namespace CodePoint

def ofNat (code : Nat) : CodePoint :=
  if isHighSurrogate code || isLowSurrogate code then half code else char (Char.ofNat code)

def char? : CodePoint → Option Char
  | char character => some character
  | half _ => none

def shown : CodePoint → Char
  | char character => character
  | half _ => '\ufffd'

end CodePoint

namespace CodePoints

def ofText (text : String) : List CodePoint :=
  text.toList.map .char

def toText? (codes : List CodePoint) : Option String :=
  (codes.mapM CodePoint.char?).map String.ofList

def shown (codes : List CodePoint) : String :=
  String.ofList (codes.map CodePoint.shown)

theorem mapM_char? (characters : List Char) :
    (characters.map CodePoint.char).mapM CodePoint.char? = some characters := by
  induction characters with
  | nil => rfl
  | cons first rest induction => simp [CodePoint.char?, induction]

theorem toText?_ofText (text : String) : toText? (ofText text) = some text := by
  rw [toText?, ofText, mapM_char?]
  simp

end CodePoints

end OrderDesk.Text
