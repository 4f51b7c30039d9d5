/-! Blank characters of every script, trimming them from both ends of a text, and finding a text
inside another one. -/

namespace OrderDesk.Text

/-! ## Blanks -/

/-- White space in the sense of the Unicode bidirectional classes B, S and WS and category Zs. -/
def isBlank (character : Char) : Bool :=
  let code := character.val
  (9 ≤ code && code ≤ 13) || (0x1C ≤ code && code ≤ 0x20) || code == 0x85 || code == 0xA0 ||
    code == 0x1680 || (0x2000 ≤ code && code ≤ 0x200A) || code == 0x2028 || code == 0x2029 ||
    code == 0x202F || code == 0x205F || code == 0x3000

theorem isBlank_of_isWhitespace {character : Char} (blank : character.isWhitespace) :
    isBlank character := by
  simp only [Char.isWhitespace, Bool.or_eq_true, decide_eq_true_eq] at blank
  rcases blank with ((blank | blank) | blank) | blank <;> subst blank <;> decide

def dropBlanks (characters : List Char) : List Char :=
  characters.dropWhile isBlank

def dropTrailingBlanks (characters : List Char) : List Char :=
  (dropBlanks characters.reverse).reverse

def trimChars (characters : List Char) : List Char :=
  dropTrailingBlanks (dropBlanks characters)

def trim (text : String) : String :=
  String.ofList (trimChars text.toList)

def trim? (text : Option String) : String :=
  trim (text.getD "")

def truncate (count : Nat) (text : String) : String :=
  String.ofList (text.toList.take count)

def nonEmpty? (text : String) : Option String :=
  if text = "" then none else some text

def orElse (first second : String) : String :=
  if first = "" then second else first

/-! ## Finding a text inside another one -/

def occursIn (part : List Char) : List Char → Bool
  | [] => part.isEmpty
  | first :: rest => part.isPrefixOf (first :: rest) || occursIn part rest

theorem occursIn_iff {part whole : List Char} : occursIn part whole = true ↔ part <:+: whole := by
  induction whole with
  | nil => rw [occursIn, List.isEmpty_iff, List.infix_nil]
  | cons first rest induction =>
    rw [occursIn, Bool.or_eq_true, List.isPrefixOf_iff_prefix, induction, List.infix_cons_iff]

example : occursIn "rd-1".toList "ord-17".toList = true := by decide

end OrderDesk.Text
