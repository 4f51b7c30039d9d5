import OrderDesk.Bytes.Basic
import OrderDesk.Proofs.Gate.Signed
import OrderDesk.Proofs.Text.Case

/-!
What a signature at the gate covers. The text that is signed has one line for each field, and no
field but the body can break a line; the body is in Base64. So the text tells all fields apart, and
one signature for two calls that differ is a collision of the authenticator.
-/

namespace OrderDesk

theorem Text.newline_mem_upper {text : String} (member : '\n' ∈ (upper text).toList) :
    '\n' ∈ text.toList := by
  rw [upper, String.toList_ofList] at member
  rcases List.mem_flatMap.mp member with ⟨character, present, inside⟩
  -- only a blank becomes a blank, and blanks have no case
  have blank : isBlank character = true := (isBlank_upperChar inside).symm
  have fixed : upperChar character = [character] :=
    (upperChar_cases character).resolve_right fun cased => by simp [blank] at cased
  rw [fixed, List.mem_singleton] at inside
  rwa [inside]

theorem Base64.encode_inj {first second : Bytes} :
    encode first = encode second ↔ first = second := by
  constructor
  · intro same
    have decoded := congrArg decode? same
    rw [decode?_encode, decode?_encode] at decoded
    exact Option.some.inj decoded
  · rintro rfl
    rfl

namespace Gate

/-- The fields that a signature covers. -/
structure Covered where
  method : String
  path : String
  rawQuery : String
  timestamp : String
  nonce : String
  body : Bytes

namespace Covered

/-- What a signature has to cover for a call to pass. -/
def ofCall (call : GateCall) : Covered where
  method := call.method
  path := call.path
  rawQuery := call.rawQuery
  timestamp := call.headers.value timestampHeader
  nonce := call.headers.value nonceHeader
  body := call.body

def text (fields : Covered) : String :=
  canonicalText fields.method fields.path fields.rawQuery fields.timestamp fields.nonce fields.body

def lines (fields : Covered) : List String :=
  [Text.upper fields.method, fields.path, fields.rawQuery, fields.timestamp, fields.nonce,
    Base64.encode fields.body]

structure OnLines (fields : Covered) : Prop where
  method : '\n' ∉ fields.method.toList
  path : '\n' ∉ fields.path.toList
  rawQuery : '\n' ∉ fields.rawQuery.toList
  timestamp : '\n' ∉ fields.timestamp.toList
  nonce : '\n' ∉ fields.nonce.toList

/-- The same call, up to the case in which its method is written. -/
structure Same (first second : Covered) : Prop where
  method : Text.upper first.method = Text.upper second.method
  path : first.path = second.path
  rawQuery : first.rawQuery = second.rawQuery
  timestamp : first.timestamp = second.timestamp
  nonce : first.nonce = second.nonce
  body : first.body = second.body

/-- Two different texts that have the same tag under a secret. -/
def Collide (mac : Mac) (secret : String) (first second : Covered) : Prop :=
  Bytes.ofText first.text ≠ Bytes.ofText second.text ∧
    mac (Bytes.ofText secret) (Bytes.ofText first.text) =
      mac (Bytes.ofText secret) (Bytes.ofText second.text)

variable {first second : Covered} {mac : Mac} {secret : String}

theorem text_eq_intercalate (fields : Covered) : fields.text = String.intercalate "\n" fields.lines :=
  rfl

theorem OnLines.whole (plain : first.OnLines) : ∀ line ∈ first.lines, '\n' ∉ line.toList := by
  simp only [lines, List.forall_mem_cons]
  refine ⟨?_, plain.path, plain.rawQuery, plain.timestamp, plain.nonce, ?_, by simp⟩
  · intro member
    exact plain.method (Text.newline_mem_upper member)
  · intro member
    have unblank := Base64.unblank_encode first.body '\n' member
    exact absurd unblank (by decide)

theorem splitOn_text (plain : first.OnLines) :
    first.text.toList.splitOn '\n' = first.lines.map String.toList := by
  rw [text_eq_intercalate, String.toList_intercalate]
  refine List.splitOn_intercalate '\n' ?_ (by simp [lines])
  simpa using plain.whole

theorem same_of_lines (equal : first.lines = second.lines) : first.Same second := by
  simp only [lines, List.cons.injEq, Base64.encode_inj] at equal
  obtain ⟨method, path, rawQuery, timestamp, nonce, body, -⟩ := equal
  exact ⟨method, path, rawQuery, timestamp, nonce, body⟩

theorem Same.text_eq (same : first.Same second) : first.text = second.text := by
  rw [text, text, canonicalText, canonicalText, same.method, same.path, same.rawQuery,
    same.timestamp, same.nonce, same.body]

theorem text_eq_iff (plain : first.OnLines) (also : second.OnLines) :
    first.text = second.text ↔ first.Same second := by
  constructor
  · intro equal
    have lines : first.lines.map String.toList = second.lines.map String.toList := by
      rw [← splitOn_text plain, ← splitOn_text also, equal]
    exact same_of_lines (List.map_injective_iff.mpr (fun _ _ => String.toList_inj.mp) lines)
  · exact Same.text_eq

theorem same_or_collide (plain : first.OnLines) (also : second.OnLines)
    (signed : sign mac secret first.text = sign mac secret second.text) :
    first.Same second ∨ Collide mac secret first second := by
  have tags := Base64.encode_inj.mp signed
  by_cases equal : first.text = second.text
  · exact Or.inl ((text_eq_iff plain also).mp equal)
  · exact Or.inr ⟨fun bytes => equal (Bytes.ofText_inj.mp bytes), tags⟩

end Covered

theorem signature_of_passed {suite : CipherSuite} {setting : GateSetting} {judge : TimeJudge}
    {call : GateCall} {plaintext : Bytes} (active : setting.isActive = true)
    (passed : verifyBy suite setting judge call = .ok plaintext) :
    call.headers.value signatureHeader =
      sign suite.mac setting.apiSecret (Covered.ofCall call).text :=
  ((verifyBy_eq_ok active).mp passed).2.2.2.1

/-- The text under a signature is the same exactly for the same call. One signature for two sets of
fields is a collision unless they make the same call, and so are two calls that an active gate lets
pass, at whatever times, under one signature. -/
theorem signature_covers_one_call (suite : CipherSuite) {first second : Covered}
    (plain : first.OnLines) (also : second.OnLines) :
    (first.text = second.text ↔ first.Same second) ∧
    (∀ secret, sign suite.mac secret first.text = sign suite.mac secret second.text →
      first.Same second ∨ Covered.Collide suite.mac secret first second) ∧
    (∀ (setting : GateSetting) (judge later : TimeJudge) (call other : GateCall)
      (plaintext otherPlaintext : Bytes), setting.isActive = true →
        Covered.ofCall call = first → Covered.ofCall other = second →
        verifyBy suite setting judge call = .ok plaintext →
        verifyBy suite setting later other = .ok otherPlaintext →
        call.headers.value signatureHeader = other.headers.value signatureHeader →
        first.Same second ∨ Covered.Collide suite.mac setting.apiSecret first second) := by
  refine ⟨Covered.text_eq_iff plain also, fun secret => Covered.same_or_collide plain also, ?_⟩
  rintro setting judge later call other plaintext otherPlaintext active rfl rfl passed passes same
  rw [signature_of_passed active passed, signature_of_passed active passes] at same
  exact Covered.same_or_collide plain also same

def sampleCovered : Covered := ⟨"post", "/orders", "page=1", "1772366390", "n-1", [0x7b, 0x7d]⟩
def sampleShifted : Covered := ⟨"POST", "/orderspage=1", "", "1772366390", "n-1", [0x7b, 0x7d]⟩

theorem sample_shifted_not_covered :
    (sampleCovered.OnLines ∧ sampleShifted.OnLines) ∧ sampleCovered.text ≠ sampleShifted.text := by
  have plain : sampleCovered.OnLines := by constructor <;> decide
  have shifted : sampleShifted.OnLines := by constructor <;> decide
  refine ⟨⟨plain, shifted⟩, fun equal => ?_⟩
  have same := ((signature_covers_one_call .standard plain shifted).1).mp equal
  exact absurd same.path (by decide)

end Gate

end OrderDesk
