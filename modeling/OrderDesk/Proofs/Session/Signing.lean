import OrderDesk.Bytes.Basic
import OrderDesk.Proofs.Bytes.Base64
import OrderDesk.Proofs.Json.Objects
import OrderDesk.Proofs.Session.Token
import OrderDesk.Session.Issue

/-!
Tokens that have been signed under a key, and what a check makes of them: the claims under a secret
that admits the key, nothing under one whose keys make other signatures.
-/

namespace OrderDesk.Session

variable {mac : Mac} {secret : String} {key : Bytes} {claims : Fields}

def signedText (claims : Json) : String :=
  part header ++ "." ++ part claims

def signedToken (mac : Mac) (key : Bytes) (claims : Json) : String :=
  signedText claims ++ "." ++ Base64.encodeUrl (mac key (Bytes.ofText (signedText claims)))

theorem issue_eq_ok {grant : Grant} {token : String} :
    issue mac secret grant = .ok token ↔ ∃ expiry, grant.expiry = .ok expiry ∧
      isForeign secret = false ∧
      token = signedToken mac (Bytes.ofText secret) (grant.claims expiry) := by
  rw [issue, Outcome.bind_eq_ok]
  refine exists_congr fun expiry => and_congr_right fun _ => ?_
  rw [Outcome.bind_eq_ok]
  simp only [Outcome.mapError_eq_ok, keyBytes_text]
  constructor
  · rintro ⟨_, ⟨own, rfl⟩, ⟨⟩⟩
    exact ⟨own, rfl⟩
  · rintro ⟨own, rfl⟩
    exact ⟨_, ⟨own, rfl⟩, rfl⟩

theorem decodeUrl?_part (value : Json) :
    Base64.decodeUrl? (Bytes.ofText (part value)) = some (Bytes.ofText (value.print .compact)) :=
  Base64.decodeUrl?_encodeUrl _

theorem ofText_joined (first second : String) :
    Bytes.ofText (first ++ "." ++ second) =
      Bytes.ofText first ++ SessionToken.point :: Bytes.ofText second := by
  rw [Bytes.ofText_append, Bytes.ofText_append, List.append_assoc]
  rfl

def headerFields : Fields := [("alg", .text algorithm), ("typ", .text "JWT")]

theorem writes_object (some_field : claims ≠ []) (scalars : ∀ field ∈ claims, Json.Scalar field.2)
    (distinct : (claims.map (·.1)).Nodup) :
    Writes (Bytes.ofText ((Json.object claims).print .compact)) claims := by
  refine ⟨_, Bytes.toText?_ofText _, ?_⟩
  have same : Fields.putAll [] claims = claims :=
    Fields.putAll_append (by rwa [List.nil_append])
  rw [Json.parse_print_object some_field scalars rfl rfl, same]

theorem writes_header : Writes (Bytes.ofText (header.print .compact)) headerFields := by
  refine writes_object (List.cons_ne_nil _ _) (fun field member => ?_) (by decide)
  rcases List.mem_pair.mp member with rfl | rfl <;> exact .text _

theorem parse_signedToken (claims : Json) :
    SessionToken.parse (signedToken mac key claims) = .ok {
      header := headerFields
      payload := Bytes.ofText (claims.print .compact)
      signed := Bytes.ofText (signedText claims)
      signature := mac key (Bytes.ofText (signedText claims)) } :=
  SessionToken.parse_eq_ok.mpr ⟨Bytes.ofText (part header), Bytes.ofText (part claims), _, {
    whole := ofText_joined _ _
    signed := ofText_joined _ _
    first := Base64.point_not_mem_encodeUrl _
    last := Base64.point_not_mem_encodeUrl _
    header := ⟨_, decodeUrl?_part header, writes_header⟩
    payload := decodeUrl?_part claims
    signature := Base64.decodeUrl?_encodeUrl _ }⟩

theorem signedClaims_signedToken (admitted : Admits secret key) (some_field : claims ≠ [])
    (scalars : ∀ field ∈ claims, Json.Scalar field.2) (distinct : (claims.map (·.1)).Nodup) :
    signedClaims mac secret (signedToken mac key (.object claims)) = .ok claims :=
  signedClaims_eq_ok.mpr ⟨_, parse_signedToken _, rfl, ⟨key, admitted, rfl⟩,
    writes_object some_field scalars distinct⟩

/-! ## Other keys -/

theorem isSignedBy_eq_false {signed signature : Bytes} {keys : List Json}
    (others : ∀ named ∈ keys, ∃ other, keyBytes named = .ok other ∧ signature ≠ mac other signed) :
    isSignedBy mac signed signature keys = .ok false := by
  induction keys with
  | nil => rfl
  | cons first rest induction =>
    rcases others first List.mem_cons_self with ⟨other, isKey, differs⟩
    rw [isSignedBy, isKey, Outcome.ok_bind, if_neg differs]
    exact induction fun named member => others named (List.mem_cons_of_mem _ member)

theorem signedClaims_of_others {keys : List Json} {claims : Json}
    (named : keysNamed secret = .ok keys)
    (others : ∀ named ∈ keys, ∃ other, keyBytes named = .ok other ∧
      mac key (Bytes.ofText (signedText claims)) ≠ mac other (Bytes.ofText (signedText claims))) :
    signedClaims mac secret (signedToken mac key claims) = .error (.refused .invalidSession) := by
  rw [signedClaims, parse_signedToken, Outcome.ok_bind, named]
  change (Failure.breaking (isSignedBy mac _ _ keys) >>= _) = _
  rw [isSignedBy_eq_false others]
  rfl

/-- A secret that is a text in the sense of JSON stands for what it quotes, not for itself. -/
theorem keysNamed_quoted (value : String) :
    keysNamed ((Json.text value).print .compact) = .ok [.text value] := by
  rw [keysNamed, Json.parse_print_text]

def sampleNoon : Int := 1772366400

def sampleSecret : String := "panel session secret 0123456789"

theorem sampleSecret_signs : isForeign sampleSecret = false :=
  isForeign_of_no_dash (by decide)

theorem sampleSecret_admits : Admits sampleSecret (Bytes.ofText sampleSecret) := by
  have noJson : (Json.parse sampleSecret keyReading).isOk = false := by decide +kernel
  refine (admits_of_not_json fun value read => ?_).mpr (keyBytes_text.mpr ⟨sampleSecret_signs, rfl⟩)
  rw [read] at noJson
  exact nomatch noJson

def sampleQuoted : String := "\"panel session secret 0123456789\""

theorem keysNamed_sampleQuoted : keysNamed sampleQuoted = .ok [.text sampleSecret] :=
  keysNamed_quoted sampleSecret

end OrderDesk.Session
