import OrderDesk.Proofs.Session.RoundTrip

/-!
Accepted tokens are genuine: whatever text is accepted has been signed under a key of the secret,
and tells all that the identity tells. A secret that is no JSON is its only key.
-/

namespace OrderDesk.Session

variable {mac : Mac} {secret text : String} {identity : SessionIdentity}

/-- A text is a genuine token for an identity: it has three parts, of which the last is the
signature of all that stands before it, and the others write a header and claims that say so. -/
structure Genuine (mac : Mac) (secret : String) (now : Int) (text : String) (token : SessionToken)
    (claims : Fields) (identity : SessionIdentity) : Prop where
  written : ∃ header payload signature, token.Written text header payload signature
  algorithm : token.header.get? "alg" = some (.text algorithm)
  signed : SignedUnder mac secret token
  ownKey : (∀ value, Json.parse secret keyReading ≠ .ok value) →
    token.signature = mac (Bytes.ofText secret) token.signed
  payload : Writes token.payload claims
  type : claims.get? "type" = some (.text tokenType)
  subject : ∃ subject, claims.get? "sub" = some (.text subject) ∧ Denotes subject identity.userId
  positive : 1 ≤ identity.userId
  lasting : ∀ expiry, claims.get? "exp" = some expiry →
    expiry.integer = .ok identity.expiresAt ∧ now ≤ identity.expiresAt

theorem SignedUnder.ownKey {token : SessionToken} (signed : SignedUnder mac secret token)
    (noJson : ∀ value, Json.parse secret keyReading ≠ .ok value) :
    token.signature = mac (Bytes.ofText secret) token.signed := by
  rcases signed with ⟨key, admitted, fits⟩
  rw [fits, (keyBytes_text.mp ((admits_of_not_json noJson).mp admitted)).2]

theorem genuine_of_decode {now : Instant} (accepted : decode mac secret now text = .ok identity) :
    ∃ token claims,
      Genuine mac secret (now.micros / Instant.microsPerSecond) text token claims identity := by
  rcases decode_eq_ok.mp accepted with ⟨claims, found, inForce, _, named⟩
  rcases signedClaims_eq_ok.mp found with ⟨token, parsed, algorithm, signed, payload⟩
  have user := denotes_of_userId named.user
  refine ⟨token, claims, {
    written := SessionToken.parse_eq_ok.mp parsed
    algorithm
    signed
    ownKey := signed.ownKey
    payload
    type := named.type
    subject := ⟨_, sub_of_userId named.user, user.1⟩
    positive := user.2
    lasting := fun expiry stated => ?_ }⟩
  have ending := named.ending expiry stated
  rcases inForce.lasting expiry stated with ⟨time, read, later⟩
  cases ending.symm.trans read
  exact ⟨ending, later⟩

theorem decode_sampleClaims {secret : String}
    (admitted : Admits secret (Bytes.ofText sampleSecret)) :
    decode Hmac.sha256 secret (.ofSeconds sampleNoon)
      (signedToken Hmac.sha256 (Bytes.ofText sampleSecret) sampleClaims) =
        .ok ⟨42, none, sampleNoon + 300⟩ :=
  decode_userToken admitted (by decide) (by decide) (by decide)

theorem sample_token_genuine : ∃ token claims,
    Genuine Hmac.sha256 sampleSecret sampleNoon
      (signedToken Hmac.sha256 (Bytes.ofText sampleSecret) sampleClaims) token claims
      ⟨42, none, sampleNoon + 300⟩ :=
  genuine_of_decode (decode_sampleClaims sampleSecret_admits)

theorem sample_other_key_accepted : ∃ text token identity,
    decode Hmac.sha256 sampleQuoted (.ofSeconds sampleNoon) text = .ok identity ∧
      SessionToken.parse text = .ok token ∧
      token.signature ≠ Hmac.sha256 (Bytes.ofText sampleQuoted) token.signed := by
  have admitted : Admits sampleQuoted (Bytes.ofText sampleSecret) :=
    ⟨_, keysNamed_sampleQuoted,
      tries_cons.mpr ⟨_, keyBytes_text.mpr ⟨sampleSecret_signs, rfl⟩, .inl rfl⟩⟩
  exact ⟨_, _, _, decode_sampleClaims admitted, parse_signedToken _, sample_signatures_differ.symm⟩

end OrderDesk.Session
