import Mathlib.Tactic.NormNum
import OrderDesk.Proofs.Bytes.Base64
import OrderDesk.Proofs.Cipher.Gcm
import OrderDesk.Proofs.Failure
import OrderDesk.Proofs.Gate.Clock
import OrderDesk.Proofs.Text.Integer

/-!
Which calls the gate lets pass, and what of them: the properly signed ones, with their bodies in the
clear. Clients can make such calls for every body.
-/

namespace OrderDesk

namespace Gate

variable {suite : CipherSuite} {setting : GateSetting} {judge : TimeJudge} {now : ℚ}
  {call : GateCall} {timestamp : Int} {plaintext : Bytes}

/-- What the gate asks of a call. -/
structure Signed (suite : CipherSuite) (setting : GateSetting) (now : ℚ) (call : GateCall) :
    Prop where
  key : call.headers.value keyHeader = setting.apiKey
  time : ∃ timestamp, Text.readInteger (call.headers.value timestampHeader) = .ok timestamp ∧
    Within now timestamp setting.nonceTtlSeconds
  nonce : call.headers.value nonceHeader ≠ ""
  signature : call.headers.value signatureHeader = sign suite.mac setting.apiSecret
    (canonicalText call.method call.path call.rawQuery (call.headers.value timestampHeader)
      (call.headers.value nonceHeader) call.body)

def Flagged (call : GateCall) : Prop :=
  Text.lower (call.headers.value encryptedHeader) ∈ encryptedFlags

instance (call : GateCall) : Decidable (Flagged call) :=
  inferInstanceAs (Decidable (_ ∈ encryptedFlags))

/-- What a call yields: the body as it stands or, if it is flagged, what the body opens to. -/
def Yields (suite : CipherSuite) (setting : GateSetting) (call : GateCall) (plaintext : Bytes) :
    Prop :=
  (Flagged call → ∃ iv, Base64.decode? (call.headers.value ivHeader) = some iv ∧
    iv.length = ivSize ∧
    suite.aead.openText? (bodyKey setting.apiSecret) iv call.body = some plaintext) ∧
  (¬Flagged call → plaintext = call.body)

theorem openBody_eq_ok {aead : Aead} {secret ivText : String} {sealedBody : Bytes} :
    openBody aead secret ivText sealedBody = .ok plaintext ↔
      ∃ iv, Base64.decode? ivText = some iv ∧ iv.length = ivSize ∧
        aead.openText? (bodyKey secret) iv sealedBody = some plaintext := by
  rw [openBody, Outcome.throw_ite_eq_ok]
  cases decoded : Base64.decode? ivText with
  | none => exact iff_of_false (fun passed => nomatch passed.2) fun ⟨_, reads, _⟩ => nomatch reads
  | some iv =>
    have named (size : iv.length = ivSize) : ivText ≠ "" := by
      rintro rfl
      -- the empty text is read as no bytes at all
      cases (Option.some.inj decoded : [] = iv)
      exact absurd size (by decide)
    simp only [Outcome.throw_ite_eq_ok, not_not, Option.some.injEq, exists_eq_left']
    cases aead.openText? (bodyKey secret) iv sealedBody with
    | none => exact iff_of_false (fun passed => nomatch passed.2.2) fun found => nomatch found.2
    | some opened =>
      rw [Option.some.injEq]
      constructor
      · rintro ⟨-, size, ⟨⟩⟩
        exact ⟨size, rfl⟩
      · rintro ⟨size, rfl⟩
        exact ⟨named size, size, rfl⟩

theorem plainBody_eq_ok (standard : setting.algorithm = SecuritySetting.defaultAlgorithm) :
    plainBody suite setting call = .ok plaintext ↔ Yields suite setting call plaintext := by
  rw [plainBody, Yields, Flagged]
  split
  · next flagged =>
    rw [if_neg (not_not_intro standard), openBody_eq_ok]
    simp [flagged]
  · next unflagged =>
    simp [unflagged, eq_comm]

theorem verifyBy_eq_ok (active : setting.isActive = true) :
    verifyBy suite setting judge call = .ok plaintext ↔
      (call.headers.value keyHeader ≠ "" ∧ call.headers.value signatureHeader ≠ "" ∧
        call.headers.value timestampHeader ≠ "" ∧ call.headers.value nonceHeader ≠ "") ∧
      call.headers.value keyHeader = setting.apiKey ∧
      (∃ timestamp, Text.readInteger (call.headers.value timestampHeader) = .ok timestamp ∧
        judge timestamp setting.nonceTtlSeconds = .ok false) ∧
      call.headers.value signatureHeader = sign suite.mac setting.apiSecret
        (canonicalText call.method call.path call.rawQuery (call.headers.value timestampHeader)
          (call.headers.value nonceHeader) call.body) ∧
      plainBody suite setting call = .ok plaintext := by
  rw [verifyBy, active, Bool.not_true, if_neg Bool.false_ne_true]
  simp only [Outcome.throw_ite_eq_ok, Outcome.bind_eq_ok, Outcome.mapError_eq_ok,
    Failure.breaking_eq_ok, Failure.refusing_eq_ok, not_or, not_not, Bool.not_eq_true]
  constructor
  · rintro ⟨present, known, timestamp, reads, _, judged, rfl, signed, yields⟩
    exact ⟨present, known, ⟨timestamp, reads, judged⟩, signed, yields⟩
  · rintro ⟨present, known, ⟨timestamp, reads, judged⟩, signed, yields⟩
    exact ⟨present, known, timestamp, reads, _, judged, rfl, signed, yields⟩

theorem apiKey_ne_empty (active : setting.isActive = true) : setting.apiKey ≠ "" := by
  intro empty
  simp [GateSetting.isActive, empty] at active

theorem encode_ne_empty {bytes : Bytes} (some_byte : bytes ≠ []) : Base64.encode bytes ≠ "" := by
  intro empty
  have decoded := Base64.decode?_encode bytes
  rw [empty] at decoded
  exact some_byte (Option.some.inj decoded).symm

theorem short_of_holdsInt (held : Binary64.holdsInt timestamp = true) :
    (Nat.toDigits 10 timestamp.natAbs).length ≤ Text.maxIntegerDigits := by
  have below : Binary64.integerLimit ≤ 10 ^ Text.maxIntegerDigits := by decide +kernel
  have small : timestamp.natAbs < Binary64.integerLimit := of_decide_eq_true held
  exact (Nat.length_toDigits_le_iff (by decide) (by decide)).mpr (Nat.lt_of_lt_of_le small below)

theorem verifyBy_exactJudge (tagged : ∀ key message, suite.mac key message ≠ [])
    (active : setting.isActive = true)
    (standard : setting.algorithm = SecuritySetting.defaultAlgorithm) :
    verifyBy suite setting (exactJudge now) call = .ok plaintext ↔
      Signed suite setting now call ∧ Yields suite setting call plaintext := by
  rw [verifyBy_eq_ok active, plainBody_eq_ok standard]
  simp only [exactJudge_eq_false]
  constructor
  · rintro ⟨⟨-, -, -, nonce⟩, key, time, signature, yields⟩
    exact ⟨⟨key, time, nonce, signature⟩, yields⟩
  · rintro ⟨⟨key, time, nonce, signature⟩, yields⟩
    refine ⟨⟨?_, ?_, ?_, nonce⟩, key, time, signature, yields⟩
    · rw [key]
      exact apiKey_ne_empty active
    · rw [signature]
      exact encode_ne_empty (tagged _ _)
    · rcases time with ⟨timestamp, reads, -⟩
      exact Text.ne_empty_of_readInteger reads

theorem verifyBy_congr {other : TimeJudge}
    (agree : ∀ timestamp, Text.readInteger (call.headers.value timestampHeader) = .ok timestamp →
      judge timestamp setting.nonceTtlSeconds = other timestamp setting.nonceTtlSeconds) :
    verifyBy suite setting judge call = verifyBy suite setting other call := by
  simp only [verifyBy, Outcome.throw_bind]
  refine if_congr Iff.rfl rfl ?_
  refine if_congr Iff.rfl rfl ?_
  refine if_congr Iff.rfl rfl ?_
  refine Outcome.bind_congr fun timestamp reads => ?_
  rw [agree timestamp (Outcome.mapError_eq_ok.mp reads)]

theorem verify_ofSeconds {now : Int} (present : now.natAbs < Nat.pow 2 52)
    (past : ∀ timestamp, Text.readInteger (call.headers.value timestampHeader) = .ok timestamp →
      timestamp.natAbs < Nat.pow 2 52) :
    verify suite setting (.ofSeconds now) call = verifyBy suite setting (exactJudge now) call :=
  verifyBy_congr fun timestamp reads => isOutside_ofSeconds present (past timestamp reads)

/-- What clients put into the headers of a call, before it is flagged as encrypted or not. -/
structure Prepared (suite : CipherSuite) (setting : GateSetting) (call : GateCall)
    (timestamp : Int) (nonce : String) : Prop where
  carriesKey : call.headers.Carries keyHeader setting.apiKey
  carriesTime : call.headers.Carries timestampHeader (toString timestamp)
  carriesNonce : call.headers.Carries nonceHeader nonce
  carriesSignature : call.headers.Carries signatureHeader (sign suite.mac setting.apiSecret
    (canonicalText call.method call.path call.rawQuery (toString timestamp) nonce call.body))

theorem Prepared.signed {nonce : String} (prepared : Prepared suite setting call timestamp nonce)
    (trimmedKey : Text.trim setting.apiKey = setting.apiKey) (trimmed : Text.trim nonce = nonce)
    (some_nonce : nonce ≠ "") (near : Within now timestamp setting.nonceTtlSeconds) :
    Signed suite setting now call := by
  have time : call.headers.value timestampHeader = toString timestamp := by
    rw [prepared.carriesTime.value, Text.trim_of_unblank (Text.unblank_toString timestamp)]
  have nonce_eq : call.headers.value nonceHeader = nonce := by
    rw [prepared.carriesNonce.value, trimmed]
  refine ⟨by rw [prepared.carriesKey.value, trimmedKey], ⟨timestamp, ?_, near⟩,
    by rwa [nonce_eq], ?_⟩
  · rw [time]
    exact Text.readInteger_toString timestamp (short_of_holdsInt near.1)
  · rw [time, nonce_eq, prepared.carriesSignature.value]
    exact Text.trim_of_unblank (Base64.unblank_encode _)

theorem sealBody_of_ivSize {aead : Aead} {secret : String} {iv : Bytes}
    (size : iv.length = ivSize) :
    sealBody aead secret iv plaintext = .ok (aead.sealText (bodyKey secret) iv plaintext) := by
  rw [sealBody, if_neg (by rw [size]; decide)]

theorem yields_sealed (opens : suite.aead.Opens) {iv : Bytes} (size : iv.length = ivSize)
    (body : call.body = suite.aead.sealText (bodyKey setting.apiSecret) iv plaintext)
    (carried : call.headers.Carries ivHeader (Base64.encode iv)) (flagged : Flagged call) :
    Yields suite setting call plaintext := by
  refine ⟨fun _ => ⟨iv, ?_, size, ?_⟩, absurd flagged⟩
  · rw [carried.value, Text.trim_of_unblank (Base64.unblank_encode iv), Base64.decode?_encode]
  · rw [body]
    exact opens _ iv plaintext (Sha256.length_digest _)

/-- The gate passes exactly the signed calls, with what they yield. A call that a client has sealed,
signed and flagged as encrypted yields what was sealed; the same call unflagged, its body. -/
theorem signed_calls_pass (tagged : ∀ key message, suite.mac key message ≠ [])
    (opens : suite.aead.Opens) (active : setting.isActive = true)
    (standard : setting.algorithm = SecuritySetting.defaultAlgorithm) (now : ℚ) :
    (∀ call plaintext, verifyBy suite setting (exactJudge now) call = .ok plaintext ↔
      Signed suite setting now call ∧ Yields suite setting call plaintext) ∧
    (|now| + setting.nonceTtlSeconds < Binary64.integerLimit → ∀ timestamp : Int,
      Within now timestamp setting.nonceTtlSeconds ↔
        |now - timestamp| ≤ setting.nonceTtlSeconds) ∧
    (Text.trim setting.apiKey = setting.apiKey →
      ∀ (plaintext iv : Bytes) (timestamp : Int) (nonce : String), iv.length = ivSize →
        Within now timestamp setting.nonceTtlSeconds → Text.trim nonce = nonce → nonce ≠ "" →
        ∃ sealedBody, sealBody suite.aead setting.apiSecret iv plaintext = .ok sealedBody ∧
          ∀ call, call.body = sealedBody → Prepared suite setting call timestamp nonce →
            call.headers.Carries ivHeader (Base64.encode iv) →
            (Flagged call → verifyBy suite setting (exactJudge now) call = .ok plaintext) ∧
            (¬Flagged call → verifyBy suite setting (exactJudge now) call = .ok sealedBody)) := by
  refine ⟨fun call plaintext => verifyBy_exactJudge tagged active standard,
    fun near timestamp => within_iff near, ?_⟩
  intro trimmedKey plaintext iv timestamp nonce size near trimmed some_nonce
  refine ⟨_, sealBody_of_ivSize size, fun call body prepared carried => ?_⟩
  have signed := prepared.signed trimmedKey trimmed some_nonce near
  constructor
  · intro flagged
    exact (verifyBy_exactJudge tagged active standard).mpr
      ⟨signed, yields_sealed opens size body carried flagged⟩
  · intro unflagged
    exact (verifyBy_exactJudge tagged active standard).mpr
      ⟨signed, fun flagged => absurd flagged unflagged, fun _ => body.symm⟩

theorem sha256_ne_nil (key message : Bytes) : Hmac.sha256 key message ≠ [] := by
  refine List.ne_nil_of_length_pos ?_
  rw [Hmac.sha256, Sha256.length_digest]
  decide

def sampleSetting : GateSetting where
  enabled := true
  apiKey := "partner"
  apiSecret := "hush"

def sampleIv : Bytes := (List.range 12).map UInt8.ofNat

def sampleSealedBody : Bytes :=
  CipherSuite.standard.aead.sealText (bodyKey sampleSetting.apiSecret) sampleIv [0x7b, 0x7d]

def sampleSealed : GateCall where
  method := "post"
  path := "/third-party/orders"
  headers := Headers.ofList [(keyHeader, "partner"), (timestampHeader, "1772366390"),
    (nonceHeader, "n-1"),
    (signatureHeader, sign CipherSuite.standard.mac sampleSetting.apiSecret
      (canonicalText "post" "/third-party/orders" "" "1772366390" "n-1" sampleSealedBody)),
    (encryptedHeader, "True"), (ivHeader, Base64.encode sampleIv)]
  body := sampleSealedBody

theorem sample_sealed_passes :
    ((∀ key message, CipherSuite.standard.mac key message ≠ []) ∧
      CipherSuite.standard.aead.Opens ∧ sampleSetting.isActive = true ∧
      sampleSetting.algorithm = SecuritySetting.defaultAlgorithm) ∧
    verifyBy .standard sampleSetting (exactJudge 1772366400) sampleSealed = .ok [0x7b, 0x7d] := by
  refine ⟨⟨sha256_ne_nil, Gcm.opens_aead, by decide, rfl⟩, ?_⟩
  have size : sampleIv.length = ivSize := rfl
  have near : Within 1772366400 1772366390 sampleSetting.nonceTtlSeconds := by
    refine ⟨by decide +kernel, ?_⟩
    change |(1772366400 : ℚ) - (1772366390 : Int)| ≤ (300 : Int)
    norm_num [abs_le]
  have active : sampleSetting.isActive = true := by decide
  have opens : CipherSuite.standard.aead.Opens := Gcm.opens_aead
  rcases (signed_calls_pass sha256_ne_nil opens active rfl 1772366400).2.2 (by decide)
    [0x7b, 0x7d] sampleIv 1772366390 "n-1" size near (by decide) (by decide)
    with ⟨sealedBody, sealing, passes⟩
  rw [sealBody_of_ivSize size, Except.ok.injEq] at sealing
  exact (passes sampleSealed sealing ⟨rfl, rfl, rfl, rfl⟩ rfl).1 (by decide +kernel)

end Gate

end OrderDesk
