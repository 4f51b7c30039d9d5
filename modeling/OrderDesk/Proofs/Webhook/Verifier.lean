import Mathlib.Tactic.NormNum
import OrderDesk.Proofs.Failure
import OrderDesk.Proofs.Gate.Clock
import OrderDesk.Proofs.Webhook.Signature
import OrderDesk.Webhook.Verifier

/-!
Who passes for the payment gateway. While a signature header is there, it passes by a signature under
the signing secret at the time that it names, and by nothing else.
-/

namespace OrderDesk.Webhook.Verifier

variable {verifier : Verifier} {mac : Mac} {judge : Gate.TimeJudge} {now : ℚ} {headers : Headers}
  {text : String} {body : Bytes} {timestamp : Int}

/-- What makes a header authentic: the last time that it names is close to the present, where that
matters, and one of its signatures covers that time and the body. -/
def Authentic (verifier : Verifier) (mac : Mac) (now : ℚ) (text : String) (body : Bytes) : Prop :=
  ∃ timestamp, LastDated (partsOf text) timestamp ∧ timestamp ≠ 0 ∧
    (0 < verifier.toleranceSeconds → Gate.Within now timestamp verifier.toleranceSeconds) ∧
    ∃ part ∈ partsOf text, ∃ value, Signs part value ∧
      Text.trim value = signature mac verifier.signingSecret timestamp body

theorem Authentic.ne_empty (authentic : verifier.Authentic mac now text body) : text ≠ "" := by
  rcases authentic with ⟨_, -, -, -, part, member, value, signed, -⟩
  exact ne_empty_of_signs member signed

theorem authentic_trim :
    verifier.Authentic mac now (Text.trim text) body ↔ verifier.Authentic mac now text body := by
  rw [Authentic, Authentic, partsOf_trim]

theorem checkSignature_eq_ok : checkSignature verifier mac judge text body = .ok () ↔
    ∃ header, SignatureHeader.parse text = .ok header ∧
      (0 < verifier.toleranceSeconds →
        judge header.timestamp verifier.toleranceSeconds = .ok false) ∧
      ∃ value ∈ header.signatures,
        Text.trim value = signature mac verifier.signingSecret header.timestamp body := by
  rw [checkSignature, Outcome.bind_eq_ok]
  refine exists_congr fun header => ?_
  rw [Failure.refusing_eq_ok]
  refine and_congr_right fun _ => ?_
  have signed : ((if header.signatures.any fun candidate => Text.trim candidate ==
        signature mac verifier.signingSecret header.timestamp body
      then pure () else throw (.refused .signatureMismatch)) : Except Failure Unit) = .ok () ↔
      ∃ value ∈ header.signatures,
        Text.trim value = signature mac verifier.signingSecret header.timestamp body := by
    split
    · next found => exact iff_of_true rfl (by simpa using found)
    · next missing => exact iff_of_false nofun (by simpa using missing)
  dsimp only
  split
  · next positive =>
    rw [Outcome.bind_eq_ok]
    simp only [Failure.breaking_eq_ok, Outcome.throw_ite_eq_ok, signed, Bool.not_eq_true,
      forall_const, positive]
    constructor
    · rintro ⟨outside, judged, rfl, found⟩
      exact ⟨judged, found⟩
    · rintro ⟨judged, found⟩
      exact ⟨false, judged, rfl, found⟩
  · next unlimited => simp only [signed, unlimited, false_imp_iff, true_and]

theorem checkSignature_exactJudge :
    checkSignature verifier mac (Gate.exactJudge now) text body = .ok () ↔
      verifier.Authentic mac now text body := by
  rw [checkSignature_eq_ok, Authentic]
  simp only [SignatureHeader.parse_eq_ok, Gate.exactJudge_eq_false]
  constructor
  · rintro ⟨header, ⟨reads, some_time, -⟩, near, value, member, signs⟩
    rw [reads, SignatureHeader.mem_signatures_foldl] at member
    rcases member with ⟨part, member, isSigned⟩
    refine ⟨header.timestamp, ?_, some_time, near, part, member, value, isSigned, signs⟩
    rw [partsOf, ← SignatureHeader.timestamp_foldl some_time, reads]
  · rintro ⟨timestamp, last, some_time, near, part, member, value, isSigned, signs⟩
    rw [partsOf, ← SignatureHeader.timestamp_foldl some_time] at last
    have named := SignatureHeader.mem_signatures_foldl.mpr ⟨part, member, isSigned⟩
    subst last
    exact ⟨_, ⟨rfl, some_time, List.ne_nil_of_mem named⟩, near, value, named, signs⟩

/-- Parts in any order, with blanks around them: a time, a signature over it and over the body, and
parts that name no time. -/
theorem authentic_of_perm {texts others : List String} (whole : ∀ text ∈ texts, ',' ∉ text.toList)
    (same : (texts.map Text.trim).Perm (("t=" ++ toString timestamp) ::
      ("v1=" ++ signature mac verifier.signingSecret timestamp body) :: others))
    (untimed : ∀ other ∈ others, ¬"t=".toList <+: other.toList) (some_time : timestamp ≠ 0)
    (short : (Nat.toDigits 10 timestamp.natAbs).length ≤ Text.maxIntegerDigits)
    (near : 0 < verifier.toleranceSeconds →
      Gate.Within now timestamp verifier.toleranceSeconds) :
    verifier.Authentic mac now (String.intercalate "," texts) body := by
  rcases named_of_perm whole same untimed short with ⟨last, part, member, signed⟩
  exact ⟨timestamp, last, some_time, near, part, member, _, signed,
    Text.trim_of_unblank (unblank_hex _)⟩

theorem checkToken_eq_ok : verifier.checkToken headers = .ok () ↔
    verifier.sharedToken = "" ∨ headers.value tokenHeader = verifier.sharedToken := by
  rw [checkToken]
  split
  · next unset => exact iff_of_true rfl (Or.inl unset)
  · next set =>
    dsimp only
    split
    · next missing =>
      refine iff_of_false nofun (not_or.mpr ⟨set, fun equal => set ?_⟩)
      rw [← equal, missing]
    · split
      · next equal => exact iff_of_true rfl (Or.inr equal)
      · next other => exact iff_of_false nofun (not_or.mpr ⟨set, other⟩)

theorem verifyBy_of_header (signing : verifier.signingSecret ≠ "")
    (present : headers.value signatureHeaderName ≠ "") :
    verifier.verifyBy mac judge headers body =
      verifier.checkSignature mac judge (headers.value signatureHeaderName) body := by
  rw [verifyBy, if_neg signing, if_pos present]

theorem verifyBy_of_no_header (signing : verifier.signingSecret ≠ "")
    (missing : headers.value signatureHeaderName = "") :
    verifier.verifyBy mac judge headers body = .ok () ↔
      verifier.sharedToken ≠ "" ∧ headers.value tokenHeader = verifier.sharedToken := by
  rw [verifyBy, if_neg signing, if_neg (not_not_intro missing)]
  split
  · next unset => exact iff_of_false nofun fun both => both.1 unset
  · next set =>
    rw [Failure.refusing_eq_ok, checkToken_eq_ok, or_iff_right set]
    exact (and_iff_right set).symm

theorem checkSignature_congr {other : Gate.TimeJudge}
    (agree : ∀ header, SignatureHeader.parse text = .ok header →
      judge header.timestamp verifier.toleranceSeconds =
        other header.timestamp verifier.toleranceSeconds) :
    verifier.checkSignature mac judge text body = verifier.checkSignature mac other text body := by
  rw [checkSignature, checkSignature]
  cases reads : SignatureHeader.parse text with
  | error refusal => rfl
  | ok header =>
    change (if _ then Failure.breaking (judge _ _) >>= _ else _) =
      (if _ then Failure.breaking (other _ _) >>= _ else _)
    rw [agree header reads]

theorem verify_ofSeconds {now : Int} (present : now.natAbs < Nat.pow 2 52)
    (past : ∀ timestamp, LastDated (partsOf (headers.value signatureHeaderName)) timestamp →
      timestamp.natAbs < Nat.pow 2 52) :
    verifier.verify mac (.ofSeconds now) headers body =
      verifier.verifyBy mac (Gate.exactJudge now) headers body := by
  rw [verify, verifyBy, verifyBy, checkSignature_congr fun header reads => ?_]
  rcases SignatureHeader.parse_eq_ok.mp reads with ⟨named, some_time, -⟩
  have last := (SignatureHeader.timestamp_foldl some_time).mp (congrArg _ named.symm)
  exact Gate.isOutside_ofSeconds present (past _ last)

/-- With a signing secret, a signature header passes exactly if it is authentic, as every properly
made one is, whatever the peers and the tokens are; without one, the shared token alone passes. -/
theorem signature_decides (networks : List String) (token secret : String) (tolerance : Int)
    (signing : Text.trim secret ≠ "") (mac : Mac) (now : ℚ) (headers : Headers) (body : Bytes) :
    let verifier := make networks token secret tolerance
    let judge := Gate.exactJudge now
    let header := headers.value signatureHeaderName
    (header ≠ "" → (verifier.verifyBy mac judge headers body = .ok () ↔
      verifier.Authentic mac now header body)) ∧
    (∀ timestamp : Int, timestamp ≠ 0 →
      (Nat.toDigits 10 timestamp.natAbs).length ≤ Text.maxIntegerDigits →
      (0 < tolerance → Gate.Within now timestamp tolerance) →
      ∀ texts others : List String, (∀ text ∈ texts, ',' ∉ text.toList) →
        (texts.map Text.trim).Perm (("t=" ++ toString timestamp) ::
          ("v1=" ++ signature mac (Text.trim secret) timestamp body) :: others) →
        (∀ other ∈ others, ¬"t=".toList <+: other.toList) →
        headers.Carries signatureHeaderName (String.intercalate "," texts) →
        verifier.verifyBy mac judge headers body = .ok ()) ∧
    (header ≠ "" → ∀ (otherNetworks : List String) (otherToken : String) (otherHeaders : Headers),
      otherHeaders.value signatureHeaderName = header →
        (make otherNetworks otherToken secret tolerance).verifyBy mac judge otherHeaders body =
          verifier.verifyBy mac judge headers body) ∧
    (header = "" → (verifier.verifyBy mac judge headers body = .ok () ↔
      Text.trim token ≠ "" ∧ headers.value tokenHeader = Text.trim token)) := by
  intro verifier judge header
  refine ⟨fun present => ?_, ?_, fun present _ _ _ same => ?_, verifyBy_of_no_header signing⟩
  · rw [verifyBy_of_header signing present]
    exact checkSignature_exactJudge
  · intro timestamp some_time short near texts others whole same untimed found
    have limited (positive : 0 < verifier.toleranceSeconds) :
        Gate.Within now timestamp verifier.toleranceSeconds := by
      have inEffect : verifier.toleranceSeconds = tolerance := max_eq_left_of_lt (by
        rcases lt_max_iff.mp positive with positive | absurdity
        · exact positive
        · exact absurd absurdity (lt_irrefl 0))
      rw [inEffect] at positive ⊢
      exact near positive
    have authentic : verifier.Authentic mac now (String.intercalate "," texts) body :=
      authentic_of_perm whole same untimed some_time short limited
    have carried : verifier.Authentic mac now header body := by
      rw [← authentic_trim, ← found.value] at authentic
      exact authentic
    rw [verifyBy_of_header signing carried.ne_empty]
    exact checkSignature_exactJudge.mpr carried
  · rw [verifyBy_of_header signing present,
      verifyBy_of_header signing (by rw [same]; exact present), same]
    rfl

def sampleParts (timestamp : Int) (body : Bytes) : List String :=
  ["v0=ab", "v1=" ++ signature Hmac.sha256 "whsec" timestamp body, "  t=" ++ toString timestamp]

theorem sampleParts_whole (body : Bytes) :
    ∀ text ∈ sampleParts 1772366390 body, ',' ∉ text.toList := by
  have digits : ∀ digit < 16, ',' ≠ Nat.digitChar digit := by decide
  intro text member comma
  rw [sampleParts, List.mem_cons, List.mem_cons, List.mem_singleton] at member
  rcases member with rfl | rfl | rfl
  · exact absurd comma (by decide)
  · rw [String.toList_append] at comma
    rcases List.mem_append.mp comma with front | inside
    · exact absurd front (by decide)
    · rcases mem_hex inside with ⟨digit, small, equal⟩
      exact digits digit small equal
  · exact absurd comma (by decide)

theorem trim_sampleParts (body : Bytes) : (sampleParts 1772366390 body).map Text.trim =
    ["v0=ab", "v1=" ++ signature Hmac.sha256 "whsec" 1772366390 body, "t=1772366390"] := by
  have name : Text.Unblank "v1=" := by decide
  have signed := Text.trim_of_unblank (name.append
    (unblank_hex (Hmac.sha256 (Bytes.ofText "whsec") (signedBytes 1772366390 body))))
  have early : Text.trim "v0=ab" = "v0=ab" := by decide
  have late : Text.trim ("  t=" ++ toString (1772366390 : Int)) = "t=1772366390" := by decide
  rw [sampleParts, List.map_cons, List.map_cons, List.map_singleton, early, late]
  exact congrArg (["v0=ab", ·, "t=1772366390"]) signed

theorem sample_header_passes : Text.trim " whsec\n" ≠ "" ∧
    (make ["10.0.0.0/8"] "token" " whsec\n" 300).verifyBy Hmac.sha256
      (Gate.exactJudge 1772366400)
      (fun name => if name = "stripe-signature" then
        some (String.intercalate "," (sampleParts 1772366390 [0x7b, 0x7d])) else none)
      [0x7b, 0x7d] = .ok () := by
  refine ⟨by decide, (signature_decides ["10.0.0.0/8"] "token" " whsec\n" 300 (by decide)
    Hmac.sha256 1772366400 _ [0x7b, 0x7d]).2.1 1772366390 (by decide) (by decide) (fun _ => ?_)
    (sampleParts 1772366390 _) ["v0=ab"] (sampleParts_whole _) ?_ (by decide) rfl⟩
  · exact ⟨by decide +kernel, by norm_num [abs_le]⟩
  · rw [trim_sampleParts]
    exact (List.reverse_perm _).symm

end OrderDesk.Webhook.Verifier
