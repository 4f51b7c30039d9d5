import OrderDesk.Proofs.Desk.Commit
import OrderDesk.Proofs.Gate.Signed
import OrderDesk.Proofs.Webhook.Verifier

/-!
How checks of signatures end. Whatever arrives is passed or refused, but for one kind of header: a
time too large for a double has no distance from the clock, and a check that gets as far as asking
for that distance breaks off.
-/

namespace OrderDesk

variable {α β : Type} {kinds : List RefusalKind}

/-- A check lets something pass or refuses it on one of some grounds; it fails in no other way. -/
def Decided (kinds : List RefusalKind) (outcome : Except Failure α) : Prop :=
  ∀ failure, outcome = .error failure →
    ∃ refusal : Refusal, failure = .refused refusal ∧ refusal.kind ∈ kinds

namespace Decided

theorem ok {value : α} : Decided kinds (.ok value) :=
  nofun

theorem refused {refusal : Refusal} (among : refusal.kind ∈ kinds) :
    Decided kinds (.error (.refused refusal) : Except Failure α) := by
  rintro _ ⟨⟩
  exact ⟨refusal, rfl, among⟩

theorem mono {more : List RefusalKind} {outcome : Except Failure α}
    (decided : Decided kinds outcome) (covered : kinds ⊆ more) : Decided more outcome := by
  intro failure failed
  rcases decided failure failed with ⟨refusal, named, among⟩
  exact ⟨refusal, named, covered among⟩

theorem bind {outcome : Except Failure α} {next : α → Except Failure β}
    (first : Decided kinds outcome)
    (rest : ∀ value, outcome = .ok value → Decided kinds (next value)) :
    Decided kinds (outcome >>= next) := by
  cases outcome with
  | error failure => exact fun _ failed => first _ (by cases failed; rfl)
  | ok value => exact rest value rfl

theorem throw_ite {condition : Prop} [Decidable condition] {refusal : Refusal}
    {next : β → Except Failure α} {rest : Except Failure α} (among : refusal.kind ∈ kinds)
    (passed : ¬condition → Decided kinds rest) :
    Decided kinds (if condition then (throw (.refused refusal) >>= next) else rest) := by
  split
  · exact refused among
  · next holds => exact passed holds

end Decided

namespace Gate

/-- The judge by a reading of the clock, be it any double. -/
def doubleJudge (reading : Binary64) : TimeJudge := fun seconds window =>
  if Binary64.holdsInt seconds then .ok ((reading - .ofInt seconds).exceedsInSize window)
  else .error .floatOverflow

def Immense (seconds : Int) : Prop :=
  Binary64.integerLimit ≤ seconds.natAbs

variable {suite : CipherSuite} {setting : GateSetting} {reading : Binary64} {call : GateCall}
  {seconds window : Int}

theorem isOutside_eq (now : Instant) : isOutside now = doubleJudge now.seconds :=
  rfl

theorem doubleJudge_of_immense (immense : Immense seconds) :
    doubleJudge reading seconds window = .error .floatOverflow :=
  if_neg fun held => Nat.not_lt.mpr immense (of_decide_eq_true held)

theorem doubleJudge_of_not_immense (reading : Binary64) (window : Int) (held : ¬Immense seconds) :
    ∃ outside, doubleJudge reading seconds window = .ok outside :=
  ⟨_, if_pos (decide_eq_true (Nat.lt_of_not_le held))⟩

theorem openBody_decided (aead : Aead) (secret ivText : String) (sealedBody : Bytes) :
    Decided [.unauthorized] (Failure.refusing (openBody aead secret ivText sealedBody)) := by
  rw [openBody]
  split
  · exact .refused (by decide)
  · dsimp only
    split
    · split
      · exact .refused (by decide)
      · split
        · exact .ok
        · exact .refused (by decide)
    · exact .refused (by decide)

theorem plainBody_decided (suite : CipherSuite) (setting : GateSetting) (call : GateCall) :
    Decided [.unauthorized, .notImplemented] (Failure.refusing (plainBody suite setting call)) := by
  rw [plainBody]
  split
  · split
    · exact .refused (List.mem_cons_of_mem _ List.mem_cons_self)
    · exact (openBody_decided _ _ _ _).mono (by simp)
  · exact .ok

/-- A call names the key, and a time that no double comes near. -/
structure Immeasurable (setting : GateSetting) (call : GateCall) : Prop where
  active : setting.isActive = true
  key : call.headers.value keyHeader = setting.apiKey
  signature : call.headers.value signatureHeader ≠ ""
  nonce : call.headers.value nonceHeader ≠ ""
  time : ∃ timestamp,
    Text.readInteger (call.headers.value timestampHeader) = .ok timestamp ∧ Immense timestamp

theorem verifyBy_of_judge_error {judge : TimeJudge} {timestamp : Int} {fault : Fault}
    (active : setting.isActive = true) (key : call.headers.value keyHeader = setting.apiKey)
    (signature : call.headers.value signatureHeader ≠ "")
    (nonce : call.headers.value nonceHeader ≠ "")
    (reads : Text.readInteger (call.headers.value timestampHeader) = .ok timestamp)
    (judged : judge timestamp setting.nonceTtlSeconds = .error fault) :
    verifyBy suite setting judge call = .error (.broken fault) := by
  have timed : call.headers.value timestampHeader ≠ "" := Text.ne_empty_of_readInteger reads
  have keyed : call.headers.value keyHeader ≠ "" := by
    rw [key]
    exact apiKey_ne_empty active
  have complete : ¬(call.headers.value keyHeader = "" ∨ call.headers.value signatureHeader = "" ∨
      call.headers.value timestampHeader = "" ∨ call.headers.value nonceHeader = "") := by
    simp [keyed, signature, timed, nonce]
  rw [verifyBy, active, Bool.not_true, if_neg Bool.false_ne_true]
  simp only [if_neg complete, if_neg (not_not_intro key), reads]
  change Failure.breaking (judge timestamp _) >>= _ = _
  rw [judged]
  rfl

theorem verifyBy_of_immeasurable (immeasurable : Immeasurable setting call) :
    verifyBy suite setting (doubleJudge reading) call = .error (.broken .floatOverflow) := by
  rcases immeasurable.time with ⟨timestamp, reads, immense⟩
  exact verifyBy_of_judge_error immeasurable.active immeasurable.key immeasurable.signature
    immeasurable.nonce reads (doubleJudge_of_immense immense)

theorem verifyBy_decided (measurable : ¬Immeasurable setting call) :
    Decided [.unauthorized, .notImplemented]
      (verifyBy suite setting (doubleJudge reading) call) := by
  have among : RefusalKind.unauthorized ∈ [RefusalKind.unauthorized, .notImplemented] :=
    List.mem_cons_self
  rw [verifyBy]
  split
  · exact .ok
  · next active =>
    refine .throw_ite among fun complete => .throw_ite among fun known => ?_
    simp only [not_or, not_not] at complete known
    refine .bind ?_ fun timestamp reads => ?_
    · cases Text.readInteger (call.headers.value timestampHeader) with
      | error => exact .refused among
      | ok => exact .ok
    · have held : ¬Immense timestamp := fun immense => measurable
        ⟨by simpa using active, known, complete.2.1, complete.2.2.2, timestamp,
          Outcome.mapError_eq_ok.mp reads, immense⟩
      rcases doubleJudge_of_not_immense reading _ held with ⟨outside, judged⟩
      rw [judged]
      refine .bind .ok fun _ _ => .throw_ite among fun _ => .throw_ite among fun _ => ?_
      exact plainBody_decided suite setting call

end Gate

namespace Webhook.Verifier

open Gate

variable {verifier : Verifier} {mac : Mac} {reading : Binary64} {headers : Headers} {text : String}
  {body : Bytes}

structure Immeasurable (verifier : Verifier) (text : String) : Prop where
  signing : verifier.signingSecret ≠ ""
  limited : 0 < verifier.toleranceSeconds
  time : ∃ timestamp, LastDated (partsOf text) timestamp ∧ Immense timestamp
  signature : ∃ part ∈ partsOf text, ∃ value, Signs part value

theorem checkToken_decided :
    Decided [.unauthorized] (Failure.refusing (verifier.checkToken headers)) := by
  rw [checkToken]
  split
  · exact .ok
  · dsimp only
    split
    · exact .refused (by decide)
    · split
      · exact .ok
      · exact .refused (by decide)

theorem ne_zero_of_immense {seconds : Int} (immense : Immense seconds) : seconds ≠ 0 := by
  have positive : ¬Binary64.integerLimit ≤ Int.natAbs 0 := by decide +kernel
  rintro rfl
  exact positive immense

theorem immeasurable_iff : verifier.Immeasurable text ↔ verifier.signingSecret ≠ "" ∧
    0 < verifier.toleranceSeconds ∧
    ∃ header, SignatureHeader.parse text = .ok header ∧ Immense header.timestamp := by
  simp only [SignatureHeader.parse_eq_ok]
  constructor
  · rintro ⟨signing, limited, ⟨timestamp, last, immense⟩, part, member, value, signed⟩
    have some_time := ne_zero_of_immense immense
    have reads := (SignatureHeader.timestamp_foldl some_time).mpr last
    have named := SignatureHeader.mem_signatures_foldl.mpr ⟨part, member, signed⟩
    rw [← reads] at some_time immense
    exact ⟨signing, limited, _, ⟨rfl, some_time, List.ne_nil_of_mem named⟩, immense⟩
  · rintro ⟨signing, limited, _, ⟨rfl, some_time, some_value⟩, immense⟩
    rcases List.exists_mem_of_ne_nil _ some_value with ⟨value, member⟩
    rcases SignatureHeader.mem_signatures_foldl.mp member with ⟨part, inside, signed⟩
    exact ⟨signing, limited, ⟨_, (SignatureHeader.timestamp_foldl some_time).mp rfl, immense⟩,
      part, inside, value, signed⟩

theorem checkSignature_of_judge_error {judge : TimeJudge} {fault : Fault}
    {header : SignatureHeader} (reads : SignatureHeader.parse text = .ok header)
    (limited : 0 < verifier.toleranceSeconds)
    (judged : judge header.timestamp verifier.toleranceSeconds = .error fault) :
    verifier.checkSignature mac judge text body = .error (.broken fault) := by
  rw [checkSignature, reads]
  change (if _ then Failure.breaking (judge _ _) >>= _ else _) = _
  rw [if_pos limited, judged]
  rfl

theorem Immeasurable.ne_empty (immeasurable : verifier.Immeasurable text) : text ≠ "" := by
  rcases immeasurable.signature with ⟨part, member, value, signed⟩
  exact ne_empty_of_signs member signed

/-- A header needs no secret to be immeasurable: any signature will do. -/
theorem immeasurable_of_carries {seconds : Int} {value : String} {texts others : List String}
    (signing : verifier.signingSecret ≠ "") (limited : 0 < verifier.toleranceSeconds)
    (immense : Immense seconds)
    (short : (Nat.toDigits 10 seconds.natAbs).length ≤ Text.maxIntegerDigits)
    (whole : ∀ text ∈ texts, ',' ∉ text.toList)
    (same : (texts.map Text.trim).Perm (("t=" ++ toString seconds) :: ("v1=" ++ value) :: others))
    (untimed : ∀ other ∈ others, ¬"t=".toList <+: other.toList)
    (carried : headers.Carries signatureHeaderName (String.intercalate "," texts)) :
    verifier.Immeasurable (headers.value signatureHeaderName) := by
  rcases named_of_perm whole same untimed short with ⟨last, part, member, signed⟩
  rw [carried.value]
  refine ⟨signing, limited, ⟨seconds, ?_, immense⟩, part, ?_, value, signed⟩
  · rwa [partsOf_trim]
  · rwa [partsOf_trim]

theorem verifyBy_of_immeasurable
    (immeasurable : verifier.Immeasurable (headers.value signatureHeaderName)) :
    verifier.verifyBy mac (doubleJudge reading) headers body =
      .error (.broken .floatOverflow) := by
  rcases immeasurable_iff.mp immeasurable with ⟨signing, limited, header, reads, immense⟩
  rw [verifyBy_of_header signing immeasurable.ne_empty]
  exact checkSignature_of_judge_error reads limited (doubleJudge_of_immense immense)

theorem checkSignature_decided (signing : verifier.signingSecret ≠ "")
    (measurable : ¬verifier.Immeasurable text) :
    Decided [.unauthorized] (verifier.checkSignature mac (doubleJudge reading) text body) := by
  have among : RefusalKind.unauthorized ∈ [RefusalKind.unauthorized] := List.mem_cons_self
  rw [checkSignature]
  refine .bind ?_ fun header reads => ?_
  · rw [SignatureHeader.parse]
    split
    · exact .refused among
    · exact .ok
  · have compared : Decided [.unauthorized]
        ((if header.signatures.any fun candidate => Text.trim candidate ==
            signature mac verifier.signingSecret header.timestamp body
          then pure () else throw (.refused .signatureMismatch)) : Except Failure Unit) := by
      split
      · exact .ok
      · exact .refused among
    split
    · next limited =>
      have held : ¬Immense header.timestamp := fun immense => measurable (immeasurable_iff.mpr
        ⟨signing, limited, header, Failure.refusing_eq_ok.mp reads, immense⟩)
      rcases doubleJudge_of_not_immense reading _ held with ⟨outside, judged⟩
      rw [judged]
      exact .bind .ok fun _ _ => .throw_ite among fun _ => compared
    · exact compared

theorem verifyBy_decided
    (measurable : ¬verifier.Immeasurable (headers.value signatureHeaderName)) :
    Decided [.unauthorized] (verifier.verifyBy mac (doubleJudge reading) headers body) := by
  rw [verifyBy]
  split
  · exact checkToken_decided
  · next signing =>
    split
    · exact checkSignature_decided signing measurable
    · split
      · exact .refused (by decide)
      · exact checkToken_decided

end Webhook.Verifier

namespace Security

variable {context : Context} {desk : Desk}

/-- The setting that the gate goes by: the one kept, while it is fresh, or else the stored one. -/
def inForce (context : Context) (desk : Desk) : GateSetting :=
  (desk.gateCache.fresh? (lifetime context.settings.gateCacheSeconds) context.now.seconds).getD
    (.ofRow desk.store.securitySetting?)

theorem run_gateSetting (context : Context) (there : Table.securitySettings ∉ desk.store.dropped) :
    ∃ cache, gateSetting.run context desk =
      (.ok (inForce context desk), { desk with gateCache := cache }) := by
  simp only [gateSetting, Service.run_bind, Service.run_read, Service.run_get, Cache.get, inForce]
  cases desk.gateCache.fresh? (lifetime context.settings.gateCacheSeconds) context.now.seconds with
  | some setting => exact ⟨_, rfl⟩
  | none =>
    simp only [Service.run_bind, run_loadGateSetting there]
    exact ⟨_, rfl⟩

theorem run_passGate (there : Table.securitySettings ∉ desk.store.dropped) (suite : CipherSuite)
    (call : GateCall) : ((passGate suite call).run context desk).1 =
      Gate.verify suite (inForce context desk) context.now call := by
  rcases run_gateSetting context there with ⟨cache, ran⟩
  simp only [passGate, Service.run_bind, ran, Service.run_read, Service.run_lift]

/-- Whatever the configuration, the headers, the body and the clock are: a callback is accepted or
found unauthorized, and a call at the gate yields a body, is unauthorized or asks for a cipher that
is not there. But a check that is to measure how far away an immense time is breaks off instead. -/
theorem checks_end_or_overflow (suite : CipherSuite) (reading : Binary64) :
    (∀ (verifier : Webhook.Verifier) (headers : Headers) (body : Bytes),
      let outcome := verifier.verifyBy suite.mac (Gate.doubleJudge reading) headers body
      let header := headers.value Webhook.signatureHeaderName
      (¬verifier.Immeasurable header → Decided [.unauthorized] outcome) ∧
      (verifier.Immeasurable header → outcome = .error (.broken .floatOverflow))) ∧
    (∀ (setting : GateSetting) (call : GateCall),
      let outcome := Gate.verifyBy suite setting (Gate.doubleJudge reading) call
      (¬Gate.Immeasurable setting call → Decided [.unauthorized, .notImplemented] outcome) ∧
      (Gate.Immeasurable setting call → outcome = .error (.broken .floatOverflow))) ∧
    (∀ (context : Context) (desk : Desk) (call : GateCall), context.now.seconds = reading →
      Table.securitySettings ∉ desk.store.dropped →
        ((passGate suite call).run context desk).1 =
          Gate.verifyBy suite (inForce context desk) (Gate.doubleJudge reading) call) := by
  refine ⟨fun verifier headers body => ⟨?_, ?_⟩, fun setting call => ⟨?_, ?_⟩, ?_⟩
  · exact Webhook.Verifier.verifyBy_decided
  · exact Webhook.Verifier.verifyBy_of_immeasurable
  · exact Gate.verifyBy_decided
  · exact Gate.verifyBy_of_immeasurable
  · rintro context desk call rfl there
    exact run_passGate there suite call

def sampleTime : Int := 10 ^ 309

theorem sampleTime_immense : Gate.Immense sampleTime := by
  have large : Binary64.integerLimit ≤ Int.natAbs (10 ^ 309) := by decide +kernel
  exact large

theorem sampleTime_short :
    (Nat.toDigits 10 sampleTime.natAbs).length ≤ Text.maxIntegerDigits := by
  have below : Int.natAbs (10 ^ 309) < 10 ^ Text.maxIntegerDigits := by decide +kernel
  exact (Nat.length_toDigits_le_iff (by decide) (by decide)).mpr below

def sampleImmense : GateCall where
  headers := Headers.ofList [(Gate.keyHeader, "partner"),
    (Gate.timestampHeader, toString sampleTime), (Gate.nonceHeader, "n-1"),
    (Gate.signatureHeader, "none")]

theorem sampleImmense_immeasurable : Gate.Immeasurable Gate.sampleSetting sampleImmense := by
  refine ⟨by decide, by decide, by decide, by decide, sampleTime, ?_, sampleTime_immense⟩
  have carried : sampleImmense.headers.Carries Gate.timestampHeader (toString sampleTime) := rfl
  rw [carried.value, Text.trim_of_unblank (Text.unblank_toString _)]
  exact Text.readInteger_toString sampleTime sampleTime_short

theorem sample_checks_end_or_overflow :
    (Table.securitySettings ∉ ({} : Desk).store.dropped ∧
      ((passGate .standard sampleImmense).run { now := .ofSeconds 1772366400 } {}).1 =
        Gate.verifyBy .standard {} (Gate.doubleJudge (Instant.ofSeconds 1772366400).seconds)
          sampleImmense) ∧
    (Gate.Immeasurable Gate.sampleSetting sampleImmense ∧
      Gate.verifyBy .standard Gate.sampleSetting
        (Gate.doubleJudge (Instant.ofSeconds 1772366400).seconds) sampleImmense =
          .error (.broken .floatOverflow)) := by
  have checks := checks_end_or_overflow .standard (Instant.ofSeconds 1772366400).seconds
  have immeasurable := sampleImmense_immeasurable
  refine ⟨⟨List.not_mem_nil, ?_⟩, immeasurable, (checks.2.1 _ _).2 immeasurable⟩
  exact checks.2.2 { now := .ofSeconds 1772366400 } {} sampleImmense rfl List.not_mem_nil

def sampleForgery : List String := ["t=" ++ toString sampleTime, "v1=ab"]

theorem sampleForgery_whole : ∀ text ∈ sampleForgery, ',' ∉ text.toList := by
  intro text member comma
  rw [sampleForgery, List.mem_cons, List.mem_singleton] at member
  rcases member with rfl | rfl
  · rw [String.toList_append] at comma
    rcases List.mem_append.mp comma with front | inside
    · exact absurd front (by decide)
    · exact absurd (Text.mem_toString inside) (by decide)
  · exact absurd comma (by decide)

theorem trim_sampleForgery :
    (sampleForgery.map Text.trim).Perm
      (("t=" ++ toString sampleTime) :: ("v1=" ++ "ab") :: []) := by
  have time : Text.Unblank "t=" := by decide
  have signature : Text.trim "v1=ab" = "v1=" ++ "ab" := by decide
  rw [sampleForgery, List.map_cons, List.map_singleton, signature,
    Text.trim_of_unblank (time.append (Text.unblank_toString sampleTime))]

theorem sample_header_overflows : ¬Decided [.unauthorized]
    ((Webhook.Verifier.make [] "" "whsec" 300).verify Hmac.sha256 (.ofSeconds 1772366400)
      (Headers.ofList [(Webhook.signatureHeaderName, String.intercalate "," sampleForgery)])
      []) := by
  intro decided
  have immeasurable : (Webhook.Verifier.make [] "" "whsec" 300).Immeasurable
      ((Headers.ofList [(Webhook.signatureHeaderName, String.intercalate "," sampleForgery)]).value
        Webhook.signatureHeaderName) :=
    Webhook.Verifier.immeasurable_of_carries (by decide) (by decide) sampleTime_immense
      sampleTime_short sampleForgery_whole trim_sampleForgery (by simp) rfl
  rcases decided _ (Webhook.Verifier.verifyBy_of_immeasurable immeasurable)
    with ⟨refusal, named, -⟩
  exact nomatch named

end Security

end OrderDesk
