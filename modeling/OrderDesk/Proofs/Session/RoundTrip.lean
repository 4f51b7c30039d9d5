import OrderDesk.Proofs.Session.Claims
import OrderDesk.Proofs.Session.Signing
import OrderDesk.Proofs.Time.Instant

/-!
Tokens issued to users and read back: the identity is the one that the token has been issued for, up
to and in the second in which it ends.
-/

namespace OrderDesk.Session

variable {mac : Mac} {secret : String} {key : Bytes} {id issued expiry now : Int}
  {email : Option String}

/-! ## The subject of a user -/

theorem isDigit_of_plain {character : Char} (digit : character.isDigit = true) :
    Text.isDigit character = true := by
  rw [Text.isDigit, Text.decimalValue?_of_isDigit digit]
  rfl

theorem allDigits_toString (positive : 1 ≤ id) : AllDigits (toString id) := by
  obtain ⟨number, rfl⟩ := Int.eq_ofNat_of_zero_le (Int.le_trans (by decide) positive)
  change AllDigits number.repr
  have digits : ∀ character ∈ number.repr.toList, character.isDigit = true := by
    rw [Nat.toList_repr]
    exact fun character => Nat.isDigit_of_mem_toDigits (by decide) (by decide)
  refine ⟨fun empty => ?_, fun character member => isDigit_of_plain (digits character member)⟩
  exact Nat.toDigits_ne_nil (Nat.toList_repr.symm.trans (congrArg String.toList empty))

theorem userId_toString (positive : 1 ≤ id) (small : id < Instant.longLimit) :
    userId (toString id) = .ok id := by
  rw [Instant.longLimit] at small
  refine userId_eq_ok.mpr ?_
  rw [Text.trim_of_unblank (Text.unblank_toString id)]
  exact ⟨allDigits_toString positive, Text.readInteger_toString id (Text.short_of_lt (by omega)),
    positive⟩

theorem userId_toString_of_not_positive (small : id ≤ 0) :
    userId (toString id) = .error (.refused .sessionWithoutUser) := by
  cases id with
  | ofNat number =>
    cases Nat.le_zero.mp (Int.ofNat_le.mp small)
    rfl
  | negSucc number =>
    have sign : '-' ∈ (toString (Int.negSucc number)).toList := by
      change '-' ∈ ("-" ++ (number + 1).repr).toList
      rw [String.toList_append]
      exact List.mem_append_left _ List.mem_cons_self
    have other : ¬AllDigits (toString (Int.negSucc number)) := fun digits =>
      absurd (digits.2 '-' sign) (by decide)
    rw [userId]
    dsimp only
    rw [Text.trim_of_unblank (Text.unblank_toString _), if_pos (not_allDigits.mpr other)]
    rfl

/-! ## The claims of a user -/

def emailField (email : Option String) : Fields :=
  ((email.filter (· ≠ "")).map fun address => ("email", .text address)).toList

theorem emailField_cases (email : Option String) :
    (email.filter (· ≠ "") = none ∧ emailField email = []) ∨
      ∃ address, address ≠ "" ∧ email.filter (· ≠ "") = some address ∧
        emailField email = [("email", .text address)] := by
  rw [emailField]
  cases kept : email.filter (· ≠ "") with
  | none => exact .inl ⟨rfl, rfl⟩
  | some address =>
    have filled := (Option.filter_eq_some_iff.mp kept).2
    exact .inr ⟨address, of_decide_eq_true filled, rfl, rfl⟩

def userClaims (id : Int) (email : Option String) (issued expiry : Int) : Fields :=
  [("sub", .text (toString id)), ("type", .text tokenType), ("iat", .int issued),
    ("exp", .int expiry)] ++ emailField email

theorem claims_ofUser {lifetime : Int} :
    (Grant.ofUser id email (.ofSeconds issued) lifetime).claims (.ofSeconds expiry) =
      .object (userClaims id email issued expiry) := by
  have field :
      (((email.map Json.text).filter (·.isPresent)).map fun value => ("email", value)).toList =
        emailField email := by
    rw [emailField]
    cases email with
    | none => rfl
    | some address => by_cases empty : address = "" <;> simp [Option.filter, Json.isPresent, empty]
  rw [userClaims, ← field, Grant.claims, Grant.ofUser, Instant.unixSeconds_ofSeconds,
    Instant.unixSeconds_ofSeconds]

theorem distinct_userClaims : ((userClaims id email issued expiry).map (·.1)).Nodup := by
  rw [userClaims]
  rcases emailField_cases email with ⟨_, field⟩ | ⟨address, _, _, field⟩ <;> rw [field]
  · exact of_decide_eq_true rfl
  · exact of_decide_eq_true rfl

theorem scalars_userClaims (start : (Nat.toDigits 10 issued.natAbs).length ≤ Text.maxIntegerDigits)
    (ending : (Nat.toDigits 10 expiry.natAbs).length ≤ Text.maxIntegerDigits) :
    ∀ field ∈ userClaims id email issued expiry, Json.Scalar field.2 := by
  have stated : ∀ field ∈ [("sub", Json.text (toString id)), ("type", .text tokenType),
      ("iat", .int issued), ("exp", .int expiry)], Json.Scalar field.2 := by
    simp only [List.forall_mem_cons]
    exact ⟨.text _, .text _, .int start, .int ending, nofun⟩
  rw [userClaims]
  rcases emailField_cases email with ⟨_, field⟩ | ⟨address, _, _, field⟩
  · rw [field]
    exact stated
  · rw [field]
    exact List.forall_mem_append.mpr ⟨stated, List.forall_mem_singleton.mpr (.text address)⟩

theorem unnamed_userClaims : Unnamed (userClaims id email issued expiry) := by
  rw [userClaims]
  rcases emailField_cases email with ⟨_, field⟩ | ⟨address, _, _, field⟩ <;> rw [field] <;>
    exact ⟨rfl, rfl, rfl, rfl⟩

theorem email_userClaims : ((userClaims id email issued expiry).get? "email").filter (·.isPresent) =
    (email.filter (· ≠ "")).map .text := by
  rw [userClaims]
  rcases emailField_cases email with ⟨none, field⟩ | ⟨address, filled, some, field⟩
  · rw [field, none]
    rfl
  · have present : (Json.text address).isPresent = true := bne_iff_ne.mpr filled
    rw [field, some]
    exact Option.filter_some_pos present

theorem checkTimes_userClaims : checkTimes (userClaims id email issued expiry) now =
    if expiry < now then .error (.refused .sessionExpired) else .ok () := by
  have begun : (userClaims id email issued expiry).get? "nbf" = none := by
    rw [userClaims]
    rcases emailField_cases email with ⟨_, field⟩ | ⟨address, _, _, field⟩ <;> rw [field] <;> rfl
  rw [checkTimes_eq, begun]
  rfl

theorem identity_userClaims (small : id < Instant.longLimit) :
    identity (userClaims id email issued expiry) =
      if 1 ≤ id then .ok ⟨id, (email.filter (· ≠ "")).map .text, expiry⟩
      else .error (.refused .sessionWithoutUser) := by
  split
  · next positive =>
    exact identity_eq_ok.mpr ⟨rfl, userId_toString positive small, email_userClaims.symm,
      fun _ stated => Option.some.inj stated ▸ rfl, nofun⟩
  · next negative =>
    change (userId (toString id) >>= _) = _
    rw [userId_toString_of_not_positive (Int.not_lt.mp negative)]
    rfl

/-! ## Issuing and reading -/

theorem decode_userToken (admitted : Admits secret key) (small : id < Instant.longLimit)
    (start : (Nat.toDigits 10 issued.natAbs).length ≤ Text.maxIntegerDigits)
    (ending : (Nat.toDigits 10 expiry.natAbs).length ≤ Text.maxIntegerDigits) :
    decode mac secret (.ofSeconds now)
        (signedToken mac key (.object (userClaims id email issued expiry))) =
      if expiry < now then .error (.refused .sessionExpired)
      else if 1 ≤ id then .ok ⟨id, (email.filter (· ≠ "")).map .text, expiry⟩
      else .error (.refused .sessionWithoutUser) := by
  have read : signedClaims mac secret
      (signedToken mac key (.object (userClaims id email issued expiry))) =
        .ok (userClaims id email issued expiry) :=
    signedClaims_signedToken admitted (List.cons_ne_nil _ _) (scalars_userClaims start ending)
      distinct_userClaims
  rw [decode, read, Outcome.ok_bind, Instant.seconds_ofSeconds, checkTimes_userClaims]
  split
  · rfl
  · rw [Outcome.ok_bind, checkNames_eq_ok.mpr unnamed_userClaims, Outcome.ok_bind,
      identity_userClaims small]

/-- If a token signed under one key is accepted where that key is not admitted, then another key
makes the same signature. -/
theorem collision_of_decode {claims : Json} {at_ : Instant} {identity : SessionIdentity}
    (foreign : ¬Admits secret key)
    (accepted : decode mac secret at_ (signedToken mac key claims) = .ok identity) :
    ∃ other signed, other ≠ key ∧ mac key signed = mac other signed := by
  rcases decode_eq_ok.mp accepted with ⟨_, found, _⟩
  rcases signedClaims_eq_ok.mp found with ⟨token, parsed, _, ⟨other, admitted, fits⟩, _⟩
  cases (parse_signedToken claims).symm.trans parsed
  refine ⟨other, _, ?_, fits⟩
  rintro rfl
  exact foreign admitted

/-- A token for a user is issued under every secret that can sign. If the secret, read as the name
of keys, admits itself, then the token is read as what it has been issued for up to the second of
its end, and as expired after it; a token for no user is refused at all times. Under another secret
it is never accepted, unless two keys make one signature. -/
theorem issued_token_round_trips (mac : Mac) (email : Option String) {ttl : Int}
    (signs : isForeign secret = false) (start : (Instant.ofSeconds issued).InCalendar)
    (ending : (Instant.ofSeconds (issued + ttl)).InCalendar) (small : id < Instant.longLimit) :
    ∃ token,
      issue mac secret
        (.ofUser id email (.ofSeconds issued) (ttl * Instant.microsPerSecond)) = .ok token ∧
      (Admits secret (Bytes.ofText secret) → ∀ now,
        decode mac secret (.ofSeconds now) token =
          if issued + ttl < now then .error (.refused .sessionExpired)
          else if 1 ≤ id then .ok ⟨id, (email.filter (· ≠ "")).map .text, issued + ttl⟩
          else .error (.refused .sessionWithoutUser)) ∧
      (¬Admits secret (Bytes.ofText secret) → ∀ now identity,
        decode mac secret now token = .ok identity →
          ∃ other signed, other ≠ Bytes.ofText secret ∧
            mac (Bytes.ofText secret) signed = mac other signed) := by
  have short {seconds : Int} (calendar : (Instant.ofSeconds seconds).InCalendar) :
      (Nat.toDigits 10 seconds.natAbs).length ≤ Text.maxIntegerDigits := by
    have bounds := calendar.seconds
    rw [Instant.manySeconds, Date.manyDays, Instant.secondsPerDay] at bounds
    exact Text.short_of_lt (by omega)
  let claims := userClaims id email issued (issued + ttl)
  refine ⟨signedToken mac (Bytes.ofText secret) (.object claims),
    issue_eq_ok.mpr ⟨_, Instant.after_ofSeconds start ending, signs, ?_⟩,
    fun admitted now => decode_userToken admitted small (short start) (short ending),
    fun foreign now identity accepted => collision_of_decode foreign accepted⟩
  rw [claims_ofUser]

theorem sample_token_round_trips :
    ∃ token,
      issue Hmac.sha256 sampleSecret (.ofUser 42 (some "member@example.com") (.ofSeconds sampleNoon)
        (300 * Instant.microsPerSecond)) = .ok token ∧
      decode Hmac.sha256 sampleSecret (.ofSeconds (sampleNoon + 300)) token =
        .ok ⟨42, some (.text "member@example.com"), sampleNoon + 300⟩ ∧
      decode Hmac.sha256 sampleSecret (.ofSeconds (sampleNoon + 301)) token =
        .error (.refused .sessionExpired) := by
  have start : (Instant.ofSeconds sampleNoon).InCalendar := ⟨by decide, by decide⟩
  have ending : (Instant.ofSeconds (sampleNoon + 300)).InCalendar := ⟨by decide, by decide⟩
  have small : (42 : Int) < Instant.longLimit := by decide
  rcases issued_token_round_trips Hmac.sha256 (some "member@example.com") sampleSecret_signs start
    ending small with ⟨token, issues, own, _⟩
  exact ⟨token, issues, own sampleSecret_admits _, own sampleSecret_admits _⟩

def sampleClaims : Json :=
  .object (userClaims 42 none sampleNoon (sampleNoon + 300))

theorem sample_signatures_differ :
    Hmac.sha256 (Bytes.ofText sampleQuoted) (Bytes.ofText (signedText sampleClaims)) ≠
      Hmac.sha256 (Bytes.ofText sampleSecret) (Bytes.ofText (signedText sampleClaims)) := by
  decide +kernel

theorem sample_quoted_secret_fails :
    ∃ token,
      issue Hmac.sha256 sampleQuoted (.ofUser 42 none (.ofSeconds sampleNoon)
        (300 * Instant.microsPerSecond)) = .ok token ∧
      decode Hmac.sha256 sampleQuoted (.ofSeconds sampleNoon) token =
        .error (.refused .invalidSession) := by
  refine ⟨signedToken Hmac.sha256 (Bytes.ofText sampleQuoted) sampleClaims, ?_, ?_⟩
  · refine issue_eq_ok.mpr ⟨.ofSeconds (sampleNoon + 300),
      Instant.after_ofSeconds ⟨by decide, by decide⟩ ⟨by decide, by decide⟩,
      isForeign_of_no_dash (by decide), ?_⟩
    rw [claims_ofUser, sampleClaims]
  · have key := keyBytes_text.mpr ⟨sampleSecret_signs, rfl⟩
    rw [decode, signedClaims_of_others keysNamed_sampleQuoted
      (List.forall_mem_singleton.mpr ⟨_, key, sample_signatures_differ⟩)]
    rfl

end OrderDesk.Session
