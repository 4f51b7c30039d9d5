import OrderDesk.Proofs.Session.Claims
import OrderDesk.Proofs.Session.Signing

/-!
How reading a token ends when it does not yield an identity: with a refusal as unauthorized, but
for what breaks it off. JSON nested too deeply does so, a key that cannot be used, a time that is no
kind of number, and a subject of digits that form no number.
-/

namespace OrderDesk.Session

variable {mac : Mac} {secret text : String} {bytes signed signature : Bytes} {keys : List Json}
  {claims : Fields} {value : Json} {now : Int} {token : SessionToken} {fault : Fault}

/-! ## Breaking off -/

theorem need_bind_eq_broken {α β : Type} {found : Option α} {next : α → Except Failure β} :
    (need found >>= next) = .error (.broken fault) ↔
      ∃ value, found = some value ∧ next value = .error (.broken fault) := by
  cases found with
  | none => exact ⟨nofun, nofun⟩
  | some value =>
    refine ⟨fun broken => ⟨value, rfl, broken⟩, ?_⟩
    rintro ⟨_, ⟨⟩, broken⟩
    exact broken

/-- Bytes that write JSON with too many lists and objects inside each other. -/
def TooDeep (bytes : Bytes) : Prop :=
  ∃ text, Bytes.toText? bytes = some text ∧ Json.parse text reading = .error .nestedTooDeeply

theorem fieldsOf_eq_broken :
    fieldsOf bytes = .error (.broken fault) ↔ TooDeep bytes ∧ fault = .nestedTooDeeply := by
  rw [fieldsOf, need_bind_eq_broken, TooDeep]
  constructor
  · rintro ⟨text, decoded, broken⟩
    split at broken
    · cases broken
    · next deep =>
      cases broken
      exact ⟨⟨text, decoded, deep⟩, rfl⟩
    · cases broken
  · rintro ⟨⟨text, decoded, deep⟩, rfl⟩
    refine ⟨text, decoded, ?_⟩
    rw [deep]
    rfl

def DeepHeader (text : String) : Prop :=
  ∃ signed signature header payload bytes,
    Bytes.ofText text = signed ++ SessionToken.point :: signature ∧
    SessionToken.point ∉ signature ∧ signed = header ++ SessionToken.point :: payload ∧
    SessionToken.point ∉ header ∧ Base64.decodeUrl? header = some bytes ∧ TooDeep bytes

theorem parse_eq_broken : SessionToken.parse text = .error (.broken fault) ↔
    DeepHeader text ∧ fault = .nestedTooDeeply := by
  rw [SessionToken.parse, need_bind_eq_broken]
  constructor
  · rintro ⟨⟨signed, signature⟩, halved, broken⟩
    rcases need_bind_eq_broken.mp broken with ⟨⟨header, payload⟩, split, broken⟩
    rcases need_bind_eq_broken.mp broken with ⟨bytes, decoded, broken⟩
    rcases SessionToken.splitLast?_eq_some.mp halved with ⟨whole, last⟩
    rcases SessionToken.splitFirst?_eq_some.mp split with ⟨joined, first⟩
    rcases Outcome.bind_eq_error.mp broken with unread | ⟨fields, _, broken⟩
    · rcases fieldsOf_eq_broken.mp unread with ⟨deep, rfl⟩
      exact ⟨⟨signed, signature, header, payload, bytes, whole, last, joined, first, decoded, deep⟩,
        rfl⟩
    · rcases need_bind_eq_broken.mp broken with ⟨_, _, broken⟩
      rcases need_bind_eq_broken.mp broken with ⟨_, _, ⟨⟩⟩
  · rintro ⟨⟨signed, signature, header, payload, bytes, whole, last, joined, first, decoded, deep⟩,
      rfl⟩
    refine ⟨_, SessionToken.splitLast?_eq_some.mpr ⟨whole, last⟩, need_bind_eq_broken.mpr
      ⟨_, SessionToken.splitFirst?_eq_some.mpr ⟨joined, first⟩, need_bind_eq_broken.mpr
        ⟨bytes, decoded, Outcome.bind_eq_error.mpr (.inl ?_)⟩⟩⟩
    exact fieldsOf_eq_broken.mpr ⟨deep, rfl⟩

/-- Keys that are tried in turn up to one that cannot be used. -/
def Stumbles (mac : Mac) (token : SessionToken) (keys : List Json) (fault : Fault) : Prop :=
  ∃ before named after, keys = before ++ named :: after ∧
    (∀ other ∈ before, ∃ key, keyBytes other = .ok key ∧ token.signature ≠ mac key token.signed) ∧
    keyBytes named = .error fault

theorem isSignedBy_eq_error :
    isSignedBy mac token.signed token.signature keys = .error fault ↔
      Stumbles mac token keys fault := by
  induction keys with
  | nil =>
    constructor
    · intro unusable
      cases unusable
    · rintro ⟨before, named, after, empty, _⟩
      exact absurd empty.symm
        (List.append_ne_nil_of_right_ne_nil before (List.cons_ne_nil named after))
  | cons first rest induction =>
    rw [isSignedBy, Outcome.bind_eq_error]
    constructor
    · rintro (unusable | ⟨key, isKey, later⟩)
      · exact ⟨[], first, rest, rfl, List.forall_mem_nil _, unusable⟩
      · split at later
        · cases later
        · next differs =>
          rcases induction.mp later with ⟨before, named, after, rfl, usable, unusable⟩
          refine ⟨first :: before, named, after, rfl, ?_, unusable⟩
          exact List.forall_mem_cons.mpr ⟨⟨key, isKey, differs⟩, usable⟩
    · rintro ⟨before, named, after, same, usable, unusable⟩
      cases before with
      | nil =>
        cases same
        exact .inl unusable
      | cons other before =>
        cases same
        rcases List.forall_mem_cons.mp usable with ⟨⟨key, isKey, differs⟩, usable⟩
        refine .inr ⟨key, isKey, ?_⟩
        rw [if_neg differs]
        exact induction.mpr ⟨before, named, after, rfl, usable, unusable⟩

inductive Inconvertible : Json → IntegerFault → Prop
  | null : Inconvertible .null .notConvertible
  | infinite (negative : Bool) : Inconvertible (.float (.infinite negative)) .infinite
  | list (items : List Json) : Inconvertible (.list items) .notConvertible
  | object (fields : Fields) : Inconvertible (.object fields) .notConvertible
  | misnamed (key : List Text.CodePoint) (value : Json) :
    Inconvertible (.misnamed key value) .notConvertible

theorem claimInteger_eq_broken : claimInteger value = .error (.broken fault) ↔
    ∃ cause, Inconvertible value cause ∧ fault = .integer cause := by
  constructor
  · intro broken
    cases value with
    | null =>
      cases broken
      exact ⟨_, .null, rfl⟩
    | bool => cases broken
    | int => cases broken
    | float value =>
      cases value with
      | finite => cases broken
      | infinite negative =>
        cases broken
        exact ⟨_, .infinite negative, rfl⟩
      | nan => cases broken
    | text value =>
      rw [claimInteger, Json.integer] at broken
      cases read : Text.readInteger value with
      | ok number =>
        rw [read] at broken
        cases broken
      | error cause =>
        rw [read] at broken
        cases cause <;> cases broken
    | unpaired => cases broken
    | list items =>
      cases broken
      exact ⟨_, .list items, rfl⟩
    | object fields =>
      cases broken
      exact ⟨_, .object fields, rfl⟩
    | misnamed key value =>
      cases broken
      exact ⟨_, .misnamed key value, rfl⟩
  · rintro ⟨cause, kind, rfl⟩
    cases kind <;> rfl

theorem checkTime_eq_broken {stated : Option Json} {check : Int → Except Failure Unit}
    (decides : ∀ time, check time ≠ .error (.broken fault)) :
    checkTime stated check = .error (.broken fault) ↔
      ∃ value, stated = some value ∧
        ∃ cause, Inconvertible value cause ∧ fault = .integer cause := by
  cases stated with
  | none => exact ⟨nofun, nofun⟩
  | some value =>
    rw [checkTime, Outcome.bind_eq_error, claimInteger_eq_broken]
    constructor
    · rintro (inconvertible | ⟨time, _, broken⟩)
      · exact ⟨value, rfl, inconvertible⟩
      · exact absurd broken (decides time)
    · rintro ⟨_, ⟨⟩, inconvertible⟩
      exact .inl inconvertible

/-- A claim about time that is no kind of number, behind others that are in order. -/
inductive MisstatesTime (claims : Fields) (now : Int) : IntegerFault → Prop
  | issued {value : Json} {cause : IntegerFault} (stated : claims.get? "iat" = some value)
    (kind : Inconvertible value cause) : MisstatesTime claims now cause
  | begun {value : Json} {cause : IntegerFault}
    (issued : ∀ value, claims.get? "iat" = some value → ∃ time, value.integer = .ok time)
    (stated : claims.get? "nbf" = some value) (kind : Inconvertible value cause) :
    MisstatesTime claims now cause
  | lasting {value : Json} {cause : IntegerFault}
    (issued : ∀ value, claims.get? "iat" = some value → ∃ time, value.integer = .ok time)
    (begun : ∀ value, claims.get? "nbf" = some value →
      ∃ time, value.integer = .ok time ∧ time ≤ now)
    (stated : claims.get? "exp" = some value) (kind : Inconvertible value cause) :
    MisstatesTime claims now cause

theorem checkTimes_eq_broken : checkTimes claims now = .error (.broken fault) ↔
    ∃ cause, MisstatesTime claims now cause ∧ fault = .integer cause := by
  have issues (time : Int) : (.ok () : Except Failure Unit) ≠ .error (.broken fault) := by
    rintro ⟨⟩
  have begins (time : Int) : checkBegun now time ≠ .error (.broken fault) := by
    rw [checkBegun]
    split <;> rintro ⟨⟩
  have lasts (time : Int) : checkLasting now time ≠ .error (.broken fault) := by
    rw [checkLasting]
    split <;> rintro ⟨⟩
  rw [checkTimes_eq, Outcome.check_bind_eq_error, Outcome.check_bind_eq_error,
    checkTime_eq_broken issues, checkTime_eq_broken begins, checkTime_eq_broken lasts,
    checkTime_eq_ok, checkTime_eq_ok]
  simp only [checkBegun_eq_ok, and_true]
  constructor
  · rintro (⟨value, stated, cause, kind, rfl⟩ | ⟨issued, ⟨value, stated, cause, kind, rfl⟩ |
      ⟨begun, value, stated, cause, kind, rfl⟩⟩)
    · exact ⟨cause, .issued stated kind, rfl⟩
    · exact ⟨cause, .begun issued stated kind, rfl⟩
    · exact ⟨cause, .lasting issued begun stated kind, rfl⟩
  · rintro ⟨cause, misstates, rfl⟩
    cases misstates with
    | issued stated kind => exact .inl ⟨_, stated, cause, kind, rfl⟩
    | begun issued stated kind => exact .inr ⟨issued, .inl ⟨_, stated, cause, kind, rfl⟩⟩
    | lasting issued begun stated kind =>
      exact .inr ⟨issued, .inr ⟨begun, _, stated, cause, kind, rfl⟩⟩

/-! ## Subjects and keys -/

theorem refuse_ite_eq_broken {α β : Type} {condition : Prop} [Decidable condition]
    {refusal : Refusal} {next : β → Except Failure α} {rest : Except Failure α} :
    (if condition then (throw (.refused refusal) >>= next) else rest) = .error (.broken fault) ↔
      ¬condition ∧ rest = .error (.broken fault) := by
  split
  · next holds => exact ⟨nofun, fun passed => absurd holds passed.1⟩
  · next passed => exact (and_iff_right passed).symm

/-- Digits around which there may be blanks, and which form no number. -/
def Misnumbered (subject : String) (cause : IntegerFault) : Prop :=
  AllDigits (Text.trim subject) ∧ ∃ reason,
    Text.readInteger (Text.trim subject) = .error reason ∧
      cause = .ofText (Text.trim subject) reason

theorem exists_misnumbered : (∃ cause, Misnumbered text cause) ↔ AllDigits (Text.trim text) ∧
    ((∃ digit ∈ (Text.trim text).toList, Text.decimalValue? digit = none) ∨
      Text.maxIntegerDigits < (Text.trim text).toList.length) := by
  constructor
  · rintro ⟨_, ⟨digits, reason, read, _⟩⟩
    refine ⟨digits, ?_⟩
    by_contra readable
    rw [not_or, Nat.not_lt] at readable
    rcases Text.exists_hasValues fun digit member none => readable.1 ⟨digit, member, none⟩ with
      ⟨values, valued⟩
    have number := (Text.readInteger_of_digits digits.1 digits.2).mpr
      ⟨values, valued, valued.length ▸ readable.2, rfl⟩
    exact nomatch number.symm.trans read
  · rintro ⟨digits, odd⟩
    cases read : Text.readInteger (Text.trim text) with
    | error reason => exact ⟨_, digits, reason, read, rfl⟩
    | ok number =>
      rcases (Text.readInteger_of_digits digits.1 digits.2).mp read with ⟨values, valued, few, _⟩
      rcases odd with ⟨digit, member, none⟩ | many
      · rcases valued.exists_value member with ⟨value, found⟩
        exact nomatch none.symm.trans found
      · exact absurd many (Nat.not_lt.mpr (valued.length ▸ few))

theorem userId_eq_broken : userId text = .error (.broken fault) ↔
    ∃ cause, Misnumbered text cause ∧ fault = .integer cause := by
  rw [userId]
  dsimp only
  rw [refuse_ite_eq_broken, not_allDigits, not_not, Outcome.bind_eq_error]
  constructor
  · rintro ⟨digits, unread | ⟨number, _, broken⟩⟩
    · cases read : Text.readInteger (Text.trim text) with
      | ok number =>
        rw [read] at unread
        cases unread
      | error reason =>
        rw [read] at unread
        cases unread
        exact ⟨_, ⟨digits, reason, read, rfl⟩, rfl⟩
    · cases (refuse_ite_eq_broken.mp broken).2
  · rintro ⟨_, ⟨digits, reason, read, rfl⟩, rfl⟩
    refine ⟨digits, .inl ?_⟩
    rw [read]
    rfl

theorem checkName_ne_broken {stated : Option Json} {name : String} {refusal : Refusal} :
    checkName stated name refusal ≠ .error (.broken fault) := by
  rw [checkName.eq_def]
  split
  · split <;> rintro ⟨⟩
  · rintro ⟨⟩

theorem identity_eq_broken
    (readable : ∀ value, claims.get? "exp" = some value → ∃ time, value.integer = .ok time) :
    identity claims = .error (.broken fault) ↔ claims.get? "type" = some (.text tokenType) ∧
      userId (subject claims) = .error (.broken fault) := by
  have unbroken (id : Int) : (statedExpiry (claims.get? "exp") >>= fun expiresAt => .ok
      { userId := id, email := (claims.get? "email").filter (·.isPresent), expiresAt }) ≠
        (.error (.broken fault) : Except Failure SessionIdentity) := by
    cases stated : claims.get? "exp" with
    | none => rintro ⟨⟩
    | some value =>
      rcases readable value stated with ⟨time, read⟩
      rw [statedExpiry, claimInteger_eq_ok.mpr read]
      rintro ⟨⟩
  rw [identity_eq, Outcome.check_bind_eq_error, checkName_eq_ok, Outcome.bind_eq_error]
  constructor
  · rintro (broken | ⟨type, broken | ⟨id, _, broken⟩⟩)
    · exact absurd broken checkName_ne_broken
    · exact ⟨type, broken⟩
    · exact absurd broken (unbroken id)
  · rintro ⟨type, broken⟩
    exact .inr ⟨type, .inl broken⟩

def Unkeyed (mac : Mac) (secret : String) (token : SessionToken) (fault : Fault) : Prop :=
  keysNamed secret = .error fault ∨
    ∃ keys, keysNamed secret = .ok keys ∧ Stumbles mac token keys fault

theorem isSigned_eq_broken :
    isSigned mac secret token = .error (.broken fault) ↔ Unkeyed mac secret token fault := by
  rw [isSigned, Failure.breaking_eq_broken, Outcome.bind_eq_error, Unkeyed]
  simp only [isSignedBy_eq_error]

theorem checkSignature_eq_broken :
    checkSignature mac secret token = .error (.broken fault) ↔ Unkeyed mac secret token fault := by
  rw [checkSignature, Outcome.bind_eq_error, isSigned_eq_broken]
  constructor
  · rintro (unkeyed | ⟨signed, _, broken⟩)
    · exact unkeyed
    · cases signed <;> cases broken
  · exact .inl

theorem signedClaims_eq_broken : signedClaims mac secret text = .error (.broken fault) ↔
    (DeepHeader text ∧ fault = .nestedTooDeeply) ∨ ∃ token, SessionToken.parse text = .ok token ∧
      token.header.get? "alg" = some (.text algorithm) ∧
      (Unkeyed mac secret token fault ∨
        SignedUnder mac secret token ∧ TooDeep token.payload ∧ fault = .nestedTooDeeply) := by
  rw [signedClaims_eq, Outcome.bind_eq_error, parse_eq_broken]
  refine or_congr_right (exists_congr fun token => and_congr_right fun _ => ?_)
  rw [Outcome.check_bind_eq_error, or_iff_right checkName_ne_broken, checkName_eq_ok,
    Outcome.check_bind_eq_error, checkSignature_eq_broken, checkSignature_eq_ok,
    fieldsOf_eq_broken]

/-! ## Tokens that break the reading off -/

/-- The texts that break reading off, each with its fault. -/
inductive Breaks (mac : Mac) (secret : String) (now : Int) (text : String) : Fault → Prop
  | header (deep : DeepHeader text) : Breaks mac secret now text .nestedTooDeeply
  | key {token : SessionToken} {fault : Fault} (parsed : SessionToken.parse text = .ok token)
    (named : token.header.get? "alg" = some (.text algorithm))
    (unkeyed : Unkeyed mac secret token fault) : Breaks mac secret now text fault
  | payload {token : SessionToken} (parsed : SessionToken.parse text = .ok token)
    (named : token.header.get? "alg" = some (.text algorithm))
    (signed : SignedUnder mac secret token) (deep : TooDeep token.payload) :
    Breaks mac secret now text .nestedTooDeeply
  | time {claims : Fields} {cause : IntegerFault}
    (signed : signedClaims mac secret text = .ok claims)
    (misstated : MisstatesTime claims now cause) : Breaks mac secret now text (.integer cause)
  | subject {claims : Fields} {cause : IntegerFault}
    (signed : signedClaims mac secret text = .ok claims) (inForce : InForce claims now)
    (unnamed : Unnamed claims) (type : claims.get? "type" = some (.text tokenType))
    (misnumbered : Misnumbered (subject claims) cause) :
    Breaks mac secret now text (.integer cause)

theorem checkNames_ne_broken : checkNames claims ≠ .error (.broken fault) := by
  rw [checkNames]
  split <;> rintro ⟨⟩

theorem decode_eq_broken {now : Instant} : decode mac secret now text = .error (.broken fault) ↔
    Breaks mac secret (now.micros / Instant.microsPerSecond) text fault := by
  rw [decode, Outcome.bind_eq_error, signedClaims_eq_broken]
  simp only [Outcome.check_bind_eq_error, checkTimes_eq_broken, checkTimes_eq_ok,
    or_iff_right checkNames_ne_broken, checkNames_eq_ok]
  constructor
  · rintro ((⟨deep, rfl⟩ | ⟨token, parsed, named, unkeyed | ⟨signed, deep, rfl⟩⟩) |
      ⟨claims, signed, ⟨cause, misstated, rfl⟩ | ⟨inForce, unnamed, broken⟩⟩)
    · exact .header deep
    · exact .key parsed named unkeyed
    · exact .payload parsed named signed deep
    · exact .time signed misstated
    · rcases (identity_eq_broken fun value stated =>
        (inForce.lasting value stated).imp fun _ => And.left).mp broken with ⟨type, broken⟩
      rcases userId_eq_broken.mp broken with ⟨cause, misnumbered, rfl⟩
      exact .subject signed inForce unnamed type misnumbered
  · intro breaks
    cases breaks with
    | header deep => exact .inl (.inl ⟨deep, rfl⟩)
    | key parsed named unkeyed => exact .inl (.inr ⟨_, parsed, named, .inl unkeyed⟩)
    | payload parsed named signed deep =>
      exact .inl (.inr ⟨_, parsed, named, .inr ⟨signed, deep, rfl⟩⟩)
    | time signed misstated => exact .inr ⟨_, signed, .inl ⟨_, misstated, rfl⟩⟩
    | subject signed inForce unnamed type misnumbered =>
      refine .inr ⟨_, signed, .inr ⟨inForce, unnamed, ?_⟩⟩
      exact (identity_eq_broken fun value stated =>
        (inForce.lasting value stated).imp fun _ => And.left).mpr
          ⟨type, userId_eq_broken.mpr ⟨_, misnumbered, rfl⟩⟩

/-! ## Refusals -/

def Unauthorizing {α : Type} (outcome : Except Failure α) : Prop :=
  ∀ refusal, outcome = .error (.refused refusal) → refusal.kind = .unauthorized

namespace Unauthorizing

variable {α β : Type} {outcome : Except Failure α} {next : α → Except Failure β} {refusal : Refusal}

theorem ok {value : α} : Unauthorizing (.ok value) :=
  nofun

theorem refused (unauthorized : refusal.kind = .unauthorized) :
    Unauthorizing (.error (.refused refusal) : Except Failure α) := by
  rintro _ ⟨⟩
  exact unauthorized

theorem invalid : Unauthorizing (Session.invalid : Except Failure α) :=
  refused rfl

theorem broken {fault : Fault} : Unauthorizing (.error (.broken fault) : Except Failure α) :=
  nofun

theorem bind (first : Unauthorizing outcome) (rest : ∀ value, Unauthorizing (next value)) :
    Unauthorizing (outcome >>= next) := by
  intro refusal refuses
  rcases Outcome.bind_eq_error.mp refuses with refuses | ⟨value, _, refuses⟩
  · exact first refusal refuses
  · exact rest value refusal refuses

theorem breaking {outcome : Except Fault α} : Unauthorizing (Failure.breaking outcome) := by
  cases outcome with
  | error => exact broken
  | ok => exact ok

end Unauthorizing

theorem need_unauthorizing {α : Type} {found : Option α} : Unauthorizing (need found) := by
  cases found with
  | none => exact .invalid
  | some => exact .ok

theorem fieldsOf_unauthorizing : Unauthorizing (fieldsOf bytes) := by
  refine need_unauthorizing.bind fun text => ?_
  split
  · exact .ok
  · exact .broken
  · exact .invalid

theorem parse_unauthorizing : Unauthorizing (SessionToken.parse text) :=
  need_unauthorizing.bind fun _ => need_unauthorizing.bind fun _ => need_unauthorizing.bind fun _ =>
    fieldsOf_unauthorizing.bind fun _ => need_unauthorizing.bind fun _ =>
      need_unauthorizing.bind fun _ => .ok

theorem checkName_unauthorizing {stated : Option Json} {name : String} {refusal : Refusal}
    (unauthorized : refusal.kind = .unauthorized) :
    Unauthorizing (checkName stated name refusal) := by
  rw [checkName.eq_def]
  split
  · split
    · exact .refused unauthorized
    · exact .ok
  · exact .refused unauthorized

theorem signedClaims_unauthorizing : Unauthorizing (signedClaims mac secret text) := by
  rw [signedClaims_eq]
  refine parse_unauthorizing.bind fun token => (checkName_unauthorizing rfl).bind fun _ =>
    Unauthorizing.bind (.bind .breaking fun signed => ?_) fun _ => fieldsOf_unauthorizing
  split
  · exact .invalid
  · exact .ok

theorem claimInteger_unauthorizing : Unauthorizing (claimInteger value) := by
  rw [claimInteger]
  split
  · exact .ok
  · exact .invalid
  · exact .invalid
  · exact .invalid
  · exact .broken

theorem checkTime_unauthorizing {stated : Option Json} {check : Int → Except Failure Unit}
    (checked : ∀ time, Unauthorizing (check time)) : Unauthorizing (checkTime stated check) := by
  cases stated with
  | none => exact .ok
  | some value => exact claimInteger_unauthorizing.bind checked

theorem checkTimes_unauthorizing : Unauthorizing (checkTimes claims now) := by
  rw [checkTimes_eq]
  refine (checkTime_unauthorizing fun _ => .ok).bind fun _ =>
    (checkTime_unauthorizing fun time => ?_).bind fun _ => checkTime_unauthorizing fun time => ?_
  · rw [checkBegun]
    split
    · exact .invalid
    · exact .ok
  · rw [checkLasting]
    split
    · exact .refused rfl
    · exact .ok

theorem checkNames_unauthorizing : Unauthorizing (checkNames claims) := by
  rw [checkNames]
  split
  · exact .ok
  · exact .invalid

theorem userId_unauthorizing : Unauthorizing (userId text) := by
  rw [userId]
  dsimp only
  split
  · exact .refused rfl
  · refine Unauthorizing.bind ?_ fun number => ?_
    · cases Text.readInteger (Text.trim text) with
      | ok => exact .ok
      | error => exact .broken
    · split
      · exact .refused rfl
      · exact .ok

theorem identity_unauthorizing : Unauthorizing (identity claims) := by
  rw [identity_eq]
  refine (checkName_unauthorizing rfl).bind fun _ => userId_unauthorizing.bind fun id =>
    Unauthorizing.bind ?_ fun _ => .ok
  cases claims.get? "exp" with
  | none => exact .ok
  | some value => exact claimInteger_unauthorizing

theorem decode_unauthorizing {now : Instant} : Unauthorizing (decode mac secret now text) :=
  signedClaims_unauthorizing.bind fun _ => checkTimes_unauthorizing.bind fun _ =>
    checkNames_unauthorizing.bind fun _ => identity_unauthorizing

/-! ## How reading ends -/

/-- Reading a token ends with an identity that has a user, with a refusal as unauthorized, or it
breaks off, and this exactly for the texts that break it off. -/
theorem decode_ends (mac : Mac) (secret : String) (now : Instant) (text : String) :
    ((∃ identity, decode mac secret now text = .ok identity ∧ 1 ≤ identity.userId) ∨
      (∃ refusal : Refusal, decode mac secret now text = .error (.refused refusal) ∧
        refusal.kind = .unauthorized) ∨
      ∃ fault, decode mac secret now text = .error (.broken fault)) ∧
    ∀ fault, decode mac secret now text = .error (.broken fault) ↔
      Breaks mac secret (now.micros / Instant.microsPerSecond) text fault := by
  refine ⟨?_, fun fault => decode_eq_broken⟩
  cases outcome : decode mac secret now text with
  | ok identity =>
    rcases decode_eq_ok.mp outcome with ⟨_, _, _, _, named⟩
    exact .inl ⟨identity, rfl, (denotes_of_userId named.user).2⟩
  | error failure =>
    cases failure with
    | refused refusal => exact .inr (.inl ⟨refusal, rfl, decode_unauthorizing refusal outcome⟩)
    | broken fault => exact .inr (.inr ⟨fault, rfl⟩)

def sampleSuperscript : Fields := [("sub", .text "²"), ("type", .text tokenType)]

theorem sample_superscript_breaks :
    decode Hmac.sha256 sampleSecret (.ofSeconds sampleNoon)
      (signedToken Hmac.sha256 (Bytes.ofText sampleSecret) (.object sampleSuperscript)) =
        .error (.broken (.integer (.malformed "²"))) := by
  have scalars : ∀ field ∈ sampleSuperscript, Json.Scalar field.2 := by
    simp only [sampleSuperscript, List.forall_mem_cons]
    exact ⟨.text _, .text _, nofun⟩
  have signed : signedClaims Hmac.sha256 sampleSecret (signedToken Hmac.sha256
      (Bytes.ofText sampleSecret) (.object sampleSuperscript)) = .ok sampleSuperscript :=
    signedClaims_signedToken sampleSecret_admits (List.cons_ne_nil _ _) scalars (by decide)
  rw [decode, signed]
  rfl

end OrderDesk.Session
