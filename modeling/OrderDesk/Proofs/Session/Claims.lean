import OrderDesk.Proofs.Session.Token
import OrderDesk.Proofs.Text.Digits

/-!
What the claims of a token have to say: times that are whole numbers and enclose the present one,
and a subject made of digits. Times are lenient: truth values, fractions and texts are numbers too.
-/

namespace OrderDesk.Session

variable {claims : Fields} {value : Json} {number now : Int} {text : String}
  {identity : SessionIdentity}

/-! ## Times -/

theorem claimInteger_eq_ok : claimInteger value = .ok number ↔ value.integer = .ok number := by
  rw [claimInteger]
  cases value.integer with
  | ok found =>
    dsimp only
    rw [Except.ok.injEq, Except.ok.injEq]
  | error cause => cases cause <;> exact ⟨nofun, nofun⟩

def checkTime (stated : Option Json) (check : Int → Except Failure Unit) : Except Failure Unit :=
  match stated with
  | some value => claimInteger value >>= check
  | none => .ok ()

theorem checkTime_eq_ok {stated : Option Json} {check : Int → Except Failure Unit} :
    checkTime stated check = .ok () ↔
      ∀ value, stated = some value → ∃ time, value.integer = .ok time ∧ check time = .ok () := by
  cases stated with
  | none => exact ⟨nofun, fun _ => rfl⟩
  | some value =>
    rw [checkTime, Outcome.bind_eq_ok]
    simp only [claimInteger_eq_ok, Option.some.injEq, forall_eq']

def checkBegun (now time : Int) : Except Failure Unit :=
  if now < time then invalid else .ok ()

def checkLasting (now time : Int) : Except Failure Unit :=
  if time < now then .error (.refused .sessionExpired) else .ok ()

theorem checkTimes_eq : checkTimes claims now =
    (checkTime (claims.get? "iat") fun _ => .ok ()) >>= fun _ =>
      checkTime (claims.get? "nbf") (checkBegun now) >>= fun _ =>
        checkTime (claims.get? "exp") (checkLasting now) := by
  rw [checkTimes]
  have begun {time : Int} {next : Unit → Except Failure Unit} :
      (checkBegun now time >>= next) = if now < time then invalid >>= next else next () := by
    rw [checkBegun]
    split <;> rfl
  cases claims.get? "iat" <;> cases claims.get? "nbf" <;> cases claims.get? "exp" <;>
    simp only [checkTime, bind_assoc, Outcome.ok_bind, begun] <;> rfl

/-- Claims of a token that is in force: all times are numbers, a time before which it is not valid
has come, and the time of its expiry has not passed. -/
structure InForce (claims : Fields) (now : Int) : Prop where
  issued : ∀ value, claims.get? "iat" = some value → ∃ time, value.integer = .ok time
  begun : ∀ value, claims.get? "nbf" = some value → ∃ time, value.integer = .ok time ∧ time ≤ now
  lasting : ∀ value, claims.get? "exp" = some value → ∃ time, value.integer = .ok time ∧ now ≤ time

theorem checkBegun_eq_ok {time : Int} : checkBegun now time = .ok () ↔ time ≤ now := by
  rw [checkBegun]
  split
  · next early => exact ⟨nofun, fun begun => absurd early (Int.not_lt.mpr begun)⟩
  · next begun => exact ⟨fun _ => Int.not_lt.mp begun, fun _ => rfl⟩

theorem checkLasting_eq_ok {time : Int} : checkLasting now time = .ok () ↔ now ≤ time := by
  rw [checkLasting]
  split
  · next late => exact ⟨nofun, fun lasting => absurd late (Int.not_lt.mpr lasting)⟩
  · next lasting => exact ⟨fun _ => Int.not_lt.mp lasting, fun _ => rfl⟩

theorem checkTimes_eq_ok : checkTimes claims now = .ok () ↔ InForce claims now := by
  rw [checkTimes_eq]
  simp only [Outcome.check_bind_eq_ok, checkTime_eq_ok, checkBegun_eq_ok, checkLasting_eq_ok,
    and_true]
  exact ⟨fun ⟨issued, begun, lasting⟩ => ⟨issued, begun, lasting⟩,
    fun ⟨issued, begun, lasting⟩ => ⟨issued, begun, lasting⟩⟩

/-! ## The subject -/

/-- A text denotes a number if, blanks around it aside, it consists of digits that form it. -/
def Denotes (text : String) (number : Int) : Prop :=
  ∃ values, values ≠ [] ∧ Text.HasValues (Text.trim text).toList values ∧
    number = Text.ofDigits values

def AllDigits (text : String) : Prop :=
  text ≠ "" ∧ ∀ character ∈ text.toList, Text.isDigit character = true

theorem not_allDigits :
    (text = "" ∨ (!text.toList.all Text.isDigit) = true) ↔ ¬AllDigits text := by
  rw [AllDigits, Bool.not_eq_true', ← Bool.not_eq_true, List.all_eq_true]
  tauto

theorem userId_eq_ok :
    userId text = .ok number ↔ AllDigits (Text.trim text) ∧
      Text.readInteger (Text.trim text) = .ok number ∧ 1 ≤ number := by
  rw [userId]
  dsimp only
  rw [Outcome.throw_ite_eq_ok, not_allDigits, not_not, Outcome.bind_eq_ok]
  simp only [Outcome.throw_ite_eq_ok, Outcome.mapError_eq_ok]
  refine and_congr_right fun _ => ⟨?_, ?_⟩
  · rintro ⟨_, reads, positive, ⟨⟩⟩
    exact ⟨reads, Int.not_le.mp positive⟩
  · rintro ⟨reads, positive⟩
    exact ⟨number, reads, Int.not_le.mpr positive, rfl⟩

theorem denotes_of_userId (found : userId text = .ok number) :
    Denotes text number ∧ 1 ≤ number := by
  rcases userId_eq_ok.mp found with ⟨⟨some_digit, digits⟩, reads, positive⟩
  rcases (Text.readInteger_of_digits some_digit digits).mp reads with ⟨values, valued, _, same⟩
  refine ⟨⟨values, ?_, valued, same⟩, positive⟩
  rintro rfl
  exact some_digit (String.toList_eq_nil_iff.mp (List.map_eq_nil_iff.mp valued))

theorem sub_of_userId (found : userId (subject claims) = .ok number) :
    claims.get? "sub" = some (.text (subject claims)) := by
  rw [subject] at found ⊢
  split at found
  · assumption
  · exact nomatch found

/-! ## The identity -/

/-- What claims say about the caller. -/
structure Identifies (claims : Fields) (identity : SessionIdentity) : Prop where
  type : claims.get? "type" = some (.text tokenType)
  user : userId (subject claims) = .ok identity.userId
  email : identity.email = (claims.get? "email").filter (·.isPresent)
  ending : ∀ value, claims.get? "exp" = some value → value.integer = .ok identity.expiresAt
  endless : claims.get? "exp" = none → identity.expiresAt = 0

def statedExpiry (stated : Option Json) : Except Failure Int :=
  match stated with
  | some value => claimInteger value
  | none => .ok 0

theorem statedExpiry_eq_ok {stated : Option Json} : statedExpiry stated = .ok number ↔
    (∀ value, stated = some value → value.integer = .ok number) ∧ (stated = none → number = 0) := by
  cases stated with
  | none =>
    rw [statedExpiry, Except.ok.injEq]
    exact ⟨fun same => ⟨nofun, fun _ => same.symm⟩, fun endless => (endless.2 rfl).symm⟩
  | some value =>
    rw [statedExpiry, claimInteger_eq_ok]
    exact ⟨fun read => ⟨fun _ same => Option.some.inj same ▸ read, nofun⟩,
      fun ending => ending.1 value rfl⟩

theorem identity_eq : Session.identity claims =
    checkName (claims.get? "type") tokenType .invalidSessionType >>= fun _ =>
      userId (subject claims) >>= fun userId =>
        statedExpiry (claims.get? "exp") >>= fun expiresAt =>
          .ok { userId, email := (claims.get? "email").filter (·.isPresent), expiresAt } := by
  have ends {userId : Int} {email : Option Json} :
      (statedExpiry (claims.get? "exp") >>= fun expiresAt =>
        (.ok { userId, email, expiresAt } : Except Failure SessionIdentity)) =
      match claims.get? "exp" with
      | some value => claimInteger value >>= fun expiresAt => .ok { userId, email, expiresAt }
      | none => .ok { userId, email, expiresAt := 0 } := by
    cases claims.get? "exp" <;> rfl
  simp only [ends]
  exact checkName_bind

theorem identity_eq_ok : Session.identity claims = .ok identity ↔ Identifies claims identity := by
  rw [identity_eq, Outcome.check_bind_eq_ok, checkName_eq_ok]
  simp only [Outcome.bind_eq_ok, statedExpiry_eq_ok]
  constructor
  · rintro ⟨type, user, found, expiry, ⟨ending, endless⟩, ⟨⟩⟩
    exact ⟨type, found, rfl, ending, endless⟩
  · intro named
    refine ⟨named.type, _, named.user, _, ⟨named.ending, named.endless⟩, ?_⟩
    rw [← named.email]

/-! ## The whole token -/

/-- An audience and an access token are not named, and what has to be a text is one. -/
structure Unnamed (claims : Fields) : Prop where
  audience : claims.get? "aud" = none
  subject : isTextOrAbsent (claims.get? "sub") = true
  id : isTextOrAbsent (claims.get? "jti") = true
  access : claims.get? "at_hash" = none

theorem checkNames_eq_ok : checkNames claims = .ok () ↔ Unnamed claims := by
  rw [checkNames]
  simp only [Option.isNone_iff_eq_none]
  split
  · next passed => exact ⟨fun _ => ⟨passed.1, passed.2.1, passed.2.2.1, passed.2.2.2⟩, fun _ => rfl⟩
  · next failed =>
    exact ⟨nofun, fun unnamed =>
      absurd ⟨unnamed.audience, unnamed.subject, unnamed.id, unnamed.access⟩ failed⟩

theorem decode_eq_ok {mac : Mac} {secret token : String} {now : Instant} :
    decode mac secret now token = .ok identity ↔ ∃ claims,
      signedClaims mac secret token = .ok claims ∧
      InForce claims (now.micros / Instant.microsPerSecond) ∧ Unnamed claims ∧
      Identifies claims identity := by
  rw [decode, Outcome.bind_eq_ok]
  simp only [Outcome.check_bind_eq_ok, checkTimes_eq_ok, checkNames_eq_ok, identity_eq_ok]

end OrderDesk.Session
