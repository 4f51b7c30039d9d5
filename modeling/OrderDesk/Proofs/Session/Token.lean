import Mathlib.Data.List.TakeWhile
import OrderDesk.Proofs.Failure
import OrderDesk.Session.Identity

/-!
The parts of a session token, and the keys under which its signature may have been made. The points
that matter are the first one, behind the header, and the last one, before the signature; all that
stands before that one is signed. A secret may name several keys, which are tried in turn.
-/

namespace OrderDesk

namespace SessionToken

variable {bytes front back : Bytes}

/-! ## Splitting at a point -/

theorem splitFirst?_append (before : point ∉ front) :
    splitFirst? (front ++ point :: back) = some (front, back) := by
  have others : ∀ byte ∈ front, (byte != point) = true := fun byte member =>
    bne_iff_ne.mpr fun isPoint => before (isPoint ▸ member)
  have stop : ¬(point != point) = true := by rw [bne_self_eq_false]; exact Bool.false_ne_true
  rw [splitFirst?, List.dropWhile_append_of_pos others, List.takeWhile_append_of_pos others,
    List.dropWhile_cons, List.takeWhile_cons, if_neg stop, if_neg stop, List.append_nil]

theorem splitFirst?_eq_none (missing : point ∉ bytes) : splitFirst? bytes = none := by
  have others : ∀ byte ∈ bytes, (byte != point) = true := fun byte member =>
    bne_iff_ne.mpr fun isPoint => missing (isPoint ▸ member)
  rw [splitFirst?, List.dropWhile_eq_nil_iff.mpr others]

theorem splitFirst?_eq_some :
    splitFirst? bytes = some (front, back) ↔ bytes = front ++ point :: back ∧ point ∉ front := by
  constructor
  · intro split
    by_cases there : point ∈ bytes
    · rcases List.eq_append_cons_of_mem there with ⟨before, after, rfl, first⟩
      rw [splitFirst?_append first] at split
      cases split
      exact ⟨rfl, first⟩
    · rw [splitFirst?_eq_none there] at split
      exact nomatch split
  · rintro ⟨rfl, first⟩
    exact splitFirst?_append first

theorem splitLast?_eq_some :
    splitLast? bytes = some (front, back) ↔ bytes = front ++ point :: back ∧ point ∉ back := by
  have turned : splitLast? bytes = some (front, back) ↔
      splitFirst? bytes.reverse = some (back.reverse, front.reverse) := by
    rw [splitLast?, Option.map_eq_some_iff]
    constructor
    · rintro ⟨⟨after, before⟩, split, same⟩
      cases same
      rw [split, List.reverse_reverse, List.reverse_reverse]
    · intro split
      refine ⟨_, split, ?_⟩
      change (front.reverse.reverse, back.reverse.reverse) = (front, back)
      rw [List.reverse_reverse, List.reverse_reverse]
  rw [turned, splitFirst?_eq_some, List.mem_reverse, List.reverse_eq_iff]
  simp

end SessionToken

namespace Session

variable {bytes : Bytes} {fields : Fields}

/-! ## Taking a token apart -/

theorem need_eq_ok {α : Type} {found : Option α} {value : α} :
    need found = .ok value ↔ found = some value := by
  cases found with
  | none => exact ⟨nofun, nofun⟩
  | some present => rw [need, Except.ok.injEq, Option.some.injEq]

def Writes (bytes : Bytes) (fields : Fields) : Prop :=
  ∃ text, Bytes.toText? bytes = some text ∧ Json.parse text reading = .ok (.object fields)

theorem fieldsOf_eq_ok : fieldsOf bytes = .ok fields ↔ Writes bytes fields := by
  rw [fieldsOf, Outcome.bind_eq_ok, Writes]
  refine exists_congr fun text => ?_
  rw [need_eq_ok]
  refine and_congr_right fun _ => ?_
  split
  · next object parsed =>
    rw [parsed]
    exact ⟨fun same => congrArg _ (congrArg _ (Except.ok.inj same)), fun same => by cases same; rfl⟩
  · next parsed => exact ⟨nofun, fun same => nomatch parsed.symm.trans same⟩
  · next noObject _ => exact ⟨nofun, fun same => absurd same (noObject fields)⟩

end Session

namespace SessionToken

/-- A text in which a token stands: a header, a payload and a signature with points between. -/
structure Written (text : String) (token : SessionToken) (header payload signature : Bytes) :
    Prop where
  whole : Bytes.ofText text = token.signed ++ point :: signature
  signed : token.signed = header ++ point :: payload
  first : point ∉ header
  last : point ∉ signature
  header : ∃ bytes, Base64.decodeUrl? header = some bytes ∧ Session.Writes bytes token.header
  payload : Base64.decodeUrl? payload = some token.payload
  signature : Base64.decodeUrl? signature = some token.signature

theorem parse_eq_ok {text : String} {token : SessionToken} :
    parse text = .ok token ↔
      ∃ header payload signature, Written text token header payload signature := by
  constructor
  · intro parsed
    rcases Outcome.bind_eq_ok.mp parsed with ⟨⟨signed, signature⟩, halved, parsed⟩
    rcases Outcome.bind_eq_ok.mp parsed with ⟨⟨header, payload⟩, split, parsed⟩
    rcases Outcome.bind_eq_ok.mp parsed with ⟨headerBytes, headerRead, parsed⟩
    rcases Outcome.bind_eq_ok.mp parsed with ⟨fields, written, parsed⟩
    rcases Outcome.bind_eq_ok.mp parsed with ⟨payloadBytes, payloadRead, parsed⟩
    rcases Outcome.bind_eq_ok.mp parsed with ⟨signatureBytes, signatureRead, same⟩
    cases same
    rcases splitLast?_eq_some.mp (Session.need_eq_ok.mp halved) with ⟨whole, last⟩
    rcases splitFirst?_eq_some.mp (Session.need_eq_ok.mp split) with ⟨joined, first⟩
    exact ⟨header, payload, signature, {
      whole
      signed := joined
      first
      last
      header := ⟨headerBytes, Session.need_eq_ok.mp headerRead, Session.fieldsOf_eq_ok.mp written⟩
      payload := Session.need_eq_ok.mp payloadRead
      signature := Session.need_eq_ok.mp signatureRead }⟩
  · rintro ⟨header, payload, signature, written⟩
    rcases written.header with ⟨headerBytes, headerRead, headerWritten⟩
    refine Outcome.bind_eq_ok.mpr ⟨(token.signed, signature), Session.need_eq_ok.mpr
      (splitLast?_eq_some.mpr ⟨written.whole, written.last⟩), ?_⟩
    refine Outcome.bind_eq_ok.mpr ⟨(header, payload), Session.need_eq_ok.mpr
      (splitFirst?_eq_some.mpr ⟨written.signed, written.first⟩), ?_⟩
    refine Outcome.bind_eq_ok.mpr ⟨headerBytes, Session.need_eq_ok.mpr headerRead, ?_⟩
    refine Outcome.bind_eq_ok.mpr ⟨token.header, Session.fieldsOf_eq_ok.mpr headerWritten, ?_⟩
    refine Outcome.bind_eq_ok.mpr ⟨token.payload, Session.need_eq_ok.mpr written.payload, ?_⟩
    exact Outcome.bind_eq_ok.mpr ⟨token.signature, Session.need_eq_ok.mpr written.signature, rfl⟩

end SessionToken

namespace Session

variable {mac : Mac} {secret text : String} {signed signature key : Bytes} {keys : List Json}

/-! ## Keys -/

theorem dash_mem_armourLines {line : String} (member : line ∈ armourLines) : '-' ∈ line.toList := by
  simp only [armourLines, List.mem_flatMap, List.mem_map] at member
  rcases member with ⟨label, _, opening, _, closing, _, rfl⟩
  simp

theorem isForeign_of_no_dash (noDash : '-' ∉ secret.toList) : isForeign secret = false := by
  rw [Bool.eq_false_iff]
  intro foreign
  rw [isForeign, Bool.or_eq_true, List.any_eq_true] at foreign
  rcases foreign with ⟨part, member, occurs⟩ | certificate
  · refine noDash ((Text.occursIn_iff.mp occurs).subset ?_)
    rcases List.mem_append.mp member with armour | type
    · exact dash_mem_armourLines armour
    · have dashes : ∀ type ∈ shellKeyTypes, '-' ∈ type.toList := by decide
      exact dashes part type
  · rw [isShellCertificate] at certificate
    simp only [Bool.and_eq_true, List.isSuffixOf_iff_suffix] at certificate
    have dash : '-' ∈ shellCertificateSuffix.toList := by decide
    exact noDash ((List.takeWhile_sublist _).subset (certificate.1.1.subset dash))

/-- A secret is tried as a key if it names it, behind others that are keys as well. -/
def Tries (keys : List Json) (key : Bytes) : Prop :=
  ∃ before named after, keys = before ++ named :: after ∧
    (∀ other ∈ before, ∃ bytes, keyBytes other = .ok bytes) ∧ keyBytes named = .ok key

theorem tries_nil : ¬Tries [] key := by
  rintro ⟨before, named, after, none, _⟩
  exact List.append_ne_nil_of_right_ne_nil before (List.cons_ne_nil named after) none.symm

theorem tries_cons {first : Json} {rest : List Json} :
    Tries (first :: rest) key ↔
      ∃ bytes, keyBytes first = .ok bytes ∧ (bytes = key ∨ Tries rest key) := by
  constructor
  · rintro ⟨before, named, after, same, usable, found⟩
    cases before with
    | nil =>
      cases same
      exact ⟨key, found, .inl rfl⟩
    | cons other before =>
      cases same
      rcases usable first List.mem_cons_self with ⟨bytes, isKey⟩
      exact ⟨bytes, isKey, .inr ⟨before, named, after, rfl,
        fun other member => usable other (List.mem_cons_of_mem _ member), found⟩⟩
  · rintro ⟨bytes, isKey, rfl | ⟨before, named, after, rfl, usable, found⟩⟩
    · exact ⟨[], first, rest, rfl, nofun, isKey⟩
    · refine ⟨first :: before, named, after, rfl, fun other member => ?_, found⟩
      rcases List.mem_cons.mp member with rfl | member
      · exact ⟨bytes, isKey⟩
      · exact usable other member

theorem isSignedBy_eq_true :
    isSignedBy mac signed signature keys = .ok true ↔
      ∃ key, Tries keys key ∧ signature = mac key signed := by
  induction keys with
  | nil => exact ⟨nofun, fun ⟨_, tried, _⟩ => absurd tried tries_nil⟩
  | cons first rest induction =>
    rw [isSignedBy, Outcome.bind_eq_ok]
    simp only [tries_cons]
    constructor
    · rintro ⟨bytes, isKey, tried⟩
      split at tried
      · next fits => exact ⟨bytes, ⟨bytes, isKey, .inl rfl⟩, fits⟩
      · rcases induction.mp tried with ⟨key, later, fits⟩
        exact ⟨key, ⟨bytes, isKey, .inr later⟩, fits⟩
    · rintro ⟨key, ⟨bytes, isKey, tried⟩, fits⟩
      refine ⟨bytes, isKey, ?_⟩
      split
      · rfl
      · next differs =>
        rcases tried with rfl | later
        · exact absurd fits differs
        · exact induction.mpr ⟨key, later, fits⟩

/-- A key under which the tokens of a secret may be signed. -/
def Admits (secret : String) (key : Bytes) : Prop :=
  ∃ keys, keysNamed secret = .ok keys ∧ Tries keys key

/-- A secret that is no JSON admits itself alone. -/
theorem admits_of_not_json (noJson : ∀ value, Json.parse secret keyReading ≠ .ok value) :
    Admits secret key ↔ keyBytes (.text secret) = .ok key := by
  have itself : keysNamed secret = .ok [.text secret] := by
    rw [keysNamed]
    cases read : Json.parse secret keyReading with
    | ok value => exact absurd read (noJson value)
    | error failure => rfl
  constructor
  · rintro ⟨keys, named, tried⟩
    cases itself.symm.trans named
    rcases tries_cons.mp tried with ⟨bytes, isKey, rfl | later⟩
    · exact isKey
    · exact absurd later tries_nil
  · intro isKey
    exact ⟨_, itself, tries_cons.mpr ⟨key, isKey, .inl rfl⟩⟩

theorem keyBytes_text {secret : String} :
    keyBytes (.text secret) = .ok key ↔ isForeign secret = false ∧ key = Bytes.ofText secret := by
  rw [keyBytes]
  cases isForeign secret with
  | true => exact ⟨nofun, nofun⟩
  | false => exact ⟨fun same => ⟨rfl, (Except.ok.inj same).symm⟩, fun same => same.2 ▸ rfl⟩

/-! ## The checks of a signed token -/

def checkName (stated : Option Json) (name : String) (refusal : Refusal) : Except Failure Unit :=
  match stated with
  | some (.text given) => if given ≠ name then .error (.refused refusal) else .ok ()
  | _ => .error (.refused refusal)

theorem checkName_eq_ok {stated : Option Json} {name : String} {refusal : Refusal} :
    checkName stated name refusal = .ok () ↔ stated = some (.text name) := by
  rw [checkName.eq_def]
  split
  · split
    · next given other =>
      exact ⟨nofun, fun same => absurd (Json.text.inj (Option.some.inj same)) other⟩
    · next given same =>
      rw [not_not.mp same]
      exact ⟨fun _ => rfl, fun _ => rfl⟩
  · next other => exact ⟨nofun, fun named => absurd named (other _)⟩

theorem checkName_bind {α : Type} {stated : Option Json} {name : String} {refusal : Refusal}
    {rest : Except Failure α} :
    (match stated with
      | some (.text given) =>
        if given ≠ name then (.error (.refused refusal) : Except Failure α) else rest
      | _ => .error (.refused refusal)) =
      checkName stated name refusal >>= fun _ => rest := by
  cases stated with
  | none => rfl
  | some value =>
    cases value with
    | text given =>
      rw [checkName]
      dsimp only
      split <;> rfl
    | _ => rfl

/-- A signature that has been made under a key of a secret. -/
def SignedUnder (mac : Mac) (secret : String) (token : SessionToken) : Prop :=
  ∃ key, Admits secret key ∧ token.signature = mac key token.signed

def isSigned (mac : Mac) (secret : String) (token : SessionToken) : Except Failure Bool :=
  Failure.breaking (keysNamed secret >>= isSignedBy mac token.signed token.signature)

theorem isSigned_eq_true {token : SessionToken} :
    isSigned mac secret token = .ok true ↔ SignedUnder mac secret token := by
  rw [isSigned, Failure.breaking_eq_ok, Outcome.bind_eq_ok, SignedUnder]
  simp only [isSignedBy_eq_true, Admits]
  constructor
  · rintro ⟨keys, named, key, tried, fits⟩
    exact ⟨key, ⟨keys, named, tried⟩, fits⟩
  · rintro ⟨key, ⟨keys, named, tried⟩, fits⟩
    exact ⟨keys, named, key, tried, fits⟩

def checkSignature (mac : Mac) (secret : String) (token : SessionToken) : Except Failure Unit :=
  isSigned mac secret token >>= fun signed => if !signed then invalid else .ok ()

theorem checkSignature_eq_ok {token : SessionToken} :
    checkSignature mac secret token = .ok () ↔ SignedUnder mac secret token := by
  rw [checkSignature, Outcome.bind_eq_ok, ← isSigned_eq_true]
  constructor
  · rintro ⟨signed, found, passed⟩
    cases signed with
    | false => exact nomatch passed
    | true => exact found
  · intro found
    exact ⟨true, found, rfl⟩

theorem signedClaims_eq : signedClaims mac secret text = SessionToken.parse text >>= fun token =>
    checkName (token.header.get? "alg") algorithm .invalidSession >>= fun _ =>
      checkSignature mac secret token >>= fun _ => fieldsOf token.payload := by
  rw [signedClaims]
  refine Outcome.bind_congr fun token _ => ?_
  have checked : (checkSignature mac secret token >>= fun _ => fieldsOf token.payload) =
      isSigned mac secret token >>= fun signed =>
        if !signed then invalid >>= fun _ : Unit => fieldsOf token.payload
        else fieldsOf token.payload := by
    rw [checkSignature, bind_assoc]
    refine Outcome.bind_congr fun signed _ => ?_
    cases signed <;> rfl
  rw [checked]
  exact checkName_bind

theorem signedClaims_eq_ok {claims : Fields} :
    signedClaims mac secret text = .ok claims ↔ ∃ token, SessionToken.parse text = .ok token ∧
      token.header.get? "alg" = some (.text algorithm) ∧ SignedUnder mac secret token ∧
      Writes token.payload claims := by
  rw [signedClaims_eq, Outcome.bind_eq_ok]
  simp only [Outcome.check_bind_eq_ok, checkName_eq_ok, checkSignature_eq_ok, fieldsOf_eq_ok]

end Session

end OrderDesk
