import OrderDesk.Text.Quoted
import OrderDesk.Text.Integer

/-!
Why an operation fails. A refusal belongs to the desk's own taxonomy and carries a status for the
caller; a fault is any other way in which an operation can break off.
-/

namespace OrderDesk

/-- The classes of refusal. A lack of balance is a special case of an invalid argument. -/
inductive RefusalKind
  | service
  | invalidArgument
  | insufficientBalance
  | unauthorized
  | forbidden
  | notFound
  | requestTimeout
  | conflict
  | internal
  | notImplemented
  deriving DecidableEq, Repr

namespace RefusalKind

def status : RefusalKind → Nat
  | service => 500
  | invalidArgument => 400
  | insufficientBalance => 400
  | unauthorized => 401
  | forbidden => 403
  | notFound => 404
  | requestTimeout => 408
  | conflict => 409
  | internal => 500
  | notImplemented => 501

def defaultDetail : RefusalKind → String
  | service => "internal error"
  | invalidArgument => "invalid argument"
  | insufficientBalance => "insufficient balance"
  | unauthorized => "unauthorized"
  | forbidden => "forbidden"
  | notFound => "not found"
  | requestTimeout => "request deadline exceeded"
  | conflict => "conflict"
  | internal => "internal error"
  | notImplemented => "not implemented"

def isInvalidArgument : RefusalKind → Bool
  | invalidArgument | insufficientBalance => true
  | _ => false

/-- The detail shown: a missing or empty one is replaced by that of the kind. -/
def detail (kind : RefusalKind) (given : Option String) : String :=
  match given with
  | some text => if text = "" then kind.defaultDetail else text
  | none => kind.defaultDetail

end RefusalKind

def named (text : Option String) : String :=
  text.getD "None"

inductive Refusal
  -- wallet
  | zeroAmount
  | unsupportedMovement (kind : Option String)
  | currencyMismatch (held requested : String)
  | insufficientBalance
  | refundNotPositive
  -- orders
  | illegalTransition (current target : String)
  | unsupportedPaymentMethod (method : String)
  | planRequired
  | planNotFound
  | planUnavailable
  | channelRequired
  | cannotCancel (status : String)
  | cannotMarkPaid (status : String)
  | chargeRequired
  | refundBeforeCancel
  | amountNotPositive
  | cannotRefund (status : String)
  | freeOrderRefund
  | refundNotBalancePaid
  | refundExceedsRemainder
  | orderNotFound
  | foreignOrder
  | adminRequired
  -- payment callbacks
  | callbackIdsRequired
  | unsupportedPaymentStatus (status : Option String)
  | cannotAcceptCallback (status result : String)
  | paymentNotFound
  | invalidCallbackBody
  -- the webhook's sender
  | peerDenied
  | malformedSignatureHeader
  | missingSignature
  | signatureOutsideTolerance
  | signatureMismatch
  | missingWebhookToken
  | invalidWebhookToken
  -- the gate for third parties
  | missingGateHeaders
  | invalidApiKey
  | invalidTimestamp
  | timestampOutsideWindow
  | gateSignatureMismatch
  | missingIv
  | invalidIv
  | invalidIvSize
  | undecipherableBody
  | unsupportedCipher (algorithm : String)
  -- sessions
  | missingSession
  | sessionExpired
  | invalidSession
  | invalidSessionType
  | sessionWithoutUser
  | sessionUserGone
  | accountDisabled
  -- the store
  | deadlinePassed
  | uniquenessViolated
  | storeFailed
  deriving DecidableEq, Repr

namespace Refusal

def kind : Refusal → RefusalKind
  | insufficientBalance => .insufficientBalance
  | orderNotFound | paymentNotFound => .notFound
  | foreignOrder | adminRequired | peerDenied | accountDisabled => .forbidden
  | malformedSignatureHeader | missingSignature | signatureOutsideTolerance
  | signatureMismatch | missingWebhookToken | invalidWebhookToken | missingGateHeaders
  | invalidApiKey | invalidTimestamp | timestampOutsideWindow | gateSignatureMismatch
  | missingIv | invalidIv | invalidIvSize | undecipherableBody | missingSession
  | sessionExpired | invalidSession | invalidSessionType | sessionWithoutUser
  | sessionUserGone => .unauthorized
  | unsupportedCipher _ => .notImplemented
  | deadlinePassed => .requestTimeout
  | uniquenessViolated => .conflict
  | storeFailed => .internal
  | _ => .invalidArgument

def message : Refusal → String
  | zeroAmount => "amount_cents must not be zero"
  | unsupportedMovement kind => "unsupported transaction type: " ++ named kind
  | currencyMismatch held requested =>
    "currency mismatch: balance is " ++ held ++ ", transaction is " ++ requested
  | insufficientBalance => RefusalKind.insufficientBalance.defaultDetail
  | refundNotPositive => "refund amount must be positive"
  | illegalTransition current target =>
    "illegal order transition " ++ current ++ " -> " ++ target
  | unsupportedPaymentMethod method => "unsupported payment method: " ++ method
  | planRequired => "plan_id is required"
  | planNotFound => "plan not found"
  | planUnavailable => "plan is not available for purchase"
  | channelRequired => "payment_channel is required for external payments"
  | cannotCancel status => "order in status " ++ status ++ " cannot be cancelled"
  | cannotMarkPaid status => "order in status " ++ status ++ " cannot be marked paid"
  | chargeRequired => "balance payment requires charge_balance"
  | refundBeforeCancel => "paid order must be refunded before cancellation"
  | amountNotPositive => "amount_cents must be positive"
  | cannotRefund status => "order in status " ++ status ++ " cannot be refunded"
  | freeOrderRefund => "free orders cannot be refunded"
  | refundNotBalancePaid => "only balance-paid orders can be refunded"
  | refundExceedsRemainder => "refund amount exceeds the refundable remainder"
  | orderNotFound => "order not found"
  | foreignOrder => "order belongs to another user"
  | adminRequired => "admin role required"
  | callbackIdsRequired => "order_id and payment_id are required"
  | unsupportedPaymentStatus status => "unsupported payment status: " ++ named status
  | cannotAcceptCallback status result =>
    "order in status " ++ status ++ " cannot accept a " ++ result ++ " callback"
  | paymentNotFound => "payment not found for order"
  | invalidCallbackBody => "invalid webhook payload"
  | peerDenied => "webhook access denied"
  | malformedSignatureHeader => "invalid stripe signature header"
  | missingSignature => "missing stripe signature"
  | signatureOutsideTolerance => "stripe signature timestamp outside tolerance"
  | signatureMismatch => "stripe signature mismatch"
  | missingWebhookToken => "missing webhook token"
  | invalidWebhookToken => "invalid webhook token"
  | missingGateHeaders => "missing third-party signature headers"
  | invalidApiKey => "invalid api key"
  | invalidTimestamp => "invalid timestamp"
  | timestampOutsideWindow => "timestamp out of allowed window"
  | gateSignatureMismatch => "signature verification failed"
  | missingIv => "missing encryption iv"
  | invalidIv => "invalid iv"
  | invalidIvSize => "invalid iv size"
  | undecipherableBody => "failed to decrypt body"
  | unsupportedCipher algorithm => "unsupported encryption algorithm: " ++ algorithm
  | missingSession => "Missing Bearer session token."
  | sessionExpired => "session token expired"
  | invalidSession => "invalid session token"
  | invalidSessionType => "invalid session token type"
  | sessionWithoutUser => "session token missing user id"
  | sessionUserGone => "Session user no longer exists."
  | accountDisabled => "User account is disabled."
  | deadlinePassed => RefusalKind.requestTimeout.defaultDetail
  | uniquenessViolated => "uniqueness violation"
  | storeFailed => "database error"

end Refusal

inductive IntegerFault
  | malformed (text : String)
  | tooManyDigits (digits : Nat)
  | infinite
  | notNumber
  | notConvertible
  deriving DecidableEq, Repr

/-- The ways in which an operation breaks off outside the taxonomy. -/
inductive Fault
  /-- a whole number does not fit the 64 bits of a column -/
  | columnOverflow
  /-- a whole number lies beyond the largest double -/
  | floatOverflow
  /-- a point in time lies in a year that the calendar does not cover -/
  | yearOutOfRange (year : Int)
  /-- a point in time lies in a year beyond 32 bits -/
  | yearUnrepresentable
  /-- a point in time lies beyond 64 bits of seconds -/
  | secondsOutOfRange
  /-- shifting a time to another offset leaves the calendar -/
  | dateOutOfRange
  | integer (fault : IntegerFault)
  | tableMissing
  | uniqueKeyTaken
  /-- a column that must hold a value is given none -/
  | valueMissing
  /-- a text to be searched for is longer than the store can search for -/
  | patternTooLong
  /-- what an operation is to work on is not there -/
  | absent
  | nothingToRemove
  | ledgerImmutable (id : Int)
  | nonceSize
  | insecureSecret
  | negativeTolerance
  /-- a span of time has more days than any span may have -/
  | daysOutOfRange (days : Int)
  /-- the days of a span of time do not even fit 32 bits -/
  | daysUnrepresentable
  /-- something that has no members stands where members are needed -/
  | notCollection
  /-- something that is no number stands where a number is needed -/
  | notReal
  /-- something that is no text stands where a text is needed -/
  | notText
  /-- a text with half a surrogate pair has no bytes -/
  | unencodable
  | malformedBase64
  /-- a JSON value is nested too deeply to be read -/
  | nestedTooDeeply
  /-- a secret cannot be the key of a signature -/
  | unusableKey
  /-- nothing can be signed under a secret -/
  | unsignable
  deriving DecidableEq, Repr

namespace Fault

/-- How many characters of a text that is no number are shown. -/
def shownLength : Nat := 200

def message? : Fault → Option String
  | columnOverflow => some "Python int too large to convert to SQLite INTEGER"
  | floatOverflow => some "int too large to convert to float"
  | yearOutOfRange year => some ("year " ++ toString year ++ " is out of range")
  | secondsOutOfRange => some "timestamp out of range for platform time_t"
  | dateOutOfRange => some "date value out of range"
  | integer (.malformed text) =>
    some ("invalid literal for int() with base 10: " ++
      Text.truncate shownLength (Text.quoted text))
  | integer (.tooManyDigits digits) =>
    some ("Exceeds the limit (4300 digits) for integer string conversion: value has " ++
      toString digits ++ " digits; use sys.set_int_max_str_digits() to increase the limit")
  | integer .infinite => some "cannot convert float infinity to integer"
  | integer .notNumber => some "cannot convert float NaN to integer"
  | ledgerImmutable id => some ("balance transaction " ++ toString id ++ " is append-only")
  | nonceSize => some "Nonce must be between 8 and 128 bytes"
  | insecureSecret =>
    some "JWT_SECRET is insecure. Configure a strong non-default secret (>=24 chars)."
  | negativeTolerance => some "WEBHOOK_STRIPE_TOLERANCE_SECONDS must not be negative."
  | daysOutOfRange days =>
    some ("days=" ++ toString days ++ "; must have magnitude <= 999999999")
  | daysUnrepresentable => some "Python int too large to convert to C int"
  | yearUnrepresentable | integer .notConvertible | tableMissing | uniqueKeyTaken | valueMissing
  | patternTooLong | absent | nothingToRemove | notCollection | notReal | notText | unencodable
  | malformedBase64 | nestedTooDeeply | unusableKey | unsignable => none

end Fault

inductive Failure
  | refused (refusal : Refusal)
  | broken (fault : Fault)
  deriving DecidableEq, Repr

namespace IntegerFault

def ofText (text : String) : Text.NotInteger → IntegerFault
  | .malformed => malformed text
  | .tooLong digits => tooManyDigits digits

end IntegerFault

namespace Failure

def refusing {α : Type} : Except Refusal α → Except Failure α :=
  Except.mapError refused

def breaking {α : Type} : Except Fault α → Except Failure α :=
  Except.mapError broken

end Failure

end OrderDesk
