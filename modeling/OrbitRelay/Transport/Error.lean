import OrbitRelay.Core

/-! Transport errors: the internal errors with their diagnostics, and the stable codes and
texts that clients may see. -/
namespace OrbitRelay

/-- The lifecycle of a transport connection. -/
inductive ConnectionState
  | negotiating | authenticating | ready | closing | closed
deriving DecidableEq

/-- Stable error codes sent to clients. -/
inductive TransportErrorCode
  | invalidMessage | unsupportedVersion | connectionNotReady | authenticationRequired
  | identityMismatch | executionRejected | subscriptionRejected | subscriptionLagged
  | slowConsumer | codecError | internalError
deriving DecidableEq

inductive CodecError
  | invalidJson
  | invalidMessageShape
  | missingField (field : String)
  | unknownField (field : String)
  | unsupportedMessageType (messageType : String)
  | unexpectedEnvelopeType (expected actual : String)
  | decodeFailed
  | encodeFailed
deriving DecidableEq

inductive ConnectionStateError
  | invalidTransition («from» «to» : ConnectionState)
  | operationNotAllowed (operation : String) (state : ConnectionState)
deriving DecidableEq

inductive IdentityError
  | authenticationRequired
  | identityMismatch (boundActorId actionActorId : ActorId)
  | credentialsRejected (detail : String)
  | resolverUnavailable (detail : String)
  | resolutionFailed (detail : String)
deriving DecidableEq

inductive TransportExecutionError
  | rejected (detail : String)
  | unavailable (detail : String)
  | failed (detail : String)
deriving DecidableEq

inductive EventSourceError
  | subscriptionLagged
  | subscriptionClosed
  | unavailable (detail : String)
  | failed (detail : String)
deriving DecidableEq

inductive SubscriptionAuthorizationError
  | rejected (detail : String)
  | unavailable (detail : String)
  | failed (detail : String)
deriving DecidableEq

inductive VersionNegotiationError
  | unsupportedVersion (supportedVersions : List Version)
deriving DecidableEq

inductive TransportConfigError
  | nonZeroRequired (field : String)
deriving DecidableEq

/-- Internal errors crossing the transport orchestration boundary. -/
inductive TransportError
  | codec (error : CodecError)
  | version (error : VersionNegotiationError)
  | connectionState (error : ConnectionStateError)
  | identity (error : IdentityError)
  | execution (error : TransportExecutionError)
  | subscriptionAuthorization (error : SubscriptionAuthorizationError)
  | eventSource (error : EventSourceError)
  | slowConsumer
  | internal (detail : String)
deriving DecidableEq

/-- Errors returned by a WebSocket session after its close procedure completes. -/
inductive WebSocketAdapterError
  | configuration (error : TransportConfigError)
  | transport (error : TransportError)
  | connectionState (error : ConnectionStateError)
  | frame (detail : String)
  | codec (error : CodecError)
  | writeTimeout (operation : String) (timeoutMilliseconds : UInt64)
  | task (detail : String)
deriving DecidableEq

namespace TransportError

/-- The stable external code of an internal error. -/
def code : TransportError → TransportErrorCode
  | codec .encodeFailed => .codecError
  | codec _ => .invalidMessage
  | version _ => .unsupportedVersion
  | connectionState _ => .connectionNotReady
  | identity (.identityMismatch ..) => .identityMismatch
  | identity .authenticationRequired => .authenticationRequired
  | identity (.credentialsRejected _) => .authenticationRequired
  | identity (.resolverUnavailable _) => .authenticationRequired
  | identity (.resolutionFailed _) => .internalError
  | execution (.rejected _) => .executionRejected
  | execution _ => .internalError
  | subscriptionAuthorization (.rejected _) => .subscriptionRejected
  | subscriptionAuthorization _ => .internalError
  | eventSource .subscriptionLagged => .subscriptionLagged
  | eventSource _ => .internalError
  | internal _ => .internalError
  | slowConsumer => .slowConsumer

def isRetryable : TransportError → Bool
  | identity .authenticationRequired => true
  | identity (.resolverUnavailable _) => true
  | execution (.unavailable _) => true
  | subscriptionAuthorization (.unavailable _) => true
  | eventSource .subscriptionLagged => true
  | eventSource (.unavailable _) => true
  | slowConsumer => true
  | _ => false

end TransportError

def safeMessage : TransportErrorCode → String
  | .invalidMessage => "The message is invalid."
  | .unsupportedVersion => "No compatible protocol version is available."
  | .connectionNotReady => "The connection is not ready for this operation."
  | .authenticationRequired => "Authentication is required."
  | .identityMismatch => "The action identity does not match the connection identity."
  | .executionRejected => "The action was rejected."
  | .subscriptionRejected => "The subscription was rejected."
  | .subscriptionLagged => "The subscription fell behind."
  | .slowConsumer => "The connection cannot keep up with events."
  | .codecError => "The server could not encode the message."
  | .internalError => "An internal transport error occurred."

/-- A client-safe transport error. -/
structure ErrorMessage where
  requestId : Option MessageId
  code : TransportErrorCode
  message : String
  retryable : Bool
deriving DecidableEq

def ErrorMessage.fromTransportError (requestId : Option MessageId) (error : TransportError) :
    ErrorMessage where
  requestId := requestId
  code := error.code
  message := safeMessage error.code
  retryable := error.isRetryable

-- The diagnostic texts follow the `#[error(...)]` attributes; braces are the derived `Debug`.

def ConnectionState.debug : ConnectionState → String
  | .negotiating => "Negotiating"
  | .authenticating => "Authenticating"
  | .ready => "Ready"
  | .closing => "Closing"
  | .closed => "Closed"

def Version.debug (version : Version) : String :=
  "Version \x7b major: " ++ toString version.major ++ ", minor: " ++ toString version.minor ++
    ", patch: " ++ toString version.patch ++ " \x7d"

def CodecError.toString : CodecError → String
  | .invalidJson => "invalid JSON input"
  | .invalidMessageShape => "invalid transport message shape"
  | .missingField field => "transport message is missing field `" ++ field ++ "`"
  | .unknownField field => "transport message contains unknown field `" ++ field ++ "`"
  | .unsupportedMessageType messageType =>
    "unsupported inbound message kind `" ++ messageType ++ "`"
  | .unexpectedEnvelopeType expected actual =>
    "expected `" ++ expected ++ "` envelope, received `" ++ actual ++ "`"
  | .decodeFailed => "transport message could not be decoded"
  | .encodeFailed => "transport message could not be encoded"

def ConnectionStateError.toString : ConnectionStateError → String
  | .invalidTransition a b =>
    "connection cannot transition from " ++ a.debug ++ " to " ++ b.debug
  | .operationNotAllowed operation state =>
    "operation `" ++ operation ++ "` is not allowed in state " ++ state.debug

def IdentityError.toString : IdentityError → String
  | .authenticationRequired => "connection authentication is required"
  | .identityMismatch boundActorId actionActorId =>
    "action actor " ++ actionActorId.toString ++ " does not match bound actor " ++
      boundActorId.toString
  | .credentialsRejected detail => "credentials were rejected: " ++ detail
  | .resolverUnavailable detail => "identity resolver is unavailable: " ++ detail
  | .resolutionFailed detail => "identity resolution failed: " ++ detail

def TransportExecutionError.toString : TransportExecutionError → String
  | .rejected detail => "action execution was rejected: " ++ detail
  | .unavailable detail => "action executor is unavailable: " ++ detail
  | .failed detail => "action execution failed: " ++ detail

def EventSourceError.toString : EventSourceError → String
  | .subscriptionLagged => "event subscription lagged"
  | .subscriptionClosed => "event subscription is closed"
  | .unavailable detail => "event source is unavailable: " ++ detail
  | .failed detail => "event source failed: " ++ detail

def SubscriptionAuthorizationError.toString : SubscriptionAuthorizationError → String
  | .rejected detail => "subscription was rejected: " ++ detail
  | .unavailable detail => "subscription authorizer is unavailable: " ++ detail
  | .failed detail => "subscription authorization failed: " ++ detail

def VersionNegotiationError.toString : VersionNegotiationError → String
  | .unsupportedVersion supportedVersions =>
    "no compatible protocol version in [" ++
      String.intercalate ", " (supportedVersions.map Version.debug) ++ "]"

def TransportConfigError.toString : TransportConfigError → String
  | .nonZeroRequired field =>
    "transport configuration field `" ++ field ++ "` must be greater than zero"

def TransportError.toString : TransportError → String
  | .codec error => "transport codec failed: " ++ error.toString
  | .version error => "protocol version negotiation failed: " ++ error.toString
  | .connectionState error => "connection lifecycle operation failed: " ++ error.toString
  | .identity error => "connection identity validation failed: " ++ error.toString
  | .execution error => "action execution port failed: " ++ error.toString
  | .subscriptionAuthorization error => "subscription authorization failed: " ++ error.toString
  | .eventSource error => "event source failed: " ++ error.toString
  | .slowConsumer => "outbound queue reached its configured capacity"
  | .internal detail => "internal transport failure: " ++ detail

def WebSocketAdapterError.toString : WebSocketAdapterError → String
  | .configuration error => "invalid WebSocket adapter configuration: " ++ error.toString
  | .transport error => "WebSocket transport failed: " ++ error.toString
  | .connectionState error => "WebSocket connection state failed: " ++ error.toString
  | .frame detail => "WebSocket frame was invalid: " ++ detail
  | .codec error => "WebSocket outbound encoding failed: " ++ error.toString
  | .writeTimeout operation timeoutMilliseconds =>
    "WebSocket " ++ operation ++ " timed out after " ++ ToString.toString timeoutMilliseconds ++
      " milliseconds"
  | .task detail => "WebSocket task failed: " ++ detail

end OrbitRelay
