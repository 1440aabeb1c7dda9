import OrbitRelay.Query.Model
import OrbitRelay.Transport.Connection

/-! Messages of the transport protocol, the codec port and the session configuration. -/
namespace OrbitRelay

abbrev TransportSubscriptionId := DomainId .transportSubscription

structure MessageType where
  value : String
deriving DecidableEq

/-- A typed payload in a protocol message envelope. -/
structure MessageEnvelope (T : Type) where
  version : Version
  messageId : MessageId
  messageType : MessageType
  payload : T

structure SubscriptionRequest where
  requestId : MessageId
  sessionId : SessionId
  eventTypes : List EventType
deriving DecidableEq

structure Hello where
  supportedVersions : List Version
  codecs : List String
deriving DecidableEq

structure HelloAccepted where
  selectedVersion : Version
  codec : String
deriving DecidableEq

structure Authenticate where
  requestId : MessageId
  credentials : InboundCredentials
deriving DecidableEq

structure Unsubscribe where
  requestId : MessageId
  subscriptionId : TransportSubscriptionId
deriving DecidableEq

structure PingMessage where
  nonce : UInt64
deriving DecidableEq

structure PongMessage where
  nonce : UInt64
deriving DecidableEq

structure QueryMessage where
  version : Version
  messageId : MessageId
  messageType : QueryType
  payload : Payload

def QueryMessage.intoRequest (message : QueryMessage) : QueryRequest :=
  ⟨message.messageId, message.messageType, message.payload⟩

structure QueryResponseMessage where
  version : Version
  requestId : MessageId
  queryType : QueryType
  result : QueryResult

def QueryResponseMessage.fromResponse (version : Version) (response : QueryResponse) :
    QueryResponseMessage :=
  ⟨version, response.requestId, response.queryType, response.result⟩

structure CloseMessage where
  reason : Option String
deriving DecidableEq

structure ActionAcknowledgement where
  requestId : MessageId
  actionId : ActionId
  generatedEventIds : List EventId
deriving DecidableEq

structure SubscriptionAccepted where
  requestId : MessageId
  subscriptionId : TransportSubscriptionId
deriving DecidableEq

structure SubscriptionClosed where
  requestId : Option MessageId
  subscriptionId : TransportSubscriptionId
deriving DecidableEq

inductive InboundMessage
  | hello (hello : Hello)
  | authenticate (authenticate : Authenticate)
  | subscribe (request : SubscriptionRequest)
  | unsubscribe (unsubscribe : Unsubscribe)
  | action (envelope : MessageEnvelope Action)
  | query (message : QueryMessage)
  | ping (ping : PingMessage)
  | close (close : CloseMessage)

inductive OutboundMessage
  | helloAccepted (accepted : HelloAccepted)
  | actionAcknowledgement (acknowledgement : ActionAcknowledgement)
  | queryResponse (response : QueryResponseMessage)
  | subscriptionAccepted (accepted : SubscriptionAccepted)
  | subscriptionClosed (closed : SubscriptionClosed)
  | event (envelope : MessageEnvelope Event)
  | error (error : ErrorMessage)
  | pong (pong : PongMessage)
  | close (close : CloseMessage)

/-- A codec between messages and bytes. -/
structure MessageCodec where
  name : String
  decodeInbound : List UInt8 → Except CodecError InboundMessage
  encodeOutbound : OutboundMessage → Except CodecError (List UInt8)

def currentProtocolVersion : Version := ⟨0, 1, 0⟩

def queryProtocolVersion : Version := ⟨0, 2, 0⟩

structure TransportConfig where
  outboundCapacity : Nat
  maxMessageBytes : Nat
  heartbeatIntervalMilliseconds : UInt64
  negotiationTimeoutMilliseconds : UInt64
deriving DecidableEq

def requireNonZero (value : Nat) (field : String) : Except TransportConfigError Unit :=
  if value = 0 then .error (.nonZeroRequired field) else .ok ()

def TransportConfig.validate (config : TransportConfig) : Except TransportConfigError Unit := do
  requireNonZero config.outboundCapacity "outbound_capacity"
  requireNonZero config.maxMessageBytes "max_message_bytes"
  requireNonZero config.heartbeatIntervalMilliseconds.toNat "heartbeat_interval_milliseconds"
  requireNonZero config.negotiationTimeoutMilliseconds.toNat "negotiation_timeout_milliseconds"

structure WebSocketAdapterConfig where
  transport : TransportConfig
  inboundCapacity : Nat
  actionQueueCapacity : Nat
  queryQueueCapacity : Nat
  maxInFlightQueries : Nat
  heartbeatTimeoutMilliseconds : UInt64
  writeTimeoutMilliseconds : UInt64
deriving DecidableEq

def WebSocketAdapterConfig.validate (config : WebSocketAdapterConfig) :
    Except WebSocketAdapterError Unit :=
  Except.mapError WebSocketAdapterError.configuration do
    config.transport.validate
    requireNonZero config.inboundCapacity "inbound_capacity"
    requireNonZero config.actionQueueCapacity "action_queue_capacity"
    requireNonZero config.queryQueueCapacity "query_queue_capacity"
    requireNonZero config.maxInFlightQueries "max_in_flight_queries"
    requireNonZero config.heartbeatTimeoutMilliseconds.toNat "heartbeat_timeout_milliseconds"
    requireNonZero config.writeTimeoutMilliseconds.toNat "write_timeout_milliseconds"

end OrbitRelay
