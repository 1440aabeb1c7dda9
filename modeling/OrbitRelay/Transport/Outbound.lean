import OrbitRelay.Transport.Codec

/-! Server messages on the wire. A client reads back what the server wrote; sent to the server
again, nothing of it is taken for a request but a close message. -/
namespace OrbitRelay
open Json

instance {kind : IdKind} : LawfulSerde (Option (DomainId kind)) :=
  .option fun _ => nofun

/-! ### Events -/

instance : Serialize EventType := ⟨fun eventType => toValue eventType.value⟩

instance : Deserialize EventType := ⟨fun v => EventType.mk <$> fromValue v⟩

instance : LawfulSerde EventType := ⟨fun _ => rfl⟩

namespace Event
variable [Serialize Timestamp] [Deserialize Timestamp]

def fieldNames : List String :=
  ["id", "session_id", "actor_id", "action_id", "event_type", "occurred_at", "payload",
    "metadata"]

instance : Serialize Event :=
  ⟨fun event => structValue [("id", toValue event.id), ("session_id", toValue event.sessionId),
    ("actor_id", toValue event.actorId), ("action_id", toValue event.actionId),
    ("event_type", toValue event.eventType), ("occurred_at", toValue event.occurredAt),
    ("payload", toValue event.payload), ("metadata", toValue event.metadata)]⟩

private def ofFields : List Value → Option Event
  | [id, sessionId, actorId, actionId, eventType, occurredAt, payload, metadata] => do
    some ⟨← fromValue id, ← fromValue sessionId, ← fromValue actorId, ← fromValue actionId,
      ← fromValue eventType, ← fromValue occurredAt, ← fromValue payload, ← fromValue metadata⟩
  | _ => none

instance : Deserialize Event := ⟨fromOpenStruct fieldNames ofFields⟩

/-- An event is read back when its timestamp is. -/
theorem fromValue_toValue {event : Event}
    (h : fromValue (toValue event.occurredAt) = some event.occurredAt) :
    fromValue (toValue event) = some event := by
  refine (fromOpenStruct_structValue ofFields rfl (by simp)).trans ?_
  simp [ofFields, h]

end Event

/-! ### Query results -/

namespace QueryFailureCode

def all : List QueryFailureCode :=
  [unsupportedQuery, invalidQuery, unauthorized, notFound, internal, unavailable, notReady]

def name : QueryFailureCode → String
  | unsupportedQuery => "unsupported_query"
  | invalidQuery => "invalid_query"
  | unauthorized => "unauthorized"
  | notFound => "not_found"
  | internal => "internal"
  | unavailable => "unavailable"
  | notReady => "not_ready"

instance : Serialize QueryFailureCode := ⟨fun code => .string code.name⟩

instance : Deserialize QueryFailureCode := ⟨fromUnitVariant all name⟩

instance : LawfulSerde QueryFailureCode where
  fromValue_toValue code := by
    apply fromUnitVariant_name
    · cases code <;> decide
    · cases code <;> decide

end QueryFailureCode

namespace QueryFailure

def fieldNames : List String := ["code", "message", "retryable"]

instance : Serialize QueryFailure :=
  ⟨fun failure => structValue [("code", toValue failure.code),
    ("message", toValue failure.message), ("retryable", toValue failure.retryable)]⟩

private def ofFields : List Value → Option QueryFailure
  | [code, message, retryable] => do
    some ⟨← fromValue code, ← fromValue message, ← fromValue retryable⟩
  | _ => none

instance : Deserialize QueryFailure := ⟨fromStruct fieldNames ofFields⟩

instance : LawfulSerde QueryFailure where
  fromValue_toValue failure := by
    refine (fromStruct_structValue ofFields rfl (by simp)).trans ?_
    simp [ofFields]

end QueryFailure

namespace QueryResult

def fieldNames : List String := ["status", "payload"]

def toContent : QueryResult → String × Value
  | success payload => ("success", toValue payload)
  | error failure => ("error", toValue failure)

instance : Serialize QueryResult :=
  ⟨fun result => structValue [("status", .string result.toContent.1),
    ("payload", result.toContent.2)]⟩

def ofContent (status : String) (payload : Value) : Option QueryResult :=
  match status with
  | "success" => success <$> fromValue payload
  | "error" => error <$> fromValue payload
  | _ => none

private def ofFields : List Value → Option QueryResult
  | [status, payload] => do ofContent (← unitVariant status) payload
  | _ => none

instance : Deserialize QueryResult := ⟨fromOpenStruct fieldNames ofFields⟩

instance : LawfulSerde QueryResult where
  fromValue_toValue result := by
    refine (fromOpenStruct_structValue ofFields rfl (by simp)).trans ?_
    cases result with
    | success payload => exact congrArg (success <$> ·) (fromValue_toValue payload)
    | error failure => exact congrArg (error <$> ·) (fromValue_toValue failure)

end QueryResult

namespace QueryResponseMessage

def fieldNames : List String := ["version", "request_id", "query_type", "result"]

instance : Serialize QueryResponseMessage :=
  ⟨fun response => structValue [("version", toValue response.version),
    ("request_id", toValue response.requestId), ("query_type", toValue response.queryType),
    ("result", toValue response.result)]⟩

private def ofFields : List Value → Option QueryResponseMessage
  | [version, requestId, queryType, result] => do
    some ⟨← fromValue version, ← fromValue requestId, ← fromValue queryType, ← fromValue result⟩
  | _ => none

instance : Deserialize QueryResponseMessage := ⟨fromStruct fieldNames ofFields⟩

instance : LawfulSerde QueryResponseMessage where
  fromValue_toValue response := by
    refine (fromStruct_structValue ofFields rfl (by simp)).trans ?_
    simp [ofFields]

end QueryResponseMessage

/-! ### Control messages -/

namespace HelloAccepted

def fieldNames : List String := ["selected_version", "codec"]

instance : Serialize HelloAccepted :=
  ⟨fun accepted => structValue [("selected_version", toValue accepted.selectedVersion),
    ("codec", toValue accepted.codec)]⟩

private def ofFields : List Value → Option HelloAccepted
  | [selectedVersion, codec] => do some ⟨← fromValue selectedVersion, ← fromValue codec⟩
  | _ => none

instance : Deserialize HelloAccepted := ⟨fromStruct fieldNames ofFields⟩

instance : LawfulSerde HelloAccepted where
  fromValue_toValue accepted := by
    refine (fromStruct_structValue ofFields rfl (by simp)).trans ?_
    simp [ofFields]

end HelloAccepted

namespace ActionAcknowledgement

def fieldNames : List String := ["request_id", "action_id", "generated_event_ids"]

instance : Serialize ActionAcknowledgement :=
  ⟨fun acknowledgement => structValue [("request_id", toValue acknowledgement.requestId),
    ("action_id", toValue acknowledgement.actionId),
    ("generated_event_ids", toValue acknowledgement.generatedEventIds)]⟩

private def ofFields : List Value → Option ActionAcknowledgement
  | [requestId, actionId, generatedEventIds] => do
    some ⟨← fromValue requestId, ← fromValue actionId, ← fromValue generatedEventIds⟩
  | _ => none

instance : Deserialize ActionAcknowledgement := ⟨fromStruct fieldNames ofFields⟩

instance : LawfulSerde ActionAcknowledgement where
  fromValue_toValue acknowledgement := by
    refine (fromStruct_structValue ofFields rfl (by simp)).trans ?_
    simp [ofFields]

end ActionAcknowledgement

namespace SubscriptionAccepted

def fieldNames : List String := ["request_id", "subscription_id"]

instance : Serialize SubscriptionAccepted :=
  ⟨fun accepted => structValue [("request_id", toValue accepted.requestId),
    ("subscription_id", toValue accepted.subscriptionId)]⟩

private def ofFields : List Value → Option SubscriptionAccepted
  | [requestId, subscriptionId] => do some ⟨← fromValue requestId, ← fromValue subscriptionId⟩
  | _ => none

instance : Deserialize SubscriptionAccepted := ⟨fromStruct fieldNames ofFields⟩

instance : LawfulSerde SubscriptionAccepted where
  fromValue_toValue accepted := by
    refine (fromStruct_structValue ofFields rfl (by simp)).trans ?_
    simp [ofFields]

end SubscriptionAccepted

namespace SubscriptionClosed

def fieldNames : List String := ["request_id", "subscription_id"]

instance : Serialize SubscriptionClosed :=
  ⟨fun closed => structValue [("request_id", toValue closed.requestId),
    ("subscription_id", toValue closed.subscriptionId)]⟩

private def ofFields : List Value → Option SubscriptionClosed
  | [requestId, subscriptionId] => do some ⟨← fromValue requestId, ← fromValue subscriptionId⟩
  | _ => none

/-- The request may be left out. -/
instance : Deserialize SubscriptionClosed :=
  ⟨fromOptionStruct fieldNames ["request_id"] ofFields⟩

instance : LawfulSerde SubscriptionClosed where
  fromValue_toValue closed := by
    refine (fromOptionStruct_structValue _ ofFields rfl (by simp)).trans ?_
    simp [ofFields]

end SubscriptionClosed

namespace PongMessage

def fieldNames : List String := ["nonce"]

instance : Serialize PongMessage := ⟨fun pong => structValue [("nonce", toValue pong.nonce)]⟩

private def ofFields : List Value → Option PongMessage
  | [nonce] => do some ⟨← fromValue nonce⟩
  | _ => none

instance : Deserialize PongMessage := ⟨fromStruct fieldNames ofFields⟩

instance : LawfulSerde PongMessage where
  fromValue_toValue pong := by
    refine (fromStruct_structValue ofFields rfl (by simp)).trans ?_
    simp [ofFields]

end PongMessage

/-! ### Errors -/

namespace TransportErrorCode

def all : List TransportErrorCode :=
  [invalidMessage, unsupportedVersion, connectionNotReady, authenticationRequired,
    identityMismatch, executionRejected, subscriptionRejected, subscriptionLagged, slowConsumer,
    codecError, internalError]

def name : TransportErrorCode → String
  | invalidMessage => "invalid_message"
  | unsupportedVersion => "unsupported_version"
  | connectionNotReady => "connection_not_ready"
  | authenticationRequired => "authentication_required"
  | identityMismatch => "identity_mismatch"
  | executionRejected => "execution_rejected"
  | subscriptionRejected => "subscription_rejected"
  | subscriptionLagged => "subscription_lagged"
  | slowConsumer => "slow_consumer"
  | codecError => "codec_error"
  | internalError => "internal_error"

instance : Serialize TransportErrorCode := ⟨fun code => .string code.name⟩

instance : Deserialize TransportErrorCode := ⟨fromUnitVariant all name⟩

instance : LawfulSerde TransportErrorCode where
  fromValue_toValue code := by
    apply fromUnitVariant_name
    · cases code <;> decide
    · cases code <;> decide

end TransportErrorCode

namespace ErrorMessage

def fieldNames : List String := ["request_id", "code", "message", "retryable"]

instance : Serialize ErrorMessage :=
  ⟨fun error => structValue [("request_id", toValue error.requestId),
    ("code", toValue error.code), ("message", toValue error.message),
    ("retryable", toValue error.retryable)]⟩

private def ofFields : List Value → Option ErrorMessage
  | [requestId, code, message, retryable] => do
    some ⟨← fromValue requestId, ← fromValue code, ← fromValue message, ← fromValue retryable⟩
  | _ => none

/-- The request may be left out. -/
instance : Deserialize ErrorMessage :=
  ⟨fromOptionStruct fieldNames ["request_id"] ofFields⟩

instance : LawfulSerde ErrorMessage where
  fromValue_toValue error := by
    refine (fromOptionStruct_structValue _ ofFields rfl (by simp)).trans ?_
    simp [ofFields]

end ErrorMessage

/-! ### Server messages -/

namespace OutboundMessage

/-- The variant as its tag and its content. -/
def toContent [Serialize Timestamp] : OutboundMessage → String × Value
  | helloAccepted message => ("hello_accepted", toValue message)
  | actionAcknowledgement message => ("action_acknowledgement", toValue message)
  | queryResponse message => ("query_response", toValue message)
  | subscriptionAccepted message => ("subscription_accepted", toValue message)
  | subscriptionClosed message => ("subscription_closed", toValue message)
  | event message => ("event", toValue message)
  | error message => ("error", toValue message)
  | pong message => ("pong", toValue message)
  | close message => ("close", toValue message)

instance [Serialize Timestamp] : Serialize OutboundMessage :=
  ⟨fun message => structValue [("kind", .string message.toContent.1),
    ("payload", message.toContent.2)]⟩

variable [Deserialize Timestamp]

def ofContent (kind : String) (payload : Value) : Option OutboundMessage :=
  match kind with
  | "hello_accepted" => helloAccepted <$> fromValue payload
  | "action_acknowledgement" => actionAcknowledgement <$> fromValue payload
  | "query_response" => queryResponse <$> fromValue payload
  | "subscription_accepted" => subscriptionAccepted <$> fromValue payload
  | "subscription_closed" => subscriptionClosed <$> fromValue payload
  | "event" => event <$> fromValue payload
  | "error" => error <$> fromValue payload
  | "pong" => pong <$> fromValue payload
  | "close" => close <$> fromValue payload
  | _ => none

def fieldNames : List String := ["kind", "payload"]

private def ofFields : List Value → Option OutboundMessage
  | [kind, payload] => do ofContent (← unitVariant kind) payload
  | _ => none

/-- An adjacently tagged enum ignores unknown keys. -/
instance : Deserialize OutboundMessage := ⟨fromOpenStruct fieldNames ofFields⟩

variable [Serialize Timestamp]

/-- The timestamp of an event is read back. -/
def Dated : OutboundMessage → Prop
  | event envelope =>
    fromValue (toValue envelope.payload.occurredAt) = some envelope.payload.occurredAt
  | _ => True

theorem ofContent_toContent {message : OutboundMessage} (h : message.Dated) :
    ofContent message.toContent.1 message.toContent.2 = some message := by
  cases message with
  | event envelope =>
    exact congrArg (event <$> ·)
      (MessageEnvelope.fromValue_toValue (Event.fromValue_toValue h))
  | helloAccepted message => exact congrArg (helloAccepted <$> ·) (fromValue_toValue message)
  | actionAcknowledgement message =>
    exact congrArg (actionAcknowledgement <$> ·) (fromValue_toValue message)
  | queryResponse message => exact congrArg (queryResponse <$> ·) (fromValue_toValue message)
  | subscriptionAccepted message =>
    exact congrArg (subscriptionAccepted <$> ·) (fromValue_toValue message)
  | subscriptionClosed message =>
    exact congrArg (subscriptionClosed <$> ·) (fromValue_toValue message)
  | error message => exact congrArg (error <$> ·) (fromValue_toValue message)
  | pong message => exact congrArg (pong <$> ·) (fromValue_toValue message)
  | close message => exact congrArg (close <$> ·) (fromValue_toValue message)

theorem fromValue_toValue {message : OutboundMessage} (h : message.Dated) :
    fromValue (toValue message) = some message :=
  (fromOpenStruct_structValue ofFields rfl (by simp)).trans (ofContent_toContent h)

omit [Deserialize Timestamp] in
theorem tagged_toValue (message : OutboundMessage) :
    Tagged (toValue message) message.toContent.1 message.toContent.2 := by
  obtain ⟨m, hm, hfields, hget⟩ := @structValue_eq_object
    [("kind", .string message.toContent.1), ("payload", message.toContent.2)] _ rfl (by simp)
  exact ⟨m, hm, hfields, hget "kind" _ (by simp), hget "payload" _ (by simp)⟩

/-- What the server makes of its own message: it closes, or it does not know the kind. -/
def returned : OutboundMessage → Except CodecError InboundMessage
  | close message => .ok (.close message)
  | message => .error (.unsupportedMessageType message.toContent.1)

end OutboundMessage

/-- A tagged message is as valid as its content. -/
theorem validateInbound_of_tagged {value payload : Value} {kind : String}
    (h : Tagged value kind payload) : validateInbound value = validateContent kind payload := by
  obtain ⟨m, rfl, hfields, hkind, hpayload⟩ := h
  have hexact : validateExactFields m ["kind", "payload"] = .ok () :=
    validateExactFields_eq_ok.mpr hfields
  unfold validateInbound
  rw [requireObject_eq_ok.mpr rfl, Except.ok_bind, hexact, Except.ok_bind, hkind, hpayload]
  rfl

namespace JsonCodec

section
variable [Serialize Timestamp] [Deserialize Timestamp]

/-- Encodes one server message; `toVec` writes JSON text, if it can. -/
def encodeOutbound (toVec : OutboundMessage → Option (List UInt8)) (message : OutboundMessage) :
    Except CodecError (List UInt8) :=
  (toVec message).okOr .encodeFailed

/-- The server reads its own message, once it is text again. -/
theorem decodeInbound_of_outbound {fromSlice : List UInt8 → Option Value} {bytes : List UInt8}
    {message : OutboundMessage} (hread : fromSlice bytes = some (toValue message)) :
    decodeInbound fromSlice bytes = message.returned := by
  have htagged := message.tagged_toValue
  have hvalid := validateInbound_of_tagged htagged
  unfold decodeInbound
  rw [hread, Except.okOr_some, Except.ok_bind, hvalid, fromValue_of_tagged htagged]
  cases message with
  | close close =>
    show (InboundMessage.close <$> fromValue (toValue close)).okOr CodecError.decodeFailed = _
    rw [fromValue_toValue]
    rfl
  | _ => rfl

/-- Encoded server messages are tagged objects. Clients read them back, and the server does not
take them for requests, except that it closes when it is sent a close message. -/
theorem outbound_messages_read_back (toVec : OutboundMessage → Option (List UInt8))
    (fromSlice : List UInt8 → Option Value) (message : OutboundMessage) (hdated : message.Dated)
    (htext : ∀ bytes, toVec message = some bytes → fromSlice bytes = some (toValue message)) :
    (∀ error, encodeOutbound toVec message = .error error → error = .encodeFailed) ∧
    ∀ bytes, encodeOutbound toVec message = .ok bytes → ∃ value, fromSlice bytes = some value ∧
      Tagged value message.toContent.1 message.toContent.2 ∧ fromValue value = some message ∧
      decodeInbound fromSlice bytes = message.returned := by
  constructor
  · intro error herror
    unfold encodeOutbound at herror
    cases htoVec : toVec message with
    | none =>
      rw [htoVec] at herror
      cases herror
      rfl
    | some bytes =>
      rw [htoVec] at herror
      cases herror
  · intro bytes hbytes
    have hread := htext bytes (Except.okOr_eq_ok.mp hbytes)
    exact ⟨_, hread, message.tagged_toValue, OutboundMessage.fromValue_toValue hdated,
      decodeInbound_of_outbound hread⟩

end

def slowConsumerError : OutboundMessage :=
  .error ⟨none, .slowConsumer, "The connection cannot keep up with events.", true⟩

def slowConsumerText : String :=
  "\x7b\"kind\":\"error\",\"payload\":\x7b\"request_id\":null,\"code\":\"slow_consumer\"," ++
  "\"message\":\"The connection cannot keep up with events.\",\"retryable\":true\x7d\x7d"

def slowConsumerValue : Value :=
  letI := timestampWriter
  toValue slowConsumerError

/-- An error that is sent back is an unsupported message. -/
theorem outbound_messages_read_back_error :
    @decodeInbound timestampReader (knowing slowConsumerText slowConsumerValue)
      slowConsumerText.toUTF8.data.toList = .error (.unsupportedMessageType "error") := by
  have hread := @outbound_messages_read_back timestampWriter timestampReader
    (fun _ => some slowConsumerText.toUTF8.data.toList)
    (knowing slowConsumerText slowConsumerValue) slowConsumerError trivial
    (fun bytes hbytes => if_pos (Option.some.inj hbytes).symm)
  obtain ⟨value, -, -, -, hreturned⟩ := hread.2 _ (Except.okOr_eq_ok.mpr rfl)
  exact hreturned

end JsonCodec
end OrbitRelay
