import Mathlib.Data.String.Basic
import OrbitRelay.Transport.Message

/-! The serialized form of the inbound messages, as their derived codecs write and read it. -/
namespace OrbitRelay
open Json

instance : Serialize MessageType := ⟨fun messageType => toValue messageType.value⟩

instance : Deserialize MessageType := ⟨fun v => MessageType.mk <$> fromValue v⟩

instance : LawfulSerde MessageType := ⟨fun _ => rfl⟩

namespace InboundCredentials

def fieldNames : List String := ["scheme", "credential"]

instance : Serialize InboundCredentials :=
  ⟨fun credentials => structValue [("scheme", toValue credentials.scheme),
    ("credential", toValue credentials.credential)]⟩

private def ofFields : List Value → Option InboundCredentials
  | [scheme, credential] => do some ⟨← fromValue scheme, ← fromValue credential⟩
  | _ => none

instance : Deserialize InboundCredentials := ⟨fromStruct fieldNames ofFields⟩

instance : LawfulSerde InboundCredentials where
  fromValue_toValue credentials := by
    refine (fromStruct_structValue ofFields rfl (by simp)).trans ?_
    simp [ofFields]

end InboundCredentials

namespace Hello

def fieldNames : List String := ["supported_versions", "codecs"]

instance : Serialize Hello :=
  ⟨fun hello => structValue [("supported_versions", toValue hello.supportedVersions),
    ("codecs", toValue hello.codecs)]⟩

private def ofFields : List Value → Option Hello
  | [supportedVersions, codecs] => do some ⟨← fromValue supportedVersions, ← fromValue codecs⟩
  | _ => none

instance : Deserialize Hello := ⟨fromStruct fieldNames ofFields⟩

instance : LawfulSerde Hello where
  fromValue_toValue hello := by
    refine (fromStruct_structValue ofFields rfl (by simp)).trans ?_
    simp [ofFields]

/-- The supported versions are read from the field of that name. -/
theorem member_of_fromValue {v : Value} {hello : Hello} (h : fromValue v = some hello) :
    ∃ versions, member fieldNames "supported_versions" v = some versions ∧
      fromValue versions = some hello.supportedVersions := by
  obtain ⟨values, hvalues, hbuild⟩ := Option.bind_eq_some_iff.mp h
  rw [member_of_structFields hvalues (by simp [fieldNames])]
  unfold ofFields at hbuild
  split at hbuild
  · rename_i versions codecs
    simp only [Option.bind_eq_bind, Option.bind_eq_some_iff] at hbuild
    obtain ⟨supported, hsupported, _, _, hhello⟩ := hbuild
    cases hhello
    exact ⟨versions, rfl, hsupported⟩
  · cases hbuild

end Hello

namespace Authenticate

def fieldNames : List String := ["request_id", "credentials"]

instance : Serialize Authenticate :=
  ⟨fun authenticate => structValue [("request_id", toValue authenticate.requestId),
    ("credentials", toValue authenticate.credentials)]⟩

private def ofFields : List Value → Option Authenticate
  | [requestId, credentials] => do some ⟨← fromValue requestId, ← fromValue credentials⟩
  | _ => none

instance : Deserialize Authenticate := ⟨fromStruct fieldNames ofFields⟩

instance : LawfulSerde Authenticate where
  fromValue_toValue authenticate := by
    refine (fromStruct_structValue ofFields rfl (by simp)).trans ?_
    simp [ofFields]

/-- The credentials are read from the field of that name. -/
theorem member_of_fromValue {v : Value} {authenticate : Authenticate}
    (h : fromValue v = some authenticate) :
    ∃ credentials, member fieldNames "credentials" v = some credentials ∧
      fromValue credentials = some authenticate.credentials := by
  obtain ⟨values, hvalues, hbuild⟩ := Option.bind_eq_some_iff.mp h
  rw [member_of_structFields hvalues (by simp [fieldNames])]
  unfold ofFields at hbuild
  split at hbuild
  · rename_i requestId credentials
    simp only [Option.bind_eq_bind, Option.bind_eq_some_iff] at hbuild
    obtain ⟨_, _, read, hread, hauthenticate⟩ := hbuild
    cases hauthenticate
    exact ⟨credentials, rfl, hread⟩
  · cases hbuild

end Authenticate

namespace SubscriptionRequest

def fieldNames : List String := ["request_id", "session_id", "event_types"]

instance : Serialize SubscriptionRequest :=
  ⟨fun request => structValue [("request_id", toValue request.requestId),
    ("session_id", toValue request.sessionId),
    ("event_types", toValue (request.eventTypes.map EventType.value))]⟩

/-- The event types are read into an ordered set. -/
private def ofFields : List Value → Option SubscriptionRequest
  | [requestId, sessionId, eventTypes] => do
    let eventTypes : List String ← fromValue eventTypes
    some ⟨← fromValue requestId, ← fromValue sessionId, (orderedSet eventTypes).map EventType.mk⟩
  | _ => none

instance : Deserialize SubscriptionRequest := ⟨fromStruct fieldNames ofFields⟩

/-- The event types are an ordered set of their names. -/
def Ordered (request : SubscriptionRequest) : Prop :=
  (request.eventTypes.map EventType.value).Pairwise (· < ·)

theorem fromValue_toValue {request : SubscriptionRequest} (h : request.Ordered) :
    fromValue (toValue request) = some request := by
  have hmk : EventType.mk ∘ EventType.value = id := rfl
  refine (fromStruct_structValue ofFields rfl (by simp)).trans ?_
  simp [ofFields, orderedSet_eq_self h, hmk]

end SubscriptionRequest

namespace Unsubscribe

def fieldNames : List String := ["request_id", "subscription_id"]

instance : Serialize Unsubscribe :=
  ⟨fun unsubscribe => structValue [("request_id", toValue unsubscribe.requestId),
    ("subscription_id", toValue unsubscribe.subscriptionId)]⟩

private def ofFields : List Value → Option Unsubscribe
  | [requestId, subscriptionId] => do some ⟨← fromValue requestId, ← fromValue subscriptionId⟩
  | _ => none

instance : Deserialize Unsubscribe := ⟨fromStruct fieldNames ofFields⟩

instance : LawfulSerde Unsubscribe where
  fromValue_toValue unsubscribe := by
    refine (fromStruct_structValue ofFields rfl (by simp)).trans ?_
    simp [ofFields]

end Unsubscribe

namespace PingMessage

def fieldNames : List String := ["nonce"]

instance : Serialize PingMessage := ⟨fun ping => structValue [("nonce", toValue ping.nonce)]⟩

private def ofFields : List Value → Option PingMessage
  | [nonce] => do some ⟨← fromValue nonce⟩
  | _ => none

instance : Deserialize PingMessage := ⟨fromStruct fieldNames ofFields⟩

instance : LawfulSerde PingMessage where
  fromValue_toValue ping := by
    refine (fromStruct_structValue ofFields rfl (by simp)).trans ?_
    simp [ofFields]

end PingMessage

namespace CloseMessage

def fieldNames : List String := ["reason"]

instance : Serialize CloseMessage := ⟨fun close => structValue [("reason", toValue close.reason)]⟩

private def ofFields : List Value → Option CloseMessage
  | [reason] => do some ⟨← fromValue reason⟩
  | _ => none

/-- An object may leave the reason out. -/
instance : Deserialize CloseMessage where
  fromValue
    | .object [] => some ⟨none⟩
    | v => fromStruct fieldNames ofFields v

instance : LawfulSerde CloseMessage where
  fromValue_toValue close := by
    refine (fromStruct_structValue ofFields rfl (by simp)).trans ?_
    simp [ofFields]

/-- A close message is an empty object, or read as a struct. -/
theorem fromValue_eq_some {v : Value} {close : CloseMessage} (h : fromValue v = some close) :
    v = .object [] ∨ ∃ build : List Value → Option CloseMessage,
      fromStruct fieldNames build v = some close := by
  cases v with
  | object m =>
    cases m with
    | nil => exact .inl rfl
    | cons entry rest => exact .inr ⟨ofFields, h⟩
  | _ => exact .inr ⟨ofFields, h⟩

end CloseMessage

namespace QueryMessage

def fieldNames : List String := ["version", "message_id", "message_type", "payload"]

instance : Serialize QueryMessage :=
  ⟨fun message => structValue [("version", toValue message.version),
    ("message_id", toValue message.messageId), ("message_type", toValue message.messageType),
    ("payload", toValue message.payload)]⟩

private def ofFields : List Value → Option QueryMessage
  | [version, messageId, messageType, payload] => do
    some ⟨← fromValue version, ← fromValue messageId, ← fromValue messageType,
      ← fromValue payload⟩
  | _ => none

instance : Deserialize QueryMessage := ⟨fromStruct fieldNames ofFields⟩

instance : LawfulSerde QueryMessage where
  fromValue_toValue message := by
    refine (fromStruct_structValue ofFields rfl (by simp)).trans ?_
    simp [ofFields]

end QueryMessage

namespace MessageEnvelope
variable {T : Type}

def fieldNames : List String := ["version", "message_id", "message_type", "payload"]

instance [Serialize T] : Serialize (MessageEnvelope T) :=
  ⟨fun envelope => structValue [("version", toValue envelope.version),
    ("message_id", toValue envelope.messageId), ("message_type", toValue envelope.messageType),
    ("payload", toValue envelope.payload)]⟩

private def ofFields [Deserialize T] : List Value → Option (MessageEnvelope T)
  | [version, messageId, messageType, payload] => do
    some ⟨← fromValue version, ← fromValue messageId, ← fromValue messageType,
      ← fromValue payload⟩
  | _ => none

instance [Deserialize T] : Deserialize (MessageEnvelope T) :=
  ⟨fromOpenStruct fieldNames ofFields⟩

theorem fromValue_toValue [Serialize T] [Deserialize T] {envelope : MessageEnvelope T}
    (h : fromValue (toValue envelope.payload) = some envelope.payload) :
    fromValue (toValue envelope) = some envelope := by
  refine (fromOpenStruct_structValue ofFields rfl (by simp)).trans ?_
  simp [ofFields, h]

end MessageEnvelope

namespace InboundMessage

/-- The variant as its tag and its content. -/
def toContent [Serialize Timestamp] : InboundMessage → String × Value
  | hello message => ("hello", toValue message)
  | authenticate message => ("authenticate", toValue message)
  | subscribe message => ("subscribe", toValue message)
  | unsubscribe message => ("unsubscribe", toValue message)
  | action message => ("action", toValue message)
  | query message => ("query", toValue message)
  | ping message => ("ping", toValue message)
  | close message => ("close", toValue message)

instance [Serialize Timestamp] : Serialize InboundMessage :=
  ⟨fun message => structValue [("kind", .string message.toContent.1),
    ("payload", message.toContent.2)]⟩

variable [Deserialize Timestamp]

def ofContent (kind : String) (payload : Value) : Option InboundMessage :=
  match kind with
  | "hello" => hello <$> fromValue payload
  | "authenticate" => authenticate <$> fromValue payload
  | "subscribe" => subscribe <$> fromValue payload
  | "unsubscribe" => unsubscribe <$> fromValue payload
  | "action" => action <$> fromValue payload
  | "query" => query <$> fromValue payload
  | "ping" => ping <$> fromValue payload
  | "close" => close <$> fromValue payload
  | _ => none

def fieldNames : List String := ["kind", "payload"]

private def ofFields : List Value → Option InboundMessage
  | [kind, payload] => do ofContent (← unitVariant kind) payload
  | _ => none

/-- An adjacently tagged enum ignores unknown keys. -/
instance : Deserialize InboundMessage := ⟨fromOpenStruct fieldNames ofFields⟩

theorem fromValue_object {m : Json.Map} {kind : String} {payload : Value}
    (hkind : m.get? "kind" = some (.string kind)) (hpayload : m.get? "payload" = some payload) :
    fromValue (.object m) = ofContent kind payload := by
  have hfields : openFields fieldNames (.object m) = some [.string kind, payload] := by
    simp [openFields, fieldNames, hkind, hpayload]
  show (openFields fieldNames (.object m)).bind ofFields = _
  rw [hfields]
  rfl

end InboundMessage
end OrbitRelay
