import OrbitRelay.Core

/-! Transport-independent protocol values: payload objects, actions and events. -/
namespace OrbitRelay
open Json

/-- A JSON-compatible payload whose top level is always an object. -/
structure Payload where
  fields : Json.Map

instance : BEq Payload := ⟨fun a b => Value.object a.fields == Value.object b.fields⟩

instance : Serialize Payload := ⟨fun payload => .object payload.fields⟩

instance : Deserialize Payload where
  fromValue
    | .object fields => some ⟨fields⟩
    | _ => none

instance : LawfulSerde Payload := ⟨fun _ => rfl⟩

structure EventType where
  value : String
deriving DecidableEq

structure ActionType where
  value : String
deriving DecidableEq

instance : Serialize ActionType := ⟨fun actionType => toValue actionType.value⟩

instance : Deserialize ActionType := ⟨fun v => ActionType.mk <$> fromValue v⟩

instance : LawfulSerde ActionType := ⟨fun _ => rfl⟩

/-- A request by an actor to perform an operation in a session. -/
structure Action where
  id : ActionId
  sessionId : SessionId
  actorId : ActorId
  actionType : ActionType
  requestedAt : Timestamp
  payload : Payload
  metadata : Metadata

section
variable [Serialize Timestamp] [Deserialize Timestamp]

instance : Serialize Action :=
  ⟨fun action => structValue [("id", toValue action.id),
    ("session_id", toValue action.sessionId), ("actor_id", toValue action.actorId),
    ("action_type", toValue action.actionType), ("requested_at", toValue action.requestedAt),
    ("payload", toValue action.payload), ("metadata", toValue action.metadata)]⟩

private def Action.ofFields : List Value → Option Action
  | [id, sessionId, actorId, actionType, requestedAt, payload, metadata] => do
    some ⟨← fromValue id, ← fromValue sessionId, ← fromValue actorId, ← fromValue actionType,
      ← fromValue requestedAt, ← fromValue payload, ← fromValue metadata⟩
  | _ => none

def Action.fieldNames : List String :=
  ["id", "session_id", "actor_id", "action_type", "requested_at", "payload", "metadata"]

instance : Deserialize Action := ⟨fromOpenStruct Action.fieldNames Action.ofFields⟩

/-- An action is read back when its timestamp is. -/
theorem Action.fromValue_toValue {action : Action}
    (h : fromValue (toValue action.requestedAt) = some action.requestedAt) :
    fromValue (toValue action) = some action := by
  refine (fromOpenStruct_structValue Action.ofFields rfl (by simp)).trans ?_
  simp [Action.ofFields, h]

end

/-- A fact that occurred after an action was processed. -/
structure Event where
  id : EventId
  sessionId : SessionId
  actorId : ActorId
  actionId : ActionId
  eventType : EventType
  occurredAt : Timestamp
  payload : Payload
  metadata : Metadata

/-- The derived comparison. Payload floats compare by IEEE value, so it is coarser
than equality of representations. -/
instance : BEq Event where
  beq a b := a.id == b.id && a.sessionId == b.sessionId && a.actorId == b.actorId &&
    a.actionId == b.actionId && a.eventType == b.eventType && a.occurredAt == b.occurredAt &&
    a.payload == b.payload && a.metadata == b.metadata

theorem Event.id_eq_of_beq {a b : Event} (h : (a == b) = true) : a.id = b.id := by
  simp only [BEq.beq, Bool.and_eq_true] at h
  simpa using h.1.1.1.1.1.1.1

end OrbitRelay
