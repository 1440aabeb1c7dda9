import OrbitRelay.Lib.Result
import OrbitRelay.Protocol.Basic

/-! Values of the protocol runtime: event drafts, execution scopes and errors. -/
namespace OrbitRelay

/-- An event without the identity and time that the runtime assigns. -/
structure EventDraft where
  eventType : EventType
  payload : Payload
  metadata : Metadata

/-- The event that `Runtime::execute` builds from a draft. -/
def EventDraft.toEvent (draft : EventDraft) (action : Action) (id : EventId) (now : Timestamp) :
    Event where
  id := id
  sessionId := action.sessionId
  actorId := action.actorId
  actionId := action.id
  eventType := draft.eventType
  occurredAt := now
  payload := draft.payload
  metadata := draft.metadata

structure HandlerError where
  message : String
deriving DecidableEq

structure AuthorizationError where
  message : String
deriving DecidableEq

structure PipelineError where
  message : String
deriving DecidableEq

inductive ExecutionCoordinationError
  | invalidScope (field : String)
  | unavailable (message : String)
  | acquisitionFailed (message : String)
deriving DecidableEq

/-- A server-side key identifying actions that must execute serially. -/
structure ExecutionScope where
  namespace_ : String
  key : String
deriving DecidableEq

/-- Rejects empty and whitespace-only values and preserves all others. -/
def ExecutionScope.new (namespace_ key : String) :
    Except ExecutionCoordinationError ExecutionScope :=
  if Text.isBlank namespace_ then .error (.invalidScope "namespace")
  else if Text.isBlank key then .error (.invalidScope "key")
  else .ok ⟨namespace_, key⟩

inductive RuntimeError
  | handlerNotFound (actionType : ActionType)
  | validationFailed (actionId : ActionId) (source : HandlerError)
  | authorizationFailed (actionId : ActionId) (source : AuthorizationError)
  | handlerFailed (actionId : ActionId) (source : HandlerError)
  | coordinationUnavailable (actionId : ActionId) (scope : ExecutionScope)
  | coordinationFailed (actionId : ActionId) (scope : ExecutionScope)
      (source : ExecutionCoordinationError)
  | pipelineFailed (actionId : ActionId) (source : PipelineError)
deriving DecidableEq

inductive RegistryError
  | alreadyRegistered (actionType : ActionType)
deriving DecidableEq

/-- A mapping from action types to handlers. -/
abbrev HandlerRegistry (H : Type) := ActionType → Option H

/-- Registers a handler without replacing an existing registration. -/
def HandlerRegistry.register {H : Type} (registry : HandlerRegistry H) (actionType : ActionType)
    (handler : H) : Except RegistryError (HandlerRegistry H) :=
  if (registry actionType).isSome then .error (.alreadyRegistered actionType)
  else .ok fun other => if other = actionType then some handler else registry other

end OrbitRelay
