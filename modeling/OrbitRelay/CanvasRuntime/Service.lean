import OrbitRelay.Runtime.Basic
import OrbitRelay.Canvas.Projection

/-! Aggregate-aware command processing shared by the five Stroke handlers. The metadata
catalog and the state reader are ports: any functions of the service's own types. -/
namespace OrbitRelay

/-- Failure reported by a Canvas metadata catalog implementation. -/
structure CanvasCatalogError where
  detail : String
deriving DecidableEq

/-- Failure reported while reading an already persisted Stroke projection. -/
inductive CanvasStateReadError
  | unavailable (detail : String)
  | projectionCorrupted (source : CanvasProjectionError)
deriving DecidableEq

/-- Errors produced by Canvas command handling after authorization. -/
inductive CanvasRuntimeError
  | canvasNotFound (canvasId : CanvasId)
  | canvasSessionMismatch (canvasId : CanvasId) (expected actual : SessionId)
  | layerNotFound (canvasId : CanvasId) (layerId : LayerId)
  | catalogFailed (source : CanvasCatalogError)
  | stateReadFailed (source : CanvasStateReadError)
  | domainViolation (source : CanvasError)
  | projectionCorrupted (source : CanvasProjectionError)
  | encodingFailed (source : CanvasError)
  | chunkIndexOverflow (strokeId : StrokeId)
deriving DecidableEq

structure CanvasCommandService where
  catalog : CanvasId → Except CanvasCatalogError (Option CanvasDescriptor)
  stateReader : SessionId → CanvasId → StrokeId →
    Except CanvasStateReadError (Option StrokeProjection)

def domain (source : CanvasError) : CanvasRuntimeError := .domainViolation source

def corrupted (source : CanvasProjectionError) : CanvasRuntimeError :=
  .projectionCorrupted source

def invalidState («from» «to» : StrokeLifecycle) : CanvasRuntimeError :=
  domain (.invalidStrokeState «from» «to»)

def mapStateReadError : CanvasStateReadError → CanvasRuntimeError
  | .projectionCorrupted source => corrupted source
  | source => .stateReadFailed source

def eventDraft {T : Type} [ValidatedPayload T] (eventType : String) (payload : T) :
    Except CanvasRuntimeError (List EventDraft) := do
  let payload ← (encodePayload payload).mapError .encodingFailed
  .ok [⟨⟨eventType⟩, payload, ⟨[]⟩⟩]

def validateProjectionIdentity (projection : StrokeProjection) (action : Action)
    (canvasId : CanvasId) (strokeId : StrokeId) : Except CanvasRuntimeError Unit :=
  if projection.sessionId ≠ action.sessionId then
    .error (corrupted (.sessionMismatch action.sessionId projection.sessionId))
  else if projection.canvasId ≠ canvasId then
    .error (corrupted (.canvasMismatch canvasId projection.canvasId))
  else if projection.strokeId ≠ strokeId then
    .error (corrupted (.strokeMismatch strokeId projection.strokeId))
  else .ok ()

/-- Checks the points against the Canvas bounds, in order. -/
def validatePointsIn (descriptor : CanvasDescriptor) (points : List CanvasPoint) :
    Except CanvasRuntimeError Unit :=
  points.forM fun point => (descriptor.space.validatePoint point).mapError domain

def validateFinalIndex (kind : String) (projection : StrokeProjection)
    (finalChunkIndex : UInt64) : Except CanvasRuntimeError Unit :=
  if finalChunkIndex = projection.lastChunkIndex then .ok ()
  else .error (domain (.invalidChunkIndex kind finalChunkIndex))

namespace CanvasCommandService
variable (service : CanvasCommandService) (action : Action)

def loadCanvas (canvasId : CanvasId) : Except CanvasRuntimeError CanvasDescriptor := do
  let found ← (service.catalog canvasId).mapError .catalogFailed
  let descriptor ← found.okOr (.canvasNotFound canvasId)
  if descriptor.sessionId ≠ action.sessionId then
    .error (.canvasSessionMismatch canvasId descriptor.sessionId action.sessionId)
  else .ok descriptor

def loadStroke (canvasId : CanvasId) (strokeId : StrokeId) :
    Except CanvasRuntimeError (Option StrokeProjection) :=
  (service.stateReader action.sessionId canvasId strokeId).mapError mapStateReadError

def loadRequiredStroke (canvasId : CanvasId) (strokeId : StrokeId) :
    Except CanvasRuntimeError StrokeProjection := do
  (← service.loadStroke action canvasId strokeId).okOr (domain (.strokeNotFound strokeId))

def validateLayer (descriptor : CanvasDescriptor) (layerId : LayerId) :
    Except CanvasRuntimeError Unit :=
  if descriptor.containsLayer layerId then .ok ()
  else .error (.layerNotFound descriptor.canvasId layerId)

/-- The begin test of a retry: what the existing Stroke was begun with. -/
def sameBegin (existing : StrokeProjection) (payload : StrokeBeginPayload) : Bool :=
  existing.layerId == payload.layerId && existing.tool == payload.tool &&
    existing.style == payload.style &&
    (existing.chunk 0).any (fun chunk => chunk.points == payload.points) &&
    existing.creatorActorId == action.actorId

def begin (payload : StrokeBeginPayload) : Except CanvasRuntimeError (List EventDraft) := do
  let descriptor ← service.loadCanvas action payload.canvasId
  validateLayer descriptor payload.layerId
  validatePointsIn descriptor payload.points
  match ← service.loadStroke action payload.canvasId payload.strokeId with
  | some existing =>
    validateProjectionIdentity existing action payload.canvasId payload.strokeId
    if sameBegin action existing payload then .ok []
    else .error (domain (.strokeAlreadyExists payload.strokeId))
  | none => eventDraft strokeBeganEventType payload

def append (payload : StrokeAppendPayload) : Except CanvasRuntimeError (List EventDraft) := do
  let descriptor ← service.loadCanvas action payload.canvasId
  let projection ← service.loadRequiredStroke action payload.canvasId payload.strokeId
  validateProjectionIdentity projection action payload.canvasId payload.strokeId
  let last := projection.lastChunkIndex
  if payload.chunkIndex ≤ last then
    let chunk ← (projection.chunk payload.chunkIndex).okOr
      (corrupted (.invalidHistoryChunk payload.strokeId payload.chunkIndex last))
    if chunk.points == payload.points then .ok []
    else .error (domain (.chunkConflict payload.strokeId payload.chunkIndex))
  else do
    let expected ← projection.nextChunkIndex.okOr (.chunkIndexOverflow payload.strokeId)
    if payload.chunkIndex > expected then
      .error (domain (.missingChunk payload.strokeId expected payload.chunkIndex))
    else if projection.lifecycle ≠ .active then .error (invalidState projection.lifecycle .active)
    else do
      validatePointsIn descriptor payload.points
      eventDraft strokePointsAppendedEventType payload

def «end» (payload : StrokeEndPayload) : Except CanvasRuntimeError (List EventDraft) := do
  let _ ← service.loadCanvas action payload.canvasId
  let projection ← service.loadRequiredStroke action payload.canvasId payload.strokeId
  validateProjectionIdentity projection action payload.canvasId payload.strokeId
  match projection.lifecycle with
  | .active => do
    validateFinalIndex "end" projection payload.finalChunkIndex
    eventDraft strokeCompletedEventType payload
  | .completed | .removed => do
    validateFinalIndex "end" projection payload.finalChunkIndex
    .ok []
  | .cancelled => .error (invalidState .cancelled .completed)

def cancel (payload : StrokeCancelPayload) : Except CanvasRuntimeError (List EventDraft) := do
  let _ ← service.loadCanvas action payload.canvasId
  let projection ← service.loadRequiredStroke action payload.canvasId payload.strokeId
  validateProjectionIdentity projection action payload.canvasId payload.strokeId
  match projection.lifecycle with
  | .active => do
    validateFinalIndex "cancel" projection payload.finalChunkIndex
    eventDraft strokeCancelledEventType payload
  | .cancelled => do
    validateFinalIndex "cancel" projection payload.finalChunkIndex
    .ok []
  | state@(.completed) | state@(.removed) => .error (invalidState state .cancelled)

def remove (payload : StrokeRemovePayload) : Except CanvasRuntimeError (List EventDraft) := do
  let _ ← service.loadCanvas action payload.canvasId
  let projection ← service.loadRequiredStroke action payload.canvasId payload.strokeId
  validateProjectionIdentity projection action payload.canvasId payload.strokeId
  match projection.lifecycle with
  | .completed => eventDraft strokeRemovedEventType payload
  | .removed => .ok []
  | state@(.active) | state@(.cancelled) => .error (invalidState state .removed)

end CanvasCommandService
end OrbitRelay
