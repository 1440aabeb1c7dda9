import OrbitRelay.Canvas.Payload

/-! Deterministic Stroke state derived exclusively from Canvas events. -/
namespace OrbitRelay

def strokeBeganEventType : String := "canvas.stroke.began"
def strokePointsAppendedEventType : String := "canvas.stroke.points_appended"
def strokeCompletedEventType : String := "canvas.stroke.completed"
def strokeCancelledEventType : String := "canvas.stroke.cancelled"
def strokeRemovedEventType : String := "canvas.stroke.removed"

/-- Stable classification of Canvas event facts. -/
inductive CanvasEventKind
  | strokeBegan | strokePointsAppended | strokeCompleted | strokeCancelled | strokeRemoved
deriving DecidableEq

namespace CanvasEventKind

def fromEventType (eventType : EventType) : Option CanvasEventKind :=
  if eventType.value = strokeBeganEventType then some .strokeBegan
  else if eventType.value = strokePointsAppendedEventType then some .strokePointsAppended
  else if eventType.value = strokeCompletedEventType then some .strokeCompleted
  else if eventType.value = strokeCancelledEventType then some .strokeCancelled
  else if eventType.value = strokeRemovedEventType then some .strokeRemoved
  else none

end CanvasEventKind

/-- Errors indicating that persisted Canvas event history is inconsistent. -/
inductive CanvasProjectionError
  | unexpectedEvent (eventType : EventType)
  | invalidEventPayload (eventType : EventType) (source : CanvasError)
  | projectionAlreadyExists (strokeId : StrokeId)
  | projectionMissing (eventType : EventType)
  | sessionMismatch (expected actual : SessionId)
  | canvasMismatch (expected actual : CanvasId)
  | strokeMismatch (expected actual : StrokeId)
  | invalidHistoryState (strokeId : StrokeId) (lifecycle : StrokeLifecycle) (eventType : EventType)
  | invalidHistoryChunk (strokeId : StrokeId) (expected actual : UInt64)
  | chunkIndexOverflow (strokeId : StrokeId)
deriving DecidableEq

/-- Strong payload representation of a recognized Canvas event. -/
inductive CanvasEventData
  | strokeBegan (payload : StrokeBeginPayload)
  | strokePointsAppended (payload : StrokeAppendPayload)
  | strokeCompleted (payload : StrokeEndPayload)
  | strokeCancelled (payload : StrokeCancelPayload)
  | strokeRemoved (payload : StrokeRemovePayload)

namespace CanvasEventData

/-- Returns this event's stable Canvas kind. -/
def kind : CanvasEventData → CanvasEventKind
  | .strokeBegan _ => .strokeBegan
  | .strokePointsAppended _ => .strokePointsAppended
  | .strokeCompleted _ => .strokeCompleted
  | .strokeCancelled _ => .strokeCancelled
  | .strokeRemoved _ => .strokeRemoved

def tryFrom (event : Event) : Except CanvasProjectionError CanvasEventData := do
  let kind ← (CanvasEventKind.fromEventType event.eventType).okOr
    (.unexpectedEvent event.eventType)
  let invalidPayload := CanvasProjectionError.invalidEventPayload event.eventType
  match kind with
  | .strokeBegan => (strokeBegan <$> decodePayload event.payload).mapError invalidPayload
  | .strokePointsAppended =>
    (strokePointsAppended <$> decodePayload event.payload).mapError invalidPayload
  | .strokeCompleted => (strokeCompleted <$> decodePayload event.payload).mapError invalidPayload
  | .strokeCancelled => (strokeCancelled <$> decodePayload event.payload).mapError invalidPayload
  | .strokeRemoved => (strokeRemoved <$> decodePayload event.payload).mapError invalidPayload

/-- The Canvas that the fact names. -/
def canvasId : CanvasEventData → CanvasId
  | .strokeBegan p => p.canvasId
  | .strokePointsAppended p => p.canvasId
  | .strokeCompleted p => p.canvasId
  | .strokeCancelled p => p.canvasId
  | .strokeRemoved p => p.canvasId

/-- The Stroke that the fact names. -/
def strokeId : CanvasEventData → StrokeId
  | .strokeBegan p => p.strokeId
  | .strokePointsAppended p => p.strokeId
  | .strokeCompleted p => p.strokeId
  | .strokeCancelled p => p.strokeId
  | .strokeRemoved p => p.strokeId

end CanvasEventData

/-- One contiguous, ordered batch of points within a Stroke. -/
@[ext] structure StrokeChunk where
  index : UInt64
  points : List CanvasPoint
  point_count : 1 ≤ points.length ∧ points.length ≤ maxPointsPerChunk

/-- Creates a chunk with the protocol point-count limit applied. -/
def StrokeChunk.new (index : UInt64) (points : List CanvasPoint) :
    Except CanvasError StrokeChunk :=
  if h : 1 ≤ points.length ∧ points.length ≤ maxPointsPerChunk then .ok ⟨index, points, h⟩
  else .error (.invalidPointCount points.length maxPointsPerChunk)

/-- Rebuildable current state of one Stroke aggregate. Only the projector builds it,
from a begin fact, so there always is a first chunk. -/
@[ext] structure StrokeProjection where
  strokeId : StrokeId
  canvasId : CanvasId
  layerId : LayerId
  sessionId : SessionId
  creatorActorId : ActorId
  tool : StrokeTool
  style : StrokeStyle
  chunks : List StrokeChunk
  lifecycle : StrokeLifecycle
  createdAt : Timestamp
  chunks_ne_nil : chunks ≠ []

namespace StrokeProjection

/-- Returns a chunk by its logical index. -/
def chunk (projection : StrokeProjection) (index : UInt64) : Option StrokeChunk :=
  projection.chunks[index.toNat]?.filter (fun chunk => chunk.index == index)

/-- Returns the final contiguous chunk index. -/
def lastChunkIndex (projection : StrokeProjection) : UInt64 :=
  (projection.chunks.getLast projection.chunks_ne_nil).index

/-- Returns the next contiguous chunk index, or `none` on overflow. -/
def nextChunkIndex (projection : StrokeProjection) : Option UInt64 :=
  projection.lastChunkIndex.checkedAdd 1

def pushChunk (projection : StrokeProjection) (chunk : StrokeChunk) : StrokeProjection :=
  { projection with chunks := projection.chunks ++ [chunk], chunks_ne_nil := by simp }

def setLifecycle (projection : StrokeProjection) (lifecycle : StrokeLifecycle) :
    StrokeProjection :=
  { projection with lifecycle := lifecycle }

end StrokeProjection

def requireProjection (projection : Option StrokeProjection) (eventType : EventType) :
    Except CanvasProjectionError StrokeProjection :=
  projection.okOr (.projectionMissing eventType)

def validateIdentity (projection : StrokeProjection) (event : Event) (canvasId : CanvasId)
    (strokeId : StrokeId) : Except CanvasProjectionError Unit :=
  if event.sessionId ≠ projection.sessionId then
    .error (.sessionMismatch projection.sessionId event.sessionId)
  else if canvasId ≠ projection.canvasId then
    .error (.canvasMismatch projection.canvasId canvasId)
  else if strokeId ≠ projection.strokeId then
    .error (.strokeMismatch projection.strokeId strokeId)
  else .ok ()

def requireLifecycle (projection : StrokeProjection) (expected : StrokeLifecycle)
    (eventType : EventType) : Except CanvasProjectionError Unit :=
  if projection.lifecycle = expected then .ok ()
  else .error (.invalidHistoryState projection.strokeId projection.lifecycle eventType)

def applyTerminal (projection : Option StrokeProjection) (event : Event) (canvasId : CanvasId)
    (strokeId : StrokeId) (finalChunkIndex : UInt64) (target : StrokeLifecycle) :
    Except CanvasProjectionError StrokeProjection := do
  let projection ← requireProjection projection event.eventType
  validateIdentity projection event canvasId strokeId
  requireLifecycle projection .active event.eventType
  let expected := projection.lastChunkIndex
  if finalChunkIndex ≠ expected then
    .error (.invalidHistoryChunk projection.strokeId expected finalChunkIndex)
  else .ok (projection.setLifecycle target)

namespace StrokeProjector

/-- Applies one recognized Canvas event in persisted order. -/
def apply (projection : Option StrokeProjection) (event : Event) :
    Except CanvasProjectionError StrokeProjection := do
  match ← CanvasEventData.tryFrom event with
  | .strokeBegan payload =>
    if let some existing := projection then
      .error (.projectionAlreadyExists existing.strokeId)
    else do
      let chunk ← (StrokeChunk.new payload.chunkIndex payload.points).mapError
        (.invalidEventPayload event.eventType)
      .ok { strokeId := payload.strokeId, canvasId := payload.canvasId, layerId := payload.layerId,
            sessionId := event.sessionId, creatorActorId := event.actorId, tool := payload.tool,
            style := payload.style, chunks := [chunk], lifecycle := .active,
            createdAt := event.occurredAt, chunks_ne_nil := by simp }
  | .strokePointsAppended payload =>
    let projection ← requireProjection projection event.eventType
    validateIdentity projection event payload.canvasId payload.strokeId
    requireLifecycle projection .active event.eventType
    let expected ← projection.nextChunkIndex.okOr (.chunkIndexOverflow projection.strokeId)
    if payload.chunkIndex ≠ expected then
      .error (.invalidHistoryChunk projection.strokeId expected payload.chunkIndex)
    else do
      let chunk ← (StrokeChunk.new payload.chunkIndex payload.points).mapError
        (.invalidEventPayload event.eventType)
      .ok (projection.pushChunk chunk)
  | .strokeCompleted payload =>
    applyTerminal projection event payload.canvasId payload.strokeId payload.finalChunkIndex
      .completed
  | .strokeCancelled payload =>
    applyTerminal projection event payload.canvasId payload.strokeId payload.finalChunkIndex
      .cancelled
  | .strokeRemoved payload =>
    let projection ← requireProjection projection event.eventType
    validateIdentity projection event payload.canvasId payload.strokeId
    requireLifecycle projection .completed event.eventType
    .ok (projection.setLifecycle .removed)

/-- Folds a history in persisted order, starting without a Stroke. -/
def fold (history : List Event) : Except CanvasProjectionError (Option StrokeProjection) :=
  history.foldlM (fun projection event => some <$> apply projection event) none

end StrokeProjector
end OrbitRelay
