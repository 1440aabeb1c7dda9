import OrbitRelay.Lib.Result
import OrbitRelay.Canvas.Values

/-! Strict conversion between generic protocol payloads and Canvas values. -/
namespace OrbitRelay
open Json

/-- Maximum logical points accepted in one begin or append chunk. -/
def maxPointsPerChunk : Nat := 256

def validateBeginChunkIndex (chunkIndex : UInt64) : Except CanvasError Unit :=
  if chunkIndex = 0 then .ok () else .error (.invalidChunkIndex "begin" chunkIndex)

def validateAppendChunkIndex (chunkIndex : UInt64) : Except CanvasError Unit :=
  if chunkIndex ≥ 1 then .ok () else .error (.invalidChunkIndex "append" chunkIndex)

def validatePoints (points : List CanvasPoint) : Except CanvasError Unit :=
  if 1 ≤ points.length ∧ points.length ≤ maxPointsPerChunk then .ok ()
  else .error (.invalidPointCount points.length maxPointsPerChunk)

theorem validatePoints_eq_ok {points : List CanvasPoint} :
    validatePoints points = .ok () ↔ 1 ≤ points.length ∧ points.length ≤ maxPointsPerChunk := by
  simp [validatePoints]

private def invalidPayload (detail : String) : CanvasError := .invalidPayload detail

/-- A payload type with its own structural validation. -/
class ValidatedPayload (T : Type) extends Serialize T, Deserialize T where
  validatePayload : T → Except CanvasError Unit

export ValidatedPayload (validatePayload)

/-- Decodes the object, then validates the decoded value. Converting a payload to a
JSON value cannot fail. -/
def decodePayload {T : Type} [ValidatedPayload T] (payload : Payload) : Except CanvasError T := do
  let decoded ← (fromValue (toValue payload)).okOr (invalidPayload "schema mismatch")
  validatePayload decoded
  .ok decoded

/-- Validates the value, then encodes it as an object. -/
def encodePayload {T : Type} [ValidatedPayload T] (payload : T) : Except CanvasError Payload := do
  validatePayload payload
  (fromValue (toValue payload)).okOr (invalidPayload "top level must be an object")

/-- Serialization writes an object and reads it back. -/
class LawfulPayload (T : Type) [ValidatedPayload T] : Prop extends LawfulSerde T where
  toValue_object : ∀ payload : T, ∃ fields, toValue payload = .object fields

section
variable {T : Type} [ValidatedPayload T]

/-- Whatever a payload decodes to has passed its validation. -/
theorem validatePayload_of_decodePayload {payload : Payload} {decoded : T}
    (h : decodePayload payload = .ok decoded) : validatePayload decoded = .ok () := by
  obtain ⟨a, -, h⟩ := Except.bind_eq_ok.mp h
  obtain ⟨⟨⟩, hv, ha⟩ := Except.bind_eq_ok.mp h
  exact (Except.ok.inj ha) ▸ hv

/-- An encoding decodes to the value it encodes. -/
theorem decodePayload_of_encodePayload [LawfulPayload T] {payload : T} {encoded : Payload}
    (h : encodePayload payload = .ok encoded) : decodePayload encoded = .ok payload := by
  obtain ⟨⟨⟩, hv, h⟩ := Except.bind_eq_ok.mp h
  obtain ⟨fields, hfields⟩ := LawfulPayload.toValue_object payload
  rw [hfields] at h
  obtain rfl : ⟨fields⟩ = encoded := Except.ok.inj h
  have hback : (fromValue (toValue (⟨fields⟩ : Payload)) : Option T) = some payload := by
    change fromValue (Value.object fields) = some payload
    rw [← hfields, fromValue_toValue]
  simp only [decodePayload, hback, Except.okOr_some, Except.ok_bind, hv]

/-- Valid values encode. -/
theorem exists_encodePayload [LawfulPayload T] {payload : T}
    (hv : validatePayload payload = .ok ()) : ∃ encoded, encodePayload payload = .ok encoded := by
  obtain ⟨fields, hfields⟩ := LawfulPayload.toValue_object payload
  refine ⟨⟨fields⟩, ?_⟩
  simp only [encodePayload, hv, hfields, Except.ok_bind]
  rfl

end

/-- Strong payload for `canvas.stroke.begin` and `canvas.stroke.began`. -/
structure StrokeBeginPayload where
  canvasId : CanvasId
  layerId : LayerId
  strokeId : StrokeId
  tool : StrokeTool
  style : StrokeStyle
  chunkIndex : UInt64
  points : List CanvasPoint

namespace StrokeBeginPayload

def validate (payload : StrokeBeginPayload) : Except CanvasError Unit := do
  validateBeginChunkIndex payload.chunkIndex
  validatePoints payload.points

theorem validate_eq_ok {payload : StrokeBeginPayload} : payload.validate = .ok () ↔
    payload.chunkIndex = 0 ∧ 1 ≤ payload.points.length ∧
      payload.points.length ≤ maxPointsPerChunk := by
  by_cases h : payload.chunkIndex = 0 <;>
    simp [validate, validateBeginChunkIndex, h, validatePoints_eq_ok]

private def ofFields : List Value → Option StrokeBeginPayload
  | [canvasId, layerId, strokeId, tool, style, chunkIndex, points] => do
    some ⟨← fromValue canvasId, ← fromValue layerId, ← fromValue strokeId, ← fromValue tool,
      ← fromValue style, ← fromValue chunkIndex, ← fromValue points⟩
  | _ => none

instance : ValidatedPayload StrokeBeginPayload where
  toValue p := structValue [("canvas_id", toValue p.canvasId), ("layer_id", toValue p.layerId),
    ("stroke_id", toValue p.strokeId), ("tool", toValue p.tool), ("style", toValue p.style),
    ("chunk_index", toValue p.chunkIndex), ("points", toValue p.points)]
  fromValue := fromStruct ["canvas_id", "layer_id", "stroke_id", "tool", "style", "chunk_index",
    "points"] ofFields
  validatePayload := validate

instance : LawfulPayload StrokeBeginPayload where
  fromValue_toValue p := (fromStruct_structValue ofFields rfl (by simp)).trans (by simp [ofFields])
  toValue_object p := ⟨_, rfl⟩

/-- The style and the points are read from their own fields. -/
theorem nested_of_fromValue {m : Json.Map} {payload : StrokeBeginPayload}
    (h : fromValue (.object m) = some payload) :
    (∃ style, m.get? "style" = some style ∧ fromValue style = some payload.style) ∧
      ∃ points, m.get? "points" = some points ∧ fromValue points = some payload.points := by
  obtain ⟨-, values, hvalues, hbuild⟩ := fromStruct_object_eq_some.mp h
  simp only [List.mapM_cons, List.mapM_nil, Option.bind_eq_bind, Option.bind_eq_some_iff,
    Option.pure_def, Option.some.injEq] at hvalues
  obtain ⟨_, -, _, ⟨_, -, _, ⟨_, -, _, ⟨_, -, _, ⟨style, hstyle, _, ⟨_, -, _, ⟨points, hpoints, _,
    rfl, rfl⟩, rfl⟩, rfl⟩, rfl⟩, rfl⟩, rfl⟩, rfl⟩ := hvalues
  simp only [ofFields, Option.bind_eq_bind, Option.bind_eq_some_iff, Option.some.injEq] at hbuild
  obtain ⟨_, -, _, -, _, -, _, -, _, hstyle', _, -, _, hpoints', rfl⟩ := hbuild
  exact ⟨⟨style, hstyle, hstyle'⟩, points, hpoints, hpoints'⟩

end StrokeBeginPayload

/-- Strong payload for `canvas.stroke.append` and `canvas.stroke.points_appended`. -/
structure StrokeAppendPayload where
  canvasId : CanvasId
  strokeId : StrokeId
  chunkIndex : UInt64
  points : List CanvasPoint

namespace StrokeAppendPayload

def validate (payload : StrokeAppendPayload) : Except CanvasError Unit := do
  validateAppendChunkIndex payload.chunkIndex
  validatePoints payload.points

theorem validate_eq_ok {payload : StrokeAppendPayload} : payload.validate = .ok () ↔
    payload.chunkIndex ≥ 1 ∧ 1 ≤ payload.points.length ∧
      payload.points.length ≤ maxPointsPerChunk := by
  by_cases h : payload.chunkIndex ≥ 1
  · simp only [validate, validateAppendChunkIndex, h, if_true, Except.ok_bind,
      validatePoints_eq_ok, true_and]
  · simp only [validate, validateAppendChunkIndex, h, if_false, Except.error_bind, false_and,
      reduceCtorEq]

private def ofFields : List Value → Option StrokeAppendPayload
  | [canvasId, strokeId, chunkIndex, points] => do
    some ⟨← fromValue canvasId, ← fromValue strokeId, ← fromValue chunkIndex, ← fromValue points⟩
  | _ => none

instance : ValidatedPayload StrokeAppendPayload where
  toValue p := structValue [("canvas_id", toValue p.canvasId), ("stroke_id", toValue p.strokeId),
    ("chunk_index", toValue p.chunkIndex), ("points", toValue p.points)]
  fromValue := fromStruct ["canvas_id", "stroke_id", "chunk_index", "points"] ofFields
  validatePayload := validate

instance : LawfulPayload StrokeAppendPayload where
  fromValue_toValue p := (fromStruct_structValue ofFields rfl (by simp)).trans (by simp [ofFields])
  toValue_object p := ⟨_, rfl⟩

/-- The points are read from their own field. -/
theorem points_of_fromValue {m : Json.Map} {payload : StrokeAppendPayload}
    (h : fromValue (.object m) = some payload) :
    ∃ points, m.get? "points" = some points ∧ fromValue points = some payload.points := by
  obtain ⟨-, values, hvalues, hbuild⟩ := fromStruct_object_eq_some.mp h
  simp only [List.mapM_cons, List.mapM_nil, Option.bind_eq_bind, Option.bind_eq_some_iff,
    Option.pure_def, Option.some.injEq] at hvalues
  obtain ⟨_, -, _, ⟨_, -, _, ⟨_, -, _, ⟨points, hpoints, _, rfl, rfl⟩, rfl⟩, rfl⟩, rfl⟩ := hvalues
  simp only [ofFields, Option.bind_eq_bind, Option.bind_eq_some_iff, Option.some.injEq] at hbuild
  obtain ⟨_, -, _, -, _, -, _, hpoints', rfl⟩ := hbuild
  exact ⟨points, hpoints, hpoints'⟩

end StrokeAppendPayload

/-- Strong payload for `canvas.stroke.end` and `canvas.stroke.completed`. -/
structure StrokeEndPayload where
  canvasId : CanvasId
  strokeId : StrokeId
  finalChunkIndex : UInt64
deriving DecidableEq

namespace StrokeEndPayload

/-- The terminal index is structurally unrestricted. -/
def validate (_ : StrokeEndPayload) : Except CanvasError Unit := .ok ()

private def ofFields : List Value → Option StrokeEndPayload
  | [canvasId, strokeId, finalChunkIndex] => do
    some ⟨← fromValue canvasId, ← fromValue strokeId, ← fromValue finalChunkIndex⟩
  | _ => none

instance : ValidatedPayload StrokeEndPayload where
  toValue p := structValue [("canvas_id", toValue p.canvasId), ("stroke_id", toValue p.strokeId),
    ("final_chunk_index", toValue p.finalChunkIndex)]
  fromValue := fromStruct ["canvas_id", "stroke_id", "final_chunk_index"] ofFields
  validatePayload := validate

instance : LawfulPayload StrokeEndPayload where
  fromValue_toValue p := (fromStruct_structValue ofFields rfl (by simp)).trans (by simp [ofFields])
  toValue_object p := ⟨_, rfl⟩

end StrokeEndPayload

/-- Strong payload for `canvas.stroke.cancel` and `canvas.stroke.cancelled`. -/
structure StrokeCancelPayload where
  canvasId : CanvasId
  strokeId : StrokeId
  finalChunkIndex : UInt64
deriving DecidableEq

namespace StrokeCancelPayload

/-- The terminal index is structurally unrestricted. -/
def validate (_ : StrokeCancelPayload) : Except CanvasError Unit := .ok ()

private def ofFields : List Value → Option StrokeCancelPayload
  | [canvasId, strokeId, finalChunkIndex] => do
    some ⟨← fromValue canvasId, ← fromValue strokeId, ← fromValue finalChunkIndex⟩
  | _ => none

instance : ValidatedPayload StrokeCancelPayload where
  toValue p := structValue [("canvas_id", toValue p.canvasId), ("stroke_id", toValue p.strokeId),
    ("final_chunk_index", toValue p.finalChunkIndex)]
  fromValue := fromStruct ["canvas_id", "stroke_id", "final_chunk_index"] ofFields
  validatePayload := validate

instance : LawfulPayload StrokeCancelPayload where
  fromValue_toValue p := (fromStruct_structValue ofFields rfl (by simp)).trans (by simp [ofFields])
  toValue_object p := ⟨_, rfl⟩

end StrokeCancelPayload

/-- Strong payload for `canvas.stroke.remove` and `canvas.stroke.removed`. -/
structure StrokeRemovePayload where
  canvasId : CanvasId
  strokeId : StrokeId
deriving DecidableEq

namespace StrokeRemovePayload

def validate (_ : StrokeRemovePayload) : Except CanvasError Unit := .ok ()

private def ofFields : List Value → Option StrokeRemovePayload
  | [canvasId, strokeId] => do some ⟨← fromValue canvasId, ← fromValue strokeId⟩
  | _ => none

instance : ValidatedPayload StrokeRemovePayload where
  toValue p := structValue [("canvas_id", toValue p.canvasId), ("stroke_id", toValue p.strokeId)]
  fromValue := fromStruct ["canvas_id", "stroke_id"] ofFields
  validatePayload := validate

instance : LawfulPayload StrokeRemovePayload where
  fromValue_toValue p := (fromStruct_structValue ofFields rfl (by simp)).trans (by simp [ofFields])
  toValue_object p := ⟨_, rfl⟩

end StrokeRemovePayload
end OrbitRelay
