import OrbitRelay.Protocol.Basic

/-! Canvas domain values: stroke lifecycle, logical coordinates, styles and the
trusted canvas descriptor. -/
namespace OrbitRelay
open Json

abbrev CanvasId := DomainId .canvas
abbrev LayerId := DomainId .layer
abbrev StrokeId := DomainId .stroke

/-- Persisted lifecycle of one Canvas Stroke. -/
inductive StrokeLifecycle
  | active | completed | cancelled | removed
deriving DecidableEq

def StrokeLifecycle.canTransitionTo : StrokeLifecycle → StrokeLifecycle → Bool
  | .active, .completed => true
  | .active, .cancelled => true
  | .completed, .removed => true
  | _, _ => false

inductive CanvasError
  | invalidPayload (detail : String)
  | invalidCoordinate (coordinate : String)
  | invalidCanvasSpace (dimension : String)
  | invalidStyle (field : String)
  | emptyLayerSet
  | defaultLayerNotFound (defaultLayerId : LayerId)
  | strokeNotFound (strokeId : StrokeId)
  | strokeAlreadyExists (strokeId : StrokeId)
  | invalidStrokeState («from» «to» : StrokeLifecycle)
  | invalidChunkIndex (kind : String) (chunkIndex : UInt64)
  | chunkConflict (strokeId : StrokeId) (chunkIndex : UInt64)
  | missingChunk (strokeId : StrokeId) (expected actual : UInt64)
  | invalidPointCount (actual maximum : Nat)
deriving DecidableEq

/-- A finite point in Canvas logical coordinates. -/
structure CanvasPoint where
  x : Float
  y : Float
  x_finite : x.isFinite = true
  y_finite : y.isFinite = true

namespace CanvasPoint

def new (x y : Float) : Except CanvasError CanvasPoint :=
  if hx : x.isFinite = true then
    if hy : y.isFinite = true then .ok ⟨x, y, hx, hy⟩
    else .error (.invalidCoordinate "y")
  else .error (.invalidCoordinate "x")

/-- Coordinates compare by IEEE value: the two zeros are equal. -/
instance : BEq CanvasPoint := ⟨fun p q => p.x == q.x && p.y == q.y⟩

instance : ReflBEq CanvasPoint where
  rfl {p} := by
    change (p.x == p.x && p.y == p.y) = true
    rw [Float.beq_self_of_isFinite p.x_finite, Float.beq_self_of_isFinite p.y_finite]
    rfl

instance : Serialize CanvasPoint :=
  ⟨fun p => structValue [("x", toValue p.x), ("y", toValue p.y)]⟩

private def ofFields : List Value → Option CanvasPoint
  | [x, y] => do (new (← fromValue x) (← fromValue y)).toOption
  | _ => none

instance : Deserialize CanvasPoint := ⟨fromStruct ["x", "y"] ofFields⟩

instance : LawfulSerde CanvasPoint where
  fromValue_toValue p := by
    refine (fromStruct_structValue ofFields rfl (by simp)).trans ?_
    simp [ofFields, fromValue_toValue_float p.x_finite, fromValue_toValue_float p.y_finite, new,
      p.x_finite, p.y_finite, Except.toOption]

/-- A point object has its two coordinates and nothing else. -/
theorem hasExactly_of_fromValue {m : Json.Map} {p : CanvasPoint}
    (h : fromValue (.object m) = some p) : m.HasExactly ["x", "y"] :=
  (fromStruct_object_eq_some.mp h).1

end CanvasPoint

/-- Immutable finite bounds for one logical Canvas coordinate system. -/
structure CanvasSpace where
  width : Float
  height : Float
  width_valid : width.isFinite = true ∧ ¬ width ≤ 0
  height_valid : height.isFinite = true ∧ ¬ height ≤ 0

namespace CanvasSpace

def new (width height : Float) : Except CanvasError CanvasSpace :=
  if hw : width.isFinite = true ∧ ¬ width ≤ 0 then
    if hh : height.isFinite = true ∧ ¬ height ≤ 0 then .ok ⟨width, height, hw, hh⟩
    else .error (.invalidCanvasSpace "height")
  else .error (.invalidCanvasSpace "width")

/-- Validates a point against the inclusive Canvas bounds. -/
def validatePoint (space : CanvasSpace) (point : CanvasPoint) : Except CanvasError Unit :=
  if point.x < 0 ∨ point.x > space.width then .error (.invalidCoordinate "x")
  else if point.y < 0 ∨ point.y > space.height then .error (.invalidCoordinate "y")
  else .ok ()

end CanvasSpace

/-- Explicit red, green, blue, and alpha color channels. -/
structure RgbaColor where
  red : UInt8
  green : UInt8
  blue : UInt8
  alpha : UInt8
deriving DecidableEq

namespace RgbaColor

instance : Serialize RgbaColor := ⟨fun c => structValue [("red", toValue c.red),
  ("green", toValue c.green), ("blue", toValue c.blue), ("alpha", toValue c.alpha)]⟩

private def ofFields : List Value → Option RgbaColor
  | [red, green, blue, alpha] => do
    some ⟨← fromValue red, ← fromValue green, ← fromValue blue, ← fromValue alpha⟩
  | _ => none

instance : Deserialize RgbaColor := ⟨fromStruct ["red", "green", "blue", "alpha"] ofFields⟩

instance : LawfulSerde RgbaColor where
  fromValue_toValue c := by
    refine (fromStruct_structValue ofFields rfl (by simp)).trans ?_
    simp [ofFields]

/-- A colour object has its four channels and nothing else. -/
theorem hasExactly_of_fromValue {m : Json.Map} {c : RgbaColor}
    (h : fromValue (.object m) = some c) : m.HasExactly ["red", "green", "blue", "alpha"] :=
  (fromStruct_object_eq_some.mp h).1

end RgbaColor

/-- Tool used to produce a Stroke. -/
inductive StrokeTool
  | pen
deriving DecidableEq

instance : Serialize StrokeTool := ⟨fun | .pen => .string "pen"⟩

instance : Deserialize StrokeTool where
  fromValue v := do
    let name ← unitVariant v
    if name = "pen" then some .pen else none

instance : LawfulSerde StrokeTool := ⟨fun | .pen => rfl⟩

/-- Visual style expressed in Canvas logical units and explicit RGBA color. -/
structure StrokeStyle where
  width : Float
  color : RgbaColor
  width_valid : width.isFinite = true ∧ ¬ width ≤ 0

namespace StrokeStyle

def new (width : Float) (color : RgbaColor) : Except CanvasError StrokeStyle :=
  if h : width.isFinite = true ∧ ¬ width ≤ 0 then .ok ⟨width, color, h⟩
  else .error (.invalidStyle "width")

instance : BEq StrokeStyle := ⟨fun a b => a.width == b.width && a.color == b.color⟩

instance : ReflBEq StrokeStyle where
  rfl {s} := by
    change (s.width == s.width && s.color == s.color) = true
    rw [Float.beq_self_of_isFinite s.width_valid.1, beq_self_eq_true]
    rfl

instance : Serialize StrokeStyle :=
  ⟨fun s => structValue [("width", toValue s.width), ("color", toValue s.color)]⟩

private def ofFields : List Value → Option StrokeStyle
  | [width, color] => do (new (← fromValue width) (← fromValue color)).toOption
  | _ => none

instance : Deserialize StrokeStyle := ⟨fromStruct ["width", "color"] ofFields⟩

instance : LawfulSerde StrokeStyle where
  fromValue_toValue s := by
    refine (fromStruct_structValue ofFields rfl (by simp)).trans ?_
    simp [ofFields, fromValue_toValue_float s.width_valid.1, new, s.width_valid.1,
      s.width_valid.2, Except.toOption]

/-- A style object has its two fields and nothing else. -/
theorem hasExactly_of_fromValue {m : Json.Map} {s : StrokeStyle}
    (h : fromValue (.object m) = some s) : m.HasExactly ["width", "color"] :=
  (fromStruct_object_eq_some.mp h).1

/-- The colour is read from its own field. -/
theorem color_of_fromValue {m : Json.Map} {s : StrokeStyle}
    (h : fromValue (.object m) = some s) :
    ∃ value, m.get? "color" = some value ∧ fromValue value = some s.color := by
  obtain ⟨-, values, hvalues, hbuild⟩ := fromStruct_object_eq_some.mp h
  simp only [List.mapM_cons, List.mapM_nil, Option.bind_eq_bind, Option.bind_eq_some_iff] at hvalues
  obtain ⟨width, -, rest, ⟨color, hcolor, tail, htail, hrest⟩, hcons⟩ := hvalues
  cases htail
  cases hrest
  cases hcons
  simp only [ofFields, Option.bind_eq_bind, Option.bind_eq_some_iff] at hbuild
  obtain ⟨w, -, c, hc, hnew⟩ := hbuild
  unfold new at hnew
  split_ifs at hnew
  · cases hnew
    exact ⟨color, hcolor, hc⟩
  · cases hnew

end StrokeStyle

/-- Immutable domain description of one Canvas and its valid layers. -/
structure CanvasDescriptor where
  canvasId : CanvasId
  sessionId : SessionId
  space : CanvasSpace
  /-- An ordered set. -/
  layerIds : List LayerId
  defaultLayerId : LayerId
  layers_ordered : layerIds.Pairwise (· < ·)
  default_mem : defaultLayerId ∈ layerIds

namespace CanvasDescriptor

/-- Creates a descriptor with at least one layer and a valid default layer. -/
def new (canvasId : CanvasId) (sessionId : SessionId) (space : CanvasSpace)
    (layerIds : List LayerId) (defaultLayerId : LayerId) : Except CanvasError CanvasDescriptor :=
  let layers := orderedSet layerIds
  if layers.isEmpty then .error .emptyLayerSet
  else if h : defaultLayerId ∈ layers then
    .ok ⟨canvasId, sessionId, space, layers, defaultLayerId, pairwise_orderedSet layerIds, h⟩
  else .error (.defaultLayerNotFound defaultLayerId)

def containsLayer (descriptor : CanvasDescriptor) (layerId : LayerId) : Bool :=
  descriptor.layerIds.contains layerId

end CanvasDescriptor
end OrbitRelay
