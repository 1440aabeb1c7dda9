import OrbitRelay.Canvas.Step

/-! The wire format of the five Stroke payloads, which commands and facts share: encoding and
decoding undo each other, whatever decodes is valid, and objects of another shape are refused. -/
namespace OrbitRelay
open Json

/-- An object has exactly the fields. Nothing is said of other values. -/
def KeyedAs (fields : List String) (value : Value) : Prop :=
  ∀ m, value = .object m → Map.HasExactly m fields

/-- Each point object of the payload has the two coordinates and nothing else. -/
def PointsKeyed (m : Json.Map) : Prop :=
  ∀ items, m.get? "points" = some (.array items) → ∀ item ∈ items, KeyedAs ["x", "y"] item

/-- The style object and the colour object in it have their fields and nothing else. -/
def StyleKeyed (m : Json.Map) : Prop :=
  ∀ style, m.get? "style" = some style → KeyedAs ["width", "color"] style ∧
    ∀ inner color, style = .object inner → Map.get? inner "color" = some color →
      KeyedAs ["red", "green", "blue", "alpha"] color

/-- What a payload type and the event kind that carries it promise. -/
structure PayloadFormat (T : Type) [ValidatedPayload T] (kind : CanvasEventKind)
    (toData : T → CanvasEventData) (Sound : T → Prop) (Keyed : Json.Map → Prop) : Prop where
  roundTrip : ∀ payload : T, validatePayload payload = .ok () →
    ∃ encoded, encodePayload payload = .ok encoded ∧ decodePayload encoded = .ok payload
  sound : ∀ (payload : Payload) (decoded : T), decodePayload payload = .ok decoded →
    validatePayload decoded = .ok () ∧ Sound decoded
  strict : ∀ payload : Payload, ¬ Keyed payload.fields →
    decodePayload (T := T) payload = .error (.invalidPayload "schema mismatch")
  event : ∀ (payload : T) (event : Event), event.eventType.value = kind.eventTypeName →
    encodePayload payload = .ok event.payload →
    CanvasEventData.tryFrom event = .ok (toData payload)

/-- The promises, from what is specific to the type. -/
theorem PayloadFormat.of {T : Type} [ValidatedPayload T] [LawfulPayload T]
    {kind : CanvasEventKind} {toData : T → CanvasEventData} {Sound : T → Prop}
    {Keyed : Json.Map → Prop}
    (hsound : ∀ decoded : T, validatePayload decoded = .ok () → Sound decoded)
    (hkeyed : ∀ (m : Json.Map) (decoded : T), fromValue (.object m) = some decoded → Keyed m)
    (hdata : ∀ (payload : Payload) (decoded : T), decodePayload payload = .ok decoded →
      (toData decoded).kind = kind ∧ (toData decoded).DecodesFrom payload) :
    PayloadFormat T kind toData Sound Keyed where
  roundTrip payload hvalid := by
    obtain ⟨encoded, hencoded⟩ := exists_encodePayload hvalid
    exact ⟨encoded, hencoded, decodePayload_of_encodePayload hencoded⟩
  sound payload decoded h := by
    have hvalid := validatePayload_of_decodePayload h
    exact ⟨hvalid, hsound decoded hvalid⟩
  strict payload hshape := by
    have hnone : (fromValue (toValue payload) : Option T) = none := by
      rw [Option.eq_none_iff_forall_ne_some]
      intro decoded hdecoded
      exact hshape (hkeyed payload.fields decoded hdecoded)
    unfold decodePayload
    rw [hnone]
    rfl
  event payload event htype hencoded := by
    obtain ⟨hkind, hdecodes⟩ := hdata event.payload payload
      (decodePayload_of_encodePayload hencoded)
    exact CanvasEventData.tryFrom_eq_ok.mpr ⟨hkind ▸ htype, hdecodes⟩

/-- The points of a decoded chunk: few enough, and finite. -/
structure SoundChunk (points : List CanvasPoint) : Prop where
  count : 1 ≤ points.length ∧ points.length ≤ 256
  finite : ∀ point ∈ points, point.x.isFinite = true ∧ point.y.isFinite = true

private theorem soundChunk {points : List CanvasPoint}
    (h : 1 ≤ points.length ∧ points.length ≤ maxPointsPerChunk) : SoundChunk points :=
  ⟨h, fun point _ => ⟨point.x_finite, point.y_finite⟩⟩

private theorem pointsKeyed_of_fromValue {m : Json.Map} {points : List CanvasPoint}
    (h : ∃ value, m.get? "points" = some value ∧ fromValue value = some points) :
    PointsKeyed m := by
  obtain ⟨value, hvalue, hpoints⟩ := h
  intro items hitems item hitem inner hinner
  have hvalue : value = .array items := Option.some.inj (hvalue.symm.trans hitems)
  rw [hvalue] at hpoints
  obtain ⟨point, hpoint⟩ := fromValue_of_mem_items hpoints hitem
  rw [hinner] at hpoint
  exact CanvasPoint.hasExactly_of_fromValue hpoint

private theorem styleKeyed_of_fromValue {m : Json.Map} {style : StrokeStyle}
    (h : ∃ value, m.get? "style" = some value ∧ fromValue value = some style) :
    StyleKeyed m := by
  obtain ⟨value, hvalue, hstyle⟩ := h
  intro found hfound
  obtain rfl := Option.some.inj (hvalue.symm.trans hfound)
  constructor
  · intro inner hinner
    rw [hinner] at hstyle
    exact StrokeStyle.hasExactly_of_fromValue hstyle
  · intro inner color hinner hcolor channels hchannels
    rw [hinner] at hstyle
    obtain ⟨value, hvalue, hread⟩ := StrokeStyle.color_of_fromValue hstyle
    obtain rfl := Option.some.inj (hvalue.symm.trans hcolor)
    rw [hchannels] at hread
    exact RgbaColor.hasExactly_of_fromValue hread

/-- What a decoded begin payload satisfies. -/
structure StrokeBeginPayload.Sound (payload : StrokeBeginPayload) : Prop where
  index : payload.chunkIndex = 0
  chunk : SoundChunk payload.points
  style : payload.style.width.isFinite = true ∧ ¬ payload.style.width ≤ 0

/-- What a decoded append payload satisfies. -/
structure StrokeAppendPayload.Sound (payload : StrokeAppendPayload) : Prop where
  index : 1 ≤ payload.chunkIndex
  chunk : SoundChunk payload.points

/-- The five payload types and their event kinds. -/
structure CanvasFormats : Prop where
  begin : PayloadFormat StrokeBeginPayload .strokeBegan .strokeBegan StrokeBeginPayload.Sound
    fun m => m.HasExactly ["canvas_id", "layer_id", "stroke_id", "tool", "style", "chunk_index",
      "points"] ∧ StyleKeyed m ∧ PointsKeyed m
  append : PayloadFormat StrokeAppendPayload .strokePointsAppended .strokePointsAppended
    StrokeAppendPayload.Sound
    fun m => m.HasExactly ["canvas_id", "stroke_id", "chunk_index", "points"] ∧ PointsKeyed m
  «end» : PayloadFormat StrokeEndPayload .strokeCompleted .strokeCompleted (fun _ => True)
    fun m => m.HasExactly ["canvas_id", "stroke_id", "final_chunk_index"]
  cancel : PayloadFormat StrokeCancelPayload .strokeCancelled .strokeCancelled (fun _ => True)
    fun m => m.HasExactly ["canvas_id", "stroke_id", "final_chunk_index"]
  remove : PayloadFormat StrokeRemovePayload .strokeRemoved .strokeRemoved (fun _ => True)
    fun m => m.HasExactly ["canvas_id", "stroke_id"]

/-- Canvas payloads survive the generic payload format. -/
theorem canvas_payloads_survive : CanvasFormats where
  begin := by
    apply PayloadFormat.of
    · intro decoded hvalid
      obtain ⟨hindex, hcount⟩ := StrokeBeginPayload.validate_eq_ok.mp hvalid
      exact ⟨hindex, soundChunk hcount, decoded.style.width_valid⟩
    · intro m decoded h
      obtain ⟨hstyle, hpoints⟩ := StrokeBeginPayload.nested_of_fromValue h
      exact ⟨(fromStruct_object_eq_some.mp h).1, styleKeyed_of_fromValue hstyle,
        pointsKeyed_of_fromValue hpoints⟩
    · exact fun payload decoded h => ⟨rfl, h⟩
  append := by
    apply PayloadFormat.of
    · intro decoded hvalid
      obtain ⟨hindex, hcount⟩ := StrokeAppendPayload.validate_eq_ok.mp hvalid
      exact ⟨hindex, soundChunk hcount⟩
    · intro m decoded h
      exact ⟨(fromStruct_object_eq_some.mp h).1,
        pointsKeyed_of_fromValue (StrokeAppendPayload.points_of_fromValue h)⟩
    · exact fun payload decoded h => ⟨rfl, h⟩
  «end» := by
    apply PayloadFormat.of
    · exact fun _ _ => trivial
    · exact fun m decoded h => (fromStruct_object_eq_some.mp h).1
    · exact fun payload decoded h => ⟨rfl, h⟩
  cancel := by
    apply PayloadFormat.of
    · exact fun _ _ => trivial
    · exact fun m decoded h => (fromStruct_object_eq_some.mp h).1
    · exact fun payload decoded h => ⟨rfl, h⟩
  remove := by
    apply PayloadFormat.of
    · exact fun _ _ => trivial
    · exact fun m decoded h => (fromStruct_object_eq_some.mp h).1
    · exact fun payload decoded h => ⟨rfl, h⟩

end OrbitRelay
