import Mathlib.Data.List.Induction
import OrbitRelay.Canvas.Projection

/-! What one projector step can do, as a relation, and the invariant that relates the
chunk list to its indexes. Later proofs use these and never unfold the projector. -/
namespace OrbitRelay

/-- The event type name that selects the kind. -/
def CanvasEventKind.eventTypeName : CanvasEventKind → String
  | .strokeBegan => strokeBeganEventType
  | .strokePointsAppended => strokePointsAppendedEventType
  | .strokeCompleted => strokeCompletedEventType
  | .strokeCancelled => strokeCancelledEventType
  | .strokeRemoved => strokeRemovedEventType

theorem CanvasEventKind.fromEventType_eq_some {eventType : EventType} {kind : CanvasEventKind} :
    fromEventType eventType = some kind ↔ eventType.value = kind.eventTypeName := by
  unfold fromEventType
  constructor
  · intro h
    split_ifs at h with h₁ h₂ h₃ h₄ h₅ <;> cases h <;> assumption
  · -- The names are distinct, so every earlier comparison of the chain fails.
    intro h
    rw [h]
    cases kind <;> rfl

namespace CanvasEventData

/-- The payload decodes to the data. -/
def DecodesFrom (payload : Payload) : CanvasEventData → Prop
  | .strokeBegan p => decodePayload payload = .ok p
  | .strokePointsAppended p => decodePayload payload = .ok p
  | .strokeCompleted p => decodePayload payload = .ok p
  | .strokeCancelled p => decodePayload payload = .ok p
  | .strokeRemoved p => decodePayload payload = .ok p

private theorem map_mapError_eq_ok {α : Type} {x : Except CanvasError α}
    {f : α → CanvasEventData} {g : CanvasError → CanvasProjectionError} {data : CanvasEventData} :
    (f <$> x).mapError g = .ok data ↔ ∃ p, x = .ok p ∧ f p = data := by
  cases x with
  | error e =>
    change Except.error (g e) = .ok data ↔ _
    simp
  | ok p =>
    change Except.ok (f p) = .ok data ↔ _
    simp

theorem tryFrom_eq_ok {event : Event} {data : CanvasEventData} :
    tryFrom event = .ok data ↔
      event.eventType.value = data.kind.eventTypeName ∧ data.DecodesFrom event.payload := by
  simp only [tryFrom, Except.bind_eq_ok, Except.okOr_eq_ok,
    CanvasEventKind.fromEventType_eq_some]
  constructor
  · rintro ⟨kind, hkind, h⟩
    cases kind <;> obtain ⟨p, hp, rfl⟩ := map_mapError_eq_ok.mp h <;> exact ⟨hkind, hp⟩
  · rintro ⟨hkind, hdata⟩
    refine ⟨data.kind, hkind, ?_⟩
    cases data <;> exact map_mapError_eq_ok.mpr ⟨_, hdata, rfl⟩

end CanvasEventData

/-- The fact belongs to the projected Stroke. -/
structure StrokeProjection.SameStroke (projection : StrokeProjection) (event : Event)
    (canvasId : CanvasId) (strokeId : StrokeId) : Prop where
  session : event.sessionId = projection.sessionId
  canvas : canvasId = projection.canvasId
  stroke : strokeId = projection.strokeId

theorem validateIdentity_eq_ok {projection : StrokeProjection} {event : Event}
    {canvasId : CanvasId} {strokeId : StrokeId} :
    validateIdentity projection event canvasId strokeId = .ok () ↔
      projection.SameStroke event canvasId strokeId := by
  unfold validateIdentity
  split_ifs with hs hc hk
  · exact iff_of_false nofun fun h => hs h.session
  · exact iff_of_false nofun fun h => hc h.canvas
  · exact iff_of_false nofun fun h => hk h.stroke
  · exact iff_of_true rfl ⟨not_not.mp hs, not_not.mp hc, not_not.mp hk⟩

theorem requireLifecycle_eq_ok {projection : StrokeProjection} {expected : StrokeLifecycle}
    {eventType : EventType} :
    requireLifecycle projection expected eventType = .ok () ↔ projection.lifecycle = expected := by
  simp [requireLifecycle]

/-- The projection that a begin fact creates. -/
def StrokeProjection.ofBegin (event : Event) (payload : StrokeBeginPayload)
    (hcount : 1 ≤ payload.points.length ∧ payload.points.length ≤ maxPointsPerChunk) :
    StrokeProjection where
  strokeId := payload.strokeId
  canvasId := payload.canvasId
  layerId := payload.layerId
  sessionId := event.sessionId
  creatorActorId := event.actorId
  tool := payload.tool
  style := payload.style
  chunks := [⟨payload.chunkIndex, payload.points, hcount⟩]
  lifecycle := .active
  createdAt := event.occurredAt
  chunks_ne_nil := by simp

namespace StrokeProjector

/-- Everything a successful projector step can do, with its guards. -/
inductive Step (event : Event) : Option StrokeProjection → StrokeProjection → Prop
  | began {payload : StrokeBeginPayload}
      (decodes : CanvasEventData.tryFrom event = .ok (.strokeBegan payload))
      (hcount : 1 ≤ payload.points.length ∧ payload.points.length ≤ maxPointsPerChunk) :
      Step event none (.ofBegin event payload hcount)
  | appended {projection : StrokeProjection} {payload : StrokeAppendPayload}
      (decodes : CanvasEventData.tryFrom event = .ok (.strokePointsAppended payload))
      (same : projection.SameStroke event payload.canvasId payload.strokeId)
      (active : projection.lifecycle = .active)
      (next : payload.chunkIndex.toNat = projection.lastChunkIndex.toNat + 1)
      (hcount : 1 ≤ payload.points.length ∧ payload.points.length ≤ maxPointsPerChunk) :
      Step event (some projection)
        (projection.pushChunk ⟨payload.chunkIndex, payload.points, hcount⟩)
  | completed {projection : StrokeProjection} {payload : StrokeEndPayload}
      (decodes : CanvasEventData.tryFrom event = .ok (.strokeCompleted payload))
      (same : projection.SameStroke event payload.canvasId payload.strokeId)
      (active : projection.lifecycle = .active)
      (final : payload.finalChunkIndex = projection.lastChunkIndex) :
      Step event (some projection) (projection.setLifecycle .completed)
  | cancelled {projection : StrokeProjection} {payload : StrokeCancelPayload}
      (decodes : CanvasEventData.tryFrom event = .ok (.strokeCancelled payload))
      (same : projection.SameStroke event payload.canvasId payload.strokeId)
      (active : projection.lifecycle = .active)
      (final : payload.finalChunkIndex = projection.lastChunkIndex) :
      Step event (some projection) (projection.setLifecycle .cancelled)
  | removed {projection : StrokeProjection} {payload : StrokeRemovePayload}
      (decodes : CanvasEventData.tryFrom event = .ok (.strokeRemoved payload))
      (same : projection.SameStroke event payload.canvasId payload.strokeId)
      (completed : projection.lifecycle = .completed) :
      Step event (some projection) (projection.setLifecycle .removed)

private theorem newChunk_eq_ok {index : UInt64} {points : List CanvasPoint} {chunk : StrokeChunk} :
    StrokeChunk.new index points = .ok chunk ↔
      ∃ hcount, chunk = ⟨index, points, hcount⟩ := by
  unfold StrokeChunk.new
  split_ifs with h
  · simp [h, eq_comm]
  · simp [h]

private theorem applyTerminal_eq_ok {state : Option StrokeProjection} {event : Event}
    {canvasId : CanvasId} {strokeId : StrokeId} {final : UInt64} {target : StrokeLifecycle}
    {next : StrokeProjection} :
    applyTerminal state event canvasId strokeId final target = .ok next ↔
      ∃ projection, state = some projection ∧ projection.SameStroke event canvasId strokeId ∧
        projection.lifecycle = .active ∧ final = projection.lastChunkIndex ∧
        next = projection.setLifecycle target := by
  simp only [applyTerminal, Except.bind_eq_ok, requireProjection, Except.okOr_eq_ok]
  constructor
  · rintro ⟨projection, rfl, ⟨⟩, hsame, ⟨⟩, hactive, h⟩
    split_ifs at h with hfinal
    exact ⟨projection, rfl, validateIdentity_eq_ok.mp hsame, requireLifecycle_eq_ok.mp hactive,
      not_not.mp hfinal, (Except.ok.inj h).symm⟩
  · rintro ⟨projection, rfl, hsame, hactive, hfinal, rfl⟩
    exact ⟨projection, rfl, (), validateIdentity_eq_ok.mpr hsame, (),
      requireLifecycle_eq_ok.mpr hactive, by simp [hfinal]⟩

/-- The projector accepts exactly the steps of the relation. -/
theorem apply_eq_ok {state : Option StrokeProjection} {event : Event} {next : StrokeProjection} :
    apply state event = .ok next ↔ Step event state next := by
  constructor
  · intro h
    obtain ⟨data, hdata, h⟩ := Except.bind_eq_ok.mp h
    cases data with
    | strokeBegan payload =>
      cases state with
      | some projection => cases h
      | none =>
        simp only [Except.bind_eq_ok, Except.mapError_eq_ok, newChunk_eq_ok] at h
        obtain ⟨chunk, ⟨hcount, rfl⟩, h⟩ := h
        cases h
        exact .began hdata hcount
    | strokePointsAppended payload =>
      simp only [Except.bind_eq_ok, requireProjection, Except.okOr_eq_ok] at h
      obtain ⟨projection, rfl, ⟨⟩, hsame, ⟨⟩, hactive, expected, hexpected, h⟩ := h
      split_ifs at h with hindex
      simp only [Except.bind_eq_ok, Except.mapError_eq_ok, newChunk_eq_ok] at h
      obtain ⟨chunk, ⟨hcount, rfl⟩, h⟩ := h
      cases h
      have hnext := UInt64.checkedAdd_eq_some.mp hexpected
      exact .appended hdata (validateIdentity_eq_ok.mp hsame) (requireLifecycle_eq_ok.mp hactive)
        (not_not.mp hindex ▸ hnext) hcount
    | strokeCompleted payload =>
      obtain ⟨projection, rfl, hsame, hactive, hfinal, rfl⟩ := applyTerminal_eq_ok.mp h
      exact .completed hdata hsame hactive hfinal
    | strokeCancelled payload =>
      obtain ⟨projection, rfl, hsame, hactive, hfinal, rfl⟩ := applyTerminal_eq_ok.mp h
      exact .cancelled hdata hsame hactive hfinal
    | strokeRemoved payload =>
      simp only [Except.bind_eq_ok, requireProjection, Except.okOr_eq_ok] at h
      obtain ⟨projection, rfl, ⟨⟩, hsame, ⟨⟩, hcompleted, h⟩ := h
      cases h
      exact .removed hdata (validateIdentity_eq_ok.mp hsame) (requireLifecycle_eq_ok.mp hcompleted)
  · intro h
    cases h with
    | began hdata hcount =>
      simp only [apply, hdata, Except.ok_bind, StrokeChunk.new, dif_pos hcount, Except.mapError_ok]
      rfl
    | @appended projection payload hdata hsame hactive hnext hcount =>
      have hexpected : projection.nextChunkIndex = some payload.chunkIndex :=
        UInt64.checkedAdd_eq_some.mpr hnext
      simp only [apply, hdata, Except.ok_bind, requireProjection, Except.okOr_some,
        validateIdentity_eq_ok.mpr hsame, requireLifecycle_eq_ok.mpr hactive, hexpected,
        StrokeChunk.new, dif_pos hcount, Except.mapError_ok, ne_eq, not_true_eq_false, if_false]
    | completed hdata hsame hactive hfinal =>
      simp only [apply, hdata, Except.ok_bind]
      exact applyTerminal_eq_ok.mpr ⟨_, rfl, hsame, hactive, hfinal, rfl⟩
    | cancelled hdata hsame hactive hfinal =>
      simp only [apply, hdata, Except.ok_bind]
      exact applyTerminal_eq_ok.mpr ⟨_, rfl, hsame, hactive, hfinal, rfl⟩
    | removed hdata hsame hcompleted =>
      simp only [apply, hdata, Except.ok_bind, requireProjection, Except.okOr_some,
        validateIdentity_eq_ok.mpr hsame, requireLifecycle_eq_ok.mpr hcompleted]

/-- The only lifecycle changes a step makes are the legal transitions. -/
theorem Step.canTransitionTo {event : Event} {projection next : StrokeProjection}
    (h : Step event (some projection) next) (hchange : next.lifecycle ≠ projection.lifecycle) :
    projection.lifecycle.canTransitionTo next.lifecycle = true := by
  cases h with
  | appended => exact absurd rfl hchange
  | completed _ _ hactive _ => rw [hactive]; rfl
  | cancelled _ _ hactive _ => rw [hactive]; rfl
  | removed _ _ hcompleted => rw [hcompleted]; rfl

@[simp] theorem fold_nil : fold [] = .ok none := rfl

theorem fold_append (history later : List Event) :
    fold (history ++ later) = fold history >>= fun state =>
      later.foldlM (fun projection event => some <$> apply projection event) state :=
  List.foldlM_append

theorem fold_concat_eq_ok {history : List Event} {event : Event}
    {state : Option StrokeProjection} :
    fold (history ++ [event]) = .ok state ↔
      ∃ before next, fold history = .ok before ∧ Step event before next ∧ state = some next := by
  simp only [fold_append, Except.bind_eq_ok, List.foldlM_cons, List.foldlM_nil, bind_pure,
    ← apply_eq_ok]
  constructor
  · rintro ⟨before, hbefore, h⟩
    cases hnext : apply before event with
    | error e => rw [hnext] at h; cases h
    | ok next =>
      rw [hnext] at h
      cases h
      exact ⟨before, next, hbefore, hnext, rfl⟩
  · rintro ⟨before, next, hbefore, hnext, rfl⟩
    exact ⟨before, hbefore, by rw [hnext]; rfl⟩

/-- Only the empty history folds to no Stroke. -/
theorem eq_nil_of_fold_none {history : List Event} (h : fold history = .ok none) :
    history = [] := by
  rcases List.eq_nil_or_concat history with rfl | ⟨init, last, rfl⟩
  · rfl
  · rw [List.concat_eq_append] at h
    obtain ⟨_, _, -, -, hnone⟩ := fold_concat_eq_ok.mp h
    cases hnone

end StrokeProjector

namespace StrokeProjection

@[simp] theorem setLifecycle_chunks (p : StrokeProjection) (l : StrokeLifecycle) :
    (p.setLifecycle l).chunks = p.chunks := rfl
@[simp] theorem pushChunk_chunks (p : StrokeProjection) (c : StrokeChunk) :
    (p.pushChunk c).chunks = p.chunks ++ [c] := rfl
@[simp] theorem ofBegin_chunks (e : Event) (p : StrokeBeginPayload) (h) :
    (ofBegin e p h).chunks = [⟨p.chunkIndex, p.points, h⟩] := rfl

/-- Every chunk carries its own position as its index. -/
def Contiguous (projection : StrokeProjection) : Prop :=
  ∀ (i : Nat) (hi : i < projection.chunks.length), projection.chunks[i].index.toNat = i

namespace Contiguous
variable {projection : StrokeProjection}

theorem lastChunkIndex_toNat (h : projection.Contiguous) :
    projection.lastChunkIndex.toNat + 1 = projection.chunks.length := by
  have hpos := List.length_pos_iff.mpr projection.chunks_ne_nil
  rw [lastChunkIndex, List.getLast_eq_getElem, h]
  omega

/-- The index test of `chunk` never rejects the chunk at its position. -/
theorem chunk_eq (h : projection.Contiguous) (index : UInt64) :
    projection.chunk index = projection.chunks[index.toNat]? := by
  unfold chunk
  by_cases hi : index.toNat < projection.chunks.length
  · rw [List.getElem?_eq_getElem hi, Option.filter_some,
      if_pos (beq_iff_eq.mpr (UInt64.toNat_inj.mp (h _ hi)))]
  · rw [List.getElem?_eq_none (Nat.not_lt.mp hi), Option.filter_none]

theorem chunk_isSome_iff (h : projection.Contiguous) (index : UInt64) :
    (projection.chunk index).isSome ↔ index ≤ projection.lastChunkIndex := by
  have hlast := h.lastChunkIndex_toNat
  rw [h.chunk_eq, isSome_getElem?, UInt64.le_iff_toNat_le]
  omega

theorem pushChunk (h : projection.Contiguous) {chunk : StrokeChunk}
    (hnext : chunk.index.toNat = projection.lastChunkIndex.toNat + 1) :
    (projection.pushChunk chunk).Contiguous := by
  have hlast := h.lastChunkIndex_toNat
  intro i hi
  simp only [pushChunk_chunks, List.length_append, List.length_singleton] at hi ⊢
  rcases Nat.lt_or_eq_of_le (Nat.lt_succ_iff.mp hi) with hlt | rfl
  · rw [List.getElem_append_left hlt, h]
  · rw [List.getElem_concat_length rfl]
    omega

end Contiguous
end StrokeProjection

namespace StrokeProjector

theorem Step.contiguous {event : Event} {state : Option StrokeProjection}
    {next : StrokeProjection} (h : Step event state next)
    (hbefore : ∀ projection ∈ state, projection.Contiguous) : next.Contiguous := by
  cases h with
  | @began payload hdata hcount =>
    -- Decoding validated the begin payload, whose only chunk therefore has index zero.
    have hvalid := validatePayload_of_decodePayload (CanvasEventData.tryFrom_eq_ok.mp hdata).2
    have hzero := (StrokeBeginPayload.validate_eq_ok.mp hvalid).1
    intro i hi
    obtain rfl : i = 0 := Nat.lt_one_iff.mp hi
    exact congrArg UInt64.toNat hzero
  | appended _ _ _ hnext _ => exact (hbefore _ rfl).pushChunk hnext
  | @completed projection => exact hbefore projection rfl
  | @cancelled projection => exact hbefore projection rfl
  | @removed projection => exact hbefore projection rfl

/-- Every projection rebuilt from a history is contiguous. -/
theorem contiguous_of_fold {history : List Event} {projection : StrokeProjection}
    (h : fold history = .ok (some projection)) : projection.Contiguous := by
  induction history using List.reverseRecOn generalizing projection with
  | nil => cases h
  | append_singleton history event ih =>
    obtain ⟨before, next, hbefore, hstep, hnext⟩ := fold_concat_eq_ok.mp h
    cases hnext
    refine hstep.contiguous fun projection hprojection => ?_
    cases Option.mem_def.mp hprojection
    exact ih hbefore

end StrokeProjector
end OrbitRelay
