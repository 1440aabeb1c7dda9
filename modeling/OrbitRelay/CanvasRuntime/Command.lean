import OrbitRelay.Canvas.Step
import OrbitRelay.CanvasRuntime.Service

/-! The five commands as one type, with what the service decides about each: the guards
behind an emitted draft and the facts behind an empty answer. -/
namespace OrbitRelay

/-- The aggregate that a Canvas fact belongs to. -/
structure StrokeKey where
  sessionId : SessionId
  canvasId : CanvasId
  strokeId : StrokeId
deriving DecidableEq

namespace StrokeKey

/-- The event is a Canvas fact of the aggregate. -/
def owns (key : StrokeKey) (event : Event) : Bool :=
  match CanvasEventData.tryFrom event with
  | .ok data => event.sessionId == key.sessionId && data.canvasId == key.canvasId &&
      data.strokeId == key.strokeId
  | .error _ => false

/-- The persisted facts of the aggregate, in order. -/
def history (key : StrokeKey) (persisted : List Event) : List Event := persisted.filter key.owns

end StrokeKey

/-- The projection is the one of the aggregate. -/
structure StrokeProjection.HasKey (projection : StrokeProjection) (key : StrokeKey) : Prop where
  session : projection.sessionId = key.sessionId
  canvas : projection.canvasId = key.canvasId
  stroke : projection.strokeId = key.strokeId

theorem StrokeProjection.HasKey.sameStroke {projection : StrokeProjection} {key : StrokeKey}
    (h : projection.HasKey key) {event : Event} (hsession : event.sessionId = key.sessionId) :
    projection.SameStroke event key.canvasId key.strokeId :=
  ⟨hsession.trans h.session.symm, h.canvas.symm, h.stroke.symm⟩

theorem StrokeProjector.Step.hasKey {event : Event} {state : Option StrokeProjection}
    {next : StrokeProjection} {key : StrokeKey} (h : Step event state next)
    (howns : key.owns event = true) : next.HasKey key := by
  simp only [StrokeKey.owns] at howns
  cases h with
  | began hdata _ =>
    simp only [hdata, Bool.and_eq_true, beq_iff_eq] at howns
    exact ⟨howns.1.1, howns.1.2, howns.2⟩
  | appended hdata hsame _ _ _ | completed hdata hsame _ _ | cancelled hdata hsame _ _
  | removed hdata hsame _ =>
    simp only [hdata, Bool.and_eq_true, beq_iff_eq] at howns
    exact ⟨hsame.session.symm.trans howns.1.1, hsame.canvas.symm.trans howns.1.2,
      hsame.stroke.symm.trans howns.2⟩

theorem StrokeProjector.hasKey_of_fold {key : StrokeKey} {persisted : List Event}
    {projection : StrokeProjection} (h : fold (key.history persisted) = .ok (some projection)) :
    projection.HasKey key := by
  rcases List.eq_nil_or_concat (key.history persisted) with hnil | ⟨init, last, hlast⟩
  · rw [hnil] at h
    cases h
  · rw [List.concat_eq_append] at hlast
    have howns : key.owns last = true := by
      have hmem : last ∈ key.history persisted := by simp [hlast]
      exact (List.mem_filter.mp hmem).2
    rw [hlast] at h
    obtain ⟨before, next, -, hstep, hnext⟩ := fold_concat_eq_ok.mp h
    cases hnext
    exact hstep.hasKey howns

/-- A Canvas command with its decoded payload. -/
inductive CanvasCommand
  | begin (payload : StrokeBeginPayload)
  | append (payload : StrokeAppendPayload)
  | end (payload : StrokeEndPayload)
  | cancel (payload : StrokeCancelPayload)
  | remove (payload : StrokeRemovePayload)

namespace CanvasCommand

/-- The fact that an accepted command records: it carries the same payload. -/
def fact : CanvasCommand → CanvasEventData
  | begin payload => .strokeBegan payload
  | append payload => .strokePointsAppended payload
  | «end» payload => .strokeCompleted payload
  | cancel payload => .strokeCancelled payload
  | remove payload => .strokeRemoved payload

def canvasId (command : CanvasCommand) : CanvasId := command.fact.canvasId

def strokeId (command : CanvasCommand) : StrokeId := command.fact.strokeId

/-- The aggregate that the command of an action is about. -/
def key (command : CanvasCommand) (action : Action) : StrokeKey :=
  ⟨action.sessionId, command.canvasId, command.strokeId⟩

/-- The payload passes its own validation. -/
def Valid : CanvasCommand → Prop
  | begin payload => payload.validate = .ok ()
  | append payload => payload.validate = .ok ()
  | «end» payload => payload.validate = .ok ()
  | cancel payload => payload.validate = .ok ()
  | remove payload => payload.validate = .ok ()

/-- The service method of the command. -/
def process (service : CanvasCommandService) (action : Action) :
    CanvasCommand → Except CanvasRuntimeError (List EventDraft)
  | begin payload => service.begin action payload
  | append payload => service.append action payload
  | «end» payload => service.end action payload
  | cancel payload => service.cancel action payload
  | remove payload => service.remove action payload

/-- The change that the command asks for. -/
def Asks (event : Event) (state : Option StrokeProjection) (next : StrokeProjection) :
    CanvasCommand → Prop
  | begin payload => state = none ∧ ∃ hcount, next = .ofBegin event payload hcount
  | append payload => ∃ projection hcount, state = some projection ∧
      next = projection.pushChunk ⟨payload.chunkIndex, payload.points, hcount⟩
  | «end» _ => ∃ projection, state = some projection ∧ next = projection.setLifecycle .completed
  | cancel _ => ∃ projection, state = some projection ∧ next = projection.setLifecycle .cancelled
  | remove _ => ∃ projection, state = some projection ∧ next = projection.setLifecycle .removed

/-- The fact of the command is present in the projection. Coordinates compare by value. -/
def ReflectedIn (actorId : ActorId) (projection : StrokeProjection) : CanvasCommand → Prop
  | begin payload => projection.layerId = payload.layerId ∧ projection.tool = payload.tool ∧
      (projection.style == payload.style) = true ∧ projection.creatorActorId = actorId ∧
      ∃ chunk, projection.chunk 0 = some chunk ∧ (chunk.points == payload.points) = true
  | append payload => ∃ chunk, projection.chunk payload.chunkIndex = some chunk ∧
      (chunk.points == payload.points) = true
  | «end» payload => (projection.lifecycle = .completed ∨ projection.lifecycle = .removed) ∧
      payload.finalChunkIndex = projection.lastChunkIndex
  | cancel payload => projection.lifecycle = .cancelled ∧
      payload.finalChunkIndex = projection.lastChunkIndex
  | remove _ => projection.lifecycle = .removed

/-- The state lets the command record its fact. -/
def Admissible (key : StrokeKey) (state : Option StrokeProjection) : CanvasCommand → Prop
  | begin _ => state = none
  | append payload => ∃ projection, state = some projection ∧ projection.HasKey key ∧
      projection.lifecycle = .active ∧
      payload.chunkIndex.toNat = projection.lastChunkIndex.toNat + 1
  | «end» payload => ∃ projection, state = some projection ∧ projection.HasKey key ∧
      projection.lifecycle = .active ∧ payload.finalChunkIndex = projection.lastChunkIndex
  | cancel payload => ∃ projection, state = some projection ∧ projection.HasKey key ∧
      projection.lifecycle = .active ∧ payload.finalChunkIndex = projection.lastChunkIndex
  | remove _ => ∃ projection, state = some projection ∧ projection.HasKey key ∧
      projection.lifecycle = .completed

/-- The draft records the fact of the command. -/
structure Emits (command : CanvasCommand) (draft : EventDraft) : Prop where
  eventType : draft.eventType.value = command.fact.kind.eventTypeName
  decodes : command.fact.DecodesFrom draft.payload

/-- Only a begin command is checked against the layers and the bounds before its retry test. -/
def DescriptorAccepts (descriptor : CanvasDescriptor) : CanvasCommand → Prop
  | begin payload => descriptor.containsLayer payload.layerId = true ∧
      validatePointsIn descriptor payload.points = .ok ()
  | _ => True

/-- The Canvas exists, belongs to the session and accepts the command. -/
structure CatalogAccepts (command : CanvasCommand)
    (catalog : CanvasId → Except CanvasCatalogError (Option CanvasDescriptor))
    (sessionId : SessionId) (descriptor : CanvasDescriptor) : Prop where
  found : catalog command.canvasId = .ok (some descriptor)
  session : descriptor.sessionId = sessionId
  accepts : command.DescriptorAccepts descriptor

theorem Emits.tryFrom_eq {command : CanvasCommand} {draft : EventDraft} (h : command.Emits draft)
    (action : Action) (id : EventId) (now : Timestamp) :
    CanvasEventData.tryFrom (draft.toEvent action id now) = .ok command.fact :=
  CanvasEventData.tryFrom_eq_ok.mpr ⟨h.eventType, h.decodes⟩

theorem Emits.owns_iff {command : CanvasCommand} {draft : EventDraft} (h : command.Emits draft)
    (action : Action) (id : EventId) (now : Timestamp) (key : StrokeKey) :
    key.owns (draft.toEvent action id now) = true ↔ command.key action = key := by
  obtain ⟨sessionId, canvasId, strokeId⟩ := key
  simp only [StrokeKey.owns, h.tryFrom_eq, Bool.and_eq_true, beq_iff_eq, CanvasCommand.key,
    StrokeKey.mk.injEq, and_assoc]
  rfl

/-- An admissible command's fact is accepted by the projector and does what was asked. -/
theorem Admissible.step {command : CanvasCommand} {action : Action}
    {state : Option StrokeProjection} (h : command.Admissible (command.key action) state)
    (hvalid : command.Valid) {event : Event}
    (hdata : CanvasEventData.tryFrom event = .ok command.fact)
    (hsession : event.sessionId = action.sessionId) :
    ∃ next, StrokeProjector.Step event state next ∧ command.Asks event state next := by
  cases command with
  | begin payload =>
    obtain rfl := h
    have hcount := (StrokeBeginPayload.validate_eq_ok.mp hvalid).2
    exact ⟨_, .began hdata hcount, rfl, hcount, rfl⟩
  | append payload =>
    obtain ⟨projection, rfl, hkey, hactive, hnext⟩ := h
    have hcount := (StrokeAppendPayload.validate_eq_ok.mp hvalid).2
    exact ⟨_, .appended hdata (hkey.sameStroke hsession) hactive hnext hcount, projection, hcount,
      rfl, rfl⟩
  | «end» payload =>
    obtain ⟨projection, rfl, hkey, hactive, hfinal⟩ := h
    exact ⟨_, .completed hdata (hkey.sameStroke hsession) hactive hfinal, projection, rfl, rfl⟩
  | cancel payload =>
    obtain ⟨projection, rfl, hkey, hactive, hfinal⟩ := h
    exact ⟨_, .cancelled hdata (hkey.sameStroke hsession) hactive hfinal, projection, rfl, rfl⟩
  | remove payload =>
    obtain ⟨projection, rfl, hkey, hcompleted⟩ := h
    exact ⟨_, .removed hdata (hkey.sameStroke hsession) hcompleted, projection, rfl, rfl⟩

/-- Once its fact is applied, the command is reflected. -/
theorem Admissible.reflectedIn {command : CanvasCommand} {key : StrokeKey} {event : Event}
    {state : Option StrokeProjection} {next : StrokeProjection}
    (h : command.Admissible key state) (hvalid : command.Valid)
    (hasks : command.Asks event state next)
    (hcontiguous : ∀ projection ∈ state, projection.Contiguous) :
    command.ReflectedIn event.actorId next := by
  cases command with
  | begin payload =>
    obtain ⟨-, hcount, rfl⟩ := hasks
    have hzero := (StrokeBeginPayload.validate_eq_ok.mp hvalid).1
    refine ⟨rfl, rfl, BEq.rfl, rfl, ⟨payload.chunkIndex, payload.points, hcount⟩, ?_, BEq.rfl⟩
    exact Option.filter_eq_some_iff.mpr ⟨rfl, beq_iff_eq.mpr hzero⟩
  | append payload =>
    obtain ⟨projection, hcount, rfl, rfl⟩ := hasks
    obtain ⟨_, hprojection, -, -, hnext⟩ := h
    cases hprojection
    have hbefore := hcontiguous projection rfl
    have hlast := hbefore.lastChunkIndex_toNat
    refine ⟨⟨payload.chunkIndex, payload.points, hcount⟩, ?_, BEq.rfl⟩
    rw [(hbefore.pushChunk hnext).chunk_eq, StrokeProjection.pushChunk_chunks, hnext, hlast,
      List.getElem?_concat_length]
  | «end» payload =>
    obtain ⟨projection, rfl, rfl⟩ := hasks
    obtain ⟨_, hprojection, -, -, hfinal⟩ := h
    cases hprojection
    exact ⟨.inl rfl, hfinal⟩
  | cancel payload =>
    obtain ⟨projection, rfl, rfl⟩ := hasks
    obtain ⟨_, hprojection, -, -, hfinal⟩ := h
    cases hprojection
    exact ⟨rfl, hfinal⟩
  | remove payload =>
    obtain ⟨projection, rfl, rfl⟩ := hasks
    exact rfl

end CanvasCommand

namespace StrokeProjector

/-- A step keeps every chunk it finds. -/
theorem Step.chunk_eq_some {event : Event} {projection next : StrokeProjection}
    (h : Step event (some projection) next) {index : UInt64} {chunk : StrokeChunk}
    (hchunk : projection.chunk index = some chunk) : next.chunk index = some chunk := by
  cases h with
  | appended _ _ _ _ _ =>
    obtain ⟨hget, hindex⟩ := Option.filter_eq_some_iff.mp hchunk
    have hlt := (List.getElem?_eq_some_iff.mp hget).1
    refine Option.filter_eq_some_iff.mpr ⟨?_, hindex⟩
    rw [StrokeProjection.pushChunk_chunks, List.getElem?_append_left hlt, hget]
  | completed _ _ _ _ | cancelled _ _ _ _ | removed _ _ _ => exact hchunk

/-- What a projection reflects, every later projection reflects. -/
theorem Step.reflectedIn {event : Event} {projection next : StrokeProjection}
    (h : Step event (some projection) next) {command : CanvasCommand} {actorId : ActorId}
    (hr : command.ReflectedIn actorId projection) : command.ReflectedIn actorId next := by
  have hchunks {index chunk} := @Step.chunk_eq_some event projection next h index chunk
  cases command with
  | begin payload =>
    obtain ⟨hlayer, htool, hstyle, hcreator, chunk, hchunk, hpoints⟩ := hr
    have hchunk' := hchunks hchunk
    cases h <;> exact ⟨hlayer, htool, hstyle, hcreator, chunk, hchunk', hpoints⟩
  | append payload =>
    obtain ⟨chunk, hchunk, hpoints⟩ := hr
    exact ⟨chunk, hchunks hchunk, hpoints⟩
  | «end» payload =>
    obtain ⟨hlife, hfinal⟩ := hr
    cases h with
    | removed _ _ _ => exact ⟨.inr rfl, hfinal⟩
    | appended _ _ hactive _ _ | completed _ _ hactive _ | cancelled _ _ hactive _ =>
      rw [hactive] at hlife
      rcases hlife with hlife | hlife <;> cases hlife
  | cancel payload =>
    obtain ⟨hlife, -⟩ := hr
    cases h with
    | removed _ _ hother | appended _ _ hother _ _ | completed _ _ hother _
    | cancelled _ _ hother _ =>
      rw [hother] at hlife
      cases hlife
  | remove payload =>
    have hlife : projection.lifecycle = .removed := hr
    cases h with
    | removed _ _ hother | appended _ _ hother _ _ | completed _ _ hother _
    | cancelled _ _ hother _ =>
      rw [hother] at hlife
      cases hlife

end StrokeProjector
end OrbitRelay
