import OrbitRelay.Canvas.History
import OrbitRelay.CanvasRuntime.Command

/-! The service and the projector apply the same acceptance rules: what the service emits
the projector accepts, and what was accepted once is answered emptily ever after. -/
namespace OrbitRelay
open CanvasCommandService

theorem validateProjectionIdentity_eq_ok {projection : StrokeProjection} {action : Action}
    {canvasId : CanvasId} {strokeId : StrokeId} :
    validateProjectionIdentity projection action canvasId strokeId = .ok () ↔
      projection.HasKey ⟨action.sessionId, canvasId, strokeId⟩ := by
  unfold validateProjectionIdentity
  split_ifs with hs hc hk
  · exact iff_of_false nofun fun h => hs h.session
  · exact iff_of_false nofun fun h => hc h.canvas
  · exact iff_of_false nofun fun h => hk h.stroke
  · exact iff_of_true rfl ⟨not_not.mp hs, not_not.mp hc, not_not.mp hk⟩

theorem validateFinalIndex_eq_ok {kind : String} {projection : StrokeProjection}
    {final : UInt64} :
    validateFinalIndex kind projection final = .ok () ↔ final = projection.lastChunkIndex := by
  simp [validateFinalIndex]

theorem eventDraft_eq_ok {T : Type} [ValidatedPayload T] {eventType : String} {payload : T}
    {drafts : List EventDraft} :
    eventDraft eventType payload = .ok drafts ↔
      ∃ encoded, encodePayload payload = .ok encoded ∧ drafts = [⟨⟨eventType⟩, encoded, ⟨[]⟩⟩] := by
  simp only [eventDraft, Except.bind_eq_ok, Except.mapError_eq_ok, Except.ok.injEq]
  exact exists_congr fun encoded => and_congr_right fun _ => eq_comm

namespace CanvasCommandService
variable {service : CanvasCommandService} {action : Action}

theorem loadCanvas_eq_ok {canvasId : CanvasId} {descriptor : CanvasDescriptor} :
    service.loadCanvas action canvasId = .ok descriptor ↔
      service.catalog canvasId = .ok (some descriptor) ∧
        descriptor.sessionId = action.sessionId := by
  simp only [loadCanvas, Except.bind_eq_ok, Except.mapError_eq_ok, Except.okOr_eq_ok]
  constructor
  · rintro ⟨found, hfound, d, rfl, h⟩
    split_ifs at h with hsession
    cases h
    exact ⟨hfound, not_not.mp hsession⟩
  · rintro ⟨hfound, hsession⟩
    exact ⟨_, hfound, _, rfl, by simp [hsession]⟩

theorem loadStroke_eq_ok {canvasId : CanvasId} {strokeId : StrokeId}
    {state : Option StrokeProjection} :
    service.loadStroke action canvasId strokeId = .ok state ↔
      service.stateReader action.sessionId canvasId strokeId = .ok state :=
  Except.mapError_eq_ok

theorem loadRequiredStroke_eq_ok {canvasId : CanvasId} {strokeId : StrokeId}
    {projection : StrokeProjection} :
    service.loadRequiredStroke action canvasId strokeId = .ok projection ↔
      service.stateReader action.sessionId canvasId strokeId = .ok (some projection) := by
  simp only [loadRequiredStroke, Except.bind_eq_ok, loadStroke_eq_ok, Except.okOr_eq_ok]
  constructor
  · rintro ⟨state, hstate, rfl⟩
    exact hstate
  · exact fun h => ⟨_, h, rfl⟩

/-- The shared opening of append, end, cancel and remove. -/
theorem opening_eq_ok {canvasId : CanvasId} {strokeId : StrokeId}
    {rest : CanvasDescriptor → StrokeProjection → Except CanvasRuntimeError (List EventDraft)}
    {drafts : List EventDraft} :
    (do
      let descriptor ← service.loadCanvas action canvasId
      let projection ← service.loadRequiredStroke action canvasId strokeId
      validateProjectionIdentity projection action canvasId strokeId
      rest descriptor projection) = .ok drafts ↔
    ∃ descriptor projection, service.catalog canvasId = .ok (some descriptor) ∧
      descriptor.sessionId = action.sessionId ∧
      service.stateReader action.sessionId canvasId strokeId = .ok (some projection) ∧
      projection.HasKey ⟨action.sessionId, canvasId, strokeId⟩ ∧
      rest descriptor projection = .ok drafts := by
  simp only [Except.bind_eq_ok, loadCanvas_eq_ok, loadRequiredStroke_eq_ok]
  constructor
  · rintro ⟨descriptor, ⟨hfound, hsession⟩, projection, hstate, ⟨⟩, hkey, hrest⟩
    exact ⟨descriptor, projection, hfound, hsession, hstate,
      validateProjectionIdentity_eq_ok.mp hkey, hrest⟩
  · rintro ⟨descriptor, projection, hfound, hsession, hstate, hkey, hrest⟩
    exact ⟨descriptor, ⟨hfound, hsession⟩, projection, hstate, (),
      validateProjectionIdentity_eq_ok.mpr hkey, hrest⟩

theorem validateLayer_eq_ok {descriptor : CanvasDescriptor} {layerId : LayerId} :
    validateLayer descriptor layerId = .ok () ↔ descriptor.containsLayer layerId = true := by
  simp [validateLayer]

end CanvasCommandService

namespace CanvasCommand
variable {service : CanvasCommandService} {action : Action} {drafts : List EventDraft}

/-- What the service decided about a state: the command was already reflected and it
answered emptily, or it was admissible and its fact is the one draft. -/
def Decided (command : CanvasCommand) (action : Action) (state : Option StrokeProjection)
    (drafts : List EventDraft) : Prop :=
  (drafts = [] ∧ ∃ projection, state = some projection ∧
    projection.HasKey (command.key action) ∧ command.ReflectedIn action.actorId projection) ∨
  ∃ draft, drafts = [draft] ∧ command.Emits draft ∧ command.Admissible (command.key action) state

private theorem begin_decided {payload : StrokeBeginPayload}
    (h : service.begin action payload = .ok drafts) :
    ∃ descriptor state,
      (begin payload).CatalogAccepts service.catalog action.sessionId descriptor ∧
      service.stateReader action.sessionId payload.canvasId payload.strokeId = .ok state ∧
      (begin payload).Decided action state drafts := by
  simp only [CanvasCommandService.begin, Except.bind_eq_ok, loadCanvas_eq_ok,
    loadStroke_eq_ok] at h
  obtain ⟨descriptor, ⟨hfound, hsession⟩, ⟨⟩, hlayer, ⟨⟩, hpoints, state, hstate, h⟩ := h
  refine ⟨descriptor, state, ⟨hfound, hsession, validateLayer_eq_ok.mp hlayer, hpoints⟩, hstate, ?_⟩
  cases state with
  | some existing =>
    obtain ⟨⟨⟩, hkey, h⟩ := Except.bind_eq_ok.mp h
    split_ifs at h with hsame
    cases h
    simp only [sameBegin, Bool.and_eq_true, Option.any_eq_true_iff_get] at hsame
    obtain ⟨⟨⟨⟨hlayer', htool⟩, hstyle⟩, hsome, hchunk⟩, hcreator⟩ := hsame
    exact .inl ⟨rfl, existing, rfl, validateProjectionIdentity_eq_ok.mp hkey, eq_of_beq hlayer',
      eq_of_beq htool, hstyle, eq_of_beq hcreator, _, (Option.some_get hsome).symm, hchunk⟩
  | none =>
    obtain ⟨encoded, hencoded, rfl⟩ := eventDraft_eq_ok.mp h
    exact .inr ⟨_, rfl, ⟨rfl, decodePayload_of_encodePayload hencoded⟩, rfl⟩

private theorem append_decided {payload : StrokeAppendPayload}
    (h : service.append action payload = .ok drafts) :
    ∃ descriptor state,
      (append payload).CatalogAccepts service.catalog action.sessionId descriptor ∧
      service.stateReader action.sessionId payload.canvasId payload.strokeId = .ok state ∧
      (append payload).Decided action state drafts := by
  obtain ⟨descriptor, projection, hfound, hsession, hstate, hkey, h⟩ := opening_eq_ok.mp h
  refine ⟨descriptor, _, ⟨hfound, hsession, trivial⟩, hstate, ?_⟩
  by_cases hle : payload.chunkIndex ≤ projection.lastChunkIndex
  · -- At or below the last index the stored points decide, whatever the lifecycle.
    simp only [if_pos hle, Except.bind_eq_ok, Except.okOr_eq_ok] at h
    obtain ⟨chunk, hchunk, h⟩ := h
    split_ifs at h with hpoints
    cases h
    exact .inl ⟨rfl, projection, rfl, hkey, chunk, hchunk, hpoints⟩
  · simp only [if_neg hle, Except.bind_eq_ok, Except.okOr_eq_ok] at h
    obtain ⟨expected, hexpected, h⟩ := h
    split_ifs at h with hmissing hlife
    obtain ⟨⟨⟩, -, h⟩ := Except.bind_eq_ok.mp h
    obtain ⟨encoded, hencoded, rfl⟩ := eventDraft_eq_ok.mp h
    have hnext : payload.chunkIndex.toNat = projection.lastChunkIndex.toNat + 1 := by
      have hexpected := UInt64.checkedAdd_eq_some.mp hexpected
      rw [UInt64.le_iff_toNat_le] at hle
      rw [gt_iff_lt, UInt64.lt_iff_toNat_lt, hexpected] at hmissing
      have hone : (1 : UInt64).toNat = 1 := rfl
      omega
    exact .inr ⟨_, rfl, ⟨rfl, decodePayload_of_encodePayload hencoded⟩, projection, rfl, hkey,
      not_not.mp hlife, hnext⟩

private theorem end_decided {payload : StrokeEndPayload}
    (h : service.end action payload = .ok drafts) :
    ∃ descriptor state,
      («end» payload).CatalogAccepts service.catalog action.sessionId descriptor ∧
      service.stateReader action.sessionId payload.canvasId payload.strokeId = .ok state ∧
      («end» payload).Decided action state drafts := by
  obtain ⟨descriptor, projection, hfound, hsession, hstate, hkey, h⟩ := opening_eq_ok.mp h
  refine ⟨descriptor, _, ⟨hfound, hsession, trivial⟩, hstate, ?_⟩
  cases hlife : projection.lifecycle <;> simp only [hlife, Except.bind_eq_ok] at h
  case active =>
    obtain ⟨⟨⟩, hfinal, h⟩ := h
    obtain ⟨encoded, hencoded, rfl⟩ := eventDraft_eq_ok.mp h
    exact .inr ⟨_, rfl, ⟨rfl, decodePayload_of_encodePayload hencoded⟩, projection, rfl, hkey,
      hlife, validateFinalIndex_eq_ok.mp hfinal⟩
  case completed =>
    obtain ⟨⟨⟩, hfinal, ⟨⟩⟩ := h
    exact .inl ⟨rfl, projection, rfl, hkey, .inl hlife, validateFinalIndex_eq_ok.mp hfinal⟩
  case removed =>
    obtain ⟨⟨⟩, hfinal, ⟨⟩⟩ := h
    exact .inl ⟨rfl, projection, rfl, hkey, .inr hlife, validateFinalIndex_eq_ok.mp hfinal⟩
  case cancelled => cases h

private theorem cancel_decided {payload : StrokeCancelPayload}
    (h : service.cancel action payload = .ok drafts) :
    ∃ descriptor state,
      (cancel payload).CatalogAccepts service.catalog action.sessionId descriptor ∧
      service.stateReader action.sessionId payload.canvasId payload.strokeId = .ok state ∧
      (cancel payload).Decided action state drafts := by
  obtain ⟨descriptor, projection, hfound, hsession, hstate, hkey, h⟩ := opening_eq_ok.mp h
  refine ⟨descriptor, _, ⟨hfound, hsession, trivial⟩, hstate, ?_⟩
  cases hlife : projection.lifecycle <;> simp only [hlife, Except.bind_eq_ok] at h
  case active =>
    obtain ⟨⟨⟩, hfinal, h⟩ := h
    obtain ⟨encoded, hencoded, rfl⟩ := eventDraft_eq_ok.mp h
    exact .inr ⟨_, rfl, ⟨rfl, decodePayload_of_encodePayload hencoded⟩, projection, rfl, hkey,
      hlife, validateFinalIndex_eq_ok.mp hfinal⟩
  case cancelled =>
    obtain ⟨⟨⟩, hfinal, ⟨⟩⟩ := h
    exact .inl ⟨rfl, projection, rfl, hkey, hlife, validateFinalIndex_eq_ok.mp hfinal⟩
  case completed => cases h
  case removed => cases h

private theorem remove_decided {payload : StrokeRemovePayload}
    (h : service.remove action payload = .ok drafts) :
    ∃ descriptor state,
      (remove payload).CatalogAccepts service.catalog action.sessionId descriptor ∧
      service.stateReader action.sessionId payload.canvasId payload.strokeId = .ok state ∧
      (remove payload).Decided action state drafts := by
  obtain ⟨descriptor, projection, hfound, hsession, hstate, hkey, h⟩ := opening_eq_ok.mp h
  refine ⟨descriptor, _, ⟨hfound, hsession, trivial⟩, hstate, ?_⟩
  cases hlife : projection.lifecycle <;> simp only [hlife] at h
  case completed =>
    obtain ⟨encoded, hencoded, rfl⟩ := eventDraft_eq_ok.mp h
    exact .inr ⟨_, rfl, ⟨rfl, decodePayload_of_encodePayload hencoded⟩, projection, rfl, hkey,
      hlife⟩
  case removed =>
    cases h
    exact .inl ⟨rfl, projection, rfl, hkey, hlife⟩
  case active => cases h
  case cancelled => cases h

/-- Every answer of the service was decided on the state that the reader returned. -/
theorem process_decided {command : CanvasCommand}
    (h : command.process service action = .ok drafts) :
    ∃ descriptor state, command.CatalogAccepts service.catalog action.sessionId descriptor ∧
      service.stateReader action.sessionId command.canvasId command.strokeId = .ok state ∧
      command.Decided action state drafts := by
  cases command with
  | begin payload => exact begin_decided h
  | append payload => exact append_decided h
  | «end» payload => exact end_decided h
  | cancel payload => exact cancel_decided h
  | remove payload => exact remove_decided h

end CanvasCommand

/-- The error blames neither the persisted history nor the encoder. -/
def CanvasRuntimeError.Benign : CanvasRuntimeError → Prop
  | .projectionCorrupted _ | .encodingFailed _ => False
  | _ => True

/-- The computation fails with benign errors only. -/
def OnlyBenign {α : Type} (x : Except CanvasRuntimeError α) : Prop :=
  ∀ e, x = .error e → e.Benign

namespace OnlyBenign
variable {α β : Type}

theorem ok (a : α) : OnlyBenign (.ok a) := nofun

theorem error {e : CanvasRuntimeError} (h : e.Benign) : OnlyBenign (.error e : Except _ α) :=
  fun _ he => Except.error.inj he ▸ h

theorem bind {x : Except CanvasRuntimeError α} {f : α → Except CanvasRuntimeError β}
    (hx : OnlyBenign x) (hf : ∀ a, x = .ok a → OnlyBenign (f a)) : OnlyBenign (x >>= f) := by
  intro e he
  rcases Except.bind_eq_error.mp he with he | ⟨a, ha, he⟩
  · exact hx e he
  · exact hf a ha e he

theorem mapError {ε : Type} {x : Except ε α} {f : ε → CanvasRuntimeError}
    (hf : ∀ e, (f e).Benign) : OnlyBenign (x.mapError f) := by
  intro e he
  obtain ⟨e', -, rfl⟩ := Except.mapError_eq_error.mp he
  exact hf e'

theorem okOr {o : Option α} {e : CanvasRuntimeError} (h : o = none → e.Benign) :
    OnlyBenign (o.okOr e) := by
  cases o with
  | none => exact error (h rfl)
  | some a => exact ok a

theorem ite {p : Prop} [Decidable p] {x y : Except CanvasRuntimeError α}
    (hx : p → OnlyBenign x) (hy : ¬p → OnlyBenign y) : OnlyBenign (if p then x else y) := by
  split_ifs with h
  · exact hx h
  · exact hy h

theorem loadCanvas {service : CanvasCommandService} {action : Action} {canvasId : CanvasId} :
    OnlyBenign (service.loadCanvas action canvasId) :=
  bind (mapError fun _ => trivial) fun _ _ => bind (okOr fun _ => trivial) fun _ _ =>
    ite (fun _ => error trivial) fun _ => ok _

theorem validatePointsIn {descriptor : CanvasDescriptor} {points : List CanvasPoint} :
    OnlyBenign (validatePointsIn descriptor points) := by
  induction points with
  | nil => exact ok _
  | cons point points ih => exact bind (mapError fun _ => trivial) fun _ _ => ih

theorem validateFinalIndex {kind : String} {projection : StrokeProjection} {final : UInt64} :
    OnlyBenign (validateFinalIndex kind projection final) :=
  ite (fun _ => ok _) fun _ => error trivial

theorem validateProjectionIdentity {projection : StrokeProjection} {action : Action}
    {canvasId : CanvasId} {strokeId : StrokeId}
    (h : projection.HasKey ⟨action.sessionId, canvasId, strokeId⟩) :
    OnlyBenign (validateProjectionIdentity projection action canvasId strokeId) := by
  rw [validateProjectionIdentity_eq_ok.mpr h]
  exact ok _

/-- A valid payload always encodes. -/
theorem eventDraft {T : Type} [ValidatedPayload T] [LawfulPayload T] {eventType : String}
    {payload : T} (h : validatePayload payload = .ok ()) :
    OnlyBenign (eventDraft eventType payload) := by
  obtain ⟨encoded, hencoded⟩ := exists_encodePayload h
  rw [eventDraft_eq_ok.mpr ⟨encoded, hencoded, rfl⟩]
  exact ok _

end OnlyBenign

namespace CanvasCommand
variable {service : CanvasCommandService} {action : Action}

/-- The reader's answer is a sound projection of the aggregate, if there is one. -/
def SoundState (key : StrokeKey) (state : Option StrokeProjection) : Prop :=
  ∀ projection ∈ state, projection.HasKey key ∧ projection.Contiguous

theorem soundState_of_fold {key : StrokeKey} {persisted : List Event}
    {state : Option StrokeProjection}
    (h : StrokeProjector.fold (key.history persisted) = .ok state) : SoundState key state := by
  rintro projection hprojection
  cases Option.mem_def.mp hprojection
  exact ⟨StrokeProjector.hasKey_of_fold h, StrokeProjector.contiguous_of_fold h⟩

/-- The shared opening blames nothing on a sound state. -/
private theorem onlyBenign_opening {canvasId : CanvasId} {strokeId : StrokeId}
    {state : Option StrokeProjection}
    (hreader : service.stateReader action.sessionId canvasId strokeId = .ok state)
    (hsound : SoundState ⟨action.sessionId, canvasId, strokeId⟩ state)
    {rest : CanvasDescriptor → StrokeProjection → Except CanvasRuntimeError (List EventDraft)}
    (hrest : ∀ descriptor projection, projection.Contiguous →
      OnlyBenign (rest descriptor projection)) :
    OnlyBenign (do
      let descriptor ← service.loadCanvas action canvasId
      let projection ← service.loadRequiredStroke action canvasId strokeId
      validateProjectionIdentity projection action canvasId strokeId
      rest descriptor projection) := by
  refine .bind .loadCanvas fun descriptor _ => ?_
  have hload : service.loadRequiredStroke action canvasId strokeId =
      state.okOr (domain (.strokeNotFound strokeId)) := by
    rw [loadRequiredStroke, loadStroke_eq_ok.mpr hreader, Except.ok_bind]
  rw [hload]
  refine .bind (.okOr fun _ => trivial) fun projection hprojection => ?_
  obtain ⟨hkey, hcontiguous⟩ := hsound projection (Except.okOr_eq_ok.mp hprojection)
  exact .bind (.validateProjectionIdentity hkey) fun _ _ => hrest _ _ hcontiguous

theorem process_onlyBenign {command : CanvasCommand} (hvalid : command.Valid)
    {state : Option StrokeProjection}
    (hreader : service.stateReader action.sessionId command.canvasId command.strokeId = .ok state)
    (hsound : SoundState (command.key action) state) :
    OnlyBenign (command.process service action) := by
  cases command with
  | begin payload =>
    refine .bind .loadCanvas fun descriptor _ => ?_
    refine .bind (.ite (fun _ => .ok _) fun _ => .error trivial) fun _ _ => ?_
    refine .bind .validatePointsIn fun _ _ => ?_
    have hload : service.loadStroke action payload.canvasId payload.strokeId = .ok state :=
      loadStroke_eq_ok.mpr hreader
    rw [hload, Except.ok_bind]
    cases state with
    | none => exact .eventDraft hvalid
    | some existing =>
      refine .bind (.validateProjectionIdentity (hsound existing rfl).1) fun _ _ => ?_
      exact .ite (fun _ => .ok _) fun _ => .error trivial
  | append payload =>
    refine onlyBenign_opening hreader hsound fun descriptor projection hcontiguous => ?_
    refine .ite (fun hle => .bind (.okOr fun hnone => ?_) fun chunk _ => ?_) fun _ => ?_
    · -- Every index up to the last one has its chunk.
      have hsome := (hcontiguous.chunk_isSome_iff payload.chunkIndex).mpr hle
      rw [hnone] at hsome
      cases hsome
    · exact .ite (fun _ => .ok _) fun _ => .error trivial
    · refine .bind (.okOr fun _ => trivial) fun expected _ => ?_
      refine .ite (fun _ => .error trivial) fun _ => .ite (fun _ => .error trivial) fun _ => ?_
      exact .bind .validatePointsIn fun _ _ => .eventDraft hvalid
  | «end» payload =>
    refine onlyBenign_opening hreader hsound fun _ projection _ => ?_
    cases hlife : projection.lifecycle
    case active => exact .bind .validateFinalIndex fun _ _ => .eventDraft hvalid
    case cancelled => exact .error trivial
    all_goals exact .bind .validateFinalIndex fun _ _ => .ok _
  | cancel payload =>
    refine onlyBenign_opening hreader hsound fun _ projection _ => ?_
    cases hlife : projection.lifecycle
    case active => exact .bind .validateFinalIndex fun _ _ => .eventDraft hvalid
    case cancelled => exact .bind .validateFinalIndex fun _ _ => .ok _
    all_goals exact .error trivial
  | remove payload =>
    refine onlyBenign_opening hreader hsound fun _ projection _ => ?_
    cases hlife : projection.lifecycle
    case completed => exact .eventDraft hvalid
    case removed => exact .ok _
    all_goals exact .error trivial

/-- The retry test of every command passes on a projection that reflects it. -/
theorem process_of_reflectedIn {command : CanvasCommand} {descriptor : CanvasDescriptor}
    {projection : StrokeProjection}
    (hcatalog : command.CatalogAccepts service.catalog action.sessionId descriptor)
    (hreader : service.stateReader action.sessionId command.canvasId command.strokeId =
      .ok (some projection))
    (hkey : projection.HasKey (command.key action)) (hcontiguous : projection.Contiguous)
    (hr : command.ReflectedIn action.actorId projection) :
    command.process service action = .ok [] := by
  obtain ⟨hfound, hsession, haccepts⟩ := hcatalog
  cases command with
  | begin payload =>
    obtain ⟨hlayer, hpoints⟩ := haccepts
    obtain ⟨hsame, htool, hstyle, hcreator, chunk, hchunk, hequal⟩ := hr
    have hretry : sameBegin action projection payload = true := by
      simp [sameBegin, hsame, htool, hstyle, hcreator, hchunk, hequal]
    have hcanvas : service.loadCanvas action payload.canvasId = .ok descriptor :=
      loadCanvas_eq_ok.mpr ⟨hfound, hsession⟩
    refine Except.bind_eq_ok.mpr ⟨descriptor, hcanvas, ?_⟩
    refine Except.bind_eq_ok.mpr ⟨(), validateLayer_eq_ok.mpr hlayer, ?_⟩
    refine Except.bind_eq_ok.mpr ⟨(), hpoints, ?_⟩
    refine Except.bind_eq_ok.mpr ⟨some projection, loadStroke_eq_ok.mpr hreader, ?_⟩
    exact Except.bind_eq_ok.mpr
      ⟨(), validateProjectionIdentity_eq_ok.mpr hkey, if_pos hretry⟩
  | append payload =>
    obtain ⟨chunk, hchunk, hequal⟩ := hr
    have hle : payload.chunkIndex ≤ projection.lastChunkIndex :=
      (hcontiguous.chunk_isSome_iff _).mp (hchunk ▸ rfl)
    refine opening_eq_ok.mpr ⟨descriptor, projection, hfound, hsession, hreader, hkey, ?_⟩
    simp [hle, hchunk, hequal]
  | «end» payload =>
    obtain ⟨hlife, hfinal⟩ := hr
    refine opening_eq_ok.mpr ⟨descriptor, projection, hfound, hsession, hreader, hkey, ?_⟩
    have hindex : validateFinalIndex "end" projection payload.finalChunkIndex = .ok () :=
      validateFinalIndex_eq_ok.mpr hfinal
    rcases hlife with hlife | hlife <;> simp [hlife, hindex]
  | cancel payload =>
    obtain ⟨hlife, hfinal⟩ := hr
    refine opening_eq_ok.mpr ⟨descriptor, projection, hfound, hsession, hreader, hkey, ?_⟩
    have hindex : validateFinalIndex "cancel" projection payload.finalChunkIndex = .ok () :=
      validateFinalIndex_eq_ok.mpr hfinal
    simp [hlife, hindex]
  | remove payload =>
    have hlife : projection.lifecycle = .removed := hr
    refine opening_eq_ok.mpr ⟨descriptor, projection, hfound, hsession, hreader, hkey, ?_⟩
    simp [hlife]

/-- The service answers with at most one draft; the projector accepts the event built from
it and makes the change that the command asks for; no error blames the history or the encoder. -/
theorem process_agrees (command : CanvasCommand) (service : CanvasCommandService)
    (action : Action) (persisted : List Event) (state : Option StrokeProjection)
    (hvalid : command.Valid)
    (hfold : StrokeProjector.fold ((command.key action).history persisted) = .ok state)
    (hreader : service.stateReader action.sessionId command.canvasId command.strokeId =
      .ok state) :
    ((∃ e, command.process service action = .error e) ∨
      command.process service action = .ok [] ∨
      ∃ draft, command.process service action = .ok [draft]) ∧
    (∀ draft, command.process service action = .ok [draft] →
      ∀ (id : EventId) (now : Timestamp), ∃ next,
        StrokeProjector.apply state (draft.toEvent action id now) = .ok next ∧
        command.Asks (draft.toEvent action id now) state next) ∧
    (∀ source, command.process service action ≠ .error (.projectionCorrupted source)) ∧
    (∀ source, command.process service action ≠ .error (.encodingFailed source)) := by
  have hbenign := process_onlyBenign hvalid hreader (soundState_of_fold hfold)
  refine ⟨?_, ?_, fun source h => hbenign _ h, fun source h => hbenign _ h⟩
  · cases h : command.process service action with
    | error e => exact .inl ⟨e, rfl⟩
    | ok drafts =>
      obtain ⟨_, _, -, -, ⟨rfl, -⟩ | ⟨draft, rfl, -⟩⟩ := process_decided h
      · exact .inr (.inl rfl)
      · exact .inr (.inr ⟨draft, rfl⟩)
  · intro draft h id now
    obtain ⟨_, state', -, hstate, hdecided⟩ := process_decided h
    obtain rfl : state = state' := Except.ok.inj (hreader.symm.trans hstate)
    obtain ⟨⟨⟩, -⟩ | ⟨_, ⟨⟩, hemits, hadmissible⟩ := hdecided
    obtain ⟨next, hstep, hasks⟩ :=
      hadmissible.step hvalid (hemits.tryFrom_eq action id now) rfl
    exact ⟨next, StrokeProjector.apply_eq_ok.mpr hstep, hasks⟩

end CanvasCommand

namespace Sample

def descriptor : CanvasDescriptor where
  canvasId := id 1
  sessionId := id 5
  space := ⟨10, 10, by decide +kernel, by decide +kernel⟩
  layerIds := [id 2]
  defaultLayerId := id 2
  layers_ordered := List.pairwise_singleton ..
  default_mem := by decide +kernel

/-- Knows the one Canvas. -/
def catalog (canvasId : CanvasId) : Except CanvasCatalogError (Option CanvasDescriptor) :=
  .ok (if canvasId = id 1 then some descriptor else none)

/-- A request of an actor in the session. -/
def request (actionId actorId : UInt8) (actionType : String) (payload : Payload) : Action where
  id := id actionId
  sessionId := id 5
  actorId := id actorId
  actionType := ⟨actionType⟩
  requestedAt := ⟨0⟩
  payload := payload
  metadata := ⟨[]⟩

def action : Action := request 7 6 "canvas.stroke.begin" began.payload

end Sample

theorem CanvasCommand.process_agrees_sample :
    ∃ draft next, CanvasCommand.process ⟨Sample.catalog, fun _ _ _ => .ok none⟩ Sample.action
      (.begin Sample.beginPayload) = .ok [draft] ∧
      StrokeProjector.apply none (draft.toEvent Sample.action (Sample.id 4) ⟨0⟩) = .ok next := by
  have hdraft : CanvasCommand.process ⟨Sample.catalog, fun _ _ _ => .ok none⟩ Sample.action
      (.begin Sample.beginPayload) =
        .ok [⟨⟨strokeBeganEventType⟩, Sample.began.payload, ⟨[]⟩⟩] := by
    rfl
  obtain ⟨-, haccepted, -⟩ := process_agrees (.begin Sample.beginPayload)
    ⟨Sample.catalog, fun _ _ _ => .ok none⟩ Sample.action [] none rfl rfl rfl
  obtain ⟨next, hnext, -⟩ := haccepted _ hdraft (Sample.id 4) ⟨0⟩
  exact ⟨_, next, hdraft, hnext⟩

end OrbitRelay
