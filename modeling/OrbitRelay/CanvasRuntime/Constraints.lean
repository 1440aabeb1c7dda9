import OrbitRelay.CanvasRuntime.Retry
import OrbitRelay.Lib.Transition
import OrbitRelay.Runtime.Execute

/-! What the service checks against a Canvas holds of everything it ever persists: the facts
of every run and the projections folded from them satisfy the constraints of their Canvas. -/
namespace OrbitRelay
open CanvasCommandService

/-- The point lies within the inclusive bounds. -/
def CanvasSpace.contains (space : CanvasSpace) (point : CanvasPoint) : Bool :=
  point.x ≥ 0 && point.x ≤ space.width && point.y ≥ 0 && point.y ≤ space.height

/-- The two bounds tests agree: a finite coordinate outside no bound is inside both. -/
theorem CanvasSpace.validatePoint_eq_ok {space : CanvasSpace} {point : CanvasPoint} :
    space.validatePoint point = .ok () ↔ space.contains point = true := by
  have hzero : (0 : Float).isFinite = true := by decide +kernel
  have hx := Float.not_lt_of_isFinite point.x_finite hzero
  have hw := Float.not_lt_of_isFinite space.width_valid.1 point.x_finite
  have hy := Float.not_lt_of_isFinite point.y_finite hzero
  have hh := Float.not_lt_of_isFinite space.height_valid.1 point.y_finite
  unfold validatePoint contains
  simp only [gt_iff_lt, ge_iff_le, Bool.and_eq_true, decide_eq_true_eq, ← hx, ← hw, ← hy, ← hh]
  split_ifs with h₁ h₂
  · simp only [false_iff]
    tauto
  · simp only [false_iff]
    tauto
  · simp only [true_iff]
    tauto

theorem validatePointsIn_eq_ok {descriptor : CanvasDescriptor} {points : List CanvasPoint} :
    validatePointsIn descriptor points = .ok () ↔
      ∀ point ∈ points, descriptor.space.contains point = true := by
  unfold validatePointsIn
  rw [Except.forM_eq_ok]
  simp only [Except.mapError_eq_ok, CanvasSpace.validatePoint_eq_ok]

/-! ### The constraints of a Canvas -/

/-- The points of one chunk: few enough, and each within the bounds. -/
structure CanvasDescriptor.AdmitsChunk (descriptor : CanvasDescriptor)
    (points : List CanvasPoint) : Prop where
  count : 1 ≤ points.length ∧ points.length ≤ 256
  bounds : ∀ point ∈ points, 0 ≤ point.x ∧ point.x ≤ descriptor.space.width ∧
    0 ≤ point.y ∧ point.y ≤ descriptor.space.height

/-- The layer and the points that a fact names. -/
def CanvasDescriptor.Admits (descriptor : CanvasDescriptor) : CanvasEventData → Prop
  | .strokeBegan payload =>
    payload.layerId ∈ descriptor.layerIds ∧ descriptor.AdmitsChunk payload.points
  | .strokePointsAppended payload => descriptor.AdmitsChunk payload.points
  | .strokeCompleted _ | .strokeCancelled _ | .strokeRemoved _ => True

section
variable (catalog : CanvasId → Except CanvasCatalogError (Option CanvasDescriptor))

/-- The catalog knows the Canvas, in the session. -/
structure OwnsCanvas (sessionId : SessionId) (canvasId : CanvasId)
    (descriptor : CanvasDescriptor) : Prop where
  found : catalog canvasId = .ok (some descriptor)
  session : descriptor.sessionId = sessionId

/-- A persisted fact satisfies the constraints of the Canvas it names. -/
def FactAdmitted (event : Event) : Prop :=
  ∃ data descriptor, CanvasEventData.tryFrom event = .ok data ∧
    OwnsCanvas catalog event.sessionId data.canvasId descriptor ∧ descriptor.Admits data

/-- A projection satisfies the constraints of its Canvas. -/
def ProjectionAdmitted (projection : StrokeProjection) : Prop :=
  ∃ descriptor, OwnsCanvas catalog projection.sessionId projection.canvasId descriptor ∧
    projection.layerId ∈ descriptor.layerIds ∧
    ∀ chunk ∈ projection.chunks, descriptor.AdmitsChunk chunk.points

/-- The log of facts that the service emits, each command reading the folds of the facts
emitted before it. A refused command leaves the log as it is. -/
def commandSystem : Transition.System (List Event) where
  init persisted := persisted = []
  step persisted persisted' := ∃ (command : CanvasCommand) (action : Action)
      (drafts : List EventDraft) (stamp : Nat → EventId × Timestamp),
    command.process ⟨catalog, foldingReader persisted⟩ action = .ok drafts ∧
    persisted' = persisted ++ ExecutionPhase.materialize action drafts stamp

variable {catalog}

theorem OwnsCanvas.unique {sessionId sessionId' : SessionId} {canvasId : CanvasId}
    {descriptor descriptor' : CanvasDescriptor}
    (h : OwnsCanvas catalog sessionId canvasId descriptor)
    (h' : OwnsCanvas catalog sessionId' canvasId descriptor') : descriptor = descriptor' := by
  have hsome := h.found.symm.trans h'.found
  cases hsome
  rfl

end

/-! ### What the service checks -/

section
variable {service : CanvasCommandService} {action : Action} {drafts : List EventDraft}

/-- The checks that precede the fact of a command. Append makes them last, after its
duplicate, gap and lifecycle branches; it never looks at the layer. -/
def CanvasCommand.CheckedBy (descriptor : CanvasDescriptor) : CanvasCommand → Prop
  | .begin payload => payload.layerId ∈ descriptor.layerIds ∧
      ∀ point ∈ payload.points, descriptor.space.contains point = true
  | .append payload => ∀ point ∈ payload.points, descriptor.space.contains point = true
  | .end _ | .cancel _ | .remove _ => True

private theorem append_checked {payload : StrokeAppendPayload}
    (h : service.append action payload = .ok drafts) (hne : drafts ≠ []) :
    ∃ descriptor, OwnsCanvas service.catalog action.sessionId payload.canvasId descriptor ∧
      ∀ point ∈ payload.points, descriptor.space.contains point = true := by
  obtain ⟨descriptor, projection, hfound, hsession, -, -, h⟩ := opening_eq_ok.mp h
  refine ⟨descriptor, ⟨hfound, hsession⟩, ?_⟩
  by_cases hle : payload.chunkIndex ≤ projection.lastChunkIndex
  · -- A stored chunk is answered emptily or refused.
    simp only [if_pos hle, Except.bind_eq_ok] at h
    obtain ⟨chunk, -, h⟩ := h
    split_ifs at h
    exact absurd (Except.ok.inj h).symm hne
  · simp only [if_neg hle, Except.bind_eq_ok] at h
    obtain ⟨expected, -, h⟩ := h
    split_ifs at h
    obtain ⟨⟨⟩, hpoints, -⟩ := Except.bind_eq_ok.mp h
    exact validatePointsIn_eq_ok.mp hpoints

/-- Whatever the service emits was checked against the Canvas that the catalog holds. -/
theorem CanvasCommand.checked_of_process {command : CanvasCommand}
    (h : command.process service action = .ok drafts) (hne : drafts ≠ []) :
    ∃ descriptor, OwnsCanvas service.catalog action.sessionId command.canvasId descriptor ∧
      command.CheckedBy descriptor := by
  obtain ⟨descriptor, -, ⟨hfound, hsession, haccepts⟩, -, -⟩ := process_decided h
  cases command with
  | begin payload =>
    obtain ⟨hlayer, hpoints⟩ := haccepts
    have hmem : payload.layerId ∈ descriptor.layerIds := List.contains_iff_mem.mp hlayer
    exact ⟨descriptor, ⟨hfound, hsession⟩, hmem, validatePointsIn_eq_ok.mp hpoints⟩
  | append payload => exact append_checked h hne
  | «end» _ | cancel _ | remove _ => exact ⟨descriptor, ⟨hfound, hsession⟩, trivial⟩

private theorem admitsChunk {descriptor : CanvasDescriptor} {points : List CanvasPoint}
    (hcount : 1 ≤ points.length ∧ points.length ≤ maxPointsPerChunk)
    (h : ∀ point ∈ points, descriptor.space.contains point = true) :
    descriptor.AdmitsChunk points := by
  refine ⟨hcount, fun point hpoint => ?_⟩
  have hcontains := h point hpoint
  simp only [CanvasSpace.contains, Bool.and_eq_true, decide_eq_true_eq] at hcontains
  obtain ⟨⟨⟨hx, hw⟩, hy⟩, hh⟩ := hcontains
  exact ⟨hx, hw, hy, hh⟩

/-- The checks of the service and of the encoder are the constraints of the Canvas. -/
theorem CanvasCommand.admitted_of_emits {command : CanvasCommand} {draft : EventDraft}
    {descriptor : CanvasDescriptor} (h : command.Emits draft)
    (hchecked : command.CheckedBy descriptor) : descriptor.Admits command.fact := by
  have hdecodes := h.decodes
  cases command with
  | begin payload =>
    have hvalid : validatePayload payload = .ok () :=
      validatePayload_of_decodePayload hdecodes
    have hcount := (StrokeBeginPayload.validate_eq_ok.mp hvalid).2
    exact ⟨hchecked.1, admitsChunk hcount hchecked.2⟩
  | append payload =>
    have hvalid : validatePayload payload = .ok () :=
      validatePayload_of_decodePayload hdecodes
    have hcount := (StrokeAppendPayload.validate_eq_ok.mp hvalid).2
    exact admitsChunk hcount hchecked
  | «end» _ | cancel _ | remove _ => trivial

end

/-! ### Runs -/

section
variable {catalog : CanvasId → Except CanvasCatalogError (Option CanvasDescriptor)}

/-- One command adds admitted facts only. -/
theorem factAdmitted_of_step {persisted persisted' : List Event}
    (h : (commandSystem catalog).step persisted persisted')
    (hbefore : ∀ event ∈ persisted, FactAdmitted catalog event) :
    ∀ event ∈ persisted', FactAdmitted catalog event := by
  obtain ⟨command, action, drafts, stamp, hprocess, rfl⟩ := h
  obtain ⟨-, -, -, -, ⟨rfl, -⟩ | ⟨draft, rfl, hemits, -⟩⟩ := CanvasCommand.process_decided hprocess
  · intro event hevent
    rw [show ExecutionPhase.materialize action [] stamp = [] from rfl, List.append_nil] at hevent
    exact hbefore event hevent
  · obtain ⟨descriptor, howns, hchecked⟩ :=
      CanvasCommand.checked_of_process hprocess (List.cons_ne_nil _ _)
    intro event hevent
    rcases List.mem_append.mp hevent with hold | hnew
    · exact hbefore event hold
    · have hevent : event = draft.toEvent action (stamp 0).1 (stamp 0).2 :=
        List.mem_singleton.mp hnew
      rw [hevent]
      exact ⟨command.fact, descriptor, hemits.tryFrom_eq action _ _, howns,
        CanvasCommand.admitted_of_emits hemits hchecked⟩

/-- One projector step on an admitted fact keeps the projection admitted. -/
theorem StrokeProjector.Step.admitted {event : Event} {state : Option StrokeProjection}
    {next : StrokeProjection} (h : Step event state next) (hfact : FactAdmitted catalog event)
    (hbefore : ∀ projection ∈ state, ProjectionAdmitted catalog projection) :
    ProjectionAdmitted catalog next := by
  obtain ⟨data, descriptor, hdata, howns, hadmits⟩ := hfact
  cases h with
  | @began payload hbegan hcount =>
    obtain rfl := Except.ok.inj (hdata.symm.trans hbegan)
    refine ⟨descriptor, howns, hadmits.1, ?_⟩
    intro chunk hchunk
    rw [List.mem_singleton.mp hchunk]
    exact hadmits.2
  | @appended projection payload happended hsame _ _ hcount =>
    obtain rfl := Except.ok.inj (hdata.symm.trans happended)
    obtain ⟨known, hknown, hlayer, hchunks⟩ := hbefore projection rfl
    have howns : OwnsCanvas catalog event.sessionId projection.canvasId descriptor :=
      hsame.canvas ▸ howns
    obtain rfl := hknown.unique howns
    refine ⟨known, hknown, hlayer, ?_⟩
    intro chunk hchunk
    rcases List.mem_append.mp hchunk with hold | hnew
    · exact hchunks chunk hold
    · rw [List.mem_singleton.mp hnew]
      exact hadmits
  | @completed projection | @cancelled projection | @removed projection =>
    exact hbefore projection rfl

/-- A projection folded from admitted facts is admitted, whichever facts were folded. -/
theorem StrokeProjector.admitted_of_fold {history : List Event} {projection : StrokeProjection}
    (hfacts : ∀ event ∈ history, FactAdmitted catalog event)
    (h : fold history = .ok (some projection)) : ProjectionAdmitted catalog projection := by
  induction history using List.reverseRecOn generalizing projection with
  | nil => cases h
  | append_singleton history event ih =>
    obtain ⟨before, next, hbefore, hstep, hnext⟩ := fold_concat_eq_ok.mp h
    cases hnext
    refine hstep.admitted (hfacts event (by simp)) fun projection hprojection => ?_
    cases Option.mem_def.mp hprojection
    exact ih (fun event hevent => hfacts event (by simp [hevent])) hbefore

/-- Every fact of every run satisfies the constraints of a Canvas of its session, and so does
every projection folded from such facts. -/
theorem persisted_facts_admitted
    (catalog : CanvasId → Except CanvasCatalogError (Option CanvasDescriptor))
    (persisted : List Event) (h : (commandSystem catalog).Reachable persisted) :
    (∀ event ∈ persisted, FactAdmitted catalog event) ∧
    ∀ history projection, history ⊆ persisted →
      StrokeProjector.fold history = .ok (some projection) →
      ProjectionAdmitted catalog projection := by
  have hfacts : ∀ event ∈ persisted, FactAdmitted catalog event := by
    refine h.invariant (I := fun persisted => ∀ event ∈ persisted, FactAdmitted catalog event)
      ?_ fun _ _ hbefore hstep => factAdmitted_of_step hstep hbefore
    intro persisted hinit event hevent
    rw [show persisted = [] from hinit] at hevent
    exact (List.not_mem_nil hevent).elim
  refine ⟨hfacts, fun history projection hsub hfold => ?_⟩
  exact StrokeProjector.admitted_of_fold (fun event hevent => hfacts event (hsub hevent)) hfold

/-- One begin command on an empty log. -/
theorem persisted_facts_admitted_sample : FactAdmitted Sample.catalog Sample.began := by
  have hprocess : CanvasCommand.process ⟨Sample.catalog, foldingReader []⟩ Sample.action
      (.begin Sample.beginPayload) =
        .ok [⟨⟨strokeBeganEventType⟩, Sample.began.payload, ⟨[]⟩⟩] := rfl
  have hreach : (commandSystem Sample.catalog).Reachable [Sample.began] :=
    (Transition.System.Reachable.init rfl).step
      ⟨_, _, _, fun _ => (Sample.id 4, ⟨0⟩), hprocess, rfl⟩
  exact (persisted_facts_admitted Sample.catalog [Sample.began] hreach).1 _ (by simp)

end
end OrbitRelay
