import OrbitRelay.CanvasRuntime.Concurrent
import OrbitRelay.Runtime.Serial

/-! Concurrent Canvas actions have a serial history: in the order of their dispatches, each
command is decided by the service on the log that the ones before it left. -/
namespace OrbitRelay
open CanvasCommandService

namespace CanvasCommandService
variable {service service' : CanvasCommandService} {action : Action}

theorem loadCanvas_congr (canvasId : CanvasId) (hcatalog : service.catalog = service'.catalog) :
    service.loadCanvas action canvasId = service'.loadCanvas action canvasId := by
  unfold loadCanvas
  rw [hcatalog]

theorem loadStroke_congr (canvasId : CanvasId) (strokeId : StrokeId)
    (hreader : service.stateReader action.sessionId canvasId strokeId =
      service'.stateReader action.sessionId canvasId strokeId) :
    service.loadStroke action canvasId strokeId = service'.loadStroke action canvasId strokeId := by
  unfold loadStroke
  rw [hreader]

theorem loadRequiredStroke_congr (canvasId : CanvasId) (strokeId : StrokeId)
    (hreader : service.stateReader action.sessionId canvasId strokeId =
      service'.stateReader action.sessionId canvasId strokeId) :
    service.loadRequiredStroke action canvasId strokeId =
      service'.loadRequiredStroke action canvasId strokeId := by
  unfold loadRequiredStroke
  rw [loadStroke_congr canvasId strokeId hreader]

end CanvasCommandService

namespace CanvasCommand
variable {service service' : CanvasCommandService} {action : Action}

/-- A decision depends on the catalog and on what the reader says about one aggregate. -/
theorem process_congr (command : CanvasCommand) (hcatalog : service.catalog = service'.catalog)
    (hreader : service.stateReader action.sessionId command.canvasId command.strokeId =
      service'.stateReader action.sessionId command.canvasId command.strokeId) :
    command.process service action = command.process service' action := by
  cases command with
  | begin payload =>
    show service.begin action payload = service'.begin action payload
    unfold CanvasCommandService.begin
    rw [loadCanvas_congr payload.canvasId hcatalog,
      loadStroke_congr payload.canvasId payload.strokeId hreader]
  | append payload =>
    show service.append action payload = service'.append action payload
    unfold CanvasCommandService.append
    rw [loadCanvas_congr payload.canvasId hcatalog,
      loadRequiredStroke_congr payload.canvasId payload.strokeId hreader]
  | «end» payload =>
    show service.end action payload = service'.end action payload
    unfold CanvasCommandService.end
    rw [loadCanvas_congr payload.canvasId hcatalog,
      loadRequiredStroke_congr payload.canvasId payload.strokeId hreader]
  | cancel payload =>
    show service.cancel action payload = service'.cancel action payload
    unfold CanvasCommandService.cancel
    rw [loadCanvas_congr payload.canvasId hcatalog,
      loadRequiredStroke_congr payload.canvasId payload.strokeId hreader]
  | remove payload =>
    show service.remove action payload = service'.remove action payload
    unfold CanvasCommandService.remove
    rw [loadCanvas_congr payload.canvasId hcatalog,
      loadRequiredStroke_congr payload.canvasId payload.strokeId hreader]

/-- A decision on the log is the decision of the folding reader, over any log with the same facts
of the aggregate. -/
theorem process_foldingReader {command : CanvasCommand} {persisted persisted' : List Event}
    {drafts : List EventDraft} (hreads : service.ReadsLog persisted)
    (hhistory : (command.key action).history persisted' = (command.key action).history persisted)
    (h : command.process service action = .ok drafts) :
    command.process ⟨service.catalog, foldingReader persisted'⟩ action = .ok drafts := by
  obtain ⟨_, state, -, hstate, -⟩ := process_decided h
  have hfolds : foldingReader persisted action.sessionId command.canvasId command.strokeId =
      .ok state := by
    rcases hreads action.sessionId command.canvasId command.strokeId with hr | ⟨detail, hr⟩
    · exact hr ▸ hstate
    · rw [hr] at hstate
      cases hstate
  have hfolds' : foldingReader persisted' action.sessionId command.canvasId command.strokeId =
      .ok state := by
    rw [foldingReader_eq_ok, hhistory]
    exact foldingReader_eq_ok.mp hfolds
  let folding : CanvasCommandService := ⟨service.catalog, foldingReader persisted'⟩
  have hsame : command.process folding action = command.process service action :=
    command.process_congr rfl (hfolds'.trans hstate.symm)
  rw [hsame, h]

/-- What is materialized from a decision concerns the command's own aggregate only. -/
theorem history_materialize {command : CanvasCommand} {drafts : List EventDraft}
    (h : command.process service action = .ok drafts) (stamp : Nat → EventId × Timestamp)
    {key : StrokeKey} (hkey : command.key action ≠ key) (persisted : List Event) :
    key.history (persisted ++ ExecutionPhase.materialize action drafts stamp) =
      key.history persisted := by
  obtain ⟨_, state, -, -, hdecided⟩ := process_decided h
  rcases hdecided with ⟨hnone, -⟩ | ⟨draft, hone, hemits, -⟩
  · rw [hnone]
    exact congrArg _ (List.append_nil persisted)
  · rw [hone]
    exact hemits.history_eq_of_ne _ _ hkey

end CanvasCommand

/-- The logs have the same facts of every aggregate that the scope covers. -/
def SameScope (scope : ExecutionScope) (persisted persisted' : List Event) : Prop :=
  ∀ key : StrokeKey, key.strokeId.executionScope = scope →
    key.history persisted' = key.history persisted

/-- The command of the action is decided on the log and its events are appended to it, or their
dispatch failed. -/
def CanvasAtomic {ι : Type} (actions : ι → Action) (persisted : List Event)
    (commit : RuntimePorts.Commit ι) (persisted' : List Event) : Prop :=
  ∃ command catalog drafts stamp,
    CanvasCommand.ofAction (actions commit.call) = some command ∧
    command.process ⟨catalog, foldingReader persisted⟩ (actions commit.call) = .ok drafts ∧
    commit.events = ExecutionPhase.materialize (actions commit.call) drafts stamp ∧
    (persisted' = persisted ++ commit.events ∨
      persisted' = persisted ∧ ∃ e, commit.result = .error e)

section
variable {authorize : List Event → Action → Except AuthorizationError Unit → Prop}

theorem canvasPorts_namesScope {handler : CanvasHandler} {action : Action}
    {scope : ExecutionScope}
    (h : (canvasPorts authorize).NamesScope handler action scope) :
    ∃ command, CanvasCommand.ofAction action = some command ∧ handler.Serves action command ∧
      scope = command.strokeId.executionScope := by
  obtain ⟨hfound, _, hscope⟩ := h
  obtain ⟨command, hcommand, hserves, hsome⟩ := canvasRegistry_serves hfound hscope.symm
  exact ⟨command, hcommand, hserves, Option.some.inj hsome⟩

theorem CanvasHandler.Serves.process_of_handle {handler : CanvasHandler} {action : Action}
    {command : CanvasCommand} (h : handler.Serves action command)
    {service : CanvasCommandService} {drafts : List EventDraft}
    (hhandle : .ok drafts = handler.handle service action) :
    command.process service action = .ok drafts := by
  rw [h.handle] at hhandle
  exact Except.mapError_eq_ok.mp hhandle.symm

theorem canvasPorts_isolated : (canvasPorts authorize).Isolated SameScope where
  named := by
    intro _ handler action hfound hscope
    obtain ⟨command, -, -, hsome⟩ := canvasRegistry_serves hfound hscope.symm
    cases hsome
  decides := by
    intro persisted persisted' handler action scope drafts hnames hsame hhandle
    obtain ⟨command, -, hserves, hscope⟩ := canvasPorts_namesScope hnames
    obtain ⟨service, hreads, hdrafts⟩ := hhandle
    have hprocess := hserves.process_of_handle hdrafts
    have hhistory := hsame (command.key action) hscope.symm
    have hagain := CanvasCommand.process_foldingReader hreads hhistory hprocess
    refine ⟨⟨service.catalog, foldingReader persisted'⟩, fun _ _ _ => .inl rfl, ?_⟩
    rw [hserves.handle, hagain]
    rfl
  isolates := by
    intro _ before after handler action scope drafts stamp result hnames hhandle hdispatch other
      hother key hkey
    obtain ⟨command, -, hserves, hscope⟩ := canvasPorts_namesScope hnames
    obtain ⟨service, -, hdrafts⟩ := hhandle
    have hprocess := hserves.process_of_handle hdrafts
    have hne : command.key action ≠ key := by
      intro heq
      apply hother
      rw [← hkey, ← heq, hscope]
      rfl
    rcases hdispatch with happended | ⟨hsame, -⟩
    · rw [happended]
      exact CanvasCommand.history_materialize hprocess stamp hne before
    · rw [hsame]

variable {ι : Type} {actions : ι → Action}

theorem canvasAtomic_of_atomic {persisted persisted' : List Event}
    {commit : RuntimePorts.Commit ι}
    (h : (canvasPorts authorize).Atomic actions persisted commit persisted') :
    CanvasAtomic actions persisted commit persisted' := by
  obtain ⟨handler, scope, drafts, stamp, hnames, ⟨service, hreads, hdrafts⟩, hevents, hdispatch⟩ := h
  obtain ⟨command, hcommand, hserves, -⟩ := canvasPorts_namesScope hnames
  have hprocess := hserves.process_of_handle hdrafts
  exact ⟨command, service.catalog, drafts, stamp, hcommand,
    CanvasCommand.process_foldingReader hreads rfl hprocess, hevents, hdispatch⟩

/-- However the calls interleave, the log is what their commands make of it one after the other
in the order of the dispatches: each is decided on the very log it is appended to, no call
dispatches twice, and the events that a call returned are among them. -/
theorem concurrent_actions_serialize [DecidableEq ι]
    (log : List (RuntimePorts.Moment ι CanvasHandler))
    (calls : RuntimePorts.Calls ι (List Event) CanvasHandler)
    (hrun : (canvasPorts authorize).Run actions Projectable log calls) :
    (∃ persisted, Projectable persisted ∧ Transition.Serial (CanvasAtomic actions) persisted
      (RuntimePorts.commits log) calls.world) ∧
    ((RuntimePorts.commits log).map RuntimePorts.Commit.call).Nodup ∧
    ∀ i events, calls.locals i = .finished (.ok events) →
      ⟨i, events, .ok ()⟩ ∈ RuntimePorts.commits log := by
  obtain ⟨persisted, hstart, hserial⟩ := RuntimePorts.serial_of_run canvasPorts_isolated hrun
  obtain ⟨hcommitted, hnodup⟩ := RuntimePorts.committed_of_run hrun
  refine ⟨⟨persisted, hstart, hserial.mono fun _ _ _ => canvasAtomic_of_atomic⟩, hnodup, ?_⟩
  intro i events hfinished
  have hmine := hcommitted i
  rw [hfinished] at hmine
  exact hmine

end

/-- The two calls that contended for one Stroke are a begin and then an append. -/
theorem concurrent_actions_serialize_sample :
    ∃ persisted, Projectable persisted ∧ Transition.Serial (CanvasAtomic Sample.actions) persisted
      [⟨true, [Sample.began], .ok ()⟩, ⟨false, [Sample.appended], .ok ()⟩]
      [Sample.began, Sample.appended] := by
  obtain ⟨log, hrun, hcommits⟩ := Sample.both_finished
  obtain ⟨hserial, -, -⟩ := concurrent_actions_serialize log _ hrun
  rwa [hcommits] at hserial

end OrbitRelay
