import OrbitRelay.CanvasRuntime.Command
import OrbitRelay.Runtime.Basic

/-! Runtime handler adapters for the five Canvas Stroke actions. -/
namespace OrbitRelay

def strokeBeginActionType : String := "canvas.stroke.begin"
def strokeAppendActionType : String := "canvas.stroke.append"
def strokeEndActionType : String := "canvas.stroke.end"
def strokeCancelActionType : String := "canvas.stroke.cancel"
def strokeRemoveActionType : String := "canvas.stroke.remove"

/-- Stable execution-coordination namespace for all Stroke aggregate commands. -/
def canvasStrokeExecutionNamespace : String := "canvas.stroke"

/-- The message that leaves the runtime names the kind of failure only. -/
def CanvasRuntimeError.toHandlerError : CanvasRuntimeError → HandlerError
  | .canvasNotFound _ => ⟨"Canvas was not found"⟩
  | .canvasSessionMismatch _ _ _ => ⟨"Canvas does not belong to the Action Session"⟩
  | .layerNotFound _ _ => ⟨"Canvas layer was not found"⟩
  | .catalogFailed _ => ⟨"Canvas catalog is unavailable"⟩
  | .stateReadFailed _ => ⟨"Canvas state is unavailable"⟩
  | .domainViolation _ => ⟨"Canvas command violated a domain rule"⟩
  | .projectionCorrupted _ => ⟨"Canvas projection is corrupted"⟩
  | .encodingFailed _ => ⟨"Canvas event encoding failed"⟩
  | .chunkIndexOverflow _ => ⟨"Canvas chunk index is exhausted"⟩

def decodeActionPayload (T : Type) [ValidatedPayload T] (action : Action) :
    Except HandlerError T :=
  (decodePayload action.payload).mapError fun _ => ⟨"invalid Canvas action payload"⟩

def strokeScope (strokeId : StrokeId) : Except HandlerError ExecutionScope :=
  (ExecutionScope.new canvasStrokeExecutionNamespace strokeId.toString).mapError fun _ =>
    ⟨"invalid Canvas execution scope"⟩

/-- A handler over the shared service. The service is an argument of `handle`, because its
ports may answer differently at every call. -/
structure CanvasHandler where
  validate : Action → Except HandlerError Unit
  executionScope : Action → Except HandlerError (Option ExecutionScope)
  handle : CanvasCommandService → Action → Except HandlerError (List EventDraft)

/-- What `define_handler!` expands to. -/
def defineHandler (T : Type) [ValidatedPayload T] (strokeId : T → StrokeId)
    (method : CanvasCommandService → Action → T → Except CanvasRuntimeError (List EventDraft)) :
    CanvasHandler where
  validate action := do
    let _ ← decodeActionPayload T action
    .ok ()
  executionScope action := do
    let payload ← decodeActionPayload T action
    let scope ← strokeScope (strokeId payload)
    .ok (some scope)
  handle service action := do
    let payload ← decodeActionPayload T action
    (method service action payload).mapError CanvasRuntimeError.toHandlerError

def strokeBeginHandler : CanvasHandler :=
  defineHandler StrokeBeginPayload (·.strokeId) CanvasCommandService.begin
def strokeAppendHandler : CanvasHandler :=
  defineHandler StrokeAppendPayload (·.strokeId) CanvasCommandService.append
def strokeEndHandler : CanvasHandler :=
  defineHandler StrokeEndPayload (·.strokeId) CanvasCommandService.end
def strokeCancelHandler : CanvasHandler :=
  defineHandler StrokeCancelPayload (·.strokeId) CanvasCommandService.cancel
def strokeRemoveHandler : CanvasHandler :=
  defineHandler StrokeRemovePayload (·.strokeId) CanvasCommandService.remove

/-- Registers exactly the five Canvas Stroke handlers in an existing registry. -/
def registerCanvasHandlers (registry : HandlerRegistry CanvasHandler) :
    Except RegistryError (HandlerRegistry CanvasHandler) := do
  let registry ← registry.register ⟨strokeBeginActionType⟩ strokeBeginHandler
  let registry ← registry.register ⟨strokeAppendActionType⟩ strokeAppendHandler
  let registry ← registry.register ⟨strokeEndActionType⟩ strokeEndHandler
  let registry ← registry.register ⟨strokeCancelActionType⟩ strokeCancelHandler
  registry.register ⟨strokeRemoveActionType⟩ strokeRemoveHandler

/-- The scope that every command on the Stroke is serialized under. -/
def StrokeId.executionScope (strokeId : StrokeId) : ExecutionScope :=
  ⟨canvasStrokeExecutionNamespace, strokeId.toString⟩

/-- A displayed identifier is never blank, so the scope always exists. -/
theorem strokeScope_eq (strokeId : StrokeId) :
    strokeScope strokeId = .ok (StrokeId.executionScope strokeId) := by
  have hnamespace : Text.isBlank canvasStrokeExecutionNamespace = false := by decide +kernel
  have hkey : Text.isBlank strokeId.toString = false := Uuid.isBlank_hyphenated _
  simp [strokeScope, ExecutionScope.new, hnamespace, hkey, StrokeId.executionScope]

/-- The handler serves the action as the command: it decodes the payload to that command,
serializes it under the Stroke's scope and runs the command's service method. -/
structure CanvasHandler.Serves (handler : CanvasHandler) (action : Action)
    (command : CanvasCommand) : Prop where
  valid : command.Valid
  executionScope : handler.executionScope action = .ok (some command.strokeId.executionScope)
  handle : ∀ service, handler.handle service action =
    (command.process service action).mapError CanvasRuntimeError.toHandlerError

/-- The command that an action of one of the five types carries. -/
def CanvasCommand.ofAction (action : Action) : Option CanvasCommand :=
  if action.actionType.value = strokeBeginActionType then
    (decodePayload action.payload).toOption.map begin
  else if action.actionType.value = strokeAppendActionType then
    (decodePayload action.payload).toOption.map append
  else if action.actionType.value = strokeEndActionType then
    (decodePayload action.payload).toOption.map «end»
  else if action.actionType.value = strokeCancelActionType then
    (decodePayload action.payload).toOption.map cancel
  else if action.actionType.value = strokeRemoveActionType then
    (decodePayload action.payload).toOption.map remove
  else none

/-- A handler that finds a scope serves the action as the command it carries. -/
theorem defineHandler_serves {T : Type} [ValidatedPayload T] {strokeId : T → StrokeId}
    {method : CanvasCommandService → Action → T → Except CanvasRuntimeError (List EventDraft)}
    (ofPayload : T → CanvasCommand)
    (hvalid : ∀ payload, validatePayload payload = .ok () → (ofPayload payload).Valid)
    (hstroke : ∀ payload, (ofPayload payload).strokeId = strokeId payload)
    (hmethod : ∀ service action payload,
      (ofPayload payload).process service action = method service action payload)
    {action : Action} {scope : Option ExecutionScope}
    (hof : CanvasCommand.ofAction action = (decodePayload action.payload).toOption.map ofPayload)
    (h : (defineHandler T strokeId method).executionScope action = .ok scope) :
    ∃ command, CanvasCommand.ofAction action = some command ∧
      (defineHandler T strokeId method).Serves action command ∧
      scope = some command.strokeId.executionScope := by
  obtain ⟨payload, hpayload, h⟩ := Except.bind_eq_ok.mp h
  have hdecoded := Except.mapError_eq_ok.mp hpayload
  rw [strokeScope_eq] at h
  have hcommand : CanvasCommand.ofAction action = some (ofPayload payload) := by
    rw [hof, hdecoded]
    rfl
  have hpassed := hvalid payload (validatePayload_of_decodePayload hdecoded)
  refine ⟨ofPayload payload, hcommand, ⟨hpassed, ?_, ?_⟩, ?_⟩
  · rw [hstroke]
    simp only [defineHandler, hpayload, Except.ok_bind, strokeScope_eq]
  · intro service
    simp only [defineHandler, hpayload, Except.ok_bind, hmethod]
  · rw [hstroke]
    exact (Except.ok.inj h).symm

/-- The registry that holds the five Canvas handlers and nothing else. -/
def canvasRegistry : HandlerRegistry CanvasHandler := fun actionType =>
  if actionType = ⟨strokeRemoveActionType⟩ then some strokeRemoveHandler
  else if actionType = ⟨strokeCancelActionType⟩ then some strokeCancelHandler
  else if actionType = ⟨strokeEndActionType⟩ then some strokeEndHandler
  else if actionType = ⟨strokeAppendActionType⟩ then some strokeAppendHandler
  else if actionType = ⟨strokeBeginActionType⟩ then some strokeBeginHandler
  else none

theorem registerCanvasHandlers_empty :
    registerCanvasHandlers (fun _ => none) = .ok canvasRegistry := rfl

/-- Whatever handler the registry finds serves the action as the command it carries. -/
theorem canvasRegistry_serves {action : Action} {handler : CanvasHandler}
    {scope : Option ExecutionScope} (hfound : canvasRegistry action.actionType = some handler)
    (hscope : handler.executionScope action = .ok scope) :
    ∃ command, CanvasCommand.ofAction action = some command ∧ handler.Serves action command ∧
      scope = some command.strokeId.executionScope := by
  unfold canvasRegistry at hfound
  split_ifs at hfound with h₁ h₂ h₃ h₄ h₅ <;> cases hfound
  · refine defineHandler_serves .remove (fun _ => id) (fun _ => rfl) (fun _ _ _ => rfl) ?_ hscope
    rw [CanvasCommand.ofAction, h₁]
    rfl
  · refine defineHandler_serves .cancel (fun _ => id) (fun _ => rfl) (fun _ _ _ => rfl) ?_ hscope
    rw [CanvasCommand.ofAction, h₂]
    rfl
  · refine defineHandler_serves .«end» (fun _ => id) (fun _ => rfl) (fun _ _ _ => rfl) ?_ hscope
    rw [CanvasCommand.ofAction, h₃]
    rfl
  · refine defineHandler_serves .append (fun _ => id) (fun _ => rfl) (fun _ _ _ => rfl) ?_ hscope
    rw [CanvasCommand.ofAction, h₄]
    rfl
  · refine defineHandler_serves .begin (fun _ => id) (fun _ => rfl) (fun _ _ _ => rfl) ?_ hscope
    rw [CanvasCommand.ofAction, h₅]
    rfl

end OrbitRelay
