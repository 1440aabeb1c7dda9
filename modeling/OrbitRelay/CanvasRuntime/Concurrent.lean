import OrbitRelay.CanvasRuntime.Handlers
import OrbitRelay.CanvasRuntime.Retry
import OrbitRelay.Runtime.Serial

/-! Concurrent Canvas actions over one persisted log. The decision is taken in `handle` and
persisted in `dispatch`; the lease of the Stroke's scope keeps the decision valid in between. -/
namespace OrbitRelay

/-- The service's reader folds the log, or is unavailable; its catalog answers anything. -/
def CanvasCommandService.ReadsLog (service : CanvasCommandService) (persisted : List Event) :
    Prop :=
  ∀ sessionId canvasId strokeId,
    service.stateReader sessionId canvasId strokeId =
      foldingReader persisted sessionId canvasId strokeId ∨
    ∃ detail, service.stateReader sessionId canvasId strokeId = .error (.unavailable detail)

/-- The ports of a runtime with the Canvas handlers: any authorizer, a coordinator, and a
pipeline that persists all or none of the events and may report a failure in both cases. -/
def canvasPorts (authorize : List Event → Action → Except AuthorizationError Unit → Prop) :
    RuntimePorts (List Event) CanvasHandler where
  registry := canvasRegistry
  validate _ handler action result := result = handler.validate action
  authorize := authorize
  executionScope _ handler action result := result = handler.executionScope action
  coordinated := true
  handle persisted handler action result := ∃ service : CanvasCommandService,
    service.ReadsLog persisted ∧ result = handler.handle service action
  dispatch persisted events result persisted' :=
    persisted' = persisted ++ events ∨ (persisted' = persisted ∧ ∃ e, result = .error e)

/-- The facts of every aggregate fold. -/
def Projectable (persisted : List Event) : Prop :=
  ∀ key : StrokeKey, ∃ state, StrokeProjector.fold (key.history persisted) = .ok state

namespace CanvasCommand

/-- What a call holds between its decision and its dispatch: nothing to persist because the
command is recorded, or one fact that the current state of its aggregate admits. -/
def Undispatched (command : CanvasCommand) (action : Action) (persisted events : List Event) :
    Prop :=
  (events = [] ∧ command.RecordedIn (command.key action) action.actorId persisted) ∨
  ∃ draft id now state, events = [draft.toEvent action id now] ∧ command.Emits draft ∧
    StrokeProjector.fold ((command.key action).history persisted) = .ok state ∧
    command.Admissible (command.key action) state

/-- Persisting the events keeps every aggregate projectable and records the command. -/
theorem Undispatched.persist {command : CanvasCommand} {action : Action}
    {persisted events : List Event} (h : command.Undispatched action persisted events)
    (hvalid : command.Valid) (hprojectable : Projectable persisted) :
    Projectable (persisted ++ events) ∧
      command.RecordedIn (command.key action) action.actorId (persisted ++ events) := by
  obtain ⟨rfl, hrecorded⟩ | ⟨draft, id, now, state, rfl, hemits, hfold, hadmissible⟩ := h
  · rw [List.append_nil]
    exact ⟨hprojectable, hrecorded⟩
  · obtain ⟨next, -, hnext, hr⟩ := hemits.fold_eq id now hvalid hadmissible hfold
    refine ⟨fun key => ?_, next, hnext, hr⟩
    by_cases hkey : command.key action = key
    · exact hkey ▸ ⟨some next, hnext⟩
    · rw [hemits.history_eq_of_ne id now hkey]
      exact hprojectable key

/-- Whatever is recorded stays recorded when the events are persisted. -/
theorem Undispatched.recordedIn {command recorded : CanvasCommand} {action : Action}
    {persisted events : List Event} (h : command.Undispatched action persisted events)
    (hvalid : command.Valid) {key : StrokeKey} {actorId : ActorId}
    (hrecorded : recorded.RecordedIn key actorId persisted) :
    recorded.RecordedIn key actorId (persisted ++ events) := by
  obtain ⟨rfl, -⟩ | ⟨draft, id, now, state, rfl, hemits, hfold, hadmissible⟩ := h
  · rwa [List.append_nil]
  · exact hrecorded.emitted id now hemits hvalid hadmissible hfold

/-- Events of another Stroke leave a decision valid. -/
theorem Undispatched.frame {command other : CanvasCommand} {action by_ : Action}
    {persisted events pending : List Event} (h : other.Undispatched by_ persisted events)
    (hvalid : other.Valid) (hstroke : other.strokeId ≠ command.strokeId)
    (hpending : command.Undispatched action persisted pending) :
    command.Undispatched action (persisted ++ events) pending := by
  obtain ⟨rfl, hrecorded⟩ | ⟨draft, id, now, state, rfl, hemits, hfold, hadmissible⟩ := hpending
  · exact .inl ⟨rfl, h.recordedIn hvalid hrecorded⟩
  · refine .inr ⟨draft, id, now, state, rfl, hemits, ?_, hadmissible⟩
    obtain ⟨rfl, -⟩ | ⟨draft', id', now', state', rfl, hemits', -, -⟩ := h
    · rwa [List.append_nil]
    · rw [hemits'.history_eq_of_ne id' now']
      · exact hfold
      · exact fun hkey => hstroke (congrArg StrokeKey.strokeId hkey)

/-- A decision of the service on the log is a valid decision of the call. -/
theorem undispatched_of_process {command : CanvasCommand} {action : Action}
    {persisted : List Event} {service : CanvasCommandService} {drafts : List EventDraft}
    (hreads : service.ReadsLog persisted) (h : command.process service action = .ok drafts)
    (stamp : Nat → EventId × Timestamp) :
    command.Undispatched action persisted (ExecutionPhase.materialize action drafts stamp) := by
  obtain ⟨_, state, -, hstate, hdecided⟩ := process_decided h
  have hfold : StrokeProjector.fold ((command.key action).history persisted) = .ok state := by
    rcases hreads action.sessionId command.canvasId command.strokeId with hr | ⟨detail, hr⟩
    · exact foldingReader_eq_ok.mp (hr ▸ hstate)
    · rw [hr] at hstate
      cases hstate
  obtain ⟨rfl, projection, rfl, -, hr⟩ | ⟨draft, rfl, hemits, hadmissible⟩ := hdecided
  · exact .inl ⟨rfl, projection, hfold, hr⟩
  · exact .inr ⟨draft, (stamp 0).1, (stamp 0).2, state, rfl, hemits, hfold, hadmissible⟩

end CanvasCommand

/-- The action's command, its validity and the handler that serves it are settled once the
scope is known. -/
structure ServedCommand (action : Action) (command : CanvasCommand) : Prop where
  ofAction : CanvasCommand.ofAction action = some command
  valid : command.Valid

/-- What is known of a call in each phase. -/
def CallInvariant (persisted : List Event) (action : Action) :
    ExecutionPhase CanvasHandler → Prop
  | .lookup => True
  | .validating handler | .authorizing handler | .scoping handler =>
    canvasRegistry action.actionType = some handler
  | .acquiring handler scope => ∃ command, ServedCommand action command ∧
      handler.Serves action command ∧ scope = command.strokeId.executionScope
  | .handling handler lease => ∃ command, ServedCommand action command ∧
      handler.Serves action command ∧ lease = some command.strokeId.executionScope
  | .dispatching lease events => ∃ command, ServedCommand action command ∧
      lease = some command.strokeId.executionScope ∧
      command.Undispatched action persisted events
  | .releasing _ (.ok _) | .finished (.ok _) => ∃ command, ServedCommand action command ∧
      command.RecordedIn (command.key action) action.actorId persisted
  | .releasing _ (.error _) | .finished (.error _) => True

/-- The change that a step makes to the log: none, or the events of a valid decision that
was taken under the lease of its Stroke. -/
def LogChange (action : Action) (phase : ExecutionPhase CanvasHandler)
    (persisted persisted' : List Event) : Prop :=
  persisted' = persisted ∨ ∃ command events, ServedCommand action command ∧
    phase.lease = some command.strokeId.executionScope ∧
    command.Undispatched action persisted events ∧ persisted' = persisted ++ events

theorem LogChange.projectable {action : Action} {phase : ExecutionPhase CanvasHandler}
    {persisted persisted' : List Event} (h : LogChange action phase persisted persisted')
    (hprojectable : Projectable persisted) : Projectable persisted' := by
  obtain rfl | ⟨command, events, hserved, -, hundispatched, rfl⟩ := h
  · exact hprojectable
  · exact (hundispatched.persist hserved.valid hprojectable).1

/-- The change made by one call keeps what is known of every call that holds another lease. -/
theorem LogChange.callInvariant {action other : Action}
    {phase phase' : ExecutionPhase CanvasHandler} {persisted persisted' : List Event}
    (h : LogChange action phase persisted persisted')
    (hlease : ∀ scope, phase.lease = some scope → phase'.lease ≠ some scope)
    (hinv : CallInvariant persisted other phase') : CallInvariant persisted' other phase' := by
  obtain rfl | ⟨command, events, hserved, hheld, hundispatched, rfl⟩ := h
  · exact hinv
  · cases phase' with
    | lookup => trivial
    | validating | authorizing | scoping | acquiring | handling => exact hinv
    | dispatching lease pending =>
      obtain ⟨command', hserved', rfl, hpending⟩ := hinv
      refine ⟨command', hserved', rfl, hundispatched.frame hserved.valid ?_ hpending⟩
      exact fun hstroke => hlease _ hheld (by rw [hstroke]; rfl)
    | releasing lease result | finished result =>
      cases result with
      | error e => trivial
      | ok pending =>
        obtain ⟨command', hserved', hrecorded⟩ := hinv
        exact ⟨command', hserved', hundispatched.recordedIn hserved.valid hrecorded⟩

section
variable {authorize : List Event → Action → Except AuthorizationError Unit → Prop}

/-- The mover's own step, phase by phase. -/
theorem callInvariant_advance {action : Action} {leased : ExecutionScope → Prop}
    {persisted persisted' : List Event} {phase phase' : ExecutionPhase CanvasHandler}
    {answer : PortAnswer CanvasHandler}
    (h : (canvasPorts authorize).Answers action leased persisted phase answer persisted')
    (hadvance : phase.advance action answer = some phase')
    (hprojectable : Projectable persisted) (hinv : CallInvariant persisted action phase) :
    LogChange action phase persisted persisted' ∧ CallInvariant persisted' action phase' := by
  cases h with
  | lookup =>
    change ExecutionPhase.advance action .lookup (.looked (canvasRegistry action.actionType)) =
      some phase' at hadvance
    cases hfound : canvasRegistry action.actionType <;> rw [hfound] at hadvance <;> cases hadvance
    · exact ⟨.inl rfl, trivial⟩
    · exact ⟨.inl rfl, hfound⟩
  | @validate handler result _ =>
    cases result <;> cases hadvance
    · exact ⟨.inl rfl, trivial⟩
    · exact ⟨.inl rfl, hinv⟩
  | @authorize handler result _ =>
    cases result <;> cases hadvance
    · exact ⟨.inl rfl, trivial⟩
    · exact ⟨.inl rfl, hinv⟩
  | @scope handler result hresult =>
    have hresult : result = handler.executionScope action := hresult
    cases result with
    | error e =>
      cases hadvance
      exact ⟨.inl rfl, trivial⟩
    | ok scope =>
      -- A Canvas handler always names a scope, the one of its Stroke.
      obtain ⟨command, hcommand, hserves, rfl⟩ := canvasRegistry_serves hinv hresult.symm
      cases hadvance
      exact ⟨.inl rfl, command, ⟨hcommand, hserves.valid⟩, hserves, rfl⟩
  | uncoordinated _ | refuse _ _ =>
    cases hadvance
    exact ⟨.inl rfl, trivial⟩
  | grant _ _ =>
    cases hadvance
    obtain ⟨command, hserved, hserves, rfl⟩ := hinv
    exact ⟨.inl rfl, command, hserved, hserves, rfl⟩
  | @handle handler lease result stamp hresult =>
    obtain ⟨service, hreads, rfl⟩ := hresult
    obtain ⟨command, hserved, hserves, rfl⟩ := hinv
    cases hresult : handler.handle service action with
    | error e =>
      rw [hresult] at hadvance
      cases hadvance
      exact ⟨.inl rfl, trivial⟩
    | ok drafts =>
      rw [hresult] at hadvance
      cases hadvance
      rw [hserves.handle, Except.mapError_eq_ok] at hresult
      exact ⟨.inl rfl, command, hserved, rfl,
        CanvasCommand.undispatched_of_process hreads hresult stamp⟩
  | @dispatch lease events result _ hdispatch =>
    obtain ⟨command, hserved, rfl, hundispatched⟩ := hinv
    rcases hdispatch with rfl | ⟨rfl, e, rfl⟩
    · refine ⟨.inr ⟨command, events, hserved, rfl, hundispatched, rfl⟩, ?_⟩
      cases result with
      | error e =>
        cases hadvance
        trivial
      | ok =>
        cases hadvance
        exact ⟨command, hserved, (hundispatched.persist hserved.valid hprojectable).2⟩
    · cases hadvance
      exact ⟨.inl rfl, trivial⟩
  | @release lease result =>
    cases hadvance
    cases result with
    | error e => exact ⟨.inl rfl, trivial⟩
    | ok events => exact ⟨.inl rfl, hinv⟩

variable {ι : Type} [DecidableEq ι] {actions : ι → Action}

/-- The invariant of concurrent Canvas actions. -/
structure CanvasInvariant (actions : ι → Action)
    (calls : RuntimePorts.Calls ι (List Event) CanvasHandler) : Prop where
  projectable : Projectable calls.world
  exclusive : RuntimePorts.Exclusive calls
  calls : ∀ i, CallInvariant calls.world (actions i) (calls.locals i)

theorem CanvasInvariant.step {calls calls' : RuntimePorts.Calls ι (List Event) CanvasHandler}
    (h : CanvasInvariant actions calls)
    (hstep : ((canvasPorts authorize).system actions Projectable).step calls calls') :
    CanvasInvariant actions calls' := by
  have hexclusive := h.exclusive.step hstep
  obtain ⟨i, answer, world, phase, hanswer, hadvance, rfl⟩ := hstep
  obtain ⟨hchange, hself⟩ :=
    callInvariant_advance hanswer hadvance h.projectable (h.calls i)
  refine ⟨hchange.projectable h.projectable, hexclusive, ?_⟩
  refine Transition.Network.forall_move
    (P := fun persisted j => CallInvariant persisted (actions j)) hself fun j hj => ?_
  exact hchange.callInvariant
    (fun scope hi hj' => hj (h.exclusive j i scope hj' hi)) (h.calls j)

theorem canvasInvariant_of_reachable
    {calls : RuntimePorts.Calls ι (List Event) CanvasHandler}
    (h : ((canvasPorts authorize).system actions Projectable).Reachable calls) :
    CanvasInvariant actions calls := by
  refine h.invariant (fun calls hinit => ?_) fun _ _ => CanvasInvariant.step
  refine ⟨hinit.1, RuntimePorts.Exclusive.of_init hinit, fun i => ?_⟩
  rw [hinit.2 i]
  trivial

/-- In every reachable state each aggregate's facts fold, no chunk index is persisted twice,
and every command whose execution returned `Ok` is reflected in the fold from then on. -/
theorem concurrent_actions_keep_histories (calls : RuntimePorts.Calls ι (List Event) CanvasHandler)
    (h : ((canvasPorts authorize).system actions Projectable).Reachable calls) :
    (∀ key : StrokeKey, ∃ state,
      StrokeProjector.fold (key.history calls.world) = .ok state) ∧
    (∀ key : StrokeKey, ((key.history calls.world).filterMap persistedChunkIndex).Nodup) ∧
    (∀ i events, calls.locals i = .finished (.ok events) →
      ∃ command, CanvasCommand.ofAction (actions i) = some command ∧
        ∀ later, Relation.ReflTransGen
          ((canvasPorts authorize).system actions Projectable).step calls later →
          command.RecordedIn (command.key (actions i)) (actions i).actorId later.world) := by
  have hinv := canvasInvariant_of_reachable h
  refine ⟨hinv.projectable, fun key => ?_, fun i events hfinished => ?_⟩
  · obtain ⟨state, hstate⟩ := hinv.projectable key
    cases state with
    | none =>
      rw [StrokeProjector.eq_nil_of_fold_none hstate]
      exact List.nodup_nil
    | some projection =>
      refine List.Nodup.of_map UInt64.toNat ?_
      rw [persistedChunkIndexes_of_fold hstate]
      exact List.nodup_range
  · have hcall := hinv.calls i
    rw [hfinished] at hcall
    obtain ⟨command, hserved, -⟩ := hcall
    refine ⟨command, hserved.ofAction, fun later hrun => ?_⟩
    have hlater := (canvasInvariant_of_reachable (h.trans hrun)).calls i
    rw [RuntimePorts.finished_of_run hrun hfinished] at hlater
    obtain ⟨command', hserved', hrecorded⟩ := hlater
    obtain rfl : command' = command :=
      Option.some.inj (hserved'.ofAction.symm.trans hserved.ofAction)
    exact hrecorded

end

/-! Two calls for one Stroke: one begins it, the other appends to it. -/
namespace Sample
open RuntimePorts

def ports : RuntimePorts (List Event) CanvasHandler :=
  canvasPorts fun _ _ result => result = .ok ()

def actions : Bool → Action
  | true => action
  | false => request 9 6 "canvas.stroke.append" appended.payload

def scope : ExecutionScope := StrokeId.executionScope (id 3)

/-- The phases of the begin and of the append over the log. -/
def calls (persisted : List Event) (begins appends : ExecutionPhase CanvasHandler) :
    Calls Bool (List Event) CanvasHandler :=
  ⟨persisted, fun | true => begins | false => appends⟩

section
variable {log : List (Moment Bool CanvasHandler)} {persisted persisted' : List Event}
  {begins appends phase : ExecutionPhase CanvasHandler} {answer : PortAnswer CanvasHandler}

theorem step_begin (hrun : ports.Run actions Projectable log (calls persisted begins appends))
    (hanswer : ports.Answers action (Leased (calls persisted begins appends)) persisted begins
      answer persisted')
    (hadvance : begins.advance action answer = some phase) :
    ports.Run actions Projectable (log ++ [⟨true, begins, answer⟩])
      (calls persisted' phase appends) := by
  have hmove : (calls persisted begins appends).move true persisted' phase =
      calls persisted' phase appends := by
    simp only [Transition.Network.move, calls, Transition.Network.mk.injEq, true_and]
    funext first
    cases first <;> rfl
  rw [← hmove]
  exact .step hrun hanswer hadvance

theorem step_append (hrun : ports.Run actions Projectable log (calls persisted begins appends))
    (hanswer : ports.Answers (actions false) (Leased (calls persisted begins appends)) persisted
      appends answer persisted')
    (hadvance : appends.advance (actions false) answer = some phase) :
    ports.Run actions Projectable (log ++ [⟨false, appends, answer⟩])
      (calls persisted' begins phase) := by
  have hmove : (calls persisted begins appends).move false persisted' phase =
      calls persisted' begins phase := by
    simp only [Transition.Network.move, calls, Transition.Network.mk.injEq, true_and]
    funext first
    cases first <;> rfl
  rw [← hmove]
  exact .step hrun hanswer hadvance

end

/-- The append waits for the lease while the begin is in its section. -/
theorem contended :
    ∃ log : List (Moment Bool CanvasHandler), ports.Run actions Projectable log
      (calls [] (.handling strokeBeginHandler (some scope)) (.acquiring strokeAppendHandler scope)) ∧
      commits log = [] := by
  have hstart : ports.Run actions Projectable [] (calls [] .lookup .lookup) :=
    .init ⟨fun _ => ⟨none, rfl⟩, fun first => by cases first <;> rfl⟩
  have hbegin₁ : ports.Run actions Projectable _
      (calls [] (.validating strokeBeginHandler) .lookup) :=
    step_begin hstart .lookup rfl
  have hbegin₂ := step_begin hbegin₁ (.validate rfl) rfl
  have hbegin₃ := step_begin hbegin₂ (.authorize rfl) rfl
  have hbegin₄ : ports.Run actions Projectable _
      (calls [] (.acquiring strokeBeginHandler scope) .lookup) :=
    step_begin hbegin₃ (.scope rfl) rfl
  have happend₁ : ports.Run actions Projectable _
      (calls [] (.acquiring strokeBeginHandler scope) (.validating strokeAppendHandler)) :=
    step_append hbegin₄ .lookup rfl
  have happend₂ := step_append happend₁ (.validate rfl) rfl
  have happend₃ := step_append happend₂ (.authorize rfl) rfl
  have happend₄ : ports.Run actions Projectable _
      (calls [] (.acquiring strokeBeginHandler scope) (.acquiring strokeAppendHandler scope)) :=
    step_append happend₃ (.scope rfl) rfl
  have hgranted := step_begin happend₄
    (.grant rfl fun ⟨first, hlease⟩ => by cases first <;> cases hlease) rfl
  exact ⟨_, hgranted, rfl⟩

/-- The append is decided on the log that the begin left. -/
theorem both_finished :
    ∃ log : List (Moment Bool CanvasHandler), ports.Run actions Projectable log
      (calls [began, appended] (.finished (.ok [began])) (.finished (.ok [appended]))) ∧
      commits log = [⟨true, [began], .ok ()⟩, ⟨false, [appended], .ok ()⟩] := by
  obtain ⟨log, hcontended, hnone⟩ := contended
  have hbegin₁ : ports.Run actions Projectable _
      (calls [] (.dispatching (some scope) [began]) (.acquiring strokeAppendHandler scope)) :=
    step_begin hcontended (.handle (fun _ => (id 4, ⟨0⟩))
      ⟨⟨catalog, foldingReader []⟩, fun _ _ _ => .inl rfl, rfl⟩) rfl
  have hpersisted : ports.dispatch [] [began] (.ok ()) [began] := .inl rfl
  have hbegin₂ := step_begin hbegin₁ (.dispatch hpersisted) rfl
  have hbegin₃ := step_begin hbegin₂ .release rfl
  have happend₁ := step_append hbegin₃
    (.grant rfl fun ⟨first, hlease⟩ => by cases first <;> cases hlease) rfl
  have happend₂ : ports.Run actions Projectable _
      (calls [began] (.finished (.ok [began])) (.dispatching (some scope) [appended])) :=
    step_append happend₁ (.handle (fun _ => (id 8, ⟨0⟩))
      ⟨⟨catalog, foldingReader [began]⟩, fun _ _ _ => .inl rfl, rfl⟩) rfl
  have hpersisted' : ports.dispatch [began] [appended] (.ok ()) [began, appended] := .inl rfl
  have happend₃ := step_append happend₂ (.dispatch hpersisted') rfl
  have happend₄ := step_append happend₃ .release rfl
  refine ⟨_, happend₄, ?_⟩
  unfold commits at hnone ⊢
  simp only [List.filterMap_append, hnone]
  rfl

end Sample

/-- Two calls that contended for one Stroke: both commands are recorded. -/
theorem concurrent_actions_keep_histories_sample :
    ∃ calls, (Sample.ports.system Sample.actions Projectable).Reachable calls ∧
      calls.world = [Sample.began, Sample.appended] ∧
      ∀ first, ∃ command, CanvasCommand.ofAction (Sample.actions first) = some command ∧
        command.RecordedIn (command.key (Sample.actions first)) (Sample.actions first).actorId
          [Sample.began, Sample.appended] := by
  obtain ⟨_, hrun, -⟩ := Sample.both_finished
  obtain ⟨-, -, hrecorded⟩ := concurrent_actions_keep_histories _ hrun.reachable
  refine ⟨_, hrun.reachable, rfl, fun first => ?_⟩
  cases first with
  | true =>
    obtain ⟨command, hcommand, hlater⟩ := hrecorded true _ rfl
    exact ⟨command, hcommand, hlater _ .refl⟩
  | false =>
    obtain ⟨command, hcommand, hlater⟩ := hrecorded false _ rfl
    exact ⟨command, hcommand, hlater _ .refl⟩

end OrbitRelay
