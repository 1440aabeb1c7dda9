import OrbitRelay.Transport.Handshake
import OrbitRelay.Transport.Turns

/-! The actions of one connection: from the coordinator through the action queue to the worker,
and from there through the coordinator's event channel to the replies. -/
namespace OrbitRelay
open Pausing

abbrev ActionResult := Except TransportExecutionError (List Event)

/-- What an `ActionCompleted` event says. -/
structure Completion where
  requestId : MessageId
  actionId : ActionId
  result : ActionResult

def CoordinatorEvent.completion? : CoordinatorEvent → Option Completion
  | .actionCompleted requestId actionId result => some ⟨requestId, actionId, result⟩
  | _ => none

/-- The message that answers a completed action. -/
def Completion.reply (completion : Completion) : OutboundMessage :=
  match completion.result with
  | .ok events => .actionAcknowledgement
      ⟨completion.requestId, completion.actionId, events.map (·.id)⟩
  | .error error =>
    .error (.fromTransportError (some completion.requestId) (.execution error))

def ActionWorkerPhase.job : ActionWorkerPhase → Option ActionJob
  | executing job => some job
  | _ => none

/-- The completion of a job with a result. -/
def ActionJob.completion (job : ActionJob) (result : ActionResult) : Completion :=
  ⟨job.requestId, job.action.id, result⟩

/-- The job that the worker passes to the executor in this step. -/
def executedIn : Session × SessionAction → Option ActionJob
  | (s, .task (.actionWorker .receive)) => s.world.actionQueue.recv.map Prod.fst
  | _ => none

/-- The job whose execution ends in this step, with its result. -/
def completedIn : Session × SessionAction → Option (ActionJob × ActionResult)
  | (s, .task (.actionWorker (.executed result))) => s.world.actionWorker.job.map (·, result)
  | _ => none

/-- The jobs that were passed to the executor, in order. -/
def executed (log : Session.Log) : List ActionJob := log.filterMap executedIn

def completed (log : Session.Log) : List (ActionJob × ActionResult) := log.filterMap completedIn

/-- The jobs that the action queue took, in order. -/
def admitted (h : CoordinatorTrace) : List ActionJob := h.filterMap actionOf

section Worker
variable {w w' : World} {choice : ActionWorkerChoice} {send : Option Send}

/-- The moves of the action worker. -/
theorem moveActionWorker_cases (h : w.moveActionWorker choice = some (w', send)) :
    (choice = .cancelled ∧ w.cancelled = true ∧ w' = { w with actionWorker := .finished } ∧
      send = none) ∨
    (∃ job channel, choice = .receive ∧ w.actionWorker = .receiving ∧
      w.actionQueue.recv = some (job, channel) ∧
      w' = { w with actionWorker := .executing job, actionQueue := channel } ∧ send = none) ∨
    (choice = .receive ∧ w.actionWorker = .receiving ∧ w.actionQueue.recv = none ∧
      w' = { w with actionWorker := .finished } ∧ send = none) ∨
    (∃ job result, choice = .executed result ∧ w.actionWorker = .executing job ∧
      w' = { w with actionWorker := .reported } ∧
      send = some (.event (.actionCompleted job.requestId job.action.id result))) ∨
    (choice = .resume ∧ w.actionWorker = .reported ∧
      w' = { w with actionWorker := .receiving } ∧ send = none) := by
  unfold World.moveActionWorker at h
  split at h
  case h_1 | h_2 =>
    split at h <;> cases h
    exact .inl ⟨rfl, ‹_›, rfl, rfl⟩
  case h_3 hphase =>
    split at h
    · cases h
      exact .inr (.inl ⟨_, _, rfl, hphase, ‹_›, rfl, rfl⟩)
    · split at h <;> cases h
      exact .inr (.inr (.inl ⟨rfl, hphase, ‹_›, rfl, rfl⟩))
  case h_4 job result hphase =>
    cases h
    exact .inr (.inr (.inr (.inl ⟨job, result, rfl, hphase, rfl, rfl⟩)))
  case h_5 hphase =>
    cases h
    exact .inr (.inr (.inr (.inr ⟨rfl, hphase, rfl, rfl⟩)))
  case h_6 => cases h

end Worker

section Flow
variable {settings : SessionSettings} {log : Session.Log} {s s' : Session}

/-- Where the actions of a run are. -/
structure ActionFlow (log : Session.Log) (s : Session) : Prop where
  own : s.world.TellOwn
  queued : admitted s.trace = executed log ++ s.world.actionQueue.contents
  executing : s.world.cancelled = false →
    executed log = (completed log).map Prod.fst ++ s.world.actionWorker.job.toList
  told : (completed log).map (fun c => c.1.completion c.2) =
    (s.trace.filterMap eventOf).filterMap CoordinatorEvent.completion? ++
      s.world.eventChannel.contents.filterMap CoordinatorEvent.completion?

/-- Only the action worker tells of completed actions. -/
theorem completion_eq_none {event : CoordinatorEvent} {task : TaskId}
    (hsent : event.sentBy task = true) (htask : task ≠ .actionWorker) :
    event.completion? = none := by
  cases event with
  | actionCompleted requestId actionId result =>
    cases task with
    | actionWorker => exact absurd rfl htask
    | _ => cases hsent
  | _ => rfl

/-- What a step of a task does to the actions. -/
structure ActionStep (settings : SessionSettings) (s : Session) (action : TaskAction) (w : World) :
    Prop where
  queue : s.world.actionQueue.contents =
    (executedIn (s, .task action)).toList ++ w.actionQueue.contents
  job : s.world.cancelled = false →
    s.world.actionWorker.job.toList ++ (executedIn (s, .task action)).toList =
      ((completedIn (s, .task action)).map Prod.fst).toList ++ w.actionWorker.job.toList
  told : (s.world.told settings action).bind CoordinatorEvent.completion? =
    (completedIn (s, .task action)).map fun c => c.1.completion c.2

theorem actionStep_of_other {action : TaskAction} {w : World} (hown : s.world.TellOwn)
    (hstep : s.world.taskStep settings action = some w) (haction : action.task ≠ .actionWorker) :
    ActionStep settings s action w := by
  have hentry : executedIn (s, .task action) = none ∧ completedIn (s, .task action) = none := by
    cases action with
    | actionWorker choice => exact absurd rfl haction
    | _ => exact ⟨rfl, rfl⟩
  obtain ⟨hworker, hqueue⟩ := actions_taskStep hstep haction
  constructor
  case queue =>
    rw [hentry.1, hqueue]
    rfl
  case job =>
    intro _
    rw [hentry.1, hentry.2, hworker]
    exact List.append_nil _
  case told =>
    rw [hentry.2]
    cases hevent : s.world.told settings action with
    | none => rfl
    | some event => exact completion_eq_none (sentBy_of_told hown hevent) haction

theorem actionStep_of_worker {choice : ActionWorkerChoice} {w : World}
    (hstep : s.world.taskStep settings (.actionWorker choice) = some w) :
    ActionStep settings s (.actionWorker choice) w := by
  obtain ⟨-, moved, send, hmove, rfl⟩ := World.taskStep_eq_some hstep
  have htold : s.world.told settings (.actionWorker choice) = send.bind Send.told := by
    rw [World.told, hmove]
    rfl
  rcases moveActionWorker_cases hmove with ⟨rfl, hcancelled, rfl, rfl⟩ |
    ⟨job, channel, rfl, hphase, hrecv, rfl, rfl⟩ | ⟨rfl, hphase, hrecv, rfl, rfl⟩ |
    ⟨job, result, rfl, hphase, rfl, rfl⟩ | ⟨rfl, hphase, rfl, rfl⟩
  · refine ⟨rfl, fun hlive => ?_, by rw [htold]; rfl⟩
    rw [hlive] at hcancelled
    cases hcancelled
  · refine ⟨?_, fun _ => ?_, by rw [htold]; rfl⟩
    · rw [executedIn, hrecv]
      exact Channel.contents_recv hrecv
    · rw [executedIn, hrecv, hphase]
      rfl
  · refine ⟨?_, fun _ => ?_, by rw [htold]; rfl⟩
    · rw [executedIn, hrecv]
      rfl
    · rw [executedIn, hrecv, hphase]
      rfl
  · refine ⟨rfl, fun _ => ?_, ?_⟩
    · rw [completedIn, hphase]
      rfl
    · rw [htold, completedIn, hphase]
      rfl
  · refine ⟨rfl, fun _ => ?_, by rw [htold]; rfl⟩
    rw [hphase]
    rfl

theorem actionStep_of_taskStep {action : TaskAction} {w : World} (hown : s.world.TellOwn)
    (hstep : s.world.taskStep settings action = some w) : ActionStep settings s action w := by
  cases action with
  | actionWorker choice => exact actionStep_of_worker hstep
  | _ => exact actionStep_of_other hown hstep nofun

theorem ActionFlow.task (hflow : ActionFlow log s) {action : TaskAction} {w : World}
    (hstep : s.world.taskStep settings action = some w) :
    ActionFlow (log ++ [(s, .task action)]) { s with world := w } := by
  obtain ⟨hqueue, hjob, htold⟩ := actionStep_of_taskStep hflow.own hstep
  constructor
  case own => exact hflow.own.taskStep hstep
  case queued =>
    rw [executed, List.filterMap_snoc, List.append_assoc, ← hqueue]
    exact hflow.queued
  case executing =>
    intro hlive
    have hbefore := live_of_taskStep hstep hlive
    have hexecuting := hflow.executing hbefore
    rw [executed, List.filterMap_snoc, completed, List.filterMap_snoc, ← executed, ← completed,
      hexecuting, List.append_assoc, hjob hbefore, List.map_append, List.append_assoc]
    cases completedIn (s, .task action) <;> rfl
  case told =>
    rw [completed, List.filterMap_snoc, ← completed, List.map_append, hflow.told,
      contents_taskStep hstep, List.filterMap_append, Option.filterMap_toList, htold,
      List.append_assoc]
    cases completedIn (s, .task action) <;> rfl

theorem ActionFlow.exchange (hflow : ActionFlow log s) {choice : CoordinatorChoice}
    (hstep : s.step settings (.coordinator choice) = some s') :
    ActionFlow (log ++ [(s, .coordinator choice)]) s' := by
  obtain ⟨p, a, w, -, hrespond, rfl⟩ := Session.step_coordinator_eq_some hstep
  have hresponded := responded_of_respond hrespond p.state
  have hexecuted : executed (log ++ [(s, .coordinator choice)]) = executed log := by
    rw [executed, List.filterMap_snoc]
    exact List.append_nil _
  have hcompleted : completed (log ++ [(s, .coordinator choice)]) = completed log := by
    rw [completed, List.filterMap_snoc]
    exact List.append_nil _
  constructor
  case own => exact hflow.own.responded hresponded
  case queued =>
    rw [admitted, List.filterMap_snoc, ← admitted, hflow.queued, hexecuted, hresponded.actions,
      List.append_assoc]
  case executing =>
    intro hlive
    rw [hexecuted, hcompleted, hresponded.actionWorker]
    exact hflow.executing (hresponded.live hlive)
  case told =>
    rw [hcompleted, hflow.told, List.filterMap_snoc, hresponded.events, List.filterMap_append,
      List.filterMap_append, List.append_assoc]

theorem actionFlow_of_run {id : ConnectionId} {metadata : Metadata}
    (hrun : Session.Run settings id metadata log s) : ActionFlow log s := by
  refine hrun.run.invariant ⟨World.tellOwn_start, rfl, fun _ => rfl, rfl⟩
    fun log s action s' hflow hstep => ?_
  cases action with
  | coordinator choice => exact hflow.exchange hstep
  | task action =>
    obtain ⟨w, htask, rfl⟩ := Option.map_eq_some_iff.mp hstep
    exact hflow.task htask

end Flow

section Replies

def CoordinatorInput.completion? : CoordinatorInput → Option Completion
  | .event (some told) => told.completion?
  | _ => none

/-- The messages that were queued in a turn for a completed action. -/
def Turn.actionReplies (turn : Turn) : List OutboundMessage :=
  if turn.input.completion?.isSome then turn.queued else []

/-- The messages that were queued for completed actions, in order. -/
def actionReplies (h : CoordinatorTrace) : List OutboundMessage :=
  (turnsOf h).turns.flatMap Turn.actionReplies

/-- The completions that the coordinator received, in order. -/
def completions (h : CoordinatorTrace) : List Completion :=
  (h.filterMap eventOf).filterMap CoordinatorEvent.completion?

/-- A turn for a completed action queues its reply, and nothing else. -/
def actionTurns : TurnSpec where
  pre _ := True
  rely _ _ _ := True
  asks turn _ := ∀ completion ∈ turn.input.completion?, turn.queued = []
  done turn := ∀ completion ∈ turn.input.completion?, turn.queued = [completion.reply]

theorem completion_eq_some {input : CoordinatorInput} {completion : Completion}
    (h : input.completion? = some completion) :
    input = .event (some (.actionCompleted completion.requestId completion.actionId
      completion.result)) := by
  cases input with
  | event event =>
    cases event with
    | none => cases h
    | some told =>
      cases told with
      | actionCompleted requestId actionId result =>
        cases h
        rfl
      | _ => cases h
  | _ => cases h

/-- The reply is asked for with nothing queued before, and its refusal ends the loop. -/
theorem actionTurns_reply {s : Coordinator} {input : CoordinatorInput} {item : Enqueue}
    (hitem : ∀ completion ∈ input.completion?,
      [⟨s, .enqueue item, true⟩].filterMap messageOf = [completion.reply]) :
    (enqueue item).wp (actionTurns.body s input) (fun queued => (orSlowConsumer queued).wp
      (actionTurns.body s input)
      (fun control es _ => control = .next → actionTurns.done ⟨s, input, es⟩)) [] s := by
  simp only [wp_enqueue, wp_orSlowConsumer]
  refine ⟨⟨rfl, fun _ _ => rfl⟩, fun queued _ => ⟨fun hqueued _ => ?_, fun _ => of_stop⟩⟩
  subst hqueued
  exact hitem

theorem actionTurns_body {settings : SessionSettings} (s : Coordinator)
    (input : CoordinatorInput) :
    (handleInput settings input).wp (actionTurns.body s input)
      (fun control es _ => control = .next → actionTurns.done ⟨s, input, es⟩) [] s := by
  cases hcompletion : input.completion? with
  | none =>
    apply TurnSpec.body_wp_of_free
    · intro es q _ completion hmem
      rw [hcompletion] at hmem
      cases hmem
    · intro es completion hmem
      rw [hcompletion] at hmem
      cases hmem
  | some completion =>
    obtain rfl := completion_eq_some hcompletion
    obtain ⟨requestId, actionId, result⟩ := completion
    cases result with
    | ok events =>
      simp only [handleInput, handleCoordinatorEvent, Proc.wp_bind, Proc.wp_get]
      apply actionTurns_reply
      intro completion hmem
      cases hmem
      rfl
    | error error =>
      simp only [handleInput, handleCoordinatorEvent, Proc.wp_bind, Proc.wp_get]
      apply actionTurns_reply
      intro completion hmem
      cases hmem
      rfl

theorem flatMap_actionReplies {turns : List Turn}
    (h : ∀ turn ∈ turns, actionTurns.done turn) :
    turns.flatMap Turn.actionReplies =
      (turns.filterMap fun turn => turn.input.completion?).map Completion.reply := by
  induction turns with
  | nil => rfl
  | cons turn rest ih =>
    have hrest := ih fun turn hturn => h turn (List.mem_cons_of_mem _ hturn)
    rw [List.flatMap_cons, hrest]
    cases hcompletion : turn.input.completion? with
    | none => simp [Turn.actionReplies, hcompletion]
    | some completion =>
      have hqueued := h turn List.mem_cons_self completion hcompletion
      simp [Turn.actionReplies, hcompletion, hqueued]

/-- The turns for completed actions are those in which a completion was received. -/
theorem filterMap_turnsOf (h : CoordinatorTrace) :
    ((turnsOf h).turns.filterMap fun turn => turn.input.completion?) = completions h := by
  rw [completions, ← events_turnsOf, List.filterMap_filterMap]
  congr 1
  funext turn
  rcases turn.input with _ | (_ | told) | _ <;> rfl

/-- A reply is missing only for the completion of the current turn. -/
theorem actionReplies_isPrefix {h : CoordinatorTrace} {s : Coordinator} {q : CoordinatorRequest}
    (hturns : actionTurns.contract.guarantee h s q) :
    actionReplies h <+: (completions h).map Completion.reply ∧
      (q.isSelect = true → actionReplies h = (completions h).map Completion.reply) := by
  obtain ⟨hearlier, hcurrent⟩ := hturns
  have hall (hdone : ∀ turn ∈ (turnsOf h).current, actionTurns.done turn) :
      actionReplies h = (completions h).map Completion.reply := by
    rw [← filterMap_turnsOf]
    refine flatMap_actionReplies fun turn hturn => ?_
    rcases List.mem_append.mp hturn with hturn | hturn
    · exact hearlier turn hturn
    · exact hdone turn (Option.mem_toList.mp hturn)
  refine ⟨?_, fun hselect => hall fun turn hturn => (hcurrent turn hturn).1 hselect⟩
  cases hselect : q.isSelect with
  | true =>
    have hreplies := hall fun turn hturn => (hcurrent turn hturn).1 hselect
    exact hreplies ▸ List.prefix_refl _
  | false =>
    -- In the middle of a turn for a completion nothing was queued in it so far.
    rw [← filterMap_turnsOf, actionReplies, TurnLog.turns, List.flatMap_append,
      List.filterMap_append, List.map_append, flatMap_actionReplies hearlier]
    refine List.prefix_append_right_inj _ |>.mpr ?_
    cases hturn : (turnsOf h).current with
    | none => exact List.prefix_refl _
    | some turn =>
      have hqueued := (hcurrent turn hturn).2 hselect
      cases hcompletion : turn.input.completion? with
      | none => simp [Turn.actionReplies, hcompletion]
      | some completion => simp [Turn.actionReplies, hcompletion, hqueued completion hcompletion]

end Replies

section Session
variable {settings : SessionSettings} {id : ConnectionId} {metadata : Metadata}

def sampleActionText : List UInt8 :=
  ["\x7b\"kind\":\"action\",\"payload\":\x7b\"version\":",
    "\x7b\"major\":0,\"minor\":1,\"patch\":0\x7d,\"message_id\":",
    "\"00000000-0000-0000-0000-000000000000\",\"message_type\":\"action\",\"payload\":",
    "\x7b\"id\":\"00000000-0000-0000-0000-000000000000\",\"session_id\":",
    "\"00000000-0000-0000-0000-000000000000\",\"actor_id\":",
    "\"00000000-0000-0000-0000-000000000000\",\"action_type\":\"draw\",\"requested_at\":",
    "\"1970-01-01T00:00:00Z\",\"payload\":\x7b\x7d,\"metadata\":\x7b\x7d\x7d\x7d\x7d"].flatMap utf8

def sampleEnvelope : MessageEnvelope Action where
  version := currentProtocolVersion
  messageId := sampleId .message
  messageType := ⟨"action"⟩
  payload := ⟨sampleId .action, sampleId .session, sampleId .actor, ⟨"draw"⟩, ⟨0⟩, ⟨[]⟩, ⟨[]⟩⟩

/-- The codec of the other runs, which also reads the action. -/
def sampleActionCodec : MessageCodec :=
  { sampleCodec with
    decodeInbound := fun bytes =>
      if bytes = sampleActionText then .ok (.action sampleEnvelope)
      else sampleCodec.decodeInbound bytes }

def sampleActionSettings : SessionSettings :=
  { sampleSettings 1 4 with bootstrapCodec := sampleActionCodec, codec := sampleActionCodec }

end Session
end OrbitRelay
