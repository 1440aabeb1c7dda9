import OrbitRelay.Transport.Coordinator

/-! The child tasks of a session and the channels they share with the coordinator. A move of a
task is its code from one await to the next; a send to the coordinator parks the task while
the channel is full, and a cancelled token is noticed only where the code selects on it. -/
namespace OrbitRelay

/-- A received WebSocket frame. -/
inductive Frame
  | text (bytes : List UInt8)
  | binary (bytes : List UInt8)
  | ping (payload : List UInt8)
  | pong
  | close
  | raw

/-- A send towards the coordinator. -/
inductive Send
  | reader (event : ReaderEvent)
  | event (event : CoordinatorEvent)

/-- `run_reader` and the task around it. After `sent` it reads on or stops. -/
inductive ReaderPhase
  | reading
  | sent (stop : Bool)
  | reported
  | finished

/-- `run_reader` has returned, so its sender is gone. -/
def ReaderPhase.senderDropped : ReaderPhase → Bool
  | reported | finished => true
  | reading | sent _ => false

inductive ReaderChoice
  | cancelled
  | next (frame : Option (Except String Frame))
  | resume

def readerMove (cancelled : Bool) (maxMessageBytes : Nat) :
    ReaderPhase → ReaderChoice → Option (ReaderPhase × Option Send)
  | .reading, .cancelled => if cancelled then some (.finished, none) else none
  | .reading, .next none => some (.sent true, some (.reader .closed))
  | .reading, .next (some (.error error)) =>
    some (.reported, some (.event (.readerFailed ("WebSocket reader failed: " ++ error))))
  | .reading, .next (some (.ok (.text bytes))) =>
    if bytes.length > maxMessageBytes then some (.sent true, some (.reader .oversized))
    else some (.sent false, some (.reader (.text bytes)))
  | .reading, .next (some (.ok (.binary bytes))) =>
    if bytes.length > maxMessageBytes then some (.sent true, some (.reader .oversized))
    else some (.sent true, some (.reader .binary))
  | .reading, .next (some (.ok (.ping payload))) =>
    some (.sent false, some (.reader (.nativePing payload)))
  | .reading, .next (some (.ok .pong)) => some (.sent false, some (.reader .nativePong))
  | .reading, .next (some (.ok .close)) => some (.sent true, some (.reader .closed))
  | .reading, .next (some (.ok .raw)) => some (.reading, none)
  | .sent false, .resume => some (.reading, none)
  | .sent true, .resume => some (.finished, none)
  | .reported, .resume => some (.finished, none)
  | _, _ => none

/-- A bounded operation on the sink. -/
inductive WriteOperation
  | text | nativePing | nativePong | closeFrame | sinkClose

def WriteOperation.name : WriteOperation → String
  | text => "text write"
  | nativePing => "native ping write"
  | nativePong => "native pong write"
  | closeFrame => "close frame write"
  | sinkClose => "sink close"

inductive WriteOutcome
  | completed
  | failed (error : String)
  | elapsed

/-- `run_writer`. -/
inductive WriterPhase
  | receiving
  | writing (operation : WriteOperation)
  | reported
  | finished

inductive WriterChoice
  | cancelled
  | receive
  | written (outcome : WriteOutcome)
  | resume

def isUtf8 (bytes : List UInt8) : Bool := ByteArray.validateUTF8 ⟨bytes.toArray⟩

/-- `writer_loop` ends with an error, which `run_writer` reports. -/
def writerFailure (error : WebSocketAdapterError) : WriterPhase × Option Send :=
  (.reported, some (.event (.writerFailed error)))

/-- Starts to write a command, or fails to encode it. -/
def beginWrite : WriterCommand → WriterPhase × Option Send
  | .application message codec =>
    match codec.encodeOutbound message with
    | .error error => writerFailure (.codec error)
    | .ok encoded =>
      if isUtf8 encoded then (.writing .text, none)
      else writerFailure (.task "outbound codec returned non-UTF-8 JSON bytes")
  | .nativePing _ => (.writing .nativePing, none)
  | .nativePong _ => (.writing .nativePong, none)
  | .close => (.writing .closeFrame, none)

def endWrite (timeoutMilliseconds : UInt64) (operation : WriteOperation) :
    WriteOutcome → WriterPhase × Option Send
  | .failed error =>
    writerFailure (.task ("WebSocket " ++ operation.name ++ " failed: " ++ error))
  | .elapsed => writerFailure (.writeTimeout operation.name timeoutMilliseconds)
  | .completed =>
    match operation with
    | .text | .nativePing | .nativePong => (.receiving, none)
    | .closeFrame => (.writing .sinkClose, none)
    | .sinkClose => (.finished, none)

/-- `run_action_worker`. -/
inductive ActionWorkerPhase
  | receiving
  | executing (job : ActionJob)
  | reported
  | finished

inductive ActionWorkerChoice
  | cancelled
  | receive
  | executed (result : Except TransportExecutionError (List Event))
  | resume

/-- `run_query_worker`; it is absent without a query executor. -/
inductive QueryWorkerPhase
  | absent
  | selecting
  | reported
  | draining
  | finished

/-- A query in the worker's `JoinSet`. -/
inductive QueryTask
  | running (job : QueryJob)
  | done (response : Option QueryResponse)

def QueryTask.isDone : QueryTask → Bool
  | running _ => false
  | done _ => true

inductive QueryWorkerChoice
  | cancelled
  | joined (index : Nat)
  | receive
  | resume
  | drained
  | aborted (index : Nat)

/-- `run_event_pump`. While `telling` it is about to send to the coordinator. -/
inductive PumpPhase
  | polling
  | telling (event : CoordinatorEvent) (close : Bool)
  | reported (close : Bool)
  | closing
  | finished

structure Pump where
  id : TransportSubscriptionId
  version : Version
  codec : MessageCodec
  cancelled : Bool
  phase : PumpPhase

inductive PumpChoice
  | cancelled
  | next (result : Except EventSourceError (Option Event)) (messageId : MessageId)
  | tell
  | resume
  | closed

/-- The channels, the cancellation token and the child tasks. -/
structure World where
  readerChannel : Channel TaskId ReaderEvent
  eventChannel : Channel TaskId CoordinatorEvent
  writerChannel : Channel TaskId WriterCommand
  actionQueue : Channel TaskId ActionJob
  queryQueue : Channel TaskId QueryJob
  cancelled : Bool
  sendersDropped : Bool
  reader : ReaderPhase
  writer : WriterPhase
  actionWorker : ActionWorkerPhase
  queryWorker : QueryWorkerPhase
  queryTasks : List QueryTask
  pumps : List Pump

namespace World

def start (settings : SessionSettings) : World where
  readerChannel := .new settings.config.inboundCapacity
  eventChannel := .new settings.config.inboundCapacity
  writerChannel := .new settings.config.transport.outboundCapacity
  actionQueue := .new settings.config.actionQueueCapacity
  queryQueue := .new settings.config.queryQueueCapacity
  cancelled := false
  sendersDropped := false
  reader := .reading
  writer := .receiving
  actionWorker := .receiving
  queryWorker := if settings.hasQueryExecutor then .selecting else .absent
  queryTasks := []
  pumps := []

/-- The task has ended, so that a join returns. -/
def Finished (w : World) : TaskId → Bool
  | .reader => match w.reader with | .finished => true | _ => false
  | .writer => match w.writer with | .finished => true | _ => false
  | .actionWorker => match w.actionWorker with | .finished => true | _ => false
  | .queryWorker => match w.queryWorker with | .finished => true | _ => false
  | .queryTask index => match w.queryTasks[index]? with | some (.done _) => true | _ => false
  | .pump index => match w.pumps[index]? with | some ⟨_, _, _, _, .finished⟩ => true | _ => false

/-- The task waits in a send to the coordinator for which there is no room. The receivers live
until every task was joined, so a send never fails. -/
def Blocked (w : World) (task : TaskId) : Prop :=
  w.readerChannel.Parked task ∨ w.eventChannel.Parked task

instance (w : World) (task : TaskId) : Decidable (w.Blocked task) :=
  inferInstanceAs (Decidable (_ ∨ _))

/-- Carries out the send of a task. -/
def deliver (w : World) (task : TaskId) : Option Send → World
  | none => w
  | some (.reader event) => { w with readerChannel := w.readerChannel.send task event }
  | some (.event event) => { w with eventChannel := w.eventChannel.send task event }

/-- The channel of the send has room. -/
def HasRoomFor (w : World) : Send → Prop
  | .reader _ => w.readerChannel.HasRoom
  | .event _ => w.eventChannel.HasRoom

/-- A returning writer drops its receiver. -/
def setWriter (w : World) (phase : WriterPhase) : World :=
  match phase with
  | .finished => { w with writer := .finished, writerChannel := w.writerChannel.close }
  | phase => { w with writer := phase }

def moveWriter (settings : SessionSettings) (w : World) (choice : WriterChoice) :
    Option (World × Option Send) :=
  match w.writer, choice with
  | .receiving, .cancelled | .writing _, .cancelled =>
    if w.cancelled then some (w.setWriter .finished, none) else none
  | .receiving, .receive =>
    -- The select is biased, so a cancelled writer takes no further command.
    if w.cancelled then none
    else
      match w.writerChannel.recv with
      | none => none
      | some (command, channel) =>
        let (phase, send) := beginWrite command
        some ({ w with writer := phase, writerChannel := channel }, send)
  | .writing operation, .written outcome =>
    if w.cancelled then none
    else
      let (phase, send) := endWrite settings.config.writeTimeoutMilliseconds operation outcome
      some (w.setWriter phase, send)
  | .reported, .resume => some ({ w with cancelled := true }.setWriter .finished, none)
  | _, _ => none

def moveActionWorker (w : World) (choice : ActionWorkerChoice) : Option (World × Option Send) :=
  match w.actionWorker, choice with
  | .receiving, .cancelled | .executing _, .cancelled =>
    if w.cancelled then some ({ w with actionWorker := .finished }, none) else none
  | .receiving, .receive =>
    match w.actionQueue.recv with
    | some (job, channel) =>
      some ({ w with actionWorker := .executing job, actionQueue := channel }, none)
    | none => if w.sendersDropped then some ({ w with actionWorker := .finished }, none) else none
  | .executing job, .executed result =>
    some ({ w with actionWorker := .reported },
      some (.event (.actionCompleted job.requestId job.action.id result)))
  | .reported, .resume => some ({ w with actionWorker := .receiving }, none)
  | _, _ => none

def moveQueryWorker (settings : SessionSettings) (w : World) (choice : QueryWorkerChoice) :
    Option (World × Option Send) :=
  match w.queryWorker, choice with
  | .selecting, .cancelled =>
    if w.cancelled then some ({ w with queryWorker := .draining }, none) else none
  | .selecting, .joined index =>
    if w.cancelled then none
    else
      match w.queryTasks[index]? with
      | some (.done response) =>
        let joined := { w with queryTasks := w.queryTasks.eraseIdx index }
        match response with
        | some response =>
          some ({ joined with queryWorker := .reported }, some (.event (.queryCompleted response)))
        | none => some (joined, none)
      | _ => none
  | .selecting, .receive =>
    if w.cancelled ∨ w.queryTasks.any QueryTask.isDone ∨
        settings.config.maxInFlightQueries ≤ w.queryTasks.length then none
    else
      match w.queryQueue.recv with
      | some (job, channel) =>
        some ({ w with queryQueue := channel, queryTasks := w.queryTasks ++ [.running job] }, none)
      | none => if w.sendersDropped then some ({ w with queryWorker := .draining }, none) else none
  | .reported, .resume => some ({ w with queryWorker := .selecting }, none)
  | .draining, .drained =>
    if w.queryTasks = [] then some ({ w with queryWorker := .finished }, none) else none
  | .draining, .aborted index =>
    some ({ w with queryTasks := w.queryTasks.eraseIdx index }, none)
  | _, _ => none

/-- A spawned query ends with the executor's response, or with none when it is cancelled. -/
def moveQueryTask (w : World) (index : Nat) (response : Option QueryResponse) :
    Option (World × Option Send) :=
  match w.queryTasks[index]? with
  | some (.running _) =>
    if response.isSome ∨ w.cancelled then
      some ({ w with queryTasks := w.queryTasks.set index (.done response) }, none)
    else none
  | _ => none

/-- The event of a failed source. Only a lagged source ends the session. -/
def sourceFailure (pump : Pump) (error : EventSourceError) (queued : Bool) : CoordinatorEvent :=
  .eventSourceFailed pump.id (.eventSource error) (error = .subscriptionLagged) queued

def movePump (w : World) (index : Nat) (pump : Pump) (choice : PumpChoice) :
    Option (World × Option Send) :=
  let goTo (w : World) (phase : PumpPhase) : World :=
    { w with pumps := w.pumps.set index { pump with phase := phase } }
  match pump.phase, choice with
  | .polling, .cancelled =>
    if w.cancelled ∨ pump.cancelled then some (goTo w .closing, none) else none
  | .polling, .next (.ok (some event)) messageId =>
    let message := .event ⟨pump.version, messageId, ⟨"event"⟩, event⟩
    match w.writerChannel.trySend (.application message pump.codec) with
    | some channel => some ({ w with writerChannel := channel }, none)
    | none => some (goTo w (.telling (.slowConsumer pump.id) true), none)
  | .polling, .next (.ok none) _ =>
    some (goTo w (.telling (.subscriptionFinished pump.id) false), none)
  | .polling, .next (.error error) _ =>
    let message := .error (.fromTransportError none (.eventSource error))
    match w.writerChannel.trySend (.application message pump.codec) with
    | some channel =>
      some (goTo { w with writerChannel := channel }
        (.telling (sourceFailure pump error true) true), none)
    | none => some (goTo w (.telling (sourceFailure pump error false) true), none)
  | .telling event close, .tell => some (goTo w (.reported close), some (.event event))
  | .reported close, .resume => some (goTo w (if close then .closing else .finished), none)
  | .closing, .closed => some (goTo w .finished, none)
  | _, _ => none

end World

/-- A move of a child task. -/
inductive TaskAction
  | reader (choice : ReaderChoice)
  | writer (choice : WriterChoice)
  | actionWorker (choice : ActionWorkerChoice)
  | queryWorker (choice : QueryWorkerChoice)
  | queryTask (index : Nat) (response : Option QueryResponse)
  | pump (index : Nat) (choice : PumpChoice)

def TaskAction.task : TaskAction → TaskId
  | reader _ => .reader
  | writer _ => .writer
  | actionWorker _ => .actionWorker
  | queryWorker _ => .queryWorker
  | queryTask index _ => .queryTask index
  | pump index _ => .pump index

namespace World

/-- A move of a task that is not blocked: what it changes, and what it sends. -/
def move (settings : SessionSettings) (w : World) : TaskAction → Option (World × Option Send)
  | .reader choice =>
    (readerMove w.cancelled settings.config.transport.maxMessageBytes w.reader choice).map
      fun (phase, send) => ({ w with reader := phase }, send)
  | .writer choice => w.moveWriter settings choice
  | .actionWorker choice => w.moveActionWorker choice
  | .queryWorker choice => w.moveQueryWorker settings choice
  | .queryTask index response => w.moveQueryTask index response
  | .pump index choice => w.pumps[index]? >>= fun pump => w.movePump index pump choice

/-- One step of a child task. -/
def taskStep (settings : SessionSettings) (w : World) (action : TaskAction) : Option World :=
  if w.Blocked action.task then none
  else (w.move settings action).map fun (w', send) => w'.deliver action.task send

theorem taskStep_eq_some {settings : SessionSettings} {w w' : World} {action : TaskAction}
    (h : w.taskStep settings action = some w') :
    ¬ w.Blocked action.task ∧ ∃ moved send, w.move settings action = some (moved, send) ∧
      w' = moved.deliver action.task send := by
  unfold taskStep at h
  split at h
  case isTrue => cases h
  case isFalse hfree =>
    obtain ⟨⟨moved, send⟩, hmove, rfl⟩ := Option.map_eq_some_iff.mp h
    exact ⟨hfree, moved, send, hmove, rfl⟩

end World

/-! What a move of a task leaves alone, and what it sends. -/
section Frames

/-- The event that a send brings to the coordinator. -/
def Send.told : Send → Option CoordinatorEvent
  | .reader _ => none
  | .event told => some told

/-- The task that an event comes from. -/
def CoordinatorEvent.sentBy : CoordinatorEvent → TaskId → Bool
  | .actionCompleted .., .actionWorker => true
  | .queryCompleted _, .queryWorker => true
  | .subscriptionFinished _, .pump _ | .eventSourceFailed .., .pump _
  | .slowConsumer _, .pump _ => true
  | .writerFailed _, .writer => true
  | .readerFailed _, .reader => true
  | _, _ => false

/-- The subscription that an event is about. -/
def CoordinatorEvent.subscription? : CoordinatorEvent → Option TransportSubscriptionId
  | .subscriptionFinished id | .eventSourceFailed id .. | .slowConsumer id => some id
  | _ => none

/-- A task sends what comes from it: the reader its input, the others their events. -/
def SendsOwn (task : TaskId) (send : Option Send) : Prop :=
  ∀ item ∈ send, match item with
    | .reader _ => task = .reader
    | .event event => event.sentBy task = true

theorem SendsOwn.none {task : TaskId} : SendsOwn task none := by simp [SendsOwn]

theorem SendsOwn.reader {read : ReaderEvent} : SendsOwn .reader (some (.reader read)) := by
  simp [SendsOwn]

theorem SendsOwn.event {task : TaskId} {told : CoordinatorEvent}
    (h : told.sentBy task = true) : SendsOwn task (some (.event told)) := by
  simpa [SendsOwn] using h

theorem SendsOwn.sentBy {task : TaskId} {send : Option Send} (h : SendsOwn task send)
    {told : CoordinatorEvent} (htold : send.bind Send.told = some told) :
    told.sentBy task = true := by
  obtain ⟨item, hitem, htold⟩ := Option.bind_eq_some_iff.mp htold
  cases item with
  | reader read => cases htold
  | event event =>
    cases htold
    exact h _ hitem

variable {settings : SessionSettings} {w w' : World} {send : Option Send}

theorem readerMove_sends {cancelled : Bool} {maxMessageBytes : Nat} {phase phase' : ReaderPhase}
    {choice : ReaderChoice}
    (h : readerMove cancelled maxMessageBytes phase choice = some (phase', send)) :
    SendsOwn .reader send := by
  unfold readerMove at h
  split at h
  case h_1 =>
    split at h <;> cases h
    exact .none
  case h_4 | h_5 => split at h <;> cases h <;> exact .reader
  case h_3 =>
    cases h
    exact .event rfl
  case h_9 | h_10 | h_11 | h_12 =>
    cases h
    exact .none
  case h_13 => cases h
  all_goals
    cases h
    exact .reader

theorem beginWrite_sends (command : WriterCommand) : SendsOwn .writer (beginWrite command).2 := by
  cases command with
  | application message codec =>
    simp only [beginWrite]
    split
    · exact .event rfl
    · split
      · exact .none
      · exact .event rfl
  | _ => exact .none

theorem endWrite_sends (timeoutMilliseconds : UInt64) (operation : WriteOperation)
    (outcome : WriteOutcome) :
    SendsOwn .writer (endWrite timeoutMilliseconds operation outcome).2 := by
  cases outcome with
  | completed => cases operation <;> exact .none
  | _ => exact .event rfl

theorem setWriter_frame (phase : WriterPhase) :
    w.setWriter phase = { w with writer := (w.setWriter phase).writer,
                                 writerChannel := (w.setWriter phase).writerChannel } := by
  cases phase <;> rfl

theorem cancelled_setWriter (phase : WriterPhase) :
    (w.setWriter phase).cancelled = w.cancelled := by
  cases phase <;> rfl

theorem moveWriter_frame {choice : WriterChoice}
    (h : w.moveWriter settings choice = some (w', send)) :
    w' = { w with writer := w'.writer, writerChannel := w'.writerChannel,
                  cancelled := w'.cancelled } ∧ SendsOwn .writer send ∧
      (w'.cancelled = false → w.cancelled = false) := by
  unfold World.moveWriter at h
  split at h
  case h_1 | h_2 =>
    split at h <;> cases h
    refine ⟨by rw [setWriter_frame], .none, fun hlive => ?_⟩
    rwa [cancelled_setWriter] at hlive
  case h_3 =>
    split at h
    · cases h
    · split at h <;> cases h
      exact ⟨rfl, beginWrite_sends _, id⟩
  case h_4 =>
    split at h <;> cases h
    refine ⟨by rw [setWriter_frame], endWrite_sends _ _ _, fun hlive => ?_⟩
    rwa [cancelled_setWriter] at hlive
  case h_5 =>
    cases h
    refine ⟨by rw [setWriter_frame], .none, fun hlive => ?_⟩
    rw [cancelled_setWriter] at hlive
    cases hlive
  case h_6 => cases h

theorem moveActionWorker_frame {choice : ActionWorkerChoice}
    (h : w.moveActionWorker choice = some (w', send)) :
    w' = { w with actionWorker := w'.actionWorker, actionQueue := w'.actionQueue } ∧
      SendsOwn .actionWorker send := by
  unfold World.moveActionWorker at h
  split at h
  case h_1 | h_2 =>
    split at h <;> cases h
    exact ⟨rfl, .none⟩
  case h_3 =>
    split at h
    · cases h
      exact ⟨rfl, .none⟩
    · split at h <;> cases h
      exact ⟨rfl, .none⟩
  case h_4 =>
    cases h
    exact ⟨rfl, .event rfl⟩
  case h_5 =>
    cases h
    exact ⟨rfl, .none⟩
  case h_6 => cases h

theorem moveQueryWorker_frame {choice : QueryWorkerChoice}
    (h : w.moveQueryWorker settings choice = some (w', send)) :
    w' = { w with queryWorker := w'.queryWorker, queryTasks := w'.queryTasks,
                  queryQueue := w'.queryQueue } ∧ SendsOwn .queryWorker send := by
  unfold World.moveQueryWorker at h
  split at h
  case h_1 =>
    split at h <;> cases h
    exact ⟨rfl, .none⟩
  case h_2 =>
    split at h
    · cases h
    · split at h
      · split at h <;> cases h
        · exact ⟨rfl, .event rfl⟩
        · exact ⟨rfl, .none⟩
      · cases h
  case h_3 =>
    split at h
    · cases h
    · split at h
      · cases h
        exact ⟨rfl, .none⟩
      · split at h <;> cases h
        exact ⟨rfl, .none⟩
  case h_4 | h_6 =>
    cases h
    exact ⟨rfl, .none⟩
  case h_5 =>
    split at h <;> cases h
    exact ⟨rfl, .none⟩
  case h_7 => cases h

theorem moveQueryTask_frame {index : Nat} {response : Option QueryResponse}
    (h : w.moveQueryTask index response = some (w', send)) :
    w' = { w with queryTasks := w'.queryTasks } ∧ send = none := by
  unfold World.moveQueryTask at h
  split at h
  · split at h <;> cases h
    exact ⟨rfl, rfl⟩
  · cases h

/-- What a pump in this phase is about to tell the coordinator. -/
def PumpPhase.tells : PumpPhase → Option CoordinatorEvent
  | telling event _ => some event
  | _ => none

/-- The event, if there is one, is about the subscription. -/
def About (id : TransportSubscriptionId) (event : Option CoordinatorEvent) : Prop :=
  ∀ e ∈ event, e.subscription? = some id

theorem About.none {id : TransportSubscriptionId} : About id none := by simp [About]

theorem About.some {id : TransportSubscriptionId} {event : CoordinatorEvent}
    (h : event.subscription? = Option.some id) : About id (Option.some event) := by
  simpa [About] using h

theorem sentBy_of_subscription {event : CoordinatorEvent} {id : TransportSubscriptionId}
    (h : event.subscription? = some id) (index : Nat) : event.sentBy (.pump index) = true := by
  cases event with
  | subscriptionFinished _ | eventSourceFailed _ _ _ _ | slowConsumer _ => rfl
  | _ => cases h

theorem set_phase_self {pumps : List Pump} {index : Nat} {pump : Pump} {phase : PumpPhase}
    (hpump : pumps[index]? = some pump) (hphase : pump.phase = phase) :
    pumps.set index { pump with phase := phase } = pumps := by
  obtain ⟨hindex, rfl⟩ := List.getElem?_eq_some_iff.mp hpump
  rw [← hphase]
  exact List.set_getElem_self hindex

/-- A pump changes its phase and the outbound queue, and tells of its own subscription. -/
theorem movePump_frame {index : Nat} {pump : Pump} {choice : PumpChoice}
    (h : w.movePump index pump choice = some (w', send)) (hpump : w.pumps[index]? = some pump) :
    ∃ phase, w' = { w with writerChannel := w'.writerChannel,
                           pumps := w.pumps.set index { pump with phase := phase } } ∧
      (∀ read, send ≠ some (.reader read)) ∧
      (About pump.id pump.phase.tells →
        About pump.id phase.tells ∧ About pump.id (send.bind Send.told)) := by
  unfold World.movePump at h
  split at h
  case h_1 =>
    split at h <;> cases h
    exact ⟨.closing, rfl, nofun, fun _ => ⟨.none, .none⟩⟩
  case h_2 hphase =>
    have hset := set_phase_self hpump hphase
    dsimp only at h
    split at h <;> cases h
    · exact ⟨.polling, by rw [hset], nofun, fun _ => ⟨.none, .none⟩⟩
    · exact ⟨_, rfl, nofun, fun _ => ⟨.some rfl, .none⟩⟩
  case h_4 =>
    dsimp only at h
    split at h <;> cases h
    · exact ⟨_, rfl, nofun, fun _ => ⟨.some rfl, .none⟩⟩
    · exact ⟨_, rfl, nofun, fun _ => ⟨.some rfl, .none⟩⟩
  case h_3 =>
    cases h
    exact ⟨_, rfl, nofun, fun _ => ⟨.some rfl, .none⟩⟩
  case h_5 event close hphase =>
    cases h
    refine ⟨_, rfl, nofun, fun habout => ⟨.none, ?_⟩⟩
    rw [hphase] at habout
    exact habout
  case h_6 close hphase =>
    cases h
    exact ⟨_, rfl, nofun, fun _ => ⟨by cases close <;> exact .none, .none⟩⟩
  case h_7 =>
    cases h
    exact ⟨_, rfl, nofun, fun _ => ⟨.none, .none⟩⟩
  case h_8 => cases h

/-- The world, where only what the task may touch is taken from another one. -/
def World.frame (w w' : World) : TaskId → World
  | .reader => { w with reader := w'.reader }
  | .writer => { w with writer := w'.writer, writerChannel := w'.writerChannel,
                        cancelled := w'.cancelled }
  | .actionWorker => { w with actionWorker := w'.actionWorker, actionQueue := w'.actionQueue }
  | .queryWorker => { w with queryWorker := w'.queryWorker, queryTasks := w'.queryTasks,
                             queryQueue := w'.queryQueue }
  | .queryTask _ => { w with queryTasks := w'.queryTasks }
  | .pump _ => { w with writerChannel := w'.writerChannel, pumps := w'.pumps }

theorem move_frame {action : TaskAction} (h : w.move settings action = some (w', send)) :
    w' = w.frame w' action.task := by
  cases action with
  | reader choice =>
    obtain ⟨⟨phase, sent⟩, -, heq⟩ := Option.map_eq_some_iff.mp h
    cases heq
    rfl
  | writer choice => exact (moveWriter_frame h).1
  | actionWorker choice => exact (moveActionWorker_frame h).1
  | queryWorker choice => exact (moveQueryWorker_frame h).1
  | queryTask index response => exact (moveQueryTask_frame h).1
  | pump index choice =>
    obtain ⟨pump, hpump, hmove⟩ := Option.bind_eq_some_iff.mp h
    obtain ⟨phase, hframe, -⟩ := movePump_frame hmove hpump
    rw [hframe]
    rfl

end Frames
end OrbitRelay
