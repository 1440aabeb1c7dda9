import OrbitRelay.Transport.Session

/-! What flows through the channels of a session: the effect of every exchange and of every move
of a task on their contents. -/
namespace OrbitRelay

/-! What the answer to a request changes, read off the exchange. -/
section Responses

/-- The event that this exchange received. -/
def eventOf : CoordinatorExchange → Option CoordinatorEvent
  | ⟨_, .select, .event event⟩ => event
  | _ => none

/-- The job that the action queue took in this exchange. -/
def actionOf : CoordinatorExchange → Option ActionJob
  | ⟨_, .enqueue (.action job), true⟩ => some job
  | _ => none

/-- The job that the query queue took in this exchange. -/
def queryOf : CoordinatorExchange → Option QueryJob
  | ⟨_, .enqueue (.query job), true⟩ => some job
  | _ => none

/-- What an attempt puts on the writer channel, if it finds room. -/
def Enqueue.command? : Enqueue → Option WriterCommand
  | application codec message => some (.application message codec)
  | queryResponse codec version response maxMessageBytes =>
    (responseMessage codec version response maxMessageBytes).map (.application · codec)
  | error codec requestId e =>
    some (.application (.error (.fromTransportError requestId e)) codec)
  | writer command => some command
  | action _ | query _ => none

/-- The command that the writer channel took in this exchange. -/
def commandOf : CoordinatorExchange → Option WriterCommand
  | ⟨_, .enqueue item, true⟩ => item.command?
  | ⟨_, .sendClose, true⟩ => some .close
  | _ => none

def WriterCommand.message? : WriterCommand → Option OutboundMessage
  | application message _ => some message
  | _ => none

/-- The message that the writer channel took in this exchange. -/
def messageOf (e : CoordinatorExchange) : Option OutboundMessage :=
  (commandOf e).bind WriterCommand.message?

/-- The pumps after this exchange. -/
def pumpsAfter (pumps : List Pump) : CoordinatorExchange → List Pump
  | ⟨_, .spawnPump id version codec, _⟩ => pumps ++ [⟨id, version, codec, false, .polling⟩]
  | ⟨_, .perform (.cancelPump handle), _⟩ =>
    pumps.modify handle.pump fun pump => { pump with cancelled := true }
  | _ => pumps

/-- The capacities of the channels of coordinator events and queries, which never change. -/
def World.capacities (w : World) : Nat × Nat :=
  (w.eventChannel.capacity, w.queryQueue.capacity)

/-- What an exchange does to the world. -/
structure Responded (w : World) (e : CoordinatorExchange) (w' : World) : Prop where
  events : w.eventChannel.contents = (eventOf e).toList ++ w'.eventChannel.contents
  actions : w'.actionQueue.contents = w.actionQueue.contents ++ (actionOf e).toList
  queries : w'.queryQueue.contents = w.queryQueue.contents ++ (queryOf e).toList
  commands : w'.writerChannel.contents = w.writerChannel.contents ++ (commandOf e).toList
  pumps : w'.pumps = pumpsAfter w.pumps e
  actionWorker : w'.actionWorker = w.actionWorker
  queryWorker : w'.queryWorker = w.queryWorker
  queryTasks : w'.queryTasks = w.queryTasks
  capacities : w'.capacities = w.capacities
  parked : ∀ task, w'.readerChannel.Parked task → w.readerChannel.Parked task
  live : w'.cancelled = false → w.cancelled = false
  held : w'.sendersDropped = false → w.sendersDropped = false
  dropped : w'.sendersDropped = true →
    w.sendersDropped = true ∨ e.request = .perform .dropSenders

/-- The exchange receives no event, and nothing is queued in it. -/
def Quiet (e : CoordinatorExchange) : Prop :=
  eventOf e = none ∧ actionOf e = none ∧ queryOf e = none ∧ commandOf e = none

/-- A quiet exchange may move the reader's channel, the token, the senders and the pumps. -/
theorem Quiet.responded {w w' : World} {e : CoordinatorExchange} (he : Quiet e)
    (hframe : w' = { w with readerChannel := w'.readerChannel, cancelled := w'.cancelled,
                            sendersDropped := w'.sendersDropped, pumps := w'.pumps })
    (hparked : ∀ task, w'.readerChannel.Parked task → w.readerChannel.Parked task)
    (hlive : w'.cancelled = false → w.cancelled = false)
    (hheld : w'.sendersDropped = false → w.sendersDropped = false)
    (hdropped : w'.sendersDropped = true →
      w.sendersDropped = true ∨ e.request = .perform .dropSenders)
    (hpumps : w'.pumps = pumpsAfter w.pumps e) : Responded w e w' := by
  obtain ⟨hevent, haction, hquery, hcommand⟩ := he
  constructor
  case parked => exact hparked
  case live => exact hlive
  case held => exact hheld
  case dropped => exact hdropped
  case pumps => exact hpumps
  case capacities =>
    rw [hframe]
    rfl
  all_goals rw [hframe]
  all_goals simp [hevent, haction, hquery, hcommand]

/-- An exchange that leaves the world alone. -/
theorem Quiet.refl {w : World} {e : CoordinatorExchange} (he : Quiet e)
    (hpumps : w.pumps = pumpsAfter w.pumps e) : Responded w e w :=
  he.responded rfl (fun _ => id) id id .inl hpumps

/-- Every attempt on the writer channel is a `try_send` of its command. -/
theorem World.enqueue_eq_attempt (w : World) {item : Enqueue}
    (haction : ∀ job, item ≠ .action job) (hquery : ∀ job, item ≠ .query job) :
    w.enqueue item = w.attempt (item.command?.bind w.writerChannel.trySend) := by
  cases item with
  | action job => exact absurd rfl (haction job)
  | query job => exact absurd rfl (hquery job)
  | queryResponse codec version response maxMessageBytes =>
    simp only [World.enqueue, Enqueue.command?, WriterChannel.queueQueryResponse_eq]
    rw [Option.bind_map]
    rfl
  | _ => rfl

theorem responded_attempt {w : World} {s : Coordinator} {item : Enqueue}
    (haction : ∀ job, item ≠ .action job) (hquery : ∀ job, item ≠ .query job) :
    Responded w ⟨s, .enqueue item, (w.enqueue item).1⟩ (w.enqueue item).2 := by
  have hnone (queued : Bool) : actionOf ⟨s, .enqueue item, queued⟩ = none ∧
      queryOf ⟨s, .enqueue item, queued⟩ = none := by
    cases item with
    | action job => exact absurd rfl (haction job)
    | query job => exact absurd rfl (hquery job)
    | _ => cases queued <;> exact ⟨rfl, rfl⟩
  rw [w.enqueue_eq_attempt haction hquery]
  cases hsent : item.command?.bind w.writerChannel.trySend with
  | none => exact Quiet.refl ⟨rfl, (hnone _).1, (hnone _).2, rfl⟩ rfl
  | some channel =>
    obtain ⟨command, hcommand, hchannel⟩ := Option.bind_eq_some_iff.mp hsent
    constructor
    case commands =>
      simp only [World.attempt, commandOf, hcommand]
      exact Channel.contents_trySend hchannel
    case actions => simp [World.attempt, (hnone true).1]
    case queries => simp [World.attempt, (hnone true).2]
    case parked => exact fun _ => id
    case live => exact id
    case held => exact id
    case dropped => exact .inl
    all_goals rfl

theorem responded_enqueue (w : World) (s : Coordinator) (item : Enqueue) :
    Responded w ⟨s, .enqueue item, (w.enqueue item).1⟩ (w.enqueue item).2 := by
  cases item with
  | action job =>
    simp only [World.enqueue]
    split
    case h_1 channel hsent =>
      constructor
      case actions => exact Channel.contents_trySend hsent
      case queries | commands => exact (List.append_nil _).symm
      case parked => exact fun _ => id
      case live => exact id
      case held => exact id
      case dropped => exact .inl
      all_goals rfl
    case h_2 => exact Quiet.refl ⟨rfl, rfl, rfl, rfl⟩ rfl
  | query job =>
    simp only [World.enqueue]
    split
    case h_1 channel hsent =>
      constructor
      case queries => exact Channel.contents_trySend hsent
      case capacities => exact Prod.ext rfl (Channel.capacity_trySend hsent)
      case actions | commands => exact (List.append_nil _).symm
      case parked => exact fun _ => id
      case live => exact id
      case held => exact id
      case dropped => exact .inl
      all_goals rfl
    case h_2 => exact Quiet.refl ⟨rfl, rfl, rfl, rfl⟩ rfl
  | _ => exact responded_attempt nofun nofun

theorem responded_perform {w w' : World} {effect : Effect} (h : w.perform effect = some w')
    (s : Coordinator) : Responded w ⟨s, .perform effect, ()⟩ w' := by
  cases effect with
  | join task =>
    simp only [World.perform] at h
    split at h <;> cases h
    exact Quiet.refl ⟨rfl, rfl, rfl, rfl⟩ rfl
  | cancel =>
    cases h
    exact Quiet.responded ⟨rfl, rfl, rfl, rfl⟩ rfl (fun _ => id) nofun id .inl rfl
  | dropSenders =>
    cases h
    exact Quiet.responded ⟨rfl, rfl, rfl, rfl⟩ rfl (fun _ => id) id nofun (fun _ => .inr rfl) rfl
  | cancelPump handle =>
    cases h
    exact Quiet.responded ⟨rfl, rfl, rfl, rfl⟩ rfl (fun _ => id) id id .inl rfl
  | closeSource id =>
    cases h
    exact Quiet.refl ⟨rfl, rfl, rfl, rfl⟩ rfl

theorem responded_of_respond {w w' : World} {request : CoordinatorRequest}
    {choice : CoordinatorChoice} {a : request.Answer}
    (h : w.respond request choice = some (a, w')) (s : Coordinator) :
    Responded w ⟨s, request, a⟩ w' := by
  unfold World.respond at h
  split at h
  case h_1 =>
    split at h
    case h_1 hrecv =>
      cases h
      exact Quiet.responded ⟨rfl, rfl, rfl, rfl⟩ rfl (fun _ => Channel.parked_of_recv hrecv) id
        id .inl rfl
    case h_2 =>
      split at h <;> cases h
      exact Quiet.refl ⟨rfl, rfl, rfl, rfl⟩ rfl
  case h_2 =>
    split at h <;> cases h
    case h_1 hrecv =>
      constructor
      case events => exact Channel.contents_recv hrecv
      case capacities => exact Prod.ext (Channel.capacity_recv hrecv) rfl
      case actions | queries | commands => exact (List.append_nil _).symm
      case parked => exact fun _ => id
      case live => exact id
      case held => exact id
      case dropped => exact .inl
      all_goals rfl
  case h_4 item =>
    obtain ⟨rfl, rfl⟩ := Prod.mk.inj (Option.some.inj h)
    exact responded_enqueue w s item
  case h_5 =>
    obtain ⟨performed, hperform, heq⟩ := Option.map_eq_some_iff.mp h
    cases heq
    exact responded_perform hperform s
  case h_11 =>
    split at h
    · cases h
      exact Quiet.refl ⟨rfl, rfl, rfl, rfl⟩ rfl
    · split at h <;> cases h
      case h_1 hsent =>
        constructor
        case commands => exact Channel.contents_trySend hsent
        case actions | queries => exact (List.append_nil _).symm
        case parked => exact fun _ => id
        case live => exact id
        case held => exact id
        case dropped => exact .inl
        all_goals rfl
  case h_12 | h_13 | h_14 =>
    split at h <;> cases h
    exact Quiet.refl ⟨rfl, rfl, rfl, rfl⟩ rfl
  case h_10 =>
    cases h
    exact Quiet.responded ⟨rfl, rfl, rfl, rfl⟩ rfl (fun _ => id) id id .inl rfl
  case h_15 => cases h
  all_goals
    cases h
    exact Quiet.refl ⟨rfl, rfl, rfl, rfl⟩ rfl

end Responses

/-! The moves of the tasks. -/
section Moves
variable {settings : SessionSettings} {w w' : World} {action : TaskAction}

/-- What every pump is about to tell concerns its own subscription. -/
def World.TellOwn (w : World) : Prop := ∀ pump ∈ w.pumps, About pump.id pump.phase.tells

theorem World.tellOwn_start : (World.start settings).TellOwn := by
  intro pump hpump
  cases hpump

theorem move_sends {send : Option Send} (hown : w.TellOwn)
    (h : w.move settings action = some (w', send)) : SendsOwn action.task send := by
  cases action with
  | reader choice =>
    obtain ⟨⟨phase, sent⟩, hmove, heq⟩ := Option.map_eq_some_iff.mp h
    cases heq
    exact readerMove_sends hmove
  | writer choice => exact (moveWriter_frame h).2.1
  | actionWorker choice => exact (moveActionWorker_frame h).2
  | queryWorker choice => exact (moveQueryWorker_frame h).2
  | queryTask index response =>
    rw [(moveQueryTask_frame h).2]
    exact .none
  | pump index choice =>
    obtain ⟨pump, hpump, hmove⟩ := Option.bind_eq_some_iff.mp h
    obtain ⟨phase, -, hevent, htells⟩ := movePump_frame hmove hpump
    have habout := (htells (hown pump (List.mem_of_getElem? hpump))).2
    rcases send with _ | read | told
    · exact .none
    · exact absurd rfl (hevent read)
    · exact .event (sentBy_of_subscription (habout told rfl) index)

theorem deliver_frame (task : TaskId) (send : Option Send) :
    w.deliver task send = { w with readerChannel := (w.deliver task send).readerChannel,
                                   eventChannel := (w.deliver task send).eventChannel } := by
  rcases send with _ | _ | _ <;> rfl

theorem contents_deliver (task : TaskId) (send : Option Send) :
    (w.deliver task send).eventChannel.contents =
      w.eventChannel.contents ++ (send.bind Send.told).toList := by
  rcases send with _ | read | told
  · exact (List.append_nil _).symm
  · exact (List.append_nil _).symm
  · exact Channel.contents_send _ task told

/-- What a step sends to the coordinator. -/
def World.told (settings : SessionSettings) (w : World) (action : TaskAction) :
    Option CoordinatorEvent :=
  (w.move settings action).bind fun moved => moved.2.bind Send.told

theorem sentBy_of_told (hown : w.TellOwn) {event : CoordinatorEvent}
    (h : w.told settings action = some event) : event.sentBy action.task = true := by
  obtain ⟨⟨moved, send⟩, hmove, htold⟩ := Option.bind_eq_some_iff.mp h
  exact (move_sends hown hmove).sentBy htold

variable (h : w.taskStep settings action = some w')
include h

theorem contents_taskStep :
    w'.eventChannel.contents = w.eventChannel.contents ++ (w.told settings action).toList := by
  obtain ⟨-, moved, send, hmove, rfl⟩ := World.taskStep_eq_some h
  have hevents : moved.eventChannel = w.eventChannel := by
    rw [move_frame hmove]
    cases action <;> rfl
  rw [contents_deliver, hevents, World.told, hmove]
  rfl

/-- Only the action worker touches the action queue and its own phase. -/
theorem actions_taskStep (haction : action.task ≠ .actionWorker) :
    w'.actionWorker = w.actionWorker ∧ w'.actionQueue = w.actionQueue := by
  obtain ⟨-, moved, send, hmove, rfl⟩ := World.taskStep_eq_some h
  rw [deliver_frame, move_frame hmove]
  cases action with
  | actionWorker choice => exact absurd rfl haction
  | _ => exact ⟨rfl, rfl⟩

/-- Only the query worker and its tasks touch queries. -/
theorem queries_taskStep (hworker : action.task ≠ .queryWorker)
    (htask : ∀ index, action.task ≠ .queryTask index) :
    w'.queryWorker = w.queryWorker ∧ w'.queryTasks = w.queryTasks ∧
      w'.queryQueue = w.queryQueue := by
  obtain ⟨-, moved, send, hmove, rfl⟩ := World.taskStep_eq_some h
  rw [deliver_frame, move_frame hmove]
  cases action with
  | queryWorker choice => exact absurd rfl hworker
  | queryTask index response => exact absurd rfl (htask index)
  | _ => exact ⟨rfl, rfl, rfl⟩

theorem dropped_taskStep : w'.sendersDropped = w.sendersDropped := by
  obtain ⟨-, moved, send, hmove, rfl⟩ := World.taskStep_eq_some h
  rw [deliver_frame, move_frame hmove]
  cases action <;> rfl

/-- Only the reader waits in front of its channel. -/
theorem parked_taskStep (hown : w.TellOwn)
    (hparked : ∀ task, w.readerChannel.Parked task → task = .reader) (task : TaskId)
    (htask : w'.readerChannel.Parked task) : task = .reader := by
  obtain ⟨-, moved, send, hmove, rfl⟩ := World.taskStep_eq_some h
  have hsends := move_sends hown hmove
  have hreader : moved.readerChannel = w.readerChannel := by
    rw [move_frame hmove]
    cases action <;> rfl
  rcases send with _ | read | told
  · exact hparked task (hreader ▸ htask)
  · rcases Channel.parked_of_send htask with htask | ⟨rfl, -⟩
    · exact hparked task (hreader ▸ htask)
    · exact hsends _ rfl
  · exact hparked task (hreader ▸ htask)

/-- Only the pumps themselves change. -/
theorem pumps_taskStep (haction : ∀ index, action.task ≠ .pump index) : w'.pumps = w.pumps := by
  obtain ⟨-, moved, send, hmove, rfl⟩ := World.taskStep_eq_some h
  rw [deliver_frame, move_frame hmove]
  cases action with
  | pump index choice => exact absurd rfl (haction index)
  | _ => rfl

/-- The token stays cancelled. -/
theorem live_of_taskStep (hlive : w'.cancelled = false) : w.cancelled = false := by
  obtain ⟨-, moved, send, hmove, rfl⟩ := World.taskStep_eq_some h
  rw [deliver_frame] at hlive
  cases action with
  | writer choice => exact (moveWriter_frame hmove).2.2 hlive
  | _ =>
    rw [move_frame hmove] at hlive
    exact hlive

theorem World.TellOwn.taskStep (hown : w.TellOwn) : w'.TellOwn := by
  cases action with
  | pump index choice =>
    obtain ⟨-, moved, send, hmove, rfl⟩ := World.taskStep_eq_some h
    obtain ⟨pump, hpump, hmove⟩ := Option.bind_eq_some_iff.mp hmove
    obtain ⟨phase, hframe, -, htells⟩ := movePump_frame hmove hpump
    rw [deliver_frame, hframe]
    intro other hother
    rcases List.mem_or_eq_of_mem_set hother with hother | rfl
    · exact hown other hother
    · exact (htells (hown pump (List.mem_of_getElem? hpump))).1
  | _ =>
    unfold World.TellOwn
    rw [pumps_taskStep h (by nofun)]
    exact hown

omit h in
theorem World.TellOwn.responded {e : CoordinatorExchange} (hown : w.TellOwn)
    (h : Responded w e w') : w'.TellOwn := by
  unfold World.TellOwn
  rw [h.pumps]
  unfold pumpsAfter
  split
  · intro pump hpump
    rcases List.mem_append.mp hpump with hpump | hpump
    · exact hown pump hpump
    · rw [List.mem_singleton.mp hpump]
      exact .none
  · intro pump hpump
    obtain ⟨i, hi⟩ := List.mem_iff_getElem?.mp hpump
    rw [List.getElem?_modify] at hi
    obtain ⟨before, hbefore, rfl⟩ := Option.map_eq_some_iff.mp hi
    have hkept := hown before (List.mem_of_getElem? hbefore)
    split
    · exact hkept
    · exact hkept
  · exact hown

end Moves
end OrbitRelay
