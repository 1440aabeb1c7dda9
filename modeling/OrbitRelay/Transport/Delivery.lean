import OrbitRelay.Transport.Rest

/-! What reaches the client: the frames on the socket are the commands that were queued for the
writer, encoded, in the order of the queue and without gaps. -/
namespace OrbitRelay

/-- A frame whose send has completed. -/
inductive OutboundFrame
  | text (bytes : List UInt8)
  | nativePing (payload : List UInt8)
  | nativePong (payload : List UInt8)
  | close
deriving DecidableEq

def OutboundFrame.operation : OutboundFrame → WriteOperation
  | text _ => .text
  | nativePing _ => .nativePing
  | nativePong _ => .nativePong
  | close => .closeFrame

/-- The frame of a command. A message that the codec cannot encode has none. -/
def WriterCommand.frame? : WriterCommand → Option OutboundFrame
  | .application message codec =>
    match codec.encodeOutbound message with
    | .error _ => none
    | .ok encoded => if isUtf8 encoded then some (.text encoded) else none
  | .nativePing payload => some (.nativePing payload)
  | .nativePong payload => some (.nativePong payload)
  | .close => some .close

/-- The commands that the writer took from its channel, and the frames it has sent. -/
structure Wire where
  taken : List WriterCommand
  sent : List OutboundFrame

/-- The writer sends the frame of the command it took last. -/
def Wire.next (wire : Wire) : Session × SessionAction → Wire
  | (s, .task (.writer .receive)) =>
    { wire with taken := wire.taken ++ (s.world.writerChannel.recv.map Prod.fst).toList }
  | (s, .task (.writer (.written .completed))) =>
    match s.world.writer with
    | .writing .sinkClose => wire
    | _ => { wire with sent := wire.sent ++ (wire.taken.getLast?.bind WriterCommand.frame?).toList }
  | _ => wire

def wireOf (log : Session.Log) : Wire := log.foldl Wire.next ⟨[], []⟩

/-- What a pump tries to queue for the writer on what its source returned. -/
def Pump.command? (pump : Pump) (messageId : MessageId) :
    Except EventSourceError (Option Event) → Option WriterCommand
  | .ok (some event) => some (pump.eventCommand messageId event)
  | .ok none => none
  | .error error => some (pump.failureCommand error)

/-- The command that the writer channel takes in this step. -/
def enqueuedIn (settings : SessionSettings) : Session × SessionAction → Option WriterCommand
  | (s, .coordinator choice) => (s.step settings (.coordinator choice)).bind fun next =>
      next.trace.getLast?.bind commandOf
  | (s, .task (.pump index (.next result messageId))) =>
    s.world.pumps[index]?.bind fun pump => (pump.command? messageId result).bind fun command =>
      (s.world.writerChannel.trySend command).map fun _ => command
  | _ => none

/-- What was queued for the writer, in order. -/
def enqueued (settings : SessionSettings) (log : Session.Log) : List WriterCommand :=
  log.filterMap (enqueuedIn settings)

section Frames

theorem wireOf_snoc (log : Session.Log) (entry : Session × SessionAction) :
    wireOf (log ++ [entry]) = (wireOf log).next entry := by
  rw [wireOf, List.foldl_append]
  rfl

theorem enqueued_snoc (settings : SessionSettings) (log : Session.Log)
    (entry : Session × SessionAction) :
    enqueued settings (log ++ [entry]) = enqueued settings log ++ (enqueuedIn settings entry).toList :=
  List.filterMap_snoc ..

/-- A command is either written as its frame, or its encoding fails and ends the writer. -/
theorem beginWrite_cases (command : WriterCommand) :
    (∃ frame, command.frame? = some frame ∧
      beginWrite command = (.writing frame.operation, none)) ∨
    (beginWrite command).1 = .reported := by
  cases command with
  | application message codec =>
    simp only [WriterCommand.frame?, beginWrite]
    cases hencoded : codec.encodeOutbound message with
    | error error => exact .inr rfl
    | ok encoded =>
      by_cases hutf8 : isUtf8 encoded = true
      · exact .inl ⟨.text encoded, by simp [hutf8], by simp [hutf8, OutboundFrame.operation]⟩
      · exact .inr (by simp [hutf8, writerFailure])
  | nativePing payload => exact .inl ⟨.nativePing payload, rfl, rfl⟩
  | nativePong payload => exact .inl ⟨.nativePong payload, rfl, rfl⟩
  | close => exact .inl ⟨.close, rfl, rfl⟩

end Frames

section Invariant

/-- Nothing follows the close frame. -/
def ClosesLast (frames : List OutboundFrame) : Prop :=
  ∀ before after, frames = before ++ .close :: after → after = []

theorem closesLast_of_not_mem {frames : List OutboundFrame} (h : .close ∉ frames) :
    ClosesLast frames := by
  intro before after heq
  rw [heq] at h
  exact absurd (List.mem_append_right _ List.mem_cons_self) h

theorem closesLast_snoc {frames : List OutboundFrame} (h : .close ∉ frames)
    (frame : OutboundFrame) : ClosesLast (frames ++ [frame]) := by
  intro before after heq
  rcases List.eq_nil_or_concat after with rfl | ⟨rest, last, rfl⟩
  · rfl
  · rw [List.concat_eq_append, ← List.cons_append, ← List.append_assoc] at heq
    have hframes := (List.append_inj' heq rfl).1
    rw [hframes] at h
    exact absurd (List.mem_append_right _ List.mem_cons_self) h

/-- What the writer has sent of the commands it took, in each of its phases. -/
def Wire.Sending (wire : Wire) : WriterPhase → Prop
  | .receiving => wire.sent.map some = wire.taken.map WriterCommand.frame? ∧ .close ∉ wire.sent
  | .writing .sinkClose => wire.sent.map some = wire.taken.map WriterCommand.frame? ∧
      ClosesLast wire.sent
  | .writing operation => ∃ before command frame, wire.taken = before ++ [command] ∧
      command.frame? = some frame ∧ frame.operation = operation ∧
      wire.sent.map some = before.map WriterCommand.frame? ∧ .close ∉ wire.sent
  | .reported | .finished => wire.sent.map some <+: wire.taken.map WriterCommand.frame? ∧
      ClosesLast wire.sent

/-- In each phase the frames are a prefix of what was taken. -/
theorem Wire.Sending.ended {wire : Wire} {phase : WriterPhase} (h : wire.Sending phase) :
    wire.sent.map some <+: wire.taken.map WriterCommand.frame? ∧ ClosesLast wire.sent := by
  have hopen (operation : WriteOperation) (before : List WriterCommand) (command : WriterCommand)
      (htaken : wire.taken = before ++ [command])
      (hsent : wire.sent.map some = before.map WriterCommand.frame?) (hclose : .close ∉ wire.sent) :
      wire.sent.map some <+: wire.taken.map WriterCommand.frame? ∧ ClosesLast wire.sent := by
    rw [htaken, List.map_append, hsent]
    exact ⟨List.prefix_append _ _, closesLast_of_not_mem hclose⟩
  cases phase with
  | receiving =>
    obtain ⟨hsent, hclose⟩ := h
    rw [hsent]
    exact ⟨List.prefix_refl _, closesLast_of_not_mem hclose⟩
  | writing operation =>
    cases operation with
    | sinkClose =>
      obtain ⟨hsent, hclose⟩ := h
      rw [hsent]
      exact ⟨List.prefix_refl _, hclose⟩
    | _ =>
      obtain ⟨before, command, frame, htaken, -, -, hsent, hclose⟩ := h
      exact hopen .text before command htaken hsent hclose
  | reported | finished => exact h

/-- What was queued was taken by the writer or waits in its channel. -/
structure Delivered (settings : SessionSettings) (log : Session.Log) (s : Session) : Prop where
  queued : s.world.writer ≠ .finished →
    enqueued settings log = (wireOf log).taken ++ s.world.writerChannel.contents
  taken : (wireOf log).taken <+: enqueued settings log
  sending : (wireOf log).Sending s.world.writer

variable {settings : SessionSettings} {log : Session.Log} {s s' : Session}

theorem delivered_start (settings : SessionSettings) (id : ConnectionId) (metadata : Metadata) :
    Delivered settings [] (.start settings id metadata) where
  queued _ := rfl
  taken := List.prefix_refl _
  sending := ⟨rfl, List.not_mem_nil⟩

/-- A step that leaves the writer alone, and queues at the end of its channel. -/
theorem Delivered.enqueue (hs : Delivered settings log s) {entry : Session × SessionAction}
    (hwire : (wireOf log).next entry = wireOf log)
    (hwriter : s'.world.writer = s.world.writer)
    (hcontents : s'.world.writerChannel.contents =
      s.world.writerChannel.contents ++ (enqueuedIn settings entry).toList) :
    Delivered settings (log ++ [entry]) s' := by
  have hwire' : wireOf (log ++ [entry]) = wireOf log := (wireOf_snoc log entry).trans hwire
  constructor
  case queued =>
    rw [hwriter, hwire', enqueued_snoc, hcontents, ← List.append_assoc]
    intro hrunning
    rw [hs.queued hrunning]
  case taken =>
    rw [hwire', enqueued_snoc]
    exact hs.taken.trans (List.prefix_append _ _)
  case sending =>
    rw [hwire', hwriter]
    exact hs.sending

theorem Delivered.exchange (hs : Delivered settings log s) {choice : CoordinatorChoice}
    (hstep : s.step settings (.coordinator choice) = some s') :
    Delivered settings (log ++ [(s, .coordinator choice)]) s' := by
  obtain ⟨p, a, w, -, hrespond, rfl⟩ := Session.step_coordinator_eq_some hstep
  apply hs.enqueue (by rfl) (phases_of_respond hrespond).2
  have hcommands := (responded_of_respond hrespond p.state).commands
  simp only [enqueuedIn, hstep, Option.bind_some, List.getLast?_append, List.getLast?_singleton,
    Option.some_or]
  exact hcommands

/-- A pump queues its events and its failure. -/
theorem Delivered.pump (hs : Delivered settings log s) {index : Nat} {choice : PumpChoice}
    {w : World} (hstep : s.world.taskStep settings (.pump index choice) = some w) :
    Delivered settings (log ++ [(s, .task (.pump index choice))]) { s with world := w } := by
  obtain ⟨pump, phase, channel, send, hpump, hmove, -, hchannel, -⟩ := pumpMove_of_taskStep hstep
  have hwriter : w.writer = s.world.writer := by
    obtain ⟨-, moved, sent, hmoved, rfl⟩ := World.taskStep_eq_some hstep
    rw [deliver_frame, move_frame hmoved]
    rfl
  apply hs.enqueue (by rfl) hwriter
  rw [hchannel]
  cases hmove with
  | @forwarded event messageId channel hphase hsent =>
    rw [Channel.contents_trySend hsent]
    simp [enqueuedIn, hpump, Pump.command?, hsent]
  | @refused event messageId hphase hsent => simp [enqueuedIn, hpump, Pump.command?, hsent]
  | @failed error messageId hphase =>
    cases hsent : s.world.writerChannel.trySend (pump.failureCommand error) with
    | none => simp [enqueuedIn, hpump, Pump.command?, hsent]
    | some channel =>
      rw [Option.getD_some, Channel.contents_trySend hsent]
      simp [enqueuedIn, hpump, Pump.command?, hsent]
  | @ended messageId hphase => simp [enqueuedIn, hpump, Pump.command?]
  | _ => simp [enqueuedIn]

theorem writer_setWriter (w : World) (phase : WriterPhase) : (w.setWriter phase).writer = phase := by
  cases phase <;> rfl

theorem contents_setWriter {w : World} {phase : WriterPhase} (hphase : phase ≠ .finished) :
    (w.setWriter phase).writerChannel = w.writerChannel := by
  cases phase with
  | finished => exact absurd rfl hphase
  | _ => rfl

/-- A writer that ends keeps what was sent. -/
theorem Delivered.finish (hs : Delivered settings log s) {entry : Session × SessionAction}
    (hwire : (wireOf log).next entry = wireOf log) (hentry : enqueuedIn settings entry = none)
    (hwriter : s'.world.writer = .finished) : Delivered settings (log ++ [entry]) s' := by
  have hwire' : wireOf (log ++ [entry]) = wireOf log := (wireOf_snoc log entry).trans hwire
  constructor
  case queued => exact fun hrunning => absurd hwriter hrunning
  case taken =>
    rw [hwire', enqueued_snoc, hentry, Option.toList_none, List.append_nil]
    exact hs.taken
  case sending =>
    rw [hwire', hwriter]
    exact hs.sending.ended

/-- The writer takes a command. -/
theorem Delivered.receive (hs : Delivered settings log s) (hwriter : s.world.writer = .receiving)
    {command : WriterCommand} {channel : WriterChannel}
    (hrecv : s.world.writerChannel.recv = some (command, channel))
    (hphase : s'.world.writer = (beginWrite command).1)
    (hchannel : s'.world.writerChannel = channel) :
    Delivered settings (log ++ [(s, .task (.writer .receive))]) s' := by
  have hwire : wireOf (log ++ [(s, .task (.writer .receive))]) =
      ⟨(wireOf log).taken ++ [command], (wireOf log).sent⟩ := by
    rw [wireOf_snoc, Wire.next, hrecv]
    rfl
  have hqueue : enqueued settings (log ++ [(s, .task (.writer .receive))]) =
      enqueued settings log := List.filterMap_snoc_none _ rfl
  have hcontents := Channel.contents_recv hrecv
  have hbefore := hs.queued (by rw [hwriter]; intro heq; cases heq)
  rw [hcontents] at hbefore
  have hsending := hs.sending
  rw [hwriter] at hsending
  obtain ⟨hsent, hclose⟩ := hsending
  constructor
  case queued =>
    intro _
    rw [hqueue, hwire, hchannel, hbefore, List.append_assoc]
    rfl
  case taken =>
    rw [hqueue, hwire, hbefore]
    exact ⟨channel.contents, by simp⟩
  case sending =>
    rw [hwire, hphase]
    rcases beginWrite_cases command with ⟨frame, hframe, hbegin⟩ | hreported
    · rw [hbegin]
      have hwriting : ∃ before command' frame', (wireOf log).taken ++ [command] =
          before ++ [command'] ∧ command'.frame? = some frame' ∧
          frame'.operation = frame.operation ∧
          (wireOf log).sent.map some = before.map WriterCommand.frame? ∧
          .close ∉ (wireOf log).sent :=
        ⟨(wireOf log).taken, command, frame, rfl, hframe, rfl, hsent, hclose⟩
      cases frame <;> exact hwriting
    · rw [hreported]
      refine ⟨?_, closesLast_of_not_mem hclose⟩
      rw [List.map_append, hsent]
      exact List.prefix_append _ _

/-- A completed write sends the frame of the command that was taken. -/
theorem Wire.Sending.next {wire : Wire} {operation : WriteOperation}
    (h : wire.Sending (.writing operation)) (hwriter : s.world.writer = .writing operation)
    (hoperation : operation ≠ .sinkClose) :
    let wire' := wire.next (s, .task (.writer (.written .completed)))
    wire'.sent.map some = wire'.taken.map WriterCommand.frame? ∧
      (operation ≠ .closeFrame → .close ∉ wire'.sent) ∧
      (operation = .closeFrame → ClosesLast wire'.sent) := by
  have hwriting : ∃ before command frame, wire.taken = before ++ [command] ∧
      command.frame? = some frame ∧ frame.operation = operation ∧
      wire.sent.map some = before.map WriterCommand.frame? ∧ .close ∉ wire.sent := by
    cases operation with
    | sinkClose => exact absurd rfl hoperation
    | _ => exact h
  obtain ⟨before, command, frame, htaken, hframe, hsame, hsent, hclose⟩ := hwriting
  have hnext : wire.next (s, .task (.writer (.written .completed))) =
      { wire with sent := wire.sent ++ [frame] } := by
    simp only [Wire.next, hwriter]
    rw [htaken]
    cases operation with
    | sinkClose => exact absurd rfl hoperation
    | _ => simp [hframe]
  rw [hnext]
  refine ⟨?_, fun hopen hmem => ?_, fun _ => closesLast_snoc hclose frame⟩
  · show (wire.sent ++ [frame]).map some = wire.taken.map WriterCommand.frame?
    rw [htaken, List.map_append, List.map_append, hsent, List.map_singleton, List.map_singleton,
      hframe]
  · rcases List.mem_append.mp hmem with hmem | hmem
    · exact hclose hmem
    · rw [← List.mem_singleton.mp hmem] at hsame
      exact hopen hsame.symm

/-- A write ends. -/
theorem Delivered.written (hs : Delivered settings log s) {operation : WriteOperation}
    (hwriter : s.world.writer = .writing operation) {outcome : WriteOutcome}
    (hworld : s'.world.writer =
      (endWrite settings.config.writeTimeoutMilliseconds operation outcome).1)
    (hchannel : s'.world.writer ≠ .finished →
      s'.world.writerChannel = s.world.writerChannel) :
    Delivered settings (log ++ [(s, .task (.writer (.written outcome)))]) s' := by
  have hqueue : enqueued settings (log ++ [(s, .task (.writer (.written outcome)))]) =
      enqueued settings log := List.filterMap_snoc_none _ rfl
  have hbefore := hs.queued (by rw [hwriter]; intro heq; cases heq)
  have htaken : (wireOf (log ++ [(s, .task (.writer (.written outcome)))])).taken =
      (wireOf log).taken := by
    rw [wireOf_snoc]
    cases outcome with
    | completed => cases operation <;> simp [Wire.next, hwriter]
    | _ => rfl
  have hsending := hs.sending
  constructor
  case queued =>
    intro hrunning
    rw [hqueue, htaken, hchannel hrunning]
    exact hbefore
  case taken =>
    rw [hqueue, htaken]
    exact hs.taken
  case sending =>
    rw [hworld]
    cases outcome with
    | failed error | elapsed =>
      rw [wireOf_snoc]
      exact hsending.ended
    | completed =>
      rw [wireOf_snoc]
      cases operation with
      | sinkClose =>
        rw [hwriter] at hsending
        simp only [Wire.next, hwriter]
        exact hsending.ended
      | closeFrame =>
        rw [hwriter] at hsending
        obtain ⟨hframes, hclose⟩ := hsending.next hwriter (by intro heq; cases heq)
        exact ⟨hframes, hclose.2 rfl⟩
      | _ =>
        rw [hwriter] at hsending
        obtain ⟨hframes, hclose⟩ := hsending.next hwriter (by intro heq; cases heq)
        exact ⟨hframes, hclose.1 (by intro heq; cases heq)⟩

theorem Delivered.writer (hs : Delivered settings log s) {choice : WriterChoice} {w : World}
    (hstep : s.world.taskStep settings (.writer choice) = some w) :
    Delivered settings (log ++ [(s, .task (.writer choice))]) { s with world := w } := by
  obtain ⟨-, moved, send, hmove, rfl⟩ := World.taskStep_eq_some hstep
  change s.world.moveWriter settings choice = some (moved, send) at hmove
  have hwriter : (moved.deliver (TaskAction.writer choice).task send).writer = moved.writer := by
    rw [deliver_frame]
  have hchannel : (moved.deliver (TaskAction.writer choice).task send).writerChannel =
      moved.writerChannel := by
    rw [deliver_frame]
  unfold World.moveWriter at hmove
  split at hmove
  case h_1 | h_2 =>
    split at hmove <;> cases hmove
    exact hs.finish rfl rfl (hwriter.trans (writer_setWriter _ _))
  case h_3 hphase =>
    split at hmove
    · cases hmove
    · split at hmove
      · cases hmove
      · rename_i command channel hrecv
        cases hmove
        exact hs.receive hphase hrecv hwriter hchannel
  case h_4 operation outcome hphase =>
    split at hmove <;> cases hmove
    apply hs.written hphase (hwriter.trans (writer_setWriter _ _))
    intro hrunning
    rw [hchannel]
    apply contents_setWriter
    rwa [hwriter, writer_setWriter] at hrunning
  case h_5 hphase =>
    cases hmove
    exact hs.finish rfl rfl (hwriter.trans (writer_setWriter _ _))
  case h_6 => cases hmove

theorem Delivered.task (hs : Delivered settings log s) {action : TaskAction} {w : World}
    (hstep : s.world.taskStep settings action = some w) :
    Delivered settings (log ++ [(s, .task action)]) { s with world := w } := by
  cases action with
  | writer choice => exact hs.writer hstep
  | pump index choice => exact hs.pump hstep
  | _ =>
    obtain ⟨-, moved, send, hmove, rfl⟩ := World.taskStep_eq_some hstep
    apply hs.enqueue (by rfl)
    · rw [deliver_frame, move_frame hmove]
      rfl
    · rw [deliver_frame, move_frame hmove]
      exact (List.append_nil _).symm

end Invariant

section Runs
variable {settings : SessionSettings} {id : ConnectionId} {metadata : Metadata}
  {log : Session.Log} {s : Session}

theorem delivered_of_run (hrun : Session.Run settings id metadata log s) :
    Delivered settings log s := by
  refine hrun.run.invariant (I := fun log s => Delivered settings log s)
    (delivered_start settings id metadata) fun log s action s' hs hstep => ?_
  cases action with
  | coordinator choice => exact hs.exchange hstep
  | task action =>
    obtain ⟨w, htask, rfl⟩ := Option.map_eq_some_iff.mp hstep
    exact hs.task htask

/-- In every run the frames on the socket are the queued commands in the order of the queue,
encoded, none left out and none sent twice. Nothing follows the close frame, and while the writer
is idle every queued command was sent or still waits. -/
theorem frames_follow_queue (settings : SessionSettings) (id : ConnectionId) (metadata : Metadata)
    (log : Session.Log) (s : Session) (hrun : Session.Run settings id metadata log s) :
    (wireOf log).sent.map some <+: (enqueued settings log).map WriterCommand.frame? ∧
    (∀ before after, (wireOf log).sent = before ++ .close :: after → after = []) ∧
    (s.world.writer = .receiving →
      (wireOf log).sent.map some ++ s.world.writerChannel.contents.map WriterCommand.frame? =
        (enqueued settings log).map WriterCommand.frame?) := by
  have hs := delivered_of_run hrun
  obtain ⟨hframes, hclose⟩ := hs.sending.ended
  refine ⟨hframes.trans (hs.taken.map _), hclose, fun hwriter => ?_⟩
  have hsending := hs.sending
  rw [hwriter] at hsending
  have hqueued := hs.queued (by rw [hwriter]; intro heq; cases heq)
  rw [hqueued, List.map_append, hsending.1]

/-- Two heartbeats and the close frame. -/
theorem frames_follow_queue_sample :
    ∃ log s, Session.Run (sampleSettings 1 4) (sampleId .connection) ⟨[]⟩ log s ∧
      (wireOf log).sent = [.nativePing [], .nativePing [], .close] ∧
      (wireOf log).sent.map some <+:
        (enqueued (sampleSettings 1 4) log).map WriterCommand.frame? := by
  obtain ⟨log, s, hrun, hcheck⟩ := exists_run_of_logged (sampleSettings 1 4)
    [.coordinator (.heartbeat false false), .coordinator .proceed,
      .coordinator (.heartbeat false false), .task (.writer .receive), .coordinator .proceed,
      .task (.writer (.written .completed)), .task (.writer .receive),
      .task (.reader (.next none)), .task (.writer (.written .completed)), .coordinator .reader,
      .coordinator .proceed, .task (.writer .receive), .task (.writer (.written .completed)),
      .task (.writer (.written .completed))]
    (fun log _ => (wireOf log).sent == [.nativePing [], .nativePing [], .close])
    rfl (by decide +kernel)
  exact ⟨log, s, hrun, by simpa using hcheck,
    (frames_follow_queue _ _ _ log s hrun).1⟩

end Runs
end OrbitRelay
