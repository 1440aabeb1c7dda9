import OrbitRelay.Transport.Ledger

/-! A writer that fails: it tells the coordinator before it cancels the session, and the loop
ends with that event. -/
namespace OrbitRelay
open Pausing

section Requests
variable {settings : SessionSettings} {h : CoordinatorTrace} {s : Coordinator}

/-- The event of the present turn is not the failure of the writer. -/
def NotFailed (h : CoordinatorTrace) (_ : Coordinator) : Prop :=
  ∀ error, (ledger h).event ≠ some (.writerFailed error)

/-- The loop asks for what an input leads to, and for nothing once the writer has failed. -/
def loopRequests : Contract CoordinatorRequest CoordinatorRequest.Answer Coordinator where
  rely _ _ _ _ := True
  guarantee h s q := NotFailed h s ∧
    (q.isSelect = true ∨ ∃ codec input, CoordinatorInput.asks codec input q = true)

/-- Only a `select!` changes the event. -/
theorem event_snoc {q : CoordinatorRequest} (hq : q.isSelect = false) (h : CoordinatorTrace)
    (s : Coordinator) (a : q.Answer) : (ledger (h ++ [⟨s, q, a⟩])).event = (ledger h).event := by
  rw [ledger_snoc]
  cases q with
  | select => cases hq
  | perform effect => cases effect <;> rfl
  | _ => rfl

theorem turn_requests (hs : NotFailed h s) :
    (turn settings).wp loopRequests (TurnPost NotFailed fun _ _ => True) h s := by
  rw [turn_eq, Proc.wp_bind, wp_select]
  refine ⟨⟨hs, .inl rfl⟩, fun input _ => ?_⟩
  have hevent : (ledger (h ++ [⟨s, .select, input⟩])).event = input.event? := by
    rw [ledger_snoc]
    rfl
  by_cases hfailed : ∃ error, input.event? = some (.writerFailed error)
  · obtain ⟨error, hinput⟩ := hfailed
    rcases input with _ | told | _
    · cases hinput
    · obtain rfl : told = some (.writerFailed error) := hinput
      trivial
    · cases hinput
  · have hnot : NotFailed (h ++ [⟨s, .select, input⟩]) s := by
      intro error heq
      exact hfailed ⟨error, hevent.symm.trans heq⟩
    refine Proc.wp_mono (Proc.wp_carry (I := fun h => NotFailed h s) (handleInput_asks input)
      (fun h s' q hs hq => ?_) (fun h s' q a hs hq _ => ?_) hnot) ?_
    · exact ⟨hs, .inr ⟨_, _, hq.1⟩⟩
    · intro error
      rw [event_snoc (isSelect_of_asks hq.1)]
      exact hs error
    · intro control h s' hpost
      cases control with
      | next => exact hpost.1
      | stop => trivial

variable {id : ConnectionId} {metadata : Metadata} {allowed : Session → SessionAction → Prop}

theorem requests_of_reachable {s : Session}
    (h : (Session.system settings id metadata allowed).Reachable s)
    (hloop : s.coordinator.isLooping = true) :
    ∃ p, s.coordinator.pending settings = some p ∧
      loopRequests.guarantee s.trace p.state p.request := by
  have hstart : NotFailed [] (.start settings (.new id metadata)) := by
    intro error heq
    cases heq
  exact Session.loop_of_reachable hstart (fun _ _ hs => turn_requests hs)
    (fun _ _ _ _ _ _ _ _ => trivial) h hloop

end Requests
section Writer
variable {settings : SessionSettings} {w w' : World}

/-- The writer was asked to close. -/
def WriterPhase.closes : WriterPhase → Bool
  | writing .closeFrame | writing .sinkClose => true
  | _ => false

/-- The writer has told of its failure and is about to cancel the session. -/
def WriterPhase.reports : WriterPhase → Bool
  | reported => true
  | _ => false

theorem beginWrite_open {command : WriterCommand} (h : command ≠ .close) :
    (beginWrite command).1.closes = false ∧ ((beginWrite command).1.reports = true →
      ∃ error, (beginWrite command).2 = some (.event (.writerFailed error))) := by
  cases command with
  | application message codec =>
    simp only [beginWrite]
    split
    · exact ⟨rfl, fun _ => ⟨_, rfl⟩⟩
    · split
      · exact ⟨rfl, (of_both · rfl)⟩
      · exact ⟨rfl, fun _ => ⟨_, rfl⟩⟩
  | nativePing payload | nativePong payload => exact ⟨rfl, (of_both · rfl)⟩
  | close => exact absurd rfl h

theorem endWrite_open {timeoutMilliseconds : UInt64} {operation : WriteOperation}
    {outcome : WriteOutcome} (h : (WriterPhase.writing operation).closes = false) :
    let r := endWrite timeoutMilliseconds operation outcome
    r.1.closes = false ∧ r.1 ≠ .finished ∧
      (r.1.reports = true → ∃ error, r.2 = some (.event (.writerFailed error))) := by
  cases outcome with
  | completed =>
    cases operation with
    | closeFrame | sinkClose => cases h
    | _ => exact ⟨rfl, (by intro heq; cases heq), (of_both · rfl)⟩
  | _ => exact ⟨rfl, (by intro heq; cases heq), fun _ => ⟨_, rfl⟩⟩

theorem setWriter_of_ne {phase : WriterPhase} (h : phase ≠ .finished) :
    w.setWriter phase = { w with writer := phase } := by
  cases phase with
  | finished => exact absurd rfl h
  | _ => rfl

/-- The writer that was not asked to close. -/
structure WriterOpen (w : World) : Prop where
  commands : .close ∉ w.writerChannel.contents
  phase : w.writer.closes = false
  closed : w.writerChannel.closed = true → w.cancelled = true

/-- What the writer tells before it cancels the session. -/
theorem moveWriter_open {choice : WriterChoice} {send : Option Send} (hw : WriterOpen w)
    (h : w.moveWriter settings choice = some (w', send)) :
    WriterOpen w' ∧ (w'.cancelled = true → w.cancelled = true ∨ w.writer.reports = true) ∧
      (w'.writer.reports = true → ∃ error, send = some (.event (.writerFailed error))) := by
  have hfinished (hcancelled : w.cancelled = true) : WriterOpen (w.setWriter .finished) :=
    ⟨List.not_mem_nil, rfl, fun _ => hcancelled⟩
  unfold World.moveWriter at h
  split at h
  case h_1 | h_2 =>
    split at h <;> cases h
    exact ⟨hfinished ‹_›, .inl, (of_both · rfl)⟩
  case h_3 =>
    split at h
    · cases h
    · split at h <;> cases h
      rename_i command channel hrecv
      have hcontents := Channel.contents_recv hrecv
      have hcommand : command ≠ .close := by
        rintro rfl
        exact hw.commands (hcontents ▸ List.mem_cons_self)
      obtain ⟨hphase, hreports⟩ := beginWrite_open hcommand
      refine ⟨⟨fun hmem => hw.commands ?_, hphase, fun hclosed => hw.closed ?_⟩, .inl, hreports⟩
      · rw [hcontents]
        exact List.mem_cons_of_mem _ hmem
      · rw [← Channel.closed_recv hrecv]
        exact hclosed
  case h_4 operation _ hwriter =>
    split at h <;> cases h
    have hoperation : (WriterPhase.writing operation).closes = false := hwriter ▸ hw.phase
    rename_i outcome _
    let r := endWrite settings.config.writeTimeoutMilliseconds operation outcome
    obtain ⟨hphase, hne, hreports⟩ : r.1.closes = false ∧ r.1 ≠ .finished ∧ _ :=
      endWrite_open hoperation
    have hset : w.setWriter r.1 = { w with writer := r.1 } := setWriter_of_ne hne
    have hopen : WriterOpen { w with writer := r.1 } := ⟨hw.commands, hphase, hw.closed⟩
    rw [← hset] at hopen
    have hlive := congrArg World.cancelled hset
    have hreports' := congrArg (fun w : World => w.writer.reports) hset
    exact ⟨hopen, fun hcancelled => .inl (hlive.symm.trans hcancelled),
      fun hreported => hreports (hreports'.symm.trans hreported)⟩
  case h_5 hwriter =>
    cases h
    refine ⟨⟨List.not_mem_nil, rfl, fun _ => rfl⟩, fun _ => .inr ?_, (of_both · rfl)⟩
    rw [hwriter]
    rfl
  case h_6 => cases h

/-- A pump leaves the writer open. -/
theorem WriterOpen.pump (hw : WriterOpen w) {pump : Pump} {choice : PumpChoice} {phase : PumpPhase}
    {channel : WriterChannel} {send : Option Send} (h : PumpMove w pump choice phase channel send) :
    .close ∉ channel.contents ∧ channel.closed = w.writerChannel.closed := by
  have hsent {command : WriterCommand} (hne : command ≠ .close)
      (hsent : w.writerChannel.trySend command = some channel) :
      .close ∉ channel.contents ∧ channel.closed = w.writerChannel.closed := by
    refine ⟨fun hmem => ?_, Channel.closed_trySend hsent⟩
    rw [Channel.contents_trySend hsent] at hmem
    rcases List.mem_append.mp hmem with hmem | hmem
    · exact hw.commands hmem
    · exact hne (List.mem_singleton.mp hmem).symm
  cases h with
  | forwarded _ h => exact hsent (by intro heq; cases heq) h
  | @failed error _ _ =>
    cases htry : w.writerChannel.trySend (pump.failureCommand error) with
    | none => exact ⟨hw.commands, rfl⟩
    | some channel' =>
      refine ⟨fun hmem => ?_, Channel.closed_trySend htry⟩
      rw [Option.getD_some, Channel.contents_trySend htry] at hmem
      rcases List.mem_append.mp hmem with hmem | hmem
      · exact hw.commands hmem
      · cases List.mem_singleton.mp hmem
  | _ => exact ⟨hw.commands, rfl⟩

/-- The requests that close the writer or cancel the session. -/
def CoordinatorRequest.closes : CoordinatorRequest → Bool
  | .sendClose | .perform .cancel | .enqueue (.writer .close) => true
  | _ => false

theorem closes_of_asks {codec : MessageCodec} {input : CoordinatorInput} {q : CoordinatorRequest}
    (h : input.asks codec q = true) : q.closes = false := by
  suffices hnot : q.closes = true → input.asks codec q = false by
    cases hcloses : q.closes with
    | false => rfl
    | true => exact of_both h (hnot hcloses)
  intro hcloses
  unfold CoordinatorRequest.closes at hcloses
  split at hcloses
  case h_4 => cases hcloses
  all_goals
    apply asks_eq_false rfl rfl
    · intro message _
      cases message <;> rfl
    · intro event _
      cases event <;> rfl

theorem commandOf_ne_close {s : Coordinator} {q : CoordinatorRequest} (hq : q.closes = false)
    (a : q.Answer) : commandOf ⟨s, q, a⟩ ≠ some .close := by
  intro heq
  unfold commandOf at heq
  split at heq
  case h_1 item hexchange =>
    cases hexchange
    cases item with
    | writer command =>
      obtain rfl := Option.some.inj heq
      cases hq
    | queryResponse codec version response limit =>
      obtain ⟨message, -, hmessage⟩ := Option.map_eq_some_iff.mp heq
      cases hmessage
    | _ => cases heq
  case h_2 hexchange =>
    cases hexchange
    cases hq
  case h_3 => cases heq

theorem writer_of_enqueue (item : Enqueue) :
    (w.enqueue item).2.writer = w.writer ∧ (w.enqueue item).2.cancelled = w.cancelled ∧
      (w.enqueue item).2.writerChannel.closed = w.writerChannel.closed := by
  have hattempt (command : Option WriterCommand) :
      (w.attempt (command.bind w.writerChannel.trySend)).2.writer = w.writer ∧
      (w.attempt (command.bind w.writerChannel.trySend)).2.cancelled = w.cancelled ∧
      (w.attempt (command.bind w.writerChannel.trySend)).2.writerChannel.closed =
        w.writerChannel.closed := by
    cases hsent : command.bind w.writerChannel.trySend with
    | none => exact ⟨rfl, rfl, rfl⟩
    | some channel =>
      obtain ⟨command, -, hchannel⟩ := Option.bind_eq_some_iff.mp hsent
      exact ⟨rfl, rfl, Channel.closed_trySend hchannel⟩
  cases item with
  | action job | query job =>
    simp only [World.enqueue]
    split
    · exact ⟨rfl, rfl, rfl⟩
    · exact ⟨rfl, rfl, rfl⟩
  | _ =>
    rw [w.enqueue_eq_attempt (by intro job heq; cases heq) (by intro job heq; cases heq)]
    exact hattempt _

/-- Other requests leave the writer and the token alone. -/
theorem writer_of_respond {q : CoordinatorRequest} {choice : CoordinatorChoice} {a : q.Answer}
    (h : w.respond q choice = some (a, w')) (hq : q.closes = false) :
    w'.writer = w.writer ∧ w'.cancelled = w.cancelled ∧
      w'.writerChannel.closed = w.writerChannel.closed := by
  unfold World.respond at h
  split at h
  case h_1 | h_2 =>
    split at h
    · cases h
      exact ⟨rfl, rfl, rfl⟩
    · first
      | cases h
      | split at h <;> cases h
        exact ⟨rfl, rfl, rfl⟩
  case h_4 item =>
    have hworld : (w.enqueue item).2 = w' := congrArg Prod.snd (Option.some.inj h)
    exact hworld ▸ writer_of_enqueue item
  case h_5 effect =>
    obtain ⟨performed, hperform, heq⟩ := Option.map_eq_some_iff.mp h
    cases heq
    cases effect with
    | cancel => cases hq
    | join task =>
      simp only [World.perform] at hperform
      split at hperform <;> cases hperform
      exact ⟨rfl, rfl, rfl⟩
    | _ =>
      cases hperform
      exact ⟨rfl, rfl, rfl⟩
  case h_11 => cases hq
  case h_12 | h_13 | h_14 =>
    split at h <;> cases h
    exact ⟨rfl, rfl, rfl⟩
  case h_15 => cases h
  all_goals
    cases h
    exact ⟨rfl, rfl, rfl⟩

/-- The writer has not closed, and its failure is on its way to the coordinator before the session
is cancelled. -/
structure WriterTold (h : CoordinatorTrace) (w : World) : Prop extends WriterOpen w where
  told : w.cancelled = true ∨ w.writer.reports = true → ∃ error,
    .writerFailed error ∈ w.eventChannel.contents ∨ (ledger h).event = some (.writerFailed error)

theorem WriterTold.task {h : CoordinatorTrace} (hw : WriterTold h w) {action : TaskAction}
    (hstep : w.taskStep settings action = some w') : WriterTold h w' := by
  have hcontents := contents_taskStep hstep
  have hkept (error : WebSocketAdapterError)
      (htold : .writerFailed error ∈ w.eventChannel.contents ∨
        (ledger h).event = some (.writerFailed error)) :
      .writerFailed error ∈ w'.eventChannel.contents ∨
        (ledger h).event = some (.writerFailed error) := by
    rw [hcontents]
    exact htold.imp_left (List.mem_append_left _)
  obtain ⟨-, moved, send, hmove, heq⟩ := World.taskStep_eq_some hstep
  rw [deliver_frame] at heq
  cases action with
  | writer choice =>
    obtain ⟨hopen, hcancelled, hreports⟩ := moveWriter_open hw.toWriterOpen hmove
    refine ⟨?_, fun hfailed => ?_⟩
    · rw [heq]
      exact ⟨hopen.commands, hopen.phase, hopen.closed⟩
    · rw [heq] at hfailed
      rcases hfailed with hfailed | hfailed
      · obtain ⟨error, htold⟩ := hw.told (hcancelled hfailed)
        exact ⟨error, hkept error htold⟩
      · obtain ⟨error, rfl⟩ := hreports hfailed
        refine ⟨error, .inl ?_⟩
        rw [hcontents, World.told, hmove]
        exact List.mem_append_right _ (List.mem_singleton_self _)
  | pump index choice =>
    obtain ⟨pump, phase, channel, sent, -, hpumpMove, -, hchannel, -⟩ := pumpMove_of_taskStep hstep
    obtain ⟨hcommands, hclosed⟩ := hw.pump hpumpMove
    rw [← hchannel] at hcommands hclosed
    rw [move_frame hmove] at heq
    have hwriter : w'.writer = w.writer := by
      rw [heq]
      rfl
    have hlive : w'.cancelled = w.cancelled := by
      rw [heq]
      rfl
    refine ⟨⟨hcommands, ?_, ?_⟩, ?_⟩
    · rw [hwriter]
      exact hw.phase
    · rw [hclosed, hlive]
      exact hw.closed
    · rw [hwriter, hlive]
      intro hfailed
      obtain ⟨error, htold⟩ := hw.told hfailed
      exact ⟨error, hkept error htold⟩
  | _ =>
    rw [move_frame hmove] at heq
    refine ⟨?_, fun hfailed => ?_⟩
    · rw [heq]
      exact ⟨hw.commands, hw.phase, hw.closed⟩
    · rw [heq] at hfailed
      obtain ⟨error, htold⟩ := hw.told hfailed
      exact ⟨error, hkept error htold⟩

/-- An exchange of the loop. -/
theorem WriterTold.exchange {h : CoordinatorTrace} (hw : WriterTold h w) {s : Coordinator}
    {q : CoordinatorRequest} {choice : CoordinatorChoice} {a : q.Answer}
    (hq : loopRequests.guarantee h s q) (hrespond : w.respond q choice = some (a, w')) :
    WriterTold (h ++ [⟨s, q, a⟩]) w' := by
  obtain ⟨hnot, hrequest⟩ := hq
  have hcloses : q.closes = false := by
    rcases hrequest with hselect | ⟨codec, input, hasks⟩
    · cases q with
      | select => rfl
      | _ => cases hselect
    · exact closes_of_asks hasks
  have hresponded := responded_of_respond hrespond s
  obtain ⟨hwriter, hlive, hclosed⟩ := writer_of_respond hrespond hcloses
  refine ⟨⟨?_, ?_, ?_⟩, ?_⟩
  · rw [hresponded.commands]
    intro hmem
    rcases List.mem_append.mp hmem with hmem | hmem
    · exact hw.commands hmem
    · exact commandOf_ne_close hcloses a (Option.mem_toList.mp hmem)
  · rw [hwriter]
    exact hw.phase
  · rw [hclosed, hlive]
    exact hw.closed
  · rw [hwriter, hlive]
    intro hfailed
    obtain ⟨error, htold | htold⟩ := hw.told hfailed
    · refine ⟨error, ?_⟩
      rw [hresponded.events] at htold
      rcases List.mem_append.mp htold with htold | htold
      · right
        rw [ledger_snoc]
        cases q with
        | select =>
          change CoordinatorInput at a
          cases a with
          | event told => exact Option.mem_toList.mp htold
          | _ => cases htold
        | _ => cases htold
      · exact .inl htold
    · exact absurd htold (hnot error)

variable {id : ConnectionId} {metadata : Metadata} {allowed : Session → SessionAction → Prop}

/-- While the loop runs, a cancelled session has the writer's failure in front of it. -/
theorem writerTold_of_reachable {s : Session}
    (h : (Session.system settings id metadata allowed).Reachable s)
    (hloop : s.coordinator.isLooping = true) : WriterTold s.trace s.world := by
  have hboth : (Session.system settings id metadata fun _ _ => True).Reachable s ∧
      (s.coordinator.isLooping = true → WriterTold s.trace s.world) := by
    refine (Session.reachable_of_allowed h).invariant (I := fun s =>
      (Session.system settings id metadata fun _ _ => True).Reachable s ∧
        (s.coordinator.isLooping = true → WriterTold s.trace s.world))
      (fun s hinit => ⟨.init hinit, fun _ => ?_⟩) fun s s' ⟨hreach, hs⟩ hstep =>
        ⟨hreach.step hstep, fun hloop => ?_⟩
    · rw [hinit.2]
      refine ⟨⟨List.not_mem_nil, rfl, (of_both · rfl)⟩, ?_⟩
      rintro (hfailed | hfailed)
      · exact of_both hfailed rfl
      · exact of_both hfailed rfl
    · obtain ⟨action, -, hstep⟩ := hstep
      cases action with
      | coordinator choice =>
        obtain ⟨p, a, w, hp, hrespond, rfl⟩ := Session.step_coordinator_eq_some hstep
        have hbefore := CoordinatorTask.looping_of_resume hp hloop
        obtain ⟨p', hp', hq⟩ := requests_of_reachable hreach hbefore
        obtain rfl : p' = p := Option.some.inj (hp'.symm.trans hp)
        exact (hs hbefore).exchange hq hrespond
      | task action =>
        obtain ⟨w, htask, rfl⟩ := Option.map_eq_some_iff.mp hstep
        exact (hs hloop).task htask
  exact hboth.2 hloop

/-- The failure of the writer is still to be received. -/
theorem failing_of_cancelled {s : Session}
    (h : (Session.system settings id metadata allowed).Reachable s)
    (hloop : s.coordinator.isLooping = true) (hcancelled : s.world.cancelled = true) :
    ∃ error, .writerFailed error ∈ s.world.eventChannel.contents := by
  obtain ⟨p, -, hnot, -⟩ := requests_of_reachable h hloop
  obtain ⟨error, htold | htold⟩ := (writerTold_of_reachable h hloop).told (.inl hcancelled)
  · exact ⟨error, htold⟩
  · exact absurd htold (hnot error)

end Writer
end OrbitRelay
