import OrbitRelay.Transport.Turns

/-! Waits of the coordinator for its child tasks. While it waits, nothing is taken from the
reader channel and the event channel, so a task that is parked in front of one of them never
ends. -/
namespace OrbitRelay
open Pausing

/-- The task that a request waits for. -/
def CoordinatorRequest.awaited : CoordinatorRequest → Option TaskId
  | .perform (.join task) => some task
  | .awaitWriter => some .writer
  | _ => none

/-- The task that the coordinator waits for. -/
def Session.awaited (settings : SessionSettings) (s : Session) : Option TaskId :=
  (s.coordinator.pending settings).bind fun p => p.request.awaited

/-- The request cancels the token of an event pump. -/
def CoordinatorRequest.cancelsPump : CoordinatorRequest → Bool
  | .perform (.cancelPump _) => true
  | _ => false

/-- The coordinator stops tasks to wait for them: it has left its loop, or it cancels an event
pump. -/
def Session.stopping (settings : SessionSettings) (s : Session) : Bool :=
  ! s.coordinator.isLooping || (s.coordinator.pending settings).any (·.request.cancelsPump)

/-- Neither channel that the coordinator receives from is full. -/
def World.HasRoom (w : World) : Prop := w.readerChannel.HasRoom ∧ w.eventChannel.HasRoom

instance (w : World) : Decidable w.HasRoom := inferInstanceAs (Decidable (_ ∧ _))

/-- The steps that leave an awaited task room to finish: neither channel is full while the
coordinator stops tasks, nor when a task that it waits for takes a step. -/
def RoomToFinish (settings : SessionSettings) (s : Session) : SessionAction → Prop
  | .coordinator _ => s.stopping settings = true → s.world.HasRoom
  | .task action => s.awaited settings = some action.task → s.world.HasRoom

instance (settings : SessionSettings) (s : Session) (action : SessionAction) :
    Decidable (RoomToFinish settings s action) :=
  match action with
  | .coordinator _ => inferInstanceAs (Decidable (_ → _))
  | .task _ => inferInstanceAs (Decidable (_ → _))

section Stopping
variable {settings : SessionSettings} {h : CoordinatorTrace} {s : Coordinator}
  {q : CoordinatorRequest}

/-- In the loop, a task is waited for right after an event pump was cancelled. -/
def joinsCancelled : Contract CoordinatorRequest CoordinatorRequest.Answer Coordinator where
  rely _ _ _ _ := True
  guarantee h _ q := q.awaited.isSome = true →
    ∃ e, h.getLast? = some e ∧ e.request.cancelsPump = true

theorem joinsCancelled_of_awaits_none (hq : q.awaited = none) : joinsCancelled.guarantee h s q := by
  intro hsome
  rw [hq] at hsome
  cases hsome

/-- The token is cancelled before the join. -/
theorem stopPump_joinsCancelled (handle : SubscriptionHandle)
    {post : Unit → CoordinatorTrace → Coordinator → Prop} (hpost : ∀ h, post () h s) :
    (stopPump handle).wp joinsCancelled post h s := by
  simp only [wp_stopPump, wp_perform]
  refine ⟨joinsCancelled_of_awaits_none rfl, fun _ _ => ⟨fun _ => ?_, fun _ _ => hpost _⟩⟩
  exact ⟨_, List.getLast?_concat, rfl⟩

theorem handleUnsubscribe_joinsCancelled (unsubscribe : Unsubscribe) :
    (handleUnsubscribe unsubscribe).run.wp joinsCancelled (fun _ _ _ => True) h s := by
  refine wp_whenReady (fun _ _ => trivial) fun _ => ?_
  simp only [Proc.wp_run_bind, Proc.wp_run_get, Proc.afterResult_ok]
  cases removeSubscription unsubscribe.subscriptionId s with
  | none =>
    simp only [Proc.wp_run_bind, Proc.wp_run_get, Proc.afterResult_ok, wp_required, wp_enqueue]
    exact ⟨joinsCancelled_of_awaits_none rfl, fun _ _ => trivial⟩
  | some found =>
    obtain ⟨handle, s'⟩ := found
    simp only [Proc.wp_run_bind, Proc.wp_run_set, Proc.afterResult_ok, Proc.wp_run_liftM]
    refine stopPump_joinsCancelled handle fun h => ?_
    simp only [Proc.wp_run_bind, Proc.wp_run_get, Proc.afterResult_ok, wp_required, wp_enqueue]
    exact ⟨joinsCancelled_of_awaits_none rfl, fun _ _ => trivial⟩

/-- Only `Unsubscribe` makes the coordinator wait for a task. -/
theorem InboundMessage.awaited_of_asks {message : InboundMessage} (hq : message.asks q = true)
    (hmessage : ∀ unsubscribe, message ≠ .unsubscribe unsubscribe) : q.awaited = none := by
  unfold InboundMessage.asks at hq
  split at hq
  all_goals first | rfl | exact absurd rfl (hmessage _) | cases hq

theorem CoordinatorEvent.awaited_of_asks {event : CoordinatorEvent} (hq : event.asks q = true)
    (hevent : event.subscribes = false) : q.awaited = none := by
  unfold CoordinatorEvent.asks at hq
  split at hq
  all_goals first | rfl | cases hevent | cases hq

theorem handleMessage_joinsCancelled {message : InboundMessage}
    (hsubscribes : message.subscribes = true) :
    (handleMessage settings message).wp joinsCancelled (fun _ _ _ => True) h s := by
  have hinbound :
      (handleInbound settings message).run.wp joinsCancelled (fun _ _ _ => True) h s := by
    cases message with
    | subscribe request =>
      have hasks := @handleInbound_asks settings h s (.subscribe request)
      refine Proc.wp_mono (Proc.wp_carry (I := fun _ => True) hasks (fun h s q _ hq => ?_)
        (fun _ _ _ _ _ _ _ => trivial) trivial) fun _ _ _ _ => trivial
      exact joinsCancelled_of_awaits_none (InboundMessage.awaited_of_asks hq.1 nofun)
    | unsubscribe unsubscribe => exact handleUnsubscribe_joinsCancelled unsubscribe
    | _ => cases hsubscribes
  unfold handleMessage
  rw [Proc.wp_bind]
  refine Proc.wp_mono hinbound fun result h s _ => ?_
  cases result with
  | ok => trivial
  | error error =>
    simp only [Proc.wp_bind, Proc.wp_get, Proc.wp_ite, wp_enqueue]
    exact ⟨joinsCancelled_of_awaits_none rfl, fun _ _ => ⟨fun _ => trivial, fun _ => trivial⟩⟩

theorem handleCoordinatorEvent_joinsCancelled {event : CoordinatorEvent}
    (hsubscribes : event.subscribes = true) :
    (handleCoordinatorEvent settings event).wp joinsCancelled (fun _ _ _ => True) h s := by
  cases event with
  | subscriptionFinished id =>
    simp only [handleCoordinatorEvent, Proc.wp_bind, Proc.wp_get]
    cases removeSubscription id s with
    | none => trivial
    | some found =>
      obtain ⟨handle, s'⟩ := found
      simp only [Proc.wp_bind, Proc.wp_get, Proc.wp_set]
      refine stopPump_joinsCancelled handle fun h => ?_
      simp only [wp_enqueue, wp_orSlowConsumer]
      exact ⟨joinsCancelled_of_awaits_none rfl, fun _ _ => ⟨fun _ => trivial, fun _ => trivial⟩⟩
  | eventSourceFailed id error fatal queued =>
    simp only [handleCoordinatorEvent, Proc.wp_ite, Proc.wp_bind, Proc.wp_get]
    refine ⟨fun _ => trivial, fun _ => ?_⟩
    cases removeSubscription id s with
    | none => trivial
    | some found =>
      obtain ⟨handle, s'⟩ := found
      simp only [Proc.wp_bind, Proc.wp_set, Proc.wp_pure]
      exact stopPump_joinsCancelled handle fun _ => trivial
  | _ => cases hsubscribes

/-- Only what may change the subscriptions makes the coordinator wait for a task. -/
theorem awaited_of_asks {codec : MessageCodec} {input : CoordinatorInput}
    (hplain : input.subscribes codec = false) (hq : input.asks codec q = true) :
    q.awaited = none := by
  obtain ⟨hmessage, hevent⟩ := Bool.or_eq_false_iff.mp hplain
  by_contra hawaited
  have herror : q.isError = false := by
    unfold CoordinatorRequest.isError
    split
    · exact absurd rfl hawaited
    · rfl
  have hheartbeat : q.isHeartbeat = false := by
    unfold CoordinatorRequest.isHeartbeat
    split
    · exact absurd rfl hawaited
    · exact absurd rfl hawaited
    · rfl
  refine of_both hq (asks_eq_false herror hheartbeat (fun message hmem => ?_)
    fun event hinput => ?_)
  · rw [Option.mem_def.mp hmem] at hmessage
    refine Bool.eq_false_iff.mpr fun hasks => hawaited (message.awaited_of_asks hasks ?_)
    rintro unsubscribe rfl
    cases hmessage
  · subst hinput
    exact Bool.eq_false_iff.mpr fun hasks => hawaited (event.awaited_of_asks hasks hevent)

theorem handleInput_joinsCancelled (input : CoordinatorInput) :
    (handleInput settings input).wp joinsCancelled (fun _ _ _ => True) h s := by
  cases hsubscribes : input.subscribes s.activeCodec with
  | false =>
    refine Proc.wp_mono (Proc.wp_carry (I := fun _ => True) (handleInput_asks input)
      (fun h s q _ hq => ?_) (fun _ _ _ _ _ _ _ => trivial) trivial) fun _ _ _ _ => trivial
    exact joinsCancelled_of_awaits_none (awaited_of_asks hsubscribes hq.1)
  | true =>
    rcases Bool.or_eq_true_iff.mp hsubscribes with hmessage | hevent
    · obtain ⟨message, hmem, hsubscribes⟩ := (Option.any_eq_true _ _).mp hmessage
      obtain ⟨bytes, rfl, hdecoded⟩ := message_eq_some hmem
      simp only [handleInput, handleReaderEvent, handleText, Proc.wp_bind, Proc.wp_get, hdecoded]
      cases message with
      | subscribe _ | unsubscribe _ => exact handleMessage_joinsCancelled rfl
      | _ => cases hsubscribes
    · rcases input with _ | (_ | event) | _
      · cases hevent
      · cases hevent
      · exact handleCoordinatorEvent_joinsCancelled hevent
      · cases hevent

theorem turn_joinsCancelled :
    (turn settings).wp joinsCancelled (TurnPost (fun _ _ => True) fun _ _ => True) h s := by
  rw [turn_eq, Proc.wp_bind, wp_select]
  refine ⟨joinsCancelled_of_awaits_none rfl, fun input _ => ?_⟩
  refine Proc.wp_mono (handleInput_joinsCancelled input) fun control _ _ _ => ?_
  cases control <;> trivial

/-- The shutdown begins with the writer. -/
theorem awaited_of_shutdown {p : CoordinatorTask.Pending}
    (hp : (CoordinatorTask.closing (shutdown settings s)).pending settings = some p) :
    p.request.awaited = none := by
  obtain ⟨_, _, _, _, fatalError, fatalErrorQueued, gracefulClose⟩ := s
  cases gracefulClose <;> cases fatalError <;> cases fatalErrorQueued <;>
    obtain rfl := Option.some.inj hp <;> rfl

end Stopping

section Moves
variable {settings : SessionSettings} {w w' : World} {send : Option Send}

/-- The channels that the coordinator receives from. -/
def World.inbound (w : World) : Channel TaskId ReaderEvent × Channel TaskId CoordinatorEvent :=
  (w.readerChannel, w.eventChannel)

/-- A move of a task takes nothing from the coordinator's channels; what it puts there is its
send. -/
theorem inbound_move {action : TaskAction} (h : w.move settings action = some (w', send)) :
    w'.inbound = w.inbound := by
  rw [move_frame h]
  cases action <;> rfl

end Moves

section Waits
variable {settings : SessionSettings} {w w' : World} {task : TaskId}

theorem blocked_congr (h : w'.inbound = w.inbound) : w'.Blocked task ↔ w.Blocked task := by
  have hreader : w'.readerChannel = w.readerChannel := congrArg Prod.fst h
  have hevent : w'.eventChannel = w.eventChannel := congrArg Prod.snd h
  unfold World.Blocked
  rw [hreader, hevent]

theorem hasRoomFor_congr (h : w'.inbound = w.inbound) (send : Send) :
    w'.HasRoomFor send ↔ w.HasRoomFor send := by
  have hreader : w'.readerChannel = w.readerChannel := congrArg Prod.fst h
  have hevent : w'.eventChannel = w.eventChannel := congrArg Prod.snd h
  cases send <;> simp only [World.HasRoomFor, hreader, hevent]

/-- A task comes to wait only by a send of its own that finds no room. -/
theorem blocked_of_deliver {sender : TaskId} {send : Option Send}
    (h : (w.deliver sender send).Blocked task) :
    w.Blocked task ∨ task = sender ∧ ∃ item ∈ send, ¬ w.HasRoomFor item := by
  rcases send with _ | ⟨event⟩ | ⟨event⟩
  · exact .inl h
  · rcases h with h | h
    · rcases Channel.parked_of_send h with h | ⟨heq, hfull⟩
      · exact .inl (.inl h)
      · exact .inr ⟨heq, _, rfl, hfull⟩
    · exact .inl (.inr h)
  · rcases h with h | h
    · exact .inl (.inl h)
    · rcases Channel.parked_of_send h with h | ⟨heq, hfull⟩
      · exact .inl (.inr h)
      · exact .inr ⟨heq, _, rfl, hfull⟩

theorem inbound_attempt (channel : Option WriterChannel) :
    (w.attempt channel).2.inbound = w.inbound := by
  cases channel <;> rfl

theorem inbound_enqueue (item : Enqueue) : (w.enqueue item).2.inbound = w.inbound := by
  cases item with
  | application _ _ | queryResponse _ _ _ _ | error _ _ _ | writer _ => exact inbound_attempt _
  | action job =>
    simp only [World.enqueue]
    split <;> rfl
  | query job =>
    simp only [World.enqueue]
    split <;> rfl

theorem inbound_perform {effect : Effect} (h : w.perform effect = some w') :
    w'.inbound = w.inbound := by
  cases effect with
  | join task =>
    simp only [World.perform] at h
    split at h <;> cases h
    rfl
  | _ =>
    cases h
    rfl

/-- Answering the coordinator makes no task wait. -/
theorem blocked_of_respond {request : CoordinatorRequest} {choice : CoordinatorChoice}
    {a : request.Answer} (hrespond : w.respond request choice = some (a, w'))
    (h : w'.Blocked task) : w.Blocked task := by
  unfold World.respond at hrespond
  split at hrespond
  case h_1 =>
    split at hrespond
    case h_1 hrecv =>
      cases hrespond
      exact h.imp_left (Channel.parked_of_recv hrecv)
    case h_2 =>
      split at hrespond <;> cases hrespond
      exact h
  case h_2 =>
    split at hrespond <;> cases hrespond
    exact h.imp_right (Channel.parked_of_recv ‹_›)
  case h_4 item =>
    have hworld : (w.enqueue item).2 = w' := congrArg Prod.snd (Option.some.inj hrespond)
    exact (blocked_congr (hworld ▸ inbound_enqueue item)).mp h
  case h_5 =>
    obtain ⟨performed, hperform, heq⟩ := Option.map_eq_some_iff.mp hrespond
    cases heq
    exact (blocked_congr (inbound_perform hperform)).mp h
  case h_11 =>
    split at hrespond
    · cases hrespond
      exact h
    · split at hrespond <;> cases hrespond
      exact h
  case h_12 | h_13 | h_14 =>
    split at hrespond <;> cases hrespond
    exact h
  case h_15 => cases hrespond
  -- The other answers leave the channels as they are.
  all_goals
    cases hrespond
    exact h

/-- A step of a task leaves an awaited task free, if its sends find room. -/
theorem blocked_of_taskStep {action : TaskAction} (hstep : w.taskStep settings action = some w')
    (h : w'.Blocked task) :
    w.Blocked task ∨ task = action.task ∧
      ∃ moved ∈ w.move settings action, ∃ send ∈ moved.2, ¬ w.HasRoomFor send := by
  obtain ⟨-, moved, send, hmove, rfl⟩ := World.taskStep_eq_some hstep
  have hinbound := inbound_move hmove
  rcases blocked_of_deliver h with h | ⟨heq, item, hitem, hfull⟩
  · exact .inl ((blocked_congr hinbound).mp h)
  · rw [hasRoomFor_congr hinbound] at hfull
    exact .inr ⟨heq, _, hmove, item, hitem, hfull⟩

end Waits

section Session
variable {settings : SessionSettings} {id : ConnectionId} {metadata : Metadata}

/-- No task waits in front of a channel that is not full. -/
theorem World.HasRoom.not_blocked {w : World} (h : w.HasRoom) (task : TaskId) :
    ¬ w.Blocked task := by
  rintro (hparked | hparked)
  · exact Channel.not_parked_of_hasRoom h.1 task hparked
  · exact Channel.not_parked_of_hasRoom h.2 task hparked

theorem World.HasRoom.hasRoomFor {w : World} (h : w.HasRoom) (send : Send) : w.HasRoomFor send := by
  cases send with
  | reader event => exact h.1
  | event event => exact h.2

/-- The loop is followed by the shutdown. -/
theorem closing_of_resume {task : CoordinatorTask} {p : CoordinatorTask.Pending}
    {a : p.request.Answer}
    {program : CoordinatorProgram (Except WebSocketAdapterError Unit × Coordinator)}
    (hp : task.pending settings = some p) (hloop : task.isLooping = true)
    (hresume : p.resume a = .closing program) : ∃ state, program = shutdown settings state := by
  cases task with
  | looping current =>
    cases current with
    | done r => cases hp
    | ask state q k =>
      cases hp
      change CoordinatorTask.afterTurn settings (k a) = .closing program at hresume
      unfold CoordinatorTask.afterTurn at hresume
      split at hresume <;> cases hresume
      exact ⟨_, rfl⟩
  | closing _ | finished _ _ => cases hloop

/-- The coordinator comes to wait for a task only out of a step in which it stops tasks. -/
theorem stopping_of_awaited {allowed : Session → SessionAction → Prop} {s s' : Session}
    {choice : CoordinatorChoice} {task : TaskId}
    (hreach : (Session.system settings id metadata allowed).Reachable s')
    (hstep : s.step settings (.coordinator choice) = some s')
    (hawaited : s'.awaited settings = some task) : s.stopping settings = true := by
  unfold Session.stopping
  cases hloop : s.coordinator.isLooping with
  | false => rfl
  | true =>
    obtain ⟨p, a, w, hp, -, rfl⟩ := Session.step_coordinator_eq_some hstep
    obtain ⟨p', hp', hawaited⟩ := Option.bind_eq_some_iff.mp hawaited
    cases hresume : p.resume a with
    | looping program =>
      have hturn : ∀ h s, True → (turn settings).wp joinsCancelled
          (TurnPost (fun _ _ => True) fun _ _ => True) h s :=
        fun _ _ _ => turn_joinsCancelled
      obtain ⟨current, hcurrent, hpromise⟩ := Session.loop_of_reachable (by trivial) hturn
        (fun _ _ _ _ _ _ _ _ => trivial) hreach (by rw [hresume]; rfl)
      obtain rfl := Option.some.inj (hp'.symm.trans hcurrent)
      obtain ⟨e, hlast, hcancels⟩ := hpromise (Option.isSome_of_eq_some hawaited)
      obtain rfl := Option.some.inj (List.getLast?_concat.symm.trans hlast)
      rw [hp]
      exact hcancels
    | closing program =>
      obtain ⟨state, rfl⟩ := closing_of_resume hp hloop hresume
      rw [hresume] at hp'
      cases (awaited_of_shutdown hp').symm.trans hawaited
    | finished result state =>
      rw [hresume] at hp'
      cases hp'

/-- The coordinator does not wait for a task that waits for it. -/
def WaitsFreely (settings : SessionSettings) (s : Session) : Prop :=
  ∀ task ∈ s.awaited settings, ¬ s.world.Blocked task

theorem waitsFreely_start :
    WaitsFreely settings (.start settings id metadata) := by
  intro task htask
  cases htask

theorem WaitsFreely.step {allowed : Session → SessionAction → Prop} {s s' : Session}
    {action : SessionAction} (hs : WaitsFreely settings s)
    (hreach : (Session.system settings id metadata allowed).Reachable s')
    (hroom : RoomToFinish settings s action) (hstep : s.step settings action = some s') :
    WaitsFreely settings s' := by
  intro task htask hblocked
  cases action with
  | coordinator choice =>
    have hfree := hroom (stopping_of_awaited hreach hstep htask)
    obtain ⟨p, a, w, -, hrespond, rfl⟩ := Session.step_coordinator_eq_some hstep
    exact hfree.not_blocked task (blocked_of_respond hrespond hblocked)
  | task action =>
    obtain ⟨w, htaskStep, rfl⟩ := Option.map_eq_some_iff.mp hstep
    rcases blocked_of_taskStep htaskStep hblocked with hblocked | ⟨heq, hfull⟩
    · exact hs task htask hblocked
    · obtain ⟨moved, -, send, -, hfull⟩ := hfull
      subst heq
      exact hfull ((hroom htask).hasRoomFor send)

theorem waitsFreely_of_reachable {s : Session}
    (hreach : (Session.system settings id metadata (RoomToFinish settings)).Reachable s) :
    WaitsFreely settings s := by
  induction hreach with
  | init hinit =>
    rw [hinit.2]
    exact waitsFreely_start
  | step hreach hstep ih =>
    obtain ⟨action, hroom, hstep⟩ := hstep
    exact ih.step (hreach.step ⟨action, hroom, hstep⟩) hroom hstep

/-- In every run whose steps leave awaited tasks room to finish, no task that the coordinator
waits for waits in a send to the coordinator. -/
theorem awaited_not_blocked (settings : SessionSettings) (id : ConnectionId)
    (metadata : Metadata) (s : Session)
    (hreach : (Session.system settings id metadata (RoomToFinish settings)).Reachable s)
    (task : TaskId) (hawaited : s.awaited settings = some task) : ¬ s.world.Blocked task :=
  waitsFreely_of_reachable hreach task hawaited

/-- The reader sends the event of a pong. -/
def samplePong : SessionAction := .task (.reader (.next (some (.ok .pong))))

/-- The shutdown of a session without subscriptions, up to the join of the reader. -/
def sampleShutdown : List SessionAction :=
  [.coordinator .proceed, .task (.writer .receive), .task (.writer (.written .completed)),
    .task (.writer (.written .completed)), .coordinator .proceed, .coordinator .proceed,
    .coordinator .proceed, .coordinator (.order [])]

theorem awaited_not_blocked_close :
    ∃ s, (sampleSystem (sampleSettings 2 1) (RoomToFinish (sampleSettings 2 1))).Reachable s ∧
      s.awaited (sampleSettings 2 1) = some .reader ∧ ¬ s.world.Blocked .reader := by
  obtain ⟨s, p, hreach, -, hcheck⟩ := exists_pending_of_run (sampleSettings 2 1)
    (RoomToFinish (sampleSettings 2 1)) (sampleText sampleClose ++ samplePong :: sampleShutdown)
    (fun s _ => s.awaited (sampleSettings 2 1) == some .reader) rfl (by decide +kernel)
  have hawaited : s.awaited (sampleSettings 2 1) = some .reader := eq_of_beq hcheck
  exact ⟨s, hreach, hawaited, awaited_not_blocked _ _ _ s hreach _ hawaited⟩

/-- A client that sends two frames after its close message blocks the reader for good: the
second finds the channel full, and the coordinator joins the reader. -/
theorem reader_blocked_at_close :
    ∃ s, (sampleSystem (sampleSettings 1 1) fun _ _ => True).Reachable s ∧
      s.awaited (sampleSettings 1 1) = some .reader ∧ s.world.Blocked .reader := by
  obtain ⟨s, p, hreach, -, hcheck⟩ := exists_pending_of_run (sampleSettings 1 1) (fun _ _ => True)
    (sampleText sampleClose ++ samplePong :: .task (.reader .resume) :: samplePong ::
      sampleShutdown)
    (fun s _ => s.awaited (sampleSettings 1 1) == some .reader && decide (s.world.Blocked .reader))
    rfl (by decide +kernel)
  simp only [Bool.and_eq_true, beq_iff_eq, decide_eq_true_eq] at hcheck
  exact ⟨s, hreach, hcheck⟩

end Session
end OrbitRelay
