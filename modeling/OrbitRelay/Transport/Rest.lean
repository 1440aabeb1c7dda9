import OrbitRelay.Transport.Subscriptions

/-! The end of a session: once the coordinator has returned, every task it started has ended,
and nothing moves any more. -/
namespace OrbitRelay
open Pausing

/-! What the coordinator has waited for. -/
section Records

/-- The task whose end this exchange has seen. -/
def endedIn : CoordinatorExchange → Option TaskId
  | ⟨_, .perform (.join task), _⟩ => some task
  | ⟨_, .awaitWriter, true⟩ => some .writer
  | _ => none

def ended (h : CoordinatorTrace) : List TaskId := h.filterMap endedIn

/-- A pump that was spawned is still in the map, unless it was joined. -/
structure Holding (h : CoordinatorTrace) (s : Coordinator) : Prop where
  pumps : ∀ entry ∈ spawned h, .pump entry.2.pump ∈ ended h ∨ entry ∈ s.subscriptions
  distinct : (s.subscriptions.map Prod.fst).Nodup

/-- The map that is drained yields its handles, in any order. -/
def drains : Contract CoordinatorRequest CoordinatorRequest.Answer Coordinator where
  rely
    | _, _, .drain handles, order => List.Perm order handles
    | _, _, _, _ => True
  guarantee _ _ _ := True

variable {h : CoordinatorTrace} {s : Coordinator} {e : CoordinatorExchange}

theorem ended_snoc (h : CoordinatorTrace) (e : CoordinatorExchange) :
    ended (h ++ [e]) = ended h ++ (endedIn e).toList :=
  List.filterMap_snoc ..

theorem mem_ended_snoc {task : TaskId} (hmem : task ∈ ended h) (e : CoordinatorExchange) :
    task ∈ ended (h ++ [e]) := by
  rw [ended_snoc]
  exact List.mem_append_left _ hmem

theorem Holding.snoc (hs : Holding h s) (he : spawnedIn e = none) : Holding (h ++ [e]) s := by
  have hspawned : spawned (h ++ [e]) = spawned h := List.filterMap_snoc_none _ he
  constructor
  case pumps =>
    rw [hspawned]
    intro entry hentry
    exact (hs.pumps entry hentry).imp_left fun hended => mem_ended_snoc hended e
  case distinct => exact hs.distinct

theorem Holding.congr (hs : Holding h s) {s' : Coordinator}
    (hstate : s'.subscriptions = s.subscriptions) : Holding h s' := by
  constructor
  case pumps =>
    rw [hstate]
    exact hs.pumps
  case distinct =>
    rw [hstate]
    exact hs.distinct

theorem holding_start (s : Coordinator) (hs : s.subscriptions = []) : Holding [] s := by
  constructor
  case pumps => exact fun _ hmem => (List.not_mem_nil hmem).elim
  case distinct =>
    rw [hs]
    exact List.nodup_nil

end Records

section Handlers
variable {settings : SessionSettings} {h : CoordinatorTrace} {s : Coordinator}

/-- A pump is spawned under an identifier that the map does not have. -/
theorem Holding.spawn (hs : Holding h s) {id : TransportSubscriptionId}
    (hfresh : id ∉ s.subscriptions.map Prod.fst) (state : Coordinator) (version : Version)
    (codec : MessageCodec) (handle : SubscriptionHandle) :
    Holding (h ++ [⟨state, .spawnPump id version codec, handle⟩])
      { s with subscriptions := s.subscriptions ++ [(id, handle)] } := by
  have hspawned : spawned (h ++ [⟨state, .spawnPump id version codec, handle⟩]) =
      spawned h ++ [(id, handle)] := List.filterMap_snoc ..
  constructor
  case pumps =>
    rw [hspawned]
    intro entry hentry
    rcases List.mem_append.mp hentry with hentry | hentry
    · rcases hs.pumps entry hentry with hended | hheld
      · exact .inl (mem_ended_snoc hended _)
      · exact .inr (List.mem_append_left _ hheld)
    · exact .inr (List.mem_append_right _ hentry)
  case distinct =>
    rw [List.map_append]
    apply List.nodup_append.mpr
    refine ⟨hs.distinct, List.nodup_singleton _, fun other hother id' hid heq => ?_⟩
    rw [heq, List.mem_singleton.mp hid] at hother
    exact hfresh hother

theorem handleSubscribe_holding (hs : Holding h s) (request : SubscriptionRequest) :
    (handleSubscribe request).run.wp drains (fun _ => Holding) h s := by
  apply wp_whenReady (fun _ _ => hs)
  intro _
  simp only [Proc.wp_run_bind, Proc.wp_run_get, Proc.afterResult_ok]
  cases s.connection.identity with
  | none => exact hs
  | some binding =>
    simp only [Proc.wp_run_bind, Proc.wp_run_liftM, wp_authorize]
    refine ⟨trivial, fun answer _ => ?_⟩
    replace hs := hs.snoc (e := ⟨s, .authorize binding request, answer⟩) rfl
    rcases answer with e | ⟨⟨⟩⟩
    · exact hs
    simp only [wp_orThrow_ok, Proc.afterResult_ok, Proc.wp_run_bind, Proc.wp_run_liftM,
      wp_subscribe]
    refine ⟨trivial, fun answer _ => ?_⟩
    replace hs := hs.snoc (e := ⟨s, .subscribe request, answer⟩) rfl
    rcases answer with e | id
    · exact hs
    simp only [wp_orThrow_ok, Proc.afterResult_ok, Proc.afterResult_error, Proc.wp_run_bind,
      Proc.wp_run_get, Proc.wp_run_ite, Proc.wp_run_throw]
    refine ⟨fun _ => hs, fun hnew => ?_⟩
    have hfresh : id ∉ s.subscriptions.map Prod.fst := by
      intro hmem
      obtain ⟨entry, hentry, hid⟩ := List.mem_map.mp hmem
      exact hnew (List.any_eq_true.mpr ⟨entry, hentry, by simp [hid]⟩)
    cases s.negotiatedVersion with
    | none => exact hs
    | some version =>
      simp only [Proc.afterResult_ok, Proc.wp_run_bind, Proc.wp_run_get, Proc.wp_run_ite,
        Proc.wp_run_throw, Proc.wp_run_liftM, wp_enqueue, wp_perform, wp_spawnPump,
        Proc.wp_run_modify]
      refine ⟨trivial, fun queued _ => ⟨fun _ => ⟨trivial, fun _ _ => ?_⟩,
        fun _ => ⟨trivial, fun handle _ => ?_⟩⟩⟩
      · exact (hs.snoc rfl).snoc rfl
      · exact (hs.snoc rfl).spawn hfresh s version s.activeCodec handle

/-- One pump has left the map and is not joined yet. -/
structure Leaving (h : CoordinatorTrace) (s : Coordinator) (handle : SubscriptionHandle) :
    Prop where
  pumps : ∀ entry ∈ spawned h, .pump entry.2.pump ∈ ended h ∨ entry ∈ s.subscriptions ∨
    entry.2 = handle
  distinct : (s.subscriptions.map Prod.fst).Nodup

theorem Holding.remove (hs : Holding h s) {id : TransportSubscriptionId}
    {handle : SubscriptionHandle} {s' : Coordinator}
    (hremoved : removeSubscription id s = some (handle, s')) : Leaving h s' handle := by
  obtain ⟨⟨id', handle'⟩, hfind, heq⟩ := Option.map_eq_some_iff.mp hremoved
  cases heq
  have hfound := List.mem_of_find?_eq_some hfind
  obtain rfl : id' = id := by simpa using List.find?_some hfind
  constructor
  case pumps =>
    intro entry hentry
    rcases hs.pumps entry hentry with hended | hheld
    · exact .inl hended
    by_cases hid : entry.1 = id'
    · -- The identifiers of the map are distinct, so this is the entry that was found.
      have hsame : entry = (id', handle') := List.inj_on_of_nodup_map hs.distinct hheld hfound hid
      exact .inr (.inr (congrArg Prod.snd hsame))
    · exact .inr (.inl (List.mem_filter.mpr ⟨hheld, by simpa using hid⟩))
  case distinct => exact (List.filter_sublist.map Prod.fst).nodup hs.distinct

theorem Leaving.stopPump {handle : SubscriptionHandle} (hs : Leaving h s handle)
    {post : Unit → CoordinatorTrace → Coordinator → Prop}
    (hpost : ∀ h, Holding h s → post () h s) : (stopPump handle).wp drains post h s := by
  simp only [wp_stopPump, wp_perform]
  refine ⟨trivial, fun _ _ => ⟨trivial, fun _ _ => hpost _ ?_⟩⟩
  have hspawned : spawned (h ++ [⟨s, .perform (.cancelPump handle), ()⟩] ++
      [⟨s, .perform (.join (.pump handle.pump)), ()⟩]) = spawned h := by
    rw [spawned_snoc, spawned_snoc]
    simp [spawnedIn]
  constructor
  case pumps =>
    rw [hspawned]
    intro entry hentry
    rcases hs.pumps entry hentry with hended | hheld | rfl
    · exact .inl (mem_ended_snoc (mem_ended_snoc hended _) _)
    · exact .inr hheld
    · left
      rw [ended_snoc]
      exact List.mem_append_right _ (List.mem_singleton_self _)
  case distinct => exact hs.distinct

theorem handleUnsubscribe_holding (hs : Holding h s) (unsubscribe : Unsubscribe) :
    (handleUnsubscribe unsubscribe).run.wp drains (fun _ => Holding) h s := by
  apply wp_whenReady (fun _ _ => hs)
  intro _
  simp only [Proc.wp_run_bind, Proc.wp_run_get, Proc.afterResult_ok]
  cases hremoved : removeSubscription unsubscribe.subscriptionId s with
  | none =>
    simp only [Proc.wp_run_bind, Proc.wp_run_get, Proc.afterResult_ok, wp_required, wp_enqueue]
    exact ⟨trivial, fun _ _ => hs.snoc rfl⟩
  | some found =>
    obtain ⟨handle, s'⟩ := found
    simp only [Proc.wp_run_bind, Proc.wp_run_set, Proc.afterResult_ok, Proc.wp_run_liftM]
    apply (hs.remove hremoved).stopPump
    intro h hs
    simp only [Proc.wp_run_bind, Proc.wp_run_get, Proc.afterResult_ok, wp_required, wp_enqueue]
    exact ⟨trivial, fun _ _ => hs.snoc rfl⟩

theorem handleCoordinatorEvent_holding (hs : Holding h s) {event : CoordinatorEvent}
    (hsubscribes : event.subscribes = true) :
    (handleCoordinatorEvent settings event).wp drains (fun _ => Holding) h s := by
  cases event with
  | subscriptionFinished id =>
    simp only [handleCoordinatorEvent, Proc.wp_bind, Proc.wp_get]
    cases hremoved : removeSubscription id s with
    | none => exact hs
    | some found =>
      obtain ⟨handle, s'⟩ := found
      simp only [Proc.wp_bind, Proc.wp_get, Proc.wp_set]
      apply (hs.remove hremoved).stopPump
      intro h hs
      rw [wp_enqueue]
      refine ⟨trivial, fun queued _ => ?_⟩
      have hqueued := hs.snoc (e := ⟨s', .enqueue (.application s'.activeCodec
        (.subscriptionClosed ⟨none, id⟩)), queued⟩) rfl
      cases queued with
      | true => exact hqueued
      | false => exact hqueued.congr rfl
  | eventSourceFailed id error fatal errorQueued =>
    simp only [handleCoordinatorEvent, Proc.wp_ite, Proc.wp_bind, Proc.wp_get]
    refine ⟨fun _ => hs.congr rfl, fun _ => ?_⟩
    cases hremoved : removeSubscription id s with
    | none => exact hs
    | some found =>
      obtain ⟨handle, s'⟩ := found
      simp only [Proc.wp_bind, Proc.wp_set, Proc.wp_pure]
      exact (hs.remove hremoved).stopPump fun _ hs => hs
  | _ => cases hsubscribes

theorem handleMessage_holding (hs : Holding h s) {message : InboundMessage}
    (hsubscribes : message.subscribes = true) :
    (handleMessage settings message).wp drains (fun _ => Holding) h s := by
  have hinbound : (handleInbound settings message).run.wp drains (fun _ => Holding) h s := by
    cases message with
    | subscribe request => exact handleSubscribe_holding hs request
    | unsubscribe unsubscribe => exact handleUnsubscribe_holding hs unsubscribe
    | _ => cases hsubscribes
  unfold handleMessage
  rw [Proc.wp_bind]
  apply Proc.wp_mono hinbound
  intro result h s hs
  cases result with
  | ok => exact hs
  | error error =>
    simp only [Proc.wp_bind, Proc.wp_get, Proc.wp_ite, wp_enqueue]
    refine ⟨trivial, fun queued _ => ?_⟩
    have hreported := hs.snoc
      (e := ⟨s, .enqueue (.error s.activeCodec none error.toTransportError), queued⟩) rfl
    exact ⟨fun _ => hreported.congr rfl, fun _ => hreported⟩

/-- Every turn keeps hold of the pumps. -/
theorem handleInput_holding (hs : Holding h s) (input : CoordinatorInput) :
    (handleInput settings input).wp drains (fun _ => Holding) h s := by
  cases hsubscribes : input.subscribes s.activeCodec with
  | false =>
    have hturn : (handleInput settings input).wp (asksOn input s) (inputPost input s) h s :=
      handleInput_asks input
    have hasks := Proc.wp_carry (c := drains) (I := fun h => Holding h s) hturn
      (fun _ _ _ _ _ => trivial) (fun h s' q a hs hq _ => ?_) hs
    · apply Proc.wp_mono hasks
      intro control h s' hpost
      exact hpost.1.congr (hpost.2 hsubscribes)
    · exact hs.snoc (neutral_eq (isNeutral_of_asks hsubscribes hq.1) s' a).2.1
  | true =>
    rcases Bool.or_eq_true_iff.mp hsubscribes with hmessage | hevent
    · obtain ⟨message, hmem, hsubscribes⟩ := (Option.any_eq_true _ _).mp hmessage
      obtain ⟨bytes, rfl, hdecoded⟩ := message_eq_some hmem
      simp only [handleInput, handleReaderEvent, handleText, Proc.wp_bind, Proc.wp_get, hdecoded]
      cases message with
      | subscribe _ | unsubscribe _ => exact handleMessage_holding hs rfl
      | _ => cases hsubscribes
    · rcases input with _ | (_ | event) | _
      · cases hevent
      · cases hevent
      · exact handleCoordinatorEvent_holding hs hevent
      · cases hevent

theorem turn_holding (hs : Holding h s) :
    (turn settings).wp drains (TurnPost Holding Holding) h s := by
  rw [turn_eq, Proc.wp_bind, wp_select]
  refine ⟨trivial, fun input _ => ?_⟩
  have hselected := hs.snoc (e := ⟨s, .select, input⟩) rfl
  apply Proc.wp_mono (handleInput_holding hselected input)
  intro control h s hs
  cases control <;> exact hs

end Handlers

section Shutdown
variable {settings : SessionSettings} {h : CoordinatorTrace} {s : Coordinator}

/-- What the shutdown still has to wait for: the pumps behind these handles, and the writer unless
it has `finished`. -/
structure Closing (handles : List SubscriptionHandle) (finished : Bool) (h : CoordinatorTrace)
    (s : Coordinator) : Prop where
  pumps : ∀ entry ∈ spawned h, .pump entry.2.pump ∈ ended h ∨ entry.2 ∈ handles
  writer : finished = true → .writer ∈ ended h
  connection : s.connection.state = .closed
  subscriptions : s.subscriptions = []

/-- What the coordinator has waited for when it returns. -/
structure Returned (settings : SessionSettings) (result : Except WebSocketAdapterError Unit)
    (h : CoordinatorTrace) (s : Coordinator) : Prop where
  pumps : ∀ entry ∈ spawned h, .pump entry.2.pump ∈ ended h
  tasks : .reader ∈ ended h ∧ .actionWorker ∈ ended h ∧ .writer ∈ ended h
  queryWorker : settings.hasQueryExecutor = true → .queryWorker ∈ ended h
  connection : s.connection.state = .closed
  subscriptions : s.subscriptions = []
  result : result = s.fatalError.elim (.ok ()) .error

/-- The shutdown closes the connection from whatever state it is in. -/
theorem state_shutDown (connection : TransportConnection) :
    connection.shutDown.state = .closed := by
  obtain ⟨id, metadata, state, identity⟩ := connection
  cases state <;> rfl

variable {handles : List SubscriptionHandle} {finished : Bool} {e : CoordinatorExchange}

theorem Closing.snoc (hs : Closing handles finished h s) (he : spawnedIn e = none) :
    Closing handles finished (h ++ [e]) s := by
  have hspawned : spawned (h ++ [e]) = spawned h := List.filterMap_snoc_none _ he
  constructor
  case pumps =>
    rw [hspawned]
    intro entry hentry
    exact (hs.pumps entry hentry).imp_left fun hended => mem_ended_snoc hended e
  case writer => exact fun hfinished => mem_ended_snoc (hs.writer hfinished) e
  case connection => exact hs.connection
  case subscriptions => exact hs.subscriptions

/-- A join is waited for. -/
theorem Closing.join (hs : Closing handles finished h s) (task : TaskId)
    {post : Unit → CoordinatorTrace → Coordinator → Prop}
    (hpost : ∀ h', Closing handles finished h' s → ended h ⊆ ended h' → task ∈ ended h' →
      post () h' s) : (perform (.join task)).wp drains post h s := by
  rw [wp_perform]
  refine ⟨trivial, fun _ _ => hpost _ (hs.snoc rfl) (fun _ hmem => mem_ended_snoc hmem _) ?_⟩
  rw [ended_snoc]
  exact List.mem_append_right _ (List.mem_singleton_self _)

theorem Closing.joinIf (hs : Closing handles finished h s) (running : Bool) (task : TaskId)
    {post : Unit → CoordinatorTrace → Coordinator → Prop}
    (hpost : ∀ h', Closing handles finished h' s → ended h ⊆ ended h' →
      (running = true → task ∈ ended h') → post () h' s) :
    (joinIf running task).wp drains post h s := by
  simp only [OrbitRelay.joinIf, Proc.wp_ite, Proc.wp_pure]
  constructor
  · intro _
    exact hs.join task fun h' hs' hsub hmem => hpost h' hs' hsub fun _ => hmem
  · intro hnot
    exact hpost h hs (List.Subset.refl _) fun hrunning => absurd hrunning hnot

/-- Every handle is cancelled and joined. -/
theorem Closing.joinPumps (hs : Closing handles finished h s)
    {post : Unit → CoordinatorTrace → Coordinator → Prop}
    (hpost : ∀ h, Closing [] finished h s → post () h s) :
    (joinPumps handles).wp drains post h s := by
  induction handles generalizing h with
  | nil => exact hpost h hs
  | cons handle rest ih =>
    simp only [OrbitRelay.joinPumps, Proc.wp_bind, wp_stopPump]
    rw [wp_perform]
    refine ⟨trivial, fun _ _ => ?_⟩
    have hcancelled := hs.snoc (e := ⟨s, .perform (.cancelPump handle), ()⟩) rfl
    apply hcancelled.join
    intro h' hs' _ hended
    apply ih
    refine ⟨fun entry hentry => ?_, hs'.writer, hs'.connection, hs'.subscriptions⟩
    rcases hs'.pumps entry hentry with hjoined | hheld
    · exact .inl hjoined
    · rcases List.mem_cons.mp hheld with rfl | hrest
      · exact .inl hended
      · exact .inr hrest

theorem reportFatalError_holding (hs : Holding h s)
    {post : Unit → CoordinatorTrace → Coordinator → Prop}
    (hpost : ∀ h, Holding h s → post () h s) : reportFatalError.wp drains post h s := by
  simp only [reportFatalError, Proc.wp_bind, Proc.wp_get]
  split
  · simp only [Proc.wp_bind, wp_enqueue]
    exact ⟨trivial, fun queued _ => hpost _ (hs.snoc rfl)⟩
  · exact hpost h hs

/-- The writer that is awaited in time has finished. -/
theorem closeWriter_holding (hs : Holding h s)
    {post : Bool → CoordinatorTrace → Coordinator → Prop}
    (hpost : ∀ finished h s, Holding h s → s.connection.state = .closed →
      (finished = true → .writer ∈ ended h) → post finished h s) :
    closeWriter.wp drains post h s := by
  simp only [closeWriter, Proc.wp_bind, Proc.wp_modify, wp_sendClose, Proc.wp_ite, wp_awaitWriter,
    Proc.wp_pure]
  refine ⟨trivial, fun closeQueued _ => ?_⟩
  have hsent := hs.snoc (e := ⟨s, .sendClose, closeQueued⟩) rfl
  have hclosed : Holding (h ++ [⟨s, .sendClose, closeQueued⟩])
      { s with connection := s.connection.shutDown } := hsent.congr rfl
  have hstate := state_shutDown s.connection
  refine ⟨fun _ => ⟨trivial, fun finished _ => ?_⟩, fun _ => ?_⟩
  · apply hpost finished _ _ (hclosed.snoc rfl) hstate
    rintro rfl
    rw [ended_snoc]
    exact List.mem_append_right _ (List.mem_singleton_self _)
  · exact hpost false _ _ hclosed hstate (by intro hfinished; cases hfinished)

theorem joinSubscriptions_closing (hs : Holding h s) (hstate : s.connection.state = .closed)
    (hwriter : finished = true → .writer ∈ ended h)
    {post : Unit → CoordinatorTrace → Coordinator → Prop}
    (hpost : ∀ h s, Closing [] finished h s → post () h s) :
    joinSubscriptions.wp drains post h s := by
  simp only [joinSubscriptions, Proc.wp_bind, Proc.wp_get, Proc.wp_modify, wp_drain]
  refine ⟨trivial, fun order hperm => ?_⟩
  have hdrained := hs.snoc
    (e := ⟨s, .drain (s.subscriptions.map (·.2)), order⟩) rfl
  have hclosing : Closing order finished
      (h ++ [⟨s, .drain (s.subscriptions.map (·.2)), order⟩]) { s with subscriptions := [] } := by
    constructor
    case pumps =>
      intro entry hentry
      refine (hdrained.pumps entry hentry).imp_right fun hheld => ?_
      have hhandle : entry.2 ∈ s.subscriptions.map (·.2) := List.mem_map_of_mem hheld
      exact (List.Perm.mem_iff hperm).mpr hhandle
    case writer => exact fun hfinished => mem_ended_snoc (hwriter hfinished) _
    case connection => exact hstate
    case subscriptions => rfl
  exact hclosing.joinPumps fun h hs => hpost h _ hs

/-- The end of `run_coordinator` waits for every task. -/
theorem shutdown_returned (hs : Holding h s) :
    (shutdown settings).wp drains (Returned settings) h s := by
  simp only [shutdown, Proc.wp_bind, Proc.wp_get, Proc.wp_pure]
  apply reportFatalError_holding hs
  intro h hs
  apply closeWriter_holding hs
  intro finished h s hs hstate hwriter
  rw [wp_perform]
  refine ⟨trivial, fun _ _ => ?_⟩
  rw [wp_perform]
  refine ⟨trivial, fun _ _ => ?_⟩
  apply joinSubscriptions_closing ((hs.snoc rfl).snoc rfl) hstate
    fun hfinished => mem_ended_snoc (mem_ended_snoc (hwriter hfinished) _) _
  intro h s hs
  apply hs.join
  intro h₁ hs _ hreader
  apply hs.join
  intro h₂ hs hsub₂ hworker
  apply hs.joinIf
  intro h₃ hs hsub₃ hquery
  apply hs.joinIf
  intro h₄ hs hsub₄ hwriter
  constructor
  case pumps => exact fun entry hentry => (hs.pumps entry hentry).resolve_right List.not_mem_nil
  case tasks =>
    refine ⟨hsub₄ (hsub₃ (hsub₂ hreader)), hsub₄ (hsub₃ hworker), ?_⟩
    cases finished with
    | true => exact hs.writer rfl
    | false => exact hwriter rfl
  case queryWorker => exact fun hrunning => hsub₄ (hquery hrunning)
  case connection => exact hs.connection
  case subscriptions => exact hs.subscriptions
  case result => rfl

end Shutdown

section End
variable {settings : SessionSettings} {id : ConnectionId} {metadata : Metadata}
  {allowed : Session → SessionAction → Prop}
  (c : Contract CoordinatorRequest CoordinatorRequest.Answer Coordinator)
  (atTurn atStop : CoordinatorTrace → Coordinator → Prop)
  (atEnd : Except WebSocketAdapterError Unit → CoordinatorTrace → Coordinator → Prop)

/-- The coordinator keeps the contract, and returns only as `atEnd` says. -/
def CoordinatorTask.KeepsEnd (h : CoordinatorTrace) : CoordinatorTask → Prop
  | looping program => c.Holds (fun h r => TurnPost atTurn atStop r.1 h r.2) h program
  | closing program => c.Holds (fun h r => atEnd r.1 h r.2) h program
  | finished result s => atEnd result h s

variable {c atTurn atStop atEnd}

theorem CoordinatorTask.KeepsEnd.afterShutdown {h : CoordinatorTrace}
    {program : CoordinatorProgram (Except WebSocketAdapterError Unit × Coordinator)}
    (hholds : c.Holds (fun h r => atEnd r.1 h r.2) h program) :
    (CoordinatorTask.afterShutdown program).KeepsEnd c atTurn atStop atEnd h := by
  cases program with
  | done r => exact hholds
  | ask s q k => exact hholds

section Rules
variable (hturn : ∀ h s, atTurn h s → (turn settings).wp c (TurnPost atTurn atStop) h s)
  (hstop : ∀ h s, atStop h s → (shutdown settings).wp c atEnd h s)
include hturn hstop

theorem CoordinatorTask.KeepsEnd.afterTurn {h : CoordinatorTrace}
    {program : CoordinatorProgram (LoopControl × Coordinator)}
    (hholds : c.Holds (fun h r => TurnPost atTurn atStop r.1 h r.2) h program) :
    (CoordinatorTask.afterTurn settings program).KeepsEnd c atTurn atStop atEnd h := by
  cases program with
  | done r =>
    obtain ⟨control, s⟩ := r
    cases control with
    | next => exact hturn h s hholds
    | stop => exact hstop h s hholds
  | ask s q k => exact hholds

/-- In every run whose answers the contract allows, the coordinator returns as promised. -/
theorem Session.end_of_reachable (hstart : atTurn [] (.start settings (.new id metadata)))
    (hallowed : ∀ s choice p a w, allowed s (.coordinator choice) →
      s.coordinator.pending settings = some p → s.world.respond p.request choice = some (a, w) →
      c.rely s.trace p.state p.request a)
    {s : Session} (h : (Session.system settings id metadata allowed).Reachable s)
    {result : Except WebSocketAdapterError Unit} {state : Coordinator}
    (hend : s.coordinator = .finished result state) : atEnd result s.trace state := by
  have hkeeps : s.coordinator.KeepsEnd c atTurn atStop atEnd s.trace := by
    refine Session.invariant_of_reachable
      (I := fun h task => task.KeepsEnd c atTurn atStop atEnd h) (hturn _ _ hstart)
      (fun s choice p a w hok hp hrespond hinv => ?_) h
    have hrely := hallowed s choice p a w hok hp hrespond
    cases htask : s.coordinator with
    | looping program =>
      rw [htask] at hp hinv
      cases program with
      | done r => cases hp
      | ask state q k =>
        cases hp
        exact .afterTurn hturn hstop (hinv.2 a hrely)
    | closing program =>
      rw [htask] at hp hinv
      cases program with
      | done r => cases hp
      | ask state q k =>
        cases hp
        exact .afterShutdown (hinv.2 a hrely)
    | finished result state =>
      rw [htask] at hp
      cases hp
  rw [hend] at hkeeps
  exact hkeeps

end Rules

theorem returned_of_reachable {s : Session}
    (h : (Session.system settings id metadata allowed).Reachable s)
    {result : Except WebSocketAdapterError Unit} {state : Coordinator}
    (hend : s.coordinator = .finished result state) : Returned settings result s.trace state := by
  refine Session.end_of_reachable (c := drains) (fun _ _ hs => turn_holding hs)
    (fun _ _ hs => shutdown_returned hs) (holding_start _ rfl)
    (fun s choice p a w _ _ hrespond => ?_) h hend
  obtain ⟨state, request, resume⟩ := p
  cases request with
  | drain handles =>
    cases choice with
    | order handles' =>
      simp only [World.respond] at hrespond
      split at hrespond <;> cases hrespond
      exact List.isPerm_iff.mp ‹_›
    | _ => cases hrespond
  | _ => trivial

end End

section Tasks
variable {settings : SessionSettings} {w w' : World}

/-- A task that has ended makes no move. -/
theorem move_eq_none_of_finished {action : TaskAction} (h : w.Finished action.task = true) :
    w.move settings action = none := by
  cases action with
  | reader choice =>
    cases hphase : w.reader with
    | finished => cases choice <;> simp [World.move, hphase, readerMove]
    | _ => simp [World.Finished, TaskAction.task, hphase] at h
  | writer choice =>
    cases hphase : w.writer with
    | finished => cases choice <;> simp [World.move, hphase, World.moveWriter]
    | _ => simp [World.Finished, TaskAction.task, hphase] at h
  | actionWorker choice =>
    cases hphase : w.actionWorker with
    | finished => cases choice <;> simp [World.move, hphase, World.moveActionWorker]
    | _ => simp [World.Finished, TaskAction.task, hphase] at h
  | queryWorker choice =>
    cases hphase : w.queryWorker with
    | finished => cases choice <;> simp [World.move, hphase, World.moveQueryWorker]
    | _ => simp [World.Finished, TaskAction.task, hphase] at h
  | queryTask index response =>
    simp only [World.Finished, TaskAction.task] at h
    split at h
    · simp_all [World.move, World.moveQueryTask]
    · cases h
  | pump index choice =>
    simp only [World.Finished, TaskAction.task] at h
    split at h
    · simp_all [World.move, World.movePump]
    · cases h

theorem finished_pump {index : Nat} : w.Finished (.pump index) = true ↔
    ∃ pump : Pump, w.pumps[index]? = some pump ∧ pump.phase = .finished := by
  simp only [World.Finished]
  constructor
  · intro h
    split at h
    · exact ⟨_, ‹_›, rfl⟩
    · cases h
  · rintro ⟨⟨id, version, codec, cancelled, phase⟩, hpump, rfl⟩
    rw [hpump]

/-- A task that has ended stays so. The queries in the worker's set are named by their place, which
may change. -/
theorem finished_taskStep {action : TaskAction} (h : w.taskStep settings action = some w')
    {task : TaskId} (htask : ∀ index, task ≠ .queryTask index)
    (hfinished : w.Finished task = true) : w'.Finished task = true := by
  cases task with
  | queryTask index => exact absurd rfl (htask index)
  | pump index =>
    obtain ⟨pump, hpump, hphase⟩ := finished_pump.mp hfinished
    obtain ⟨pump', hpump', -, hstays⟩ := (evolves_taskStep h).1 index pump hpump
    exact finished_pump.mpr ⟨pump', hpump', hstays hphase⟩
  | _ =>
    obtain ⟨-, moved, send, hmove, rfl⟩ := World.taskStep_eq_some h
    have hmoves : w.Finished action.task = true → False := by
      intro hended
      rw [move_eq_none_of_finished hended] at hmove
      cases hmove
    rw [deliver_frame, move_frame hmove]
    cases action with
    | queryTask index response => exact hfinished
    | pump index choice => exact hfinished
    | _ => first
      | exact hfinished
      | exact (hmoves hfinished).elim

theorem phases_of_enqueue (item : Enqueue) : (w.enqueue item).2.reader = w.reader ∧
    (w.enqueue item).2.writer = w.writer := by
  have hattempt (channel : Option WriterChannel) : (w.attempt channel).2.reader = w.reader ∧
      (w.attempt channel).2.writer = w.writer := by
    cases channel <;> exact ⟨rfl, rfl⟩
  cases item with
  | action job | query job =>
    simp only [World.enqueue]
    split
    · exact ⟨rfl, rfl⟩
    · exact ⟨rfl, rfl⟩
  | _ => exact hattempt _

theorem phases_of_respond {q : CoordinatorRequest} {choice : CoordinatorChoice} {a : q.Answer}
    (h : w.respond q choice = some (a, w')) : w'.reader = w.reader ∧ w'.writer = w.writer := by
  unfold World.respond at h
  split at h
  case h_1 =>
    split at h
    · cases h
      exact ⟨rfl, rfl⟩
    · split at h <;> cases h
      exact ⟨rfl, rfl⟩
  case h_2 =>
    split at h <;> cases h
    exact ⟨rfl, rfl⟩
  case h_4 item =>
    have hworld : (w.enqueue item).2 = w' := congrArg Prod.snd (Option.some.inj h)
    exact hworld ▸ phases_of_enqueue item
  case h_5 effect =>
    obtain ⟨performed, hperform, heq⟩ := Option.map_eq_some_iff.mp h
    cases heq
    cases effect with
    | join task =>
      simp only [World.perform] at hperform
      split at hperform <;> cases hperform
      exact ⟨rfl, rfl⟩
    | _ =>
      cases hperform
      exact ⟨rfl, rfl⟩
  case h_11 =>
    split at h
    · cases h
      exact ⟨rfl, rfl⟩
    · split at h <;> cases h
      exact ⟨rfl, rfl⟩
  case h_12 | h_13 | h_14 =>
    split at h <;> cases h
    exact ⟨rfl, rfl⟩
  case h_15 => cases h
  all_goals
    cases h
    exact ⟨rfl, rfl⟩

/-- No exchange of the coordinator wakes a task that has ended. -/
theorem finished_respond {q : CoordinatorRequest} {choice : CoordinatorChoice} {a : q.Answer}
    (h : w.respond q choice = some (a, w')) (s : Coordinator) {task : TaskId}
    (hfinished : w.Finished task = true) : w'.Finished task = true := by
  obtain ⟨hreader, hwriter⟩ := phases_of_respond h
  have hresponded := responded_of_respond h s
  cases task with
  | pump index =>
    obtain ⟨pump, hpump, hphase⟩ := finished_pump.mp hfinished
    have hevolves := (evolves_pumpsAfter w.pumps ⟨s, q, a⟩).1
    rw [← hresponded.pumps] at hevolves
    obtain ⟨pump', hpump', -, hstays⟩ := hevolves index pump hpump
    exact finished_pump.mpr ⟨pump', hpump', hstays hphase⟩
  | _ =>
    simp only [World.Finished, hreader, hwriter, hresponded.actionWorker, hresponded.queryWorker,
      hresponded.queryTasks] at hfinished ⊢
    exact hfinished

/-- The query worker runs only with an executor, and its set is empty once it has ended. -/
def World.ServesQueries (settings : SessionSettings) (w : World) : Prop :=
  match w.queryWorker with
  | .absent => settings.hasQueryExecutor = false ∧ w.queryTasks = []
  | .finished => settings.hasQueryExecutor = true ∧ w.queryTasks = []
  | .selecting | .reported | .draining => settings.hasQueryExecutor = true

theorem servesQueries_start : (World.start settings).ServesQueries settings := by
  unfold World.ServesQueries World.start
  cases hexecutor : settings.hasQueryExecutor with
  | true => exact rfl
  | false => exact ⟨rfl, rfl⟩

theorem World.ServesQueries.congr (hw : w.ServesQueries settings)
    (hworker : w'.queryWorker = w.queryWorker) (htasks : w'.queryTasks = w.queryTasks) :
    w'.ServesQueries settings := by
  unfold World.ServesQueries at hw ⊢
  rw [hworker, htasks]
  exact hw

theorem servesQueries_moveQueryWorker {choice : QueryWorkerChoice} {send : Option Send}
    (hw : w.ServesQueries settings) (h : w.moveQueryWorker settings choice = some (w', send)) :
    w'.ServesQueries settings := by
  unfold World.ServesQueries at hw ⊢
  unfold World.moveQueryWorker at h
  split at h
  case h_1 hphase =>
    rw [hphase] at hw
    split at h <;> cases h
    exact hw
  case h_2 hphase =>
    rw [hphase] at hw
    split at h
    · cases h
    · split at h
      · split at h <;> cases h
        · exact hw
        · rw [hphase]
          exact hw
      · cases h
  case h_3 hphase =>
    rw [hphase] at hw
    split at h
    · cases h
    · split at h
      · cases h
        rw [hphase]
        exact hw
      · split at h <;> cases h
        exact hw
  case h_4 hphase =>
    rw [hphase] at hw
    cases h
    exact hw
  case h_5 hphase =>
    rw [hphase] at hw
    split at h <;> cases h
    exact ⟨hw, ‹_›⟩
  case h_6 hphase =>
    rw [hphase] at hw
    cases h
    rw [hphase]
    exact hw
  case h_7 => cases h

theorem servesQueries_taskStep {action : TaskAction} (hw : w.ServesQueries settings)
    (h : w.taskStep settings action = some w') : w'.ServesQueries settings := by
  cases action with
  | queryWorker choice =>
    obtain ⟨-, moved, send, hmove, rfl⟩ := World.taskStep_eq_some h
    have hmoved := servesQueries_moveQueryWorker hw hmove
    apply hmoved.congr
    · rw [deliver_frame]
    · rw [deliver_frame]
  | queryTask index response =>
    obtain ⟨-, moved, send, hmove, rfl⟩ := World.taskStep_eq_some h
    have htasks : w.queryTasks ≠ [] := by
      intro hnil
      simp [World.move, World.moveQueryTask, hnil] at hmove
    rw [deliver_frame, move_frame hmove]
    unfold World.ServesQueries at hw ⊢
    dsimp only [TaskAction.task, World.frame]
    split at hw
    · exact absurd hw.2 htasks
    · exact absurd hw.2 htasks
    all_goals exact hw
  | _ =>
    obtain ⟨hworker, htasks, -⟩ := queries_taskStep h (by intro heq; cases heq)
      (by intro index heq; cases heq)
    exact hw.congr hworker htasks

end Tasks

section Runs
variable {settings : SessionSettings} {id : ConnectionId} {metadata : Metadata}
  {allowed : Session → SessionAction → Prop} {h : CoordinatorTrace} {w w' : World}

/-- The exchanges of the coordinator tell which pumps there are and which tasks have ended. -/
structure Watched (settings : SessionSettings) (h : CoordinatorTrace) (w : World) : Prop where
  handles : (spawned h).map (fun entry => entry.2.pump) = List.range w.pumps.length
  ended : ∀ task ∈ ended h, (∀ index, task ≠ .queryTask index) → w.Finished task = true
  queries : w.ServesQueries settings

theorem watched_start : Watched settings [] (.start settings) where
  handles := rfl
  ended _ hmem := (List.not_mem_nil hmem).elim
  queries := servesQueries_start

theorem Watched.taskStep (hw : Watched settings h w) {action : TaskAction}
    (hstep : w.taskStep settings action = some w') : Watched settings h w' := by
  have hlength : w'.pumps.length = w.pumps.length := by
    have hids := congrArg List.length (evolves_taskStep hstep).2
    simpa using hids
  constructor
  case handles =>
    rw [hlength]
    exact hw.handles
  case ended =>
    intro task hmem htask
    exact finished_taskStep hstep htask (hw.ended task hmem htask)
  case queries => exact servesQueries_taskStep hw.queries hstep

/-- The task whose end an exchange has seen has ended. -/
theorem finished_of_endedIn {s : Coordinator} {q : CoordinatorRequest} {choice : CoordinatorChoice}
    {a : q.Answer} (h : w.respond q choice = some (a, w')) {task : TaskId}
    (hended : endedIn ⟨s, q, a⟩ = some task) : w'.Finished task = true := by
  unfold endedIn at hended
  split at hended
  · rename_i heq
    cases heq
    cases hended
    cases choice with
    | proceed =>
      obtain ⟨performed, hperform, heq⟩ := Option.map_eq_some_iff.mp h
      cases heq
      simp only [World.perform] at hperform
      split at hperform <;> cases hperform
      assumption
    | _ => cases h
  · rename_i heq
    cases heq
    cases hended
    cases choice with
    | proceed =>
      simp only [World.respond] at h
      split at h <;> cases h
      assumption
    | elapsed =>
      simp only [World.respond] at h
      split at h <;> cases h
    | _ => cases h
  · cases hended

theorem Watched.exchange (hw : Watched settings h w) (s : Coordinator) {q : CoordinatorRequest}
    {choice : CoordinatorChoice} {a : q.Answer} (hrespond : w.respond q choice = some (a, w')) :
    Watched settings (h ++ [⟨s, q, a⟩]) w' := by
  have hresponded := responded_of_respond hrespond s
  constructor
  case handles =>
    have hids := congrArg List.length (evolves_pumpsAfter w.pumps ⟨s, q, a⟩).2
    rw [← hresponded.pumps] at hids
    rw [spawned_snoc, List.map_append, hw.handles]
    cases q with
    | spawnPump id version codec =>
      obtain ⟨rfl, hlast⟩ := handle_of_spawn hrespond
      rw [hlast, List.length_append]
      exact List.range_succ.symm
    | _ =>
      simp only [List.length_map, List.length_append, spawnedIn, Option.toList_none, List.map_nil,
        List.length_nil, Nat.add_zero] at hids
      rw [hids]
      exact List.append_nil _
  case ended =>
    rw [ended_snoc]
    intro task hmem htask
    rcases List.mem_append.mp hmem with hmem | hmem
    · exact finished_respond hrespond s (hw.ended task hmem htask)
    · exact finished_of_endedIn hrespond (Option.mem_toList.mp hmem)
  case queries => exact hw.queries.congr hresponded.queryWorker hresponded.queryTasks

theorem watched_of_reachable {s : Session}
    (h : (Session.system settings id metadata allowed).Reachable s) :
    Watched settings s.trace s.world := by
  refine h.invariant (I := fun s => Watched settings s.trace s.world) (fun s hinit => ?_)
    fun s s' hs hstep => ?_
  · rw [hinit.2]
    exact watched_start
  · obtain ⟨action, -, hstep⟩ := hstep
    cases action with
    | coordinator choice =>
      obtain ⟨p, a, w, -, hrespond, rfl⟩ := Session.step_coordinator_eq_some hstep
      exact hs.exchange p.state hrespond
    | task action =>
      obtain ⟨w, htask, rfl⟩ := Option.map_eq_some_iff.mp hstep
      exact hs.taskStep htask

/-- Every task of the session has ended. -/
structure World.AtRest (settings : SessionSettings) (w : World) : Prop where
  reader : w.reader = .finished
  writer : w.writer = .finished
  actionWorker : w.actionWorker = .finished
  queryWorker : w.queryWorker = if settings.hasQueryExecutor then .finished else .absent
  queryTasks : w.queryTasks = []
  pumps : ∀ pump ∈ w.pumps, pump.phase = .finished

theorem Watched.atRest (hw : Watched settings h w) {result : Except WebSocketAdapterError Unit}
    {state : Coordinator} (hreturned : Returned settings result h state) : w.AtRest settings := by
  obtain ⟨hread, hworked, hwrote⟩ := hreturned.tasks
  have hreader := hw.ended .reader hread (by intro index heq; cases heq)
  have hworker := hw.ended .actionWorker hworked (by intro index heq; cases heq)
  have hwriter := hw.ended .writer hwrote (by intro index heq; cases heq)
  have hqueries := hw.queries
  constructor
  case reader =>
    cases hphase : w.reader with
    | finished => rfl
    | _ => simp [World.Finished, hphase] at hreader
  case writer =>
    cases hphase : w.writer with
    | finished => rfl
    | _ => simp [World.Finished, hphase] at hwriter
  case actionWorker =>
    cases hphase : w.actionWorker with
    | finished => rfl
    | _ => simp [World.Finished, hphase] at hworker
  case queryWorker =>
    unfold World.ServesQueries at hqueries
    cases hexecutor : settings.hasQueryExecutor with
    | true =>
      have hworker := hw.ended .queryWorker (hreturned.queryWorker hexecutor)
        (by intro index heq; cases heq)
      cases hphase : w.queryWorker with
      | finished => rfl
      | _ => simp [World.Finished, hphase] at hworker
    | false =>
      rw [hexecutor] at hqueries
      cases hphase : w.queryWorker with
      | absent => rfl
      | _ => simp [hphase] at hqueries
  case queryTasks =>
    unfold World.ServesQueries at hqueries
    cases hphase : w.queryWorker with
    | absent | finished =>
      rw [hphase] at hqueries
      exact hqueries.2
    | _ =>
      rw [hphase] at hqueries
      have hended := hw.ended .queryWorker (hreturned.queryWorker hqueries)
        (by intro index heq; cases heq)
      simp [World.Finished, hphase] at hended
  case pumps =>
    intro pump hpump
    obtain ⟨index, hpump⟩ := List.mem_iff_getElem?.mp hpump
    have hindex : index ∈ (spawned h).map (fun entry => entry.2.pump) := by
      rw [hw.handles, List.mem_range]
      exact (List.getElem?_eq_some_iff.mp hpump).1
    obtain ⟨entry, hentry, rfl⟩ := List.mem_map.mp hindex
    have hjoined := hw.ended _ (hreturned.pumps entry hentry) (by intro index heq; cases heq)
    obtain ⟨pump', hpump', hphase⟩ := finished_pump.mp hjoined
    rw [hpump] at hpump'
    exact Option.some.inj hpump' ▸ hphase

/-- No task of a session at rest can move. -/
theorem World.AtRest.taskStep_eq_none (hw : w.AtRest settings) (action : TaskAction) :
    w.taskStep settings action = none := by
  have hmove : w.move settings action = none := by
    cases action with
    | queryTask index response => simp [World.move, World.moveQueryTask, hw.queryTasks]
    | queryWorker choice =>
      cases hexecutor : settings.hasQueryExecutor with
      | true =>
        apply move_eq_none_of_finished
        simp [World.Finished, TaskAction.task, hw.queryWorker, hexecutor]
      | false =>
        have hphase : w.queryWorker = .absent := by simp [hw.queryWorker, hexecutor]
        cases choice <;> simp [World.move, World.moveQueryWorker, hphase]
    | pump index choice =>
      cases hpump : w.pumps[index]? with
      | none => simp [World.move, hpump]
      | some pump =>
        have hphase := hw.pumps pump (List.mem_of_getElem? hpump)
        exact move_eq_none_of_finished (finished_pump.mpr ⟨pump, hpump, hphase⟩)
    | reader choice =>
      apply move_eq_none_of_finished
      simp [World.Finished, TaskAction.task, hw.reader]
    | writer choice =>
      apply move_eq_none_of_finished
      simp [World.Finished, TaskAction.task, hw.writer]
    | actionWorker choice =>
      apply move_eq_none_of_finished
      simp [World.Finished, TaskAction.task, hw.actionWorker]
  unfold World.taskStep
  rw [hmove]
  split <;> rfl

/-- What the coordinator has returned. -/
def CoordinatorTask.returned? :
    CoordinatorTask → Option (Except WebSocketAdapterError Unit × Coordinator)
  | .finished result state => some (result, state)
  | .looping _ | .closing _ => none

theorem CoordinatorTask.returned?_eq_some {task : CoordinatorTask}
    {result : Except WebSocketAdapterError Unit} {state : Coordinator} :
    task.returned? = some (result, state) ↔ task = .finished result state := by
  cases task <;> simp [CoordinatorTask.returned?]

/-- A session whose coordinator has returned leaves nothing behind: all of its tasks have ended,
no subscription is held, the connection is closed, the result tells the fatal error if there was
one, and no step can follow. -/
theorem returned_session_at_rest (settings : SessionSettings) (id : ConnectionId)
    (metadata : Metadata) (allowed : Session → SessionAction → Prop) (s : Session)
    (hreachable : (Session.system settings id metadata allowed).Reachable s)
    (result : Except WebSocketAdapterError Unit) (state : Coordinator)
    (hreturned : s.coordinator = .finished result state) :
    s.world.AtRest settings ∧ state.subscriptions = [] ∧ state.connection.state = .closed ∧
      result = state.fatalError.elim (.ok ()) .error ∧
      ∀ action, s.step settings action = none := by
  have hend := returned_of_reachable hreachable hreturned
  have hrest := (watched_of_reachable hreachable).atRest hend
  refine ⟨hrest, hend.subscriptions, hend.connection, hend.result, fun action => ?_⟩
  cases action with
  | coordinator choice =>
    have hpending : s.coordinator.pending settings = none := by
      rw [hreturned]
      rfl
    simp [Session.step, hpending]
  | task action => simp [Session.step, hrest.taskStep_eq_none action]

/-- A session with one subscription, which its client leaves without a word. -/
theorem returned_session_at_rest_sample :
    ∃ s, (sampleSystem (sampleSettings 1 4) fun _ _ => True).Reachable s ∧
      s.world.pumps.length = 1 ∧ s.world.AtRest (sampleSettings 1 4) := by
  obtain ⟨log, s, hrun, hcheck⟩ := exists_run_of_logged (sampleSettings 1 4)
    (sampleSubscription ++
      [.task (.reader (.next none)), .coordinator .reader, .coordinator .proceed,
        .coordinator .elapsed, .coordinator .proceed, .coordinator .proceed,
        .coordinator (.order [⟨0⟩]), .coordinator .proceed, .task (.pump 0 .cancelled),
        .task (.pump 0 .closed), .coordinator .proceed, .task (.reader .resume),
        .coordinator .proceed, .task (.actionWorker .cancelled), .coordinator .proceed,
        .task (.writer .cancelled), .coordinator .proceed])
    (fun _ s => s.coordinator.returned?.isSome && s.world.pumps.length == 1)
    rfl (by decide +kernel)
  simp only [Bool.and_eq_true, beq_iff_eq] at hcheck
  obtain ⟨hfinished, hpumps⟩ := hcheck
  obtain ⟨⟨result, state⟩, hreturned⟩ := Option.isSome_iff_exists.mp hfinished
  have hend := CoordinatorTask.returned?_eq_some.mp hreturned
  exact ⟨s, hrun.reachable, hpumps,
    (returned_session_at_rest _ _ _ _ s hrun.reachable result state hend).1⟩

end Runs
end OrbitRelay
