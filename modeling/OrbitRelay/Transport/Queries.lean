import OrbitRelay.Transport.Handshake
import OrbitRelay.Transport.QueryWorker

/-! The queries of one connection: where each of them is between its message and its answer. -/
namespace OrbitRelay

section Runs
variable {settings : SessionSettings} {id : ConnectionId} {metadata : Metadata} {s s' : Session}

instance (w : World) : (action : TaskAction) → Decidable (Faithful w action)
  | .queryTask index (some response) =>
    inferInstanceAs (Decidable (∀ job ∈ w.queryTasks[index]?.bind QueryTask.job?,
      response.ticket = job.request.ticket))
  | .queryTask _ none | .reader _ | .writer _ | .actionWorker _ | .queryWorker _ | .pump .. =>
    isTrue trivial

/-- No attempt of the coordinator on the writer queue is refused, and the executor answers the
request it was given. -/
def Smooth (settings : SessionSettings) (s : Session) : SessionAction → Prop
  | .coordinator choice =>
    ((s.step settings (.coordinator choice)).all fun next =>
      next.trace.getLast?.all fun e => ! refusedWrite e) = true
  | .task action => Faithful s.world action

instance (s : Session) : (action : SessionAction) → Decidable (Smooth settings s action)
  | .coordinator _ => inferInstanceAs (Decidable (_ = true))
  | .task action => inferInstanceAs (Decidable (Faithful s.world action))

/-- The queue never takes what is not there. -/
theorem failedWrite_of_respond {w w' : World} {request : CoordinatorRequest}
    {choice : CoordinatorChoice} {a : request.Answer}
    (h : w.respond request choice = some (a, w')) {state : Coordinator}
    (hwrite : refusedWrite ⟨state, request, a⟩ = false) (state' : Coordinator) :
    failedWrite ⟨state', request, a⟩ = false := by
  cases request with
  | enqueue item =>
    have hattempt (haction : ∀ job, item ≠ .action job) (hquery : ∀ job, item ≠ .query job)
        (hqueued : a = true) : item.command?.isSome = true := by
      cases choice with
      | proceed =>
        have hanswer : (w.enqueue item).1 = a := congrArg Prod.fst (Option.some.inj h)
        rw [w.enqueue_eq_attempt haction hquery, hqueued] at hanswer
        cases hcommand : item.command? with
        | some command => rfl
        | none =>
          rw [hcommand] at hanswer
          cases hanswer
      | _ => cases h
    change Bool at a
    cases item with
    | action job | query job => rfl
    | _ =>
      obtain rfl : a = true := by simpa [refusedWrite] using hwrite
      have hcommand := hattempt (by intro job heq; cases heq) (by intro job heq; cases heq) rfl
      simpa [failedWrite] using hcommand
  | _ => rfl

/-- Every pause of the loop keeps the specification of its turns. -/
theorem queryTurns_of_reachable
    (h : (Session.system settings id metadata (Smooth settings)).Reachable s)
    (hloop : s.coordinator.isLooping = true) :
    ∃ p, s.coordinator.pending settings = some p ∧
      (queryTurns settings).contract.guarantee s.trace p.state p.request := by
  refine TurnSpec.contract_of_reachable queryTurns_body (fun s choice p a w hok hp hrespond => ?_)
    (Session.reachable_along h) hloop
  obtain ⟨hsmooth, hreach⟩ := hok
  constructor
  · intro _ hready
    have hs := (consistent_of_paused (Session.reachable_of_allowed hreach) (.waiting hp)).1
    exact ⟨hs.negotiated (.inr hready), hs.bound hready⟩
  · intro _ turn _
    refine @failedWrite_of_respond _ _ _ _ _ hrespond p.state ?_ turn.state
    simpa [Smooth, Session.step, hp, hrespond] using hsmooth

/-- The tickets of the completed queries that the coordinator received. -/
def completedQueries (h : CoordinatorTrace) : List Ticket :=
  (h.filterMap eventOf).filterMap CoordinatorEvent.ticket?

/-- Where the queries of a run are. -/
structure QueryFlow (settings : SessionSettings) (s : Session) : Prop where
  world : QueryWorld settings s.world
  balance : s.world.Running →
    (s.trace.filterMap jobTicket).Perm (completedQueries s.trace ++ s.world.waiting)
  held : s.coordinator.isLooping = true → s.world.sendersDropped = false
  admissible : s.coordinator.isLooping = true → ∀ e ∈ s.trace, e.request.Admissible settings

theorem QueryWorld.responded {w w' : World} {e : CoordinatorExchange}
    (hw : QueryWorld settings w) (h : Responded w e w') : QueryWorld settings w' := by
  have hbefore (hrunning : w'.Running) : w.Running := ⟨h.live hrunning.1, h.held hrunning.2⟩
  constructor
  case own => exact hw.own.responded h
  case parked => exact fun task htask => hw.parked task (h.parked task htask)
  case capacities => exact h.capacities.trans hw.capacities
  case bounded => exact h.queryTasks ▸ hw.bounded
  case absent => exact h.queryWorker ▸ hw.absent
  case ended => exact fun hended hrunning => hw.ended (h.queryWorker ▸ hended) (hbefore hrunning)
  case present => exact fun hrunning => h.queryTasks ▸ hw.present (hbefore hrunning)

theorem QueryFlow.exchange (hflow : QueryFlow settings s) {choice : CoordinatorChoice}
    (hadmissible : ∀ p, s.coordinator.isLooping = true → s.coordinator.pending settings = some p →
      p.request.Admissible settings)
    (hstep : s.step settings (.coordinator choice) = some s') : QueryFlow settings s' := by
  obtain ⟨p, a, w, hp, hrespond, rfl⟩ := Session.step_coordinator_eq_some hstep
  have hresponded := responded_of_respond hrespond p.state
  have hbefore (hloop : (p.resume a).isLooping = true) : s.coordinator.isLooping = true :=
    CoordinatorTask.looping_of_resume hp hloop
  constructor
  case world => exact hflow.world.responded hresponded
  case balance =>
    intro hrunning
    have hperm := hflow.balance ⟨hresponded.live hrunning.1, hresponded.held hrunning.2⟩
    rw [List.perm_iff_count] at hperm ⊢
    intro ticket
    have hcount := hperm ticket
    have hjob : (jobTicket ⟨p.state, p.request, a⟩).toList =
        (queryOf ⟨p.state, p.request, a⟩).toList.map (·.request.ticket) := by
      rw [jobTicket]
      cases queryOf ⟨p.state, p.request, a⟩ <;> rfl
    rw [completedQueries, World.waiting, hresponded.events] at hcount
    rw [completedQueries, World.waiting, hresponded.queries, hresponded.queryTasks,
      List.filterMap_snoc, List.filterMap_snoc, hjob]
    simp only [List.filterMap_append, List.map_append, List.count_append] at hcount ⊢
    omega
  case held =>
    intro hloop
    have hheld := hflow.held (hbefore hloop)
    have hrequest := hadmissible p (hbefore hloop) hp
    by_contra hdropped
    rcases hresponded.dropped (by simpa using hdropped) with hdropped | hdropped
    · rw [hheld] at hdropped
      cases hdropped
    · change p.request = _ at hdropped
      rw [hdropped] at hrequest
      exact hrequest
  case admissible =>
    intro hloop e he
    rcases List.mem_append.mp he with he | he
    · exact hflow.admissible (hbefore hloop) e he
    · rw [List.mem_singleton.mp he]
      exact hadmissible p (hbefore hloop) hp

theorem QueryFlow.task (hflow : QueryFlow settings s) {action : TaskAction} {w : World}
    (hfaithful : Faithful s.world action)
    (hstep : s.world.taskStep settings action = some w) :
    QueryFlow settings { s with world := w } := by
  have hworld : QueryWorld settings w ∧ (w.Running → w.waiting.Perm s.world.waiting) := by
    cases action with
    | queryWorker choice => exact hflow.world.worker hstep
    | queryTask index response => exact hflow.world.task hfaithful hstep
    | _ =>
      obtain ⟨hworld, hwaiting⟩ := hflow.world.other hstep nofun nofun
      exact ⟨hworld, fun _ => .of_eq hwaiting⟩
  constructor
  case world => exact hworld.1
  case balance =>
    intro hrunning
    have hperm := hflow.balance (running_of_taskStep hstep hrunning)
    exact hperm.trans ((hworld.2 hrunning).symm.append_left _)
  case held => exact fun hloop => dropped_taskStep hstep ▸ hflow.held hloop
  case admissible => exact hflow.admissible

/-- Whatever the loop asks for is admissible. -/
theorem admissible_of_reachable
    (h : (Session.system settings id metadata (Smooth settings)).Reachable s)
    (hloop : s.coordinator.isLooping = true) {p : CoordinatorTask.Pending}
    (hp : s.coordinator.pending settings = some p) : p.request.Admissible settings := by
  obtain ⟨p', hp', -, hcurrent⟩ := queryTurns_of_reachable h hloop
  obtain rfl : p' = p := Option.some.inj (hp'.symm.trans hp)
  obtain ⟨hbegun, hselect⟩ := Session.begun_of_reachable h
  cases hrequest : p'.request.isSelect with
  | true =>
    obtain ⟨state, request, resume⟩ := p'
    cases request with
    | select => trivial
    | _ => cases hrequest
  | false =>
    have htrace : s.trace ≠ [] := by
      intro htrace
      rw [hselect htrace p' hp] at hrequest
      cases hrequest
    obtain ⟨turn, hturn⟩ := Option.isSome_iff_exists.mp
      ((flatMap_turnsOf (f := served) (fun _ _ => rfl) s.trace hbegun).2 htrace)
    exact ((hcurrent turn hturn).2 hrequest).2.2

theorem queryFlow_of_reachable
    (h : (Session.system settings id metadata (Smooth settings)).Reachable s) :
    QueryFlow settings s := by
  induction h with
  | init hinit =>
    obtain ⟨-, rfl⟩ := hinit
    constructor
    case world => exact queryWorld_start
    case balance => exact fun _ => .refl _
    case held => exact fun _ => rfl
    case admissible => exact fun _ _ he => (List.not_mem_nil he).elim
  | step hreach hstep ih =>
    obtain ⟨action, hok, hstep⟩ := hstep
    cases action with
    | coordinator choice =>
      exact ih.exchange (fun p hloop hp => admissible_of_reachable hreach hloop hp) hstep
    | task action =>
      obtain ⟨w, htask, rfl⟩ := Option.map_eq_some_iff.mp hstep
      exact ih.task hok htask

end Runs

section Counting

/-- The tickets of the queries that are to be answered with a response. -/
def askedQueries (h : CoordinatorTrace) : List Ticket := (turnsOf h).turns.filterMap Turn.asked

/-- The tickets of the responses that were queued. -/
def queuedResponses (h : CoordinatorTrace) : List Ticket := h.filterMap responseTicket

theorem count_flatMap_toList {α β : Type} [BEq β] (f g : α → Option β) (xs : List α) (b : β) :
    (xs.flatMap fun x => (f x).toList ++ (g x).toList).count b =
      (xs.filterMap f).count b + (xs.filterMap g).count b := by
  induction xs with
  | nil => rfl
  | cons x rest ih =>
    rw [List.flatMap_cons, List.count_append, List.count_append, ih]
    cases hf : f x <;> cases hg : g x <;> simp [hf, hg, List.count_cons] <;> omega

/-- The turns of a record dispose of no more than they have to, and of all of it between two
turns. -/
theorem served_le_owed {settings : SessionSettings} {h : CoordinatorTrace} {s : Coordinator}
    {q : CoordinatorRequest} (hturns : (queryTurns settings).contract.guarantee h s q)
    (ticket : Ticket) :
    ((turnsOf h).turns.flatMap Turn.served).count ticket ≤
        ((turnsOf h).turns.flatMap Turn.owed).count ticket ∧
      (q.isSelect = true → ((turnsOf h).turns.flatMap Turn.served).count ticket =
        ((turnsOf h).turns.flatMap Turn.owed).count ticket) := by
  obtain ⟨hearlier, hcurrent⟩ := hturns
  have hserved : (turnsOf h).earlier.flatMap Turn.served = (turnsOf h).earlier.flatMap Turn.owed :=
    List.flatMap_congr fun turn hturn => (hearlier turn hturn).1
  simp only [TurnLog.turns, List.flatMap_append, List.count_append, hserved]
  cases hturn : (turnsOf h).current with
  | none => exact ⟨Nat.le_refl _, fun _ => rfl⟩
  | some turn =>
    simp only [Option.toList_some, List.flatMap_singleton]
    obtain ⟨hdone, hasks⟩ := hcurrent turn hturn
    cases hselect : q.isSelect with
    | true =>
      rw [(hdone hselect).1]
      exact ⟨Nat.le_refl _, fun _ => rfl⟩
    | false =>
      rw [(hasks hselect).1]
      exact ⟨Nat.add_le_add_left (Nat.zero_le _) _, (of_both · rfl)⟩

/-- A query is with the workers or has its response, or it is being disposed of. -/
theorem waiting_add_responses {settings : SessionSettings} {id : ConnectionId} {metadata : Metadata}
    {s : Session} (h : (Session.system settings id metadata (Smooth settings)).Reachable s)
    (hloop : s.coordinator.isLooping = true) (hlive : s.world.cancelled = false)
    (ticket : Ticket) :
    s.world.waiting.count ticket + (queuedResponses s.trace).count ticket ≤
        (askedQueries s.trace).count ticket ∧
      (s.AtSelect settings →
        s.world.waiting.count ticket + (queuedResponses s.trace).count ticket =
          (askedQueries s.trace).count ticket) := by
  obtain ⟨p, hp, hturns⟩ := queryTurns_of_reachable h hloop
  have hflow := queryFlow_of_reachable h
  have hbalance := (List.perm_iff_count.mp (hflow.balance ⟨hlive, hflow.held hloop⟩)) ticket
  have hturnsOf := (flatMap_turnsOf (f := served) (fun _ _ => rfl) s.trace
    (Session.begun_of_reachable h).1).1
  have hserved : (s.trace.flatMap served).count ticket =
      (s.trace.filterMap jobTicket).count ticket + (queuedResponses s.trace).count ticket :=
    count_flatMap_toList jobTicket responseTicket s.trace ticket
  have howed : ((turnsOf s.trace).turns.flatMap Turn.owed).count ticket =
      (askedQueries s.trace).count ticket + (completedQueries s.trace).count ticket := by
    refine (count_flatMap_toList Turn.asked Turn.completed _ ticket).trans ?_
    rw [completedQueries, ← events_turnsOf, List.filterMap_filterMap]
    congr 3
    funext turn
    rcases turn with ⟨_, _ | (_ | told) | _, _⟩ <;> rfl
  obtain ⟨hle, heq⟩ := served_le_owed hturns ticket
  rw [List.count_append] at hbalance
  change ((turnsOf s.trace).turns.flatMap Turn.served) = _ at hturnsOf
  rw [hturnsOf, hserved, howed] at hle heq
  refine ⟨by omega, ?_⟩
  rintro ⟨p', hp', hselect⟩
  obtain rfl : p' = p := Option.some.inj (hp'.symm.trans hp)
  have hequal := heq (by rw [hselect]; rfl)
  omega

end Counting

section Rest
variable {settings : SessionSettings} {id : ConnectionId} {metadata : Metadata} {s : Session}

/-- The coordinator waits and has no event to take, and neither the query worker nor one of its
tasks can move. -/
structure Session.AtRest (settings : SessionSettings) (s : Session) : Prop where
  select : s.AtSelect settings
  events : s.step settings (.coordinator .event) = none
  worker : ∀ choice, s.step settings (.task (.queryWorker choice)) = none
  tasks : ∀ index response, s.step settings (.task (.queryTask index response)) = none

/-- The channels and the set of tasks of a session have room. -/
theorem positive_of_valid {config : WebSocketAdapterConfig} (h : config.validate = .ok ()) :
    0 < config.inboundCapacity ∧ 0 < config.queryQueueCapacity ∧
      0 < config.maxInFlightQueries := by
  have hpositive {value : Nat} {field : String} (h : requireNonZero value field = .ok ()) :
      0 < value := by
    unfold requireNonZero at h
    split at h
    · cases h
    · omega
  unfold WebSocketAdapterConfig.validate at h
  simp only [Except.mapError_eq_ok, Except.bind_eq_ok] at h
  obtain ⟨_, -, _, hinbound, _, -, _, hqueue, _, htasks, -⟩ := h
  exact ⟨hpositive hinbound, hpositive hqueue, hpositive htasks⟩

theorem validate_of_reachable {allowed : Session → SessionAction → Prop}
    (h : (Session.system settings id metadata allowed).Reachable s) :
    settings.config.validate = .ok () :=
  h.invariant (I := fun _ => settings.config.validate = .ok ()) (fun _ (hinit : _ ∧ _) => hinit.1)
    fun _ _ hvalid _ => hvalid

/-- Without an executor nothing is admitted. -/
theorem QueryFlow.jobs_eq_nil (hflow : QueryFlow settings s)
    (hloop : s.coordinator.isLooping = true) (hexecutor : settings.hasQueryExecutor = false) :
    s.trace.filterMap jobTicket = [] := by
  rw [List.filterMap_eq_nil_iff]
  intro e he
  have hadmissible := hflow.admissible hloop e he
  obtain ⟨state, request, a⟩ := e
  cases hjob : queryOf ⟨state, request, a⟩ with
  | none => rw [jobTicket, hjob, Option.map_none]
  | some job =>
    obtain rfl : request = .enqueue (.query job) := by
      unfold queryOf at hjob
      split at hjob <;> cases hjob
      rename_i heq
      cases heq
      rfl
    exact of_both hadmissible hexecutor

/-- Nothing waits in a session at rest. -/
theorem waiting_eq_nil (h : (Session.system settings id metadata (Smooth settings)).Reachable s)
    (hloop : s.coordinator.isLooping = true) (hlive : s.world.cancelled = false)
    (hrest : s.AtRest settings) : s.world.waiting = [] := by
  obtain ⟨hinbound, hqueue, htasks⟩ := positive_of_valid (validate_of_reachable h)
  have hflow := queryFlow_of_reachable h
  have hw := hflow.world
  have hcapacities : s.world.eventChannel.capacity = settings.config.inboundCapacity ∧
      s.world.queryQueue.capacity = settings.config.queryQueueCapacity :=
    Prod.mk.inj hw.capacities
  have hevents : s.world.eventChannel.contents = [] := by
    obtain ⟨⟨state, request, resume⟩, hp, hselect⟩ := hrest.select
    subst hselect
    apply Channel.recv_eq_none (hcapacities.1 ▸ hinbound)
    by_contra hsome
    obtain ⟨⟨event, channel⟩, hrecv⟩ := Option.ne_none_iff_exists'.mp hsome
    have hstep := hrest.events
    simp [Session.step, hp, World.respond, hrecv] at hstep
  have hfree (task : TaskId) (htask : task ≠ .reader) : ¬ s.world.Blocked task := by
    rintro (hparked | hparked)
    · exact htask (hw.parked task hparked)
    · exact Channel.not_parked_of_contents hevents task hparked
  have hqueryWorker := hfree .queryWorker (by intro heq; cases heq)
  have hqueryTask (index : Nat) := hfree (.queryTask index) (by intro heq; cases heq)
  have hworker (choice : QueryWorkerChoice) : s.world.moveQueryWorker settings choice = none := by
    have hstep := hrest.worker choice
    simpa [Session.step, World.taskStep, TaskAction.task, hqueryWorker, World.move] using hstep
  have htask (index : Nat) (response : Option QueryResponse) :
      s.world.moveQueryTask index response = none := by
    have hstep := hrest.tasks index response
    simpa [Session.step, World.taskStep, TaskAction.task, hqueryTask index, World.move] using hstep
  cases hphase : s.world.queryWorker with
  | absent =>
    have hbalance := hflow.balance ⟨hlive, hflow.held hloop⟩
    rw [hflow.jobs_eq_nil hloop (hw.absent hphase)] at hbalance
    exact (List.append_eq_nil_iff.mp hbalance.nil_eq.symm).2
  | selecting =>
    have hidle : s.world.queryTasks = [] := by
      cases hlist : s.world.queryTasks with
      | nil => rfl
      | cons task rest =>
        cases task with
        | running job =>
          have hmove := htask 0 (some (oversizedResponse ⟨job.request.requestId,
            job.request.queryType, .success job.request.payload⟩))
          simp [World.moveQueryTask, hlist] at hmove
        | done response =>
          have hmove := hworker (.joined 0)
          cases response <;> simp [World.moveQueryWorker, hphase, hlive, hlist] at hmove
    have hempty : s.world.queryQueue.contents = [] := by
      apply Channel.recv_eq_none (hcapacities.2 ▸ hqueue)
      by_contra hsome
      obtain ⟨⟨job, channel⟩, hrecv⟩ := Option.ne_none_iff_exists'.mp hsome
      have hmove := hworker .receive
      simp [World.moveQueryWorker, hphase, hlive, hidle, hrecv] at hmove
      omega
    rw [World.waiting, hempty, hidle, hevents]
    rfl
  | reported =>
    have hmove := hworker .resume
    simp [World.moveQueryWorker, hphase] at hmove
  | draining | finished =>
    exact absurd ⟨hlive, hflow.held hloop⟩ (hw.ended (by rw [hphase]; rfl))

/-- A turn that has come to its next request has queued nothing but the one answer, if any. -/
theorem queued_of_turn {h : CoordinatorTrace} {state : Coordinator} {q : CoordinatorRequest}
    (hturns : (queryTurns settings).contract.guarantee h state q) {turn : Turn}
    (hturn : turn ∈ (turnsOf h).turns) {message : QueryMessage}
    (hquery : turn.query? = some message) :
    (turn.Speaks message → ∀ queued ∈ turn.queued, queued.ticket? = some message.ticket) ∧
      (¬ turn.Speaks message → turn.queued <+: [unsupportedVersion message] ∧
        (q.isSelect = true → turn.queued = [unsupportedVersion message])) := by
  obtain ⟨hearlier, hcurrent⟩ := hturns
  have hanswered (hdone : (queryTurns settings).done turn) :
      (turn.Speaks message → ∀ queued ∈ turn.queued, queued.ticket? = some message.ticket) ∧
        (¬ turn.Speaks message → turn.queued <+: [unsupportedVersion message] ∧
          (q.isSelect = true → turn.queued = [unsupportedVersion message])) := by
    obtain ⟨-, hanswers, hunsupported⟩ := hdone
    constructor
    · intro hspeaks
      apply hanswers message.ticket (List.mem_append_left _ _)
      rw [Turn.asked, hquery, Option.bind_some, if_pos hspeaks]
      exact List.mem_singleton_self _
    · intro hsilent
      have hqueued := hunsupported message hquery hsilent
      rw [hqueued]
      exact ⟨List.prefix_refl _, fun _ => rfl⟩
  rcases List.mem_append.mp hturn with hturn | hturn
  · exact hanswered (hearlier turn hturn)
  · obtain ⟨hselect, hasks⟩ := hcurrent turn (Option.mem_toList.mp hturn)
    cases hq : q.isSelect with
    | true => exact hq ▸ hanswered (hselect hq)
    | false =>
      have hqueued := (hasks hq).2.1 (.inl (by rw [hquery]; rfl))
      rw [hqueued]
      refine ⟨fun _ _ hmem => (List.not_mem_nil hmem).elim, fun _ => ⟨List.nil_prefix, ?_⟩⟩
      exact (of_both · rfl)

/-- Every response that was queued is within the limit. -/
theorem fits_of_admissible {e : CoordinatorExchange} (hadmissible : e.request.Admissible settings)
    {codec : MessageCodec} {response : QueryResponseMessage}
    (hcommand : commandOf e = some (.application (.queryResponse response) codec)) :
    ∃ encoded, codec.encodeOutbound (.queryResponse response) = .ok encoded ∧
      encoded.length ≤ settings.config.transport.maxMessageBytes := by
  unfold commandOf at hcommand
  split at hcommand
  · rename_i state item
    cases item with
    | application codec message =>
      cases hcommand
      exact hadmissible.elim
    | queryResponse codec version answer limit =>
      obtain ⟨message, hmessage, heq⟩ := Option.map_eq_some_iff.mp hcommand
      cases heq
      obtain rfl : limit = settings.config.transport.maxMessageBytes := hadmissible
      exact (responseMessage_eq_some hmessage).2
    | error codec requestId error => cases hcommand
    | writer command =>
      cases hcommand
      exact hadmissible.elim
    | action job => cases hcommand
    | query job => cases hcommand
  · cases hcommand
  · cases hcommand

def sampleQueryHello : String := helloText "2"

def sampleQueryText : List UInt8 :=
  ["\x7b\"kind\":\"query\",\"payload\":\x7b\"version\":",
    "\x7b\"major\":0,\"minor\":2,\"patch\":0\x7d,\"message_id\":",
    "\"00000000-0000-0000-0000-000000000000\",\"message_type\":\"canvas.get\",\"payload\":",
    "\x7b\x7d\x7d\x7d"].flatMap utf8

def sampleResponseText : List UInt8 :=
  ["\x7b\"kind\":\"query_response\",\"payload\":\x7b\"version\":",
    "\x7b\"major\":0,\"minor\":2,\"patch\":0\x7d,\"request_id\":",
    "\"00000000-0000-0000-0000-000000000000\",\"query_type\":\"canvas.get\",\"result\":",
    "\x7b\"status\":\"success\",\"payload\":\x7b\x7d\x7d\x7d\x7d"].flatMap utf8

def sampleQueryType : QueryType := ⟨"canvas.get", by decide⟩

def sampleResponse : QueryResponse := ⟨sampleId .message, sampleQueryType, .success ⟨[]⟩⟩

/-- The codec of the other runs, which also reads the query and writes its response. -/
def sampleQueryCodec : MessageCodec :=
  { sampleCodec with
    decodeInbound := fun bytes =>
      if bytes = utf8 sampleQueryHello then .ok (.hello ⟨[queryProtocolVersion], ["json"]⟩)
      else if bytes = sampleQueryText then
        .ok (.query ⟨queryProtocolVersion, sampleId .message, sampleQueryType, ⟨[]⟩⟩)
      else sampleCodec.decodeInbound bytes
    -- It is the only response that this codec is given.
    encodeOutbound := fun message =>
      match message with
      | .queryResponse _ => .ok sampleResponseText
      | message => sampleCodec.encodeOutbound message }

def sampleQuerySettings : SessionSettings :=
  { sampleSettings 1 4 with bootstrapCodec := sampleQueryCodec, codec := sampleQueryCodec,
                            hasQueryExecutor := true }

end Rest
end OrbitRelay
