import Mathlib.Data.List.Perm.Subperm
import OrbitRelay.Transport.Rest
import OrbitRelay.Transport.Waiting

/-! What a session takes in: the coordinator handles the frames of the socket in order, each of
them once, and what may pile up in front of it is bounded. -/
namespace OrbitRelay

/-- What `run_reader` makes of what the socket yields. -/
def passedOn (maxMessageBytes : Nat) : Option (Except String Frame) → Option ReaderEvent
  | none => some .closed
  | some (.error _) => none
  | some (.ok (.text bytes)) =>
    if bytes.length > maxMessageBytes then some .oversized else some (.text bytes)
  | some (.ok (.binary bytes)) =>
    if bytes.length > maxMessageBytes then some .oversized else some .binary
  | some (.ok (.ping payload)) => some (.nativePing payload)
  | some (.ok .pong) => some .nativePong
  | some (.ok .close) => some .closed
  | some (.ok .raw) => none

/-- Nothing is read after this. -/
def endsReading (maxMessageBytes : Nat) : Option (Except String Frame) → Bool
  | none | some (.error _) | some (.ok (.binary _)) | some (.ok .close) => true
  | some (.ok (.text bytes)) => bytes.length > maxMessageBytes
  | some (.ok (.ping _)) | some (.ok .pong) | some (.ok .raw) => false

/-- What the socket yields in this step. -/
def readIn : Session × SessionAction → Option (Option (Except String Frame))
  | (_, .task (.reader (.next frame))) => some frame
  | _ => none

def framesRead (log : Session.Log) : List (Option (Except String Frame)) := log.filterMap readIn

/-- The reader event that the coordinator handles after this exchange. -/
def handledIn : CoordinatorExchange → Option ReaderEvent
  | ⟨_, .select, .reader event⟩ => event
  | _ => none

def handled (h : CoordinatorTrace) : List ReaderEvent := h.filterMap handledIn

section Exchanges
variable {w w' : World}

/-- An exchange takes the oldest item from one of the inbound channels, or from neither. -/
theorem inbound_respond {q : CoordinatorRequest} {choice : CoordinatorChoice} {a : q.Answer}
    (h : w.respond q choice = some (a, w')) (s : Coordinator) :
    (∃ event, handledIn ⟨s, q, a⟩ = some event ∧
      w.readerChannel.recv = some (event, w'.readerChannel) ∧
      w'.eventChannel = w.eventChannel) ∨
    (handledIn ⟨s, q, a⟩ = none ∧ w'.readerChannel = w.readerChannel ∧
      (w'.eventChannel = w.eventChannel ∨
        ∃ event, w.eventChannel.recv = some (event, w'.eventChannel))) := by
  have hsame (hhandled : handledIn ⟨s, q, a⟩ = none) (hinbound : w'.inbound = w.inbound) :
      handledIn ⟨s, q, a⟩ = none ∧ w'.readerChannel = w.readerChannel ∧
        (w'.eventChannel = w.eventChannel ∨
          ∃ event, w.eventChannel.recv = some (event, w'.eventChannel)) :=
    ⟨hhandled, congrArg Prod.fst hinbound, .inl (congrArg Prod.snd hinbound)⟩
  unfold World.respond at h
  split at h
  case h_1 =>
    split at h
    case h_1 hrecv =>
      cases h
      exact .inl ⟨_, rfl, hrecv, rfl⟩
    case h_2 =>
      split at h <;> cases h
      exact .inr (hsame rfl rfl)
  case h_2 =>
    split at h <;> cases h
    exact .inr ⟨rfl, rfl, .inr ⟨_, ‹_›⟩⟩
  case h_4 item =>
    have hworld : (w.enqueue item).2 = w' := congrArg Prod.snd (Option.some.inj h)
    exact .inr (hsame rfl (hworld ▸ inbound_enqueue item))
  case h_5 =>
    obtain ⟨performed, hperform, heq⟩ := Option.map_eq_some_iff.mp h
    cases heq
    exact .inr (hsame rfl (inbound_perform hperform))
  case h_11 =>
    split at h
    · cases h
      exact .inr (hsame rfl rfl)
    · split at h <;> cases h
      exact .inr (hsame rfl rfl)
  case h_12 | h_13 | h_14 =>
    split at h <;> cases h
    exact .inr (hsame rfl rfl)
  case h_15 => cases h
  all_goals
    cases h
    exact .inr (hsame rfl rfl)

end Exchanges

section Reading
variable {settings : SessionSettings} {log : Session.Log} {s s' : Session}

/-- The reader event that a send brings to the coordinator. -/
def Send.read : Send → Option ReaderEvent
  | .reader input => some input
  | .event _ => none

/-- The reader goes on reading. -/
def ReaderPhase.goesOn : ReaderPhase → Bool
  | reading | sent false => true
  | sent true | reported | finished => false

/-- The reader passes on what it reads, and stops after what ends the reading. -/
theorem readerMove_cases {cancelled : Bool} {maxMessageBytes : Nat} {phase phase' : ReaderPhase}
    {choice : ReaderChoice} {send : Option Send}
    (h : readerMove cancelled maxMessageBytes phase choice = some (phase', send)) :
    (∃ frame, choice = .next frame ∧ phase.goesOn = true ∧
      send.bind Send.read = passedOn maxMessageBytes frame ∧
      phase'.goesOn = ! endsReading maxMessageBytes frame) ∨
    ((∀ frame, choice ≠ .next frame) ∧ send = none ∧
      (phase.goesOn = false → phase'.goesOn = false)) := by
  unfold readerMove at h
  split at h
  case h_1 =>
    split at h <;> cases h
    exact .inr ⟨(by intro frame heq; cases heq), rfl, fun _ => rfl⟩
  case h_4 | h_5 =>
    split at h <;> cases h
    · exact .inl ⟨_, rfl, rfl, by simp_all [passedOn, Send.read],
        by simp_all [endsReading, ReaderPhase.goesOn]⟩
    · exact .inl ⟨_, rfl, rfl, by simp_all [passedOn, Send.read],
        by simp_all [endsReading, ReaderPhase.goesOn]⟩
  case h_10 =>
    cases h
    exact .inr ⟨(by intro frame heq; cases heq), rfl, id⟩
  case h_11 | h_12 =>
    cases h
    exact .inr ⟨(by intro frame heq; cases heq), rfl, fun _ => rfl⟩
  case h_13 => cases h
  all_goals
    cases h
    exact .inl ⟨_, rfl, rfl, rfl, rfl⟩

/-- What a move of another task sends is not a reader event. -/
theorem read_of_move {w w' : World} {action : TaskAction} {send : Option Send}
    (h : w.move settings action = some (w', send)) (haction : action.task ≠ .reader) :
    send.bind Send.read = none := by
  have hown (task : TaskId) (hsends : SendsOwn task send) (htask : task ≠ .reader) :
      send.bind Send.read = none := by
    rcases send with _ | event | event
    · rfl
    · exact absurd (hsends _ rfl) htask
    · rfl
  cases action with
  | reader choice => exact absurd rfl haction
  | writer choice => exact hown _ (moveWriter_frame h).2.1 haction
  | actionWorker choice => exact hown _ (moveActionWorker_frame h).2 haction
  | queryWorker choice => exact hown _ (moveQueryWorker_frame h).2 haction
  | queryTask index response =>
    rw [(moveQueryTask_frame h).2]
    rfl
  | pump index choice =>
    obtain ⟨pump, hpump, hmove⟩ := Option.bind_eq_some_iff.mp h
    obtain ⟨-, -, hsent, -⟩ := movePump_frame hmove hpump
    rcases send with _ | event | event
    · rfl
    · exact absurd rfl (hsent event)
    · rfl

theorem reads_deliver (w : World) (task : TaskId) (send : Option Send) :
    (w.deliver task send).readerChannel.contents =
      w.readerChannel.contents ++ (send.bind Send.read).toList := by
  rcases send with _ | event | event
  · exact (List.append_nil _).symm
  · exact Channel.contents_send _ task event
  · exact (List.append_nil _).symm

/-- The frames that were read are handled or wait, and the reader stops where it should. -/
structure TakenIn (settings : SessionSettings) (log : Session.Log) (s : Session) : Prop where
  contents : handled s.trace ++ s.world.readerChannel.contents =
    (framesRead log).filterMap (passedOn settings.config.transport.maxMessageBytes)
  going : s.world.reader.goesOn = true → ∀ frame ∈ framesRead log,
    endsReading settings.config.transport.maxMessageBytes frame = false
  last : ∀ before frame after, framesRead log = before ++ frame :: after →
    endsReading settings.config.transport.maxMessageBytes frame = true → after = []

theorem takenIn_start (settings : SessionSettings) (id : ConnectionId) (metadata : Metadata) :
    TakenIn settings [] (.start settings id metadata) where
  contents := rfl
  going _ _ hmem := (List.not_mem_nil hmem).elim
  last before frame after heq := by
    change [] = before ++ frame :: after at heq
    simp at heq

theorem handled_snoc (h : CoordinatorTrace) (e : CoordinatorExchange) :
    handled (h ++ [e]) = handled h ++ (handledIn e).toList :=
  List.filterMap_snoc ..

/-- A step in which nothing is read. -/
theorem TakenIn.quiet (hs : TakenIn settings log s) {entry : Session × SessionAction}
    (hread : readIn entry = none)
    (hcontents : handled s'.trace ++ s'.world.readerChannel.contents =
      handled s.trace ++ s.world.readerChannel.contents)
    (hreader : s'.world.reader.goesOn = true → s.world.reader.goesOn = true) :
    TakenIn settings (log ++ [entry]) s' := by
  have hframes : framesRead (log ++ [entry]) = framesRead log :=
    List.filterMap_snoc_none _ hread
  constructor
  case contents =>
    rw [hframes, hcontents]
    exact hs.contents
  case going =>
    rw [hframes]
    exact fun hgoes => hs.going (hreader hgoes)
  case last =>
    rw [hframes]
    exact hs.last

theorem TakenIn.exchange (hs : TakenIn settings log s) {choice : CoordinatorChoice}
    (hstep : s.step settings (.coordinator choice) = some s') :
    TakenIn settings (log ++ [(s, .coordinator choice)]) s' := by
  obtain ⟨p, a, w, -, hrespond, rfl⟩ := Session.step_coordinator_eq_some hstep
  apply hs.quiet rfl
  · rw [handled_snoc]
    rcases inbound_respond hrespond p.state with ⟨event, hhandled, hrecv, -⟩ | ⟨hhandled, hsame, -⟩
    · rw [hhandled, Channel.contents_recv hrecv]
      simp
    · rw [hhandled, hsame]
      simp
  · rw [(phases_of_respond hrespond).1]
    exact id

/-- The reader reads a frame. -/
theorem TakenIn.read (hs : TakenIn settings log s) {frame : Option (Except String Frame)}
    (hgoes : s.world.reader.goesOn = true)
    (htrace : s'.trace = s.trace)
    (hcontents : s'.world.readerChannel.contents = s.world.readerChannel.contents ++
      (passedOn settings.config.transport.maxMessageBytes frame).toList)
    (hreader : s'.world.reader.goesOn =
      ! endsReading settings.config.transport.maxMessageBytes frame) :
    TakenIn settings (log ++ [(s, .task (.reader (.next frame)))]) s' := by
  have hframes : framesRead (log ++ [(s, .task (.reader (.next frame)))]) =
      framesRead log ++ [frame] := List.filterMap_snoc ..
  have hbefore := hs.going hgoes
  constructor
  case contents =>
    rw [hframes, htrace, hcontents, List.filterMap_snoc, ← hs.contents, List.append_assoc]
  case going =>
    rw [hframes, hreader]
    intro hgoes frame' hmem
    rcases List.mem_append.mp hmem with hmem | hmem
    · exact hbefore frame' hmem
    · rw [List.mem_singleton.mp hmem]
      simpa using hgoes
  case last =>
    rw [hframes]
    intro before last after heq hends
    rcases List.eq_nil_or_concat after with rfl | ⟨rest, final, rfl⟩
    · rfl
    · rw [List.concat_eq_append, ← List.cons_append, ← List.append_assoc] at heq
      have hmem : last ∈ framesRead log := by
        rw [(List.append_inj' heq rfl).1]
        exact List.mem_append_right _ List.mem_cons_self
      rw [hbefore last hmem] at hends
      cases hends

theorem TakenIn.task (hs : TakenIn settings log s) {action : TaskAction} {w : World}
    (hstep : s.world.taskStep settings action = some w) :
    TakenIn settings (log ++ [(s, .task action)]) { s with world := w } := by
  obtain ⟨-, moved, send, hmove, rfl⟩ := World.taskStep_eq_some hstep
  have hchannel : moved.readerChannel = s.world.readerChannel := by
    rw [move_frame hmove]
    cases action <;> rfl
  have hcontents := reads_deliver moved action.task send
  rw [hchannel] at hcontents
  have hreader : (moved.deliver action.task send).reader = moved.reader := by
    rw [deliver_frame]
  by_cases haction : action.task = .reader
  · cases action with
    | reader choice =>
      obtain ⟨⟨phase, sent⟩, hphase, heq⟩ := Option.map_eq_some_iff.mp hmove
      cases heq
      rcases readerMove_cases hphase with ⟨frame, rfl, hgoes, hsent, hends⟩ | ⟨hnot, rfl, hgoes⟩
      · rw [hsent] at hcontents
        exact hs.read hgoes rfl hcontents ((congrArg ReaderPhase.goesOn hreader).trans hends)
      · apply hs.quiet
        · cases choice with
          | next frame => exact absurd rfl (hnot frame)
          | _ => rfl
        · exact congrArg (handled s.trace ++ ·) (hcontents.trans (List.append_nil _))
        · rw [hreader]
          intro hgoes'
          by_contra hstopped
          have hstops := hgoes (by simpa using hstopped)
          change phase.goesOn = true at hgoes'
          rw [hstops] at hgoes'
          cases hgoes'
    | _ => cases haction
  · rw [read_of_move hmove haction] at hcontents
    apply hs.quiet
    · cases action with
      | reader choice => exact absurd rfl haction
      | _ => rfl
    · exact congrArg (handled s.trace ++ ·) (hcontents.trans (List.append_nil _))
    · have hphase : moved.reader = s.world.reader := by
        rw [move_frame hmove]
        cases action with
        | reader choice => exact absurd rfl haction
        | _ => rfl
      rw [hreader, hphase]
      exact id

end Reading

section Waiters
variable {settings : SessionSettings} {w w' : World}

/-- The tasks whose sends wait for room. -/
def World.waiters (w : World) : List TaskId :=
  w.readerChannel.parked.map Prod.fst ++ w.eventChannel.parked.map Prod.fst

/-- The tasks that may come to send something. -/
def World.senders (w : World) : List TaskId :=
  [.reader, .writer, .actionWorker, .queryWorker] ++ (List.range w.pumps.length).map TaskId.pump

/-- What may pile up in front of the coordinator, and in the set of the query worker. -/
structure Backlog (settings : SessionSettings) (w : World) : Prop where
  capacities : w.readerChannel.capacity = settings.config.inboundCapacity ∧
    w.eventChannel.capacity = settings.config.inboundCapacity
  waiters : w.waiters.Nodup
  senders : ∀ task ∈ w.waiters, task ∈ w.senders
  reader : ∀ task ∈ w.readerChannel.parked.map Prod.fst, task = .reader
  queries : w.queryTasks.length ≤ settings.config.maxInFlightQueries

theorem backlog_start : Backlog settings (.start settings) where
  capacities := ⟨rfl, rfl⟩
  waiters := List.nodup_nil
  senders _ hmem := (List.not_mem_nil hmem).elim
  reader _ hmem := (List.not_mem_nil hmem).elim
  queries := Nat.zero_le _

theorem blocked_iff {task : TaskId} : w.Blocked task ↔ task ∈ w.waiters := by
  rw [World.waiters, List.mem_append]
  rfl

theorem waiters_deliver (w : World) (task : TaskId) (send : Option Send) :
    (w.deliver task send).waiters.Perm w.waiters ∨
      (send.isSome = true ∧ (w.deliver task send).waiters.Perm (task :: w.waiters)) := by
  rcases send with _ | event | event
  · exact .inl (List.Perm.refl _)
  · rcases Channel.parked_send w.readerChannel task event with hparked | hparked
    · left
      simp [World.waiters, World.deliver, hparked]
    · right
      refine ⟨rfl, ?_⟩
      simp only [World.waiters, World.deliver, hparked, List.map_append, List.map_singleton,
        List.append_assoc]
      exact List.perm_middle
  · rcases Channel.parked_send w.eventChannel task event with hparked | hparked
    · left
      simp [World.waiters, World.deliver, hparked]
    · right
      refine ⟨rfl, ?_⟩
      simp only [World.waiters, World.deliver, hparked, List.map_append, List.map_singleton]
      rw [← List.append_assoc]
      exact List.perm_append_singleton _ _

theorem Backlog.exchange (hw : Backlog settings w) {q : CoordinatorRequest}
    {choice : CoordinatorChoice} {a : q.Answer} (hrespond : w.respond q choice = some (a, w'))
    (s : Coordinator) : Backlog settings w' := by
  have hresponded := responded_of_respond hrespond s
  have hpumps : w.senders ⊆ w'.senders := by
    have hids := congrArg List.length (evolves_pumpsAfter w.pumps ⟨s, q, a⟩).2
    rw [← hresponded.pumps, List.length_map, List.length_append, List.length_map] at hids
    intro task hmem
    rcases List.mem_append.mp hmem with hmem | hmem
    · exact List.mem_append_left _ hmem
    · obtain ⟨index, hindex, rfl⟩ := List.mem_map.mp hmem
      apply List.mem_append_right
      apply List.mem_map_of_mem
      rw [List.mem_range] at hindex ⊢
      omega
  have hinbound : w'.waiters.Sublist w.waiters ∧
      (w'.readerChannel.parked.map Prod.fst).Sublist (w.readerChannel.parked.map Prod.fst) ∧
      w'.readerChannel.capacity = w.readerChannel.capacity ∧
      w'.eventChannel.capacity = w.eventChannel.capacity := by
    rcases inbound_respond hrespond s with ⟨event, -, hrecv, hsame⟩ | ⟨-, hsame, hevents⟩
    · have hreader : (w'.readerChannel.parked.map Prod.fst).Sublist
          (w.readerChannel.parked.map Prod.fst) := by
        rw [Channel.parked_recv hrecv]
        exact (List.tail_sublist _).map _
      refine ⟨?_, hreader, Channel.capacity_recv hrecv, by rw [hsame]⟩
      rw [World.waiters, World.waiters, hsame]
      exact hreader.append (List.Sublist.refl _)
    · rcases hevents with hevents | ⟨event, hrecv⟩
      · rw [World.waiters, World.waiters, hsame, hevents]
        exact ⟨List.Sublist.refl _, List.Sublist.refl _, rfl, rfl⟩
      · rw [World.waiters, World.waiters, hsame, Channel.parked_recv hrecv]
        refine ⟨(List.Sublist.refl _).append ((List.tail_sublist _).map _), List.Sublist.refl _, rfl,
          Channel.capacity_recv hrecv⟩
  obtain ⟨hwaiters, hreader, hcapacity, hcapacity'⟩ := hinbound
  constructor
  case capacities => exact ⟨hcapacity.trans hw.capacities.1, hcapacity'.trans hw.capacities.2⟩
  case waiters => exact hwaiters.nodup hw.waiters
  case senders => exact fun task hmem => hpumps (hw.senders task (hwaiters.subset hmem))
  case reader => exact fun task hmem => hw.reader task (hreader.subset hmem)
  case queries =>
    rw [hresponded.queryTasks]
    exact hw.queries

/-- A task that sends is one of the senders. -/
theorem mem_senders_of_move {action : TaskAction} {send : Option Send}
    (h : w.move settings action = some (w', send)) (hsend : send.isSome = true) :
    action.task ∈ w.senders := by
  cases action with
  | queryTask index response =>
    rw [(moveQueryTask_frame h).2] at hsend
    cases hsend
  | pump index choice =>
    obtain ⟨pump, hpump, -⟩ := Option.bind_eq_some_iff.mp h
    apply List.mem_append_right
    apply List.mem_map_of_mem
    exact List.mem_range.mpr (List.getElem?_eq_some_iff.mp hpump).1
  | _ => simp [World.senders, TaskAction.task]

theorem queries_moveQueryWorker {choice : QueryWorkerChoice} {send : Option Send}
    (hw : w.queryTasks.length ≤ settings.config.maxInFlightQueries)
    (h : w.moveQueryWorker settings choice = some (w', send)) :
    w'.queryTasks.length ≤ settings.config.maxInFlightQueries := by
  have herase (index : Nat) :
      (w.queryTasks.eraseIdx index).length ≤ settings.config.maxInFlightQueries :=
    Nat.le_trans (List.length_eraseIdx_le _ _) hw
  unfold World.moveQueryWorker at h
  split at h
  case h_1 =>
    split at h <;> cases h
    exact hw
  case h_2 =>
    split at h
    · cases h
    · split at h
      · split at h <;> cases h
        · exact herase _
        · exact herase _
      · cases h
  case h_3 =>
    split at h
    · cases h
    · rename_i hguard
      split at h
      · cases h
        show (w.queryTasks ++ [_]).length ≤ _
        rw [List.length_append, List.length_singleton]
        omega
      · split at h <;> cases h
        exact hw
  case h_4 =>
    cases h
    exact hw
  case h_5 =>
    split at h <;> cases h
    exact hw
  case h_6 =>
    cases h
    exact herase _
  case h_7 => cases h

/-- Only the query worker starts queries. -/
theorem queries_of_move {action : TaskAction} {moved : World} {send : Option Send}
    (hqueries : w.queryTasks.length ≤ settings.config.maxInFlightQueries)
    (hmove : w.move settings action = some (moved, send)) :
    moved.queryTasks.length ≤ settings.config.maxInFlightQueries := by
  cases action with
  | queryWorker choice => exact queries_moveQueryWorker hqueries hmove
  | queryTask index response =>
    have hset : moved.queryTasks.length = w.queryTasks.length := by
      change w.moveQueryTask index response = some (moved, send) at hmove
      unfold World.moveQueryTask at hmove
      split at hmove
      · split at hmove <;> cases hmove
        exact List.length_set
      · cases hmove
    rw [hset]
    exact hqueries
  | _ =>
    rw [move_frame hmove]
    exact hqueries

theorem Backlog.taskStep (hw : Backlog settings w) {action : TaskAction}
    (hstep : w.taskStep settings action = some w') : Backlog settings w' := by
  have hlength : w'.pumps.length = w.pumps.length := by
    have hids := congrArg List.length (evolves_taskStep hstep).2
    simpa using hids
  obtain ⟨hfree, moved, send, hmove, rfl⟩ := World.taskStep_eq_some hstep
  have hinbound := inbound_move hmove
  have hreaderChannel : moved.readerChannel = w.readerChannel := congrArg Prod.fst hinbound
  have heventChannel : moved.eventChannel = w.eventChannel := congrArg Prod.snd hinbound
  have hmoved : moved.waiters = w.waiters := by
    rw [World.waiters, World.waiters, hreaderChannel, heventChannel]
  have hsenders : (moved.deliver action.task send).senders = w.senders := by
    rw [World.senders, World.senders, hlength]
  have hwaiters := waiters_deliver moved action.task send
  rw [hmoved] at hwaiters
  constructor
  case capacities =>
    rcases send with _ | event | event
    · simp [World.deliver, hreaderChannel, heventChannel, hw.capacities]
    · simp [World.deliver, hreaderChannel, heventChannel, hw.capacities]
    · simp [World.deliver, hreaderChannel, heventChannel, hw.capacities]
  case waiters =>
    rcases hwaiters with hperm | ⟨-, hperm⟩
    · exact hperm.nodup_iff.mpr hw.waiters
    · rw [hperm.nodup_iff, List.nodup_cons]
      exact ⟨fun hmem => hfree (blocked_iff.mpr hmem), hw.waiters⟩
  case senders =>
    rw [hsenders]
    intro task hmem
    rcases hwaiters with hperm | ⟨hsend, hperm⟩
    · exact hw.senders task (hperm.mem_iff.mp hmem)
    · rcases List.mem_cons.mp (hperm.mem_iff.mp hmem) with rfl | hmem
      · exact mem_senders_of_move hmove hsend
      · exact hw.senders task hmem
  case reader =>
    intro task hmem
    rcases send with _ | event | event
    · exact hw.reader task (hreaderChannel ▸ hmem)
    · change task ∈ (moved.readerChannel.send action.task event).parked.map Prod.fst at hmem
      rw [hreaderChannel] at hmem
      rcases Channel.parked_send w.readerChannel action.task event with hparked | hparked
      · rw [hparked] at hmem
        exact hw.reader task hmem
      · rw [hparked, List.map_append] at hmem
        rcases List.mem_append.mp hmem with hmem | hmem
        · exact hw.reader task hmem
        · by_contra htask
          have hown := read_of_move hmove fun heq => htask ((List.mem_singleton.mp hmem).trans heq)
          cases hown
    · exact hw.reader task (hreaderChannel ▸ hmem)
  case queries =>
    have hdelivered : (moved.deliver action.task send).queryTasks = moved.queryTasks := by
      rw [deliver_frame]
    rw [hdelivered]
    exact queries_of_move hw.queries hmove

end Waiters

section Runs
variable {settings : SessionSettings} {id : ConnectionId} {metadata : Metadata}
  {log : Session.Log} {s : Session}

theorem takenIn_of_run (hrun : Session.Run settings id metadata log s) :
    TakenIn settings log s := by
  refine hrun.run.invariant (I := fun log s => TakenIn settings log s)
    (takenIn_start settings id metadata) fun log s action s' hs hstep => ?_
  cases action with
  | coordinator choice => exact hs.exchange hstep
  | task action =>
    obtain ⟨w, htask, rfl⟩ := Option.map_eq_some_iff.mp hstep
    exact hs.task htask

theorem passedOn_text {maxMessageBytes : Nat} {frame : Option (Except String Frame)}
    {bytes : List UInt8} (h : passedOn maxMessageBytes frame = some (.text bytes)) :
    bytes.length ≤ maxMessageBytes := by
  unfold passedOn at h
  split at h
  case h_3 =>
    split at h <;> cases h
    omega
  case h_4 => split at h <;> cases h
  all_goals cases h

/-- In every run the coordinator handles what the socket yields in order, each frame once: what it
has handled and what still waits are all that was read. Nothing is read after the frame that ends
the reading, and no text beyond the limit is handled. -/
theorem frames_handled_in_order (settings : SessionSettings) (id : ConnectionId)
    (metadata : Metadata) (log : Session.Log) (s : Session)
    (hrun : Session.Run settings id metadata log s) :
    handled s.trace ++ s.world.readerChannel.contents =
      (framesRead log).filterMap (passedOn settings.config.transport.maxMessageBytes) ∧
    (∀ before frame after, framesRead log = before ++ frame :: after →
      endsReading settings.config.transport.maxMessageBytes frame = true → after = []) ∧
    ∀ bytes, .text bytes ∈ handled s.trace →
      bytes.length ≤ settings.config.transport.maxMessageBytes := by
  have hs := takenIn_of_run hrun
  refine ⟨hs.contents, hs.last, fun bytes hmem => ?_⟩
  have hread := List.mem_append_left s.world.readerChannel.contents hmem
  rw [hs.contents] at hread
  obtain ⟨frame, -, hframe⟩ := List.mem_filterMap.mp hread
  exact passedOn_text hframe

/-- A ping and a close; the coordinator has handled the ping. -/
theorem frames_handled_in_order_sample :
    ∃ log s, Session.Run (sampleSettings 1 4) (sampleId .connection) ⟨[]⟩ log s ∧
      (framesRead log).length = 3 ∧ (handled s.trace).length = 1 ∧
      handled s.trace ++ s.world.readerChannel.contents =
        (framesRead log).filterMap (passedOn 1024) := by
  obtain ⟨log, s, hrun, hcheck⟩ := exists_run_of_logged (sampleSettings 1 4)
    [.task (.reader (.next (some (.ok (.ping [1]))))), .task (.reader .resume),
      .task (.reader (.next (some (.ok .raw)))), .coordinator .reader,
      .task (.reader (.next (some (.ok .close))))]
    (fun log s => (framesRead log).length == 3 && (handled s.trace).length == 1)
    rfl (by decide +kernel)
  simp only [Bool.and_eq_true, beq_iff_eq] at hcheck
  exact ⟨log, s, hrun, hcheck.1, hcheck.2, (frames_handled_in_order _ _ _ log s hrun).1⟩

theorem backlog_of_reachable {allowed : Session → SessionAction → Prop}
    (h : (Session.system settings id metadata allowed).Reachable s) :
    Backlog settings s.world := by
  refine h.invariant (I := fun s => Backlog settings s.world) (fun s hinit => ?_)
    fun s s' hs hstep => ?_
  · rw [hinit.2]
    exact backlog_start
  · obtain ⟨action, -, hstep⟩ := hstep
    cases action with
    | coordinator choice =>
      obtain ⟨p, a, w, -, hrespond, rfl⟩ := Session.step_coordinator_eq_some hstep
      exact hs.exchange hrespond p.state
    | task action =>
      obtain ⟨w, htask, rfl⟩ := Option.map_eq_some_iff.mp hstep
      exact hs.taskStep htask

/-- However fast the client and the tasks are, what piles up in front of the coordinator is
bounded: by the capacity and one frame of the reader, and by the capacity and one event of each
task. No task waits in two places, and the query worker runs no more queries than configured. -/
theorem backlog_is_bounded (settings : SessionSettings) (id : ConnectionId) (metadata : Metadata)
    (allowed : Session → SessionAction → Prop) (s : Session)
    (hreachable : (Session.system settings id metadata allowed).Reachable s) :
    s.world.readerChannel.contents.length ≤ settings.config.inboundCapacity + 1 ∧
      s.world.eventChannel.contents.length ≤
        settings.config.inboundCapacity + 4 + s.world.pumps.length ∧
      s.world.waiters.Nodup ∧
      s.world.queryTasks.length ≤ settings.config.maxInFlightQueries := by
  have hs := backlog_of_reachable hreachable
  obtain ⟨hreader, hevents⟩ := hs.capacities
  obtain ⟨hreaders, hsenders, -⟩ := List.nodup_append.mp hs.waiters
  have hone : (s.world.readerChannel.parked.map Prod.fst).length ≤ [TaskId.reader].length := by
    apply (List.Nodup.subperm hreaders ?_).length_le
    intro task hmem
    rw [hs.reader task hmem]
    exact List.mem_singleton_self _
  have hall : (s.world.eventChannel.parked.map Prod.fst).length ≤ s.world.senders.length := by
    apply (List.Nodup.subperm hsenders ?_).length_le
    intro task hmem
    exact hs.senders task (List.mem_append_right _ hmem)
  have hbounded := s.world.readerChannel.bounded
  have hbounded' := s.world.eventChannel.bounded
  rw [hreader] at hbounded
  rw [hevents] at hbounded'
  simp only [World.senders, List.length_append, List.length_map, List.length_cons, List.length_nil,
    List.length_range] at hone hall
  refine ⟨?_, ?_, hs.waiters, hs.queries⟩
  · rw [Channel.contents, List.length_append, List.length_map]
    omega
  · rw [Channel.contents, List.length_append, List.length_map]
    omega

/-- The reader waits in front of a full channel. -/
theorem backlog_is_bounded_sample :
    ∃ s, (sampleSystem (sampleSettings 1 4) fun _ _ => True).Reachable s ∧
      s.world.waiters = [.reader] ∧
      s.world.readerChannel.contents.length ≤ 1 + 1 := by
  obtain ⟨log, s, hrun, hcheck⟩ := exists_run_of_logged (sampleSettings 1 4)
    [.task (.reader (.next (some (.ok (.ping [1]))))), .task (.reader .resume),
      .task (.reader (.next (some (.ok .close))))]
    (fun _ s => s.world.waiters == [.reader])
    rfl (by decide +kernel)
  exact ⟨s, hrun.reachable, by simpa using hcheck,
    (backlog_is_bounded _ _ _ _ s hrun.reachable).1⟩

end Runs
end OrbitRelay
