import OrbitRelay.Transport.SubscriptionTurns

/-! The subscriptions of one connection: the coordinator and the event pumps share the writer
channel, and what it takes for one subscription stays in order. -/
namespace OrbitRelay

section Pumps

/-- The message that forwards an event. -/
def Pump.eventCommand (pump : Pump) (messageId : MessageId) (event : Event) : WriterCommand :=
  .application (.event ⟨pump.version, messageId, ⟨"event"⟩, event⟩) pump.codec

/-- The message that tells of a failed source. -/
def Pump.failureCommand (pump : Pump) (error : EventSourceError) : WriterCommand :=
  .application (.error (.fromTransportError none (.eventSource error))) pump.codec

/-- The moves of a pump, with its phase and the writer channel after them. -/
inductive PumpMove (w : World) (pump : Pump) :
    PumpChoice → PumpPhase → WriterChannel → Option Send → Prop
  | cancelled (hphase : pump.phase = .polling) (hcancelled : w.cancelled ∨ pump.cancelled) :
      PumpMove w pump .cancelled .closing w.writerChannel none
  | forwarded {event : Event} {messageId : MessageId} {channel : WriterChannel}
      (hphase : pump.phase = .polling)
      (hsent : w.writerChannel.trySend (pump.eventCommand messageId event) = some channel) :
      PumpMove w pump (.next (.ok (some event)) messageId) .polling channel none
  | refused {event : Event} {messageId : MessageId} (hphase : pump.phase = .polling)
      (hsent : w.writerChannel.trySend (pump.eventCommand messageId event) = none) :
      PumpMove w pump (.next (.ok (some event)) messageId) (.telling (.slowConsumer pump.id) true)
        w.writerChannel none
  | ended {messageId : MessageId} (hphase : pump.phase = .polling) :
      PumpMove w pump (.next (.ok none) messageId)
        (.telling (.subscriptionFinished pump.id) false) w.writerChannel none
  | failed {error : EventSourceError} {messageId : MessageId} (hphase : pump.phase = .polling) :
      PumpMove w pump (.next (.error error) messageId)
        (.telling (World.sourceFailure pump error
          (w.writerChannel.trySend (pump.failureCommand error)).isSome) true)
        ((w.writerChannel.trySend (pump.failureCommand error)).getD w.writerChannel) none
  | told {event : CoordinatorEvent} {close : Bool} (hphase : pump.phase = .telling event close) :
      PumpMove w pump .tell (.reported close) w.writerChannel (some (.event event))
  | resumed {close : Bool} (hphase : pump.phase = .reported close) :
      PumpMove w pump .resume (if close then .closing else .finished) w.writerChannel none
  | closed (hphase : pump.phase = .closing) :
      PumpMove w pump .closed .finished w.writerChannel none

/-- A pump that has ended does not move. -/
theorem PumpMove.phase_ne {w : World} {pump : Pump} {choice : PumpChoice} {phase : PumpPhase}
    {channel : WriterChannel} {send : Option Send}
    (h : PumpMove w pump choice phase channel send) : pump.phase ≠ .finished := by
  intro hfinished
  cases h with
  | cancelled hphase _ | forwarded hphase _ | refused hphase _ | ended hphase | failed hphase
  | told hphase | resumed hphase | closed hphase =>
    rw [hfinished] at hphase
    cases hphase

theorem pumpMove_of_movePump {w w' : World} {index : Nat} {pump : Pump} {choice : PumpChoice}
    {send : Option Send} (h : w.movePump index pump choice = some (w', send))
    (hpump : w.pumps[index]? = some pump) :
    ∃ phase channel, PumpMove w pump choice phase channel send ∧
      w' = { w with writerChannel := channel,
                    pumps := w.pumps.set index { pump with phase := phase } } := by
  unfold World.movePump at h
  split at h
  case h_1 hphase =>
    split at h <;> cases h
    exact ⟨_, _, .cancelled hphase ‹_›, rfl⟩
  case h_2 hphase =>
    have hset := set_phase_self hpump hphase
    dsimp only at h
    split at h <;> cases h
    case h_1 hsent => exact ⟨_, _, .forwarded hphase hsent, by rw [hset]⟩
    case h_2 hsent => exact ⟨_, _, .refused hphase hsent, rfl⟩
  case h_3 hphase =>
    cases h
    exact ⟨_, _, .ended hphase, rfl⟩
  case h_4 error messageId hphase =>
    have hmove := @PumpMove.failed w pump error messageId hphase
    dsimp only at h
    split at h <;> cases h
    case h_1 hsent =>
      have hcommand : w.writerChannel.trySend (pump.failureCommand error) = some _ := hsent
      rw [hcommand] at hmove
      exact ⟨_, _, hmove, rfl⟩
    case h_2 hsent =>
      have hcommand : w.writerChannel.trySend (pump.failureCommand error) = none := hsent
      rw [hcommand] at hmove
      exact ⟨_, _, hmove, rfl⟩
  case h_5 hphase =>
    cases h
    exact ⟨_, _, .told hphase, rfl⟩
  case h_6 hphase =>
    cases h
    exact ⟨_, _, .resumed hphase, rfl⟩
  case h_7 hphase =>
    cases h
    exact ⟨_, _, .closed hphase, rfl⟩
  case h_8 => cases h

/-- A step of a pump. -/
theorem pumpMove_of_taskStep {settings : SessionSettings} {w w' : World} {index : Nat}
    {choice : PumpChoice} (h : w.taskStep settings (.pump index choice) = some w') :
    ∃ pump phase channel send, w.pumps[index]? = some pump ∧
      PumpMove w pump choice phase channel send ∧
      w'.pumps = w.pumps.set index { pump with phase := phase } ∧ w'.writerChannel = channel ∧
      w'.eventChannel.contents = w.eventChannel.contents ++ (send.bind Send.told).toList := by
  have hcontents := contents_taskStep h
  obtain ⟨-, moved, send, hmove, rfl⟩ := World.taskStep_eq_some h
  rw [World.told, hmove] at hcontents
  obtain ⟨pump, hpump, hmove⟩ := Option.bind_eq_some_iff.mp hmove
  obtain ⟨phase, channel, hpumpMove, rfl⟩ := pumpMove_of_movePump hmove hpump
  refine ⟨pump, phase, channel, send, hpump, hpumpMove, ?_, ?_, hcontents⟩
  · rw [deliver_frame]
  · rw [deliver_frame]

/-- Every pump keeps its identifier, and one that has ended stays so. -/
def Evolves (pumps pumps' : List Pump) : Prop :=
  ∀ (index : Nat) (pump : Pump), pumps[index]? = some pump →
    ∃ pump' : Pump, pumps'[index]? = some pump' ∧ pump'.id = pump.id ∧
      (pump.phase = .finished → pump'.phase = .finished)

theorem Evolves.refl (pumps : List Pump) : Evolves pumps pumps :=
  fun _ pump hpump => ⟨pump, hpump, rfl, id⟩

theorem evolves_taskStep {settings : SessionSettings} {w w' : World} {action : TaskAction}
    (h : w.taskStep settings action = some w') :
    Evolves w.pumps w'.pumps ∧ w'.pumps.map Pump.id = w.pumps.map Pump.id := by
  cases action with
  | pump index choice =>
    obtain ⟨pump, phase, channel, send, hpump, hmove, hpumps, -⟩ := pumpMove_of_taskStep h
    obtain ⟨hindex, hget⟩ := List.getElem?_eq_some_iff.mp hpump
    rw [hpumps]
    constructor
    · intro i other hother
      rw [List.getElem?_set]
      split
      case isTrue heq =>
        subst heq
        rw [hpump] at hother
        obtain rfl := Option.some.inj hother
        exact ⟨_, rfl, rfl, fun hfinished => absurd hfinished hmove.phase_ne⟩
      case isFalse => exact ⟨other, hother, rfl, id⟩
    · rw [List.map_set]
      refine List.ext_getElem? fun i => ?_
      rw [List.getElem?_set]
      split
      case isTrue heq =>
        subst heq
        simp [hindex, hget]
      case isFalse => rfl
  | _ =>
    rw [pumps_taskStep h (by intro index heq; cases heq)]
    exact ⟨.refl _, rfl⟩

theorem evolves_pumpsAfter (pumps : List Pump) (e : CoordinatorExchange) :
    Evolves pumps (pumpsAfter pumps e) ∧ (pumpsAfter pumps e).map Pump.id =
      pumps.map Pump.id ++ (spawnedIn e).toList.map Prod.fst := by
  unfold pumpsAfter
  split
  · constructor
    · intro index pump hpump
      refine ⟨pump, ?_, rfl, id⟩
      rw [List.getElem?_append_left (List.getElem?_eq_some_iff.mp hpump).1]
      exact hpump
    · rw [List.map_append]
      rfl
  · constructor
    · intro index pump hpump
      rw [List.getElem?_modify, hpump]
      split
      · exact ⟨_, rfl, rfl, id⟩
      · exact ⟨_, rfl, rfl, id⟩
    · rw [show spawnedIn _ = none from rfl]
      rw [Option.toList_none, List.map_nil, List.append_nil]
      refine List.ext_getElem? fun i => ?_
      rw [List.getElem?_map, List.getElem?_map, List.getElem?_modify]
      cases pumps[i]? with
      | none => rfl
      | some pump => split <;> rfl
  · rename_i hspawn _
    have hnone : spawnedIn e = none := by
      unfold spawnedIn
      split
      · exact absurd rfl (hspawn _ _ _ _ _)
      · rfl
    rw [hnone]
    exact ⟨.refl _, (List.append_nil _).symm⟩

/-- A pump after an exchange was there before, or it was spawned in it. -/
theorem mem_pumpsAfter {pumps : List Pump} {e : CoordinatorExchange} {pump : Pump}
    (h : pump ∈ pumpsAfter pumps e) :
    (∃ pump' ∈ pumps, pump'.id = pump.id ∧ pump'.phase = pump.phase) ∨
      pump.id ∈ (spawnedIn e).toList.map Prod.fst := by
  unfold pumpsAfter at h
  split at h
  · rcases List.mem_append.mp h with h | h
    · exact .inl ⟨pump, h, rfl, rfl⟩
    · obtain rfl := List.mem_singleton.mp h
      exact .inr (List.mem_singleton_self _)
  · obtain ⟨i, hi⟩ := List.mem_iff_getElem?.mp h
    rw [List.getElem?_modify] at hi
    obtain ⟨before, hbefore, rfl⟩ := Option.map_eq_some_iff.mp hi
    refine .inl ⟨before, List.mem_of_getElem? hbefore, ?_⟩
    split
    · exact ⟨rfl, rfl⟩
    · exact ⟨rfl, rfl⟩
  · exact .inl ⟨pump, h, rfl, rfl⟩

end Pumps

section Table
variable {settings : SessionSettings}

/-- The handles of the coordinator name the pumps of the world, and a pump that was joined has
ended. -/
structure PumpIndex (h : CoordinatorTrace) (w : World) : Prop where
  handles : ∀ entry ∈ spawned h, ∃ pump : Pump, w.pumps[entry.2.pump]? = some pump ∧
    pump.id = entry.1
  ended : ∀ index ∈ joined h, ∃ pump : Pump, w.pumps[index]? = some pump ∧
    pump.phase = .finished

/-- Moreover no identifier is used twice, and none before it was accepted. -/
structure PumpTable (h : CoordinatorTrace) (w : World) : Prop extends PumpIndex h w where
  ids : w.pumps.map Pump.id = (spawned h).map Prod.fst
  distinct : (w.pumps.map Pump.id).Nodup
  accepted : ∀ id ∈ w.pumps.map Pump.id, .accepted id ∈ announced h
  closed : ∀ id, .closed id ∈ announced h → ∃ pump ∈ w.pumps, pump.id = id ∧
    pump.phase = .finished

/-- There is one pump for an identifier. -/
theorem PumpTable.unique {h : CoordinatorTrace} {w : World} (ht : PumpTable h w) {i j : Nat}
    {pump pump' : Pump} (hi : w.pumps[i]? = some pump) (hj : w.pumps[j]? = some pump')
    (hid : pump.id = pump'.id) : i = j := by
  have hids : (w.pumps.map Pump.id)[i]? = (w.pumps.map Pump.id)[j]? := by
    rw [List.getElem?_map, List.getElem?_map, hi, hj, Option.map_some, Option.map_some, hid]
  refine (List.getElem?_inj ?_ ht.distinct).mp hids
  rw [List.length_map]
  exact (List.getElem?_eq_some_iff.mp hi).1

/-- A spawned pump has a new identifier. -/
theorem fresh_of_spawnedIn {h : CoordinatorTrace} {s : Coordinator} {q : CoordinatorRequest}
    {a : q.Answer} (horderly : Orderly h q) {id : TransportSubscriptionId}
    (hspawn : id ∈ (spawnedIn ⟨s, q, a⟩).toList.map Prod.fst) :
    ∀ entry ∈ spawned h, entry.1 ≠ id := by
  cases q with
  | spawnPump id' version codec =>
    rw [List.mem_singleton.mp hspawn]
    exact horderly.2
  | _ => cases hspawn

/-- A closing is announced only in the exchange that asks for it. -/
theorem closed_of_announcedIn {h : CoordinatorTrace} {s : Coordinator} {q : CoordinatorRequest}
    {a : q.Answer} (horderly : Orderly h q) {id : TransportSubscriptionId}
    (hclosed : announcedIn ⟨s, q, a⟩ = some (.closed id)) :
    ∃ codec requestId, q = .enqueue (.application codec (.subscriptionClosed ⟨requestId, id⟩)) := by
  cases hneutral : q.isNeutral with
  | true =>
    rw [(neutral_eq hneutral s a).2.2] at hclosed
    cases hclosed
  | false =>
    rcases isNeutral_cases hneutral with ⟨_, rfl⟩ | ⟨_, _, _, rfl⟩ | ⟨_, _, rfl⟩ |
      ⟨codec, closed, rfl⟩ | ⟨_, _, rfl⟩
    · cases hclosed
    · cases hclosed
    · change Bool at a
      cases a <;> cases hclosed
    · change Bool at a
      cases a <;> cases hclosed
      exact ⟨codec, closed.requestId, rfl⟩
    · exact horderly.elim

theorem request_of_joinedIn {s : Coordinator} {q : CoordinatorRequest} {a : q.Answer} {index : Nat}
    (h : joinedIn ⟨s, q, a⟩ = some index) : q = .perform (.join (.pump index)) := by
  unfold joinedIn at h
  split at h <;> cases h
  rename_i heq
  cases heq
  rfl

/-- A pump that was joined has ended. -/
theorem finished_of_join {w w' : World} {index : Nat} {choice : CoordinatorChoice} {a : Unit}
    (h : w.respond (.perform (.join (.pump index))) choice = some (a, w')) :
    ∃ pump : Pump, w'.pumps[index]? = some pump ∧ pump.phase = .finished := by
  cases choice with
  | proceed =>
    obtain ⟨w'', hperform, heq⟩ := Option.map_eq_some_iff.mp h
    cases heq
    simp only [World.perform] at hperform
    split at hperform <;> cases hperform
    rename_i hfinished
    simp only [World.Finished] at hfinished
    split at hfinished
    · exact ⟨_, ‹_›, rfl⟩
    · cases hfinished
  | _ => cases h

theorem announced_snoc (h : CoordinatorTrace) (e : CoordinatorExchange) :
    announced (h ++ [e]) = announced h ++ (announcedIn e).toList :=
  List.filterMap_snoc ..

theorem spawned_snoc (h : CoordinatorTrace) (e : CoordinatorExchange) :
    spawned (h ++ [e]) = spawned h ++ (spawnedIn e).toList :=
  List.filterMap_snoc ..

theorem joined_snoc (h : CoordinatorTrace) (e : CoordinatorExchange) :
    joined (h ++ [e]) = joined h ++ (joinedIn e).toList :=
  List.filterMap_snoc ..

theorem PumpIndex.evolve {h : CoordinatorTrace} {w w' : World} (hi : PumpIndex h w)
    (hpumps : Evolves w.pumps w'.pumps) : PumpIndex h w' := by
  constructor
  case handles =>
    intro entry hentry
    obtain ⟨pump, hpump, hid⟩ := hi.handles entry hentry
    obtain ⟨pump', hpump', hid', -⟩ := hpumps _ _ hpump
    exact ⟨pump', hpump', hid'.trans hid⟩
  case ended =>
    intro index hindex
    obtain ⟨pump, hpump, hfinished⟩ := hi.ended index hindex
    obtain ⟨pump', hpump', -, hstays⟩ := hpumps _ _ hpump
    exact ⟨pump', hpump', hstays hfinished⟩

theorem pumpIndex_start : PumpIndex [] (.start settings) where
  handles _ hmem := (List.not_mem_nil hmem).elim
  ended _ hmem := (List.not_mem_nil hmem).elim

/-- A spawned pump is the last one. -/
theorem handle_of_spawn {w w' : World} {id : TransportSubscriptionId} {version : Version}
    {codec : MessageCodec} {choice : CoordinatorChoice} {handle : SubscriptionHandle}
    (h : w.respond (.spawnPump id version codec) choice = some (handle, w')) :
    handle = ⟨w.pumps.length⟩ ∧ w'.pumps = w.pumps ++ [⟨id, version, codec, false, .polling⟩] := by
  cases choice with
  | proceed =>
    cases h
    exact ⟨rfl, rfl⟩
  | _ => cases h

/-- Every exchange keeps the index. -/
theorem PumpIndex.exchange {h : CoordinatorTrace} {w w' : World} (hi : PumpIndex h w)
    (s : Coordinator) {q : CoordinatorRequest} {choice : CoordinatorChoice} {a : q.Answer}
    (hrespond : w.respond q choice = some (a, w')) : PumpIndex (h ++ [⟨s, q, a⟩]) w' := by
  have hpumps := (responded_of_respond hrespond s).pumps
  have hkept : PumpIndex h w' := by
    apply hi.evolve
    rw [hpumps]
    exact (evolves_pumpsAfter w.pumps ⟨s, q, a⟩).1
  constructor
  case handles =>
    rw [spawned_snoc]
    intro entry hentry
    rcases List.mem_append.mp hentry with hentry | hentry
    · exact hkept.handles entry hentry
    · cases q with
      | spawnPump id version codec =>
        obtain ⟨rfl, hlast⟩ := handle_of_spawn hrespond
        obtain rfl := List.mem_singleton.mp hentry
        refine ⟨⟨id, version, codec, false, .polling⟩, ?_, rfl⟩
        rw [hlast]
        exact List.getElem?_concat_length
      | _ => cases hentry
  case ended =>
    rw [joined_snoc]
    intro index hindex
    rcases List.mem_append.mp hindex with hindex | hindex
    · exact hkept.ended index hindex
    · obtain rfl := request_of_joinedIn (Option.mem_toList.mp hindex)
      exact finished_of_join hrespond

theorem pumpTable_start : PumpTable [] (.start settings) where
  toPumpIndex := pumpIndex_start
  ids := rfl
  distinct := List.nodup_nil
  accepted _ hmem := (List.not_mem_nil hmem).elim
  closed _ hmem := (List.not_mem_nil hmem).elim

theorem PumpTable.evolve {h : CoordinatorTrace} {w w' : World} (ht : PumpTable h w)
    (hpumps : Evolves w.pumps w'.pumps) (hids : w'.pumps.map Pump.id = w.pumps.map Pump.id) :
    PumpTable h w' := by
  constructor
  case toPumpIndex => exact ht.toPumpIndex.evolve hpumps
  case ids => exact hids.trans ht.ids
  case distinct =>
    rw [hids]
    exact ht.distinct
  case accepted =>
    rw [hids]
    exact ht.accepted
  case closed =>
    intro id hid
    obtain ⟨pump, hmem, hid, hfinished⟩ := ht.closed id hid
    obtain ⟨index, hpump⟩ := List.mem_iff_getElem?.mp hmem
    obtain ⟨pump', hpump', hid', hstays⟩ := hpumps _ _ hpump
    exact ⟨pump', List.mem_of_getElem? hpump', hid'.trans hid, hstays hfinished⟩

/-- An orderly exchange keeps the table. -/
theorem PumpTable.exchange {h : CoordinatorTrace} {w w' : World} (ht : PumpTable h w)
    {s : Coordinator} {q : CoordinatorRequest} {choice : CoordinatorChoice} {a : q.Answer}
    (horderly : Orderly h q) (hrespond : w.respond q choice = some (a, w')) :
    PumpTable (h ++ [⟨s, q, a⟩]) w' := by
  have hpumps := (responded_of_respond hrespond s).pumps
  obtain ⟨hevolves, hids⟩ := evolves_pumpsAfter w.pumps ⟨s, q, a⟩
  rw [← hpumps] at hevolves hids
  have hindex := ht.toPumpIndex.exchange s hrespond
  constructor
  case toPumpIndex => exact hindex
  case ids => rw [hids, spawned_snoc, List.map_append, ht.ids]
  case distinct =>
    rw [hids]
    refine List.nodup_append.mpr ⟨ht.distinct, ?_, ?_⟩
    · cases spawnedIn ⟨s, q, a⟩ <;> simp
    · intro other hother id hid heq
      rw [ht.ids] at hother
      obtain ⟨entry, hentry, rfl⟩ := List.mem_map.mp hother
      exact fresh_of_spawnedIn horderly (heq ▸ hid) entry hentry rfl
  case accepted =>
    rw [hids, announced_snoc]
    intro id hid
    refine List.mem_append_left _ ?_
    rcases List.mem_append.mp hid with hid | hid
    · exact ht.accepted id hid
    · cases q with
      | spawnPump id' version codec =>
        rw [List.mem_singleton.mp hid]
        exact horderly.1
      | _ => cases hid
  case closed =>
    rw [announced_snoc]
    intro id hid
    rcases List.mem_append.mp hid with hid | hid
    · obtain ⟨pump, hmem, hid, hfinished⟩ := ht.closed id hid
      obtain ⟨index, hpump⟩ := List.mem_iff_getElem?.mp hmem
      obtain ⟨pump', hpump', hid', hstays⟩ := hevolves _ _ hpump
      exact ⟨pump', List.mem_of_getElem? hpump', hid'.trans hid, hstays hfinished⟩
    · obtain ⟨codec, requestId, rfl⟩ := closed_of_announcedIn horderly (Option.mem_toList.mp hid)
      obtain ⟨-, handle, hspawned, hjoined⟩ := horderly
      have hspawned' : (id, handle) ∈ spawned (h ++ [⟨s, _, a⟩]) := by
        rw [spawned_snoc]
        exact List.mem_append_left _ hspawned
      have hjoined' : handle.pump ∈ joined (h ++ [⟨s, _, a⟩]) := by
        rw [joined_snoc]
        exact List.mem_append_left _ hjoined
      obtain ⟨pump, hpump, hid⟩ := hindex.handles _ hspawned'
      obtain ⟨pump', hpump', hfinished⟩ := hindex.ended _ hjoined'
      obtain rfl : pump = pump' := Option.some.inj (hpump.symm.trans hpump')
      exact ⟨pump, List.mem_of_getElem? hpump, hid, hfinished⟩

end Table
section Messages

/-- The message about a subscription that the writer channel takes in this step. -/
def queuedIn (settings : SessionSettings) : Session × SessionAction → Option SubscriptionMessage
  | (s, .coordinator choice) => (s.step settings (.coordinator choice)).bind fun next =>
      next.trace.getLast?.bind announcedIn
  | (s, .task (.pump index (.next (.ok (some event)) messageId))) =>
    s.world.pumps[index]?.bind fun pump =>
      (s.world.writerChannel.trySend (pump.eventCommand messageId event)).map
        fun _ => .event pump.id event
  | _ => none

/-- The event that a source yields in this step. -/
def yieldedIn : Session × SessionAction → Option (TransportSubscriptionId × Event)
  | (s, .task (.pump index (.next (.ok (some event)) _))) =>
    s.world.pumps[index]?.map fun pump => (pump.id, event)
  | _ => none

/-- The messages about subscriptions that the writer channel took, in order. -/
def subscriptionMessages (settings : SessionSettings) (log : Session.Log) :
    List SubscriptionMessage :=
  log.filterMap (queuedIn settings)

/-- The events that the source of the subscription yielded, in order. -/
def yielded (log : Session.Log) (id : TransportSubscriptionId) : List Event :=
  (log.filterMap yieldedIn).filterMap fun (source, event) =>
    if source = id then some event else none

def SubscriptionMessage.eventOf (id : TransportSubscriptionId) : SubscriptionMessage → Option Event
  | event source e => if source = id then some e else none
  | _ => none

/-- The events of the subscription among the messages, in order. -/
def forwarded (messages : List SubscriptionMessage) (id : TransportSubscriptionId) : List Event :=
  messages.filterMap (SubscriptionMessage.eventOf id)

/-- What may come after these messages. -/
def SubscriptionMessage.Follows (before : List SubscriptionMessage) : SubscriptionMessage → Prop
  | accepted _ => True
  | event id _ => .accepted id ∈ before ∧ .closed id ∉ before
  | closed id => .closed id ∉ before

/-- Where the messages about subscriptions come from. -/
structure MessageFlow (settings : SessionSettings) (log : Session.Log) (s : Session) : Prop where
  announcements : ∀ message, (∀ id, message.eventOf id = none) →
    (message ∈ subscriptionMessages settings log ↔ message ∈ announced s.trace)
  follows : ∀ before message after,
    subscriptionMessages settings log = before ++ message :: after → message.Follows before
  forwards : ∀ id, forwarded (subscriptionMessages settings log) id <+: yielded log id
  polling : ∀ pump ∈ s.world.pumps, pump.phase = .polling →
    forwarded (subscriptionMessages settings log) pump.id = yielded log pump.id
  sources : ∀ id, yielded log id ≠ [] → id ∈ s.world.pumps.map Pump.id

variable {settings : SessionSettings} {log : Session.Log} {s s' : Session}

/-- A record whose entries fit what stands before them, with one more. -/
theorem follows_snoc {messages : List SubscriptionMessage} {next : Option SubscriptionMessage}
    (h : ∀ before message after, messages = before ++ message :: after → message.Follows before)
    (hnext : ∀ message ∈ next, message.Follows messages) :
    ∀ before message after, messages ++ next.toList = before ++ message :: after →
      message.Follows before := by
  intro before message after heq
  cases next with
  | none =>
    rw [Option.toList_none, List.append_nil] at heq
    exact h before message after heq
  | some last =>
    rw [Option.toList_some] at heq
    rcases List.eq_nil_or_concat after with rfl | ⟨rest, final, rfl⟩
    · obtain ⟨hbefore, hlast⟩ := List.append_inj' heq rfl
      cases hlast
      exact hbefore ▸ hnext message rfl
    · rw [List.concat_eq_append, ← List.cons_append, ← List.append_assoc] at heq
      exact h before message rest (List.append_inj' heq rfl).1

theorem eventOf_announcedIn {e : CoordinatorExchange} {message : SubscriptionMessage}
    (h : announcedIn e = some message) (id : TransportSubscriptionId) :
    message.eventOf id = none := by
  obtain ⟨outbound, -, hmessage⟩ := Option.bind_eq_some_iff.mp h
  cases outbound with
  | subscriptionAccepted _ | subscriptionClosed _ =>
    cases hmessage
    rfl
  | _ => cases hmessage

/-- Steps that neither queue nor yield for a subscription. -/
theorem MessageFlow.quiet (hflow : MessageFlow settings log s) {entry : Session × SessionAction}
    (hqueued : queuedIn settings entry = none) (hyielded : yieldedIn entry = none)
    (htrace : s'.trace = s.trace)
    (hids : s'.world.pumps.map Pump.id = s.world.pumps.map Pump.id)
    (hpolling : ∀ pump ∈ s'.world.pumps, pump.phase = .polling → ∃ pump' ∈ s.world.pumps,
      pump'.id = pump.id ∧ pump'.phase = .polling) :
    MessageFlow settings (log ++ [entry]) s' := by
  have hmessages : subscriptionMessages settings (log ++ [entry]) =
      subscriptionMessages settings log := by
    rw [subscriptionMessages, List.filterMap_snoc, hqueued]
    exact List.append_nil _
  have hyield (id : TransportSubscriptionId) : yielded (log ++ [entry]) id = yielded log id := by
    rw [yielded, List.filterMap_snoc, hyielded, Option.toList_none, List.append_nil, yielded]
  constructor
  case announcements =>
    rw [hmessages, htrace]
    exact hflow.announcements
  case follows =>
    rw [hmessages]
    exact hflow.follows
  case forwards =>
    intro id
    rw [hmessages, hyield]
    exact hflow.forwards id
  case polling =>
    intro pump hmem hphase
    obtain ⟨pump', hmem', hid, hphase'⟩ := hpolling pump hmem hphase
    rw [hmessages, hyield, ← hid]
    exact hflow.polling pump' hmem' hphase'
  case sources =>
    intro id
    rw [hyield, hids]
    exact hflow.sources id

/-- An exchange of the coordinator. -/
theorem MessageFlow.exchange (hflow : MessageFlow settings log s)
    (htable : PumpTable s.trace s.world)
    {choice : CoordinatorChoice} {p : CoordinatorTask.Pending}
    (hp : s.coordinator.pending settings = some p) (horderly : Orderly s.trace p.request)
    (hstep : s.step settings (.coordinator choice) = some s') :
    MessageFlow settings (log ++ [(s, .coordinator choice)]) s' := by
  obtain ⟨p', a, w, hp', hrespond, rfl⟩ := Session.step_coordinator_eq_some hstep
  obtain rfl : p' = p := Option.some.inj (hp'.symm.trans hp)
  have hqueued : queuedIn settings (s, .coordinator choice) =
      announcedIn ⟨p'.state, p'.request, a⟩ := by
    simp [queuedIn, hstep]
  have hmessages : subscriptionMessages settings (log ++ [(s, .coordinator choice)]) =
      subscriptionMessages settings log ++ (announcedIn ⟨p'.state, p'.request, a⟩).toList := by
    rw [subscriptionMessages, List.filterMap_snoc, hqueued]
    rfl
  have hyield (id : TransportSubscriptionId) :
      yielded (log ++ [(s, .coordinator choice)]) id = yielded log id := by
    rw [yielded, List.filterMap_snoc]
    exact congrArg _ (List.append_nil _)
  have hforwarded (id : TransportSubscriptionId) :
      forwarded (subscriptionMessages settings (log ++ [(s, .coordinator choice)])) id =
        forwarded (subscriptionMessages settings log) id := by
    rw [hmessages, forwarded, List.filterMap_append, Option.filterMap_toList]
    cases hannounced : announcedIn ⟨p'.state, p'.request, a⟩ with
    | none => exact List.append_nil _
    | some message =>
      rw [Option.bind_some, eventOf_announcedIn hannounced id]
      exact List.append_nil _
  obtain ⟨hevolves, hids⟩ := evolves_pumpsAfter s.world.pumps ⟨p'.state, p'.request, a⟩
  have hpumps := (responded_of_respond hrespond p'.state).pumps
  constructor
  case announcements =>
    intro message hevent
    rw [hmessages, announced_snoc, List.mem_append, List.mem_append,
      hflow.announcements message hevent]
  case follows =>
    rw [hmessages]
    refine follows_snoc hflow.follows fun message hmem => ?_
    cases message with
    | accepted id => trivial
    | event id e =>
      have hnone := eventOf_announcedIn hmem id
      simp [SubscriptionMessage.eventOf] at hnone
    | closed id =>
      obtain ⟨codec, requestId, hrequest⟩ := closed_of_announcedIn horderly hmem
      rw [hrequest] at horderly
      intro hclosed
      exact horderly.1 ((hflow.announcements (.closed id) fun _ => rfl).mp hclosed)
  case forwards =>
    intro id
    rw [hforwarded, hyield]
    exact hflow.forwards id
  case polling =>
    intro pump hmem hphase
    rw [hforwarded, hyield]
    change pump ∈ w.pumps at hmem
    rw [hpumps] at hmem
    rcases mem_pumpsAfter hmem with ⟨pump', hmem', hid, hphase'⟩ | hspawn
    · rw [← hid]
      exact hflow.polling pump' hmem' (hphase'.trans hphase)
    · have hnone : yielded log pump.id = [] := by
        by_contra hyields
        have hmem' := hflow.sources pump.id hyields
        rw [htable.ids] at hmem'
        obtain ⟨entry, hentry, hid⟩ := List.mem_map.mp hmem'
        exact fresh_of_spawnedIn horderly hspawn entry hentry hid
      rw [hnone]
      exact List.prefix_nil.mp (hnone ▸ hflow.forwards pump.id)
  case sources =>
    intro id hid
    rw [hyield] at hid
    show id ∈ w.pumps.map Pump.id
    rw [hpumps, hids]
    exact List.mem_append_left _ (hflow.sources id hid)

/-- The pump that polls is not closed. -/
theorem PumpTable.open_of_polling {h : CoordinatorTrace} {w : World} (htable : PumpTable h w)
    {index : Nat} {pump : Pump} (hpump : w.pumps[index]? = some pump)
    (hphase : pump.phase = .polling) : .closed pump.id ∉ announced h := by
  intro hclosed
  obtain ⟨other, hother, hid, hfinished⟩ := htable.closed _ hclosed
  obtain ⟨index', hother⟩ := List.mem_iff_getElem?.mp hother
  obtain rfl := htable.unique hother hpump hid
  obtain rfl : other = pump := Option.some.inj (hother.symm.trans hpump)
  rw [hphase] at hfinished
  cases hfinished

/-- A source yields an event, which is forwarded or finds the queue full. -/
theorem MessageFlow.yield (hflow : MessageFlow settings log s) (htable : PumpTable s.trace s.world)
    {entry : Session × SessionAction} {w : World} {index : Nat} {pump : Pump} (event : Event)
    (hpump : s.world.pumps[index]? = some pump) (hphase : pump.phase = .polling) (queued : Bool)
    (hqueued : queuedIn settings entry = if queued then some (.event pump.id event) else none)
    (hyielded : yieldedIn entry = some (pump.id, event))
    (hids : w.pumps.map Pump.id = s.world.pumps.map Pump.id)
    (hpolling : ∀ p ∈ w.pumps, p.phase = .polling → (p.id = pump.id → queued = true) ∧
      ∃ p' ∈ s.world.pumps, p'.id = p.id ∧ p'.phase = .polling) :
    MessageFlow settings (log ++ [entry]) { s with world := w } := by
  have hmessages : subscriptionMessages settings (log ++ [entry]) =
      subscriptionMessages settings log ++
        (if queued then some (.event pump.id event) else none : Option _).toList := by
    rw [subscriptionMessages, List.filterMap_snoc, hqueued, subscriptionMessages]
  have hyield (id : TransportSubscriptionId) : yielded (log ++ [entry]) id =
      yielded log id ++ if pump.id = id then [event] else [] := by
    rw [yielded, List.filterMap_snoc, hyielded, List.filterMap_append, yielded]
    by_cases hid : pump.id = id <;> simp [hid]
  have hforwarded (id : TransportSubscriptionId) :
      forwarded (subscriptionMessages settings (log ++ [entry])) id =
        forwarded (subscriptionMessages settings log) id ++
          if queued = true ∧ pump.id = id then [event] else [] := by
    rw [hmessages, forwarded, List.filterMap_append, forwarded]
    cases queued <;> by_cases hid : pump.id = id <;> simp [SubscriptionMessage.eventOf, hid]
  have hmem : pump ∈ s.world.pumps := List.mem_of_getElem? hpump
  have hbefore := hflow.polling pump hmem hphase
  constructor
  case announcements =>
    intro message hevent
    rw [hmessages, List.mem_append, hflow.announcements message hevent]
    refine or_iff_left fun hmem => ?_
    cases queued with
    | false => cases hmem
    | true =>
      rw [List.mem_singleton.mp hmem] at hevent
      have hnone := hevent pump.id
      simp [SubscriptionMessage.eventOf] at hnone
  case follows =>
    rw [hmessages]
    refine follows_snoc hflow.follows fun message hmem' => ?_
    cases queued with
    | false => cases hmem'
    | true =>
      cases hmem'
      constructor
      · refine (hflow.announcements _ fun _ => rfl).mpr (htable.accepted _ ?_)
        exact List.mem_map_of_mem hmem
      · intro hclosed
        refine htable.open_of_polling hpump hphase ?_
        exact (hflow.announcements _ fun _ => rfl).mp hclosed
  case forwards =>
    intro id
    rw [hforwarded, hyield]
    by_cases hid : pump.id = id
    · subst hid
      rw [hbefore, if_pos rfl]
      cases queued <;> simp
    · rw [if_neg hid, if_neg fun h => hid h.2, List.append_nil, List.append_nil]
      exact hflow.forwards id
  case polling =>
    intro p hp hphase'
    obtain ⟨hsame, p', hp', hid', hphase''⟩ := hpolling p hp hphase'
    rw [hforwarded, hyield]
    by_cases hid : pump.id = p.id
    · rw [if_pos hid, if_pos ⟨hsame hid.symm, hid⟩, ← hid, hbefore]
    · rw [if_neg hid, if_neg fun h => hid h.2, ← hid', hflow.polling p' hp' hphase'']
  case sources =>
    intro id hid
    show id ∈ w.pumps.map Pump.id
    rw [hids]
    by_cases heq : pump.id = id
    · rw [← heq]
      exact List.mem_map_of_mem hmem
    · rw [hyield, if_neg heq, List.append_nil] at hid
      exact hflow.sources id hid

/-- A step of a pump. -/
theorem MessageFlow.pump (hflow : MessageFlow settings log s) (htable : PumpTable s.trace s.world)
    {index : Nat} {choice : PumpChoice} {w : World}
    (hstep : s.world.taskStep settings (.pump index choice) = some w) :
    MessageFlow settings (log ++ [(s, .task (.pump index choice))]) { s with world := w } := by
  obtain ⟨pump, phase, channel, send, hpump, hmove, hpumps, -⟩ := pumpMove_of_taskStep hstep
  obtain ⟨-, hids⟩ := evolves_taskStep hstep
  have hmem : pump ∈ s.world.pumps := List.mem_of_getElem? hpump
  have hother (p : Pump) (hp : p ∈ w.pumps) :
      p = { pump with phase := phase } ∨ p ∈ s.world.pumps ∧ p.id ≠ pump.id := by
    obtain ⟨i, hi⟩ := List.mem_iff_getElem?.mp hp
    rw [hpumps, List.getElem?_set] at hi
    split at hi
    · split at hi <;> cases hi
      exact .inl rfl
    · refine .inr ⟨List.mem_of_getElem? hi, fun hid => ?_⟩
      exact absurd (htable.unique hpump hi hid.symm) ‹_›
  have hquiet (hqueued : queuedIn settings (s, .task (.pump index choice)) = none)
      (hyielded : yieldedIn (s, .task (.pump index choice)) = none) (hphase : phase ≠ .polling) :
      MessageFlow settings (log ++ [(s, .task (.pump index choice))]) { s with world := w } := by
    refine hflow.quiet hqueued hyielded rfl hids fun p hp hpolling => ?_
    rcases hother p hp with rfl | ⟨hp, -⟩
    · exact absurd hpolling hphase
    · exact ⟨p, hp, rfl, hpolling⟩
  cases hmove with
  | @forwarded event messageId channel hphase hsent =>
    refine hflow.yield htable event hpump hphase true ?_ ?_ hids
      fun p hp hpolling => ⟨fun _ => rfl, ?_⟩
    · simp [queuedIn, hpump, hsent]
    · simp [yieldedIn, hpump]
    · rcases hother p hp with rfl | ⟨hp, -⟩
      · exact ⟨pump, hmem, rfl, hphase⟩
      · exact ⟨p, hp, rfl, hpolling⟩
  | @refused event messageId hphase hsent =>
    refine hflow.yield htable event hpump hphase false ?_ ?_ hids fun p hp hpolling => ?_
    · simp [queuedIn, hpump, hsent]
    · simp [yieldedIn, hpump]
    · rcases hother p hp with rfl | ⟨hp, hid⟩
      · cases hpolling
      · exact ⟨fun heq => absurd heq hid, p, hp, rfl, hpolling⟩
  | @resumed close hphase =>
    refine hquiet rfl rfl ?_
    cases close <;> intro heq <;> cases heq
  | _ => exact hquiet rfl rfl (by intro heq; cases heq)

theorem MessageFlow.task (hflow : MessageFlow settings log s) (htable : PumpTable s.trace s.world)
    {action : TaskAction} {w : World} (hstep : s.world.taskStep settings action = some w) :
    MessageFlow settings (log ++ [(s, .task action)]) { s with world := w } := by
  cases action with
  | pump index choice => exact hflow.pump htable hstep
  | _ =>
    have hpumps := pumps_taskStep hstep (by intro index heq; cases heq)
    refine hflow.quiet rfl rfl rfl (congrArg _ hpumps) fun pump hmem hphase => ?_
    exact ⟨pump, hpumps ▸ hmem, rfl, hphase⟩

end Messages
section Runs
variable {settings : SessionSettings} {id : ConnectionId} {metadata : Metadata}
  {log : Session.Log} {s s' : Session}

/-- The factory returns no identifier twice. -/
def Fresh (s : Session) (action : SessionAction) : Prop :=
  ∀ source, action = .coordinator (.subscribed (.ok source)) → source ∉ subscribed s.trace

theorem subscribed_mono {action : SessionAction} (hstep : s.step settings action = some s') :
    subscribed s.trace <+: subscribed s'.trace := by
  cases action with
  | coordinator choice =>
    obtain ⟨p, a, w, -, -, rfl⟩ := Session.step_coordinator_eq_some hstep
    exact ⟨_, (List.filterMap_snoc ..).symm⟩
  | task action =>
    obtain ⟨w, -, rfl⟩ := Option.map_eq_some_iff.mp hstep
    exact List.prefix_refl _

theorem fresh_of_nodup {action : SessionAction} (hstep : s.step settings action = some s')
    (hunique : (subscribed s'.trace).Nodup) : Fresh s action := by
  rintro source rfl hmem
  obtain ⟨⟨state, request, resume⟩, a, w, -, hrespond, rfl⟩ :=
    Session.step_coordinator_eq_some hstep
  cases request with
  | subscribe request =>
    cases hrespond
    have hsubscribed : subscribed (s.trace ++ [⟨state, .subscribe request, .ok source⟩]) =
        subscribed s.trace ++ [source] := List.filterMap_snoc ..
    rw [hsubscribed] at hunique
    exact (List.nodup_append.mp hunique).2.2 source hmem source (List.mem_singleton_self _) rfl
  | enqueue item => cases item <;> cases hrespond
  | perform effect => cases hrespond
  | _ => cases hrespond

/-- Every pause is in order. -/
theorem orderly_of_reachable
    (h : (Session.system settings id metadata Fresh).Reachable s) {p : CoordinatorTask.Pending}
    (hp : s.coordinator.pending settings = some p) :
    Tracked s.trace p.state ∧ Orderly s.trace p.request := by
  have hstart : Tracked [] (.start settings (.new id metadata)) := by
    constructor
    all_goals exact fun _ hmem => (List.not_mem_nil hmem).elim
  refine Session.contract_of_reachable hstart (fun _ _ hs => turn_order hs)
    (fun _ _ hs => carriesShutdown_tracked.shutdown settings hs)
    (fun s choice p a w hok hp hrespond => ?_) h (.waiting hp)
  obtain ⟨state, request, resume⟩ := p
  cases request with
  | subscribe request =>
    cases choice with
    | subscribed result =>
      cases hrespond
      change Except EventSourceError TransportSubscriptionId at a
      cases a with
      | error e => trivial
      | ok source => exact hok source rfl
    | _ => cases hrespond
  | _ => trivial

/-- The subscriptions of a run. -/
theorem flow_of_run (hrun : Session.Run settings id metadata log s)
    (hunique : (subscribed s.trace).Nodup) :
    (Session.system settings id metadata Fresh).Reachable s ∧ PumpTable s.trace s.world ∧
      MessageFlow settings log s := by
  refine hrun.run.invariant (I := fun log s => (subscribed s.trace).Nodup →
      (Session.system settings id metadata Fresh).Reachable s ∧ PumpTable s.trace s.world ∧
        MessageFlow settings log s)
    (fun _ => ?_) (fun log s action s' ih hstep hunique => ?_) hunique
  · refine ⟨.init ⟨hrun.valid, rfl⟩, pumpTable_start, ?_⟩
    constructor
    case announcements => exact fun message _ => Iff.rfl
    case follows =>
      intro before message after heq
      simp [subscriptionMessages] at heq
    case forwards => exact fun _ => List.nil_prefix
    case polling => exact fun _ hmem => (List.not_mem_nil hmem).elim
    case sources => exact fun _ hmem => absurd rfl hmem
  · have hunique' := (subscribed_mono hstep).sublist.nodup hunique
    obtain ⟨hreach, htable, hflow⟩ := ih hunique'
    refine ⟨hreach.step ⟨action, fresh_of_nodup hstep hunique, hstep⟩, ?_⟩
    cases action with
    | coordinator choice =>
      obtain ⟨p, a, w, hp, hrespond, heq⟩ := Session.step_coordinator_eq_some hstep
      have horderly := (orderly_of_reachable hreach hp).2
      have hflow' := hflow.exchange htable hp horderly hstep
      subst heq
      exact ⟨htable.exchange horderly hrespond, hflow'⟩
    | task action =>
      obtain ⟨w, htask, rfl⟩ := Option.map_eq_some_iff.mp hstep
      obtain ⟨hevolves, hids⟩ := evolves_taskStep htask
      exact ⟨htable.evolve hevolves hids, hflow.task htable htask⟩

/-- The messages of a subscription stay in order: its acceptance comes before its events, these
are what its source yielded from the first on, nothing comes after its closing, and a subscription
that is closed is not in the map. -/
theorem subscription_messages_in_order (settings : SessionSettings) (id : ConnectionId)
    (metadata : Metadata) (log : Session.Log) (s : Session)
    (hrun : Session.Run settings id metadata log s) (hunique : (subscribed s.trace).Nodup)
    (source : TransportSubscriptionId) :
    (∀ before event after,
      subscriptionMessages settings log = before ++ .event source event :: after →
      .accepted source ∈ before ∧ .closed source ∉ before) ∧
    forwarded (subscriptionMessages settings log) source <+: yielded log source ∧
    (∀ before after, subscriptionMessages settings log = before ++ .closed source :: after →
      .closed source ∉ before ∧ .closed source ∉ after ∧ ∀ event, .event source event ∉ after) ∧
    (.closed source ∈ subscriptionMessages settings log →
      ∀ p, s.coordinator.pending settings = some p →
        ∀ entry ∈ p.state.subscriptions, entry.1 ≠ source) := by
  obtain ⟨hreach, htable, hflow⟩ := flow_of_run hrun hunique
  refine ⟨fun before event after heq => hflow.follows _ _ _ heq, hflow.forwards source,
    fun before after heq => ⟨hflow.follows _ _ _ heq, ?_, ?_⟩, ?_⟩
  · intro hmem
    obtain ⟨middle, rest, rfl⟩ := List.append_of_mem hmem
    refine hflow.follows (before ++ .closed source :: middle) (.closed source) rest ?_ ?_
    · rw [heq, List.append_assoc, List.cons_append]
    · simp
  · intro event hmem
    obtain ⟨middle, rest, rfl⟩ := List.append_of_mem hmem
    refine (hflow.follows (before ++ .closed source :: middle) (.event source event) rest ?_).2 ?_
    · rw [heq, List.append_assoc, List.cons_append]
    · simp
  · intro hclosed p hp entry hentry heq
    have htracked := (orderly_of_reachable hreach hp).1
    refine htracked.running entry hentry ?_
    rw [heq]
    exact (hflow.announcements (.closed source) fun _ => rfl).mp hclosed

def sampleSource : TransportSubscriptionId := sampleId .transportSubscription

def sampleOccurrence : Event where
  id := sampleId .event
  sessionId := sampleId .session
  actorId := sampleId .actor
  actionId := sampleId .action
  eventType := ⟨"drawn"⟩
  occurredAt := ⟨0⟩
  payload := ⟨[]⟩
  metadata := ⟨[]⟩

/-- The client subscribes, and the pump starts. -/
def sampleSubscription : List SessionAction :=
  sampleText sampleHello ++
    [.coordinator (.negotiated (.ok currentProtocolVersion)), .coordinator .proceed] ++
    sampleText sampleAuthenticate ++ [.coordinator (.resolved (.ok sampleBinding))] ++
    sampleText sampleSubscribe ++ [.coordinator (.authorized (.ok ())),
      .coordinator (.subscribed (.ok sampleSource)), .coordinator .proceed, .coordinator .proceed]

/-- The source yields one event and ends, and the subscription is closed. -/
theorem subscription_messages_in_order_sample :
    ∃ log s, Session.Run (sampleSettings 1 4) (sampleId .connection) ⟨[]⟩ log s ∧
      (subscriptionMessages (sampleSettings 1 4) log).length = 3 ∧
      forwarded (subscriptionMessages (sampleSettings 1 4) log) sampleSource <+:
        yielded log sampleSource := by
  obtain ⟨log, s, hrun, hcheck⟩ := exists_run_of_logged (sampleSettings 1 4)
    (sampleSubscription ++
      [.task (.pump 0 (.next (.ok (some sampleOccurrence)) (sampleId .message))),
        .task (.pump 0 (.next (.ok none) (sampleId .message))), .task (.pump 0 .tell),
        .task (.pump 0 .resume), .coordinator .event, .coordinator .proceed,
        .coordinator .proceed, .coordinator .proceed])
    (fun log s => (subscriptionMessages (sampleSettings 1 4) log).length == 3 &&
      decide (subscribed s.trace).Nodup)
    rfl (by decide +kernel)
  simp only [Bool.and_eq_true, beq_iff_eq, decide_eq_true_eq] at hcheck
  obtain ⟨hmessages, hunique⟩ := hcheck
  exact ⟨log, s, hrun, hmessages,
    (subscription_messages_in_order _ _ _ log s hrun hunique sampleSource).2.1⟩

end Runs
end OrbitRelay
