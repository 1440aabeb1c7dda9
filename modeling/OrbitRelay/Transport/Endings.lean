import OrbitRelay.Transport.Failure

/-! The ends of subscriptions. Whatever ends a subscription, the client is told, or the session
ends, as long as the outbound queue has room for a failure and the ports reuse no identifier too
early. -/
namespace OrbitRelay
open Pausing

abbrev Entry := TransportSubscriptionId × SubscriptionHandle

section Records

/-- The pump whose error the writer channel takes in this step. -/
def failedIn : Session × SessionAction → Option Nat
  | (s, .task (.pump index (.next (.error error) _))) =>
    s.world.pumps[index]?.bind fun pump =>
      (s.world.writerChannel.trySend (pump.failureCommand error)).map fun _ => index
  | _ => none

/-- The pumps whose errors the writer channel took. -/
def failed (log : Session.Log) : List Nat := log.filterMap failedIn

theorem failed_snoc (log : Session.Log) (step : Session × SessionAction) :
    failed (log ++ [step]) = failed log ++ (failedIn step).toList :=
  List.filterMap_snoc ..

theorem mem_failed_snoc {log : Session.Log} {index : Nat} (h : index ∈ failed log)
    (step : Session × SessionAction) : index ∈ failed (log ++ [step]) := by
  rw [failed_snoc]
  exact List.mem_append_left _ h

/-- The client was told of the end: the writer channel has taken its closing, or the error of its
source. -/
def Told (log : Session.Log) (h : CoordinatorTrace) (entry : Entry) : Prop :=
  ClosedFor h entry ∨ entry.2.pump ∈ failed log

theorem Told.snoc {log : Session.Log} {h : CoordinatorTrace} {entry : Entry}
    (htold : Told log h entry) (step : Session × SessionAction) (e : CoordinatorExchange) :
    Told (log ++ [step]) (h ++ [e]) entry :=
  htold.imp (fun hclosed => closedFor_snoc hclosed e) fun hfailed => mem_failed_snoc hfailed step

theorem Told.task {log : Session.Log} {h : CoordinatorTrace} {entry : Entry}
    (htold : Told log h entry) (step : Session × SessionAction) : Told (log ++ [step]) h entry :=
  htold.imp_right fun hfailed => mem_failed_snoc hfailed step

/-- The subscription whose failed source the event tells of, unless the failure is fatal. -/
def CoordinatorEvent.failure? : CoordinatorEvent → Option TransportSubscriptionId
  | .eventSourceFailed id _ false _ => some id
  | _ => none

theorem subscription_of_failure {event : CoordinatorEvent} {id : TransportSubscriptionId}
    (h : event.failure? = some id) : event.subscription? = some id := by
  unfold CoordinatorEvent.failure? at h
  split at h
  · exact h
  · cases h

/-- The pump polls its source, or is about to tell the coordinator of its end. -/
def PumpPhase.isOpen : PumpPhase → Bool
  | .polling | .telling .. => true
  | _ => false

/-- A queue that has refused the closing of an `Unsubscribe` is still full when the error about
that comes, and an identifier is taken again only when no failure of its earlier source is left. -/
def LoudRequest (s : Session) : CoordinatorRequest → Prop
  | .enqueue (.error _ none _) => ClosingRefused s.trace → ¬ s.world.writerChannel.HasRoom
  | .spawnPump id _ _ => ∀ event ∈ s.world.eventChannel.contents, event.failure? ≠ some id
  | _ => True

/-- The steps after which no subscription can end silently. A source fails, unless that ends the
session, while the outbound queue has room. -/
def Loud (settings : SessionSettings) (s : Session) : SessionAction → Prop
  | .task (.pump _ (.next (.error error) _)) =>
    error = .subscriptionLagged ∨ s.world.writerChannel.HasRoom
  | .coordinator .proceed => ∀ p ∈ s.coordinator.pending settings, LoudRequest s p.request
  | _ => True

instance (h : CoordinatorTrace) : Decidable (ClosingRefused h) :=
  inferInstanceAs (Decidable (_ = true))

instance (s : Session) (q : CoordinatorRequest) : Decidable (LoudRequest s q) :=
  match q with
  | .enqueue (.error _ none _) => inferInstanceAs (Decidable (ClosingRefused s.trace → ¬ _))
  | .spawnPump _ _ _ =>
    inferInstanceAs (Decidable (∀ event ∈ s.world.eventChannel.contents, event.failure? ≠ some _))
  | .enqueue (.error _ (some _) _) | .enqueue (.application ..) | .enqueue (.queryResponse ..)
  | .enqueue (.writer _) | .enqueue (.action _) | .enqueue (.query _) | .select | .perform _
  | .negotiate _ | .resolve .. | .authorize .. | .subscribe _ | .sendClose | .awaitWriter
  | .drain _ => .isTrue trivial

instance (settings : SessionSettings) (s : Session) (action : SessionAction) :
    Decidable (Loud settings s action) := by
  unfold Loud
  split
  · infer_instance
  · infer_instance
  · infer_instance

end Records

section Invariant

/-- The pump of an entry has not ended, or the coordinator has yet to handle its end. -/
def Going (h : CoordinatorTrace) (w : World) (entry : Entry) : Prop :=
  ∃ pump : Pump, w.pumps[entry.2.pump]? = some pump ∧ pump.cancelled = false ∧
    (pump.phase.isOpen = true ∨ ∃ event, event.subscription? = some entry.1 ∧
      (event ∈ w.eventChannel.contents ∨ (ledger h).event = some event))

/-- How the ledger, the pumps and what the client was told belong together. -/
structure Attended (log : Session.Log) (h : CoordinatorTrace) (w : World) : Prop where
  /-- Every entry still has its pump or the news of its end. -/
  going : ∀ entry ∈ (ledger h).entries, Going h w entry
  /-- Every pump that runs has an entry, or is being joined. -/
  owned : ∀ (index : Nat) (pump : Pump), w.pumps[index]? = some pump → pump.phase ≠ .finished →
    (pump.id, ⟨index⟩) ∈ (ledger h).entries ∨ (ledger h).removed = some (pump.id, ⟨index⟩)
  /-- A failure that does not end the session was told by the pump. -/
  telling : ∀ (index : Nat) (pump : Pump), w.pumps[index]? = some pump →
    ∀ event ∈ pump.phase.tells, event.failure?.isSome = true → index ∈ failed log
  queued : ∀ event ∈ w.eventChannel.contents, ∀ entry ∈ (ledger h).entries,
    event.failure? = some entry.1 → entry.2.pump ∈ failed log
  received : ∀ event ∈ (ledger h).event, ∀ entry : Entry,
    (entry ∈ (ledger h).entries ∨ (ledger h).removed = some entry) →
    event.failure? = some entry.1 → entry.2.pump ∈ failed log
  parted : ∀ entry ∈ (ledger h).removed, ∀ other ∈ (ledger h).entries, other.1 ≠ entry.1
  told : ∀ entry ∈ spawned h, entry ∈ (ledger h).entries ∨ (ledger h).removed = some entry ∨
    Told log h entry

variable {settings : SessionSettings} {log : Session.Log} {h : CoordinatorTrace} {w w' : World}

theorem attended_start : Attended [] [] (.start settings) where
  going _ hmem := (List.not_mem_nil hmem).elim
  owned index pump hpump _ := by
    change ([] : List Pump)[index]? = some pump at hpump
    cases hpump
  telling index pump hpump _ _ := by
    change ([] : List Pump)[index]? = some pump at hpump
    cases hpump
  queued _ _ _ hmem := (List.not_mem_nil hmem).elim
  received _ hmem := (Option.not_mem_none _ hmem).elim
  parted _ hmem := (Option.not_mem_none _ hmem).elim
  told _ hmem := (List.not_mem_nil hmem).elim

theorem Going.mono {entry : Entry} (hgoing : Going h w entry)
    (hpump : w'.pumps[entry.2.pump]? = w.pumps[entry.2.pump]?)
    (hevents : w.eventChannel.contents ⊆ w'.eventChannel.contents) : Going h w' entry := by
  obtain ⟨pump, hget, hlive, hopen⟩ := hgoing
  refine ⟨pump, hpump.trans hget, hlive, hopen.imp_right ?_⟩
  rintro ⟨event, hevent, hmem⟩
  exact ⟨event, hevent, hmem.imp_left fun hmem => hevents hmem⟩

/-- A step of a task other than a pump. -/
theorem Attended.task (hs : Attended log h w) (step : Session × SessionAction)
    (hpumps : w'.pumps = w.pumps) {event : Option CoordinatorEvent}
    (hcontents : w'.eventChannel.contents = w.eventChannel.contents ++ event.toList)
    (hevent : ∀ e ∈ event, e.failure? = none) : Attended (log ++ [step]) h w' := by
  constructor
  case going =>
    intro entry hentry
    refine (hs.going entry hentry).mono (by rw [hpumps]) ?_
    rw [hcontents]
    exact List.subset_append_left _ _
  case owned =>
    rw [hpumps]
    exact hs.owned
  case telling =>
    rw [hpumps]
    intro index pump hpump e he hfailure
    exact mem_failed_snoc (hs.telling index pump hpump e he hfailure) step
  case queued =>
    rw [hcontents]
    intro e he entry hentry hid
    rcases List.mem_append.mp he with he | he
    · exact mem_failed_snoc (hs.queued e he entry hentry hid) step
    · rw [hevent e (Option.mem_toList.mp he)] at hid
      cases hid
  case received =>
    intro e he entry hentry hid
    exact mem_failed_snoc (hs.received e he entry hentry hid) step
  case parted => exact hs.parted
  case told =>
    intro entry hentry
    exact (hs.told entry hentry).imp_right (Or.imp_right fun htold => htold.task step)

/-- A pump that tells of its failure has told the client before. -/
theorem failed_of_pumpMove (log : Session.Log) {s : Session} {index : Nat} {pump : Pump}
    {choice : PumpChoice} {phase : PumpPhase} {channel : WriterChannel} {send : Option Send}
    (hloud : Loud settings s (.task (.pump index choice)))
    (hopen : s.world.writerChannel.closed = false) (hpump : s.world.pumps[index]? = some pump)
    (hmove : PumpMove s.world pump choice phase channel send) :
    ∀ event ∈ phase.tells, event.failure?.isSome = true →
      index ∈ failed (log ++ [(s, .task (.pump index choice))]) := by
  intro event hevent hfailure
  cases hmove with
  | @failed error messageId hphase =>
    obtain rfl := Option.some.inj hevent
    rcases hloud with rfl | hroom
    · cases hfailure
    · obtain ⟨channel, hsent⟩ := Option.isSome_iff_exists.mp
        (Channel.trySend_isSome hopen hroom (pump.failureCommand error))
      have hfailed : failedIn (s, .task (.pump index (.next (.error error) messageId))) =
          some index := by
        simp [failedIn, hpump, hsent]
      rw [failed_snoc, hfailed]
      exact List.mem_append_right _ (List.mem_singleton_self _)
  | refused | ended =>
    obtain rfl := Option.some.inj hevent
    cases hfailure
  | @resumed close hphase => cases close <;> cases hevent
  | _ => cases hevent

/-- A step of a pump. -/
theorem Attended.pump {s : Session} (hs : Attended log s.trace s.world)
    (hids : ((ledger s.trace).entries.map Prod.fst).Nodup)
    (hspawned : ∀ entry ∈ (ledger s.trace).entries, entry ∈ spawned s.trace)
    (hindex : PumpIndex s.trace s.world) (hown : s.world.TellOwn)
    (hlive : s.world.cancelled = false) (hopen : s.world.writerChannel.closed = false)
    {index : Nat} {choice : PumpChoice} (hloud : Loud settings s (.task (.pump index choice)))
    (hstep : s.world.taskStep settings (.pump index choice) = some w') :
    Attended (log ++ [(s, .task (.pump index choice))]) s.trace w' := by
  obtain ⟨pump, phase, channel, send, hpump, hmove, hpumps, -, hcontents⟩ :=
    pumpMove_of_taskStep hstep
  have hfailed := failed_of_pumpMove log hloud hopen hpump hmove
  have habout := hown pump (List.mem_of_getElem? hpump)
  have hrunning := hmove.phase_ne
  have hevents : s.world.eventChannel.contents ⊆ w'.eventChannel.contents := by
    rw [hcontents]
    exact List.subset_append_left _ _
  have hself : w'.pumps[index]? = some { pump with phase := phase } := by
    rw [hpumps, List.getElem?_set_self (List.getElem?_eq_some_iff.mp hpump).1]
  have hother {i : Nat} (hne : index ≠ i) : w'.pumps[i]? = s.world.pumps[i]? := by
    rw [hpumps, List.getElem?_set_ne hne]
  constructor
  case going =>
    intro entry hentry
    have hgoing := hs.going entry hentry
    by_cases heq : index = entry.2.pump
    · subst heq
      obtain ⟨pump', hpump', hcancelled, hnews⟩ := hgoing
      obtain rfl : pump' = pump := Option.some.inj (hpump'.symm.trans hpump)
      obtain ⟨pump'', hpump'', hid⟩ := hindex.handles entry (hspawned entry hentry)
      obtain rfl : pump'' = pump' := Option.some.inj (hpump''.symm.trans hpump)
      refine ⟨_, hself, hcancelled, ?_⟩
      have hkept (hnews : ∃ event : CoordinatorEvent, event.subscription? = some entry.1 ∧
          (event ∈ s.world.eventChannel.contents ∨ (ledger s.trace).event = some event)) :
          ∃ event : CoordinatorEvent, event.subscription? = some entry.1 ∧
            (event ∈ w'.eventChannel.contents ∨ (ledger s.trace).event = some event) := by
        obtain ⟨event, hevent, hmem⟩ := hnews
        exact ⟨event, hevent, hmem.imp_left fun hmem => hevents hmem⟩
      cases hmove with
      | cancelled hphase hstop =>
        rw [hlive, hcancelled] at hstop
        simp at hstop
      | forwarded | refused | ended | failed => exact .inl rfl
      | @told event close hphase =>
        refine .inr ⟨event, ?_, .inl ?_⟩
        · rw [← hid]
          rw [hphase] at habout
          exact habout event rfl
        · rw [hcontents]
          exact List.mem_append_right _ (List.mem_singleton_self _)
      | resumed hphase | closed hphase =>
        refine .inr (hkept (hnews.resolve_left ?_))
        rw [hphase]
        exact (of_both · rfl)
    · exact hgoing.mono (hother heq) hevents
  case owned =>
    intro i p hp hphase
    by_cases heq : index = i
    · subst heq
      rw [hself] at hp
      obtain rfl := Option.some.inj hp
      exact hs.owned index pump hpump hrunning
    · rw [hother heq] at hp
      exact hs.owned i p hp hphase
  case telling =>
    intro i p hp
    by_cases heq : index = i
    · subst heq
      rw [hself] at hp
      obtain rfl := Option.some.inj hp
      exact hfailed
    · rw [hother heq] at hp
      intro event hevent hfailure
      exact mem_failed_snoc (hs.telling i p hp event hevent hfailure) _
  case queued =>
    rw [hcontents]
    intro event hevent entry hentry hfailure
    apply mem_failed_snoc
    rcases List.mem_append.mp hevent with hevent | hevent
    · exact hs.queued event hevent entry hentry hfailure
    · cases hmove with
      | @told event' close hphase =>
        obtain rfl := List.mem_singleton.mp hevent
        have htells : pump.phase.tells = some event := by
          rw [hphase]
          rfl
        have hid : pump.id = entry.1 :=
          Option.some.inj ((habout event htells).symm.trans (subscription_of_failure hfailure))
        have hpumpFailed : index ∈ failed log :=
          hs.telling index pump hpump event htells (by rw [hfailure]; rfl)
        rcases hs.owned index pump hpump hrunning with hmem | hremoved
        · rw [← eq_of_map hids hmem hentry hid]
          exact hpumpFailed
        · exact absurd hid.symm (hs.parted _ hremoved entry hentry)
      | _ => cases hevent
  case received =>
    intro event hevent entry hentry hfailure
    exact mem_failed_snoc (hs.received event hevent entry hentry hfailure) _
  case parted => exact hs.parted
  case told =>
    intro entry hentry
    exact (hs.told entry hentry).imp_right (Or.imp_right fun htold => htold.task _)

/-- An exchange that leaves the ledger alone. -/
theorem Attended.inert (hs : Attended log h w) (step : Session × SessionAction)
    {e : CoordinatorExchange} (hledger : ledger (h ++ [e]) = ledger h)
    (hspawned : spawnedIn e = none) (hpumps : w'.pumps = w.pumps)
    (hevents : w'.eventChannel.contents = w.eventChannel.contents) :
    Attended (log ++ [step]) (h ++ [e]) w' := by
  constructor
  case going =>
    rw [hledger]
    intro entry hentry
    unfold Going
    rw [hledger, hpumps, hevents]
    exact hs.going entry hentry
  case owned =>
    rw [hledger, hpumps]
    exact hs.owned
  case telling =>
    rw [hpumps]
    intro index pump hpump event hevent hfailure
    exact mem_failed_snoc (hs.telling index pump hpump event hevent hfailure) step
  case queued =>
    rw [hledger, hevents]
    intro event hevent entry hentry hfailure
    exact mem_failed_snoc (hs.queued event hevent entry hentry hfailure) step
  case received =>
    rw [hledger]
    intro event hevent entry hentry hfailure
    exact mem_failed_snoc (hs.received event hevent entry hentry hfailure) step
  case parted =>
    rw [hledger]
    exact hs.parted
  case told =>
    rw [hledger, spawned_snoc, hspawned, Option.toList_none, List.append_nil]
    intro entry hentry
    exact (hs.told entry hentry).imp_right (Or.imp_right fun htold => htold.snoc step e)

/-- The loop takes its next input. -/
theorem Attended.select (hs : Attended log h w) (step : Session × SessionAction)
    {state : Coordinator} (hsettled : Settled h state) (hindex : PumpIndex h w)
    {input : CoordinatorInput} (hpumps : w'.pumps = w.pumps)
    (hevents : w.eventChannel.contents = input.event?.toList ++ w'.eventChannel.contents) :
    Attended (log ++ [step]) (h ++ [⟨state, .select, input⟩]) w' := by
  have hledger : ledger (h ++ [⟨state, .select, input⟩]) =
      ⟨(ledger h).entries, input.event?, none⟩ := ledger_snoc ..
  have hmem {event : CoordinatorEvent} : event ∈ w.eventChannel.contents ↔
      event ∈ w'.eventChannel.contents ∨ input.event? = some event := by
    rw [hevents, List.mem_append, Option.mem_toList, or_comm]
  have hremoved (entry : Entry) (hentry : (ledger h).removed = some entry) :
      Told log h entry := by
    rcases hsettled.told entry hentry with hclosed | ⟨error, queued, hevent⟩
    · exact .inl hclosed
    · exact .inr (hs.received _ hevent entry (.inr hentry) rfl)
  constructor
  case going =>
    rw [hledger]
    intro entry hentry
    obtain ⟨pump, hpump, hcancelled, hnews⟩ := hs.going entry hentry
    unfold Going
    rw [hledger, hpumps]
    refine ⟨pump, hpump, hcancelled, hnews.imp_right ?_⟩
    rintro ⟨event, hevent, hqueued | hreceived⟩
    · exact ⟨event, hevent, hmem.mp hqueued⟩
    · exact absurd hevent (hsettled.out event hreceived entry hentry)
  case owned =>
    rw [hledger, hpumps]
    intro index pump hpump hphase
    rcases hs.owned index pump hpump hphase with hentry | hentry
    · exact .inl hentry
    · obtain ⟨pump', hpump', hfinished⟩ := hindex.ended index (hsettled.joined _ hentry)
      obtain rfl : pump' = pump := Option.some.inj (hpump'.symm.trans hpump)
      exact absurd hfinished hphase
  case telling =>
    rw [hpumps]
    intro index pump hpump event hevent hfailure
    exact mem_failed_snoc (hs.telling index pump hpump event hevent hfailure) step
  case queued =>
    rw [hledger]
    intro event hevent entry hentry hfailure
    exact mem_failed_snoc (hs.queued event (hmem.mpr (.inl hevent)) entry hentry hfailure) step
  case received =>
    rw [hledger]
    intro event hevent entry hentry hfailure
    rcases hentry with hentry | hentry
    · exact mem_failed_snoc (hs.queued event (hmem.mpr (.inr hevent)) entry hentry hfailure) step
    · cases hentry
  case parted =>
    rw [hledger]
    exact fun _ hentry => (Option.not_mem_none _ hentry).elim
  case told =>
    rw [hledger, spawned_snoc]
    intro entry hentry
    replace hentry : entry ∈ spawned h := by simpa [spawnedIn] using hentry
    rcases hs.told entry hentry with hentry | hentry | htold
    · exact .inl hentry
    · exact .inr (.inr ((hremoved entry hentry).snoc step _))
    · exact .inr (.inr (htold.snoc step _))

/-- A pump is spawned. -/
theorem Attended.spawn (hs : Attended log h w) (step : Session × SessionAction)
    (state : Coordinator) {id : TransportSubscriptionId} {version : Version} {codec : MessageCodec}
    (hevent : (ledger h).event = none) (hremoved : (ledger h).removed = none)
    (hfresh : ∀ event ∈ w.eventChannel.contents, event.failure? ≠ some id)
    (hpumps : w'.pumps = w.pumps ++ [⟨id, version, codec, false, .polling⟩])
    (hevents : w'.eventChannel.contents = w.eventChannel.contents) :
    Attended (log ++ [step])
      (h ++ [⟨state, .spawnPump id version codec, (⟨w.pumps.length⟩ : SubscriptionHandle)⟩])
      w' := by
  let e : CoordinatorExchange :=
    ⟨state, .spawnPump id version codec, (⟨w.pumps.length⟩ : SubscriptionHandle)⟩
  show Attended (log ++ [step]) (h ++ [e]) w'
  have hledger : ledger (h ++ [e]) =
      { ledger h with entries := (ledger h).entries ++ [(id, ⟨w.pumps.length⟩)] } := ledger_snoc ..
  have hnew : w'.pumps[w.pumps.length]? = some ⟨id, version, codec, false, .polling⟩ := by
    rw [hpumps]
    exact List.getElem?_concat_length
  have hold {index : Nat} {pump : Pump} (hpump : w.pumps[index]? = some pump) :
      w'.pumps[index]? = some pump := by
    rw [hpumps, List.getElem?_append_left (List.getElem?_eq_some_iff.mp hpump).1]
    exact hpump
  have hcases {index : Nat} {pump : Pump} (hpump : w'.pumps[index]? = some pump) :
      w.pumps[index]? = some pump ∨
        index = w.pumps.length ∧ pump = ⟨id, version, codec, false, .polling⟩ := by
    rw [hpumps, List.getElem?_append] at hpump
    split at hpump
    · exact .inl hpump
    · obtain ⟨hlength, hget⟩ := List.getElem?_eq_some_iff.mp hpump
      have hzero : index - w.pumps.length = 0 := by simpa using hlength
      refine .inr ⟨by omega, ?_⟩
      simpa [hzero] using hget.symm
  constructor
  case going =>
    rw [hledger]
    intro entry hentry
    unfold Going
    rw [hledger, hevents]
    rcases List.mem_append.mp hentry with hentry | hentry
    · obtain ⟨pump, hpump, hrest⟩ := hs.going entry hentry
      exact ⟨pump, hold hpump, hrest⟩
    · obtain rfl := List.mem_singleton.mp hentry
      exact ⟨_, hnew, rfl, .inl rfl⟩
  case owned =>
    rw [hledger]
    intro index pump hpump hphase
    rcases hcases hpump with hpump | ⟨rfl, rfl⟩
    · exact (hs.owned index pump hpump hphase).imp_left (List.mem_append_left _)
    · exact .inl (List.mem_append_right _ (List.mem_singleton_self _))
  case telling =>
    intro index pump hpump event hevent hfailure
    rcases hcases hpump with hpump | ⟨rfl, rfl⟩
    · exact mem_failed_snoc (hs.telling index pump hpump event hevent hfailure) step
    · cases hevent
  case queued =>
    rw [hledger, hevents]
    intro event hevent entry hentry hfailure
    rcases List.mem_append.mp hentry with hentry | hentry
    · exact mem_failed_snoc (hs.queued event hevent entry hentry hfailure) step
    · obtain rfl := List.mem_singleton.mp hentry
      exact absurd hfailure (hfresh event hevent)
  case received =>
    rw [hledger]
    intro event hmem
    rw [hevent] at hmem
    exact (Option.not_mem_none _ hmem).elim
  case parted =>
    rw [hledger]
    intro entry hmem
    rw [hremoved] at hmem
    exact (Option.not_mem_none _ hmem).elim
  case told =>
    rw [hledger, spawned_snoc]
    intro entry hentry
    rcases List.mem_append.mp hentry with hentry | hentry
    · exact (hs.told entry hentry).imp (List.mem_append_left _)
        (Or.imp_right fun htold => htold.snoc step e)
    · exact .inl (List.mem_append_right _ hentry)

/-- An entry is taken out, and its pump is cancelled. -/
theorem Attended.cancel (hs : Attended log h w) (step : Session × SessionAction)
    {state : Coordinator} (hbooked : Booked h state) {id : TransportSubscriptionId}
    {handle : SubscriptionHandle} (hentry : (id, handle) ∈ (ledger h).entries)
    (hremoved : (ledger h).removed = none)
    (hpumps : w'.pumps = w.pumps.modify handle.pump fun pump => { pump with cancelled := true })
    (hevents : w'.eventChannel.contents = w.eventChannel.contents) :
    Attended (log ++ [step]) (h ++ [⟨state, .perform (.cancelPump handle), ()⟩]) w' := by
  have hledger := ledger_cancelPump hbooked hentry state
  have hpump {index : Nat} {pump : Pump} (hpump : w'.pumps[index]? = some pump) :
      ∃ before, w.pumps[index]? = some before ∧ before.id = pump.id ∧
        before.phase = pump.phase := by
    rw [hpumps, List.getElem?_modify] at hpump
    obtain ⟨before, hbefore, rfl⟩ := Option.map_eq_some_iff.mp hpump
    refine ⟨before, hbefore, ?_⟩
    split
    · exact ⟨rfl, rfl⟩
    · exact ⟨rfl, rfl⟩
  have hmoved (entry : Entry) (hmem : entry ∈ (ledger h).entries) :
      entry ∈ (ledger h).entries.filter (·.2 ≠ handle) ∨ (id, handle) = entry := by
    by_cases hid : entry.1 = id
    · exact .inr (eq_of_map hbooked.ids hentry hmem hid.symm)
    · exact .inl ((hbooked.left hentry).mpr ⟨hmem, hid⟩)
  constructor
  case going =>
    rw [hledger]
    intro entry hmem
    unfold Going
    rw [hledger, hevents]
    obtain ⟨hmem, hne⟩ := List.mem_filter.mp hmem
    obtain ⟨pump, hget, hrest⟩ := hs.going entry hmem
    refine ⟨pump, ?_, hrest⟩
    have hindex : handle.pump ≠ entry.2.pump := by
      intro heq
      have hhandle : entry.2 = handle := congrArg SubscriptionHandle.mk heq.symm
      simp [hhandle] at hne
    simp [hpumps, hindex, hget]
  case owned =>
    rw [hledger]
    intro index pump hget hphase
    obtain ⟨before, hbefore, hid, hphase'⟩ := hpump hget
    rw [← hid]
    rcases hs.owned index before hbefore (hphase' ▸ hphase) with hmem | hnone
    · exact (hmoved _ hmem).imp_right fun heq => congrArg some heq
    · rw [hremoved] at hnone
      cases hnone
  case telling =>
    intro index pump hget event hevent hfailure
    obtain ⟨before, hbefore, -, hphase⟩ := hpump hget
    rw [← hphase] at hevent
    exact mem_failed_snoc (hs.telling index before hbefore event hevent hfailure) step
  case queued =>
    rw [hledger, hevents]
    intro event hevent entry hmem hfailure
    have hmem := ((hbooked.left hentry).mp hmem).1
    exact mem_failed_snoc (hs.queued event hevent entry hmem hfailure) step
  case received =>
    rw [hledger]
    intro event hevent entry hmem hfailure
    have hmem : entry ∈ (ledger h).entries := by
      rcases hmem with hmem | hmem
      · exact ((hbooked.left hentry).mp hmem).1
      · rw [← Option.some.inj hmem]
        exact hentry
    exact mem_failed_snoc (hs.received event hevent entry (.inl hmem) hfailure) step
  case parted =>
    rw [hledger]
    intro entry hmem other hother
    obtain rfl := Option.some.inj hmem
    exact ((hbooked.left hentry).mp hother).2
  case told =>
    rw [hledger, spawned_snoc]
    intro entry hmem
    replace hmem : entry ∈ spawned h := by simpa [spawnedIn] using hmem
    rcases hs.told entry hmem with hmem | hmem | htold
    · rcases hmoved entry hmem with hmem | rfl
      · exact .inl hmem
      · exact .inr (.inl rfl)
    · rw [hremoved] at hmem
      cases hmem
    · exact .inr (.inr (htold.snoc step _))

theorem inert_eq {q : CoordinatorRequest} (hq : q.isInert = true) (s : Coordinator)
    (a : q.Answer) (pumps : List Pump) : spawnedIn ⟨s, q, a⟩ = none ∧ eventOf ⟨s, q, a⟩ = none ∧
      pumpsAfter pumps ⟨s, q, a⟩ = pumps := by
  cases q with
  | select | spawnPump id version codec => cases hq
  | perform effect =>
    cases effect with
    | cancelPump handle => cases hq
    | _ => exact ⟨rfl, rfl, rfl⟩
  | _ => exact ⟨rfl, rfl, rfl⟩

/-- An exchange of the loop. -/
theorem Attended.exchange {s : Session} (hs : Attended log s.trace s.world)
    (hindex : PumpIndex s.trace s.world) {choice : CoordinatorChoice} {p : CoordinatorTask.Pending}
    (hp : s.coordinator.pending settings = some p)
    (hpromise : subscriptionEnds.guarantee s.trace p.state p.request)
    (hloud : Loud settings s (.coordinator choice)) {a : p.request.Answer}
    (hrespond : s.world.respond p.request choice = some (a, w)) :
    Attended (log ++ [(s, .coordinator choice)]) (s.trace ++ [⟨p.state, p.request, a⟩]) w := by
  have hresponded := responded_of_respond hrespond p.state
  obtain ⟨state, q, resume⟩ := p
  obtain ⟨hbooked, hallows⟩ := hpromise
  cases hinert : q.isInert with
  | true =>
    obtain ⟨hspawned, hevent, hpumps⟩ := inert_eq hinert state a s.world.pumps
    refine hs.inert _ (ledger_of_inert hinert s.trace state a) hspawned ?_ ?_
    · rw [hresponded.pumps, hpumps]
    · rw [hresponded.events, hevent]
      rfl
  | false =>
    cases q with
    | select =>
      change CoordinatorInput at a
      refine hs.select _ hallows hindex hresponded.pumps ?_
      rw [hresponded.events]
      cases a <;> rfl
    | spawnPump id version codec =>
      obtain ⟨rfl, hpumps⟩ := handle_of_spawn hrespond
      obtain ⟨-, hevent, hremoved⟩ := hallows
      cases choice with
      | proceed => exact hs.spawn _ state hevent hremoved (hloud _ hp) hpumps hresponded.events.symm
      | _ => cases hrespond
    | perform effect =>
      cases effect with
      | cancelPump handle =>
        obtain ⟨hremoved, id, hentry⟩ := hallows
        exact hs.cancel _ hbooked hentry hremoved hresponded.pumps hresponded.events.symm
      | _ => cases hinert
    | _ => cases hinert

end Invariant
section Acceptance
variable {settings : SessionSettings} {h : CoordinatorTrace} {s : Coordinator}

/-- Every accepted subscription has a pump. -/
def Started (h : CoordinatorTrace) : Prop :=
  ∀ id, .accepted id ∈ announced h → ∃ handle, (id, handle) ∈ spawned h

theorem Started.snoc (hs : Started h) {e : CoordinatorExchange}
    (he : ∀ id, announcedIn e ≠ some (.accepted id)) : Started (h ++ [e]) := by
  intro id hmem
  rw [announced_snoc] at hmem
  rcases List.mem_append.mp hmem with hmem | hmem
  · obtain ⟨handle, hspawned⟩ := hs id hmem
    exact ⟨handle, mem_spawned_snoc hspawned e⟩
  · exact absurd (Option.mem_toList.mp hmem) (he id)

/-- Between two turns every accepted subscription has its pump. -/
def acceptances : Contract CoordinatorRequest CoordinatorRequest.Answer Coordinator where
  rely _ _ _ _ := True
  guarantee h _ q := q.isSelect = true → Started h

theorem handleSubscribe_started (hs : Started h) (request : SubscriptionRequest) :
    (handleSubscribe request).run.wp acceptances (fun _ h _ => Started h) h s := by
  refine wp_whenReady (fun _ _ => hs) fun _ => ?_
  simp only [Proc.wp_run_bind, Proc.wp_run_get, Proc.afterResult_ok]
  cases s.connection.identity with
  | none => exact hs
  | some binding =>
    simp only [Proc.wp_run_bind, Proc.wp_run_liftM, wp_authorize]
    refine ⟨(of_both · rfl), fun answer _ => ?_⟩
    replace hs : Started (h ++ [⟨s, .authorize binding request, answer⟩]) :=
      hs.snoc fun _ => by intro heq; cases heq
    rcases answer with e | ⟨⟨⟩⟩
    · exact hs
    simp only [wp_orThrow_ok, Proc.afterResult_ok, Proc.wp_run_bind, Proc.wp_run_liftM,
      wp_subscribe]
    refine ⟨(of_both · rfl), fun answer _ => ?_⟩
    replace hs : Started (_ ++ [⟨s, .subscribe request, answer⟩]) :=
      hs.snoc fun _ => by intro heq; cases heq
    rcases answer with e | id
    · exact hs
    simp only [wp_orThrow_ok, Proc.afterResult_ok, Proc.afterResult_error, Proc.wp_run_bind,
      Proc.wp_run_get, Proc.wp_run_ite, Proc.wp_run_throw]
    refine ⟨fun _ => hs, fun _ => ?_⟩
    cases s.negotiatedVersion with
    | none => exact hs
    | some version =>
      simp only [Proc.afterResult_ok, Proc.wp_run_bind, Proc.wp_run_get, Proc.wp_run_ite,
        Proc.wp_run_throw, Proc.wp_run_liftM, wp_enqueue, wp_perform, wp_spawnPump,
        Proc.wp_run_modify]
      refine ⟨(of_both · rfl), fun queued _ => ⟨fun hrefused => ?_, fun _ => ?_⟩⟩
      · obtain rfl : queued = false := by simpa using hrefused
        refine ⟨(of_both · rfl), fun _ _ => (hs.snoc ?_).snoc ?_⟩
        · exact fun _ => by intro heq; cases heq
        · exact fun _ => by intro heq; cases heq
      · refine ⟨(of_both · rfl), fun handle _ => ?_⟩
        intro other hmem
        rw [announced_snoc, announced_snoc] at hmem
        rw [spawned_snoc]
        rcases List.mem_append.mp hmem with hmem | hmem
        · rcases List.mem_append.mp hmem with hmem | hmem
          · obtain ⟨handle', hspawned⟩ := hs other hmem
            exact ⟨handle', List.mem_append_left _ (mem_spawned_snoc hspawned _)⟩
          · refine ⟨handle, List.mem_append_right _ ?_⟩
            cases queued with
            | true =>
              cases List.mem_singleton.mp hmem
              exact List.mem_singleton_self _
            | false => cases hmem
        · cases hmem

/-- Only a `Subscribe` leads to an acceptance. -/
theorem not_accepted_of_asks {codec : MessageCodec} {input : CoordinatorInput}
    {q : CoordinatorRequest}
    (hmessage : ∀ request, input.message? codec ≠ some (.subscribe request))
    (hq : input.asks codec q = true) (s : Coordinator) (a : q.Answer)
    (id : TransportSubscriptionId) : announcedIn ⟨s, q, a⟩ ≠ some (.accepted id) := by
  intro hannounced
  have hsubscribe (request : CoordinatorRequest) (hrequest : ∀ message : InboundMessage,
      (∀ r, message ≠ .subscribe r) → message.asks request = false)
      (message : InboundMessage) (hmem : message ∈ input.message? codec) :
      message.asks request = false :=
    hrequest message fun r heq => hmessage r (heq ▸ hmem)
  suffices hnot : input.asks codec q = false from of_both hq hnot
  cases hneutral : q.isNeutral with
  | true =>
    rw [(neutral_eq hneutral s a).2.2] at hannounced
    cases hannounced
  | false =>
    rcases isNeutral_cases hneutral with ⟨_, rfl⟩ | ⟨_, _, _, rfl⟩ | ⟨codec', accepted, rfl⟩ |
      ⟨_, _, rfl⟩ | ⟨_, _, rfl⟩
    · cases hannounced
    · cases hannounced
    · refine asks_eq_false rfl rfl (hsubscribe _ fun message hne => ?_) fun event _ => ?_
      · cases message with
        | subscribe request => exact absurd rfl (hne request)
        | _ => rfl
      · cases event <;> rfl
    · change Bool at a
      cases a <;> cases hannounced
    · refine asks_eq_false rfl rfl (fun message _ => ?_) fun event _ => ?_
      · cases message <;> rfl
      · cases event <;> rfl

theorem turn_started (hs : Started h) :
    (turn settings).wp acceptances (TurnPost (fun h _ => Started h) fun _ _ => True) h s := by
  rw [turn_eq, Proc.wp_bind, wp_select]
  refine ⟨fun _ => hs, fun input _ => ?_⟩
  replace hs : Started (h ++ [⟨s, .select, input⟩]) := hs.snoc fun _ => by intro heq; cases heq
  by_cases hmessage : ∃ request, input.message? s.activeCodec = some (.subscribe request)
  · obtain ⟨request, hmessage⟩ := hmessage
    obtain ⟨bytes, rfl, hdecoded⟩ := message_eq_some hmessage
    simp only [handleInput, handleReaderEvent, handleText, Proc.wp_bind, Proc.wp_get, hdecoded]
    unfold handleMessage
    rw [Proc.wp_bind]
    refine Proc.wp_mono (handleSubscribe_started hs request) fun result h s hs => ?_
    cases result with
    | ok => exact hs
    | error error =>
      simp only [Proc.wp_bind, Proc.wp_get, Proc.wp_ite, wp_enqueue]
      refine ⟨(of_both · rfl), fun queued _ => ⟨fun _ => trivial, fun _ => hs.snoc fun _ => ?_⟩⟩
      cases queued <;> intro heq <;> cases heq
  · refine Proc.wp_mono (Proc.wp_carry (I := Started) (handleInput_asks input)
      (fun _ _ _ _ hq hselect => of_both hselect (isSelect_of_asks hq.1))
      (fun h s' q a hs hq _ => ?_) hs) ?_
    · exact hs.snoc (not_accepted_of_asks (fun r heq => hmessage ⟨r, heq⟩) hq.1 s' a)
    · intro control h s' hpost
      cases control with
      | next => exact hpost.1
      | stop => trivial

end Acceptance
section Runs
variable {settings : SessionSettings} {id : ConnectionId} {metadata : Metadata}
  {log : Session.Log} {s s' : Session}

/-- The subscription is in the map, and its pump runs or the coordinator has yet to handle its
end. -/
def Listed (s : Session) (state : Coordinator) (entry : Entry) : Prop :=
  entry ∈ state.subscriptions ∧ ∃ pump : Pump, s.world.pumps[entry.2.pump]? = some pump ∧
    (pump.phase.isOpen = true ∨
      ∃ event ∈ s.world.eventChannel.contents, event.subscription? = some entry.1)

/-- Whenever the loop goes round, every accepted subscription has a pump, and its client was told
of its end, or it is still in the map, or the failed writer is about to end the session. -/
def EndsLoudly (settings : SessionSettings) (log : Session.Log) (s : Session) : Prop :=
  s.coordinator.isLooping = true → ∀ p, s.coordinator.pending settings = some p →
    p.request = .select →
      (∀ id, .accepted id ∈ announced s.trace → ∃ handle, (id, handle) ∈ spawned s.trace) ∧
      ∀ entry ∈ spawned s.trace, Told log s.trace entry ∨ Listed s p.state entry ∨
        ∃ error, .writerFailed error ∈ s.world.eventChannel.contents

/-- The steps of a run that ends no subscription silently, with what is known along it. -/
def LoudAlong (settings : SessionSettings) (s : Session) (action : SessionAction) : Prop :=
  Loud settings s action ∧ PumpIndex s.trace s.world

theorem ends_of_reachable
    (h : (Session.system settings id metadata (LoudAlong settings)).Reachable s)
    (hloop : s.coordinator.isLooping = true) : ∃ p, s.coordinator.pending settings = some p ∧
      subscriptionEnds.guarantee s.trace p.state p.request := by
  refine Session.loop_of_reachable (settled_start _ rfl) (fun _ _ hs => turn_ends hs)
    (fun s choice p a w hok hp hrespond => ?_) h hloop
  obtain ⟨hloud, hindex⟩ := hok
  obtain ⟨state, q, resume⟩ := p
  cases q with
  | spawnPump id version codec =>
    obtain ⟨rfl, -⟩ := handle_of_spawn hrespond
    intro entry hentry heq
    obtain ⟨pump, hpump, -⟩ := hindex.handles entry hentry
    have hlength := (List.getElem?_eq_some_iff.mp hpump).1
    rw [heq] at hlength
    exact absurd hlength (Nat.lt_irrefl _)
  | enqueue item =>
    cases item with
    | error codec requestId error =>
      cases requestId with
      | some requestId => trivial
      | none =>
        cases choice with
        | proceed =>
          intro hrefused
          have hfull := hloud _ hp hrefused
          have hanswer := congrArg Prod.fst (Option.some.inj hrespond)
          refine hanswer.symm.trans ?_
          show (s.world.attempt (s.world.writerChannel.trySend _)).1 = false
          rw [Channel.trySend_eq_none (.inr hfull)]
          rfl
        | _ => cases hrespond
    | _ => trivial
  | _ => trivial

theorem started_of_reachable {allowed : Session → SessionAction → Prop}
    (h : (Session.system settings id metadata allowed).Reachable s)
    (hloop : s.coordinator.isLooping = true) : ∃ p, s.coordinator.pending settings = some p ∧
      (p.request.isSelect = true → Started s.trace) := by
  have hstart : Started [] := fun _ hmem => (List.not_mem_nil hmem).elim
  have hturn (h : CoordinatorTrace) (s : Coordinator) (hs : Started h) : (turn settings).wp
      acceptances (TurnPost (fun h _ => Started h) fun _ _ => True) h s := turn_started hs
  exact Session.loop_of_reachable hstart hturn (fun _ _ _ _ _ _ _ _ => trivial) h hloop

/-- What is known along a run. -/
structure LoudRun (settings : SessionSettings) (id : ConnectionId) (metadata : Metadata)
    (log : Session.Log) (s : Session) : Prop where
  reachable : (Session.system settings id metadata (LoudAlong settings)).Reachable s
  index : PumpIndex s.trace s.world
  own : s.world.TellOwn
  attended : s.coordinator.isLooping = true → s.world.cancelled = false →
    Attended log s.trace s.world

theorem LoudRun.step (hs : LoudRun settings id metadata log s) {action : SessionAction}
    (hloud : Loud settings s action) (hstep : s.step settings action = some s') :
    LoudRun settings id metadata (log ++ [(s, action)]) s' := by
  have hreach := hs.reachable.step ⟨action, ⟨hloud, hs.index⟩, hstep⟩
  cases action with
  | coordinator choice =>
    obtain ⟨p, a, w, hp, hrespond, rfl⟩ := Session.step_coordinator_eq_some hstep
    have hresponded := responded_of_respond hrespond p.state
    refine ⟨hreach, hs.index.exchange p.state hrespond, hs.own.responded hresponded, ?_⟩
    intro hloop hlive
    have hbefore := CoordinatorTask.looping_of_resume hp hloop
    obtain ⟨p', hp', hpromise⟩ := ends_of_reachable hs.reachable hbefore
    obtain rfl : p' = p := Option.some.inj (hp'.symm.trans hp)
    have hattended := hs.attended hbefore (hresponded.live hlive)
    exact hattended.exchange hs.index hp hpromise hloud hrespond
  | task action =>
    obtain ⟨w, htask, rfl⟩ := Option.map_eq_some_iff.mp hstep
    have hindex := hs.index.evolve (evolves_taskStep htask).1
    refine ⟨hreach, hindex, World.TellOwn.taskStep htask hs.own, fun hloop hlive => ?_⟩
    have hbefore := live_of_taskStep htask hlive
    have hattended := hs.attended hloop hbefore
    cases action with
    | pump index choice =>
      obtain ⟨p, -, hbooked, -⟩ := ends_of_reachable hs.reachable hloop
      have hopen : s.world.writerChannel.closed = false := by
        by_contra hclosed
        have hcancelled := (writerTold_of_reachable hs.reachable hloop).closed
          (by simpa using hclosed)
        exact of_both hcancelled hbefore
      exact hattended.pump hbooked.ids hbooked.spawned hs.index hs.own hbefore hopen hloud htask
    | _ =>
      refine hattended.task _ (pumps_taskStep htask (by intro index heq; cases heq))
        (contents_taskStep htask) fun event hevent => ?_
      have hsent := sentBy_of_told hs.own hevent
      cases event with
      | eventSourceFailed _ _ _ _ => cases hsent
      | _ => rfl

theorem loudRun_of_run (hrun : Session.Run settings id metadata log s)
    (hloud : ∀ step ∈ log, Loud settings step.1 step.2) : LoudRun settings id metadata log s := by
  refine hrun.run.invariant (I := fun log s => (∀ step ∈ log, Loud settings step.1 step.2) →
    LoudRun settings id metadata log s)
    (fun _ => ?_) (fun log s action s' ih hstep hloud => ?_) hloud
  · exact ⟨.init ⟨hrun.valid, rfl⟩, pumpIndex_start, World.tellOwn_start, fun _ _ => attended_start⟩
  · have hlog : ∀ step ∈ log, Loud settings step.1 step.2 :=
      fun step hmem => hloud step (List.mem_append_left _ hmem)
    have hlast := hloud (s, action) (List.mem_append_right _ (List.mem_singleton_self _))
    exact (ih hlog).step hlast hstep

/-- No subscription ends silently in a run of loud steps. -/
theorem subscriptions_end_loudly (settings : SessionSettings) (id : ConnectionId)
    (metadata : Metadata) (log : Session.Log) (s : Session)
    (hrun : Session.Run settings id metadata log s)
    (hloud : ∀ step ∈ log, Loud settings step.1 step.2) : EndsLoudly settings log s := by
  intro hloop p hp hselect
  have hs := loudRun_of_run hrun hloud
  obtain ⟨state, q, resume⟩ := p
  obtain rfl : q = .select := hselect
  constructor
  · obtain ⟨p', hp', hstarted⟩ := started_of_reachable hs.reachable hloop
    obtain rfl := Option.some.inj (hp'.symm.trans hp)
    exact hstarted rfl
  · intro entry hentry
    cases hlive : s.world.cancelled with
    | true => exact .inr (.inr (failing_of_cancelled hs.reachable hloop hlive))
    | false =>
      have hattended := hs.attended hloop hlive
      obtain ⟨p', hp', -, hsettled⟩ := ends_of_reachable hs.reachable hloop
      obtain rfl := Option.some.inj (hp'.symm.trans hp)
      rcases hattended.told entry hentry with hmem | hremoved | htold
      · refine .inr (.inl ⟨hsettled.full entry hmem, ?_⟩)
        obtain ⟨pump, hpump, -, hnews⟩ := hattended.going entry hmem
        refine ⟨pump, hpump, hnews.imp_right ?_⟩
        rintro ⟨event, hevent, hqueued | hreceived⟩
        · exact ⟨event, hqueued, hevent⟩
        · exact absurd hevent (hsettled.out event hreceived entry hmem)
      · left
        rcases hsettled.told entry hremoved with hclosed | ⟨error, queued, hevent⟩
        · exact .inl hclosed
        · exact .inr (hattended.received _ hevent entry (.inr hremoved) rfl)
      · exact .inl htold

theorem announced_of_closedFor {h : CoordinatorTrace} {entry : Entry}
    (hclosed : ClosedFor h entry) :
    .closed entry.1 ∈ announced h := by
  obtain ⟨before, e, after, rfl, -, hannounced⟩ := hclosed
  refine List.mem_filterMap.mpr ⟨e, ?_, hannounced⟩
  exact List.mem_append_right _ List.mem_cons_self

def SubscriptionMessage.isClosed : SubscriptionMessage → Bool
  | closed _ => true
  | _ => false

/-- The source fails, and the coordinator takes the subscription out. -/
def sampleFailure : List SessionAction :=
  [.task (.pump 0 (.next (.error (.failed "disk")) (sampleId .message))), .task (.pump 0 .tell),
    .task (.pump 0 .resume), .task (.pump 0 .closed), .coordinator .event, .coordinator .proceed,
    .coordinator .proceed]

/-- A queue of two is full after the client has subscribed, so the failure of its source is lost. -/
theorem subscription_ends_silently : ¬ ∀ settings id metadata log s,
    Session.Run settings id metadata log s → EndsLoudly settings log s := by
  intro hloudly
  obtain ⟨log, s, hrun, hcheck⟩ := exists_run_of_logged (sampleSettings 1 2)
    (sampleSubscription ++ sampleFailure)
    (fun log s => s.coordinator.isLooping && (s.coordinator.pending (sampleSettings 1 2)).any
      (fun p => p.request.isSelect && p.state.subscriptions.isEmpty) &&
      (spawned s.trace).contains (sampleSource, ⟨0⟩) &&
      ! (announced s.trace).any SubscriptionMessage.isClosed && (failed log).isEmpty &&
      s.world.eventChannel.contents.isEmpty)
    rfl (by decide +kernel)
  simp only [Bool.and_eq_true, Bool.not_eq_true', List.isEmpty_iff, List.contains_iff_mem,
    Option.any_eq_true] at hcheck
  obtain ⟨⟨⟨⟨⟨hloop, p, hp, hselect, hempty⟩, hspawned⟩, hopen⟩, hfailed⟩, hcontents⟩ := hcheck
  have hrequest : p.request = .select := by
    cases hq : p.request with
    | select => rfl
    | _ =>
      rw [hq] at hselect
      cases hselect
  obtain ⟨-, hends⟩ := hloudly _ _ _ log s hrun hloop p hp hrequest
  rcases hends _ hspawned with (hclosed | hfail) | ⟨hlisted, -⟩ | ⟨error, htold⟩
  · exact of_both (List.any_eq_true.mpr ⟨_, announced_of_closedFor hclosed, rfl⟩) hopen
  · rw [hfailed] at hfail
    exact List.not_mem_nil hfail
  · rw [hempty] at hlisted
    exact List.not_mem_nil hlisted
  · rw [hcontents] at htold
    exact List.not_mem_nil htold

/-- In a queue of three the failure finds room. -/
theorem subscriptions_end_loudly_sample :
    ∃ log s, Session.Run (sampleSettings 1 3) (sampleId .connection) ⟨[]⟩ log s ∧
      (sampleSource, ⟨0⟩) ∈ spawned s.trace ∧ EndsLoudly (sampleSettings 1 3) log s := by
  obtain ⟨log, s, hrun, hcheck⟩ := exists_run_of_logged (sampleSettings 1 3)
    (sampleSubscription ++ sampleFailure)
    (fun log s => (spawned s.trace).contains (sampleSource, ⟨0⟩) &&
      decide (∀ step ∈ log, Loud (sampleSettings 1 3) step.1 step.2))
    rfl (by decide +kernel)
  simp only [Bool.and_eq_true, List.contains_iff_mem, decide_eq_true_eq] at hcheck
  obtain ⟨hspawned, hloud⟩ := hcheck
  exact ⟨log, s, hrun, hspawned, subscriptions_end_loudly _ _ _ log s hrun hloud⟩

end Runs
end OrbitRelay
