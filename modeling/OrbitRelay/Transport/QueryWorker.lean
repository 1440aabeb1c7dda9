import Mathlib.Data.List.Perm.Basic
import OrbitRelay.Transport.QueryTurns

/-! The query worker and its tasks, which keep every query that was admitted. -/
namespace OrbitRelay

section Worker
variable {settings : SessionSettings} {w w' : World}

/-- The tickets that the workers hold: in the queue, in a task, or on the way back. -/
def World.waiting (w : World) : List Ticket :=
  w.queryQueue.contents.map (·.request.ticket) ++ w.queryTasks.filterMap QueryTask.ticket? ++
    w.eventChannel.contents.filterMap CoordinatorEvent.ticket?

/-- Neither cancelled nor shut down. -/
def World.Running (w : World) : Prop := w.cancelled = false ∧ w.sendersDropped = false

def QueryWorkerPhase.ended : QueryWorkerPhase → Bool
  | draining | finished => true
  | absent | selecting | reported => false

/-- The moves of the query worker. -/
theorem moveQueryWorker_cases {choice : QueryWorkerChoice} {send : Option Send}
    (h : w.moveQueryWorker settings choice = some (w', send)) :
    (w.cancelled = true ∧ w.queryWorker = .selecting ∧
      w' = { w with queryWorker := .draining } ∧ send = none) ∨
    (∃ index response, w.queryWorker = .selecting ∧
      w.queryTasks[index]? = some (.done (some response)) ∧
      w' = { w with queryTasks := w.queryTasks.eraseIdx index, queryWorker := .reported } ∧
      send = some (.event (.queryCompleted response))) ∨
    (∃ index, w.queryWorker = .selecting ∧ w.queryTasks[index]? = some (.done none) ∧
      w' = { w with queryTasks := w.queryTasks.eraseIdx index } ∧ send = none) ∨
    (∃ job channel, w.queryWorker = .selecting ∧
      w.queryTasks.length < settings.config.maxInFlightQueries ∧
      w.queryQueue.recv = some (job, channel) ∧
      w' = { w with queryQueue := channel, queryTasks := w.queryTasks ++ [.running job] } ∧
      send = none) ∨
    (w.sendersDropped = true ∧ w.queryWorker = .selecting ∧
      w' = { w with queryWorker := .draining } ∧ send = none) ∨
    (w.queryWorker = .reported ∧ w' = { w with queryWorker := .selecting } ∧ send = none) ∨
    (w.queryWorker = .draining ∧ send = none ∧
      (w' = { w with queryWorker := .finished } ∨
        ∃ index, w' = { w with queryTasks := w.queryTasks.eraseIdx index })) := by
  unfold World.moveQueryWorker at h
  split at h
  case h_1 hphase =>
    split at h <;> cases h
    exact .inl ⟨‹_›, hphase, rfl, rfl⟩
  case h_2 hphase =>
    split at h
    · cases h
    · split at h
      · split at h <;> cases h
        · exact .inr (.inl ⟨_, _, hphase, ‹_›, rfl, rfl⟩)
        · exact .inr (.inr (.inl ⟨_, hphase, ‹_›, rfl, rfl⟩))
      · cases h
  case h_3 hphase =>
    split at h
    · cases h
    · rename_i hguard
      have hroom : w.queryTasks.length < settings.config.maxInFlightQueries := by
        by_contra hfull
        exact hguard (.inr (.inr (Nat.not_lt.mp hfull)))
      split at h
      · cases h
        exact .inr (.inr (.inr (.inl ⟨_, _, hphase, hroom, ‹_›, rfl, rfl⟩)))
      · split at h <;> cases h
        exact .inr (.inr (.inr (.inr (.inl ⟨‹_›, hphase, rfl, rfl⟩))))
  case h_4 hphase =>
    cases h
    exact .inr (.inr (.inr (.inr (.inr (.inl ⟨hphase, rfl, rfl⟩)))))
  case h_5 hphase =>
    split at h <;> cases h
    exact .inr (.inr (.inr (.inr (.inr (.inr ⟨hphase, rfl, .inl rfl⟩)))))
  case h_6 hphase =>
    cases h
    exact .inr (.inr (.inr (.inr (.inr (.inr ⟨hphase, rfl, .inr ⟨_, rfl⟩⟩)))))
  case h_7 => cases h

theorem moveQueryTask_cases {index : Nat} {response : Option QueryResponse} {send : Option Send}
    (h : w.moveQueryTask index response = some (w', send)) :
    ∃ job, w.queryTasks[index]? = some (.running job) ∧
      (response.isSome = true ∨ w.cancelled = true) ∧
      w' = { w with queryTasks := w.queryTasks.set index (.done response) } ∧ send = none := by
  unfold World.moveQueryTask at h
  split at h
  case h_1 job hjob =>
    split at h <;> cases h
    exact ⟨job, hjob, ‹_›, rfl, rfl⟩
  case h_2 => cases h

/-- The tickets of the tasks, one of which is taken out. -/
theorem filterMap_eraseIdx_perm {tasks : List QueryTask} {index : Nat} {task : QueryTask}
    (h : tasks[index]? = some task) :
    (tasks.filterMap QueryTask.ticket?).Perm
      (task.ticket?.toList ++ (tasks.eraseIdx index).filterMap QueryTask.ticket?) := by
  obtain ⟨hindex, rfl⟩ := List.getElem?_eq_some_iff.mp h
  have hperm := (List.getElem_cons_eraseIdx_perm hindex).symm.filterMap QueryTask.ticket?
  rw [List.filterMap_cons] at hperm
  cases hticket : QueryTask.ticket? tasks[index] <;> simpa [hticket] using hperm

theorem filterMap_set_perm {tasks : List QueryTask} {index : Nat} {task task' : QueryTask}
    (h : tasks[index]? = some task) (hticket : task'.ticket? = task.ticket?) :
    ((tasks.set index task').filterMap QueryTask.ticket?).Perm
      (tasks.filterMap QueryTask.ticket?) := by
  have hbefore := filterMap_eraseIdx_perm h
  obtain ⟨hindex, rfl⟩ := List.getElem?_eq_some_iff.mp h
  have hperm := (List.set_perm_cons_eraseIdx hindex task').filterMap QueryTask.ticket?
  rw [List.filterMap_cons, hticket] at hperm
  refine hperm.trans (List.Perm.trans ?_ hbefore.symm)
  cases QueryTask.ticket? tasks[index] <;> simp

/-- What holds of the query worker, its tasks and its channels. -/
structure QueryWorld (settings : SessionSettings) (w : World) : Prop where
  own : w.TellOwn
  parked : ∀ task, w.readerChannel.Parked task → task = .reader
  capacities : w.capacities =
    (settings.config.inboundCapacity, settings.config.queryQueueCapacity)
  bounded : w.queryTasks.length ≤ settings.config.maxInFlightQueries
  absent : w.queryWorker = .absent → settings.hasQueryExecutor = false
  ended : w.queryWorker.ended = true → ¬ w.Running
  present : w.Running → ∀ task ∈ w.queryTasks, task.ticket?.isSome = true

theorem queryWorld_start : QueryWorld settings (.start settings) where
  own := World.tellOwn_start
  parked _ h := by cases h
  capacities := rfl
  bounded := Nat.zero_le _
  absent h := by
    unfold World.start at h
    cases hexecutor : settings.hasQueryExecutor with
    | false => rfl
    | true => simp [hexecutor] at h
  ended h := by
    unfold World.start at h
    cases hexecutor : settings.hasQueryExecutor <;> simp [hexecutor, QueryWorkerPhase.ended] at h
  present _ _ h := by cases h

/-- A response answers the request it was made for. -/
def Faithful (w : World) : TaskAction → Prop
  | .queryTask index (some response) => ∀ job ∈ w.queryTasks[index]?.bind QueryTask.job?,
      response.ticket = job.request.ticket
  | _ => True

theorem running_of_taskStep {action : TaskAction} (h : w.taskStep settings action = some w')
    (hrunning : w'.Running) : w.Running :=
  ⟨live_of_taskStep h hrunning.1, dropped_taskStep h ▸ hrunning.2⟩

/-- Only the query worker tells of completed queries. -/
theorem ticket_eq_none {event : CoordinatorEvent} {task : TaskId}
    (hsent : event.sentBy task = true) (htask : task ≠ .queryWorker) :
    event.ticket? = none := by
  cases event with
  | queryCompleted response =>
    cases task with
    | queryWorker => exact absurd rfl htask
    | _ => cases hsent
  | _ => rfl

theorem capacities_deliver (task : TaskId) (send : Option Send) :
    (w.deliver task send).capacities = w.capacities := by
  rcases send with _ | read | told
  · rfl
  · rfl
  · exact Prod.ext (Channel.capacity_send ..) rfl

/-- A step of another task. -/
theorem QueryWorld.other (hw : QueryWorld settings w) {action : TaskAction}
    (h : w.taskStep settings action = some w') (hworker : action.task ≠ .queryWorker)
    (htask : ∀ index, action.task ≠ .queryTask index) :
    QueryWorld settings w' ∧ w'.waiting = w.waiting := by
  obtain ⟨hphase, htasks, hqueue⟩ := queries_taskStep h hworker htask
  have htold : (w.told settings action).bind CoordinatorEvent.ticket? = none := by
    cases hevent : w.told settings action with
    | none => rfl
    | some event => exact ticket_eq_none (sentBy_of_told hw.own hevent) hworker
  have hcapacities : w'.capacities = w.capacities := by
    obtain ⟨-, moved, send, hmove, rfl⟩ := World.taskStep_eq_some h
    rw [capacities_deliver, move_frame hmove]
    cases action with
    | queryWorker choice => exact absurd rfl hworker
    | _ => rfl
  constructor
  · constructor
    case own => exact hw.own.taskStep h
    case parked => exact parked_taskStep h hw.own hw.parked
    case capacities => exact hcapacities.trans hw.capacities
    case bounded => exact htasks ▸ hw.bounded
    case absent => exact hphase ▸ hw.absent
    case ended =>
      intro hended hrunning
      exact hw.ended (hphase ▸ hended) (running_of_taskStep h hrunning)
    case present =>
      intro hrunning
      exact htasks ▸ hw.present (running_of_taskStep h hrunning)
  · rw [World.waiting, World.waiting, hqueue, htasks, contents_taskStep h, List.filterMap_append,
      Option.filterMap_toList, htold, Option.toList_none, List.append_nil]

/-- The end of a query. -/
theorem QueryWorld.task (hw : QueryWorld settings w) {index : Nat}
    {response : Option QueryResponse} (hfaithful : Faithful w (.queryTask index response))
    (h : w.taskStep settings (.queryTask index response) = some w') :
    QueryWorld settings w' ∧ (w'.Running → w'.waiting.Perm w.waiting) := by
  have hown := hw.own.taskStep h
  have hparked := parked_taskStep h hw.own hw.parked
  have hbefore := @running_of_taskStep _ _ _ _ h
  obtain ⟨-, moved, send, hmove, rfl⟩ := World.taskStep_eq_some h
  obtain ⟨job, hjob, hended, rfl, rfl⟩ := moveQueryTask_cases hmove
  constructor
  · constructor
    case own => exact hown
    case parked => exact hparked
    case capacities => exact hw.capacities
    case bounded =>
      refine Nat.le_trans (Nat.le_of_eq ?_) hw.bounded
      exact List.length_set
    case absent => exact hw.absent
    case ended => exact fun hended hrunning => hw.ended hended (hbefore hrunning)
    case present =>
      intro hrunning task hmem
      rcases List.mem_or_eq_of_mem_set hmem with hmem | rfl
      · exact hw.present (hbefore hrunning) task hmem
      · rcases hended with hsome | hcancelled
        · simpa [QueryTask.ticket?] using hsome
        · exact absurd (hcancelled.symm.trans hrunning.1) nofun
  · intro hrunning
    have hticket : (QueryTask.done response).ticket? = (QueryTask.running job).ticket? := by
      cases response with
      | none =>
        rcases hended with hsome | hcancelled
        · cases hsome
        · exact absurd (hcancelled.symm.trans hrunning.1) nofun
      | some response =>
        have hresponse := hfaithful job (by rw [hjob]; rfl)
        simp [QueryTask.ticket?, hresponse]
    exact ((filterMap_set_perm hjob hticket).append_left _).append_right _

/-- A step of the query worker. -/
theorem QueryWorld.worker (hw : QueryWorld settings w) {choice : QueryWorkerChoice}
    (h : w.taskStep settings (.queryWorker choice) = some w') :
    QueryWorld settings w' ∧ (w'.Running → w'.waiting.Perm w.waiting) := by
  have hown := hw.own.taskStep h
  have hparked := parked_taskStep h hw.own hw.parked
  have hbefore := @running_of_taskStep _ _ _ _ h
  obtain ⟨-, moved, send, hmove, rfl⟩ := World.taskStep_eq_some h
  -- A worker that is being ended has no more promises to keep.
  have hstopped (hnot : ¬ (moved.deliver .queryWorker send).Running)
      (hcapacities : moved.capacities = w.capacities)
      (hbounded : moved.queryTasks.length ≤ settings.config.maxInFlightQueries)
      (habsent : moved.queryWorker ≠ .absent) :
      QueryWorld settings (moved.deliver .queryWorker send) ∧
        ((moved.deliver .queryWorker send).Running →
          (moved.deliver .queryWorker send).waiting.Perm w.waiting) := by
    refine ⟨⟨hown, hparked, ?_, ?_, ?_, fun _ => hnot, ?_⟩, ?_⟩
    · rw [capacities_deliver, hcapacities, hw.capacities]
    · rw [deliver_frame]
      exact hbounded
    · rw [deliver_frame]
      exact fun hphase => absurd hphase habsent
    · exact fun hrunning => absurd hrunning hnot
    · exact fun hrunning => absurd hrunning hnot
  rcases moveQueryWorker_cases hmove with ⟨hcancelled, hphase, rfl, rfl⟩ |
    ⟨index, response, hphase, htask, rfl, rfl⟩ | ⟨index, hphase, htask, rfl, rfl⟩ |
    ⟨job, channel, hphase, hroom, hrecv, rfl, rfl⟩ | ⟨hdropped, hphase, rfl, rfl⟩ |
    ⟨hphase, rfl, rfl⟩ | ⟨hphase, rfl, hended⟩
  · refine hstopped (fun hrunning => ?_) rfl hw.bounded nofun
    exact absurd (hcancelled.symm.trans hrunning.1) nofun
  · refine ⟨⟨hown, hparked, ?_, ?_, nofun, nofun, ?_⟩, fun _ => ?_⟩
    · rw [capacities_deliver]
      exact hw.capacities
    · exact Nat.le_trans (List.length_eraseIdx_le _ _) hw.bounded
    · intro hrunning task hmem
      exact hw.present (hbefore hrunning) task (List.mem_of_mem_eraseIdx hmem)
    · have hperm := filterMap_eraseIdx_perm htask
      rw [List.perm_iff_count] at hperm ⊢
      intro ticket
      have hcount := hperm ticket
      simp only [World.waiting, World.deliver, Channel.contents_send, List.filterMap_append,
        List.count_append] at hcount ⊢
      have htold : [CoordinatorEvent.queryCompleted response].filterMap
          CoordinatorEvent.ticket? = (QueryTask.done (some response)).ticket?.toList := rfl
      rw [htold]
      omega
  · refine hstopped (fun hrunning => ?_) rfl
      (Nat.le_trans (List.length_eraseIdx_le _ _) hw.bounded) ?_
    · have hsome := hw.present (hbefore hrunning) _ (List.mem_of_getElem? htask)
      cases hsome
    · show w.queryWorker ≠ .absent
      rw [hphase]
      nofun
  · refine ⟨⟨hown, hparked, ?_, ?_, ?_, ?_, ?_⟩, fun _ => ?_⟩
    · refine Eq.trans ?_ hw.capacities
      show (w.eventChannel.capacity, channel.capacity) = w.capacities
      rw [Channel.capacity_recv hrecv]
      rfl
    · show (w.queryTasks ++ [QueryTask.running job]).length ≤ _
      rw [List.length_append]
      exact hroom
    · exact hw.absent
    · exact fun hended hrunning => hw.ended hended (hbefore hrunning)
    · intro hrunning task hmem
      rcases List.mem_append.mp hmem with hmem | hmem
      · exact hw.present (hbefore hrunning) task hmem
      · rw [List.mem_singleton.mp hmem]
        rfl
    · rw [List.perm_iff_count]
      intro ticket
      simp only [World.waiting, World.deliver, Channel.contents_recv hrecv, List.filterMap_append,
        List.count_append, List.map_cons, List.count_cons, List.filterMap_cons,
        QueryTask.ticket?, List.filterMap_nil, List.count_nil]
      omega
  · refine hstopped (fun hrunning => ?_) rfl hw.bounded nofun
    exact absurd (hdropped.symm.trans hrunning.2) nofun
  · refine ⟨⟨hown, hparked, hw.capacities, hw.bounded, nofun, nofun, ?_⟩, fun _ => .refl _⟩
    exact fun hrunning => hw.present (hbefore hrunning)
  · have hnot : ¬ w.Running := hw.ended (by rw [hphase]; rfl)
    rcases hended with rfl | ⟨index, rfl⟩
    · exact hstopped (fun hrunning => hnot (hbefore hrunning)) rfl hw.bounded nofun
    · refine hstopped (fun hrunning => hnot (hbefore hrunning)) rfl
        (Nat.le_trans (List.length_eraseIdx_le _ _) hw.bounded) ?_
      show w.queryWorker ≠ .absent
      rw [hphase]
      nofun

end Worker
end OrbitRelay
