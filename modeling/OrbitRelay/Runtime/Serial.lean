import OrbitRelay.Runtime.CriticalSection

/-! Concurrent calls whose handlers look at no more than their scope covers: whatever the
interleaving, the world is what the dispatched batches make of it one after the other, each of
them decided on the very world it is dispatched to. -/
namespace OrbitRelay
open ExecutionPhase

namespace RuntimePorts
variable {W H ι : Type}

/-- A call whose `dispatch` has returned. -/
structure Commit (ι : Type) where
  call : ι
  events : List Event
  result : Except PipelineError Unit

/-- The commit of this moment. -/
def committedIn (moment : Moment ι H) : Option (Commit ι) :=
  match moment.exchange with
  | (.dispatching _ events, .dispatched result) => some ⟨moment.call, events, result⟩
  | _ => none

/-- The commits of a run, in the order of their `dispatch`. -/
def commits (log : List (Moment ι H)) : List (Commit ι) := log.filterMap committedIn

/-- The registered handler may name the scope for the action. -/
def NamesScope (ports : RuntimePorts W H) (handler : H) (action : Action)
    (scope : ExecutionScope) : Prop :=
  ports.registry action.actionType = some handler ∧
    ∃ world, ports.executionScope world handler action (.ok (some scope))

/-- The handler decides on the world, and the events are dispatched to it at once. -/
def Atomic (ports : RuntimePorts W H) (actions : ι → Action) (world : W) (commit : Commit ι)
    (world' : W) : Prop :=
  ∃ handler scope drafts stamp, ports.NamesScope handler (actions commit.call) scope ∧
    ports.handle world handler (actions commit.call) (.ok drafts) ∧
    commit.events = materialize (actions commit.call) drafts stamp ∧
    ports.dispatch world commit.events commit.result world'

/-- Handlers name a scope and decide by what it covers, and what they draft changes nothing that
another scope covers. Two worlds are the `same` for a scope. -/
structure Isolated (ports : RuntimePorts W H) (same : ExecutionScope → W → W → Prop) : Prop where
  named : ∀ {world handler action}, ports.registry action.actionType = some handler →
    ¬ ports.executionScope world handler action (.ok none)
  decides : ∀ {world world' handler action scope drafts}, ports.NamesScope handler action scope →
    same scope world world' → ports.handle world handler action (.ok drafts) →
    ports.handle world' handler action (.ok drafts)
  isolates : ∀ {world before after handler action scope drafts stamp result},
    ports.NamesScope handler action scope → ports.handle world handler action (.ok drafts) →
    ports.dispatch before (materialize action drafts stamp) result after →
    ∀ other, other ≠ scope → same other before after

/-- What a call has settled in each phase. In front of its `dispatch` its decision is valid on the
present world. -/
def Settled (ports : RuntimePorts W H) (action : Action) (world : W) : ExecutionPhase H → Prop
  | .validating handler | .authorizing handler | .scoping handler =>
    ports.registry action.actionType = some handler
  | .acquiring handler scope => ports.NamesScope handler action scope
  | .handling handler lease => ∃ scope, lease = some scope ∧ ports.NamesScope handler action scope
  | .dispatching lease events => ∃ handler scope drafts stamp, lease = some scope ∧
      ports.NamesScope handler action scope ∧ ports.handle world handler action (.ok drafts) ∧
      events = materialize action drafts stamp
  | .lookup | .releasing .. | .finished _ => True

section
variable {ports : RuntimePorts W H} {same : ExecutionScope → W → W → Prop}

theorem commits_snoc (log : List (Moment ι H)) (moment : Moment ι H) :
    commits (log ++ [moment]) = commits log ++ (committedIn moment).toList :=
  List.filterMap_snoc ..

/-- The mover's own step. -/
theorem Settled.advance (hports : ports.Isolated same) {action : Action}
    {leased : ExecutionScope → Prop} {world world' : W} {phase phase' : ExecutionPhase H}
    {answer : PortAnswer H} (h : ports.Settled action world phase)
    (hanswer : ports.Answers action leased world phase answer world')
    (hadvance : phase.advance action answer = some phase') :
    ports.Settled action world' phase' := by
  cases hanswer with
  | lookup =>
    cases hfound : ports.registry action.actionType with
    | none =>
      rw [hfound] at hadvance
      cases hadvance
      trivial
    | some handler =>
      rw [hfound] at hadvance
      cases hadvance
      exact hfound
  | @validate handler result _ | @authorize handler result _ =>
    cases result <;> cases hadvance
    · trivial
    · exact h
  | @scope handler result hscope =>
    rcases result with e | _ | scope
    · cases hadvance
      trivial
    · exact absurd hscope (hports.named h)
    · cases hadvance
      exact ⟨h, world, hscope⟩
  | uncoordinated _ | refuse _ _ =>
    cases hadvance
    trivial
  | @grant handler scope _ _ =>
    cases hadvance
    exact ⟨scope, rfl, h⟩
  | @handle handler lease result stamp hhandle =>
    obtain ⟨scope, hlease, hnames⟩ := h
    cases result with
    | error e =>
      cases hadvance
      trivial
    | ok drafts =>
      cases hadvance
      exact ⟨handler, scope, drafts, stamp, hlease, hnames, hhandle, rfl⟩
  | @dispatch lease events result _ _ =>
    cases result <;> cases hadvance <;> trivial
  | release =>
    cases hadvance
    trivial

/-- Only a `dispatch` changes the world, and not for calls under another lease. -/
theorem Settled.other (hports : ports.Isolated same) {action other : Action}
    {leased : ExecutionScope → Prop} {world world' : W} {phase phase' : ExecutionPhase H}
    {answer : PortAnswer H} (hmover : ports.Settled action world phase)
    (hanswer : ports.Answers action leased world phase answer world')
    (hlease : ∀ scope, phase.lease = some scope → phase'.lease ≠ some scope)
    (h : ports.Settled other world phase') : ports.Settled other world' phase' := by
  cases hanswer with
  | @dispatch lease events result _ hdispatch =>
    obtain ⟨handler, scope, drafts, stamp, rfl, hnames, hhandle, rfl⟩ := hmover
    cases phase' with
    | dispatching lease' events' =>
      obtain ⟨handler', scope', drafts', stamp', rfl, hnames', hhandle', rfl⟩ := h
      have hother : scope' ≠ scope := by
        rintro rfl
        exact hlease scope' rfl rfl
      have hsame := hports.isolates hnames hhandle hdispatch scope' hother
      exact ⟨handler', scope', drafts', stamp', rfl, hnames', hports.decides hnames' hsame hhandle',
        rfl⟩
    | _ => exact h
  | _ => exact h

/-- A moment is a commit on the present world, or it leaves the world alone. -/
theorem Settled.committed {actions : ι → Action} {call : ι} {leased : ExecutionScope → Prop}
    {world world' : W} {phase : ExecutionPhase H} {answer : PortAnswer H}
    (h : ports.Settled (actions call) world phase)
    (hanswer : ports.Answers (actions call) leased world phase answer world') :
    (committedIn ⟨call, phase, answer⟩ = none ∧ world' = world) ∨
      ∃ commit, committedIn ⟨call, phase, answer⟩ = some commit ∧
        ports.Atomic actions world commit world' := by
  cases hanswer with
  | @dispatch lease events result _ hdispatch =>
    obtain ⟨handler, scope, drafts, stamp, -, hnames, hhandle, hevents⟩ := h
    exact .inr ⟨⟨call, events, result⟩, rfl, handler, scope, drafts, stamp, hnames, hhandle, hevents,
      hdispatch⟩
  | _ => exact .inl ⟨rfl, rfl⟩

variable [DecidableEq ι] {actions : ι → Action} {start : W → Prop} {log : List (Moment ι H)}
  {calls : Calls ι W H}

theorem settled_of_run (hports : ports.Isolated same) (hrun : ports.Run actions start log calls) :
    ∀ i, ports.Settled (actions i) calls.world (calls.locals i) := by
  induction hrun with
  | init h =>
    intro i
    rw [h.2 i]
    trivial
  | @step log calls i answer world phase hrun hanswer hadvance ih =>
    have hself := (ih i).advance hports hanswer hadvance
    refine Transition.Network.forall_move
      (P := fun world j => ports.Settled (actions j) world) hself fun j hj => ?_
    apply Settled.other hports (ih i) hanswer _ (ih j)
    intro scope hi hj'
    exact hj (hrun.exclusive j i scope hj' hi)

/-- The world of a run is the result of its commits, one after the other. -/
theorem serial_of_run (hports : ports.Isolated same) (hrun : ports.Run actions start log calls) :
    ∃ world, start world ∧
      Transition.Serial (ports.Atomic actions) world (commits log) calls.world := by
  induction hrun with
  | @init calls h => exact ⟨calls.world, h.1, .start⟩
  | @step log calls i answer world' phase hrun hanswer hadvance ih =>
    obtain ⟨world, hstart, hserial⟩ := ih
    refine ⟨world, hstart, ?_⟩
    rw [commits_snoc, Transition.Network.move_world]
    rcases (settled_of_run hports hrun i).committed hanswer with ⟨hnone, rfl⟩ | ⟨commit, hsome, hatomic⟩
    · rw [hnone, Option.toList_none, List.append_nil]
      exact hserial
    · rw [hsome]
      exact hserial.step hatomic

/-- A call has committed only after its `dispatch`, and when it returns events it has committed
them. -/
def Committed (log : List (Moment ι H)) (i : ι) : ExecutionPhase H → Prop
  | .releasing _ (.ok events) | .finished (.ok events) => ⟨i, events, .ok ()⟩ ∈ commits log
  | .releasing _ (.error _) | .finished (.error _) => True
  | _ => ∀ commit ∈ commits log, commit.call ≠ i

omit [DecidableEq ι] in
theorem Committed.other {log : List (Moment ι H)} {moment : Moment ι H} {i : ι}
    {phase : ExecutionPhase H} (h : Committed log i phase) (hi : moment.call ≠ i) :
    Committed (log ++ [moment]) i phase := by
  have hkept : ∀ commit ∈ commits log, commit ∈ commits (log ++ [moment]) := by
    intro commit hmem
    rw [commits_snoc]
    exact List.mem_append_left _ hmem
  have hnone (hbefore : ∀ commit ∈ commits log, commit.call ≠ i) :
      ∀ commit ∈ commits (log ++ [moment]), commit.call ≠ i := by
    rw [commits_snoc]
    intro commit hmem
    rcases List.mem_append.mp hmem with hmem | hmem
    · exact hbefore commit hmem
    · have hcommit := Option.mem_toList.mp hmem
      unfold committedIn at hcommit
      split at hcommit <;> cases hcommit
      exact hi
  cases phase with
  | releasing lease result | finished result =>
    cases result with
    | ok events => exact hkept _ h
    | error e => trivial
  | _ => exact hnone h

omit [DecidableEq ι] in
/-- The mover commits when its `dispatch` returns, for the first time. -/
theorem Committed.advance {action : Action} {log : List (Moment ι H)} {i : ι}
    {phase phase' : ExecutionPhase H} {answer : PortAnswer H} (h : Committed log i phase)
    (hadvance : phase.advance action answer = some phase') :
    Committed (log ++ [⟨i, phase, answer⟩]) i phase' ∧
      ∀ commit, committedIn ⟨i, phase, answer⟩ = some commit →
        commit.call = i ∧ ∀ earlier ∈ commits log, earlier.call ≠ i := by
  have hquiet (hnone : committedIn ⟨i, phase, answer⟩ = none) :
      commits (log ++ [⟨i, phase, answer⟩]) = commits log := List.filterMap_snoc_none _ hnone
  unfold ExecutionPhase.advance at hadvance
  split at hadvance <;> cases hadvance
  case h_15 lease events e =>
    refine ⟨trivial, fun commit hcommit => ?_⟩
    cases hcommit
    exact ⟨rfl, h⟩
  case h_16 lease events =>
    constructor
    · show (⟨i, events, .ok ()⟩ : Commit ι) ∈ commits _
      rw [commits_snoc]
      exact List.mem_append_right _ (List.mem_singleton_self _)
    · intro commit hcommit
      cases hcommit
      exact ⟨rfl, h⟩
  case h_17 lease result =>
    refine ⟨?_, by intro commit hcommit; cases hcommit⟩
    cases result with
    | ok events =>
      show (⟨i, events, .ok ()⟩ : Commit ι) ∈ commits _
      rw [hquiet rfl]
      exact h
    | error e => trivial
  all_goals
    refine ⟨?_, by intro commit hcommit; cases hcommit⟩
    first
    | trivial
    | intro commit hmem
      rw [hquiet rfl] at hmem
      exact h commit hmem

theorem committed_of_run (hrun : ports.Run actions start log calls) :
    (∀ i, Committed log i (calls.locals i)) ∧ ((commits log).map Commit.call).Nodup := by
  induction hrun with
  | init h =>
    refine ⟨fun i => ?_, List.nodup_nil⟩
    rw [h.2 i]
    exact fun commit hmem => (List.not_mem_nil hmem).elim
  | @step log calls i answer world phase hrun hanswer hadvance ih =>
    obtain ⟨hcommitted, hnodup⟩ := ih
    obtain ⟨hself, hfirst⟩ := (hcommitted i).advance hadvance
    constructor
    · intro j
      by_cases hj : j = i
      · subst hj
        rw [calls.move_locals_self]
        exact hself
      · rw [calls.move_locals_of_ne hj]
        exact (hcommitted j).other (Ne.symm hj)
    · rw [commits_snoc, List.map_append]
      apply List.nodup_append.mpr
      refine ⟨hnodup, ?_, ?_⟩
      · cases committedIn ⟨i, calls.locals i, answer⟩ <;> simp
      · intro call hcall call' hcall' heq
        obtain ⟨commit, hcommit, rfl⟩ := List.mem_map.mp hcall'
        obtain ⟨earlier, hearlier, rfl⟩ := List.mem_map.mp hcall
        obtain ⟨hmover, hbefore⟩ := hfirst commit (Option.mem_toList.mp hcommit)
        exact hbefore earlier hearlier (heq.trans hmover)

end
end RuntimePorts
end OrbitRelay
