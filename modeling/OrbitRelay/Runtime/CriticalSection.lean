import OrbitRelay.Runtime.Execute

/-! The critical section of a scoped action. A run of concurrent calls is recorded port by port;
the record of one call is determined by the phase it is in. -/
namespace OrbitRelay

/-- What a call waited for, and the answer. -/
abbrev PortExchange (H : Type) := ExecutionPhase H × PortAnswer H

def PortAnswer.isError {H : Type} : PortAnswer H → Bool
  | .looked none | .validated (.error _) | .authorized (.error _) | .scoped (.error _)
  | .uncoordinated | .acquired (.error _) | .handled (.error _) _ | .dispatched (.error _) => true
  | _ => false

namespace ExecutionPhase
variable {H : Type}

/-- From the start of `handle` to the end of `dispatch`. -/
def InSection : ExecutionPhase H → Prop
  | handling .. | dispatching .. => True
  | _ => False

def isDispatching : ExecutionPhase H → Bool
  | dispatching .. => true
  | _ => false

/-- The exchanges of a validated and authorized call. -/
def approach (handler : H) : List (PortExchange H) :=
  [(lookup, .looked (some handler)), (validating handler, .validated (.ok ())),
    (authorizing handler, .authorized (.ok ()))]

/-- The exchanges before `handle`. -/
def opening (handler : H) : Option ExecutionScope → List (PortExchange H)
  | none => approach handler ++ [(scoping handler, .scoped (.ok none))]
  | some scope => approach handler ++ [(scoping handler, .scoped (.ok (some scope))),
      (acquiring handler scope, .acquired (.ok ()))]

/-- The exchanges of a call that is about to drop its lease. -/
inductive Handled (action : Action) (lease : Option ExecutionScope) :
    Except RuntimeError (List Event) → List (PortExchange H) → Prop
  | failed (handler : H) (e : HandlerError) (stamp : Nat → EventId × Timestamp) :
      Handled action lease (.error (.handlerFailed action.id e))
        (opening handler lease ++ [(handling handler lease, .handled (.error e) stamp)])
  | undispatched (handler : H) (drafts : List EventDraft) (stamp : Nat → EventId × Timestamp)
      (e : PipelineError) :
      Handled action lease (.error (.pipelineFailed action.id e))
        (opening handler lease ++ [(handling handler lease, .handled (.ok drafts) stamp),
          (dispatching lease (materialize action drafts stamp), .dispatched (.error e))])
  | dispatched (handler : H) (drafts : List EventDraft) (stamp : Nat → EventId × Timestamp) :
      Handled action lease (.ok (materialize action drafts stamp))
        (opening handler lease ++ [(handling handler lease, .handled (.ok drafts) stamp),
          (dispatching lease (materialize action drafts stamp), .dispatched (.ok ()))])

/-- The exchanges of a call that failed before its `handle`. -/
inductive Refused (action : Action) : RuntimeError → List (PortExchange H) → Prop
  | unknown : Refused action (.handlerNotFound action.actionType) [(lookup, .looked none)]
  | invalid (handler : H) (e : HandlerError) : Refused action (.validationFailed action.id e)
      ((approach handler).take 1 ++ [(validating handler, .validated (.error e))])
  | unauthorized (handler : H) (e : AuthorizationError) :
      Refused action (.authorizationFailed action.id e)
        ((approach handler).take 2 ++ [(authorizing handler, .authorized (.error e))])
  | unscoped (handler : H) (e : HandlerError) : Refused action (.handlerFailed action.id e)
      (approach handler ++ [(scoping handler, .scoped (.error e))])
  | uncoordinated (handler : H) (scope : ExecutionScope) :
      Refused action (.coordinationUnavailable action.id scope)
        (approach handler ++ [(scoping handler, .scoped (.ok (some scope))),
          (acquiring handler scope, .uncoordinated)])
  | unleased (handler : H) (scope : ExecutionScope) (e : ExecutionCoordinationError) :
      Refused action (.coordinationFailed action.id scope e)
        (approach handler ++ [(scoping handler, .scoped (.ok (some scope))),
          (acquiring handler scope, .acquired (.error e))])

/-- The exchanges of a call in the phase. -/
def Trail (action : Action) : ExecutionPhase H → List (PortExchange H) → Prop
  | lookup, h => h = []
  | validating handler, h => h = (approach handler).take 1
  | authorizing handler, h => h = (approach handler).take 2
  | scoping handler, h => h = approach handler
  | acquiring handler scope, h =>
    h = approach handler ++ [(scoping handler, .scoped (.ok (some scope)))]
  | handling handler lease, h => h = opening handler lease
  | dispatching lease events, h => ∃ handler drafts stamp,
      h = opening handler lease ++ [(handling handler lease, .handled (.ok drafts) stamp)] ∧
      events = materialize action drafts stamp
  | releasing lease result, h => Handled action lease result h
  | finished result, h => (∃ e, result = .error e ∧ Refused action e h) ∨
      ∃ lease front, h = front ++ [(releasing lease result, .released)] ∧
        Handled action lease result front

theorem Trail.advance {action : Action} {phase phase' : ExecutionPhase H} {answer : PortAnswer H}
    {h : List (PortExchange H)} (htrail : Trail action phase h)
    (hadvance : phase.advance action answer = some phase') :
    Trail action phase' (h ++ [(phase, answer)]) := by
  unfold ExecutionPhase.advance at hadvance
  split at hadvance <;> cases hadvance
  case h_1 =>
    cases htrail
    exact .inl ⟨_, rfl, .unknown⟩
  case h_3 handler e =>
    cases htrail
    exact .inl ⟨_, rfl, .invalid handler e⟩
  case h_5 handler e =>
    cases htrail
    exact .inl ⟨_, rfl, .unauthorized handler e⟩
  case h_7 handler e =>
    cases htrail
    exact .inl ⟨_, rfl, .unscoped handler e⟩
  case h_10 handler scope =>
    cases htrail
    exact .inl ⟨_, rfl, .uncoordinated handler scope⟩
  case h_11 handler scope e =>
    cases htrail
    exact .inl ⟨_, rfl, .unleased handler scope e⟩
  case h_13 handler lease e stamp =>
    cases htrail
    exact .failed handler e stamp
  case h_14 handler lease drafts stamp =>
    cases htrail
    exact ⟨handler, drafts, stamp, rfl, rfl⟩
  case h_15 lease events e =>
    obtain ⟨handler, drafts, stamp, rfl, rfl⟩ := htrail
    rw [List.append_assoc]
    exact .undispatched handler drafts stamp e
  case h_16 lease events =>
    obtain ⟨handler, drafts, stamp, rfl, rfl⟩ := htrail
    rw [List.append_assoc]
    exact .dispatched handler drafts stamp
  case h_17 lease result => exact .inr ⟨lease, h, rfl, htrail⟩
  -- The calls that go on towards `handle`.
  all_goals
    cases htrail
    rfl

section Records
variable {action : Action} {handler : H} {lease : Option ExecutionScope}
  {h : List (PortExchange H)}

theorem isError_opening : ∀ x ∈ opening handler lease, x.2.isError = false := by
  intro x hx
  cases lease <;> simp only [opening, approach, List.cons_append, List.nil_append,
    List.mem_cons, List.not_mem_nil, or_false] at hx
  · rcases hx with rfl | rfl | rfl | rfl <;> rfl
  · rcases hx with rfl | rfl | rfl | rfl | rfl <;> rfl

theorem countP_opening : (opening handler lease).countP (fun x => x.1.isDispatching) = 0 := by
  cases lease <;> rfl

/-- The lease before `handle` is the one of the scope that was named, and it was acquired. -/
theorem scope_of_mem_opening {handler' : H} {scope : ExecutionScope}
    (hmem : (scoping handler', .scoped (.ok (some scope))) ∈ opening handler lease) :
    lease = some scope ∧
      (acquiring handler scope, .acquired (.ok ())) ∈ opening handler lease := by
  cases lease with
  | none => simp [opening, approach] at hmem
  | some leased =>
    obtain ⟨-, rfl⟩ : handler' = handler ∧ scope = leased := by
      simpa [opening, approach] using hmem
    exact ⟨rfl, by simp [opening]⟩

theorem lease_of_mem_opening {handler' : H} {scope : ExecutionScope}
    (hmem : (acquiring handler' scope, .acquired (.ok ())) ∈ opening handler lease) :
    lease = some scope := by
  cases lease with
  | none => simp [opening, approach] at hmem
  | some leased =>
    obtain ⟨-, rfl⟩ : handler' = handler ∧ scope = leased := by
      simpa [opening, approach] using hmem
    rfl

/-- A call in its section: what it has behind it. -/
structure Admitted (handler : H) (lease : Option ExecutionScope) (h : List (PortExchange H)) :
    Prop where
  validated : (validating handler, .validated (.ok ())) ∈ h
  authorized : (authorizing handler, .authorized (.ok ())) ∈ h
  leased : ∀ handler' scope, (scoping handler', .scoped (.ok (some scope))) ∈ h →
    lease = some scope ∧ (acquiring handler scope, .acquired (.ok ())) ∈ h
  noError : ∀ x ∈ h, x.2.isError = false

theorem admitted_opening : Admitted handler lease (opening handler lease) where
  validated := by cases lease <;> simp [opening, approach]
  authorized := by cases lease <;> simp [opening, approach]
  leased _ _ hmem := scope_of_mem_opening hmem
  noError := isError_opening

theorem Trail.admitted {phase : ExecutionPhase H} (htrail : Trail action phase h)
    (hsection : phase.InSection) : ∃ handler, Admitted handler phase.lease h := by
  cases phase with
  | handling handler lease =>
    cases htrail
    exact ⟨handler, admitted_opening⟩
  | dispatching lease events =>
    obtain ⟨handler, drafts, stamp, rfl, -⟩ := htrail
    obtain ⟨hvalidated, hauthorized, hleased, hnoError⟩ :=
      @admitted_opening _ handler lease
    refine ⟨handler, ?_, ?_, ?_, ?_⟩
    · exact List.mem_append_left _ hvalidated
    · exact List.mem_append_left _ hauthorized
    · intro handler' scope hmem
      rcases List.mem_append.mp hmem with hmem | hmem
      · exact (hleased _ _ hmem).imp_right (List.mem_append_left _)
      · simp at hmem
    · intro x hx
      rcases List.mem_append.mp hx with hx | hx
      · exact hnoError x hx
      · cases List.mem_singleton.mp hx
        rfl
  | _ => exact hsection.elim

/-- How often `dispatch` was called. -/
def dispatchCalls (phase : ExecutionPhase H) (h : List (PortExchange H)) : Nat :=
  h.countP (fun x => x.1.isDispatching) + if phase.isDispatching then 1 else 0

theorem Handled.countP_le {result : Except RuntimeError (List Event)}
    (hhandled : Handled action lease result h) : h.countP (fun x => x.1.isDispatching) ≤ 1 := by
  cases hhandled <;> rw [List.countP_append, countP_opening]
  · exact Nat.zero_le 1
  · exact Nat.le_refl 1
  · exact Nat.le_refl 1

theorem Refused.countP_eq {e : RuntimeError} (hrefused : Refused action e h) :
    h.countP (fun x => x.1.isDispatching) = 0 := by
  cases hrefused <;> rfl

theorem Trail.dispatchCalls_le {phase : ExecutionPhase H} (htrail : Trail action phase h) :
    phase.dispatchCalls h ≤ 1 := by
  unfold dispatchCalls
  cases phase with
  | handling handler lease =>
    cases htrail
    rw [countP_opening]
    exact Nat.zero_le 1
  | dispatching lease events =>
    obtain ⟨handler, drafts, stamp, rfl, -⟩ := htrail
    rw [List.countP_append, countP_opening]
    exact Nat.le_refl 1
  | releasing lease result => exact Handled.countP_le htrail
  | finished result =>
    rcases htrail with ⟨e, -, hrefused⟩ | ⟨lease, front, rfl, hhandled⟩
    · rw [hrefused.countP_eq]
      exact Nat.zero_le 1
    · rw [List.countP_append]
      exact hhandled.countP_le
  | _ =>
    cases htrail
    simp [approach, isDispatching]

theorem Refused.not_acquired {e : RuntimeError} (hrefused : Refused action e h) {handler : H}
    {scope : ExecutionScope} : (acquiring handler scope, .acquired (.ok ())) ∉ h := by
  cases hrefused <;> simp [approach]

theorem Handled.lease_eq {result : Except RuntimeError (List Event)}
    (hhandled : Handled action lease result h) {handler : H} {scope : ExecutionScope}
    (hmem : (acquiring handler scope, .acquired (.ok ())) ∈ h) : lease = some scope := by
  cases hhandled <;> rcases List.mem_append.mp hmem with hmem | hmem
  all_goals first
    | exact lease_of_mem_opening hmem
    | simp at hmem

/-- A call that returned gave back what it had acquired. -/
theorem Trail.released {result : Except RuntimeError (List Event)}
    (htrail : Trail action (finished result) h) {handler : H} {scope : ExecutionScope}
    (hmem : (acquiring handler scope, .acquired (.ok ())) ∈ h) :
    ∃ front, h = front ++ [(releasing (some scope) result, .released)] := by
  rcases htrail with ⟨e, -, hrefused⟩ | ⟨lease, front, rfl, hhandled⟩
  · exact absurd hmem hrefused.not_acquired
  · have hfront : (acquiring handler scope, .acquired (.ok ())) ∈ front := by
      rcases List.mem_append.mp hmem with hmem | hmem
      · exact hmem
      · simp at hmem
    rw [hhandled.lease_eq hfront]
    exact ⟨front, rfl⟩

/-- A call that returned events dispatched them, and built them from its drafts. -/
theorem Trail.dispatched {events : List Event} (htrail : Trail action (finished (.ok events)) h) :
    ∃ handler lease drafts stamp, (handling handler lease, .handled (.ok drafts) stamp) ∈ h ∧
      (dispatching lease events, .dispatched (.ok ())) ∈ h ∧
      events = materialize action drafts stamp := by
  rcases htrail with ⟨e, heq, -⟩ | ⟨lease, front, rfl, hhandled⟩
  · cases heq
  · cases hhandled with
    | dispatched handler drafts stamp =>
      refine ⟨handler, lease, drafts, stamp, ?_, ?_, rfl⟩ <;> simp

end Records

end ExecutionPhase

namespace RuntimePorts
variable {W H ι : Type} [DecidableEq ι]

/-- One exchange of one of the calls. -/
structure Moment (ι H : Type) where
  call : ι
  exchange : PortExchange H

/-- The runs of the calls, with what happened in which order. -/
inductive Run (ports : RuntimePorts W H) (actions : ι → Action) (start : W → Prop) :
    List (Moment ι H) → Calls ι W H → Prop
  | init {calls : Calls ι W H} (h : (ports.system actions start).init calls) :
      Run ports actions start [] calls
  | step {log : List (Moment ι H)} {calls : Calls ι W H} {i : ι} {answer : PortAnswer H} {world : W}
      {phase : ExecutionPhase H} (hrun : Run ports actions start log calls)
      (hanswer : ports.Answers (actions i) (Leased calls) calls.world (calls.locals i) answer world)
      (hadvance : (calls.locals i).advance (actions i) answer = some phase) :
      Run ports actions start (log ++ [⟨i, calls.locals i, answer⟩]) (calls.move i world phase)

/-- The exchanges of one call. -/
def history (log : List (Moment ι H)) (i : ι) : List (PortExchange H) :=
  (log.filter fun m => m.call = i).map Moment.exchange

/-- The handler of the call named the scope. -/
def Names (log : List (Moment ι H)) (i : ι) (scope : ExecutionScope) : Prop :=
  ∃ handler, (.scoping handler, .scoped (.ok (some scope))) ∈ history log i

section Runs
variable {ports : RuntimePorts W H} {actions : ι → Action} {start : W → Prop}
  {log : List (Moment ι H)} {calls : Calls ι W H}

theorem history_snoc_self (i : ι) (x : PortExchange H) :
    history (log ++ [⟨i, x⟩]) i = history log i ++ [x] := by
  simp [history]

theorem history_snoc_of_ne {i j : ι} (hj : j ≠ i) (x : PortExchange H) :
    history (log ++ [⟨i, x⟩]) j = history log j := by
  simp [history, hj.symm]

theorem Run.reachable (hrun : ports.Run actions start log calls) :
    (ports.system actions start).Reachable calls := by
  induction hrun with
  | init h => exact .init h
  | step _ hanswer hadvance ih => exact ih.step ⟨_, _, _, _, hanswer, hadvance, rfl⟩

theorem Run.trail (hrun : ports.Run actions start log calls) (i : ι) :
    (calls.locals i).Trail (actions i) (history log i) := by
  induction hrun with
  | init h =>
    rw [h.2 i]
    rfl
  | @step log calls j answer world phase _ _ hadvance ih =>
    by_cases hij : i = j
    · subst hij
      rw [history_snoc_self, calls.move_locals_self]
      exact ih.advance hadvance
    · rw [history_snoc_of_ne hij, calls.move_locals_of_ne hij]
      exact ih

theorem Answers.coordinated {action : Action} {leased : ExecutionScope → Prop} {world world' : W}
    {phase : ExecutionPhase H}
    (h : ports.Answers action leased world phase (.acquired (.ok ())) world') :
    ports.coordinated = true := by
  cases h with
  | grant h _ => exact h

/-- Leases come from a coordinator. -/
theorem Run.coordinated (hrun : ports.Run actions start log calls) {i : ι}
    {phase : ExecutionPhase H} (hmem : (phase, .acquired (.ok ())) ∈ history log i) :
    ports.coordinated = true := by
  induction hrun with
  | init _ => cases hmem
  | @step log calls j answer world _ _ hanswer _ ih =>
    by_cases hij : i = j
    · subst hij
      rw [history_snoc_self] at hmem
      rcases List.mem_append.mp hmem with hmem | hmem
      · exact ih hmem
      · obtain ⟨-, rfl⟩ := Prod.mk.inj (List.mem_singleton.mp hmem)
        exact hanswer.coordinated
    · rw [history_snoc_of_ne hij] at hmem
      exact ih hmem

theorem Run.exclusive (hrun : ports.Run actions start log calls) : Exclusive calls :=
  hrun.reachable.invariant (fun _ h => .of_init h) fun _ _ h hstep => h.step hstep

/-- Scoped actions run in a critical section, and the runtime fails closed, in every state of
every run: calls in their section with equal scopes are one call; a call in its section was
validated and authorized and holds the lease of the scope that its handler named; `dispatch` is
called at most once and not after an error; a call that returned gave its lease back; and the
events it returned are those it dispatched, one for each draft. -/
theorem scoped_actions_in_critical_sections (ports : RuntimePorts W H) (actions : ι → Action)
    (start : W → Prop) (log : List (Moment ι H)) (calls : Calls ι W H)
    (hrun : ports.Run actions start log calls) :
    (∀ i j scope, Names log i scope → Names log j scope → (calls.locals i).InSection →
      (calls.locals j).InSection → i = j) ∧
    (∀ i, (calls.locals i).InSection →
      ∃ handler, (.validating handler, .validated (.ok ())) ∈ history log i ∧
        (.authorizing handler, .authorized (.ok ())) ∈ history log i ∧
        ∀ scope, Names log i scope → ports.coordinated = true ∧
          (.acquiring handler scope, .acquired (.ok ())) ∈ history log i ∧
          (calls.locals i).lease = some scope) ∧
    (∀ i, (calls.locals i).dispatchCalls (history log i) ≤ 1 ∧
      ((calls.locals i).isDispatching = true → ∀ x ∈ history log i, x.2.isError = false)) ∧
    (∀ i result, calls.locals i = .finished result → ∀ handler scope,
      (.acquiring handler scope, .acquired (.ok ())) ∈ history log i →
        ∃ front, history log i = front ++ [(.releasing (some scope) result, .released)]) ∧
    (∀ i events, calls.locals i = .finished (.ok events) →
      ∃ handler lease drafts stamp,
        (.handling handler lease, .handled (.ok drafts) stamp) ∈ history log i ∧
        (.dispatching lease events, .dispatched (.ok ())) ∈ history log i ∧
        events.length = drafts.length ∧
        ∀ (k : Nat) (draft : EventDraft) (event : Event), drafts[k]? = some draft →
          events[k]? = some event →
          event = draft.toEvent (actions i) (stamp k).1 (stamp k).2 ∧
          event.sessionId = (actions i).sessionId ∧ event.actorId = (actions i).actorId ∧
          event.actionId = (actions i).id) := by
  have hnames (i : ι) (scope : ExecutionScope) (hscope : Names log i scope)
      (hsection : (calls.locals i).InSection) : (calls.locals i).lease = some scope := by
    obtain ⟨handler', hmem⟩ := hscope
    obtain ⟨handler, hadmitted⟩ := (hrun.trail i).admitted hsection
    exact (hadmitted.leased handler' scope hmem).1
  refine ⟨?_, ?_, ?_, ?_, ?_⟩
  · intro i j scope hi hj hsectioni hsectionj
    exact hrun.exclusive i j scope (hnames i scope hi hsectioni) (hnames j scope hj hsectionj)
  · intro i hsection
    obtain ⟨handler, hadmitted⟩ := (hrun.trail i).admitted hsection
    refine ⟨handler, hadmitted.validated, hadmitted.authorized, fun scope hscope => ?_⟩
    obtain ⟨handler', hmem⟩ := hscope
    obtain ⟨hlease, hacquired⟩ := hadmitted.leased handler' scope hmem
    exact ⟨hrun.coordinated hacquired, hacquired, hlease⟩
  · intro i
    refine ⟨(hrun.trail i).dispatchCalls_le, fun hdispatching => ?_⟩
    have hsection : (calls.locals i).InSection := by
      cases hphase : calls.locals i with
      | dispatching lease events => trivial
      | _ =>
        rw [hphase] at hdispatching
        cases hdispatching
    obtain ⟨handler, hadmitted⟩ := (hrun.trail i).admitted hsection
    exact hadmitted.noError
  · intro i result hfinished handler scope hmem
    have htrail := hrun.trail i
    rw [hfinished] at htrail
    exact htrail.released hmem
  · intro i events hfinished
    have htrail := hrun.trail i
    rw [hfinished] at htrail
    obtain ⟨handler, lease, drafts, stamp, hhandled, hdispatched, hevents⟩ := htrail.dispatched
    refine ⟨handler, lease, drafts, stamp, hhandled, hdispatched, ?_, ?_⟩
    · rw [hevents]
      exact List.length_mapIdx
    · intro k draft event hdraft hevent
      have hbuilt : some (draft.toEvent (actions i) (stamp k).1 (stamp k).2) = some event := by
        rw [← hevent, hevents, ExecutionPhase.materialize, List.getElem?_mapIdx, hdraft]
        rfl
      obtain rfl := Option.some.inj hbuilt
      exact ⟨rfl, rfl, rfl, rfl⟩

end Runs

/-- One handler for every action type, which names one scope and drafts one event. -/
def samplePorts : RuntimePorts (List Event) Unit where
  registry _ := some ()
  validate _ _ _ result := result = .ok ()
  authorize _ _ result := result = .ok ()
  executionScope _ _ _ result := result = .ok (some ⟨"canvas", "1"⟩)
  coordinated := true
  handle _ _ _ result := result = .ok [⟨⟨"drawn"⟩, ⟨[]⟩, ⟨[]⟩⟩]
  dispatch before events result after := result = .ok () ∧ after = before ++ events

def sampleAction : Action where
  id := ⟨⟨⟨.replicate 16 1⟩⟩⟩
  sessionId := ⟨⟨⟨.replicate 16 2⟩⟩⟩
  actorId := ⟨⟨⟨.replicate 16 3⟩⟩⟩
  actionType := ⟨"draw"⟩
  requestedAt := ⟨0⟩
  payload := ⟨[]⟩
  metadata := ⟨[]⟩

/-- Two calls for one scope: one is in its section while the other waits for the lease. -/
theorem scoped_actions_in_critical_sections_sample :
    ∃ (log : List (Moment Bool Unit)) (calls : Calls Bool (List Event) Unit),
      samplePorts.Run (fun _ => sampleAction) (fun _ => True) log calls ∧
      calls.locals true = .handling () (some ⟨"canvas", "1"⟩) ∧
      calls.locals false = .acquiring () ⟨"canvas", "1"⟩ ∧
      ∃ handler, (.authorizing handler, .authorized (.ok ())) ∈ history log true := by
  have hstart : samplePorts.Run (fun _ : Bool => sampleAction) (fun _ => True) []
      ⟨[], fun _ => .lookup⟩ := .init ⟨trivial, fun _ => rfl⟩
  have htrue1 := @Run.step _ _ _ _ _ _ _ _ _ true _ _ _ hstart .lookup rfl
  have htrue2 := @Run.step _ _ _ _ _ _ _ _ _ true _ _ _ htrue1 (.validate rfl) rfl
  have htrue3 := @Run.step _ _ _ _ _ _ _ _ _ true _ _ _ htrue2 (.authorize rfl) rfl
  have htrue4 := @Run.step _ _ _ _ _ _ _ _ _ true _ _ _ htrue3 (.scope rfl) rfl
  have hfalse1 := @Run.step _ _ _ _ _ _ _ _ _ false _ _ _ htrue4 .lookup rfl
  have hfalse2 := @Run.step _ _ _ _ _ _ _ _ _ false _ _ _ hfalse1 (.validate rfl) rfl
  have hfalse3 := @Run.step _ _ _ _ _ _ _ _ _ false _ _ _ hfalse2 (.authorize rfl) rfl
  have hfalse4 := @Run.step _ _ _ _ _ _ _ _ _ false _ _ _ hfalse3 (.scope rfl) rfl
  have hgranted := @Run.step _ _ _ _ _ _ _ _ _ true _ _ _ hfalse4
    (.grant rfl fun ⟨i, hlease⟩ => by cases i <;> cases hlease) rfl
  obtain ⟨-, hadmitted, -⟩ := scoped_actions_in_critical_sections _ _ _ _ _ hgranted
  obtain ⟨handler, -, hauthorized, -⟩ := hadmitted true trivial
  exact ⟨_, _, hgranted, rfl, rfl, handler, hauthorized⟩

end RuntimePorts
end OrbitRelay
