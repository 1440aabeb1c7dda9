import OrbitRelay.Lib.Transition
import OrbitRelay.Runtime.Basic

/-! Concurrent `Runtime::execute` calls. One call is a machine whose phases are the points
where it waits for a port; `advance` is the code between two waits. The ports answer in any
way they allow, and calls interleave at every phase. -/
namespace OrbitRelay

/-- Where one call is. From `handling` to `releasing` it holds its lease, if it has one. -/
inductive ExecutionPhase (H : Type)
  | lookup
  | validating (handler : H)
  | authorizing (handler : H)
  | scoping (handler : H)
  | acquiring (handler : H) (scope : ExecutionScope)
  | handling (handler : H) (lease : Option ExecutionScope)
  | dispatching (lease : Option ExecutionScope) (events : List Event)
  | releasing (lease : Option ExecutionScope) (result : Except RuntimeError (List Event))
  | finished (result : Except RuntimeError (List Event))

/-- What a port answers to a waiting call. -/
inductive PortAnswer (H : Type)
  | looked (handler : Option H)
  | validated (result : Except HandlerError Unit)
  | authorized (result : Except AuthorizationError Unit)
  | scoped (result : Except HandlerError (Option ExecutionScope))
  | uncoordinated
  | acquired (result : Except ExecutionCoordinationError Unit)
  | handled (result : Except HandlerError (List EventDraft)) (stamp : Nat → EventId × Timestamp)
  | dispatched (result : Except PipelineError Unit)
  | released

namespace ExecutionPhase
variable {H : Type}

/-- The lease that the call holds. -/
def lease : ExecutionPhase H → Option ExecutionScope
  | handling _ lease | dispatching lease _ | releasing lease _ => lease
  | _ => none

/-- The events of the drafts, in draft order, each with its own identity and time. -/
def materialize (action : Action) (drafts : List EventDraft) (stamp : Nat → EventId × Timestamp) :
    List Event :=
  drafts.mapIdx fun i draft => draft.toEvent action (stamp i).1 (stamp i).2

/-- `Runtime::execute` from one wait to the next. Every error that occurs under a lease
returns through `releasing`, which stands for dropping the lease on return. -/
def advance (action : Action) : ExecutionPhase H → PortAnswer H → Option (ExecutionPhase H)
  | lookup, .looked none => some (finished (.error (.handlerNotFound action.actionType)))
  | lookup, .looked (some handler) => some (validating handler)
  | validating _, .validated (.error e) => some (finished (.error (.validationFailed action.id e)))
  | validating handler, .validated (.ok ()) => some (authorizing handler)
  | authorizing _, .authorized (.error e) =>
    some (finished (.error (.authorizationFailed action.id e)))
  | authorizing handler, .authorized (.ok ()) => some (scoping handler)
  | scoping _, .scoped (.error e) => some (finished (.error (.handlerFailed action.id e)))
  | scoping handler, .scoped (.ok (some scope)) => some (acquiring handler scope)
  | scoping handler, .scoped (.ok none) => some (handling handler none)
  | acquiring _ scope, .uncoordinated =>
    some (finished (.error (.coordinationUnavailable action.id scope)))
  | acquiring _ scope, .acquired (.error e) =>
    some (finished (.error (.coordinationFailed action.id scope e)))
  | acquiring handler scope, .acquired (.ok ()) => some (handling handler (some scope))
  | handling _ lease, .handled (.error e) _ =>
    some (releasing lease (.error (.handlerFailed action.id e)))
  | handling _ lease, .handled (.ok drafts) stamp =>
    some (dispatching lease (materialize action drafts stamp))
  | dispatching lease _, .dispatched (.error e) =>
    some (releasing lease (.error (.pipelineFailed action.id e)))
  | dispatching lease events, .dispatched (.ok ()) => some (releasing lease (.ok events))
  | releasing _ result, .released => some (finished result)
  | _, _ => none

end ExecutionPhase

/-- What the ports of a runtime may answer in a world; only the pipeline changes the world. -/
structure RuntimePorts (W H : Type) where
  registry : HandlerRegistry H
  validate : W → H → Action → Except HandlerError Unit → Prop
  authorize : W → Action → Except AuthorizationError Unit → Prop
  executionScope : W → H → Action → Except HandlerError (Option ExecutionScope) → Prop
  coordinated : Bool
  handle : W → H → Action → Except HandlerError (List EventDraft) → Prop
  dispatch : W → List Event → Except PipelineError Unit → W → Prop

namespace RuntimePorts
variable {W H ι : Type}

/-- The answers that a call in the phase may get; a scope is leased to one holder at a time. -/
inductive Answers (ports : RuntimePorts W H) (action : Action) (leased : ExecutionScope → Prop)
    (world : W) : ExecutionPhase H → PortAnswer H → W → Prop
  | lookup : Answers ports action leased world .lookup
      (.looked (ports.registry action.actionType)) world
  | validate {handler result} (h : ports.validate world handler action result) :
      Answers ports action leased world (.validating handler) (.validated result) world
  | authorize {handler result} (h : ports.authorize world action result) :
      Answers ports action leased world (.authorizing handler) (.authorized result) world
  | scope {handler result} (h : ports.executionScope world handler action result) :
      Answers ports action leased world (.scoping handler) (.scoped result) world
  | uncoordinated {handler scope} (h : ports.coordinated = false) :
      Answers ports action leased world (.acquiring handler scope) .uncoordinated world
  | refuse {handler scope} (e : ExecutionCoordinationError) (h : ports.coordinated = true) :
      Answers ports action leased world (.acquiring handler scope) (.acquired (.error e)) world
  | grant {handler scope} (h : ports.coordinated = true) (hfree : ¬ leased scope) :
      Answers ports action leased world (.acquiring handler scope) (.acquired (.ok ())) world
  | handle {handler lease result} (stamp : Nat → EventId × Timestamp)
      (h : ports.handle world handler action result) :
      Answers ports action leased world (.handling handler lease) (.handled result stamp) world
  | dispatch {lease events result world'} (h : ports.dispatch world events result world') :
      Answers ports action leased world (.dispatching lease events) (.dispatched result) world'
  | release {lease result} :
      Answers ports action leased world (.releasing lease result) .released world

/-- The calls, one per action, over the shared world. -/
abbrev Calls (ι W H : Type) := Transition.Network ι W (ExecutionPhase H)

/-- Some call holds a lease for the scope. -/
def Leased (calls : Calls ι W H) (scope : ExecutionScope) : Prop :=
  ∃ j, (calls.locals j).lease = some scope

/-- Any number of concurrent calls from worlds that satisfy `start`. -/
def system [DecidableEq ι] (ports : RuntimePorts W H) (actions : ι → Action) (start : W → Prop) :
    Transition.System (Calls ι W H) where
  init calls := start calls.world ∧ ∀ i, calls.locals i = .lookup
  step calls calls' := ∃ i answer world phase,
    ports.Answers (actions i) (Leased calls) calls.world (calls.locals i) answer world ∧
    (calls.locals i).advance (actions i) answer = some phase ∧ calls' = calls.move i world phase

/-- A step keeps the mover's lease, gives it up, or takes one that nobody holds. -/
theorem Answers.lease_advance {ports : RuntimePorts W H} {action : Action}
    {leased : ExecutionScope → Prop} {world world' : W} {phase phase' : ExecutionPhase H}
    {answer : PortAnswer H} (h : ports.Answers action leased world phase answer world')
    (hadvance : phase.advance action answer = some phase') :
    phase'.lease = phase.lease ∨ phase'.lease = none ∨
      ∃ scope, phase'.lease = some scope ∧ ¬ leased scope := by
  cases h with
  | lookup =>
    cases hfound : ports.registry action.actionType <;> rw [hfound] at hadvance <;>
      cases hadvance <;> exact .inl rfl
  | @validate _ result _ | @authorize _ result _ =>
    cases result <;> cases hadvance <;> exact .inl rfl
  | @scope _ result _ =>
    rcases result with e | _ | scope <;> cases hadvance <;> exact .inl rfl
  | uncoordinated _ | refuse _ _ =>
    cases hadvance
    exact .inl rfl
  | @grant _ scope _ hfree =>
    cases hadvance
    exact .inr (.inr ⟨scope, rfl, hfree⟩)
  | @handle _ _ result _ _ | @dispatch _ _ result _ _ =>
    cases result <;> cases hadvance <;> exact .inl rfl
  | release =>
    cases hadvance
    exact .inr (.inl rfl)

/-- No scope is leased to two calls. -/
def Exclusive (calls : Calls ι W H) : Prop :=
  ∀ i j scope, (calls.locals i).lease = some scope → (calls.locals j).lease = some scope → i = j

variable [DecidableEq ι] {ports : RuntimePorts W H} {actions : ι → Action} {start : W → Prop}

theorem Exclusive.step {calls calls' : Calls ι W H} (h : Exclusive calls)
    (hstep : (ports.system actions start).step calls calls') : Exclusive calls' := by
  obtain ⟨i, answer, world, phase, hanswer, hadvance, rfl⟩ := hstep
  -- It is enough to compare the mover with another call; the others did not change.
  have hmover (j : ι) (hj : j ≠ i) (scope : ExecutionScope) (hi : phase.lease = some scope) :
      (calls.locals j).lease ≠ some scope := by
    intro hlease
    rcases hanswer.lease_advance hadvance with hkept | hnone | ⟨fresh, hfresh, hfree⟩
    · exact hj (h j i scope hlease (hkept ▸ hi))
    · rw [hnone] at hi
      cases hi
    · obtain rfl : fresh = scope := Option.some.inj (hfresh.symm.trans hi)
      exact hfree ⟨j, hlease⟩
  intro a b scope ha hb
  by_cases hai : a = i <;> by_cases hbi : b = i
  · rw [hai, hbi]
  · subst hai
    rw [calls.move_locals_self] at ha
    rw [calls.move_locals_of_ne hbi] at hb
    exact absurd hb (hmover b hbi scope ha)
  · subst hbi
    rw [calls.move_locals_self] at hb
    rw [calls.move_locals_of_ne hai] at ha
    exact absurd ha (hmover a hai scope hb)
  · rw [calls.move_locals_of_ne hai] at ha
    rw [calls.move_locals_of_ne hbi] at hb
    exact h a b scope ha hb

theorem Exclusive.of_init {calls : Calls ι W H} (h : (ports.system actions start).init calls) :
    Exclusive calls := by
  intro i j scope hi
  rw [h.2 i] at hi
  cases hi

/-- A finished call takes no further step. -/
theorem finished_of_run {calls later : Calls ι W H} {i : ι}
    {result : Except RuntimeError (List Event)}
    (hrun : Relation.ReflTransGen (ports.system actions start).step calls later)
    (h : calls.locals i = .finished result) : later.locals i = .finished result := by
  induction hrun with
  | refl => exact h
  | tail _ hstep ih =>
    obtain ⟨j, answer, world, phase, hanswer, -, rfl⟩ := hstep
    by_cases hij : i = j
    · subst hij
      rw [ih] at hanswer
      cases hanswer
    · rw [Transition.Network.move_locals_of_ne _ hij, ih]

end RuntimePorts
end OrbitRelay
