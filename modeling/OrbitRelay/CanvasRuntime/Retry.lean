import Mathlib.Logic.Relation
import OrbitRelay.CanvasRuntime.Agreement

/-! The service over a log of persisted facts: how one emitted fact changes the history of
each aggregate, and why a recorded command stays recorded. -/
namespace OrbitRelay
open CanvasCommandService

/-- A state reader that folds the persisted facts of the requested aggregate. -/
def foldingReader (persisted : List Event) (sessionId : SessionId) (canvasId : CanvasId)
    (strokeId : StrokeId) : Except CanvasStateReadError (Option StrokeProjection) :=
  (StrokeProjector.fold ((⟨sessionId, canvasId, strokeId⟩ : StrokeKey).history persisted)).mapError
    .projectionCorrupted

namespace CanvasCommand

/-- The command is recorded in the aggregate's current projection. -/
def RecordedIn (command : CanvasCommand) (key : StrokeKey) (actorId : ActorId)
    (persisted : List Event) : Prop :=
  ∃ projection, StrokeProjector.fold (key.history persisted) = .ok (some projection) ∧
    command.ReflectedIn actorId projection

/-- The service, reading the log, emits a fact that is then persisted. -/
def Accepted (catalog : CanvasId → Except CanvasCatalogError (Option CanvasDescriptor))
    (command : CanvasCommand) (action : Action) (persisted persisted' : List Event) : Prop :=
  command.Valid ∧ ∃ draft id now,
    command.process ⟨catalog, foldingReader persisted⟩ action = .ok [draft] ∧
    persisted' = persisted ++ [draft.toEvent action id now]

section
variable {command : CanvasCommand} {action : Action} {draft : EventDraft} {key : StrokeKey}
  {persisted : List Event} (id : EventId) (now : Timestamp)

theorem Emits.history_eq_of_ne (h : command.Emits draft) (hne : command.key action ≠ key) :
    key.history (persisted ++ [draft.toEvent action id now]) = key.history persisted := by
  have howns : key.owns (draft.toEvent action id now) = false :=
    Bool.eq_false_iff.mpr fun ht => hne ((h.owns_iff action id now key).mp ht)
  simp [StrokeKey.history, howns]

theorem Emits.history_eq (h : command.Emits draft) :
    (command.key action).history (persisted ++ [draft.toEvent action id now]) =
      (command.key action).history persisted ++ [draft.toEvent action id now] := by
  have howns := (h.owns_iff action id now (command.key action)).mpr rfl
  simp [StrokeKey.history, howns]

/-- Persisting an emitted fact extends its own aggregate by one projector step. -/
theorem Emits.fold_eq {state : Option StrokeProjection} (h : command.Emits draft)
    (hvalid : command.Valid) (hadmissible : command.Admissible (command.key action) state)
    (hfold : StrokeProjector.fold ((command.key action).history persisted) = .ok state) :
    ∃ next, StrokeProjector.Step (draft.toEvent action id now) state next ∧
      StrokeProjector.fold ((command.key action).history
        (persisted ++ [draft.toEvent action id now])) = .ok (some next) ∧
      command.ReflectedIn action.actorId next := by
  obtain ⟨next, hstep, hasks⟩ := hadmissible.step hvalid (h.tryFrom_eq action id now) rfl
  refine ⟨next, hstep, ?_, ?_⟩
  · rw [h.history_eq]
    exact StrokeProjector.fold_concat_eq_ok.mpr ⟨state, next, hfold, hstep, rfl⟩
  · exact hadmissible.reflectedIn hvalid hasks fun projection hprojection =>
      (soundState_of_fold hfold projection hprojection).2

/-- A recorded command stays recorded when any fact is emitted. -/
theorem RecordedIn.emitted {recorded : CanvasCommand} {actorId : ActorId}
    {state : Option StrokeProjection} (hrecorded : recorded.RecordedIn key actorId persisted)
    (h : command.Emits draft) (hvalid : command.Valid)
    (hadmissible : command.Admissible (command.key action) state)
    (hfold : StrokeProjector.fold ((command.key action).history persisted) = .ok state) :
    recorded.RecordedIn key actorId (persisted ++ [draft.toEvent action id now]) := by
  obtain ⟨projection, hprojection, hr⟩ := hrecorded
  by_cases hkey : command.key action = key
  · subst hkey
    obtain ⟨next, hstep, hnext, -⟩ := h.fold_eq id now hvalid hadmissible hfold
    obtain rfl : state = some projection := Except.ok.inj (hfold.symm.trans hprojection)
    exact ⟨next, hnext, hstep.reflectedIn hr⟩
  · exact ⟨projection, (h.history_eq_of_ne id now hkey).symm ▸ hprojection, hr⟩

end

theorem foldingReader_eq_ok {persisted : List Event} {command : CanvasCommand} {action : Action}
    {state : Option StrokeProjection} :
    foldingReader persisted action.sessionId command.canvasId command.strokeId = .ok state ↔
      StrokeProjector.fold ((command.key action).history persisted) = .ok state :=
  Except.mapError_eq_ok

variable {catalog : CanvasId → Except CanvasCatalogError (Option CanvasDescriptor)}
  {command : CanvasCommand} {action : Action} {persisted persisted' : List Event}

/-- What acceptance established: the catalog's consent and the admissible state. -/
theorem Accepted.decided (h : command.Accepted catalog action persisted persisted') :
    ∃ descriptor state draft id now,
      command.CatalogAccepts catalog action.sessionId descriptor ∧
      StrokeProjector.fold ((command.key action).history persisted) = .ok state ∧
      command.Emits draft ∧ command.Admissible (command.key action) state ∧
      persisted' = persisted ++ [draft.toEvent action id now] := by
  obtain ⟨-, draft, id, now, hprocess, rfl⟩ := h
  obtain ⟨descriptor, state, hcatalog, hstate, hdecided⟩ := process_decided hprocess
  obtain ⟨⟨⟩, -⟩ | ⟨_, ⟨⟩, hemits, hadmissible⟩ := hdecided
  exact ⟨descriptor, state, draft, id, now, hcatalog, foldingReader_eq_ok.mp hstate, hemits,
    hadmissible, rfl⟩

theorem RecordedIn.accepted {recorded : CanvasCommand} {key : StrokeKey} {actorId : ActorId}
    (hrecorded : recorded.RecordedIn key actorId persisted)
    (h : command.Accepted catalog action persisted persisted') :
    recorded.RecordedIn key actorId persisted' := by
  obtain ⟨_, state, draft, id, now, -, hfold, hemits, hadmissible, rfl⟩ := h.decided
  exact hrecorded.emitted id now hemits h.1 hadmissible hfold

/-- A recorded command is answered emptily, for the actor that began the Stroke. -/
theorem RecordedIn.process_eq {descriptor : CanvasDescriptor}
    (h : command.RecordedIn (command.key action) action.actorId persisted)
    (hcatalog : command.CatalogAccepts catalog action.sessionId descriptor) :
    command.process ⟨catalog, foldingReader persisted⟩ action = .ok [] := by
  obtain ⟨projection, hfold, hr⟩ := h
  obtain ⟨hkey, hcontiguous⟩ := soundState_of_fold hfold projection rfl
  exact process_of_reflectedIn hcatalog (foldingReader_eq_ok.mpr hfold) hkey hcontiguous hr

/-- Only a begin command is reflected for one actor in particular. -/
theorem ReflectedIn.of_actor {actorId actorId' : ActorId} {projection : StrokeProjection}
    (h : command.ReflectedIn actorId projection)
    (hactor : ∀ payload, command = .begin payload → actorId' = actorId) :
    command.ReflectedIn actorId' projection := by
  cases command with
  | begin payload => rwa [hactor payload rfl]
  | append payload | «end» payload | cancel payload | remove payload => exact h

/-- After any further accepted commands, a retry of an accepted command is answered with no
draft: by the same actor for begin, by any actor for the others. -/
theorem retry_of_accepted (command : CanvasCommand) (action retry : Action)
    (persisted persisted' later : List Event)
    (haccepted : command.Accepted catalog action persisted persisted')
    (hlater : Relation.ReflTransGen (fun before after => ∃ (other : CanvasCommand) (by_ : Action),
      other.Accepted catalog by_ before after) persisted' later)
    (hsession : retry.sessionId = action.sessionId)
    (hactor : ∀ payload, command = .begin payload → retry.actorId = action.actorId) :
    command.process ⟨catalog, foldingReader later⟩ retry = .ok [] := by
  obtain ⟨descriptor, state, draft, id, now, hcatalog, hfold, hemits, hadmissible, rfl⟩ :=
    haccepted.decided
  have hkey : command.key retry = command.key action := by simp [key, hsession]
  have hfirst : command.RecordedIn (command.key action) action.actorId
      (persisted ++ [draft.toEvent action id now]) := by
    obtain ⟨next, -, hnext, hr⟩ := hemits.fold_eq id now haccepted.1 hadmissible hfold
    exact ⟨next, hnext, hr⟩
  -- Every later acceptance keeps the record, by induction along the run.
  have hkept : command.RecordedIn (command.key action) action.actorId later := by
    induction hlater with
    | refl => exact hfirst
    | tail _ hstep ih =>
      obtain ⟨other, by_, hother⟩ := hstep
      exact ih.accepted hother
  obtain ⟨projection, hprojection, hr⟩ := hkept
  have hretry : command.RecordedIn (command.key retry) retry.actorId later :=
    ⟨projection, by rw [hkey, hprojection], hr.of_actor hactor⟩
  exact hretry.process_eq (hsession.symm ▸ hcatalog)

/-- An append is accepted, then an end and a removal; another actor retries the append. -/
theorem retry_of_accepted_sample :
    CanvasCommand.process ⟨Sample.catalog, foldingReader [Sample.began, Sample.appended,
      Sample.completed, Sample.removed]⟩
      (Sample.request 14 15 "canvas.stroke.append" Sample.appended.payload)
      (.append Sample.appendPayload) = .ok [] := by
  have happended : (append Sample.appendPayload).Accepted Sample.catalog
      (Sample.request 9 6 "canvas.stroke.append" Sample.appended.payload)
      [Sample.began] [Sample.began, Sample.appended] :=
    ⟨rfl, ⟨⟨strokePointsAppendedEventType⟩, Sample.appended.payload, ⟨[]⟩⟩, Sample.id 8, ⟨0⟩,
      rfl, rfl⟩
  have hcompleted : («end» Sample.endPayload).Accepted Sample.catalog
      (Sample.request 11 6 "canvas.stroke.end" Sample.completed.payload)
      [Sample.began, Sample.appended] [Sample.began, Sample.appended, Sample.completed] :=
    ⟨rfl, ⟨⟨strokeCompletedEventType⟩, Sample.completed.payload, ⟨[]⟩⟩, Sample.id 10, ⟨0⟩,
      rfl, rfl⟩
  have hremoved : (remove Sample.removePayload).Accepted Sample.catalog
      (Sample.request 13 6 "canvas.stroke.remove" Sample.removed.payload)
      [Sample.began, Sample.appended, Sample.completed]
      [Sample.began, Sample.appended, Sample.completed, Sample.removed] :=
    ⟨rfl, ⟨⟨strokeRemovedEventType⟩, Sample.removed.payload, ⟨[]⟩⟩, Sample.id 12, ⟨0⟩, rfl, rfl⟩
  exact retry_of_accepted _ _ _ _ _ _ happended
    (.tail (.single ⟨_, _, hcompleted⟩) ⟨_, _, hremoved⟩) rfl (fun _ h => nomatch h)

end CanvasCommand
end OrbitRelay
