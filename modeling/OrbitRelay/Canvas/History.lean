import OrbitRelay.Canvas.Step

/-! The legal histories of one Stroke, written down as a grammar of events, and the
proof that the projector accepts exactly these and what it derives from them. -/
namespace OrbitRelay

/-- What follows the chunks of a Stroke. -/
inductive StrokeEnding
  | stillActive
  | completed (event : Event) (payload : StrokeEndPayload)
  | completedThenRemoved (event : Event) (payload : StrokeEndPayload)
      (removal : Event) (removed : StrokeRemovePayload)
  | cancelled (event : Event) (payload : StrokeCancelPayload)

namespace StrokeEnding

def events : StrokeEnding → List Event
  | stillActive => []
  | completed event _ => [event]
  | completedThenRemoved event _ removal _ => [event, removal]
  | cancelled event _ => [event]

/-- The lifecycle that the last terminal fact names. -/
def lifecycle : StrokeEnding → StrokeLifecycle
  | stillActive => .active
  | completed _ _ => .completed
  | completedThenRemoved _ _ _ _ => .removed
  | cancelled _ _ => .cancelled

end StrokeEnding

/-- A begin fact, the appended chunks in order and an ending, each with its payload. -/
structure StrokeHistory where
  first : Event
  began : StrokeBeginPayload
  appends : List (Event × StrokeAppendPayload)
  ending : StrokeEnding

namespace StrokeHistory

def events (h : StrokeHistory) : List Event :=
  h.first :: (h.appends.map Prod.fst ++ h.ending.events)

/-- The points of the chunks, by position. -/
def chunkPoints (h : StrokeHistory) : List (List CanvasPoint) :=
  h.began.points :: h.appends.map fun append => append.2.points

section
variable (first : Event) (began : StrokeBeginPayload)

/-- A later fact names the session, Canvas and Stroke of the begin fact. -/
structure Names (event : Event) (canvasId : CanvasId) (strokeId : StrokeId) : Prop where
  session : event.sessionId = first.sessionId
  canvas : canvasId = began.canvasId
  stroke : strokeId = began.strokeId

/-- The chunk is valid and has the given index. -/
structure LegalAppend (index : Nat) (event : Event) (payload : StrokeAppendPayload) : Prop where
  decodes : CanvasEventData.tryFrom event = .ok (.strokePointsAppended payload)
  names : Names first began event payload.canvasId payload.strokeId
  index_eq : payload.chunkIndex.toNat = index
  count : 1 ≤ payload.points.length ∧ payload.points.length ≤ maxPointsPerChunk

structure LegalCompletion (last : Nat) (event : Event) (payload : StrokeEndPayload) : Prop where
  decodes : CanvasEventData.tryFrom event = .ok (.strokeCompleted payload)
  names : Names first began event payload.canvasId payload.strokeId
  index_eq : payload.finalChunkIndex.toNat = last

structure LegalCancellation (last : Nat) (event : Event) (payload : StrokeCancelPayload) :
    Prop where
  decodes : CanvasEventData.tryFrom event = .ok (.strokeCancelled payload)
  names : Names first began event payload.canvasId payload.strokeId
  index_eq : payload.finalChunkIndex.toNat = last

structure LegalRemoval (event : Event) (payload : StrokeRemovePayload) : Prop where
  decodes : CanvasEventData.tryFrom event = .ok (.strokeRemoved payload)
  names : Names first began event payload.canvasId payload.strokeId

/-- A terminal fact closes the Stroke at the last chunk index; only a completed Stroke
is removed. -/
def LegalEnding (last : Nat) : StrokeEnding → Prop
  | .stillActive => True
  | .completed event payload => LegalCompletion first began last event payload
  | .completedThenRemoved event payload removal removed =>
    LegalCompletion first began last event payload ∧ LegalRemoval first began removal removed
  | .cancelled event payload => LegalCancellation first began last event payload

end

/-- The grammar of Stroke histories. -/
structure Legal (h : StrokeHistory) : Prop where
  first_decodes : CanvasEventData.tryFrom h.first = .ok (.strokeBegan h.began)
  first_index : h.began.chunkIndex = 0
  first_count : 1 ≤ h.began.points.length ∧ h.began.points.length ≤ maxPointsPerChunk
  appends : ∀ (i : Nat) (hi : i < h.appends.length),
    LegalAppend h.first h.began (i + 1) h.appends[i].1 h.appends[i].2
  ending : LegalEnding h.first h.began h.appends.length h.ending

end StrokeHistory

/-- What a history determines about the projection. -/
structure StrokeProjection.DerivedFrom (projection : StrokeProjection) (h : StrokeHistory) :
    Prop where
  strokeId : projection.strokeId = h.began.strokeId
  canvasId : projection.canvasId = h.began.canvasId
  layerId : projection.layerId = h.began.layerId
  tool : projection.tool = h.began.tool
  style : projection.style = h.began.style
  sessionId : projection.sessionId = h.first.sessionId
  creatorActorId : projection.creatorActorId = h.first.actorId
  createdAt : projection.createdAt = h.first.occurredAt
  points : projection.chunks.map StrokeChunk.points = h.chunkPoints
  contiguous : projection.Contiguous
  lifecycle : projection.lifecycle = h.ending.lifecycle

namespace StrokeProjection.DerivedFrom
variable {projection : StrokeProjection} {h : StrokeHistory}

theorem lastChunkIndex_toNat (hd : projection.DerivedFrom h) :
    projection.lastChunkIndex.toNat = h.appends.length := by
  have hlast := hd.contiguous.lastChunkIndex_toNat
  have hlength := congrArg List.length hd.points
  simp only [List.length_map, StrokeHistory.chunkPoints, List.length_cons] at hlength
  omega

theorem sameStroke_iff (hd : projection.DerivedFrom h) {event : Event} {canvasId : CanvasId}
    {strokeId : StrokeId} :
    projection.SameStroke event canvasId strokeId ↔
      StrokeHistory.Names h.first h.began event canvasId strokeId := by
  constructor
  · rintro ⟨hs, hc, hk⟩
    exact ⟨hs.trans hd.sessionId, hc.trans hd.canvasId, hk.trans hd.strokeId⟩
  · rintro ⟨hs, hc, hk⟩
    exact ⟨hs.trans hd.sessionId.symm, hc.trans hd.canvasId.symm, hk.trans hd.strokeId.symm⟩

theorem ofBegin {event : Event} {payload : StrokeBeginPayload} {hcount}
    (hzero : payload.chunkIndex = 0) :
    (ofBegin event payload hcount).DerivedFrom ⟨event, payload, [], .stillActive⟩ where
  strokeId := rfl
  canvasId := rfl
  layerId := rfl
  tool := rfl
  style := rfl
  sessionId := rfl
  creatorActorId := rfl
  createdAt := rfl
  points := rfl
  contiguous := by
    intro i hi
    obtain rfl : i = 0 := Nat.lt_one_iff.mp hi
    exact congrArg UInt64.toNat hzero
  lifecycle := rfl

theorem pushChunk (hd : projection.DerivedFrom h) {event : Event}
    {payload : StrokeAppendPayload} {hcount}
    (hnext : payload.chunkIndex.toNat = projection.lastChunkIndex.toNat + 1) :
    (projection.pushChunk ⟨payload.chunkIndex, payload.points, hcount⟩).DerivedFrom
      { h with appends := h.appends ++ [(event, payload)] } :=
  { hd with
    points := by
      rw [pushChunk_chunks, List.map_append, hd.points]
      simp [StrokeHistory.chunkPoints]
    contiguous := hd.contiguous.pushChunk hnext }

theorem setLifecycle (hd : projection.DerivedFrom h) (ending : StrokeEnding) :
    (projection.setLifecycle ending.lifecycle).DerivedFrom { h with ending := ending } :=
  { hd with lifecycle := rfl }

end StrokeProjection.DerivedFrom

namespace StrokeProjector
open StrokeHistory

/-- One accepted event extends the history by one production of the grammar. -/
private theorem Step.extends {event : Event} {projection next : StrokeProjection}
    {h : StrokeHistory} (hstep : Step event (some projection) next) (hl : h.Legal)
    (hd : projection.DerivedFrom h) :
    ∃ h' : StrokeHistory, h'.Legal ∧ h'.events = h.events ++ [event] ∧ next.DerivedFrom h' := by
  have hlast := hd.lastChunkIndex_toNat
  have hlife := hd.lifecycle
  obtain ⟨first, began, appends, ending⟩ := h
  cases hstep with
  | @appended _ payload hdata hsame hactive hnext hcount =>
    cases ending <;> rw [hactive] at hlife <;> try cases hlife
    refine ⟨⟨first, began, appends ++ [(event, payload)], .stillActive⟩, ?_, ?_,
      hd.pushChunk hnext⟩
    · refine { hl with appends := ?_, ending := trivial }
      intro i hi
      simp only [List.length_append, List.length_singleton] at hi
      rcases Nat.lt_or_eq_of_le (Nat.lt_succ_iff.mp hi) with hlt | rfl
      · simp only [List.getElem_append_left hlt]
        exact hl.appends i hlt
      · simp only [List.getElem_concat_length]
        exact ⟨hdata, hd.sameStroke_iff.mp hsame, by rw [hnext, hlast], hcount⟩
    · simp [events, StrokeEnding.events]
  | @completed _ payload hdata hsame hactive hfinal =>
    cases ending <;> rw [hactive] at hlife <;> try cases hlife
    refine ⟨⟨first, began, appends, .completed event payload⟩, ?_, ?_,
      hd.setLifecycle (.completed event payload)⟩
    · exact { hl with ending := ⟨hdata, hd.sameStroke_iff.mp hsame, by rw [hfinal, hlast]⟩ }
    · simp [events, StrokeEnding.events]
  | @cancelled _ payload hdata hsame hactive hfinal =>
    cases ending <;> rw [hactive] at hlife <;> try cases hlife
    refine ⟨⟨first, began, appends, .cancelled event payload⟩, ?_, ?_,
      hd.setLifecycle (.cancelled event payload)⟩
    · exact { hl with ending := ⟨hdata, hd.sameStroke_iff.mp hsame, by rw [hfinal, hlast]⟩ }
    · simp [events, StrokeEnding.events]
  | @removed _ payload hdata hsame hcompleted =>
    cases ending with
    | completed completion ended =>
      refine ⟨⟨first, began, appends, .completedThenRemoved completion ended event payload⟩,
        ?_, ?_, hd.setLifecycle (.completedThenRemoved completion ended event payload)⟩
      · exact { hl with ending := ⟨hl.ending, hdata, hd.sameStroke_iff.mp hsame⟩ }
      · simp [events, StrokeEnding.events]
    | _ => rw [hcompleted] at hlife; cases hlife

/-- Soundness: an accepted history is legal, and the projection is derived from it. -/
private theorem legal_of_fold {history : List Event} {projection : StrokeProjection}
    (hfold : fold history = .ok (some projection)) :
    ∃ h : StrokeHistory, h.Legal ∧ h.events = history ∧ projection.DerivedFrom h := by
  induction history using List.reverseRecOn generalizing projection with
  | nil => cases hfold
  | append_singleton history event ih =>
    obtain ⟨before, next, hbefore, hstep, hnext⟩ := fold_concat_eq_ok.mp hfold
    cases hnext
    cases before with
    | some earlier =>
      obtain ⟨h, hl, rfl, hd⟩ := ih hbefore
      exact hstep.extends hl hd
    | none =>
      -- Only a begin fact follows the empty history.
      obtain rfl := eq_nil_of_fold_none hbefore
      cases hstep with
      | @began payload hdata hcount =>
        have hvalid := validatePayload_of_decodePayload (CanvasEventData.tryFrom_eq_ok.mp hdata).2
        have hzero := (StrokeBeginPayload.validate_eq_ok.mp hvalid).1
        refine ⟨⟨event, payload, [], .stillActive⟩, ?_, rfl, .ofBegin hzero⟩
        exact { first_decodes := hdata, first_index := hzero, first_count := hcount,
                appends := nofun, ending := trivial }

/-- The appended chunks are accepted one by one while nothing ends the Stroke. -/
private theorem fold_of_appends {first : Event} {began : StrokeBeginPayload}
    {appends : List (Event × StrokeAppendPayload)}
    (hl : (⟨first, began, appends, .stillActive⟩ : StrokeHistory).Legal) :
    ∃ projection, fold (first :: appends.map Prod.fst) = .ok (some projection) ∧
      projection.DerivedFrom ⟨first, began, appends, .stillActive⟩ := by
  induction appends using List.reverseRecOn with
  | nil =>
    have hstep : Step first none _ := .began hl.first_decodes hl.first_count
    exact ⟨_, fold_concat_eq_ok.mpr ⟨none, _, fold_nil, hstep, rfl⟩, .ofBegin hl.first_index⟩
  | append_singleton appends append ih =>
    have hinit : (⟨first, began, appends, .stillActive⟩ : StrokeHistory).Legal := by
      refine { hl with appends := fun i (hi : i < appends.length) => ?_ }
      have happend := hl.appends i (by simp; omega)
      simpa only [List.getElem_append_left hi] using happend
    obtain ⟨projection, hfold, hd⟩ := ih hinit
    have happend : LegalAppend first began (appends.length + 1) append.1 append.2 := by
      have h := hl.appends appends.length (by simp)
      simpa only [List.getElem_concat_length] using h
    have hnext : append.2.chunkIndex.toNat = projection.lastChunkIndex.toNat + 1 := by
      rw [happend.index_eq, hd.lastChunkIndex_toNat]
    have hstep : Step append.1 (some projection) _ :=
      .appended happend.decodes (hd.sameStroke_iff.mpr happend.names) hd.lifecycle hnext
        happend.count
    have hfold' := fold_concat_eq_ok.mpr ⟨_, _, hfold, hstep, rfl⟩
    refine ⟨projection.pushChunk ⟨_, _, happend.count⟩, ?_, hd.pushChunk hnext⟩
    simpa using hfold'

/-- Completeness: a legal history is accepted. -/
private theorem fold_of_legal {h : StrokeHistory} (hl : h.Legal) :
    ∃ projection, fold h.events = .ok (some projection) ∧ projection.DerivedFrom h := by
  obtain ⟨first, began, appends, ending⟩ := h
  obtain ⟨projection, hfold, hd⟩ := fold_of_appends { hl with ending := trivial }
  have hlast := hd.lastChunkIndex_toNat
  have hcompletes {event payload} (hc : LegalCompletion first began appends.length event payload) :
      Step event (some projection) (projection.setLifecycle .completed) :=
    .completed hc.decodes (hd.sameStroke_iff.mpr hc.names) hd.lifecycle
      (UInt64.toNat_inj.mp (hc.index_eq.trans hlast.symm))
  cases ending with
  | stillActive =>
    exact ⟨projection, by simpa [events, StrokeEnding.events] using hfold, hd⟩
  | completed event payload =>
    exact ⟨_, fold_concat_eq_ok.mpr ⟨_, _, hfold, hcompletes hl.ending, rfl⟩,
      hd.setLifecycle (.completed event payload)⟩
  | completedThenRemoved event payload removal removed =>
    obtain ⟨hcompletion, hremoval⟩ := hl.ending
    have hcompleted := fold_concat_eq_ok.mpr ⟨_, _, hfold, hcompletes hcompletion, rfl⟩
    have hd' := hd.setLifecycle (.completed event payload)
    have hstep : Step removal (some (projection.setLifecycle .completed)) _ :=
      .removed hremoval.decodes (hd'.sameStroke_iff.mpr hremoval.names) rfl
    have hremoved := fold_concat_eq_ok.mpr ⟨_, _, hcompleted, hstep, rfl⟩
    refine ⟨_, ?_, hd'.setLifecycle (.completedThenRemoved event payload removal removed)⟩
    simpa [events, StrokeEnding.events, StrokeEnding.lifecycle] using hremoved
  | cancelled event payload =>
    have hc : LegalCancellation first began appends.length event payload := hl.ending
    have hstep : Step event (some projection) (projection.setLifecycle .cancelled) :=
      .cancelled hc.decodes (hd.sameStroke_iff.mpr hc.names) hd.lifecycle
        (UInt64.toNat_inj.mp (hc.index_eq.trans hlast.symm))
    exact ⟨_, fold_concat_eq_ok.mpr ⟨_, _, hfold, hstep, rfl⟩,
      hd.setLifecycle (.cancelled event payload)⟩

/-- The projector accepts exactly the legal histories and derives its projection from them. -/
theorem fold_iff_legal (history : List Event) (hne : history ≠ []) :
    ((∃ state, fold history = .ok state) ↔ ∃ h : StrokeHistory, h.Legal ∧ h.events = history) ∧
    (∀ h : StrokeHistory, h.Legal → h.events = history →
      ∃ projection, fold history = .ok (some projection) ∧ projection.DerivedFrom h ∧
        projection.lastChunkIndex.toNat = h.appends.length ∧
        ∀ index, (projection.chunk index).isSome ↔ index ≤ projection.lastChunkIndex) ∧
    (∀ (earlier later : List Event) (event : Event) (before next : StrokeProjection),
      history = earlier ++ event :: later → fold earlier = .ok (some before) →
      apply (some before) event = .ok next → next.lifecycle ≠ before.lifecycle →
      before.lifecycle.canTransitionTo next.lifecycle = true) := by
  refine ⟨⟨?_, ?_⟩, ?_, ?_⟩
  · rintro ⟨state, hfold⟩
    obtain ⟨init, last, rfl⟩ := (List.eq_nil_or_concat history).resolve_left hne
    rw [List.concat_eq_append] at hfold ⊢
    obtain ⟨before, next, hbefore, hstep, rfl⟩ := fold_concat_eq_ok.mp hfold
    obtain ⟨h, hl, hevents, -⟩ := legal_of_fold hfold
    exact ⟨h, hl, hevents⟩
  · rintro ⟨h, hl, rfl⟩
    obtain ⟨projection, hfold, -⟩ := fold_of_legal hl
    exact ⟨_, hfold⟩
  · rintro h hl rfl
    obtain ⟨projection, hfold, hd⟩ := fold_of_legal hl
    exact ⟨projection, hfold, hd, hd.lastChunkIndex_toNat, hd.contiguous.chunk_isSome_iff⟩
  · intro _ _ _ before next _ _ happly hchange
    exact (apply_eq_ok.mp happly).canTransitionTo hchange

end StrokeProjector

/-- The index of the chunk that the event persists, if it persists one. -/
def persistedChunkIndex (event : Event) : Option UInt64 :=
  match CanvasEventData.tryFrom event with
  | .ok (.strokeBegan payload) => some payload.chunkIndex
  | .ok (.strokePointsAppended payload) => some payload.chunkIndex
  | _ => none

/-- The chunk indexes of an accepted history are the positions, each once and in order. -/
theorem persistedChunkIndexes_of_fold {history : List Event} {projection : StrokeProjection}
    (h : StrokeProjector.fold history = .ok (some projection)) :
    (history.filterMap persistedChunkIndex).map UInt64.toNat =
      List.range projection.chunks.length := by
  induction history using List.reverseRecOn generalizing projection with
  | nil => cases h
  | append_singleton history event ih =>
    have hcontiguous := StrokeProjector.contiguous_of_fold h
    obtain ⟨before, next, hbefore, hstep, hnext⟩ := StrokeProjector.fold_concat_eq_ok.mp h
    cases hnext
    rw [List.filterMap_append, List.map_append]
    cases hstep with
    | began hdata _ =>
      obtain rfl := StrokeProjector.eq_nil_of_fold_none hbefore
      have hzero := hcontiguous 0 (by simp)
      simp only [StrokeProjection.ofBegin_chunks, List.getElem_singleton] at hzero
      simp [persistedChunkIndex, hdata, hzero]
    | @appended before payload hdata _ _ hindex _ =>
      have hlast := (StrokeProjector.contiguous_of_fold hbefore).lastChunkIndex_toNat
      rw [ih hbefore, StrokeProjection.pushChunk_chunks, List.length_append, List.length_singleton,
        List.range_succ]
      simp [persistedChunkIndex, hdata, hindex, hlast]
    | completed hdata _ _ _ | cancelled hdata _ _ _ | removed hdata _ _ =>
      rw [ih hbefore]
      simp [persistedChunkIndex, hdata]

/-! A Stroke of two chunks that is completed and removed, for closed instances. -/
namespace Sample

def id {kind : IdKind} (n : UInt8) : DomainId kind := ⟨⟨⟨Vector.replicate 16 n⟩⟩⟩

def beginPayload : StrokeBeginPayload where
  canvasId := id 1
  layerId := id 2
  strokeId := id 3
  tool := .pen
  style := ⟨1, ⟨0, 0, 0, 255⟩, by decide +kernel⟩
  chunkIndex := 0
  points := [⟨1.5, 2, by decide +kernel, by decide +kernel⟩]

def appendPayload : StrokeAppendPayload where
  canvasId := id 1
  strokeId := id 3
  chunkIndex := 1
  points := [⟨3, 2.5, by decide +kernel, by decide +kernel⟩]

def endPayload : StrokeEndPayload := ⟨id 1, id 3, 1⟩

def removePayload : StrokeRemovePayload := ⟨id 1, id 3⟩

/-- A fact of the session and the actor. -/
def fact (eventId actionId : UInt8) (eventType : String) (payload : Payload) : Event where
  id := id eventId
  sessionId := id 5
  actorId := id 6
  actionId := id actionId
  eventType := ⟨eventType⟩
  occurredAt := ⟨0⟩
  payload := payload
  metadata := ⟨[]⟩

def encoded {T : Type} [ValidatedPayload T] (payload : T) : Payload :=
  (encodePayload payload).toOption.getD ⟨[]⟩

def began : Event := fact 4 7 strokeBeganEventType (encoded beginPayload)

def appended : Event := fact 8 9 strokePointsAppendedEventType (encoded appendPayload)

def completed : Event := fact 10 11 strokeCompletedEventType (encoded endPayload)

def removed : Event := fact 12 13 strokeRemovedEventType (encoded removePayload)

def history : StrokeHistory where
  first := began
  began := beginPayload
  appends := [(appended, appendPayload)]
  ending := .completedThenRemoved completed endPayload removed removePayload

theorem history_legal : history.Legal where
  first_decodes := rfl
  first_index := rfl
  first_count := by decide
  appends := by
    intro i hi
    obtain rfl : i = 0 := Nat.lt_one_iff.mp hi
    have happended : StrokeHistory.LegalAppend began beginPayload 1 appended appendPayload :=
      ⟨rfl, ⟨rfl, rfl, rfl⟩, rfl, by decide⟩
    exact happended
  ending := ⟨⟨rfl, ⟨rfl, rfl, rfl⟩, rfl⟩, rfl, rfl, rfl, rfl⟩

end Sample

/-- The projector accepts the four facts and derives a removed Stroke of two chunks. -/
theorem StrokeProjector.fold_iff_legal_sample :
    ∃ projection, StrokeProjector.fold [Sample.began, Sample.appended, Sample.completed,
        Sample.removed] = .ok (some projection) ∧
      projection.DerivedFrom Sample.history ∧ projection.lastChunkIndex.toNat = 1 := by
  have hne : Sample.history.events ≠ [] := List.cons_ne_nil _ _
  obtain ⟨projection, hfold, hderived, hlast, -⟩ :=
    (fold_iff_legal Sample.history.events hne).2.1 Sample.history Sample.history_legal rfl
  exact ⟨projection, hfold, hderived, hlast⟩

end OrbitRelay
