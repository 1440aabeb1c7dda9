import Mathlib.Data.List.Induction
import OrbitRelay.Document.Basic

/-! The in-memory Document catalog: a map of descriptors and, for each Session, the order in
which its Documents were registered. -/

/-- One more element is kept only if it is new. -/
theorem List.eraseDups_concat {α : Type*} [DecidableEq α] (xs : List α) (x : α) :
    (xs ++ [x]).eraseDups = if x ∈ xs then xs.eraseDups else xs.eraseDups ++ [x] := by
  rw [List.eraseDups_append]
  by_cases hx : x ∈ xs
  · simp [List.removeAll, hx]
  · simp [List.removeAll, hx, List.eraseDups_cons]

theorem List.nodup_eraseDups {α : Type*} [DecidableEq α] (xs : List α) : xs.eraseDups.Nodup := by
  induction xs using List.reverseRecOn with
  | nil => exact List.nodup_nil
  | append_singleton xs x ih =>
    rw [List.eraseDups_concat]
    by_cases hx : x ∈ xs
    · rw [if_pos hx]
      exact ih
    · rw [if_neg hx]
      have hnot : x ∉ xs.eraseDups := fun h => hx (List.mem_eraseDups.mp h)
      exact List.nodup_append.mpr ⟨ih, List.nodup_singleton x, by
        rintro a ha b hb rfl
        exact hnot (List.mem_singleton.mp hb ▸ ha)⟩

namespace OrbitRelay

/-- A failure while querying a Document catalog. -/
structure DocumentCatalogError where
  detail : String
deriving DecidableEq

/-- A failure while assembling a read model from Document, Asset, and Canvas catalogs. -/
inductive DocumentReadError
  | documentNotFound (documentId : DocumentId)
  | assetNotFound (assetId : AssetId)
  | canvasNotFound (canvasId : CanvasId)
  | catalogUnavailable (catalog : String)
  | inconsistentReadModel (reason : String)
  | pageCountOverflow
deriving DecidableEq

/-- Lightweight query projection for listing Documents. -/
structure DocumentSummary where
  documentId : DocumentId
  title : String
  documentType : DocumentType
  pageCount : UInt32
  sourceAssetId : AssetId
deriving DecidableEq

def DocumentSummary.fromDocument (document : DocumentDescriptor) :
    Except DocumentReadError DocumentSummary := do
  let pageCount ← (UInt32.tryFrom document.pages.length).okOr .pageCountOverflow
  .ok ⟨document.documentId, document.title, document.documentType, pageCount,
    document.sourceAssetId⟩

/-- The summary of a Document: all its own data, with the number of its pages. -/
structure DocumentSummary.Of (document : DocumentDescriptor) (summary : DocumentSummary) :
    Prop where
  documentId : summary.documentId = document.documentId
  title : summary.title = document.title
  documentType : summary.documentType = document.documentType
  pageCount : summary.pageCount.toNat = document.pages.length
  sourceAssetId : summary.sourceAssetId = document.sourceAssetId

theorem DocumentSummary.exists_fromDocument {document : DocumentDescriptor}
    (h : document.pages.length < 2 ^ 32) :
    ∃ summary, DocumentSummary.fromDocument document = .ok summary ∧
      DocumentSummary.Of document summary := by
  have hcount : UInt32.tryFrom document.pages.length = some (.ofNat document.pages.length) :=
    if_pos h
  have hvalue := UInt32.tryFrom_eq_some.mp hcount
  refine ⟨⟨document.documentId, document.title, document.documentType,
    UInt32.ofNat document.pages.length, document.sourceAssetId⟩, ?_, ⟨rfl, rfl, rfl, hvalue, rfl⟩⟩
  unfold DocumentSummary.fromDocument
  rw [hcount, Except.okOr_some, Except.ok_bind]

/-- Outcome of a registration. -/
inductive DocumentInsertOutcome
  | inserted
  | existing
  | conflict
deriving DecidableEq

/-- The state under the lock. -/
structure CatalogState where
  documents : DocumentId → Option DocumentDescriptor
  sessionOrder : SessionId → Option (List DocumentId)

namespace CatalogState

def new : CatalogState := ⟨fun _ => none, fun _ => none⟩

/-- The Documents of a Session in order; a Session without an entry has none. -/
def order (state : CatalogState) (sessionId : SessionId) : List DocumentId :=
  (state.sessionOrder sessionId).getD []

/-- `HashMap::insert` on the documents, then a push on the entry of the Session. -/
def register (state : CatalogState) (document : DocumentDescriptor) : CatalogState where
  documents id := if id = document.documentId then some document else state.documents id
  sessionOrder sessionId :=
    if sessionId = document.sessionId then
      some ((state.sessionOrder sessionId).getD [] ++ [document.documentId])
    else state.sessionOrder sessionId

/-- Registers an immutable descriptor without overwriting existing data. -/
def insert (document : DocumentDescriptor) (state : CatalogState) :
    DocumentInsertOutcome × CatalogState :=
  match state.documents document.documentId with
  | some existing => if existing == document then (.existing, state) else (.conflict, state)
  | none => (.inserted, state.register document)

def getDocument (documentId : DocumentId) (state : CatalogState) :
    Except DocumentCatalogError (Option DocumentDescriptor) :=
  .ok (state.documents documentId)

/-- The summary of one listed Document. -/
def summarize (state : CatalogState) (documentId : DocumentId) :
    Except DocumentCatalogError DocumentSummary := do
  let document ← (state.documents documentId).okOr
    ⟨"session ordering references a missing Document"⟩
  (DocumentSummary.fromDocument document).mapError fun _ => ⟨"Document page count overflowed"⟩

def listDocuments (sessionId : SessionId) (state : CatalogState) :
    Except DocumentCatalogError (List DocumentSummary) :=
  match state.sessionOrder sessionId with
  | none => .ok []
  | some documentIds => documentIds.mapM state.summarize

/-- The state after a sequence of registrations. -/
def insertAll (documents : List DocumentDescriptor) : CatalogState :=
  documents.foldl (fun state document => (state.insert document).2) new

theorem insertAll_concat (documents : List DocumentDescriptor) (document : DocumentDescriptor) :
    insertAll (documents ++ [document]) = ((insertAll documents).insert document).2 := by
  unfold insertAll
  rw [List.foldl_append, List.foldl_cons, List.foldl_nil]

/-! ### The two indexes -/

/-- What an insertion does: nothing, unless the identity is new. -/
theorem insert_cases (state : CatalogState) (document : DocumentDescriptor) :
    (state.insert document = (.existing, state) ∧
      state.documents document.documentId = some document) ∨
    (state.insert document = (.conflict, state) ∧
      ∃ stored, state.documents document.documentId = some stored ∧ stored ≠ document) ∨
    (state.insert document = (.inserted, state.register document) ∧
      state.documents document.documentId = none) := by
  unfold insert
  cases hstored : state.documents document.documentId with
  | none => exact .inr (.inr ⟨rfl, rfl⟩)
  | some stored =>
    by_cases hsame : stored = document
    · subst hsame
      exact .inl ⟨if_pos (beq_self_eq_true stored), rfl⟩
    · exact .inr (.inl ⟨if_neg (beq_iff_eq.not.mpr hsame), stored, rfl, hsame⟩)

theorem register_order (state : CatalogState) (document : DocumentDescriptor)
    (sessionId : SessionId) :
    (state.register document).order sessionId =
      if sessionId = document.sessionId then state.order sessionId ++ [document.documentId]
      else state.order sessionId := by
  unfold order register
  by_cases hsession : sessionId = document.sessionId
  · simp only [if_pos hsession, Option.getD_some]
  · simp only [if_neg hsession]

/-- The first Document that was inserted under an identity. -/
def first (inserts : List DocumentDescriptor) (documentId : DocumentId) :
    Option DocumentDescriptor :=
  inserts.find? fun document => document.documentId = documentId

/-- The identities of a Session in the order of their first insertion. -/
def firstInserted (inserts : List DocumentDescriptor) (sessionId : SessionId) :
    List DocumentId :=
  ((inserts.map DocumentDescriptor.documentId).eraseDups).filter fun id =>
    (first inserts id).any fun document => document.sessionId = sessionId

/-- What the indexes hold after some insertions. -/
structure Indexes (inserts : List DocumentDescriptor) (state : CatalogState) : Prop where
  documents : ∀ id, state.documents id = first inserts id
  order : ∀ sessionId, state.order sessionId = firstInserted inserts sessionId

theorem first_concat (inserts : List DocumentDescriptor) (document : DocumentDescriptor)
    (id : DocumentId) :
    first (inserts ++ [document]) id =
      (first inserts id).or (if document.documentId = id then some document else none) := by
  unfold first
  rw [List.find?_append]
  by_cases hid : document.documentId = id <;> simp [hid]

theorem mem_of_first {inserts : List DocumentDescriptor} {id : DocumentId} :
    id ∈ inserts.map DocumentDescriptor.documentId ↔
      ∃ document, first inserts id = some document := by
  unfold first
  rw [← Option.isSome_iff_exists, List.find?_isSome, List.mem_map]
  simp only [decide_eq_true_eq]

/-- A new identity comes last in the order of its Session; a known one changes nothing. -/
theorem firstInserted_concat (inserts : List DocumentDescriptor) (document : DocumentDescriptor)
    (sessionId : SessionId) :
    firstInserted (inserts ++ [document]) sessionId =
      if first inserts document.documentId = none ∧ sessionId = document.sessionId then
        firstInserted inserts sessionId ++ [document.documentId]
      else firstInserted inserts sessionId := by
  unfold firstInserted
  rw [List.map_append, List.map_singleton, List.eraseDups_concat]
  cases hfirst : first inserts document.documentId with
  | some stored =>
    have hmem := mem_of_first.mpr ⟨stored, hfirst⟩
    have hsame : ∀ id, first (inserts ++ [document]) id = first inserts id := by
      intro id
      rw [first_concat]
      by_cases hid : document.documentId = id
      · rw [← hid, hfirst, Option.some_or]
      · rw [if_neg hid, Option.or_none]
    rw [if_pos hmem, if_neg (by simp)]
    simp only [hsame]
  | none =>
    have hnot : document.documentId ∉ inserts.map DocumentDescriptor.documentId := by
      intro hmem
      obtain ⟨stored, hstored⟩ := mem_of_first.mp hmem
      rw [hfirst] at hstored
      cases hstored
    have hnew : first (inserts ++ [document]) document.documentId = some document := by
      rw [first_concat, hfirst, if_pos rfl, Option.none_or]
    have hold : ∀ id ∈ (inserts.map DocumentDescriptor.documentId).eraseDups,
        first (inserts ++ [document]) id = first inserts id := by
      intro id hid
      have hne : document.documentId ≠ id := by
        rintro rfl
        exact hnot (List.mem_eraseDups.mp hid)
      rw [first_concat, if_neg hne, Option.or_none]
    rw [if_neg hnot, List.filter_append]
    have hfront : ∀ id ∈ (inserts.map DocumentDescriptor.documentId).eraseDups,
        (first (inserts ++ [document]) id).any (fun d => decide (d.sessionId = sessionId)) =
          (first inserts id).any fun d => decide (d.sessionId = sessionId) := by
      intro id hid
      rw [hold id hid]
    rw [List.filter_congr hfront]
    by_cases hsession : sessionId = document.sessionId
    · rw [if_pos ⟨rfl, hsession⟩, List.filter_cons, hnew]
      simp [hsession]
    · rw [if_neg (fun h => hsession h.2), List.filter_cons, hnew]
      simp [Ne.symm hsession]

section
variable {inserts : List DocumentDescriptor} {state : CatalogState}

/-- An insertion under a known identity is not one of the first. -/
theorem Indexes.known (h : Indexes inserts state) {document stored : DocumentDescriptor}
    (hstored : state.documents document.documentId = some stored) :
    Indexes (inserts ++ [document]) state := by
  rw [h.documents] at hstored
  constructor
  · intro id
    rw [h.documents, first_concat]
    by_cases hid : document.documentId = id
    · rw [← hid, hstored, Option.some_or]
    · rw [if_neg hid, Option.or_none]
  · intro sessionId
    have hknown : ¬ (first inserts document.documentId = none ∧
        sessionId = document.sessionId) := by simp [hstored]
    rw [h.order, firstInserted_concat, if_neg hknown]

/-- A registration appends the new identity to both indexes. -/
theorem Indexes.register (h : Indexes inserts state) {document : DocumentDescriptor}
    (hnone : state.documents document.documentId = none) :
    Indexes (inserts ++ [document]) (state.register document) := by
  rw [h.documents] at hnone
  constructor
  · intro id
    show (if id = document.documentId then some document else state.documents id) = _
    rw [first_concat]
    by_cases hid : document.documentId = id
    · rw [← hid, if_pos rfl, hnone, if_pos rfl, Option.none_or]
    · rw [if_neg (Ne.symm hid), if_neg hid, Option.or_none, h.documents]
  · intro sessionId
    rw [register_order, firstInserted_concat, h.order]
    by_cases hsession : sessionId = document.sessionId
    · rw [if_pos hsession, if_pos ⟨hnone, hsession⟩]
    · rw [if_neg hsession, if_neg (fun hboth => hsession hboth.2)]

end

/-- Every sequence of insertions leaves the indexes as described. -/
theorem indexes_insertAll (inserts : List DocumentDescriptor) :
    Indexes inserts (insertAll inserts) := by
  induction inserts using List.reverseRecOn with
  | nil => exact ⟨fun _ => rfl, fun _ => rfl⟩
  | append_singleton inserts document ih =>
    rw [insertAll_concat]
    obtain ⟨hcase, hstored⟩ | ⟨hcase, stored, hstored, -⟩ | ⟨hcase, hnone⟩ :=
      insert_cases (insertAll inserts) document
    · rw [hcase]
      exact ih.known hstored
    · rw [hcase]
      exact ih.known hstored
    · rw [hcase]
      exact ih.register hnone

/-- What is stored under an identity is not replaced by later insertions. -/
theorem documents_insertAll_append {inserts : List DocumentDescriptor} {id : DocumentId}
    {document : DocumentDescriptor} (h : (insertAll inserts).documents id = some document)
    (more : List DocumentDescriptor) :
    (insertAll (inserts ++ more)).documents id = some document := by
  rw [(indexes_insertAll _).documents] at h ⊢
  unfold first at h ⊢
  rw [List.find?_append, h, Option.some_or]

/-- A Document is stored under its own identity. -/
theorem documentId_of_documents {inserts : List DocumentDescriptor} {id : DocumentId}
    {document : DocumentDescriptor} (h : (insertAll inserts).documents id = some document) :
    document.documentId = id := by
  rw [(indexes_insertAll _).documents] at h
  unfold first at h
  exact of_decide_eq_true (List.find?_some h :)

/-- The order of a Session lists its stored Documents, each once. -/
theorem mem_order {inserts : List DocumentDescriptor} {id : DocumentId} {sessionId : SessionId} :
    id ∈ (insertAll inserts).order sessionId ↔ ∃ document,
      (insertAll inserts).documents id = some document ∧ document.sessionId = sessionId := by
  have hindexes := indexes_insertAll inserts
  rw [hindexes.order, hindexes.documents]
  unfold firstInserted
  rw [List.mem_filter, List.mem_eraseDups]
  constructor
  · rintro ⟨-, hany⟩
    obtain ⟨document, hfirst, hsession⟩ := (Option.any_eq_true ..).mp hany
    exact ⟨document, hfirst, of_decide_eq_true hsession⟩
  · rintro ⟨document, hfirst, hsession⟩
    refine ⟨mem_of_first.mpr ⟨document, hfirst⟩, ?_⟩
    simp [hfirst, hsession]

theorem nodup_order (inserts : List DocumentDescriptor) (sessionId : SessionId) :
    ((insertAll inserts).order sessionId).Nodup := by
  rw [(indexes_insertAll inserts).order]
  exact (List.nodup_eraseDups _).filter _

/-! ### Listing -/

/-- The summary that stands for an identity of the catalog. -/
def Lists (state : CatalogState) (id : DocumentId) (summary : DocumentSummary) : Prop :=
  ∃ document, state.documents id = some document ∧ DocumentSummary.Of document summary

/-- Identities of stored Documents with countable pages are all summarized, in order. -/
theorem mapM_summarize {state : CatalogState} {ids : List DocumentId}
    (h : ∀ id ∈ ids, ∃ document, state.documents id = some document ∧
      document.pages.length < 2 ^ 32) :
    ∃ summaries, ids.mapM state.summarize = .ok summaries ∧
      List.Forall₂ state.Lists ids summaries := by
  induction ids with
  | nil => exact ⟨[], rfl, .nil⟩
  | cons id ids ih =>
    rw [List.forall_mem_cons] at h
    obtain ⟨⟨document, hstored, hcount⟩, hrest⟩ := h
    obtain ⟨summary, hsummary, hof⟩ := DocumentSummary.exists_fromDocument hcount
    obtain ⟨summaries, hsummaries, hlists⟩ := ih hrest
    have hone : state.summarize id = .ok summary := by
      unfold summarize
      rw [hstored, Except.okOr_some, Except.ok_bind, hsummary, Except.mapError_ok]
    refine ⟨summary :: summaries, ?_, .cons ⟨document, hstored, hof⟩ hlists⟩
    rw [List.mapM_cons, hone, Except.ok_bind, hsummaries, Except.ok_bind]
    rfl

theorem listDocuments_eq (state : CatalogState) (sessionId : SessionId) :
    state.listDocuments sessionId = (state.order sessionId).mapM state.summarize := by
  unfold listDocuments order
  cases state.sessionOrder sessionId <;> rfl

theorem DocumentSummary.of_fromDocument {document : DocumentDescriptor}
    {summary : DocumentSummary} (h : DocumentSummary.fromDocument document = .ok summary) :
    DocumentSummary.Of document summary := by
  unfold DocumentSummary.fromDocument at h
  obtain ⟨pageCount, hcount, hsummary⟩ := Except.bind_eq_ok.mp h
  have hvalue := UInt32.tryFrom_eq_some.mp (Except.okOr_eq_ok.mp hcount)
  cases hsummary
  exact ⟨rfl, rfl, rfl, hvalue, rfl⟩

/-- A listed Document is stored, and belongs to the Session. -/
theorem mem_listDocuments {inserts : List DocumentDescriptor} {sessionId : SessionId}
    {summaries : List DocumentSummary}
    (h : (insertAll inserts).listDocuments sessionId = .ok summaries)
    {summary : DocumentSummary} (hmem : summary ∈ summaries) :
    ∃ document, (insertAll inserts).documents summary.documentId = some document ∧
      document.sessionId = sessionId ∧ DocumentSummary.Of document summary := by
  rw [listDocuments_eq] at h
  obtain ⟨id, hid, hsummarize⟩ := Except.exists_of_mem_mapM h hmem
  obtain ⟨document, hstored, hsession⟩ := mem_order.mp hid
  unfold summarize at hsummarize
  rw [hstored, Except.okOr_some, Except.ok_bind, Except.mapError_eq_ok] at hsummarize
  have hof := DocumentSummary.of_fromDocument hsummarize
  rw [← documentId_of_documents hstored, ← hof.documentId] at hstored
  exact ⟨document, hstored, hsession, hof⟩

/-- What the catalog guarantees after a sequence of insertions. -/
structure InStep (inserts : List DocumentDescriptor) (state : CatalogState) : Prop where
  found : ∀ id, state.getDocument id = .ok (first inserts id)
  forever : ∀ id document more, state.getDocument id = .ok (some document) →
    (insertAll (inserts ++ more)).getDocument id = .ok (some document)
  ordered : ∀ id sessionId, id ∈ state.order sessionId ↔
    ∃ document, state.documents id = some document ∧ document.sessionId = sessionId
  once : ∀ id sessionId, id ∈ state.order sessionId →
    (state.order sessionId).count id = 1 ∧
      ∀ other, other ≠ sessionId → id ∉ state.order other
  listed : ∀ sessionId,
    (∀ id document, state.documents id = some document → document.sessionId = sessionId →
      document.pages.length < 2 ^ 32) →
    ∃ summaries, state.listDocuments sessionId = .ok summaries ∧
      List.Forall₂ state.Lists (firstInserted inserts sessionId) summaries
  existing : ∀ document, (state.insert document).1 = .existing ↔
    state.documents document.documentId = some document
  conflict : ∀ document, (state.insert document).1 = .conflict ↔
    ∃ stored, state.documents document.documentId = some stored ∧ stored ≠ document
  unchanged : ∀ document, (state.insert document).1 ≠ .inserted →
    (state.insert document).2 = state

/-- For every sequence of insertions the two indexes stay in step. -/
theorem document_catalog_in_step (inserts : List DocumentDescriptor) :
    InStep inserts (insertAll inserts) := by
  have hindexes := indexes_insertAll inserts
  have hfound : ∀ id, (insertAll inserts).getDocument id = .ok (first inserts id) := by
    intro id
    unfold getDocument
    rw [hindexes.documents]
  refine ⟨hfound, ?_, fun id sessionId => mem_order, ?_, ?_, ?_, ?_, ?_⟩
  · intro id document more hget
    unfold getDocument
    rw [documents_insertAll_append (Except.ok.inj hget) more]
  · intro id sessionId hmem
    refine ⟨List.count_eq_one_of_mem (nodup_order inserts sessionId) hmem, ?_⟩
    intro other hne hother
    obtain ⟨document, hstored, hsession⟩ := mem_order.mp hmem
    obtain ⟨document', hstored', hsession'⟩ := mem_order.mp hother
    cases hstored.symm.trans hstored'
    exact hne (hsession'.symm.trans hsession)
  · intro sessionId hcounts
    rw [listDocuments_eq, ← hindexes.order]
    apply mapM_summarize
    intro id hmem
    obtain ⟨document, hstored, hsession⟩ := mem_order.mp hmem
    exact ⟨document, hstored, hcounts id document hstored hsession⟩
  case refine_4 | refine_5 =>
    intro document
    obtain ⟨hcase, hstored⟩ | ⟨hcase, stored, hstored, hne⟩ | ⟨hcase, hnone⟩ :=
      insert_cases (insertAll inserts) document
    · simp [hcase, hstored]
    · simp [hcase, hstored, hne]
    · simp [hcase, hnone]
  · intro document hnot
    obtain ⟨hcase, -⟩ | ⟨hcase, -⟩ | ⟨hcase, -⟩ :=
      insert_cases (insertAll inserts) document
    · rw [hcase]
    · rw [hcase]
    · rw [hcase] at hnot
      exact absurd rfl hnot

end CatalogState
end OrbitRelay
