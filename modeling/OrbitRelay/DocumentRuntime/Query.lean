import OrbitRelay.DocumentRuntime.ReadModel

/-! The two Document queries. They run over the Document catalog while others insert into it,
and disclose what they read only to actors that were authorized for the Session. -/
namespace OrbitRelay
open Json Pausing

/-- A safe failure of a query handler. -/
inductive QueryHandlerError
  | invalidQuery
  | unauthorized
  | notFound
  | unavailable
  | internal
deriving DecidableEq

def documentListQueryType : QueryType := ⟨"document.list", by decide⟩

def documentGetQueryType : QueryType := ⟨"document.get", by decide⟩

/-! ### Wire values -/

instance : Serialize DocumentType := ⟨fun | .pdf => .string "pdf"⟩

instance : Serialize PageRotation := ⟨fun rotation => toValue rotation.degrees⟩

instance : Serialize PageDisplayGeometry :=
  ⟨fun geometry => structValue [("width", toValue geometry.width),
    ("height", toValue geometry.height), ("rotation", toValue geometry.rotation)]⟩

instance : Serialize ContentHash := ⟨fun hash => .string hash.asStr⟩

/-- The typed payload of `document.list`. -/
structure ListDocumentsPayload where
  sessionId : SessionId

private def ListDocumentsPayload.ofFields : List Value → Option ListDocumentsPayload
  | [sessionId] => do some ⟨← fromValue sessionId⟩
  | _ => none

instance : Deserialize ListDocumentsPayload :=
  ⟨fromStruct ["session_id"] ListDocumentsPayload.ofFields⟩

/-- The typed payload of `document.get`. -/
structure GetDocumentPayload where
  documentId : DocumentId

private def GetDocumentPayload.ofFields : List Value → Option GetDocumentPayload
  | [documentId] => do some ⟨← fromValue documentId⟩
  | _ => none

instance : Deserialize GetDocumentPayload :=
  ⟨fromStruct ["document_id"] GetDocumentPayload.ofFields⟩

/-- The wire form of one listed Document. -/
structure DocumentSummaryDto where
  documentId : DocumentId
  title : String
  documentType : DocumentType
  pageCount : UInt32
  sourceAssetId : AssetId

def DocumentSummary.toDto (summary : DocumentSummary) : DocumentSummaryDto :=
  ⟨summary.documentId, summary.title, summary.documentType, summary.pageCount,
    summary.sourceAssetId⟩

instance : Serialize DocumentSummaryDto :=
  ⟨fun dto => structValue [("document_id", toValue dto.documentId), ("title", toValue dto.title),
    ("document_type", toValue dto.documentType), ("page_count", toValue dto.pageCount),
    ("source_asset_id", toValue dto.sourceAssetId)]⟩

/-- The wire payload of `document.list`. -/
structure DocumentListResultDto where
  documents : List DocumentSummaryDto

instance : Serialize DocumentListResultDto :=
  ⟨fun dto => structValue [("documents", .array (dto.documents.map toValue))]⟩

/-- The wire form of one page. -/
structure DocumentPageDto where
  pageId : PageId
  pageIndex : UInt32
  displayGeometry : PageDisplayGeometry
  overlayCanvasId : CanvasId

def DocumentPageDto.fromDomain (page : DocumentPageDescriptor) : DocumentPageDto :=
  ⟨page.pageId, page.pageIndex, page.displayGeometry, page.overlayCanvasId⟩

instance : Serialize DocumentPageDto :=
  ⟨fun dto => structValue [("page_id", toValue dto.pageId), ("page_index", toValue dto.pageIndex),
    ("display_geometry", toValue dto.displayGeometry),
    ("overlay_canvas_id", toValue dto.overlayCanvasId)]⟩

/-- The wire form of one Document. -/
structure DocumentDto where
  documentId : DocumentId
  sessionId : SessionId
  documentType : DocumentType
  sourceAssetId : AssetId
  title : String
  pages : List DocumentPageDto

def DocumentDto.fromDocument (document : DocumentDescriptor) : DocumentDto :=
  ⟨document.documentId, document.sessionId, document.documentType, document.sourceAssetId,
    document.title, document.pages.map DocumentPageDto.fromDomain⟩

instance : Serialize DocumentDto :=
  ⟨fun dto => structValue [("document_id", toValue dto.documentId),
    ("session_id", toValue dto.sessionId), ("document_type", toValue dto.documentType),
    ("source_asset_id", toValue dto.sourceAssetId), ("title", toValue dto.title),
    ("pages", .array (dto.pages.map toValue))]⟩

/-- The wire form of the source Asset metadata. -/
structure SourceAssetDto where
  assetId : AssetId
  mediaType : String
  byteLength : UInt64
  contentHash : ContentHash
  originalFilename : Option String

def SourceAssetDescriptor.toDto (asset : SourceAssetDescriptor) : SourceAssetDto :=
  ⟨asset.assetId, asset.mediaType, asset.byteLength, asset.contentHash, asset.originalFilename⟩

instance : Serialize SourceAssetDto :=
  ⟨fun dto => structValue [("asset_id", toValue dto.assetId), ("media_type", toValue dto.mediaType),
    ("byte_length", toValue dto.byteLength), ("content_hash", toValue dto.contentHash),
    ("original_filename", toValue dto.originalFilename)]⟩

/-- The wire form of one Canvas. -/
structure CanvasDto where
  canvasId : CanvasId
  sessionId : SessionId
  width : Float
  height : Float
  layerIds : List LayerId
  defaultLayerId : LayerId

def CanvasDescriptor.toDto (canvas : CanvasDescriptor) : CanvasDto :=
  ⟨canvas.canvasId, canvas.sessionId, canvas.space.width, canvas.space.height, canvas.layerIds,
    canvas.defaultLayerId⟩

instance : Serialize CanvasDto :=
  ⟨fun dto => structValue [("canvas_id", toValue dto.canvasId),
    ("session_id", toValue dto.sessionId),
    ("space", structValue [("width", toValue dto.width), ("height", toValue dto.height)]),
    ("layer_ids", toValue dto.layerIds), ("default_layer_id", toValue dto.defaultLayerId)]⟩

/-- The wire form of one page and its Canvas. -/
structure PageCanvasDto where
  pageId : PageId
  canvas : CanvasDto

def PageCanvasView.toDto (entry : PageCanvasView) : PageCanvasDto :=
  ⟨entry.pageId, entry.canvas.toDto⟩

instance : Serialize PageCanvasDto :=
  ⟨fun dto => structValue [("page_id", toValue dto.pageId), ("canvas", toValue dto.canvas)]⟩

/-- The wire payload of `document.get`. -/
structure DocumentViewDto where
  document : DocumentDto
  sourceAsset : SourceAssetDto
  pageCanvases : List PageCanvasDto

def DocumentView.toDto (view : DocumentView) : DocumentViewDto :=
  ⟨.fromDocument view.document, view.sourceAsset.toDto,
    view.pageCanvases.map PageCanvasView.toDto⟩

instance : Serialize DocumentViewDto :=
  ⟨fun dto => structValue [("document", toValue dto.document),
    ("source_asset", toValue dto.sourceAsset),
    ("page_canvases", .array (dto.pageCanvases.map toValue))]⟩

namespace DocumentQuery

def decodePayload {T : Type} [Deserialize T] (payload : Payload) : Except QueryHandlerError T :=
  (fromValue (toValue payload)).okOr .invalidQuery

def encodePayload {T : Type} [Serialize T] (value : T) : Except QueryHandlerError Payload :=
  (fromValue (toValue value)).okOr .internal

def mapAuthorizationError : DocumentReadAuthorizationError → QueryHandlerError
  | .unauthorized => .unauthorized
  | .unavailable => .unavailable
  | .internal => .internal

def mapReadError : DocumentReadError → QueryHandlerError
  | .documentNotFound _ => .notFound
  | .assetNotFound _ | .canvasNotFound _ | .inconsistentReadModel _ | .pageCountOverflow =>
    .internal
  | .catalogUnavailable _ => .unavailable

/-! ### The handlers -/

/-- Handles `document.list`: authorizes, then lists. -/
def executeListQuery (actor : QueryActorContext) (request : QueryRequest) :
    ExceptT QueryHandlerError ReadM Payload := do
  let payload : ListDocumentsPayload ← Proc.ofExcept (decodePayload request.payload)
  let authorized ← liftM (callPort (.authorizeSessionRead actor payload.sessionId
    documentListQueryType))
  Proc.ofExcept (authorized.mapError mapAuthorizationError)
  let answer ← liftM (callPort (.listDocuments payload.sessionId))
  let summaries ← Proc.ofExcept (answer.mapError fun _ => .unavailable)
  Proc.ofExcept (encodePayload (DocumentListResultDto.mk (summaries.map DocumentSummary.toDto)))

/-- Handles `document.get`: looks up the Session of the Document, authorizes, then reads. -/
def executeGetQuery (actor : QueryActorContext) (request : QueryRequest) :
    ExceptT QueryHandlerError ReadM Payload := do
  let payload : GetDocumentPayload ← Proc.ofExcept (decodePayload request.payload)
  let answer ← liftM (callPort (.getDocument payload.documentId))
  let stored ← Proc.ofExcept (answer.mapError fun _ => .unavailable)
  let document ← Proc.ofExcept (stored.okOr .notFound)
  let authorized ← liftM (callPort (.authorizeSessionRead actor document.sessionId
    documentGetQueryType))
  Proc.ofExcept (authorized.mapError mapAuthorizationError)
  let view ← liftM (getDocumentView payload.documentId).run
  let view ← Proc.ofExcept (view.mapError mapReadError)
  Proc.ofExcept (encodePayload view.toDto)

/-! ### What is disclosed -/

/-- The authorizer approved the Session for this actor and query type. -/
def Approved (trace : ReadTrace) (actor : QueryActorContext) (sessionId : SessionId)
    (queryType : QueryType) : Prop :=
  ⟨(), .authorizeSessionRead actor sessionId queryType, .ok ()⟩ ∈ trace

/-- The authorizer denied, or failed. -/
def Refused (trace : ReadTrace) : Prop :=
  ∃ actor sessionId queryType e,
    ⟨(), .authorizeSessionRead actor sessionId queryType, .error e⟩ ∈ trace

/-- A call of the Asset or Canvas catalog. -/
def ReadsView : ReadCall → Prop
  | .getAsset _ | .getCanvas _ => True
  | .authorizeSessionRead .. | .getDocument _ | .listDocuments _ => False

/-- What the Document catalog answers in a state; the other ports may answer anything. -/
def CatalogAnswers (state : CatalogState) : (call : ReadCall) → call.Answer → Prop
  | .getDocument documentId, answer => answer = state.getDocument documentId
  | .listDocuments sessionId, answer => answer = state.listDocuments sessionId
  | .authorizeSessionRead .., _ | .getAsset _, _ | .getCanvas _, _ => True

/-- The Document catalog holds what was inserted before each call, and no view is read before
the authorizer approved. -/
def disclosure (inserted : Nat → List DocumentDescriptor) (actor : QueryActorContext)
    (queryType : QueryType) : Contract ReadCall ReadCall.Answer Unit where
  rely trace _ call answer :=
    CatalogAnswers (CatalogState.insertAll (inserted trace.length)) call answer
  guarantee trace _ call :=
    ReadsView call → ∃ sessionId, Approved trace actor sessionId queryType

/-- Documents are inserted between the calls, and never taken out. -/
def Grows (inserted : Nat → List DocumentDescriptor) : Prop :=
  ∀ n, inserted n <+: inserted (n + 1)

theorem Grows.le {inserted : Nat → List DocumentDescriptor} (h : Grows inserted) {m n : Nat}
    (hle : m ≤ n) : inserted m <+: inserted n := by
  induction hle with
  | refl => exact List.prefix_rfl
  | step _ ih => exact ih.trans (h _)

/-- What is stored at one call is stored at every later call. -/
theorem Grows.stored {inserted : Nat → List DocumentDescriptor} (h : Grows inserted) {m n : Nat}
    (hle : m ≤ n) {documentId : DocumentId} {document : DocumentDescriptor}
    (hstored : (CatalogState.insertAll (inserted m)).documents documentId = some document) :
    (CatalogState.insertAll (inserted n)).documents documentId = some document := by
  obtain ⟨more, hmore⟩ := h.le hle
  rw [← hmore]
  exact CatalogState.documents_insertAll_append hstored more

/-- A call of the authorizer. -/
def Authorizes : ReadCall → Prop
  | .authorizeSessionRead .. => True
  | .getDocument _ | .listDocuments _ | .getAsset _ | .getCanvas _ => False

theorem not_authorizes_of_readsView {call : ReadCall} (h : ReadsView call) :
    ¬ Authorizes call := by
  cases call with
  | getAsset assetId | getCanvas canvasId => exact fun h => h
  | authorizeSessionRead actor sessionId queryType => exact h.elim
  | getDocument documentId | listDocuments sessionId => exact h.elim

/-- Nothing is claimed of the value of a failure. -/
theorem of_error_eq_ok {ε α : Type} {e : ε} {P : α → Prop} :
    ∀ a, (Except.error e : Except ε α) = .ok a → P a := by
  intro a h
  cases h

/-- The trace goes on without a call of the authorizer. -/
def Continues (trace trace' : ReadTrace) : Prop :=
  ∃ more, trace' = trace ++ more ∧ ∀ exchange ∈ more, ¬ Authorizes exchange.request

theorem Continues.refl (trace : ReadTrace) : Continues trace trace :=
  ⟨[], (List.append_nil trace).symm, fun _ h => absurd h List.not_mem_nil⟩

theorem Continues.snoc {trace trace' : ReadTrace} (h : Continues trace trace') {call : ReadCall}
    (hcall : ¬ Authorizes call) (answer : call.Answer) :
    Continues trace (trace' ++ [⟨(), call, answer⟩]) := by
  obtain ⟨more, rfl, hmore⟩ := h
  refine ⟨more ++ [⟨(), call, answer⟩], List.append_assoc .., ?_⟩
  rw [List.forall_mem_append, List.forall_mem_singleton]
  exact ⟨hmore, hcall⟩

theorem Continues.length_le {trace trace' : ReadTrace} (h : Continues trace trace') :
    trace.length ≤ trace'.length := by
  obtain ⟨more, rfl, -⟩ := h
  rw [List.length_append]
  omega

theorem Approved.continues {trace trace' : ReadTrace} {actor : QueryActorContext}
    {sessionId : SessionId} {queryType : QueryType}
    (h : Approved trace actor sessionId queryType) (hcontinues : Continues trace trace') :
    Approved trace' actor sessionId queryType := by
  obtain ⟨more, rfl, -⟩ := hcontinues
  exact List.mem_append_left _ h

theorem Refused.of_continues {trace trace' : ReadTrace} (hcontinues : Continues trace trace')
    (h : Refused trace') : Refused trace := by
  obtain ⟨more, rfl, hmore⟩ := hcontinues
  obtain ⟨actor, sessionId, queryType, e, hmem⟩ := h
  rcases List.mem_append.mp hmem with hmem | hmem
  · exact ⟨actor, sessionId, queryType, e, hmem⟩
  · exact absurd trivial (hmore _ hmem)

/-- What is answered to a request: a payload as `Discloses` says, and nothing after a refusal. -/
structure Guarded (Discloses : Payload → Prop) (result : Except QueryHandlerError Payload)
    (trace : ReadTrace) : Prop where
  disclosed : ∀ payload, result = .ok payload → Discloses payload
  withheld : Refused trace → (∃ e, result = .error e) ∧
    ∀ exchange ∈ trace, ¬ ReadsView exchange.request

/-- The payload lists Documents of the requested Session, which was approved. -/
structure ListsSession (inserted : Nat → List DocumentDescriptor) (actor : QueryActorContext)
    (request : QueryRequest) (trace : ReadTrace) (payload : Payload) (sessionId : SessionId)
    (summaries : List DocumentSummary) : Prop where
  requested : decodePayload request.payload = .ok (ListDocumentsPayload.mk sessionId)
  approved : Approved trace actor sessionId documentListQueryType
  encoded : encodePayload (DocumentListResultDto.mk (summaries.map DocumentSummary.toDto)) =
    .ok payload
  stored : ∀ summary ∈ summaries, ∃ document,
    (CatalogState.insertAll (inserted trace.length)).documents summary.documentId =
      some document ∧
    document.sessionId = sessionId ∧ DocumentSummary.Of document summary

/-- The payload shows the requested Document, whose Session was approved, and only Canvases of
that Session. -/
structure ShowsDocument (inserted : Nat → List DocumentDescriptor) (actor : QueryActorContext)
    (request : QueryRequest) (trace : ReadTrace) (payload : Payload) (view : DocumentView) :
    Prop where
  requested : decodePayload request.payload =
    .ok (GetDocumentPayload.mk view.document.documentId)
  approved : Approved trace actor view.document.sessionId documentGetQueryType
  encoded : encodePayload view.toDto = .ok payload
  stored : (CatalogState.insertAll (inserted trace.length)).documents view.document.documentId =
    some view.document
  canvases : ∀ entry ∈ view.pageCanvases, entry.canvas.sessionId = view.document.sessionId

/-- A failure discloses nothing, when no view has been read. -/
theorem Guarded.of_error {Discloses : Payload → Prop} {e : QueryHandlerError}
    {trace : ReadTrace} (h : ∀ exchange ∈ trace, ¬ ReadsView exchange.request) :
    Guarded Discloses (.error e) trace :=
  ⟨of_error_eq_ok, fun _ => ⟨⟨e, rfl⟩, h⟩⟩

/-- Where nothing was refused, only the payload counts. -/
theorem Guarded.of_not_refused {Discloses : Payload → Prop}
    {result : Except QueryHandlerError Payload} {trace : ReadTrace} (h : ¬ Refused trace)
    (hdisclosed : ∀ payload, result = .ok payload → Discloses payload) :
    Guarded Discloses result trace :=
  ⟨hdisclosed, fun hrefused => absurd hrefused h⟩

section
variable {inserted : Nat → List DocumentDescriptor} {actor : QueryActorContext}
  {queryType : QueryType} {trace : ReadTrace}

/-- The Canvases that are read all belong to the Session of the Document, and reading them asks
for nothing else. -/
theorem wp_readPageCanvases (document : DocumentDescriptor)
    (pages : List DocumentPageDescriptor) :
    (readPageCanvases document pages).run.wp (.within fun _ call => ReadsView call)
      (fun result _ _ => ∀ views, result = .ok views →
        ∀ view ∈ views, view.canvas.sessionId = document.sessionId) trace () := by
  induction pages generalizing trace with
  | nil =>
    rw [readPageCanvases, Proc.wp_run_pure]
    intro views hviews
    cases hviews
    simp
  | cons page pages ih =>
    rw [readPageCanvases]
    simp only [Proc.wp_run_bind, Proc.wp_run_liftM, callPort, Proc.wp_request]
    refine ⟨trivial, fun answer _ => ?_⟩
    simp only [Proc.afterResult_ok, Proc.wp_run_bind, Proc.wp_run_ofExcept]
    cases found "canvas" (.canvasNotFound page.overlayCanvasId) answer with
    | error e =>
      rw [Proc.afterResult_error]
      exact of_error_eq_ok
    | ok canvas =>
      simp only [Proc.afterResult_ok, Proc.wp_run_bind, Proc.wp_run_ofExcept]
      cases hvalid : validatePageCanvas document page canvas with
      | error e =>
        rw [Proc.afterResult_error]
        exact of_error_eq_ok
      | ok =>
        have hsession := (validatePageCanvas_eq_ok.mp hvalid).sessionId
        simp only [Proc.afterResult_ok, Proc.wp_run_bind]
        refine Proc.wp_mono ih ?_
        intro result trace' _ hlater
        cases result with
        | error e =>
          rw [Proc.afterResult_error]
          exact of_error_eq_ok
        | ok later =>
          rw [Proc.afterResult_ok, Proc.wp_run_pure]
          intro views hviews
          cases hviews
          rw [List.forall_mem_cons]
          exact ⟨hsession.symm, hlater later rfl⟩

/-- After an approval a view is read without asking the authorizer again. It is a view of what
the Document catalog stores, and its Canvases belong to the Session of the Document. -/
theorem wp_getDocumentView {sessionId : SessionId}
    (happroved : Approved trace actor sessionId queryType) (documentId : DocumentId) :
    (getDocumentView documentId).run.wp (disclosure inserted actor queryType)
      (fun result trace' _ => Continues trace trace' ∧ ∀ view, result = .ok view →
        (CatalogState.insertAll (inserted trace.length)).documents documentId =
          some view.document ∧
        ∀ entry ∈ view.pageCanvases, entry.canvas.sessionId = view.document.sessionId)
      trace () := by
  have hstart := Continues.refl trace
  unfold getDocumentView
  simp only [Proc.wp_run_bind, Proc.wp_run_liftM, callPort, Proc.wp_request]
  refine ⟨fun hreads => hreads.elim, fun answer hanswer => ?_⟩
  have hfirst := @Continues.snoc _ _ hstart (.getDocument documentId) (fun h => h) answer
  rw [Proc.afterResult_ok, Proc.wp_run_bind, Proc.wp_run_ofExcept]
  cases hdocument : found "document" (.documentNotFound documentId) answer with
  | error e =>
    rw [Proc.afterResult_error]
    exact ⟨hfirst, of_error_eq_ok⟩
  | ok document =>
    have hstored : (CatalogState.insertAll (inserted trace.length)).documents documentId =
        some document := Except.ok.inj (hanswer.symm.trans (found_eq_ok.mp hdocument))
    simp only [Proc.afterResult_ok, Proc.wp_run_bind, Proc.wp_run_liftM, Proc.wp_request]
    refine ⟨fun _ => ⟨sessionId, happroved.continues hfirst⟩, fun asset _ => ?_⟩
    have hsecond := @Continues.snoc _ _ hfirst (.getAsset document.sourceAssetId)
      (fun h => h) asset
    rw [Proc.wp_run_ofExcept]
    cases found "asset" (.assetNotFound document.sourceAssetId) asset with
    | error e =>
      rw [Proc.afterResult_error]
      exact ⟨hsecond, of_error_eq_ok⟩
    | ok sourceAsset =>
      rw [Proc.afterResult_ok, Proc.wp_run_ite]
      refine ⟨fun _ => ?_, fun _ => ?_⟩
      · rw [Proc.wp_run_throw]
        exact ⟨hsecond, of_error_eq_ok⟩
      · rw [Proc.wp_run_bind]
        have hcarry := Proc.wp_carry (c := disclosure inserted actor queryType)
          (I := Continues trace) (wp_readPageCanvases document document.pages)
          (fun _ _ _ hcontinues _ _ => ⟨sessionId, happroved.continues hcontinues⟩)
          (fun _ _ _ _ hcontinues hreads _ =>
            hcontinues.snoc (not_authorizes_of_readsView hreads) _) hsecond
        refine Proc.wp_mono hcarry ?_
        rintro result trace' ⟨⟩ ⟨hcontinues, hsessions⟩
        cases result with
        | error e =>
          rw [Proc.afterResult_error]
          exact ⟨hcontinues, of_error_eq_ok⟩
        | ok pageCanvases =>
          rw [Proc.afterResult_ok, Proc.wp_run_ite]
          refine ⟨fun _ => ?_, fun _ => ?_⟩
          · rw [Proc.wp_run_throw]
            exact ⟨hcontinues, of_error_eq_ok⟩
          · rw [Proc.wp_run_pure]
            refine ⟨hcontinues, fun view hview => ?_⟩
            cases hview
            exact ⟨hstored, hsessions pageCanvases rfl⟩

/-- The one call of the authorizer approved, so nothing was refused. -/
theorem not_refused_of_approved {before more : ReadTrace} {sessionId : SessionId}
    (hbefore : ∀ exchange ∈ before, ¬ Authorizes exchange.request)
    (hmore : ∀ exchange ∈ more, ¬ Authorizes exchange.request) :
    ¬ Refused (before ++
      ⟨(), .authorizeSessionRead actor sessionId queryType, .ok ()⟩ :: more) := by
  rintro ⟨other, otherSession, otherType, e, hmem⟩
  rcases List.mem_append.mp hmem with hmem | hmem
  · exact hbefore _ hmem trivial
  rcases List.mem_cons.mp hmem with heq | hmem
  · cases heq
  · exact hmore _ hmem trivial

/-- `document.list` lists the Documents of a Session that was approved. -/
theorem wp_executeListQuery (hgrows : Grows inserted) (actor : QueryActorContext)
    (request : QueryRequest) :
    (executeListQuery actor request).run.wp (disclosure inserted actor documentListQueryType)
      (fun result trace _ => Guarded
        (fun payload => ∃ sessionId summaries,
          ListsSession inserted actor request trace payload sessionId summaries) result trace)
      [] () := by
  unfold executeListQuery
  simp only [Proc.wp_run_bind, Proc.wp_run_ofExcept]
  cases hpayload : decodePayload (T := ListDocumentsPayload) request.payload with
  | error e =>
    rw [Proc.afterResult_error]
    exact .of_error fun _ h => absurd h List.not_mem_nil
  | ok payload =>
    simp only [Proc.afterResult_ok, Proc.wp_run_bind, Proc.wp_run_liftM, callPort,
      Proc.wp_request, Proc.wp_run_ofExcept]
    refine ⟨fun hreads => hreads.elim, fun authorized _ => ?_⟩
    cases authorized with
    | error e =>
      rw [Except.mapError_error, Proc.afterResult_error]
      exact .of_error (List.forall_mem_singleton.mpr fun hreads => hreads.elim)
    | ok =>
      rw [Except.mapError_ok, Proc.afterResult_ok]
      simp only [Proc.wp_run_bind, Proc.wp_run_liftM, Proc.wp_request, Proc.afterResult_ok,
        Proc.wp_run_ofExcept]
      refine ⟨fun hreads => hreads.elim, fun answer hanswer => ?_⟩
      have happroved : Approved
          [⟨(), .authorizeSessionRead actor payload.sessionId documentListQueryType, .ok ()⟩,
            ⟨(), .listDocuments payload.sessionId, answer⟩]
          actor payload.sessionId documentListQueryType := List.mem_cons_self
      have hallowed : ¬ Refused ([] ++
          ⟨(), .authorizeSessionRead actor payload.sessionId documentListQueryType, .ok ()⟩ ::
            [⟨(), .listDocuments payload.sessionId, answer⟩]) :=
        not_refused_of_approved (List.forall_mem_nil _)
          (List.forall_mem_singleton.mpr fun h => h)
      cases hsummaries : answer.mapError fun _ => QueryHandlerError.unavailable with
      | error e =>
        rw [Proc.afterResult_error]
        exact .of_not_refused hallowed of_error_eq_ok
      | ok summaries =>
        rw [Proc.afterResult_ok, Proc.wp_run_ofExcept]
        refine .of_not_refused hallowed fun encoded hencoded => ?_
        have hlisted := hanswer.symm.trans (Except.mapError_eq_ok.mp hsummaries)
        refine ⟨payload.sessionId, summaries, hpayload, happroved, hencoded, ?_⟩
        intro summary hmem
        obtain ⟨document, hstored, hdocument⟩ := CatalogState.mem_listDocuments hlisted hmem
        exact ⟨document, hgrows.stored (Nat.le_succ 1) hstored, hdocument⟩

/-- `document.get` shows a Document of a Session that was approved. -/
theorem wp_executeGetQuery (hgrows : Grows inserted) (actor : QueryActorContext)
    (request : QueryRequest) :
    (executeGetQuery actor request).run.wp (disclosure inserted actor documentGetQueryType)
      (fun result trace _ => Guarded
        (fun payload => ∃ view, ShowsDocument inserted actor request trace payload view)
        result trace) [] () := by
  unfold executeGetQuery
  simp only [Proc.wp_run_bind, Proc.wp_run_ofExcept]
  cases hpayload : decodePayload (T := GetDocumentPayload) request.payload with
  | error e =>
    rw [Proc.afterResult_error]
    exact .of_error fun _ h => absurd h List.not_mem_nil
  | ok payload =>
    simp only [Proc.afterResult_ok, Proc.wp_run_bind, Proc.wp_run_liftM, callPort,
      Proc.wp_request, Proc.wp_run_ofExcept]
    refine ⟨fun hreads => hreads.elim, fun answer hanswer => ?_⟩
    have hlookup : ∀ exchange ∈ [(⟨(), .getDocument payload.documentId, answer⟩ : Exchange ..)],
        ¬ ReadsView exchange.request := List.forall_mem_singleton.mpr fun hreads => hreads.elim
    cases hfound : answer.mapError fun _ => QueryHandlerError.unavailable with
    | error e =>
      rw [Proc.afterResult_error]
      exact .of_error hlookup
    | ok stored =>
      simp only [Proc.afterResult_ok, Proc.wp_run_bind, Proc.wp_run_ofExcept]
      cases hdocument : stored.okOr QueryHandlerError.notFound with
      | error e =>
        rw [Proc.afterResult_error]
        exact .of_error hlookup
      | ok document =>
        simp only [Proc.afterResult_ok, Proc.wp_run_bind, Proc.wp_run_liftM, Proc.wp_request,
          Proc.wp_run_ofExcept]
        refine ⟨fun hreads => hreads.elim, fun authorized _ => ?_⟩
        cases authorized with
        | error e =>
          rw [Except.mapError_error, Proc.afterResult_error]
          apply Guarded.of_error
          rw [List.forall_mem_append, List.forall_mem_singleton]
          exact ⟨hlookup, fun hreads => hreads.elim⟩
        | ok =>
          rw [Except.mapError_ok, Proc.afterResult_ok, Proc.wp_run_bind, Proc.wp_run_liftM]
          have hfirst : (CatalogState.insertAll (inserted 0)).documents payload.documentId =
              some document := by
            rw [Except.mapError_eq_ok] at hfound
            rw [← Except.okOr_eq_ok.mp hdocument]
            exact Except.ok.inj (hanswer.symm.trans hfound)
          have happroved : Approved ([⟨(), .getDocument payload.documentId, answer⟩] ++
              [⟨(), .authorizeSessionRead actor document.sessionId documentGetQueryType, .ok ()⟩])
              actor document.sessionId documentGetQueryType :=
            List.mem_append_right _ (List.mem_singleton.mpr rfl)
          refine Proc.wp_mono (wp_getDocumentView happroved payload.documentId) ?_
          intro result trace _ hview
          obtain ⟨hcontinues, hview⟩ := hview
          have hallowed : ¬ Refused trace := by
            intro hrefused
            refine not_refused_of_approved ?_ (List.forall_mem_nil _)
              (Refused.of_continues hcontinues hrefused)
            exact List.forall_mem_singleton.mpr fun h => h
          rw [Proc.afterResult_ok, Proc.wp_run_bind, Proc.wp_run_ofExcept]
          cases result with
          | error e =>
            rw [Except.mapError_error, Proc.afterResult_error]
            exact .of_not_refused hallowed of_error_eq_ok
          | ok view =>
            rw [Except.mapError_ok, Proc.afterResult_ok, Proc.wp_run_ofExcept]
            refine .of_not_refused hallowed fun encoded hencoded => ?_
            obtain ⟨hread, hcanvases⟩ := hview view rfl
            -- the identity was looked up before the approval, and still has that Document
            have hsame : view.document = document :=
              Option.some.inj (hread.symm.trans (hgrows.stored (Nat.zero_le _) hfirst))
            have hidentity := CatalogState.documentId_of_documents hread
            refine ⟨view, ?_, ?_, hencoded, ?_, hcanvases⟩
            · rw [hidentity]
              exact hpayload
            · rw [hsame]
              exact happroved.continues hcontinues
            · rw [hidentity]
              exact hgrows.stored hcontinues.length_le hread

end

def lessonDocument : DocumentDescriptor :=
  composedDocument countedIds lessonInput injOn_countedIds

end DocumentQuery
end OrbitRelay
