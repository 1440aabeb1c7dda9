import OrbitRelay.CanvasRuntime.Service
import OrbitRelay.AssetRuntime.Access
import OrbitRelay.DocumentRuntime.Catalog
import OrbitRelay.DocumentRuntime.Composition
import OrbitRelay.Lib.Program
import OrbitRelay.Query.Model

/-! The read view of a Document, assembled from independent catalogs. A read pauses at every
call of a port. -/
namespace OrbitRelay
open Pausing

/-- A failure of the authorization boundary for Document reads. -/
inductive DocumentReadAuthorizationError
  | unauthorized
  | unavailable
  | internal
deriving DecidableEq

/-- What a read asks of its ports. -/
inductive ReadCall
  | authorizeSessionRead (actor : QueryActorContext) (sessionId : SessionId)
      (queryType : QueryType)
  | getDocument (documentId : DocumentId)
  | listDocuments (sessionId : SessionId)
  | getAsset (assetId : AssetId)
  | getCanvas (canvasId : CanvasId)

abbrev ReadCall.Answer : ReadCall → Type
  | authorizeSessionRead .. => Except DocumentReadAuthorizationError Unit
  | getDocument _ => Except DocumentCatalogError (Option DocumentDescriptor)
  | listDocuments _ => Except DocumentCatalogError (List DocumentSummary)
  | getAsset _ => Except AssetCatalogError (Option SourceAssetDescriptor)
  | getCanvas _ => Except CanvasCatalogError (Option CanvasDescriptor)

/-- A read keeps no state between its calls. -/
abbrev ReadM := Proc ReadCall ReadCall.Answer Unit

abbrev ReadTrace := List (Exchange ReadCall ReadCall.Answer Unit)

def callPort (call : ReadCall) : ReadM call.Answer := Proc.request call

/-- One ordered page and its Canvas, as read. -/
structure PageCanvasView where
  pageId : PageId
  canvas : CanvasDescriptor

/-- Complete discovery read model for one Document. -/
structure DocumentView where
  document : DocumentDescriptor
  sourceAsset : SourceAssetDescriptor
  pageCanvases : List PageCanvasView

/-- What a catalog found, or why the read fails. -/
def found {ε α : Type} (catalog : String) (missing : DocumentReadError)
    (answer : Except ε (Option α)) : Except DocumentReadError α := do
  (← answer.mapError fun _ => .catalogUnavailable catalog).okOr missing

def validatePageCanvas (document : DocumentDescriptor) (page : DocumentPageDescriptor)
    (canvas : CanvasDescriptor) : Except DocumentReadError Unit :=
  if page.overlayCanvasId ≠ canvas.canvasId then
    .error (.inconsistentReadModel "Canvas identity does not match page overlay reference")
  else if canvas.sessionId ≠ document.sessionId then
    .error (.inconsistentReadModel "Canvas belongs to a different Session")
  else if canvas.space.width != page.displayGeometry.width ||
      canvas.space.height != page.displayGeometry.height then
    .error (.inconsistentReadModel "Canvas space does not match page display geometry")
  else if !canvas.containsLayer canvas.defaultLayerId then
    .error (.inconsistentReadModel "Canvas default layer is not in its layer set")
  else .ok ()

/-- The Canvases of the pages, one call for each. -/
def readPageCanvases (document : DocumentDescriptor) :
    List DocumentPageDescriptor → ExceptT DocumentReadError ReadM (List PageCanvasView)
  | [] => pure []
  | page :: rest => do
    let answer ← liftM (callPort (.getCanvas page.overlayCanvasId))
    let canvas ← Proc.ofExcept (found "canvas" (.canvasNotFound page.overlayCanvasId) answer)
    Proc.ofExcept (validatePageCanvas document page canvas)
    let later ← readPageCanvases document rest
    pure (⟨page.pageId, canvas⟩ :: later)

/-- Reads a complete trusted view, or fails without returning partial data. -/
def getDocumentView (documentId : DocumentId) :
    ExceptT DocumentReadError ReadM DocumentView := do
  let answer ← liftM (callPort (.getDocument documentId))
  let document ← Proc.ofExcept (found "document" (.documentNotFound documentId) answer)
  let answer ← liftM (callPort (.getAsset document.sourceAssetId))
  let sourceAsset ← Proc.ofExcept (found "asset" (.assetNotFound document.sourceAssetId) answer)
  if sourceAsset.assetId ≠ document.sourceAssetId then
    throw (.inconsistentReadModel "Asset catalog returned a different Asset identity")
  else do
    let pageCanvases ← readPageCanvases document document.pages
    if pageCanvases.length ≠ document.pages.length then
      throw (.inconsistentReadModel
        "Document page count does not match read model Canvas count")
    else pure ⟨document, sourceAsset, pageCanvases⟩

/-! ### What is read -/

theorem found_eq_ok {ε α : Type} {catalog : String} {missing : DocumentReadError}
    {answer : Except ε (Option α)} {a : α} :
    found catalog missing answer = .ok a ↔ answer = .ok (some a) := by
  unfold found
  simp only [Except.bind_eq_ok, Except.mapError_eq_ok, Except.okOr_eq_ok]
  constructor
  · rintro ⟨_, hanswer, rfl⟩
    exact hanswer
  · intro hanswer
    exact ⟨_, hanswer, rfl⟩

/-- The checks of the view on a Canvas are those of a bundle. -/
theorem validatePageCanvas_eq_ok {document : DocumentDescriptor} {page : DocumentPageDescriptor}
    {canvas : CanvasDescriptor} :
    validatePageCanvas document page canvas = .ok () ↔
      Overlays document.sessionId page canvas := by
  have hwidth := @bne_of_pos canvas.space.width page.displayGeometry.width
    canvas.space.width_valid page.displayGeometry.width_valid.1
  have hheight := @bne_of_pos canvas.space.height page.displayGeometry.height
    canvas.space.height_valid page.displayGeometry.height_valid.1
  unfold validatePageCanvas
  rw [containsLayer_default]
  constructor
  · intro h
    split_ifs at h with hcanvas hsession hspace
    rw [Bool.or_eq_true, not_or, Bool.not_eq_true, Bool.not_eq_true] at hspace
    exact ⟨not_not.mp hcanvas, (not_not.mp hsession).symm, (hwidth.mp hspace.1).symm,
      (hheight.mp hspace.2).symm⟩
  · intro hoverlays
    rw [if_neg (not_not.mpr hoverlays.canvasId), if_neg (not_not.mpr hoverlays.sessionId.symm),
      hwidth.mpr hoverlays.width.symm, hheight.mpr hoverlays.height.symm]
    rfl

section
variable {answers : (call : ReadCall) → call.Answer}

/-- Every page's Canvas is found and overlays it. -/
theorem readPageCanvases_eq_ok {document : DocumentDescriptor}
    {pages : List DocumentPageDescriptor} {views : List PageCanvasView} :
    (readPageCanvases document pages).run.result answers () = .ok views ↔
      List.Forall₂ (fun page view => answers (.getCanvas page.overlayCanvasId) =
          .ok (some view.canvas) ∧ view.pageId = page.pageId ∧
        Overlays document.sessionId page view.canvas) pages views := by
  induction pages generalizing views with
  | nil =>
    rw [readPageCanvases, Proc.result_run_pure, List.forall₂_nil_left_iff]
    constructor
    · intro h
      exact (Except.ok.inj h).symm
    · rintro rfl
      rfl
  | cons page pages ih =>
    rw [readPageCanvases, List.forall₂_cons_left_iff]
    simp only [Proc.result_run_bind, Proc.result_run_liftM, Proc.result_run_ofExcept,
      Proc.result_run_pure, Except.bind_eq_ok, found_eq_ok, Except.ok_bind]
    constructor
    · rintro ⟨canvas, hcanvas, ⟨⟩, hoverlays, later, hlater, ⟨⟩⟩
      exact ⟨⟨page.pageId, canvas⟩, later, ⟨hcanvas, rfl, validatePageCanvas_eq_ok.mp hoverlays⟩,
        ih.mp hlater, rfl⟩
    · rintro ⟨⟨pageId, canvas⟩, later, ⟨hcanvas, rfl, hoverlays⟩, hlater, rfl⟩
      exact ⟨canvas, hcanvas, (), validatePageCanvas_eq_ok.mpr hoverlays, later, ih.mpr hlater,
        rfl⟩

/-- A view is read exactly when everything in it is found and agrees. -/
theorem getDocumentView_eq_ok {documentId : DocumentId} {view : DocumentView} :
    (getDocumentView documentId).run.result answers () = .ok view ↔
      answers (.getDocument documentId) = .ok (some view.document) ∧
      answers (.getAsset view.document.sourceAssetId) = .ok (some view.sourceAsset) ∧
      view.sourceAsset.assetId = view.document.sourceAssetId ∧
      List.Forall₂ (fun page entry => answers (.getCanvas page.overlayCanvasId) =
          .ok (some entry.canvas) ∧ entry.pageId = page.pageId ∧
        Overlays view.document.sessionId page entry.canvas) view.document.pages
        view.pageCanvases := by
  unfold getDocumentView
  simp only [Proc.result_run_bind, Proc.result_run_liftM, Proc.result_run_ofExcept,
    Except.bind_eq_ok, found_eq_ok, Except.ok_bind]
  constructor
  · rintro ⟨document, hdocument, sourceAsset, hasset, h⟩
    by_cases hidentity : sourceAsset.assetId ≠ document.sourceAssetId
    · rw [if_pos hidentity] at h
      cases h
    rw [if_neg hidentity, Proc.result_run_bind] at h
    obtain ⟨views, hviews, h⟩ := Except.bind_eq_ok.mp h
    split_ifs at h
    · cases h
    · cases h
      exact ⟨hdocument, hasset, not_not.mp hidentity, readPageCanvases_eq_ok.mp hviews⟩
  · rintro ⟨hdocument, hasset, hidentity, hviews⟩
    refine ⟨view.document, hdocument, view.sourceAsset, hasset, ?_⟩
    rw [if_neg (not_not.mpr hidentity), Proc.result_run_bind,
      readPageCanvases_eq_ok.mpr hviews, Except.ok_bind,
      if_neg (not_not.mpr hviews.length_eq.symm)]
    rfl

end

/-! ### Views and bundles -/

/-- The entries of a bundle, from the pages and their Canvases in order. -/
def pageEntries (pages : List DocumentPageDescriptor) (canvases : List CanvasDescriptor) :
    List PageCanvasComposition :=
  List.zipWith (fun page canvas => ⟨page.pageId, canvas⟩) pages canvases

/-- A bundle entry, as read. -/
def PageCanvasComposition.view (entry : PageCanvasComposition) : PageCanvasView :=
  ⟨entry.pageId, entry.canvas⟩

/-- A bundle, as read. -/
def DocumentComposition.view (composition : DocumentComposition) : DocumentView :=
  ⟨composition.document, composition.sourceAsset,
    composition.pageCanvases.map PageCanvasComposition.view⟩

/-- The checks of a view page by page are a lookup of Canvases and the checks of a bundle. -/
theorem forall₂_pageEntries {S O : DocumentPageDescriptor → CanvasDescriptor → Prop}
    {pages : List DocumentPageDescriptor} {views : List PageCanvasView} :
    List.Forall₂ (fun page view => S page view.canvas ∧ view.pageId = page.pageId ∧
        O page view.canvas) pages views ↔
      ∃ canvases, List.Forall₂ S pages canvases ∧
        List.Forall₂ (fun page entry => page.pageId = entry.pageId ∧ O page entry.canvas) pages
          (pageEntries pages canvases) ∧
        views = (pageEntries pages canvases).map PageCanvasComposition.view := by
  induction pages generalizing views with
  | nil =>
    rw [List.forall₂_nil_left_iff]
    constructor
    · rintro rfl
      exact ⟨[], .nil, .nil, rfl⟩
    · rintro ⟨canvases, hcanvases, -, rfl⟩
      rw [List.forall₂_nil_left_iff.mp hcanvases]
      rfl
  | cons page pages ih =>
    rw [List.forall₂_cons_left_iff]
    constructor
    · rintro ⟨⟨pageId, canvas⟩, later, ⟨hstored, rfl, hoverlays⟩, hlater, rfl⟩
      obtain ⟨canvases, hcanvases, hentries, rfl⟩ := ih.mp hlater
      exact ⟨canvas :: canvases, .cons hstored hcanvases, .cons ⟨rfl, hoverlays⟩ hentries, rfl⟩
    · rintro ⟨canvases, hcanvases, hentries, rfl⟩
      obtain ⟨canvas, later, hstored, hlater, rfl⟩ := List.forall₂_cons_left_iff.mp hcanvases
      unfold pageEntries at hentries ⊢
      rw [List.zipWith_cons_cons] at hentries ⊢
      obtain ⟨⟨-, hoverlays⟩, hrest⟩ := List.forall₂_cons.mp hentries
      exact ⟨_, _, ⟨hstored, rfl, hoverlays⟩, ih.mpr ⟨later, hlater, hrest, rfl⟩, rfl⟩

/-- The read view and the bundle validator agree: a view is read exactly if the catalogs return
its parts and these make a bundle, and the view is that bundle. What was composed and stored is
read back. -/
theorem document_view_agrees (answers : (call : ReadCall) → call.Answer) :
    (∀ (documentId : DocumentId) (view : DocumentView),
      (getDocumentView documentId).run.result answers () = .ok view ↔
        ∃ document sourceAsset canvases composition,
          answers (.getDocument documentId) = .ok (some document) ∧
          answers (.getAsset document.sourceAssetId) = .ok (some sourceAsset) ∧
          List.Forall₂ (fun page canvas => answers (.getCanvas page.overlayCanvasId) =
            .ok (some canvas)) document.pages canvases ∧
          DocumentComposition.new document sourceAsset (pageEntries document.pages canvases) =
            .ok composition ∧
          view = composition.view) ∧
    ∀ (fresh : Nat → EntityId) (input : DocumentComposeInput) (composition : DocumentComposition),
      compose fresh input = .ok composition →
      answers (.getDocument composition.document.documentId) = .ok (some composition.document) →
      answers (.getAsset composition.sourceAsset.assetId) = .ok (some composition.sourceAsset) →
      (∀ entry ∈ composition.pageCanvases,
        answers (.getCanvas entry.canvas.canvasId) = .ok (some entry.canvas)) →
      (getDocumentView composition.document.documentId).run.result answers () =
        .ok composition.view := by
  constructor
  · intro documentId view
    rw [getDocumentView_eq_ok]
    constructor
    · rintro ⟨hdocument, hasset, hidentity, hviews⟩
      obtain ⟨canvases, hcanvases, hentries, hview⟩ := (@forall₂_pageEntries
        (fun page canvas => answers (.getCanvas page.overlayCanvasId) = .ok (some canvas))
        (Overlays view.document.sessionId) _ _).mp hviews
      have hbundles : Bundles view.document view.sourceAsset
          (pageEntries view.document.pages canvases) := ⟨hidentity.symm, hentries⟩
      refine ⟨_, _, canvases, ⟨_, _, _, hbundles⟩, hdocument, hasset, hcanvases,
        DocumentComposition.new_eq_ok.mpr ⟨rfl, rfl, rfl⟩, ?_⟩
      unfold DocumentComposition.view
      dsimp only
      rw [← hview]
    · rintro ⟨document, sourceAsset, canvases, composition, hdocument, hasset, hcanvases, hnew,
        rfl⟩
      obtain ⟨rfl, rfl, hentries⟩ := DocumentComposition.new_eq_ok.mp hnew
      have hbundled := composition.bundles.pages
      rw [hentries] at hbundled
      refine ⟨hdocument, hasset, composition.bundles.asset.symm, forall₂_pageEntries.mpr
        ⟨canvases, hcanvases, hbundled, ?_⟩⟩
      rw [← hentries]
      rfl
  · intro fresh input composition _ hdocument hasset hcanvases
    have hbundles := composition.bundles
    rw [← hbundles.asset] at hasset
    apply getDocumentView_eq_ok.mpr
    refine ⟨hdocument, hasset, hbundles.asset.symm, ?_⟩
    show List.Forall₂ _ composition.document.pages (composition.pageCanvases.map _)
    rw [List.forall₂_map_right_iff]
    obtain ⟨hlength, hzip⟩ := List.forall₂_iff_zip.mp hbundles.pages
    apply List.forall₂_iff_zip.mpr
    refine ⟨hlength, fun hmem => ?_⟩
    obtain ⟨hpage, hoverlays⟩ := hzip hmem
    have hstored := hcanvases _ (List.of_mem_zip hmem).2
    rw [← hoverlays.canvasId] at hstored
    exact ⟨hstored, hpage.symm, hoverlays⟩

/-- Catalogs that hold the parts of one bundle. -/
def storedAnswers (composition : DocumentComposition) : (call : ReadCall) → call.Answer
  | .authorizeSessionRead .. => .ok ()
  | .getDocument documentId =>
    .ok (if documentId = composition.document.documentId then some composition.document else none)
  | .listDocuments _ => .ok []
  | .getAsset assetId =>
    .ok (if assetId = composition.sourceAsset.assetId then some composition.sourceAsset else none)
  | .getCanvas canvasId =>
    .ok ((composition.pageCanvases.map PageCanvasComposition.canvas).find? fun canvas =>
      canvas.canvasId = canvasId)

def lessonInput : DocumentComposeInput where
  sessionId := ⟨countedIds 101⟩
  documentType := .pdf
  sourceAsset := lessonAsset
  sourceTitle := none
  pages := [squarePage]
  sourceTitle_valid := DocumentComposeInput.normalized_valid none
  pages_ne_nil := List.cons_ne_nil _ _
  countsUp := countsUp_squarePage

theorem document_view_agrees_sample :
    ∃ composition, compose countedIds lessonInput = .ok composition ∧
      (getDocumentView composition.document.documentId).run.result
        (storedAnswers composition) () = .ok composition.view := by
  have hfresh : Set.InjOn countedIds (Set.Iio (3 * lessonInput.pages.length + 1)) :=
    injOn_countedIds
  obtain ⟨composition, hcompose, hcomposes⟩ := exists_compose hfresh
  obtain ⟨entry, hentry⟩ := List.length_eq_one_iff.mp hcomposes.canvasCount
  refine ⟨composition, hcompose, (document_view_agrees (storedAnswers composition)).2 _ _ _
    hcompose (congrArg _ (if_pos rfl)) (congrArg _ (if_pos rfl)) ?_⟩
  intro other hother
  rw [hentry, List.mem_singleton] at hother
  subst hother
  unfold storedAnswers
  rw [hentry]
  simp

end OrbitRelay
