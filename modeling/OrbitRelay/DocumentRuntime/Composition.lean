import Mathlib.Data.Set.Function
import Mathlib.Order.Interval.Set.Defs
import OrbitRelay.Document.Basic
import OrbitRelay.Pdf.Inspect

/-! Construction of a Document with one Canvas for each page, from neutral source pages and a
supply of fresh identities. -/
namespace OrbitRelay

/-- A failure while composing a Document. -/
inductive DocumentCompositionError
  | invalidInput (reason : String)
  | invalidPageSequence (expected actual : UInt32)
  | canvasDescriptorFailed (source : CanvasError)
  | documentDescriptorFailed (source : DocumentError)
  | compositionInvariantViolation (reason : String)
deriving DecidableEq

/-- A neutral source page supplied by a document-format adapter. -/
structure DocumentSourcePage where
  pageIndex : UInt32
  displayGeometry : PageDisplayGeometry

/-- Page indexes that count up from zero. -/
def CountsUp (indexes : List UInt32) : Prop :=
  ∀ (i : Nat) (index : UInt32), indexes[i]? = some index → index.toNat = i

/-- The checks on the order of the source pages. -/
def checkSequence (pages : List DocumentSourcePage) : Except DocumentCompositionError Unit :=
  pages.zipIdx.forM fun (page, position) => do
    let expected ← (UInt32.tryFrom position).okOr
      (.invalidInput "source page count exceeds u32 capacity")
    if page.pageIndex ≠ expected then .error (.invalidPageSequence expected page.pageIndex)
    else .ok ()

theorem checkSequence_eq_ok {pages : List DocumentSourcePage} :
    checkSequence pages = .ok () ↔ CountsUp (pages.map DocumentSourcePage.pageIndex) := by
  have hcheck : ∀ (page : DocumentSourcePage) (position : Nat),
      ((UInt32.tryFrom position).okOr
          (DocumentCompositionError.invalidInput "source page count exceeds u32 capacity") >>=
        fun expected =>
          if page.pageIndex ≠ expected then
            Except.error (.invalidPageSequence expected page.pageIndex)
          else .ok ()) = .ok () ↔ page.pageIndex.toNat = position := by
    intro page position
    simp only [Except.bind_eq_ok, Except.okOr_eq_ok, UInt32.tryFrom_eq_some]
    constructor
    · rintro ⟨expected, hexpected, h⟩
      split_ifs at h with hne
      rw [not_not.mp hne, hexpected]
    · intro h
      exact ⟨page.pageIndex, h, if_neg (not_not.mpr rfl)⟩
  unfold checkSequence CountsUp
  rw [Except.forM_eq_ok]
  constructor
  · intro h i index hi
    rw [List.getElem?_map, Option.map_eq_some_iff] at hi
    obtain ⟨page, hpage, rfl⟩ := hi
    have hmem : (page, i) ∈ pages.zipIdx := List.mk_mem_zipIdx_iff_getElem?.mpr hpage
    exact (hcheck page i).mp (h _ hmem)
  · rintro h ⟨page, i⟩ hmem
    have hpage := List.mk_mem_zipIdx_iff_getElem?.mp hmem
    apply (hcheck page i).mpr
    apply h
    rw [List.getElem?_map, hpage, Option.map_some]

/-- `trim`, then nothing if nothing is left. -/
def trimmed (text : String) : Option String :=
  let chars := Text.trim text.toList
  if chars.isEmpty then none else some (String.ofList chars)

theorem isBlank_trimmed {text title : String} (h : trimmed text = some title) :
    Text.isBlank title = false := by
  unfold trimmed at h
  dsimp only at h
  split_ifs at h with hempty
  cases h
  exact Text.isBlank_trim (Bool.eq_false_iff.mpr hempty)

/-- Neutral input to the composer, with the source title normalized. -/
structure DocumentComposeInput where
  sessionId : SessionId
  documentType : DocumentType
  sourceAsset : SourceAssetDescriptor
  sourceTitle : Option String
  pages : List DocumentSourcePage
  sourceTitle_valid : ∀ title ∈ sourceTitle, Text.isBlank title = false
  pages_ne_nil : pages ≠ []
  countsUp : CountsUp (pages.map DocumentSourcePage.pageIndex)

namespace DocumentComposeInput

def check (pages : List DocumentSourcePage) : Except DocumentCompositionError Unit :=
  if pages.isEmpty then .error (.invalidInput "at least one source page is required")
  else checkSequence pages

theorem check_eq_ok {pages : List DocumentSourcePage} :
    check pages = .ok () ↔ pages ≠ [] ∧ CountsUp (pages.map DocumentSourcePage.pageIndex) := by
  unfold check
  split_ifs with hempty
  · simp [List.isEmpty_iff.mp hempty]
  · rw [checkSequence_eq_ok, and_iff_right (fun hnil => hempty (List.isEmpty_iff.mpr hnil))]

theorem normalized_valid (sourceTitle : Option String) :
    ∀ title ∈ sourceTitle.bind trimmed, Text.isBlank title = false := by
  intro title htitle
  obtain ⟨text, -, h⟩ := Option.bind_eq_some_iff.mp htitle
  exact isBlank_trimmed h

/-- Validates and creates a neutral composition input. -/
def new (sessionId : SessionId) (documentType : DocumentType)
    (sourceAsset : SourceAssetDescriptor) (sourceTitle : Option String)
    (pages : List DocumentSourcePage) : Except DocumentCompositionError DocumentComposeInput :=
  match h : check pages with
  | .error e => .error e
  | .ok () =>
    .ok ⟨sessionId, documentType, sourceAsset, sourceTitle.bind trimmed, pages,
      normalized_valid sourceTitle, (check_eq_ok.mp h).1, (check_eq_ok.mp h).2⟩

/-- Inputs are accepted exactly with pages that count up from zero, and keep what was given. -/
theorem new_eq_ok {sessionId : SessionId} {documentType : DocumentType}
    {sourceAsset : SourceAssetDescriptor} {sourceTitle : Option String}
    {pages : List DocumentSourcePage} {input : DocumentComposeInput} :
    new sessionId documentType sourceAsset sourceTitle pages = .ok input ↔
      input.sessionId = sessionId ∧ input.documentType = documentType ∧
        input.sourceAsset = sourceAsset ∧ input.sourceTitle = sourceTitle.bind trimmed ∧
        input.pages = pages := by
  unfold new
  constructor
  · intro h
    split at h
    · cases h
    · cases h
      exact ⟨rfl, rfl, rfl, rfl, rfl⟩
  · rintro ⟨rfl, rfl, rfl, htitle, rfl⟩
    have hcheck : check input.pages = .ok () :=
      check_eq_ok.mpr ⟨input.pages_ne_nil, input.countsUp⟩
    split
    · rename_i e he
      cases hcheck.symm.trans he
    · cases input
      cases htitle
      rfl

theorem exists_new (sessionId : SessionId) (documentType : DocumentType)
    (sourceAsset : SourceAssetDescriptor) (sourceTitle : Option String)
    {pages : List DocumentSourcePage} :
    (∃ input, new sessionId documentType sourceAsset sourceTitle pages = .ok input) ↔
      pages ≠ [] ∧ CountsUp (pages.map DocumentSourcePage.pageIndex) := by
  constructor
  · rintro ⟨input, h⟩
    obtain ⟨-, -, -, -, rfl⟩ := new_eq_ok.mp h
    exact ⟨input.pages_ne_nil, input.countsUp⟩
  · rintro ⟨hne, hcounts⟩
    exact ⟨⟨sessionId, documentType, sourceAsset, sourceTitle.bind trimmed, pages,
      normalized_valid sourceTitle, hne, hcounts⟩, new_eq_ok.mpr ⟨rfl, rfl, rfl, rfl, rfl⟩⟩

end DocumentComposeInput

/-- The stable fallback title for a supported type. -/
def defaultTitleFor : DocumentType → String
  | .pdf => "Untitled PDF"

/-- One page's generated Page identity and Canvas descriptor. -/
structure PageCanvasComposition where
  pageId : PageId
  canvas : CanvasDescriptor

/-- The checks on one page and its entry. -/
def validatePage (sessionId : SessionId) (page : DocumentPageDescriptor)
    (pageCanvas : PageCanvasComposition) : Except DocumentCompositionError Unit :=
  let canvas := pageCanvas.canvas
  if page.pageId ≠ pageCanvas.pageId then
    .error (.compositionInvariantViolation
      "Page identity does not match its Canvas composition entry")
  else if page.overlayCanvasId ≠ canvas.canvasId then
    .error (.compositionInvariantViolation
      "Page overlay Canvas does not match Canvas descriptor")
  else if sessionId ≠ canvas.sessionId then
    .error (.compositionInvariantViolation "Canvas belongs to a different Session")
  else if page.displayGeometry.width != canvas.space.width ||
      page.displayGeometry.height != canvas.space.height then
    .error (.compositionInvariantViolation "Page geometry does not match Canvas space")
  else if !canvas.containsLayer canvas.defaultLayerId then
    .error (.compositionInvariantViolation "Canvas default layer is not in its layer set")
  else .ok ()

/-- The checks on a finished bundle. -/
def validate (document : DocumentDescriptor) (sourceAsset : SourceAssetDescriptor)
    (pageCanvases : List PageCanvasComposition) : Except DocumentCompositionError Unit :=
  if document.sourceAssetId ≠ sourceAsset.assetId then
    .error (.compositionInvariantViolation
      "Document source Asset does not match composition metadata")
  else if document.pages.length ≠ pageCanvases.length then
    .error (.compositionInvariantViolation "Document page count does not match Canvas count")
  else (document.pages.zip pageCanvases).forM fun (page, pageCanvas) =>
    validatePage document.sessionId page pageCanvas

/-! ### What a bundle agrees on -/

/-- The Canvas overlays the page, in the Session of the Document. -/
structure Overlays (sessionId : SessionId) (page : DocumentPageDescriptor)
    (canvas : CanvasDescriptor) : Prop where
  canvasId : page.overlayCanvasId = canvas.canvasId
  sessionId : sessionId = canvas.sessionId
  width : page.displayGeometry.width = canvas.space.width
  height : page.displayGeometry.height = canvas.space.height

/-- Positive finite numbers differ for IEEE exactly if they differ. -/
theorem bne_of_pos {x y : Float} (hx : x.isFinite = true ∧ ¬ x ≤ 0)
    (hy : y.isFinite = true) : (x != y) = false ↔ x = y := by
  rw [bne, Bool.not_eq_false']
  constructor
  · exact Float.eq_of_beq_of_pos hx hy
  · rintro rfl
    exact Float.beq_self_of_isFinite hx.1

theorem containsLayer_default (canvas : CanvasDescriptor) :
    canvas.containsLayer canvas.defaultLayerId = true :=
  List.elem_eq_true_of_mem canvas.default_mem

theorem validatePage_eq_ok {sessionId : SessionId} {page : DocumentPageDescriptor}
    {pageCanvas : PageCanvasComposition} :
    validatePage sessionId page pageCanvas = .ok () ↔
      page.pageId = pageCanvas.pageId ∧ Overlays sessionId page pageCanvas.canvas := by
  have hwidth := @bne_of_pos _ pageCanvas.canvas.space.width
    page.displayGeometry.width_valid pageCanvas.canvas.space.width_valid.1
  have hheight := @bne_of_pos _ pageCanvas.canvas.space.height
    page.displayGeometry.height_valid pageCanvas.canvas.space.height_valid.1
  unfold validatePage
  dsimp only
  rw [containsLayer_default]
  constructor
  · intro h
    split_ifs at h with hpage hcanvas hsession hspace
    rw [Bool.or_eq_true, not_or, Bool.not_eq_true, Bool.not_eq_true] at hspace
    exact ⟨not_not.mp hpage, not_not.mp hcanvas, not_not.mp hsession, hwidth.mp hspace.1,
      hheight.mp hspace.2⟩
  · rintro ⟨hpage, hoverlays⟩
    rw [if_neg (not_not.mpr hpage), if_neg (not_not.mpr hoverlays.canvasId),
      if_neg (not_not.mpr hoverlays.sessionId), hwidth.mpr hoverlays.width,
      hheight.mpr hoverlays.height]
    rfl

/-- A bundle of a Document, its Asset, and the entries of its pages in order. -/
structure Bundles (document : DocumentDescriptor) (sourceAsset : SourceAssetDescriptor)
    (pageCanvases : List PageCanvasComposition) : Prop where
  asset : document.sourceAssetId = sourceAsset.assetId
  pages : List.Forall₂ (fun page pageCanvas => page.pageId = pageCanvas.pageId ∧
    Overlays document.sessionId page pageCanvas.canvas) document.pages pageCanvases

theorem validate_eq_ok {document : DocumentDescriptor} {sourceAsset : SourceAssetDescriptor}
    {pageCanvases : List PageCanvasComposition} :
    validate document sourceAsset pageCanvases = .ok () ↔
      Bundles document sourceAsset pageCanvases := by
  have hpages : (document.pages.zip pageCanvases).forM (fun entry =>
        validatePage document.sessionId entry.1 entry.2) = .ok () ↔
      ∀ page pageCanvas, (page, pageCanvas) ∈ document.pages.zip pageCanvases →
        page.pageId = pageCanvas.pageId ∧
          Overlays document.sessionId page pageCanvas.canvas := by
    rw [Except.forM_eq_ok]
    simp only [validatePage_eq_ok, Prod.forall]
  unfold validate
  constructor
  · intro h
    split_ifs at h with hasset hlength
    exact ⟨not_not.mp hasset, List.forall₂_iff_zip.mpr ⟨not_not.mp hlength,
      fun hmem => hpages.mp h _ _ hmem⟩⟩
  · rintro ⟨hasset, hbundled⟩
    obtain ⟨hlength, hmem⟩ := List.forall₂_iff_zip.mp hbundled
    rw [if_neg (not_not.mpr hasset), if_neg (not_not.mpr hlength)]
    exact hpages.mpr fun _ _ h => hmem h

/-- A complete immutable Document composition bundle. -/
structure DocumentComposition where
  document : DocumentDescriptor
  sourceAsset : SourceAssetDescriptor
  pageCanvases : List PageCanvasComposition
  bundles : Bundles document sourceAsset pageCanvases

/-- Creates a bundle after validating all cross-domain invariants. -/
def DocumentComposition.new (document : DocumentDescriptor)
    (sourceAsset : SourceAssetDescriptor) (pageCanvases : List PageCanvasComposition) :
    Except DocumentCompositionError DocumentComposition :=
  match h : validate document sourceAsset pageCanvases with
  | .error e => .error e
  | .ok () => .ok ⟨document, sourceAsset, pageCanvases, validate_eq_ok.mp h⟩

/-- Bundles are accepted exactly if they agree, and keep what was given. -/
theorem DocumentComposition.new_eq_ok {document : DocumentDescriptor}
    {sourceAsset : SourceAssetDescriptor} {pageCanvases : List PageCanvasComposition}
    {composition : DocumentComposition} :
    new document sourceAsset pageCanvases = .ok composition ↔
      composition.document = document ∧ composition.sourceAsset = sourceAsset ∧
        composition.pageCanvases = pageCanvases := by
  unfold new
  constructor
  · intro h
    split at h
    · cases h
    · cases h
      exact ⟨rfl, rfl, rfl⟩
  · rintro ⟨rfl, rfl, rfl⟩
    have hvalid := validate_eq_ok.mpr composition.bundles
    split
    · rename_i e he
      cases hvalid.symm.trans he
    · rfl

/-! ### Composing -/

/-- The descriptors of one page, from three identities. -/
def composePage (sessionId : SessionId) (pageId : PageId) (canvasId : CanvasId)
    (layerId : LayerId) (page : DocumentSourcePage) :
    Except DocumentCompositionError (DocumentPageDescriptor × PageCanvasComposition) := do
  let geometry := page.displayGeometry
  let space ← (CanvasSpace.new geometry.width geometry.height).mapError .canvasDescriptorFailed
  let canvas ← (CanvasDescriptor.new canvasId sessionId space [layerId] layerId).mapError
    .canvasDescriptorFailed
  .ok (⟨pageId, page.pageIndex, geometry, canvasId⟩, ⟨pageId, canvas⟩)

/-- The descriptors of all pages; each page draws three identities. -/
def composePages (fresh : Nat → EntityId) (sessionId : SessionId) (drawn : Nat) :
    List DocumentSourcePage → Except DocumentCompositionError
      (List DocumentPageDescriptor × List PageCanvasComposition)
  | [] => .ok ([], [])
  | page :: rest => do
    let (documentPage, pageCanvas) ← composePage sessionId ⟨fresh drawn⟩ ⟨fresh (drawn + 1)⟩
      ⟨fresh (drawn + 2)⟩ page
    let (documentPages, pageCanvases) ← composePages fresh sessionId (drawn + 3) rest
    .ok (documentPage :: documentPages, pageCanvas :: pageCanvases)

/-- The title of the source, else the file name, else the default. -/
def composedTitle (input : DocumentComposeInput) : String :=
  (input.sourceTitle.or (input.sourceAsset.originalFilename.bind trimmed)).getD
    (defaultTitleFor input.documentType)

/-- Generates a complete immutable Document and Canvas composition. The identities are drawn in
order: three for each page, then that of the Document. -/
def compose (fresh : Nat → EntityId) (input : DocumentComposeInput) :
    Except DocumentCompositionError DocumentComposition := do
  let (documentPages, pageCanvases) ← composePages fresh input.sessionId 0 input.pages
  let document ← (DocumentDescriptor.new ⟨fresh (3 * input.pages.length)⟩ input.sessionId
    input.documentType input.sourceAsset.assetId (composedTitle input) documentPages).mapError
    .documentDescriptorFailed
  DocumentComposition.new document input.sourceAsset pageCanvases

/-! ### What is composed -/

/-- The Canvas of a page: one layer, and a space of the page's own dimensions. -/
def composedCanvas (sessionId : SessionId) (canvasId : CanvasId) (layerId : LayerId)
    (geometry : PageDisplayGeometry) : CanvasDescriptor where
  canvasId := canvasId
  sessionId := sessionId
  space := ⟨geometry.width, geometry.height, geometry.width_valid, geometry.height_valid⟩
  layerIds := [layerId]
  defaultLayerId := layerId
  layers_ordered := List.pairwise_singleton ..
  default_mem := List.mem_singleton_self _

/-- No geometry of a page is refused as a Canvas space, and no single layer as a layer set. -/
theorem composePage_eq (sessionId : SessionId) (pageId : PageId) (canvasId : CanvasId)
    (layerId : LayerId) (page : DocumentSourcePage) :
    composePage sessionId pageId canvasId layerId page =
      .ok (⟨pageId, page.pageIndex, page.displayGeometry, canvasId⟩,
        ⟨pageId, composedCanvas sessionId canvasId layerId page.displayGeometry⟩) := by
  have hspace : CanvasSpace.new page.displayGeometry.width page.displayGeometry.height =
      .ok (composedCanvas sessionId canvasId layerId page.displayGeometry).space := by
    unfold CanvasSpace.new
    rw [dif_pos page.displayGeometry.width_valid, dif_pos page.displayGeometry.height_valid]
    rfl
  have hcanvas : CanvasDescriptor.new canvasId sessionId
      (composedCanvas sessionId canvasId layerId page.displayGeometry).space [layerId] layerId =
        .ok (composedCanvas sessionId canvasId layerId page.displayGeometry) := by
    have hlayers : Json.orderedSet [layerId] = [layerId] := rfl
    simp only [CanvasDescriptor.new, hlayers]
    rw [if_neg (by simp), dif_pos (List.mem_singleton_self layerId)]
    rfl
  unfold composePage
  dsimp only
  rw [hspace, Except.mapError_ok, Except.ok_bind, hcanvas, Except.mapError_ok, Except.ok_bind]

section
variable (fresh : Nat → EntityId) (sessionId : SessionId)

/-- The page at a position, with the identities drawn for it. -/
def composedPage (drawn : Nat) (page : DocumentSourcePage) : DocumentPageDescriptor :=
  ⟨⟨fresh drawn⟩, page.pageIndex, page.displayGeometry, ⟨fresh (drawn + 1)⟩⟩

def composedEntry (drawn : Nat) (page : DocumentSourcePage) : PageCanvasComposition :=
  ⟨⟨fresh drawn⟩, composedCanvas sessionId ⟨fresh (drawn + 1)⟩ ⟨fresh (drawn + 2)⟩
    page.displayGeometry⟩

theorem composePages_eq (drawn : Nat) (pages : List DocumentSourcePage) :
    composePages fresh sessionId drawn pages =
      .ok (pages.mapIdx fun i page => composedPage fresh (drawn + 3 * i) page,
        pages.mapIdx fun i page => composedEntry fresh sessionId (drawn + 3 * i) page) := by
  induction pages generalizing drawn with
  | nil => rfl
  | cons page pages ih =>
    have hnext : ∀ i, drawn + 3 * (i + 1) = drawn + 3 + 3 * i := by omega
    rw [composePages, composePage_eq, Except.ok_bind]
    dsimp only
    rw [ih, Except.ok_bind, List.mapIdx_cons, List.mapIdx_cons]
    simp only [hnext]
    rfl

end

/-- The composed bundle is the pages of the input, each with a Canvas of its own. -/
structure Composes (input : DocumentComposeInput) (composition : DocumentComposition) :
    Prop where
  sessionId : composition.document.sessionId = input.sessionId
  documentType : composition.document.documentType = input.documentType
  sourceAsset : composition.sourceAsset = input.sourceAsset
  pageCount : composition.document.pages.length = input.pages.length
  canvasCount : composition.pageCanvases.length = input.pages.length
  page : ∀ (i : Nat) (source : DocumentSourcePage) (page : DocumentPageDescriptor)
    (entry : PageCanvasComposition), input.pages[i]? = some source →
    composition.document.pages[i]? = some page → composition.pageCanvases[i]? = some entry →
    page.pageIndex.toNat = i ∧ page.displayGeometry = source.displayGeometry ∧
      entry.canvas.space.width = source.displayGeometry.width ∧
      entry.canvas.space.height = source.displayGeometry.height ∧
      entry.canvas.layerIds = [entry.canvas.defaultLayerId] ∧
      entry.canvas.sessionId = composition.document.sessionId
  title : composition.document.title = composedTitle input

theorem composedTitle_valid (input : DocumentComposeInput) :
    Text.isBlank (composedTitle input) = false := by
  have hfilename := DocumentComposeInput.normalized_valid input.sourceAsset.originalFilename
  unfold composedTitle
  cases hsource : input.sourceTitle with
  | some title => exact input.sourceTitle_valid title hsource
  | none =>
    rw [Option.none_or]
    cases htitle : input.sourceAsset.originalFilename.bind trimmed with
    | some title => exact hfilename title htitle
    | none =>
      cases input.documentType
      decide

/-- The identities of the composed pages are distinct if those drawn for them are. -/
theorem nodup_composedPages {fresh : Nat → EntityId} {kind : IdKind} {k : Nat} (hk : k < 3)
    {pages : List DocumentSourcePage} {id : DocumentPageDescriptor → DomainId kind}
    (hid : ∀ drawn page, id (composedPage fresh drawn page) = ⟨fresh (drawn + k)⟩)
    (hfresh : Set.InjOn fresh (Set.Iio (3 * pages.length + 1))) :
    ((pages.mapIdx fun i page => composedPage fresh (0 + 3 * i) page).map id).Nodup := by
  rw [List.nodup_iff_injective_get]
  rintro ⟨i, hi⟩ ⟨j, hj⟩ heq
  rw [List.length_map, List.length_mapIdx] at hi hj
  simp only [List.get_eq_getElem, List.getElem_map, List.getElem_mapIdx, hid] at heq
  have hdrawn := congrArg DomainId.entityId heq
  have hsame := hfresh (Set.mem_Iio.mpr (by omega)) (Set.mem_Iio.mpr (by omega)) hdrawn
  apply Fin.ext
  show i = j
  omega

theorem contiguous_composedPages (fresh : Nat → EntityId) {pages : List DocumentSourcePage}
    (hcounts : CountsUp (pages.map DocumentSourcePage.pageIndex)) :
    ContiguousFrom 0 (pages.mapIdx fun i page => composedPage fresh (0 + 3 * i) page) := by
  intro i page hpage
  rw [List.getElem?_mapIdx, Option.map_eq_some_iff] at hpage
  obtain ⟨source, hsource, rfl⟩ := hpage
  rw [Nat.zero_add i]
  apply hcounts
  rw [List.getElem?_map, hsource]
  rfl

/-- The Document with the composed pages. -/
def composedDocument (fresh : Nat → EntityId) (input : DocumentComposeInput)
    (hfresh : Set.InjOn fresh (Set.Iio (3 * input.pages.length + 1))) : DocumentDescriptor where
  documentId := ⟨fresh (3 * input.pages.length)⟩
  sessionId := input.sessionId
  documentType := input.documentType
  sourceAssetId := input.sourceAsset.assetId
  title := composedTitle input
  pages := input.pages.mapIdx fun i page => composedPage fresh (0 + 3 * i) page
  title_valid := composedTitle_valid input
  pages_ne_nil := fun hnil => input.pages_ne_nil (List.mapIdx_eq_nil_iff.mp hnil)
  contiguous := contiguous_composedPages fresh input.countsUp
  pageIds_nodup := @nodup_composedPages fresh _ 0 (by decide) _ _ (fun _ _ => rfl) hfresh
  canvasIds_nodup := @nodup_composedPages fresh _ 1 (by decide) _ _ (fun _ _ => rfl) hfresh

theorem bundles_composed {fresh : Nat → EntityId} {input : DocumentComposeInput}
    (hfresh : Set.InjOn fresh (Set.Iio (3 * input.pages.length + 1))) :
    Bundles (composedDocument fresh input hfresh) input.sourceAsset
      (input.pages.mapIdx fun i page =>
        composedEntry fresh input.sessionId (0 + 3 * i) page) := by
  constructor
  · rfl
  · unfold composedDocument
    rw [List.forall₂_iff_get]
    constructor
    · rw [List.length_mapIdx, List.length_mapIdx]
    · intro i hi hi'
      simp only [List.get_eq_getElem, List.getElem_mapIdx]
      exact ⟨rfl, rfl, rfl, rfl, rfl⟩

/-- With identities that are pairwise distinct, any input is composed. -/
theorem exists_compose {fresh : Nat → EntityId} {input : DocumentComposeInput}
    (hfresh : Set.InjOn fresh (Set.Iio (3 * input.pages.length + 1))) :
    ∃ composition, compose fresh input = .ok composition ∧ Composes input composition := by
  have hdocument := DocumentDescriptor.new_self (composedDocument fresh input hfresh)
  refine ⟨⟨composedDocument fresh input hfresh, input.sourceAsset, _, bundles_composed hfresh⟩,
    ?_, ?_⟩
  · unfold compose
    rw [composePages_eq, Except.ok_bind]
    dsimp only
    unfold composedDocument at hdocument ⊢
    rw [hdocument, Except.mapError_ok, Except.ok_bind]
    exact DocumentComposition.new_eq_ok.mpr ⟨rfl, rfl, rfl⟩
  · constructor
    · rfl
    · rfl
    · rfl
    · exact List.length_mapIdx
    · exact List.length_mapIdx
    · intro i source page entry hsource hpage hentry
      have hindex := (composedDocument fresh input hfresh).contiguous i page hpage
      change (input.pages.mapIdx _)[i]? = _ at hpage
      rw [List.getElem?_mapIdx, hsource] at hpage hentry
      cases hpage
      cases hentry
      exact ⟨hindex.trans (Nat.zero_add i), rfl, rfl, rfl, rfl, rfl⟩
    · rfl

/-! ### Pages of an inspected PDF -/

/-- The source pages that an inspection yields. -/
def PdfDocumentMetadata.sourcePages (metadata : PdfDocumentMetadata) :
    List DocumentSourcePage :=
  metadata.pages.map fun page => ⟨page.pageIndex, page.displayGeometry⟩

theorem sourcePages_of_inspectBytes {Document Dictionary Object : Type}
    {lopdf : Lopdf Document Dictionary Object} {assetId : AssetId} {bytes : List UInt8}
    {limits : PdfInspectionLimits} {metadata : PdfDocumentMetadata}
    (h : inspectBytes lopdf assetId bytes limits = .ok (.ok metadata)) :
    metadata.sourcePages ≠ [] ∧
      CountsUp (metadata.sourcePages.map DocumentSourcePage.pageIndex) := by
  obtain ⟨hne, hcounts⟩ := pageIndexes_of_inspectBytes h
  have hindexes : metadata.sourcePages.map DocumentSourcePage.pageIndex =
      metadata.pages.map PdfPageMetadata.pageIndex := by
    unfold PdfDocumentMetadata.sourcePages
    rw [List.map_map]
    rfl
  constructor
  · rwa [PdfDocumentMetadata.sourcePages, Ne, List.map_eq_nil_iff]
  · rw [hindexes]
    intro i index hi
    rw [List.getElem?_map, Option.map_eq_some_iff] at hi
    obtain ⟨page, hpage, rfl⟩ := hi
    exact hcounts i page hpage

/-- Composition never fails on accepted input, and inputs are accepted exactly with some pages
that count up from zero, as the pages of every inspected PDF do. -/
theorem accepted_input_composes (sessionId : SessionId) (documentType : DocumentType)
    (sourceAsset : SourceAssetDescriptor) (sourceTitle : Option String)
    (pages : List DocumentSourcePage) :
    (∀ (input : DocumentComposeInput) (fresh : Nat → EntityId),
      DocumentComposeInput.new sessionId documentType sourceAsset sourceTitle pages = .ok input →
      Set.InjOn fresh (Set.Iio (3 * pages.length + 1)) →
      ∃ composition, compose fresh input = .ok composition ∧ Composes input composition ∧
        Text.isBlank composition.document.title = false ∧
        composition.document.title =
          ((sourceTitle.bind trimmed).or (sourceAsset.originalFilename.bind trimmed)).getD
            (defaultTitleFor documentType)) ∧
    ((∃ input, DocumentComposeInput.new sessionId documentType sourceAsset sourceTitle pages =
        .ok input) ↔ pages ≠ [] ∧ CountsUp (pages.map DocumentSourcePage.pageIndex)) ∧
    (∀ (Document Dictionary Object : Type) (lopdf : Lopdf Document Dictionary Object)
        (assetId : AssetId) (bytes : List UInt8) (limits : PdfInspectionLimits)
        (metadata : PdfDocumentMetadata),
      inspectBytes lopdf assetId bytes limits = .ok (.ok metadata) →
      ∃ input, DocumentComposeInput.new sessionId documentType sourceAsset sourceTitle
        metadata.sourcePages = .ok input) := by
  refine ⟨?_, DocumentComposeInput.exists_new .., ?_⟩
  · intro input fresh hinput hfresh
    obtain ⟨rfl, rfl, rfl, htitle, rfl⟩ := DocumentComposeInput.new_eq_ok.mp hinput
    obtain ⟨composition, hcompose, hcomposes⟩ := exists_compose hfresh
    refine ⟨composition, hcompose, hcomposes, composition.document.title_valid, ?_⟩
    rw [hcomposes.title, composedTitle, htitle]
  · intro Document Dictionary Object lopdf assetId bytes limits metadata h
    exact (DocumentComposeInput.exists_new ..).mpr (sourcePages_of_inspectBytes h)

/-- Identities that are told apart by their bytes. -/
def countedIds (n : Nat) : EntityId := ⟨⟨Vector.replicate 16 (UInt8.ofNat n)⟩⟩

def lessonAsset : SourceAssetDescriptor where
  assetId := ⟨countedIds 100⟩
  mediaType := "application/pdf"
  byteLength := 1
  contentHash := ContentHash.fromBytes (Vector.replicate 32 0x11)
  originalFilename := some " lesson.pdf "
  mediaType_valid := by decide
  originalFilename_valid := by decide

theorem one_valid : (1 : Float).isFinite = true ∧ ¬ (1 : Float) ≤ 0 := by decide +kernel

def squarePage : DocumentSourcePage where
  pageIndex := 0
  displayGeometry := ⟨1, 1, .deg0, one_valid, one_valid⟩

theorem countsUp_squarePage : CountsUp ([squarePage].map DocumentSourcePage.pageIndex) := by
  intro i index hi
  cases i with
  | zero =>
    cases hi
    rfl
  | succ i => cases hi

theorem injOn_countedIds : Set.InjOn countedIds (Set.Iio (3 * [squarePage].length + 1)) := by
  have hdistinct : ∀ i < 4, ∀ j < 4, countedIds i = countedIds j → i = j := by decide
  intro i hi j hj heq
  exact hdistinct i hi j hj heq

theorem accepted_input_composes_sample :
    ∃ input composition, DocumentComposeInput.new ⟨countedIds 101⟩ .pdf lessonAsset (some " ")
        [squarePage] = .ok input ∧ compose countedIds input = .ok composition ∧
      composition.document.title = "lesson.pdf" := by
  have hcomposes := accepted_input_composes ⟨countedIds 101⟩ .pdf lessonAsset (some " ")
    [squarePage]
  obtain ⟨input, hinput⟩ := hcomposes.2.1.mpr ⟨List.cons_ne_nil _ _, countsUp_squarePage⟩
  obtain ⟨composition, hcompose, -, -, htitle⟩ :=
    hcomposes.1 input countedIds hinput injOn_countedIds
  exact ⟨input, composition, hinput, hcompose, htitle.trans (by decide)⟩

end OrbitRelay
