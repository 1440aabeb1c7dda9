import OrbitRelay.Asset.Basic
import OrbitRelay.Canvas.Values
import OrbitRelay.Lib.Result

/-! Immutable Document and Page descriptors, and the displayed geometry of a page. -/
namespace OrbitRelay

abbrev DocumentId := DomainId .document
abbrev PageId := DomainId .page

/-- The semantic kind of a Document. -/
inductive DocumentType
  | pdf
deriving DecidableEq

/-- A normalized quarter-turn. -/
inductive PageRotation
  | deg0 | deg90 | deg180 | deg270
deriving DecidableEq

/-- An invariant violation while constructing a Document value. -/
inductive DocumentError
  | invalidTitle
  | invalidPageGeometry (dimension : String)
  | invalidPageRotation (degrees : UInt16)
  | emptyPages
  | duplicatePageId (pageId : PageId)
  | duplicatePageIndex (pageIndex : UInt32)
  | nonContiguousPageIndex (expected actual : UInt32)
  | duplicateCanvasId (canvasId : CanvasId)
  | invalidDescriptor (reason : String)
deriving DecidableEq

namespace PageRotation

def fromDegrees (degrees : UInt16) : Except DocumentError PageRotation :=
  if degrees = 0 then .ok deg0
  else if degrees = 90 then .ok deg90
  else if degrees = 180 then .ok deg180
  else if degrees = 270 then .ok deg270
  else .error (.invalidPageRotation degrees)

def degrees : PageRotation → UInt16
  | deg0 => 0
  | deg90 => 90
  | deg180 => 180
  | deg270 => 270

@[simp] theorem fromDegrees_degrees (rotation : PageRotation) :
    fromDegrees rotation.degrees = .ok rotation := by
  cases rotation <;> rfl

end PageRotation

/-- The visible logical geometry of one page. -/
structure PageDisplayGeometry where
  width : Float
  height : Float
  rotation : PageRotation
  width_valid : width.isFinite = true ∧ ¬ width ≤ 0
  height_valid : height.isFinite = true ∧ ¬ height ≤ 0

namespace PageDisplayGeometry

def new (width height : Float) (rotation : PageRotation) :
    Except DocumentError PageDisplayGeometry :=
  if hw : width.isFinite = true ∧ ¬ width ≤ 0 then
    if hh : height.isFinite = true ∧ ¬ height ≤ 0 then .ok ⟨width, height, rotation, hw, hh⟩
    else .error (.invalidPageGeometry "height")
  else .error (.invalidPageGeometry "width")

/-- Any positive finite dimensions make a geometry, and no others. -/
theorem new_eq_ok {width height : Float} {rotation : PageRotation}
    {geometry : PageDisplayGeometry} :
    new width height rotation = .ok geometry ↔
      geometry.width = width ∧ geometry.height = height ∧ geometry.rotation = rotation := by
  obtain ⟨w, h, r, hw, hh⟩ := geometry
  unfold new
  constructor
  · intro hnew
    split_ifs at hnew
    cases hnew
    exact ⟨rfl, rfl, rfl⟩
  · rintro ⟨rfl, rfl, rfl⟩
    rw [dif_pos hw, dif_pos hh]

/-- The derived equality, by IEEE values. -/
instance : BEq PageDisplayGeometry where
  beq a b := a.width == b.width && a.height == b.height && a.rotation == b.rotation

/-- Dimensions are positive and finite, where IEEE equality is equality. -/
instance : LawfulBEq PageDisplayGeometry where
  rfl {a} := by
    change (a.width == a.width && a.height == a.height && a.rotation == a.rotation) = true
    rw [Float.beq_self_of_isFinite a.width_valid.1, Float.beq_self_of_isFinite a.height_valid.1,
      beq_self_eq_true]
    rfl
  eq_of_beq {a b} h := by
    change (a.width == b.width && a.height == b.height && a.rotation == b.rotation) = true at h
    simp only [Bool.and_eq_true, beq_iff_eq] at h
    obtain ⟨⟨hwidth, hheight⟩, hrotation⟩ := h
    have hw := Float.eq_of_beq_of_pos a.width_valid b.width_valid.1 hwidth
    have hh := Float.eq_of_beq_of_pos a.height_valid b.height_valid.1 hheight
    cases a
    cases b
    cases hw
    cases hh
    cases hrotation
    rfl

end PageDisplayGeometry

/-- One ordered page and its Canvas overlay. -/
structure DocumentPageDescriptor where
  pageId : PageId
  pageIndex : UInt32
  displayGeometry : PageDisplayGeometry
  overlayCanvasId : CanvasId

namespace DocumentPageDescriptor

/-- The derived equality. -/
instance : BEq DocumentPageDescriptor where
  beq a b := a.pageId == b.pageId && a.pageIndex == b.pageIndex &&
    a.displayGeometry == b.displayGeometry && a.overlayCanvasId == b.overlayCanvasId

instance : LawfulBEq DocumentPageDescriptor where
  rfl {a} := by
    change (a.pageId == a.pageId && a.pageIndex == a.pageIndex &&
      a.displayGeometry == a.displayGeometry && a.overlayCanvasId == a.overlayCanvasId) = true
    simp only [beq_self_eq_true, Bool.and_self]
  eq_of_beq {a b} h := by
    change (a.pageId == b.pageId && a.pageIndex == b.pageIndex &&
      a.displayGeometry == b.displayGeometry && a.overlayCanvasId == b.overlayCanvasId) = true at h
    simp only [Bool.and_eq_true, beq_iff_eq] at h
    obtain ⟨⟨⟨hpage, hindex⟩, hgeometry⟩, hcanvas⟩ := h
    cases a
    cases b
    cases hpage
    cases hindex
    cases hgeometry
    cases hcanvas
    rfl

end DocumentPageDescriptor

/-- The checks on the pages from a position on, given what the pages before it used. -/
def checkPages (position : Nat) (pageIds : List PageId) (pageIndexes : List UInt32)
    (canvasIds : List CanvasId) : List DocumentPageDescriptor → Except DocumentError Unit
  | [] => .ok ()
  | page :: rest => do
    let expectedIndex ← (UInt32.tryFrom position).okOr
      (.invalidDescriptor "page vector is too large for a u32 page index")
    if page.pageId ∈ pageIds then .error (.duplicatePageId page.pageId)
    else if page.pageIndex ∈ pageIndexes then .error (.duplicatePageIndex page.pageIndex)
    else if page.pageIndex ≠ expectedIndex then
      .error (.nonContiguousPageIndex expectedIndex page.pageIndex)
    else if page.overlayCanvasId ∈ canvasIds then
      .error (.duplicateCanvasId page.overlayCanvasId)
    else
      checkPages (position + 1) (page.pageId :: pageIds) (page.pageIndex :: pageIndexes)
        (page.overlayCanvasId :: canvasIds) rest

/-- Page indexes that continue at a position. -/
def ContiguousFrom (position : Nat) (pages : List DocumentPageDescriptor) : Prop :=
  ∀ (i : Nat) (page : DocumentPageDescriptor), pages[i]? = some page →
    page.pageIndex.toNat = position + i

theorem contiguousFrom_cons {position : Nat} {page : DocumentPageDescriptor}
    {pages : List DocumentPageDescriptor} :
    ContiguousFrom position (page :: pages) ↔
      page.pageIndex.toNat = position ∧ ContiguousFrom (position + 1) pages := by
  constructor
  · intro h
    refine ⟨h 0 page rfl, fun i page' hpage' => ?_⟩
    have hindex := h (i + 1) page' (by simpa using hpage')
    omega
  · rintro ⟨hfirst, hrest⟩ i page' hpage'
    cases i with
    | zero =>
      cases hpage'
      exact hfirst
    | succ i =>
      have hindex := hrest i page' (by simpa using hpage')
      omega

/-- The checks pass exactly when indexes continue and no identity is used again. -/
theorem checkPages_eq_ok {position : Nat} {pageIds : List PageId} {pageIndexes : List UInt32}
    {canvasIds : List CanvasId} {pages : List DocumentPageDescriptor}
    (hindexes : ∀ index ∈ pageIndexes, index.toNat < position) :
    checkPages position pageIds pageIndexes canvasIds pages = .ok () ↔
      ContiguousFrom position pages ∧
      ((pages.map DocumentPageDescriptor.pageId).Nodup ∧
        ∀ page ∈ pages, page.pageId ∉ pageIds) ∧
      (pages.map DocumentPageDescriptor.overlayCanvasId).Nodup ∧
        ∀ page ∈ pages, page.overlayCanvasId ∉ canvasIds := by
  induction pages generalizing position pageIds pageIndexes canvasIds with
  | nil => simp [checkPages, ContiguousFrom]
  | cons page pages ih =>
    rw [contiguousFrom_cons, List.map_cons, List.map_cons, List.nodup_cons, List.nodup_cons,
      List.forall_mem_cons, List.forall_mem_cons]
    unfold checkPages
    constructor
    · intro h
      obtain ⟨expectedIndex, hexpected, h⟩ := Except.bind_eq_ok.mp h
      have hvalue := UInt32.tryFrom_eq_some.mp (Except.okOr_eq_ok.mp hexpected)
      split_ifs at h with hpage hindex hne hcanvas
      have hfirst : page.pageIndex.toNat = position := by rw [not_not.mp hne, hvalue]
      have hbefore : ∀ index ∈ page.pageIndex :: pageIndexes, index.toNat < position + 1 := by
        rw [List.forall_mem_cons]
        exact ⟨by omega, fun index hmem => Nat.lt_succ_of_lt (hindexes index hmem)⟩
      obtain ⟨hrest, ⟨hpages, hfresh⟩, hcanvases, hnew⟩ := (ih hbefore).mp h
      simp only [List.mem_cons, not_or] at hfresh hnew
      refine ⟨⟨hfirst, hrest⟩, ⟨⟨?_, hpages⟩, hpage, fun p hp => (hfresh p hp).2⟩,
        ⟨?_, hcanvases⟩, hcanvas, fun p hp => (hnew p hp).2⟩
      · intro hmem
        obtain ⟨p, hp, heq⟩ := List.mem_map.mp hmem
        exact (hfresh p hp).1 heq
      · intro hmem
        obtain ⟨p, hp, heq⟩ := List.mem_map.mp hmem
        exact (hnew p hp).1 heq
    · rintro ⟨⟨hfirst, hrest⟩, ⟨⟨hpage, hpages⟩, hunused, hfresh⟩, ⟨hcanvas, hcanvases⟩, hfree,
        hnew⟩
      have hbefore : ∀ index ∈ page.pageIndex :: pageIndexes, index.toNat < position + 1 := by
        rw [List.forall_mem_cons]
        exact ⟨by omega, fun index hmem => Nat.lt_succ_of_lt (hindexes index hmem)⟩
      -- An index that was used before would be below the position.
      have hindex : page.pageIndex ∉ pageIndexes := fun hmem => by
        have hlt := hindexes _ hmem
        omega
      rw [UInt32.tryFrom_eq_some.mpr hfirst, Except.okOr_some, Except.ok_bind, if_neg hunused,
        if_neg hindex, if_neg (not_not.mpr rfl), if_neg hfree, ih hbefore]
      simp only [List.mem_cons, not_or]
      exact ⟨hrest, ⟨hpages, fun p hp => ⟨fun heq => hpage (heq ▸ List.mem_map_of_mem hp),
        hfresh p hp⟩⟩, hcanvases, fun p hp => ⟨fun heq => hcanvas (heq ▸ List.mem_map_of_mem hp),
        hnew p hp⟩⟩

/-- One static Document collaboration object. -/
structure DocumentDescriptor where
  documentId : DocumentId
  sessionId : SessionId
  documentType : DocumentType
  sourceAssetId : AssetId
  title : String
  pages : List DocumentPageDescriptor
  title_valid : Text.isBlank title = false
  pages_ne_nil : pages ≠ []
  contiguous : ContiguousFrom 0 pages
  pageIds_nodup : (pages.map DocumentPageDescriptor.pageId).Nodup
  canvasIds_nodup : (pages.map DocumentPageDescriptor.overlayCanvasId).Nodup

namespace DocumentDescriptor

/-- The checks on a descriptor, in order. -/
def check (title : String) (pages : List DocumentPageDescriptor) : Except DocumentError Unit :=
  if Text.isBlank title then .error .invalidTitle
  else if pages.isEmpty then .error .emptyPages
  else checkPages 0 [] [] [] pages

theorem check_eq_ok {title : String} {pages : List DocumentPageDescriptor} :
    check title pages = .ok () ↔ Text.isBlank title = false ∧ pages ≠ [] ∧
      ContiguousFrom 0 pages ∧ (pages.map DocumentPageDescriptor.pageId).Nodup ∧
      (pages.map DocumentPageDescriptor.overlayCanvasId).Nodup := by
  have hpages := @checkPages_eq_ok 0 [] [] [] pages (by simp)
  simp only [List.not_mem_nil, not_false_eq_true, implies_true, and_true] at hpages
  rw [← hpages]
  unfold check
  split_ifs with htitle hempty
  · simp [htitle]
  · simp [List.isEmpty_iff.mp hempty]
  · simp [htitle, List.isEmpty_iff.not.mp hempty]

/-- Creates a validated, ordered Document descriptor. -/
def new (documentId : DocumentId) (sessionId : SessionId) (documentType : DocumentType)
    (sourceAssetId : AssetId) (title : String) (pages : List DocumentPageDescriptor) :
    Except DocumentError DocumentDescriptor :=
  match h : check title pages with
  | .error e => .error e
  | .ok () =>
    have hvalid := check_eq_ok.mp h
    .ok ⟨documentId, sessionId, documentType, sourceAssetId, title, pages, hvalid.1, hvalid.2.1,
      hvalid.2.2.1, hvalid.2.2.2.1, hvalid.2.2.2.2⟩

/-- A valid descriptor is created from its own fields. -/
theorem new_self (document : DocumentDescriptor) :
    new document.documentId document.sessionId document.documentType document.sourceAssetId
      document.title document.pages = .ok document := by
  have hcheck : check document.title document.pages = .ok () :=
    check_eq_ok.mpr ⟨document.title_valid, document.pages_ne_nil, document.contiguous,
      document.pageIds_nodup, document.canvasIds_nodup⟩
  unfold new
  split
  · rename_i e he
    cases hcheck.symm.trans he
  · rfl

/-- The derived equality. -/
instance : BEq DocumentDescriptor where
  beq a b := a.documentId == b.documentId && a.sessionId == b.sessionId &&
    a.documentType == b.documentType && a.sourceAssetId == b.sourceAssetId &&
    a.title == b.title && a.pages == b.pages

instance : LawfulBEq DocumentDescriptor where
  rfl {a} := by
    change (a.documentId == a.documentId && a.sessionId == a.sessionId &&
      a.documentType == a.documentType && a.sourceAssetId == a.sourceAssetId &&
      a.title == a.title && a.pages == a.pages) = true
    simp only [beq_self_eq_true, Bool.and_self]
  eq_of_beq {a b} h := by
    change (a.documentId == b.documentId && a.sessionId == b.sessionId &&
      a.documentType == b.documentType && a.sourceAssetId == b.sourceAssetId &&
      a.title == b.title && a.pages == b.pages) = true at h
    simp only [Bool.and_eq_true, beq_iff_eq] at h
    obtain ⟨⟨⟨⟨⟨hid, hsession⟩, htype⟩, hasset⟩, htitle⟩, hpages⟩ := h
    cases a
    cases b
    cases hid
    cases hsession
    cases htype
    cases hasset
    cases htitle
    cases hpages
    rfl

end DocumentDescriptor
end OrbitRelay
