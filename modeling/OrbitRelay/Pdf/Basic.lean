import OrbitRelay.Document.Basic

/-! PDF metadata, the errors of the adapter, the interface of the parser library, and the
displayed geometry of one page. -/
namespace OrbitRelay

/-- Bounds applied by the PDF metadata adapter. -/
structure PdfInspectionLimits where
  maxAssetBytes : UInt64
  maxPages : UInt32
  maxDecompressedStreamBytes : UInt64

/-- A failure while inspecting PDF metadata and page geometry. -/
inductive PdfError
  | assetNotFound (assetId : AssetId)
  | assetUnavailable
  | assetTooLarge (length maxBytes : UInt64)
  | readFailed
  | invalidPdf
  | encryptedUnsupported
  | invalidPageTree
  | missingMediaBox (pageIndex : UInt32)
  | invalidPageGeometry (pageIndex : UInt32)
  | invalidRotation (pageIndex : UInt32) (degrees : Int64)
  | pageIndexOverflow
  | pageLimitExceeded (maxPages : UInt32)
  | parserResourceLimitExceeded (maxBytes : UInt64)
deriving DecidableEq

/-- Metadata for one PDF page in logical page-tree order. -/
structure PdfPageMetadata where
  pageIndex : UInt32
  displayGeometry : PageDisplayGeometry

/-- PDF metadata and page descriptors derived from one Asset. -/
structure PdfDocumentMetadata where
  assetId : AssetId
  title : Option String
  pages : List PdfPageMetadata

/-- The object and generation numbers of an indirect object. -/
abbrev ObjectId := UInt32 × UInt16

/-- The parser errors that the adapter tells apart. -/
inductive LopdfError
  | memoryLimitExceeded
  | invalidPassword
  | unsupportedSecurityHandler
  | decryption
  | other
deriving DecidableEq

/-- A byte string literal. -/
def byteString (text : String) : List UInt8 := text.toList.map fun c => UInt8.ofNat c.toNat

/-- What the adapter uses of the parser library. -/
structure Lopdf (Document Dictionary Object : Type) where
  loadMem : List UInt8 → Nat → Except LopdfError Document
  isEncrypted : Document → Bool
  wasEncrypted : Document → Bool
  trailer : Document → Dictionary
  catalog : Document → Except LopdfError Dictionary
  getDictionary : Document → ObjectId → Except LopdfError Dictionary
  dereference : Document → Object → Except LopdfError (Option ObjectId × Object)
  get : Dictionary → List UInt8 → Except LopdfError Object
  getDeref : Dictionary → List UInt8 → Document → Except LopdfError Object
  asReference : Object → Except LopdfError ObjectId
  asArray : Object → Except LopdfError (List Object)
  asName : Object → Except LopdfError (List UInt8)
  asDict : Object → Except LopdfError Dictionary
  asI64 : Object → Except LopdfError Int64
  asFloat : Object → Except LopdfError Float32
  decodeTextString : Object → Except LopdfError String

/-- The attributes that a page inherits. -/
structure InheritedAttributes (Object : Type) where
  mediaBox : Option Object
  cropBox : Option Object
  rotate : Option Object

structure RawPage (Object : Type) where
  attributes : InheritedAttributes Object

structure BoxDimensions where
  width : Float
  height : Float

section
variable {Document Dictionary Object : Type} (lopdf : Lopdf Document Dictionary Object)
  (document : Document)

/-- A finite number behind an object. -/
def number (object : Object) : Option Float := do
  let (_, value) ← (lopdf.dereference document object).toOption
  ((lopdf.asFloat value).toOption.map Float.ofFloat32).filter Float.isFinite

/-- The dimensions of a box of four numbers, which must span an area. -/
def parseBox (object : Object) : Option BoxDimensions :=
  match (lopdf.asArray object).toOption with
  | some [a0, a1, a2, a3] => do
    let x0 ← number lopdf document a0
    let y0 ← number lopdf document a1
    let x1 ← number lopdf document a2
    let y1 ← number lopdf document a3
    let width := (x1 - x0).abs
    let height := (y1 - y0).abs
    if width.isFinite ∧ width > 0 ∧ height.isFinite ∧ height > 0 then some ⟨width, height⟩
    else none
  | _ => none

/-- The quarter turn of a raw rotation, which counts as zero when it is absent. -/
def parseRotation (object : Option Object) (pageIndex : UInt32) :
    Except PdfError PageRotation := do
  let resolved := object.bind fun value =>
    (lopdf.dereference document value).toOption.map Prod.snd
  let raw ← ((resolved.map lopdf.asI64).getD (.ok 0)).mapError fun _ =>
    .invalidRotation pageIndex 0
  let normalized := raw.toInt % 360
  if normalized % 90 ≠ 0 then .error (.invalidRotation pageIndex raw)
  else
    (PageRotation.fromDegrees (UInt16.ofNat normalized.toNat)).mapError fun _ =>
      .invalidRotation pageIndex raw

def pageGeometry (page : RawPage Object) (pageIndex : UInt32) :
    Except PdfError PageDisplayGeometry := do
  let mediaBox ← page.attributes.mediaBox.okOr (.missingMediaBox pageIndex)
  let media ← (parseBox lopdf document mediaBox).okOr (.invalidPageGeometry pageIndex)
  let visible := (page.attributes.cropBox.bind (parseBox lopdf document)).getD media
  let rotation ← parseRotation lopdf document page.attributes.rotate pageIndex
  let (width, height) := match rotation with
    | .deg0 | .deg180 => (visible.width, visible.height)
    | .deg90 | .deg270 => (visible.height, visible.width)
  (PageDisplayGeometry.new width height rotation).mapError fun _ =>
    .invalidPageGeometry pageIndex

end

/-! ### What is displayed -/

section
variable {Document Dictionary Object : Type} {lopdf : Lopdf Document Dictionary Object}
  {document : Document}

/-- A box that parses spans an area. -/
theorem parseBox_area {object : Object} {box : BoxDimensions}
    (h : parseBox lopdf document object = some box) :
    (box.width.isFinite = true ∧ ¬ box.width ≤ 0) ∧
      (box.height.isFinite = true ∧ ¬ box.height ≤ 0) := by
  have hzero : (0 : Float).isFinite = true := by decide +kernel
  have hpositive : ∀ x : Float, x.isFinite = true → x > 0 → ¬ x ≤ 0 := by
    intro x hx hgt hle
    exact (Float.not_lt_of_isFinite hzero hx).mpr hle hgt
  unfold parseBox at h
  split at h
  · simp only [Option.bind_eq_bind, Option.bind_eq_some_iff] at h
    obtain ⟨x0, -, y0, -, x1, -, y1, -, h⟩ := h
    split_ifs at h with harea
    obtain ⟨hw, hwpos, hh, hhpos⟩ := harea
    cases h
    exact ⟨⟨hw, hpositive _ hw hwpos⟩, ⟨hh, hpositive _ hh hhpos⟩⟩
  · cases h

/-- A rotation that the four quarter turns represent, from the raw value. -/
theorem fromDegrees_of_multiple {raw : Int64} (h : raw.toInt % 360 % 90 = 0) :
    ∃ rotation, PageRotation.fromDegrees (UInt16.ofNat (raw.toInt % 360).toNat) = .ok rotation ∧
      (rotation.degrees.toNat : Int) = raw.toInt % 360 := by
  have hcases : raw.toInt % 360 = 0 ∨ raw.toInt % 360 = 90 ∨ raw.toInt % 360 = 180 ∨
      raw.toInt % 360 = 270 := by omega
  rcases hcases with h | h | h | h <;> rw [h]
  · exact ⟨.deg0, rfl, rfl⟩
  · exact ⟨.deg90, rfl, rfl⟩
  · exact ⟨.deg180, rfl, rfl⟩
  · exact ⟨.deg270, rfl, rfl⟩

/-- Dereferencing ends at an object that is no reference, so doing it again changes nothing. -/
def Lopdf.DereferencesOnce (lopdf : Lopdf Document Dictionary Object) : Prop :=
  ∀ document object id resolved, lopdf.dereference document object = .ok (id, resolved) →
    lopdf.dereference document resolved = .ok (none, resolved)

variable (lopdf document) in
/-- What dereferencing an attribute leaves of it; a dangling reference leaves nothing. -/
def resolveObject (object : Option Object) : Option Object :=
  object.bind fun value => (lopdf.dereference document value).toOption.map Prod.snd

theorem resolveObject_idem (hderef : lopdf.DereferencesOnce) (object : Option Object) :
    resolveObject lopdf document (resolveObject lopdf document object) =
      resolveObject lopdf document object := by
  cases hresolved : resolveObject lopdf document object with
  | none => rfl
  | some resolved =>
    unfold resolveObject at hresolved
    simp only [Option.bind_eq_some_iff, Option.map_eq_some_iff] at hresolved
    obtain ⟨value, rfl, ⟨id, target⟩, htarget, rfl⟩ := hresolved
    have hok : lopdf.dereference document value = .ok (id, target) := by
      cases hvalue : lopdf.dereference document value with
      | error e =>
        rw [hvalue] at htarget
        cases htarget
      | ok found =>
        rw [hvalue] at htarget
        cases htarget
        rfl
    unfold resolveObject
    rw [Option.bind_some, hderef _ _ _ _ hok]
    rfl

variable (lopdf) in
/-- The rotation is the raw value modulo a full turn; without a value there is none. -/
def Turns (rotate : Option Object) (rotation : PageRotation) : Prop :=
  (rotate = none ∧ rotation = .deg0) ∨
    ∃ value raw, rotate = some value ∧ lopdf.asI64 value = .ok raw ∧ raw.toInt % 90 = 0 ∧
      (rotation.degrees.toNat : Int) = raw.toInt % 360

theorem degrees_injective {a b : PageRotation}
    (h : (a.degrees.toNat : Int) = b.degrees.toNat) : a = b := by
  cases a <;> cases b <;> first | rfl | cases h

/-- A rotation parses exactly when it is absent or an integer multiple of a quarter turn. -/
theorem parseRotation_eq_ok {rotate : Option Object} {pageIndex : UInt32}
    {rotation : PageRotation} (hresolved : resolveObject lopdf document rotate = rotate) :
    parseRotation lopdf document rotate pageIndex = .ok rotation ↔
      Turns lopdf rotate rotation := by
  have hparse : ∀ raw : Int64, (if raw.toInt % 360 % 90 ≠ 0 then
      Except.error (PdfError.invalidRotation pageIndex raw)
      else (PageRotation.fromDegrees (UInt16.ofNat (raw.toInt % 360).toNat)).mapError fun _ =>
        .invalidRotation pageIndex raw) = .ok rotation ↔
      raw.toInt % 90 = 0 ∧ (rotation.degrees.toNat : Int) = raw.toInt % 360 := by
    intro raw
    by_cases hmultiple : raw.toInt % 360 % 90 = 0
    · obtain ⟨found, hfound, hdegrees⟩ := fromDegrees_of_multiple hmultiple
      rw [if_neg (not_not.mpr hmultiple), hfound, Except.mapError_ok]
      constructor
      · rintro ⟨⟩
        exact ⟨by omega, hdegrees⟩
      · rintro ⟨-, hrotation⟩
        rw [degrees_injective (hdegrees.trans hrotation.symm)]
    · rw [if_pos hmultiple]
      constructor
      · rintro ⟨⟩
      · rintro ⟨hraw, -⟩
        omega
  unfold parseRotation Turns
  change ((((resolveObject lopdf document rotate).map lopdf.asI64).getD (.ok 0)).mapError _ >>=
    fun raw => _) = _ ↔ _
  rw [hresolved]
  cases rotate with
  | none =>
    simp only [Option.map_none, Option.getD_none, Except.mapError_ok, Except.ok_bind]
    rw [hparse 0]
    constructor
    · rintro ⟨-, hrotation⟩
      exact .inl ⟨trivial, degrees_injective hrotation⟩
    · rintro (⟨-, rfl⟩ | ⟨value, raw, hvalue, -⟩)
      · exact ⟨rfl, rfl⟩
      · cases hvalue
  | some value =>
    simp only [Option.map_some, Option.getD_some, Except.bind_eq_ok, Except.mapError_eq_ok]
    constructor
    · rintro ⟨raw, hraw, h⟩
      exact .inr ⟨value, raw, rfl, hraw, (hparse raw).mp h⟩
    · rintro (⟨hnone, -⟩ | ⟨value', raw, hvalue, hraw, h⟩)
      · cases hnone
      · cases hvalue
        exact ⟨raw, hraw, (hparse raw).mpr h⟩

variable (lopdf document) in
/-- The box that is displayed: the crop box if there is one that parses, else the media box. -/
def visibleBox (attributes : InheritedAttributes Object) : Option BoxDimensions := do
  let media ← attributes.mediaBox.bind (parseBox lopdf document)
  some ((attributes.cropBox.bind (parseBox lopdf document)).getD media)

theorem visibleBox_eq_some {attributes : InheritedAttributes Object} {visible : BoxDimensions} :
    visibleBox lopdf document attributes = some visible ↔
      ∃ mediaBox media, attributes.mediaBox = some mediaBox ∧
        parseBox lopdf document mediaBox = some media ∧
        (attributes.cropBox.bind (parseBox lopdf document)).getD media = visible := by
  unfold visibleBox
  simp only [Option.bind_eq_bind, Option.bind_eq_some_iff, Option.some.injEq]
  constructor
  · rintro ⟨media, ⟨mediaBox, hmediaBox, hmedia⟩, hvisible⟩
    exact ⟨mediaBox, media, hmediaBox, hmedia, hvisible⟩
  · rintro ⟨mediaBox, media, hmediaBox, hmedia, hvisible⟩
    exact ⟨media, ⟨mediaBox, hmediaBox, hmedia⟩, hvisible⟩

variable (lopdf document) in
/-- The geometry shows the visible box of the page, turned by its rotation. -/
structure Displays (attributes : InheritedAttributes Object)
    (geometry : PageDisplayGeometry) : Prop where
  rotation : Turns lopdf attributes.rotate geometry.rotation
  dimensions : ∃ visible, visibleBox lopdf document attributes = some visible ∧
    (geometry.width, geometry.height) =
      if geometry.rotation.degrees = 90 ∨ geometry.rotation.degrees = 270 then
        (visible.height, visible.width)
      else (visible.width, visible.height)

/-- The geometry of a page is what it displays, and fails only when it displays nothing. -/
theorem pageGeometry_eq_ok {page : RawPage Object} {pageIndex : UInt32}
    {geometry : PageDisplayGeometry}
    (hresolved : resolveObject lopdf document page.attributes.rotate = page.attributes.rotate) :
    pageGeometry lopdf document page pageIndex = .ok geometry ↔
      Displays lopdf document page.attributes geometry := by
  unfold pageGeometry
  simp only [Except.bind_eq_ok, Except.okOr_eq_ok, parseRotation_eq_ok hresolved,
    Except.mapError_eq_ok]
  constructor
  · rintro ⟨mediaBox, hmediaBox, media, hmedia, rotation, hrotation, h⟩
    have hvisible := visibleBox_eq_some.mpr ⟨mediaBox, media, hmediaBox, hmedia, rfl⟩
    obtain ⟨width, height, turned, hw, hh⟩ := geometry
    cases rotation <;>
    · obtain ⟨hwidth, hheight, rfl⟩ := PageDisplayGeometry.new_eq_ok.mp h
      exact ⟨hrotation, _, hvisible, Prod.ext hwidth hheight⟩
  · rintro ⟨hrotation, visible, hvisible, hdimensions⟩
    obtain ⟨mediaBox, media, hmediaBox, hmedia, rfl⟩ := visibleBox_eq_some.mp hvisible
    refine ⟨mediaBox, hmediaBox, media, hmedia, geometry.rotation, hrotation, ?_⟩
    obtain ⟨width, height, rotation, hw, hh⟩ := geometry
    cases rotation <;>
    · cases hdimensions
      exact PageDisplayGeometry.new_eq_ok.mpr ⟨rfl, rfl, rfl⟩

/-- What is visible spans an area, so it makes a geometry. -/
theorem visibleBox_area {attributes : InheritedAttributes Object} {visible : BoxDimensions}
    (h : visibleBox lopdf document attributes = some visible) :
    (visible.width.isFinite = true ∧ ¬ visible.width ≤ 0) ∧
      (visible.height.isFinite = true ∧ ¬ visible.height ≤ 0) := by
  obtain ⟨mediaBox, media, -, hmedia, rfl⟩ := visibleBox_eq_some.mp h
  cases hcrop : attributes.cropBox.bind (parseBox lopdf document) with
  | none => exact parseBox_area hmedia
  | some crop =>
    obtain ⟨object, -, hobject⟩ := Option.bind_eq_some_iff.mp hcrop
    exact parseBox_area hobject

end
end OrbitRelay
