import OrbitRelay.Pdf.Encrypt
import OrbitRelay.Pdf.PageTree

/-! Inspection of one PDF: the preflight, the parser, the title, and the pages in order with what
they display. -/
namespace OrbitRelay

def mapParserError (error : LopdfError) (limits : PdfInspectionLimits) : PdfError :=
  match error with
  | .memoryLimitExceeded => .parserResourceLimitExceeded limits.maxDecompressedStreamBytes
  | .invalidPassword | .unsupportedSecurityHandler | .decryption => .encryptedUnsupported
  | .other => .invalidPdf

section
variable {Document Dictionary Object : Type} (lopdf : Lopdf Document Dictionary Object)

/-- The title of the document information, if it decodes to more than white space. -/
def extractTitle (document : Document) : Option String := do
  let object ← (lopdf.get (lopdf.trailer document) (byteString "Info")).toOption
  let (_, info) ← (lopdf.dereference document object).toOption
  let dictionary ← (lopdf.asDict info).toOption
  let title ← (lopdf.getDeref dictionary (byteString "Title") document).toOption
  let decoded ← (lopdf.decodeTextString title).toOption
  let trimmed := Text.trim decoded.toList
  if trimmed.isEmpty then none else some (String.ofList trimmed)

/-- One page, numbered by its position. -/
def describePage (document : Document) (page : RawPage Object) (index : Nat) :
    Except PdfError PdfPageMetadata := do
  let pageIndex ← (UInt32.tryFrom index).okOr .pageIndexOverflow
  let geometry ← pageGeometry lopdf document page pageIndex
  .ok ⟨pageIndex, geometry⟩

def inspectBytes (assetId : AssetId) (bytes : List UInt8) (limits : PdfInspectionLimits) :
    Except Panic (Except PdfError PdfDocumentMetadata) := do
  let marker ← containsEncryptMarker bytes
  if marker then .ok (.error .encryptedUnsupported)
  else .ok do
    let document ← (lopdf.loadMem bytes limits.maxDecompressedStreamBytes.toNat).mapError
      fun error => mapParserError error limits
    if lopdf.isEncrypted document || lopdf.wasEncrypted document then
      .error .encryptedUnsupported
    else
      let title := extractTitle lopdf document
      let pages ← collectPages lopdf document limits
      if pages.isEmpty then .error .invalidPageTree
      else
        let descriptors ← pages.zipIdx.mapM fun (page, index) =>
          describePage lopdf document page index
        .ok ⟨assetId, title, descriptors⟩

end

/-! ### What is inspected -/

/-- Every tree has a leaf, since no node is without kids. -/
theorem Represents.paths_ne_nil {Document Dictionary Object : Type}
    {lopdf : Lopdf Document Dictionary Object} {document : Document}
    {tree : PageTree Dictionary} (h : Represents lopdf document tree)
    (above : List Dictionary) : tree.paths above ≠ [] := by
  induction h generalizing above with
  | page node type_eq name =>
    rw [PageTree.paths_page]
    exact List.cons_ne_nil _ _
  | pages node type_eq name array_eq objects_eq nonempty references represented ih =>
    rw [PageTree.paths_pages]
    intro hnil
    cases references with
    | nil => exact nonempty rfl
    | cons hfirst hrest =>
      have hkid := List.flatMap_eq_nil_iff.mp hnil _ (List.mem_cons_self ..)
      exact ih _ (List.mem_cons_self ..) _ hkid

section
variable {Document Dictionary Object : Type} {lopdf : Lopdf Document Dictionary Object}
  {document : Document} {limits : PdfInspectionLimits}

variable (lopdf document) in
/-- The described pages are numbered in order, and each shows what its raw page displays. -/
structure Describes (pages : List (RawPage Object)) (described : List PdfPageMetadata) :
    Prop where
  length_eq : described.length = pages.length
  page : ∀ (i : Nat) (page : RawPage Object) (metadata : PdfPageMetadata),
    pages[i]? = some page → described[i]? = some metadata →
    metadata.pageIndex.toNat = i ∧
      Displays lopdf document page.attributes metadata.displayGeometry

theorem describePage_eq_ok {page : RawPage Object} {index : Nat} {metadata : PdfPageMetadata}
    (hresolved : resolveObject lopdf document page.attributes.rotate = page.attributes.rotate) :
    describePage lopdf document page index = .ok metadata ↔
      metadata.pageIndex.toNat = index ∧
        Displays lopdf document page.attributes metadata.displayGeometry := by
  unfold describePage
  simp only [Except.bind_eq_ok, Except.okOr_eq_ok, UInt32.tryFrom_eq_some,
    pageGeometry_eq_ok hresolved]
  constructor
  · rintro ⟨pageIndex, hindex, geometry, hdisplays, ⟨⟩⟩
    exact ⟨hindex, hdisplays⟩
  · rintro ⟨hindex, hdisplays⟩
    exact ⟨_, hindex, _, hdisplays, rfl⟩

/-- Pages whose rotations are resolved are described exactly as they display. -/
theorem describePages_eq_ok {pages : List (RawPage Object)} {described : List PdfPageMetadata}
    (hresolved : ∀ page ∈ pages,
      resolveObject lopdf document page.attributes.rotate = page.attributes.rotate) :
    (pages.zipIdx.mapM fun entry => describePage lopdf document entry.1 entry.2) =
        .ok described ↔ Describes lopdf document pages described := by
  rw [Except.mapM_zipIdx_eq_ok]
  have hpage : ∀ {i : Nat} {page : RawPage Object} {metadata : PdfPageMetadata},
      pages[i]? = some page → (describePage lopdf document page i = .ok metadata ↔
        metadata.pageIndex.toNat = i ∧
          Displays lopdf document page.attributes metadata.displayGeometry) :=
    fun h => describePage_eq_ok (hresolved _ (List.mem_of_getElem? h))
  constructor
  · rintro ⟨hlength, h⟩
    exact ⟨hlength, fun i page metadata hi hi' => (hpage hi).mp (h i page metadata hi hi')⟩
  · rintro ⟨hlength, h⟩
    exact ⟨hlength, fun i page metadata hi hi' => (hpage hi).mpr (h i page metadata hi hi')⟩

variable (lopdf limits) in
/-- The bytes parse to a document that is not encrypted, past the preflight. -/
structure Parses (bytes : List UInt8) (document : Document) : Prop where
  preflight : containsEncryptMarker bytes = .ok false
  loaded : lopdf.loadMem bytes limits.maxDecompressedStreamBytes.toNat = .ok document
  plain : lopdf.isEncrypted document = false ∧ lopdf.wasEncrypted document = false

theorem inspectBytes_eq_ok (hderef : lopdf.DereferencesOnce) {assetId : AssetId}
    {bytes : List UInt8} {metadata : PdfDocumentMetadata} :
    inspectBytes lopdf assetId bytes limits = .ok (.ok metadata) ↔
      ∃ document pages, Parses lopdf limits bytes document ∧
        collectPages lopdf document limits = .ok pages ∧
        Describes lopdf document pages metadata.pages ∧ metadata.assetId = assetId ∧
        metadata.title = extractTitle lopdf document := by
  have hpages : ∀ {document : Document} {pages : List (RawPage Object)},
      collectPages lopdf document limits = .ok pages → pages ≠ [] ∧ ∀ page ∈ pages,
        resolveObject lopdf document page.attributes.rotate = page.attributes.rotate := by
    intro document pages h
    obtain ⟨root, tree, -, htree, rfl⟩ := collectPages_eq_ok.mp h
    constructor
    · rw [Ne, List.map_eq_nil_iff]
      exact htree.represented.paths_ne_nil []
    · intro page hpage
      obtain ⟨path, -, rfl⟩ := List.mem_map.mp hpage
      exact resolveObject_idem hderef _
  unfold inspectBytes
  rw [Except.bind_eq_ok]
  constructor
  · rintro ⟨marker, hmarker, h⟩
    cases marker with
    | true => cases h
    | false =>
      rw [if_neg (by decide)] at h
      obtain ⟨document, hdocument, h⟩ := Except.bind_eq_ok.mp (Except.ok.inj h)
      rw [Except.mapError_eq_ok] at hdocument
      split_ifs at h with hencrypted
      rw [Bool.or_eq_true, not_or, Bool.not_eq_true, Bool.not_eq_true] at hencrypted
      obtain ⟨pages, hcollected, h⟩ := Except.bind_eq_ok.mp h
      split_ifs at h
      obtain ⟨described, hdescribed, h⟩ := Except.bind_eq_ok.mp h
      cases h
      exact ⟨document, pages, ⟨hmarker, hdocument, hencrypted⟩, hcollected,
        (describePages_eq_ok (hpages hcollected).2).mp hdescribed, rfl, rfl⟩
  · rintro ⟨document, pages, hparses, hcollected, hdescribes, hasset, htitle⟩
    have hdescribed := (describePages_eq_ok (hpages hcollected).2).mpr hdescribes
    have hempty : ¬ pages.isEmpty = true := fun h =>
      (hpages hcollected).1 (List.isEmpty_iff.mp h)
    refine ⟨false, hparses.preflight, ?_⟩
    rw [if_neg (by decide), hparses.loaded, Except.mapError_ok, Except.ok_bind, hparses.plain.1,
      hparses.plain.2, if_neg (by decide), hcollected, Except.ok_bind, if_neg hempty]
    dsimp only
    rw [hdescribed, Except.ok_bind, ← hasset, ← htitle]

/-- Whatever the parser does, the described pages are numbered from zero, and there are some. -/
theorem pageIndexes_of_inspectBytes {assetId : AssetId} {bytes : List UInt8}
    {metadata : PdfDocumentMetadata}
    (h : inspectBytes lopdf assetId bytes limits = .ok (.ok metadata)) :
    metadata.pages ≠ [] ∧ ∀ (i : Nat) (page : PdfPageMetadata), metadata.pages[i]? = some page →
      page.pageIndex.toNat = i := by
  obtain ⟨marker, -, h⟩ := Except.bind_eq_ok.mp h
  split_ifs at h
  · cases h
  obtain ⟨document, -, h⟩ := Except.bind_eq_ok.mp (Except.ok.inj h)
  split_ifs at h
  obtain ⟨pages, -, h⟩ := Except.bind_eq_ok.mp h
  split_ifs at h with hempty
  obtain ⟨described, hdescribed, h⟩ := Except.bind_eq_ok.mp h
  cases h
  obtain ⟨hlength, hpages⟩ := Except.mapM_zipIdx_eq_ok.mp hdescribed
  constructor
  · rintro rfl
    exact hempty (List.isEmpty_iff.mpr (List.length_eq_zero_iff.mp hlength.symm))
  · intro i page hpage
    have hi := (List.getElem?_eq_some_iff.mp hpage).1
    have hi : i < pages.length := hlength ▸ hi
    obtain ⟨index, hindex, hrest⟩ := Except.bind_eq_ok.mp
      (hpages i _ page (List.getElem?_eq_getElem hi) hpage)
    obtain ⟨geometry, -, hpage⟩ := Except.bind_eq_ok.mp hrest
    cases hpage
    exact UInt32.tryFrom_eq_some.mp (Except.okOr_eq_ok.mp hindex)

end

/-- A document of two pages, which inherit a box and a rotation. -/
def samplePdf : List UInt8 :=
  ["%PDF-1.7\n",
    "1 0 obj\n<</Type/Pages/Kids[2 0 R 3 0 R]/Count 2/MediaBox[0 0 200 100]/Rotate 90>>\nendobj\n",
    "2 0 obj\n<</Type/Page/Parent 1 0 R/CropBox[60 40 10 20]>>\nendobj\n",
    "3 0 obj\n<</Type/Page/Parent 1 0 R/Rotate -180>>\nendobj\n",
    "4 0 obj\n<</Type/Catalog/Pages 1 0 R>>\nendobj\n",
    "xref\n0 5\n0000000000 65535 f \n0000000009 00000 n \n0000000098 00000 n \n",
    "0000000162 00000 n \n0000000217 00000 n \n",
    "trailer\n<</Size 5/Root 4 0 R>>\nstartxref\n262\n%%EOF\n"].flatMap byteString

/-- The objects of the document. -/
inductive SampleObject
  | reference (id : ObjectId)
  | references (ids : List ObjectId)
  | name (text : List UInt8)
  | integer (value : Int64)
  | box (x0 y0 x1 y1 : Int64)
deriving DecidableEq

abbrev SampleDictionary := List (List UInt8 × SampleObject)

def samplePages : SampleDictionary :=
  [(byteString "Type", .name (byteString "Pages")),
    (byteString "Kids", .references [(2, 0), (3, 0)]),
    (byteString "MediaBox", .box 0 0 200 100), (byteString "Rotate", .integer 90)]

/-- The page shows a part of the inherited box. -/
def sampleCropped : SampleDictionary :=
  [(byteString "Type", .name (byteString "Page")), (byteString "CropBox", .box 60 40 10 20)]

/-- The page has a rotation of its own. -/
def sampleTurned : SampleDictionary :=
  [(byteString "Type", .name (byteString "Page")), (byteString "Rotate", .integer (-180))]

/-- A parser of the one document. -/
def sampleLopdf : Lopdf Unit SampleDictionary SampleObject where
  loadMem bytes _ := if bytes = samplePdf then .ok () else .error .other
  isEncrypted _ := false
  wasEncrypted _ := false
  trailer _ := []
  catalog _ := .ok [(byteString "Pages", .reference (1, 0))]
  getDictionary _ id :=
    if id = (1, 0) then .ok samplePages
    else if id = (2, 0) then .ok sampleCropped
    else if id = (3, 0) then .ok sampleTurned
    else .error .other
  dereference _ object := match object with
    | .reference _ => .error .other
    | _ => .ok (none, object)
  get dictionary key := (dictionary.lookup key).okOr .other
  getDeref dictionary key _ := (dictionary.lookup key).okOr .other
  asReference object := match object with
    | .reference id => .ok id
    | _ => .error .other
  asArray object := match object with
    | .references ids => .ok (ids.map .reference)
    | .box x0 y0 x1 y1 => .ok [.integer x0, .integer y0, .integer x1, .integer y1]
    | _ => .error .other
  asName object := match object with
    | .name text => .ok text
    | _ => .error .other
  asDict _ := .error .other
  asI64 object := match object with
    | .integer value => .ok value
    | _ => .error .other
  asFloat object := match object with
    | .integer value => .ok (.ofInt value.toInt)
    | _ => .error .other
  decodeTextString _ := .error .other

theorem sampleLopdf_dereferencesOnce : sampleLopdf.DereferencesOnce := by
  intro document object id resolved h
  cases object <;> cases h <;> rfl

theorem sampleLopdf_loadMem {bytes : List UInt8} (h : bytes = samplePdf) (limit : Nat) :
    sampleLopdf.loadMem bytes limit = .ok () := if_pos h

def sampleLimits : PdfInspectionLimits := ⟨512, 2, 512⟩

theorem samplePdf_parses : Parses sampleLopdf sampleLimits samplePdf () where
  preflight := by decide +kernel
  loaded := sampleLopdf_loadMem rfl _
  plain := ⟨rfl, rfl⟩

def sampleTree : PageTree SampleDictionary :=
  .pages (1, 0) samplePages [.page (2, 0) sampleCropped, .page (3, 0) sampleTurned]

theorem sampleTree_paths : sampleTree.paths [] =
    [[sampleCropped, samplePages], [sampleTurned, samplePages]] := by
  unfold sampleTree
  rw [PageTree.paths_pages]
  simp only [List.flatMap_cons, List.flatMap_nil, PageTree.paths_page, List.append_nil,
    List.singleton_append]

theorem sampleTree_walkable : WalkableTree sampleLopdf () sampleLimits (1, 0) sampleTree where
  root := rfl
  represented := by
    unfold sampleTree
    rw [represents_pages, List.forall_mem_cons, List.forall_mem_singleton, represents_page,
      represents_page]
    decide
  distinct := by simp [sampleTree]
  depth := by
    unfold sampleTree
    rw [PageTree.height_kids (by simp)]
    simp [pageTreeDepthLimit]
  leaves := by
    rw [sampleTree_paths]
    decide

/-- The pages with the values that they inherit. -/
def sampleRawPages : List (RawPage SampleObject) :=
  [⟨⟨some (.box 0 0 200 100), some (.box 60 40 10 20), some (.integer 90)⟩⟩,
    ⟨⟨some (.box 0 0 200 100), none, some (.integer (-180))⟩⟩]

def sampleMetadata : PdfDocumentMetadata where
  assetId := ⟨⟨⟨.replicate 16 1⟩⟩⟩
  title := none
  pages := [⟨0, ⟨20, 50, .deg90, by decide +kernel, by decide +kernel⟩⟩,
    ⟨1, ⟨200, 100, .deg180, by decide +kernel, by decide +kernel⟩⟩]

/-- The first page shows its crop box on its side, the second the inherited box upside down. -/
theorem sampleMetadata_describes :
    Describes sampleLopdf () sampleRawPages sampleMetadata.pages where
  length_eq := rfl
  page i page metadata hpage hmetadata := by
    match i with
    | 0 =>
      cases hpage
      cases hmetadata
      exact ⟨rfl, .inr ⟨_, _, rfl, rfl, by decide, by decide⟩, ⟨50, 20⟩, by rfl, by rfl⟩
    | 1 =>
      cases hpage
      cases hmetadata
      exact ⟨rfl, .inr ⟨_, _, rfl, rfl, by decide, by decide⟩, ⟨200, 100⟩, by rfl, by rfl⟩
    | i + 2 => cases hpage

end OrbitRelay
