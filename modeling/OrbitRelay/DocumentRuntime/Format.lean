import OrbitRelay.Asset.Hash
import OrbitRelay.DocumentRuntime.Query

/-! The formats of Document metadata. What the queries answer is read back whole, by the typed
wire values and by the validated descriptors. -/
namespace OrbitRelay
open Json

/-! ### Pages -/

instance : Deserialize DocumentType where
  fromValue v := do
    let name ← unitVariant v
    if name = "pdf" then some .pdf else none

instance : LawfulSerde DocumentType := ⟨fun | .pdf => rfl⟩

/-- The degrees are validated when they are read. -/
instance : Deserialize PageRotation :=
  ⟨fun v => do (PageRotation.fromDegrees (← fromValue v)).toOption⟩

instance : LawfulSerde PageRotation where
  fromValue_toValue rotation := by
    show (fromValue (toValue rotation.degrees)).bind _ = some rotation
    rw [fromValue_toValue, Option.bind_some, PageRotation.fromDegrees_degrees]
    rfl

namespace PageDisplayGeometry

def ofFields : List Value → Option PageDisplayGeometry
  | [width, height, rotation] => do
    (new (← fromValue width) (← fromValue height) (← fromValue rotation)).toOption
  | _ => none

/-- The geometry is validated when it is read. -/
instance : Deserialize PageDisplayGeometry :=
  ⟨fromStruct ["width", "height", "rotation"] ofFields⟩

theorem new_self (geometry : PageDisplayGeometry) :
    new geometry.width geometry.height geometry.rotation = .ok geometry :=
  new_eq_ok.mpr ⟨rfl, rfl, rfl⟩

instance : LawfulSerde PageDisplayGeometry where
  fromValue_toValue geometry := by
    apply (fromStruct_structValue ofFields rfl (by simp)).trans
    simp [ofFields, fromValue_toValue_float geometry.width_valid.1,
      fromValue_toValue_float geometry.height_valid.1, new_self, Except.toOption]

end PageDisplayGeometry

namespace DocumentPageDto

def ofFields : List Value → Option DocumentPageDto
  | [pageId, pageIndex, displayGeometry, overlayCanvasId] => do
    some ⟨← fromValue pageId, ← fromValue pageIndex, ← fromValue displayGeometry,
      ← fromValue overlayCanvasId⟩
  | _ => none

instance : Deserialize DocumentPageDto :=
  ⟨fromStruct ["page_id", "page_index", "display_geometry", "overlay_canvas_id"] ofFields⟩

instance : LawfulSerde DocumentPageDto where
  fromValue_toValue dto :=
    (fromStruct_structValue ofFields rfl (by simp)).trans (by simp [ofFields])

end DocumentPageDto

namespace DocumentPageDescriptor

instance : Serialize DocumentPageDescriptor :=
  ⟨fun page => structValue [("page_id", toValue page.pageId),
    ("page_index", toValue page.pageIndex), ("display_geometry", toValue page.displayGeometry),
    ("overlay_canvas_id", toValue page.overlayCanvasId)]⟩

def ofFields : List Value → Option DocumentPageDescriptor
  | [pageId, pageIndex, displayGeometry, overlayCanvasId] => do
    some ⟨← fromValue pageId, ← fromValue pageIndex, ← fromValue displayGeometry,
      ← fromValue overlayCanvasId⟩
  | _ => none

instance : Deserialize DocumentPageDescriptor :=
  ⟨fromStruct ["page_id", "page_index", "display_geometry", "overlay_canvas_id"] ofFields⟩

instance : LawfulSerde DocumentPageDescriptor where
  fromValue_toValue page :=
    (fromStruct_structValue ofFields rfl (by simp)).trans (by simp [ofFields])

end DocumentPageDescriptor

/-! ### Documents -/

/-- The fields of a Document, as a descriptor and as a wire value. -/
def DocumentDto.fieldNames : List String :=
  ["document_id", "session_id", "document_type", "source_asset_id", "title", "pages"]

namespace DocumentDto

def ofFields : List Value → Option DocumentDto
  | [documentId, sessionId, documentType, sourceAssetId, title, pages] => do
    some ⟨← fromValue documentId, ← fromValue sessionId, ← fromValue documentType,
      ← fromValue sourceAssetId, ← fromValue title, ← fromValue pages⟩
  | _ => none

instance : Deserialize DocumentDto := ⟨fromStruct fieldNames ofFields⟩

instance : LawfulSerde DocumentDto where
  fromValue_toValue dto := by
    have hpages : fromValue (.array (dto.pages.map toValue)) = some dto.pages :=
      fromValue_toValue dto.pages
    apply (fromStruct_structValue ofFields rfl (by simp)).trans
    simp [ofFields, hpages]

end DocumentDto

namespace DocumentDescriptor

instance : Serialize DocumentDescriptor :=
  ⟨fun document => structValue [("document_id", toValue document.documentId),
    ("session_id", toValue document.sessionId), ("document_type", toValue document.documentType),
    ("source_asset_id", toValue document.sourceAssetId), ("title", toValue document.title),
    ("pages", toValue document.pages)]⟩

def ofFields : List Value → Option DocumentDescriptor
  | [documentId, sessionId, documentType, sourceAssetId, title, pages] => do
    (new (← fromValue documentId) (← fromValue sessionId) (← fromValue documentType)
      (← fromValue sourceAssetId) (← fromValue title) (← fromValue pages)).toOption
  | _ => none

/-- The descriptor is validated when it is read. -/
instance : Deserialize DocumentDescriptor := ⟨fromStruct DocumentDto.fieldNames ofFields⟩

instance : LawfulSerde DocumentDescriptor where
  fromValue_toValue document := by
    apply (fromStruct_structValue ofFields rfl (by simp)).trans
    simp [ofFields, new_self, Except.toOption]

end DocumentDescriptor

/-- A Document has one format, as a descriptor and as a wire value. -/
theorem DocumentDto.toValue_fromDocument (document : DocumentDescriptor) :
    toValue (fromDocument document) = toValue document := by
  have hpages : .array ((document.pages.map DocumentPageDto.fromDomain).map toValue) =
      toValue document.pages := by
    rw [List.map_map]
    rfl
  show structValue _ = structValue _
  rw [← hpages]
  rfl

/-! ### Assets -/

/-- The fields of a source Asset, as a descriptor and as a wire value. -/
def SourceAssetDto.fieldNames : List String :=
  ["asset_id", "media_type", "byte_length", "content_hash", "original_filename"]

instance : LawfulSerde ContentHash where
  fromValue_toValue hash := by
    show (ContentHash.parse hash.asStr).toOption = some hash
    rw [ContentHash.parse_asStr]
    rfl

namespace SourceAssetDto

def ofFields : List Value → Option SourceAssetDto
  | [assetId, mediaType, byteLength, contentHash, originalFilename] => do
    some ⟨← fromValue assetId, ← fromValue mediaType, ← fromValue byteLength,
      ← fromValue contentHash, ← fromValue originalFilename⟩
  | _ => none

instance : Deserialize SourceAssetDto :=
  ⟨fromOptionStruct fieldNames ["original_filename"] ofFields⟩

instance : LawfulSerde SourceAssetDto where
  fromValue_toValue dto := by
    apply (fromOptionStruct_structValue _ ofFields rfl (by simp)).trans
    simp [ofFields]

end SourceAssetDto

namespace SourceAssetDescriptor

instance : Serialize SourceAssetDescriptor :=
  ⟨fun asset => structValue [("asset_id", toValue asset.assetId),
    ("media_type", toValue asset.mediaType), ("byte_length", toValue asset.byteLength),
    ("content_hash", toValue asset.contentHash),
    ("original_filename", toValue asset.originalFilename)]⟩

def ofFields : List Value → Option SourceAssetDescriptor
  | [assetId, mediaType, byteLength, contentHash, originalFilename] => do
    (new (← fromValue assetId) (← fromValue mediaType) (← fromValue byteLength)
      (← fromValue contentHash) (← fromValue originalFilename)).toOption
  | _ => none

/-- The descriptor is validated when it is read. -/
instance : Deserialize SourceAssetDescriptor :=
  ⟨fromOptionStruct SourceAssetDto.fieldNames ["original_filename"] ofFields⟩

theorem new_self (asset : SourceAssetDescriptor) :
    new asset.assetId asset.mediaType asset.byteLength asset.contentHash asset.originalFilename =
      .ok asset := by
  unfold new
  rw [dif_pos asset.mediaType_valid, dif_pos asset.originalFilename_valid]

instance : LawfulSerde SourceAssetDescriptor where
  fromValue_toValue asset := by
    apply (fromOptionStruct_structValue _ ofFields rfl (by simp)).trans
    simp [ofFields, new_self, Except.toOption]

end SourceAssetDescriptor

/-- A source Asset has one format, as a descriptor and as a wire value. -/
theorem SourceAssetDto.toValue_toDto (asset : SourceAssetDescriptor) :
    toValue asset.toDto = toValue asset := rfl

/-! ### Canvases and views -/

namespace CanvasDto

/-- The width and the height of a space. -/
def spaceOfFields : List Value → Option (Float × Float)
  | [width, height] => do some (← fromValue width, ← fromValue height)
  | _ => none

def ofFields : List Value → Option CanvasDto
  | [canvasId, sessionId, space, layerIds, defaultLayerId] => do
    let (width, height) ← fromStruct ["width", "height"] spaceOfFields space
    some ⟨← fromValue canvasId, ← fromValue sessionId, width, height, ← fromValue layerIds,
      ← fromValue defaultLayerId⟩
  | _ => none

instance : Deserialize CanvasDto :=
  ⟨fromStruct ["canvas_id", "session_id", "space", "layer_ids", "default_layer_id"] ofFields⟩

/-- The dimensions of a Canvas are finite, and so they are written as numbers. -/
theorem fromValue_toValue_toDto (canvas : CanvasDescriptor) :
    fromValue (toValue canvas.toDto) = some canvas.toDto := by
  have hspace : fromStruct ["width", "height"] spaceOfFields
      (structValue [("width", toValue canvas.space.width),
        ("height", toValue canvas.space.height)]) =
      some (canvas.space.width, canvas.space.height) := by
    apply (fromStruct_structValue spaceOfFields rfl (by simp)).trans
    simp [spaceOfFields, fromValue_toValue_float canvas.space.width_valid.1,
      fromValue_toValue_float canvas.space.height_valid.1]
  apply (fromStruct_structValue ofFields rfl (by simp)).trans
  simp [ofFields, CanvasDescriptor.toDto, hspace]

end CanvasDto

/-- The wire value of a Canvas says all there is. -/
theorem CanvasDescriptor.toDto_injective : Function.Injective CanvasDescriptor.toDto := by
  intro a b h
  obtain ⟨hcanvas, hsession, hwidth, hheight, hlayers, hdefault⟩ := CanvasDto.mk.inj h
  obtain ⟨_, _, ⟨_, _, _, _⟩, _, _, _, _⟩ := a
  obtain ⟨_, _, ⟨_, _, _, _⟩, _, _, _, _⟩ := b
  cases hcanvas
  cases hsession
  cases hwidth
  cases hheight
  cases hlayers
  cases hdefault
  rfl

namespace PageCanvasDto

def ofFields : List Value → Option PageCanvasDto
  | [pageId, canvas] => do some ⟨← fromValue pageId, ← fromValue canvas⟩
  | _ => none

instance : Deserialize PageCanvasDto := ⟨fromStruct ["page_id", "canvas"] ofFields⟩

theorem fromValue_toValue_toDto (entry : PageCanvasView) :
    fromValue (toValue entry.toDto) = some entry.toDto := by
  apply (fromStruct_structValue ofFields rfl (by simp)).trans
  simp [ofFields, PageCanvasView.toDto, CanvasDto.fromValue_toValue_toDto]

theorem fromValue_toDtos (entries : List PageCanvasView) :
    fromValue (.array ((entries.map PageCanvasView.toDto).map toValue)) =
      some (entries.map PageCanvasView.toDto) := by
  show ((entries.map PageCanvasView.toDto).map toValue).mapM fromValue = _
  induction entries with
  | nil => rfl
  | cons entry entries ih =>
    simp only [List.map_cons, List.mapM_cons, fromValue_toValue_toDto, ih]
    rfl

end PageCanvasDto

theorem PageCanvasView.toDto_injective : Function.Injective PageCanvasView.toDto := by
  intro a b h
  obtain ⟨hpage, hcanvas⟩ := PageCanvasDto.mk.inj h
  obtain ⟨_, _⟩ := a
  obtain ⟨_, _⟩ := b
  cases hpage
  cases CanvasDescriptor.toDto_injective hcanvas
  rfl

namespace DocumentViewDto

def fieldNames : List String := ["document", "source_asset", "page_canvases"]

def ofFields : List Value → Option DocumentViewDto
  | [document, sourceAsset, pageCanvases] => do
    some ⟨← fromValue document, ← fromValue sourceAsset, ← fromValue pageCanvases⟩
  | _ => none

instance : Deserialize DocumentViewDto := ⟨fromStruct fieldNames ofFields⟩

theorem fromValue_toValue_toDto (view : DocumentView) :
    fromValue (toValue view.toDto) = some view.toDto := by
  have hcanvases : fromValue (.array (view.toDto.pageCanvases.map toValue)) =
      some view.toDto.pageCanvases := PageCanvasDto.fromValue_toDtos view.pageCanvases
  apply (fromStruct_structValue ofFields rfl (by simp)).trans
  simp only [List.map_cons, List.map_nil, ofFields, fromValue_toValue, hcanvases,
    Option.bind_eq_bind, Option.bind_some]

end DocumentViewDto

/-! ### Listings -/

namespace DocumentSummaryDto

def ofFields : List Value → Option DocumentSummaryDto
  | [documentId, title, documentType, pageCount, sourceAssetId] => do
    some ⟨← fromValue documentId, ← fromValue title, ← fromValue documentType,
      ← fromValue pageCount, ← fromValue sourceAssetId⟩
  | _ => none

instance : Deserialize DocumentSummaryDto :=
  ⟨fromStruct ["document_id", "title", "document_type", "page_count", "source_asset_id"] ofFields⟩

instance : LawfulSerde DocumentSummaryDto where
  fromValue_toValue dto :=
    (fromStruct_structValue ofFields rfl (by simp)).trans (by simp [ofFields])

end DocumentSummaryDto

namespace DocumentListResultDto

def ofFields : List Value → Option DocumentListResultDto
  | [documents] => do some ⟨← fromValue documents⟩
  | _ => none

instance : Deserialize DocumentListResultDto := ⟨fromStruct ["documents"] ofFields⟩

instance : LawfulSerde DocumentListResultDto where
  fromValue_toValue dto := by
    have hdocuments : fromValue (.array (dto.documents.map toValue)) = some dto.documents :=
      fromValue_toValue dto.documents
    apply (fromStruct_structValue ofFields rfl (by simp)).trans
    simp [ofFields, hdocuments]

end DocumentListResultDto

theorem DocumentSummary.toDto_injective : Function.Injective DocumentSummary.toDto := by
  intro a b h
  obtain ⟨hid, htitle, htype, hcount, hasset⟩ := DocumentSummaryDto.mk.inj h
  cases a
  cases b
  cases hid
  cases htitle
  cases htype
  cases hcount
  cases hasset
  rfl

/-! ### Payloads -/

namespace DocumentQuery

/-- The payload of `document.list`. -/
def listed (summaries : List DocumentSummary) : DocumentListResultDto :=
  ⟨summaries.map DocumentSummary.toDto⟩

/-- The payload holds the summaries and nothing else. -/
structure CarriesList (payload : Payload) (summaries : List DocumentSummary) : Prop where
  keys : Map.HasExactly payload.fields ["documents"]
  typed : fromValue (toValue payload) = some (listed summaries)
  only : ∀ other, encodePayload (listed other) = .ok payload → other = summaries

/-- The payload holds the view and nothing else. Its parts pass the validation of their
descriptors. -/
structure CarriesView (payload : Payload) (view : DocumentView) : Prop where
  keys : Map.HasExactly payload.fields DocumentViewDto.fieldNames
  typed : fromValue (toValue payload) = some view.toDto
  document : ∃ value, Map.get? payload.fields "document" = some value ∧
    fromValue value = some view.document
  sourceAsset : ∃ value, Map.get? payload.fields "source_asset" = some value ∧
    fromValue value = some view.sourceAsset
  only : ∀ other : DocumentView, encodePayload other.toDto = .ok payload → other = view

/-- A written struct is encoded as its object. -/
theorem encodePayload_eq_ok {T : Type} [Serialize T] {value : T} {fields : Json.Map}
    (h : toValue value = .object fields) {payload : Payload} :
    encodePayload value = .ok payload ↔ payload = ⟨fields⟩ := by
  unfold encodePayload
  rw [h]
  constructor
  · rintro ⟨⟩
    rfl
  · rintro rfl
    rfl

/-- What is read back determines what was encoded. -/
theorem encodePayload_injective {T α : Type} [Serialize T] [Deserialize T] {f : α → T}
    (hf : Function.Injective f) (hread : ∀ a, fromValue (toValue (f a)) = some (f a))
    {a b : α} {fields : Json.Map} (ha : toValue (f a) = .object fields)
    (hb : encodePayload (f b) = .ok ⟨fields⟩) : b = a := by
  have hpayload : (fromValue (toValue (f b)) : Option Payload) = some ⟨fields⟩ :=
    Except.okOr_eq_ok.mp hb
  have hvalue : toValue (f b) = .object fields := by
    cases hobject : toValue (f b) with
    | object fields' =>
      rw [hobject] at hpayload
      cases hpayload
      rfl
    | _ =>
      rw [hobject] at hpayload
      cases hpayload
  apply hf
  have hsame : some (f b) = some (f a) := by rw [← hread b, ← hread a, hvalue, ha]
  exact Option.some.inj hsame

theorem listed_injective : Function.Injective listed := by
  intro a b h
  exact DocumentSummary.toDto_injective.list_map (DocumentListResultDto.mk.inj h)

theorem exists_carriesList (summaries : List DocumentSummary) :
    ∃ payload, encodePayload (listed summaries) = .ok payload ∧ CarriesList payload summaries := by
  obtain ⟨fields, hobject, hkeys, -⟩ := @structValue_eq_object
    [("documents", .array ((listed summaries).documents.map toValue))] _ rfl (by simp)
  have hvalue : toValue (listed summaries) = .object fields := hobject
  have htyped : fromValue (.object fields) = some (listed summaries) := by
    rw [← hvalue, fromValue_toValue]
  refine ⟨⟨fields⟩, (encodePayload_eq_ok hvalue).mpr rfl, hkeys, htyped, fun other hother => ?_⟩
  exact encodePayload_injective listed_injective (fun _ => fromValue_toValue _) hvalue hother

theorem toDto_injective : Function.Injective DocumentView.toDto := by
  intro a b h
  obtain ⟨hdocument, hasset, hcanvases⟩ := DocumentViewDto.mk.inj h
  have hdocument : a.document = b.document := by
    have hformat := congrArg (toValue (α := DocumentDto)) hdocument
    rw [DocumentDto.toValue_fromDocument, DocumentDto.toValue_fromDocument] at hformat
    have hread := congrArg (fromValue (α := DocumentDescriptor)) hformat
    rw [fromValue_toValue, fromValue_toValue] at hread
    exact Option.some.inj hread
  have hasset : a.sourceAsset = b.sourceAsset := by
    have hformat := congrArg (toValue (α := SourceAssetDto)) hasset
    rw [SourceAssetDto.toValue_toDto, SourceAssetDto.toValue_toDto] at hformat
    have hread := congrArg (fromValue (α := SourceAssetDescriptor)) hformat
    rw [fromValue_toValue, fromValue_toValue] at hread
    exact Option.some.inj hread
  have hcanvases := PageCanvasView.toDto_injective.list_map hcanvases
  cases a
  cases b
  cases hdocument
  cases hasset
  cases hcanvases
  rfl

theorem exists_carriesView (view : DocumentView) :
    ∃ payload, encodePayload view.toDto = .ok payload ∧ CarriesView payload view := by
  obtain ⟨fields, hobject, hkeys, hvalues⟩ := @structValue_eq_object
    [("document", toValue view.toDto.document), ("source_asset", toValue view.toDto.sourceAsset),
      ("page_canvases", .array (view.toDto.pageCanvases.map toValue))] _ rfl (by simp)
  have hvalue : toValue view.toDto = .object fields := hobject
  have htyped : fromValue (.object fields) = some view.toDto := by
    rw [← hvalue, DocumentViewDto.fromValue_toValue_toDto]
  refine ⟨⟨fields⟩, (encodePayload_eq_ok hvalue).mpr rfl, hkeys, htyped, ?_, ?_, ?_⟩
  · refine ⟨_, hvalues _ _ List.mem_cons_self, ?_⟩
    show fromValue (toValue (DocumentDto.fromDocument view.document)) = _
    rw [DocumentDto.toValue_fromDocument, fromValue_toValue]
  · refine ⟨_, hvalues _ _ (List.mem_cons_of_mem _ List.mem_cons_self), ?_⟩
    show fromValue (toValue view.sourceAsset.toDto) = _
    rw [SourceAssetDto.toValue_toDto, fromValue_toValue]
  · intro other hother
    exact encodePayload_injective toDto_injective DocumentViewDto.fromValue_toValue_toDto hvalue
      hother

/-- Every answer of the two queries encodes, and is read back whole: as the typed wire value, and
the Document and the Asset as validated descriptors. -/
theorem document_answers_read_back (inserted : Nat → List DocumentDescriptor)
    (hgrows : Grows inserted) (actor : QueryActorContext) (request : QueryRequest) :
    (∀ summaries, ∃ payload, encodePayload (listed summaries) = .ok payload ∧
      CarriesList payload summaries) ∧
    (∀ view : DocumentView, ∃ payload, encodePayload view.toDto = .ok payload ∧
      CarriesView payload view) ∧
    (executeListQuery actor request).run.wp (disclosure inserted actor documentListQueryType)
      (fun result trace _ => ∀ payload, result = .ok payload → ∃ sessionId summaries,
        ListsSession inserted actor request trace payload sessionId summaries ∧
        CarriesList payload summaries) [] () ∧
    (executeGetQuery actor request).run.wp (disclosure inserted actor documentGetQueryType)
      (fun result trace _ => ∀ payload, result = .ok payload → ∃ view,
        ShowsDocument inserted actor request trace payload view ∧ CarriesView payload view)
      [] () := by
  refine ⟨exists_carriesList, exists_carriesView, ?_, ?_⟩
  · apply Pausing.Proc.wp_mono (wp_executeListQuery hgrows actor request)
    intro result trace _ hguarded payload hresult
    obtain ⟨sessionId, summaries, hlists⟩ := hguarded.disclosed payload hresult
    obtain ⟨payload', hencoded, hcarries⟩ := exists_carriesList summaries
    cases hlists.encoded.symm.trans hencoded
    exact ⟨sessionId, summaries, hlists, hcarries⟩
  · apply Pausing.Proc.wp_mono (wp_executeGetQuery hgrows actor request)
    intro result trace _ hguarded payload hresult
    obtain ⟨view, hshows⟩ := hguarded.disclosed payload hresult
    obtain ⟨payload', hencoded, hcarries⟩ := exists_carriesView view
    cases hshows.encoded.symm.trans hencoded
    exact ⟨view, hshows, hcarries⟩

theorem document_answers_read_back_sample :
    (executeGetQuery (.new ⟨countedIds 7⟩)
        ⟨⟨countedIds 8⟩, documentGetQueryType,
          ⟨[("document_id", toValue lessonDocument.documentId)]⟩⟩).run.wp
      (disclosure (fun n => List.replicate n lessonDocument) (.new ⟨countedIds 7⟩)
        documentGetQueryType)
      (fun result trace _ => ∀ payload, result = .ok payload → ∃ view,
        ShowsDocument (fun n => List.replicate n lessonDocument) (.new ⟨countedIds 7⟩)
          ⟨⟨countedIds 8⟩, documentGetQueryType,
            ⟨[("document_id", toValue lessonDocument.documentId)]⟩⟩ trace payload view ∧
        CarriesView payload view) [] () := by
  have hgrows : Grows fun n => List.replicate n lessonDocument :=
    fun _ => ⟨[lessonDocument], List.replicate_succ'.symm⟩
  exact (document_answers_read_back _ hgrows _ _).2.2.2

end DocumentQuery
end OrbitRelay
