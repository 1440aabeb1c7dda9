import OrbitRelay.DocumentRuntime.Format
import OrbitRelay.Pdf.Inspector

/-! A stored PDF on its way to a client: inspected, composed, registered, and read back by the
query, while other Assets are stored and other Documents registered between all the calls. -/
namespace OrbitRelay
open Json Pausing

/-- The view shows the inspected pages in order, each with a Canvas of its size. -/
structure ShowsPages (metadata : PdfDocumentMetadata) (view : DocumentView) : Prop where
  pageCount : view.document.pages.length = metadata.pages.length
  canvasCount : view.pageCanvases.length = metadata.pages.length
  page : ∀ (i : Nat) (page : PdfPageMetadata) (shown : DocumentPageDescriptor)
    (entry : PageCanvasView), metadata.pages[i]? = some page →
    view.document.pages[i]? = some shown → view.pageCanvases[i]? = some entry →
    shown.pageIndex.toNat = i ∧ shown.displayGeometry = page.displayGeometry ∧
      entry.canvas.space.width = page.displayGeometry.width ∧
      entry.canvas.space.height = page.displayGeometry.height

/-- A Document composed from the pages of an inspection shows these pages. -/
theorem Composes.showsPages {metadata : PdfDocumentMetadata} {input : DocumentComposeInput}
    {composition : DocumentComposition} (h : Composes input composition)
    (hpages : input.pages = metadata.sourcePages) : ShowsPages metadata composition.view := by
  have hlength : input.pages.length = metadata.pages.length := by
    rw [hpages, PdfDocumentMetadata.sourcePages, List.length_map]
  constructor
  · exact h.pageCount.trans hlength
  · show (composition.pageCanvases.map _).length = _
    rw [List.length_map, h.canvasCount, hlength]
  · intro i page shown entry hpage hshown hentry
    have hsource : input.pages[i]? = some ⟨page.pageIndex, page.displayGeometry⟩ := by
      rw [hpages, PdfDocumentMetadata.sourcePages, List.getElem?_map, hpage]
      rfl
    change (composition.pageCanvases.map _)[i]? = _ at hentry
    rw [List.getElem?_map, Option.map_eq_some_iff] at hentry
    obtain ⟨composed, hcomposed, rfl⟩ := hentry
    obtain ⟨hindex, hgeometry, hwidth, hheight, -, -⟩ :=
      h.page i _ shown composed hsource hshown hcomposed
    exact ⟨hindex, hgeometry, hwidth, hheight⟩

theorem sourceAsset_of_compose {fresh : Nat → EntityId} {input : DocumentComposeInput}
    {composition : DocumentComposition} (h : compose fresh input = .ok composition) :
    composition.sourceAsset = input.sourceAsset := by
  obtain ⟨pages, -, h⟩ := Except.bind_eq_ok.mp h
  obtain ⟨document, -, h⟩ := Except.bind_eq_ok.mp h
  exact (DocumentComposition.new_eq_ok.mp h).2.1

theorem found_some {ε α : Type} (catalog : String) (missing : DocumentReadError) (a : α) :
    found catalog missing (.ok (some a) : Except ε (Option α)) = .ok a := rfl

namespace DocumentQuery

/-- What the ports answer once a bundle is published: the authorizer approves the actor for its
Session, the Document catalog and the Asset store hold what they held before and more, and the
Canvas catalog holds the Canvases of the bundle. -/
def Published (digest : List UInt8 → Vector UInt8 32) (store : MemoryAssetStore)
    (inserted : Nat → List DocumentDescriptor) (composition : DocumentComposition)
    (actor : QueryActorContext) (trace : ReadTrace) : (call : ReadCall) → call.Answer → Prop
  | .authorizeSessionRead asking sessionId _, answer =>
    asking = actor → sessionId = composition.document.sessionId → answer = .ok ()
  | .getDocument documentId, answer =>
    answer = (CatalogState.insertAll (inserted trace.length)).getDocument documentId
  | .listDocuments _, _ => True
  | .getAsset assetId, answer =>
    ∃ now, MemoryAssetStore.Later digest store now ∧ answer = now.getAsset assetId
  | .getCanvas canvasId, answer => ∀ entry ∈ composition.pageCanvases,
    entry.canvas.canvasId = canvasId → answer = .ok (some entry.canvas)

/-- Nothing is promised about the calls. -/
def published (digest : List UInt8 → Vector UInt8 32) (store : MemoryAssetStore)
    (inserted : Nat → List DocumentDescriptor) (composition : DocumentComposition)
    (actor : QueryActorContext) : Contract ReadCall ReadCall.Answer Unit where
  rely trace _ := Published digest store inserted composition actor trace
  guarantee _ _ _ := True

section
variable {digest : List UInt8 → Vector UInt8 32} {store : MemoryAssetStore}
  {inserted : Nat → List DocumentDescriptor} {composition : DocumentComposition}
  {actor : QueryActorContext} {trace : ReadTrace}

/-- The Canvases of published pages are read in order. -/
theorem wp_readPageCanvases_published {pages : List DocumentPageDescriptor}
    {entries : List PageCanvasComposition}
    (hentries : ∀ entry ∈ entries, entry ∈ composition.pageCanvases)
    (hpages : List.Forall₂ (fun page entry => page.pageId = entry.pageId ∧
      Overlays composition.document.sessionId page entry.canvas) pages entries) :
    (readPageCanvases composition.document pages).run.wp
      (published digest store inserted composition actor)
      (fun result _ _ => result = .ok (entries.map PageCanvasComposition.view)) trace () := by
  induction hpages generalizing trace with
  | nil =>
    rw [readPageCanvases, Proc.wp_run_pure]
    rfl
  | @cons page entry pages entries hpage hrest ih =>
    obtain ⟨hidentity, hoverlays⟩ := hpage
    rw [List.forall_mem_cons] at hentries
    rw [readPageCanvases]
    simp only [Proc.wp_run_bind, Proc.wp_run_liftM, callPort, Proc.wp_request]
    refine ⟨trivial, fun answer hanswer => ?_⟩
    have hfound : answer = .ok (some entry.canvas) :=
      hanswer entry hentries.1 hoverlays.canvasId.symm
    have hvalid := validatePageCanvas_eq_ok.mpr hoverlays
    rw [hfound]
    simp only [Proc.afterResult_ok, Proc.wp_run_bind, Proc.wp_run_ofExcept, found_some, hvalid]
    apply Proc.wp_mono (ih hentries.2)
    intro result trace' _ hresult
    rw [hresult, Proc.afterResult_ok, Proc.wp_run_pure, hidentity]
    rfl

/-- The view of a published bundle is read whole. -/
theorem wp_getDocumentView_published (hgrows : Grows inserted)
    (hregistered : (CatalogState.insertAll (inserted 0)).documents
      composition.document.documentId = some composition.document)
    (hstored : ∃ record, store.records composition.sourceAsset.assetId = some record ∧
      record.descriptor = composition.sourceAsset) :
    (getDocumentView composition.document.documentId).run.wp
      (published digest store inserted composition actor)
      (fun result _ _ => result = .ok composition.view) trace () := by
  obtain ⟨record, hrecord, hdescriptor⟩ := hstored
  have hbundles := composition.bundles
  unfold getDocumentView
  simp only [Proc.wp_run_bind, Proc.wp_run_liftM, callPort, Proc.wp_request]
  refine ⟨trivial, fun answer hanswer => ?_⟩
  have hdocument : answer = .ok (some composition.document) :=
    hanswer.trans (congrArg _ (hgrows.stored (Nat.zero_le _) hregistered))
  rw [hdocument]
  simp only [Proc.afterResult_ok, Proc.wp_run_bind, Proc.wp_run_ofExcept, found_some,
    Proc.wp_run_liftM, Proc.wp_request]
  refine ⟨trivial, fun asset hasset => ?_⟩
  have hfound : asset = .ok (some composition.sourceAsset) := by
    obtain ⟨now, hlater, hanswered⟩ := hasset
    rw [hanswered, hbundles.asset, MemoryAssetStore.getAsset,
      MemoryAssetStore.records_immutable hlater hrecord, Option.map_some, hdescriptor]
  rw [hfound]
  rw [found_some, Proc.afterResult_ok, if_neg (not_not.mpr hbundles.asset.symm), Proc.wp_run_bind]
  apply Proc.wp_mono (wp_readPageCanvases_published (fun _ hentry => hentry) hbundles.pages)
  intro result trace' _ hresult
  have hlength : (composition.pageCanvases.map PageCanvasComposition.view).length =
      composition.document.pages.length := by
    rw [List.length_map, hbundles.pages.length_eq]
  rw [hresult, Proc.afterResult_ok, if_neg (not_not.mpr hlength), Proc.wp_run_pure]
  rfl

variable (digest store composition) in
/-- From the registration of the Document on, every approved query for it is answered with the
whole bundle. -/
def ServedOnceRegistered : Prop :=
  ∀ (inserted : Nat → List DocumentDescriptor) (actor : QueryActorContext)
    (request : QueryRequest), Grows inserted →
    (CatalogState.insertAll (inserted 0)).documents composition.document.documentId =
      some composition.document →
    decodePayload request.payload =
      .ok (GetDocumentPayload.mk composition.document.documentId) →
    (executeGetQuery actor request).run.wp
      (published digest store inserted composition actor)
      (fun result _ _ => ∃ payload, result = .ok payload ∧ CarriesView payload composition.view)
      [] ()

theorem servedOnceRegistered
    (hstored : ∃ record, store.records composition.sourceAsset.assetId = some record ∧
      record.descriptor = composition.sourceAsset) :
    ServedOnceRegistered digest store composition := by
  intro inserted actor request hgrows hregistered hrequest
  obtain ⟨payload, hencoded, hcarries⟩ := exists_carriesView composition.view
  unfold executeGetQuery
  rw [Proc.wp_run_bind, Proc.wp_run_ofExcept, hrequest, Proc.afterResult_ok]
  simp only [Proc.wp_run_bind, Proc.wp_run_liftM, callPort, Proc.wp_request]
  refine ⟨trivial, fun answer hanswer => ?_⟩
  have hdocument : answer = .ok (some composition.document) :=
    hanswer.trans (congrArg _ (hgrows.stored (Nat.zero_le _) hregistered))
  rw [hdocument]
  simp only [Proc.afterResult_ok, Proc.wp_run_bind, Proc.wp_run_ofExcept, Except.mapError_ok,
    Except.okOr_some, Proc.wp_run_liftM, Proc.wp_request]
  refine ⟨trivial, fun authorized hauthorized => ?_⟩
  rw [hauthorized rfl rfl, Except.mapError_ok, Proc.afterResult_ok, Proc.wp_run_bind,
    Proc.wp_run_liftM]
  apply Proc.wp_mono (wp_getDocumentView_published hgrows hregistered hstored)
  intro result trace _ hview
  rw [hview, Proc.afterResult_ok, Proc.wp_run_bind, Proc.wp_run_ofExcept, Except.mapError_ok,
    Proc.afterResult_ok, Proc.wp_run_ofExcept]
  exact ⟨payload, hencoded, hcarries⟩

end

/-- What was made of a stored PDF: metadata of its bytes, and a bundle that shows its pages. -/
structure MadeFrom {Document Dictionary Object : Type}
    (lopdf : Lopdf Document Dictionary Object) (limits : PdfInspectionLimits)
    (record : MemoryAssetRecord) (metadata : PdfDocumentMetadata)
    (composition : DocumentComposition) : Prop where
  inspected : inspectBytes lopdf record.descriptor.assetId record.bytes limits =
    .ok (.ok metadata)
  sourceAsset : composition.sourceAsset = record.descriptor
  shows : ShowsPages metadata composition.view

/-- A Document composed over a stored Asset is served once it is registered. The pages of a PDF
that passed inspection can always be composed, and the bundle shows the pages of the stored
bytes. All of this holds while others store Assets and register Documents. -/
theorem stored_documents_are_served {digest : List UInt8 → Vector UInt8 32}
    {store : MemoryAssetStore} {assetId : AssetId} {record : MemoryAssetRecord}
    (hstore : (MemoryAssetStore.system digest).Reachable store)
    (hrecord : store.records assetId = some record) (sessionId : SessionId) :
    (∀ (fresh : Nat → EntityId) (input : DocumentComposeInput)
      (composition : DocumentComposition), input.sourceAsset = record.descriptor →
      compose fresh input = .ok composition → ServedOnceRegistered digest store composition) ∧
    ∀ {Document Dictionary Object : Type} (lopdf : Lopdf Document Dictionary Object)
      (limits : PdfInspectionLimits) (catalog : Nat → AssetCatalog) (reader : AssetReader)
      (metadata : PdfDocumentMetadata) (fresh : Nat → EntityId),
      MemoryAssetStore.ServesLookups digest store catalog →
      MemoryAssetStore.ServesReads digest store reader →
      (inspect lopdf limits catalog reader assetId).result = .ok (.ok metadata) →
      Set.InjOn fresh (Set.Iio (3 * metadata.pages.length + 1)) →
      ∃ input composition,
        DocumentComposeInput.new sessionId .pdf record.descriptor metadata.title
          metadata.sourcePages = .ok input ∧
        compose fresh input = .ok composition ∧
        MadeFrom lopdf limits record metadata composition ∧
        ServedOnceRegistered digest store composition := by
  have hverified := MemoryAssetStore.verified_of_reachable hstore assetId record hrecord
  have hserved : ∀ composition : DocumentComposition,
      composition.sourceAsset = record.descriptor →
      ServedOnceRegistered digest store composition := by
    intro composition hsource
    apply servedOnceRegistered
    refine ⟨record, ?_, hsource.symm⟩
    rw [hsource, hverified.assetId]
    exact hrecord
  constructor
  · intro fresh input composition hasset hcompose
    exact hserved composition ((sourceAsset_of_compose hcompose).trans hasset)
  · intro Document Dictionary Object lopdf limits catalog reader metadata fresh hcatalog hreader
      hinspected hfresh
    have hmax : record.descriptor.byteLength ≤ limits.maxAssetBytes :=
      byteLength_le_of_inspect (hcatalog.found hrecord 0) hinspected
    have hbytes : inspectBytes lopdf assetId record.bytes limits = .ok (.ok metadata) := by
      rw [← MemoryAssetStore.inspect_stored lopdf hstore hcatalog hreader hrecord hmax,
        hinspected]
    obtain ⟨input, hinput⟩ := (DocumentComposeInput.exists_new sessionId .pdf record.descriptor
      metadata.title).mpr (sourcePages_of_inspectBytes hbytes)
    obtain ⟨-, -, hasset, -, hpages⟩ := DocumentComposeInput.new_eq_ok.mp hinput
    have hcount : input.pages.length = metadata.pages.length := by
      rw [hpages, PdfDocumentMetadata.sourcePages, List.length_map]
    rw [← hcount] at hfresh
    obtain ⟨composition, hcompose, hcomposes⟩ := exists_compose hfresh
    have hsource := hcomposes.sourceAsset.trans hasset
    have hmade : MadeFrom lopdf limits record metadata composition :=
      ⟨hverified.assetId ▸ hbytes, hsource, hcomposes.showsPages hpages⟩
    exact ⟨input, composition, hinput, hcompose, hmade, hserved composition hsource⟩

/-- The SHA-256 digest of the document. -/
def pdfDigest : Vector UInt8 32 :=
  #v[0xa5, 0xcf, 0x5a, 0xe7, 0x30, 0xab, 0x05, 0x93, 0x5b, 0x46, 0x9c, 0x84, 0x81, 0x63, 0x78,
    0x40, 0x25, 0xc3, 0xfe, 0xcc, 0xd7, 0xa7, 0x63, 0x3e, 0xa7, 0xfb, 0x3c, 0x03, 0x1b, 0x2d,
    0xfd, 0xba]

def pdfRecord : MemoryAssetRecord where
  descriptor :=
    { lessonAsset with
      assetId := sampleMetadata.assetId
      byteLength := 422
      contentHash := ContentHash.fromBytes pdfDigest }
  bytes := samplePdf

def pdfStore : MemoryAssetStore := MemoryAssetStore.new.insert pdfRecord

theorem samplePdf_length : UInt64.tryFrom samplePdf.length = some 422 := by decide +kernel

theorem pdfStore_reachable : (MemoryAssetStore.system fun _ => pdfDigest).Reachable pdfStore := by
  have hverify : MemoryAssetStore.verify (fun _ => pdfDigest) pdfRecord.descriptor
      pdfRecord.bytes = .ok () := by
    unfold MemoryAssetStore.verify pdfRecord
    rw [samplePdf_length]
    rfl
  apply Transition.System.Reachable.step (.init rfl)
  refine ⟨.insertVerified pdfRecord.descriptor pdfRecord.bytes, .inserted (.ok .inserted), ?_⟩
  simp only [MemoryAssetStore.perform, MemoryAssetStore.insertVerified, hverify]
  rfl

theorem pdfStore_records : pdfStore.records sampleMetadata.assetId = some pdfRecord :=
  MemoryAssetStore.insert_records_self pdfRecord

/-- Reads of the store that do not panic; none does. -/
def pdfReader : AssetReader := fun _ id range =>
  (pdfStore.readRange id range).toOption.getD (.error (.unavailable ""))

theorem pdfReader_serves :
    MemoryAssetStore.ServesReads (fun _ => pdfDigest) pdfStore pdfReader := by
  intro asked id range
  have hverified := MemoryAssetStore.verified_of_reachable pdfStore_reachable
  obtain ⟨answer, hanswer, -⟩ := MemoryAssetStore.exists_readRange hverified id range
  refine ⟨pdfStore, .refl, ?_⟩
  unfold pdfReader
  rw [hanswer]
  rfl

theorem inspect_pdfStore :
    (inspect sampleLopdf sampleLimits (fun _ => pdfStore.getAsset) pdfReader
      sampleMetadata.assetId).result = .ok (.ok sampleMetadata) := by
  have hlookups : MemoryAssetStore.ServesLookups (fun _ => pdfDigest) pdfStore
      fun _ => pdfStore.getAsset := fun _ _ => ⟨pdfStore, .refl, rfl⟩
  rw [MemoryAssetStore.inspect_stored _ pdfStore_reachable hlookups pdfReader_serves
    pdfStore_records (by decide)]
  apply (inspectBytes_eq_ok sampleLopdf_dereferencesOnce).mpr
  refine ⟨(), _, samplePdf_parses, collectPages_eq_ok.mpr ?_, sampleMetadata_describes, rfl, rfl⟩
  refine ⟨_, _, ⟨_, _, rfl, rfl, rfl⟩, sampleTree_walkable, ?_⟩
  rw [sampleTree_paths]
  rfl

/-- A stored PDF of two pages is inspected, composed and served while other Documents are
registered. -/
theorem stored_documents_are_served_sample :
    ∃ input composition,
      DocumentComposeInput.new ⟨countedIds 101⟩ .pdf pdfRecord.descriptor none
        sampleMetadata.sourcePages = .ok input ∧ compose countedIds input = .ok composition ∧
      MadeFrom sampleLopdf sampleLimits pdfRecord sampleMetadata composition ∧
      (executeGetQuery (.new ⟨countedIds 7⟩) ⟨⟨countedIds 8⟩, documentGetQueryType,
          ⟨[("document_id", toValue composition.document.documentId)]⟩⟩).run.wp
        (published (fun _ => pdfDigest) pdfStore
          (fun n => composition.document :: .replicate n lessonDocument) composition
          (.new ⟨countedIds 7⟩))
        (fun result _ _ => ∃ payload, result = .ok payload ∧
          CarriesView payload composition.view) [] () := by
  obtain ⟨hcomposed, hinspected⟩ :=
    stored_documents_are_served pdfStore_reachable pdfStore_records ⟨countedIds 101⟩
  have hfresh : Set.InjOn countedIds (Set.Iio (3 * sampleMetadata.pages.length + 1)) := by
    have hdistinct : ∀ i < 7, ∀ j < 7, countedIds i = countedIds j → i = j := by decide
    exact fun i hi j hj heq => hdistinct i hi j hj heq
  obtain ⟨input, composition, hinput, hcompose, hmade, -⟩ := hinspected sampleLopdf sampleLimits
    (fun _ => pdfStore.getAsset) pdfReader sampleMetadata countedIds
    (fun _ _ => ⟨pdfStore, .refl, rfl⟩) pdfReader_serves inspect_pdfStore hfresh
  obtain ⟨-, -, hasset, -, -⟩ := DocumentComposeInput.new_eq_ok.mp hinput
  have hserved := hcomposed countedIds input composition hasset hcompose
  refine ⟨input, composition, hinput, hcompose, hmade, hserved _ _ _ ?_ ?_ ?_⟩
  · exact fun n => ⟨[lessonDocument], by rw [List.cons_append, ← List.replicate_succ']⟩
  · exact if_pos rfl
  · show ((fromValue (toValue composition.document.documentId)).bind
      fun documentId => some (GetDocumentPayload.mk documentId)).okOr
        QueryHandlerError.invalidQuery = _
    rw [fromValue_toValue]
    rfl

end DocumentQuery
end OrbitRelay
