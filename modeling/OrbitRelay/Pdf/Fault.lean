import OrbitRelay.Pdf.Inspect

/-! Why bytes are rejected as a PDF. Each failure of the parser names a cause in the bytes, in the
page tree of the document, or in one of its pages. -/
namespace OrbitRelay

section
variable {Document Dictionary Object : Type} (lopdf : Lopdf Document Dictionary Object)
  (document : Document)

/-- The node has this dictionary, whose `Type` is this name. -/
structure NodeHas (id : ObjectId) (dictionary : Dictionary) (name : List UInt8) : Prop where
  node : lopdf.getDictionary document id = .ok dictionary
  type : (lopdf.getDeref dictionary (byteString "Type") document >>= lopdf.asName) = .ok name

/-- What the dictionary holds under `Kids`. -/
def kidObjects (dictionary : Dictionary) : Except LopdfError (List Object) :=
  lopdf.getDeref dictionary (byteString "Kids") document >>= lopdf.asArray

/-- The path leads from the root to the node, by the positions of the kids on it. -/
inductive Leads (root : ObjectId) : List Nat → ObjectId → Prop
  | root : Leads root [] root
  | kid {path : List Nat} {parent : ObjectId} {dictionary : Dictionary} {objects : List Object}
      {index : Nat} {object : Object} {id : ObjectId} (above : Leads root path parent)
      (node : NodeHas lopdf document parent dictionary (byteString "Pages"))
      (kids : kidObjects lopdf document dictionary = .ok objects)
      (object_eq : objects[index]? = some object) (reference : lopdf.asReference object = .ok id) :
      Leads root (path ++ [index]) id

/-- What can be wrong with a single node. -/
inductive NodeFault (id : ObjectId) : Prop
  | missing {e : LopdfError} (node : lopdf.getDictionary document id = .error e)
  | untyped {dictionary : Dictionary} {e : LopdfError}
      (node : lopdf.getDictionary document id = .ok dictionary)
      (type : (lopdf.getDeref dictionary (byteString "Type") document >>= lopdf.asName) = .error e)
  | otherType {dictionary : Dictionary} {name : List UInt8}
      (node : NodeHas lopdf document id dictionary name)
      (other : name ≠ byteString "Page" ∧ name ≠ byteString "Pages")
  | noKids {dictionary : Dictionary} {e : LopdfError}
      (node : NodeHas lopdf document id dictionary (byteString "Pages"))
      (kids : kidObjects lopdf document dictionary = .error e)
  | emptyKids {dictionary : Dictionary}
      (node : NodeHas lopdf document id dictionary (byteString "Pages"))
      (kids : kidObjects lopdf document dictionary = .ok [])
  | noReference {dictionary : Dictionary} {objects : List Object} {object : Object}
      {e : LopdfError} (node : NodeHas lopdf document id dictionary (byteString "Pages"))
      (kids : kidObjects lopdf document dictionary = .ok objects) (mem : object ∈ objects)
      (reference : lopdf.asReference object = .error e)

/-- What can be wrong below a root: a node, a path that is too long, or two paths to one node. -/
inductive TreeFault (root : ObjectId) : Prop
  | node {path : List Nat} {id : ObjectId} (leads : Leads lopdf document root path id)
      (fault : NodeFault lopdf document id)
  | deep {path : List Nat} {id : ObjectId} (leads : Leads lopdf document root path id)
      (deep : pageTreeDepthLimit < path.length)
  | twice {path path' : List Nat} {id : ObjectId} (leads : Leads lopdf document root path id)
      (leads' : Leads lopdf document root path' id) (ne : path ≠ path')

/-- A page that can be reached from the root. -/
def PageBelow (root id : ObjectId) : Prop :=
  (∃ path, Leads lopdf document root path id) ∧
    ∃ dictionary, NodeHas lopdf document id dictionary (byteString "Page")

/-- Why the walk from a root fails: a fault, or more pages than the limit. -/
inductive WalkFailure (limits : PdfInspectionLimits) (root : ObjectId) : PdfError → Prop
  | invalidPageTree (fault : TreeFault lopdf document root) :
      WalkFailure limits root .invalidPageTree
  | pageLimitExceeded {pages : List ObjectId} (nodup : pages.Nodup)
      (below : ∀ id ∈ pages, PageBelow lopdf document root id)
      (exceeds : limits.maxPages.toNat < pages.length) :
      WalkFailure limits root (.pageLimitExceeded limits.maxPages)

/-- Why no pages are collected: there is no root, or the walk from it fails. -/
inductive CollectFailure (limits : PdfInspectionLimits) : PdfError → Prop
  | noCatalog {e : LopdfError} (catalog_eq : lopdf.catalog document = .error e) :
      CollectFailure limits .invalidPageTree
  | noRoot {catalog : Dictionary} {e : LopdfError}
      (catalog_eq : lopdf.catalog document = .ok catalog)
      (pages : (lopdf.get catalog (byteString "Pages") >>= lopdf.asReference) = .error e) :
      CollectFailure limits .invalidPageTree
  | walk {root : ObjectId} {error : PdfError} (root_eq : PagesRoot lopdf document root)
      (failure : WalkFailure lopdf document limits root error) : CollectFailure limits error

/-- Why a page displays nothing. -/
inductive PageFailure (attributes : InheritedAttributes Object) (pageIndex : UInt32) :
    PdfError → Prop
  | missingMediaBox (missing : attributes.mediaBox = none) :
      PageFailure attributes pageIndex (.missingMediaBox pageIndex)
  | invalidPageGeometry {mediaBox : Object} (mediaBox_eq : attributes.mediaBox = some mediaBox)
      (box : parseBox lopdf document mediaBox = none) :
      PageFailure attributes pageIndex (.invalidPageGeometry pageIndex)
  | rotationType {rotate : Object} {e : LopdfError}
      (rotate_eq : resolveObject lopdf document attributes.rotate = some rotate)
      (value : lopdf.asI64 rotate = .error e) :
      PageFailure attributes pageIndex (.invalidRotation pageIndex 0)
  | rotationValue {rotate : Object} {degrees : Int64}
      (rotate_eq : resolveObject lopdf document attributes.rotate = some rotate)
      (value : lopdf.asI64 rotate = .ok degrees) (turn : degrees.toInt % 90 ≠ 0) :
      PageFailure attributes pageIndex (.invalidRotation pageIndex degrees)

/-- Why bytes are no acceptable PDF. -/
inductive ParserFailure (limits : PdfInspectionLimits) (bytes : List UInt8) : PdfError → Prop
  | marked (preflight : containsEncryptMarker bytes = .ok true) :
      ParserFailure limits bytes .encryptedUnsupported
  | locked {error : LopdfError} (preflight : containsEncryptMarker bytes = .ok false)
      (loaded : lopdf.loadMem bytes limits.maxDecompressedStreamBytes.toNat = .error error)
      (lock : error = .invalidPassword ∨ error = .unsupportedSecurityHandler ∨
        error = .decryption) : ParserFailure limits bytes .encryptedUnsupported
  | encrypted {document : Document} (preflight : containsEncryptMarker bytes = .ok false)
      (loaded : lopdf.loadMem bytes limits.maxDecompressedStreamBytes.toNat = .ok document)
      (encrypted : lopdf.isEncrypted document = true ∨ lopdf.wasEncrypted document = true) :
      ParserFailure limits bytes .encryptedUnsupported
  | invalidPdf (preflight : containsEncryptMarker bytes = .ok false)
      (loaded : lopdf.loadMem bytes limits.maxDecompressedStreamBytes.toNat = .error .other) :
      ParserFailure limits bytes .invalidPdf
  | resourceLimit (preflight : containsEncryptMarker bytes = .ok false)
      (loaded : lopdf.loadMem bytes limits.maxDecompressedStreamBytes.toNat =
        .error .memoryLimitExceeded) :
      ParserFailure limits bytes (.parserResourceLimitExceeded limits.maxDecompressedStreamBytes)
  | collect {document : Document} {error : PdfError}
      (parses : Parses lopdf limits bytes document)
      (failure : CollectFailure lopdf document limits error) : ParserFailure limits bytes error
  | page {document : Document} {pages : List (RawPage Object)} {page : RawPage Object}
      {pageIndex : UInt32} {error : PdfError} (parses : Parses lopdf limits bytes document)
      (collected : collectPages lopdf document limits = .ok pages)
      (page_eq : pages[pageIndex.toNat]? = some page)
      (failure : PageFailure lopdf document page.attributes pageIndex error) :
      ParserFailure limits bytes error

end

/-! ### The walk -/

section Walk
variable {Document Dictionary Object : Type} {lopdf : Lopdf Document Dictionary Object}
  {document : Document} {limits : PdfInspectionLimits} {root : ObjectId}
  {ahead : List Nat → Prop} {walker : PageTreeWalker Object}

variable (lopdf document root) in
/-- What the walk has seen it has reached on paths that do not lie ahead, and every collected page
is a node of its own. -/
structure Walked (ahead : List Nat → Prop) (walker : PageTreeWalker Object) : Prop where
  seen : ∀ id ∈ walker.seen, ∃ path, Leads lopdf document root path id ∧ ¬ ahead path
  active : ∀ id ∈ walker.active, id ∈ walker.seen
  pages : ∃ nodes : List ObjectId, nodes.Nodup ∧ nodes.length = walker.pages.length ∧
    ∀ id ∈ nodes, id ∈ walker.seen ∧ PageBelow lopdf document root id

theorem Walked.mono {ahead' : List Nat → Prop} (h : Walked lopdf document root ahead walker)
    (himp : ∀ path, ahead' path → ahead path) : Walked lopdf document root ahead' walker := by
  refine { h with seen := fun id hid => ?_ }
  obtain ⟨path, hleads, hbehind⟩ := h.seen id hid
  exact ⟨path, hleads, fun hahead => hbehind (himp path hahead)⟩

/-- The path of the node that is entered is behind. -/
theorem Walked.enter {path : List Nat} {id : ObjectId}
    (h : Walked lopdf document root ahead walker) (hleads : Leads lopdf document root path id) :
    Walked lopdf document root (fun other => ahead other ∧ other ≠ path) (walker.enter id) := by
  constructor
  · intro other hother
    rcases List.mem_cons.mp hother with rfl | hother
    · exact ⟨path, hleads, fun hahead => hahead.2 rfl⟩
    · obtain ⟨path', hleads', hbehind⟩ := h.seen other hother
      exact ⟨path', hleads', fun hahead => hbehind hahead.1⟩
  · intro other hother
    rcases List.mem_cons.mp hother with rfl | hother
    · exact List.mem_cons_self ..
    · exact List.mem_cons_of_mem _ (h.active other hother)
  · obtain ⟨nodes, hnodup, hlength, hpages⟩ := h.pages
    refine ⟨nodes, hnodup, hlength, fun other hother => ?_⟩
    exact ⟨List.mem_cons_of_mem _ (hpages other hother).1, (hpages other hother).2⟩

theorem Walked.leave (h : Walked lopdf document root ahead walker) (id : ObjectId) :
    Walked lopdf document root ahead (walker.leave id) :=
  { h with active := fun other hother => h.active other (List.mem_of_mem_erase hother) }

/-- The pages so far, and a page that was not seen before. -/
theorem Walked.newPage {id : ObjectId} (h : Walked lopdf document root ahead walker)
    (hunseen : id ∉ walker.seen) (hpage : PageBelow lopdf document root id) :
    ∃ nodes : List ObjectId, nodes.Nodup ∧ nodes.length = walker.pages.length + 1 ∧
      ∀ other ∈ nodes, other ∈ (walker.enter id).seen ∧ PageBelow lopdf document root other := by
  obtain ⟨nodes, hnodup, hlength, hpages⟩ := h.pages
  refine ⟨id :: nodes, ?_, congrArg Nat.succ hlength, fun other hother => ?_⟩
  · exact List.nodup_cons.mpr ⟨fun hmem => hunseen (hpages id hmem).1, hnodup⟩
  · rcases List.mem_cons.mp hother with rfl | hother
    · exact ⟨List.mem_cons_self .., hpage⟩
    · exact ⟨List.mem_cons_of_mem _ (hpages other hother).1, (hpages other hother).2⟩

theorem typeName_ends {id : ObjectId} {path : List Nat} {dictionary : Dictionary}
    (hleads : Leads lopdf document root path id)
    (hnode : lopdf.getDictionary document id = .ok dictionary) :
    (typeName lopdf document dictionary).Ends (NodeHas lopdf document id dictionary)
      (WalkFailure lopdf document limits root) := by
  apply Except.Ends.mapError
  · exact fun name hname => ⟨hnode, hname⟩
  · exact fun e herror => .invalidPageTree (.node hleads (.untyped hnode herror))

theorem kidIds_ends {id : ObjectId} {path : List Nat} {dictionary : Dictionary}
    (hleads : Leads lopdf document root path id)
    (hnode : NodeHas lopdf document id dictionary (byteString "Pages")) :
    (kidIds lopdf document dictionary).Ends
      (fun ids => ∀ index kid, ids[index]? = some kid →
        Leads lopdf document root (path ++ [index]) kid)
      (WalkFailure lopdf document limits root) := by
  have hfault (fault : NodeFault lopdf document id) :
      WalkFailure lopdf document limits root .invalidPageTree :=
    .invalidPageTree (.node hleads fault)
  apply Except.Ends.bind (P := fun objects => kidObjects lopdf document dictionary = .ok objects)
  · exact .mapError (fun _ hobjects => hobjects) fun _ herror => hfault (.noKids hnode herror)
  intro objects hobjects
  apply Except.Ends.ite
  · intro hempty
    rw [List.isEmpty_iff] at hempty
    subst hempty
    exact hfault (.emptyKids hnode hobjects)
  · intro _
    refine (Except.Ends.mapM (P := fun object kid => lopdf.asReference object = .ok kid)
      fun object hobject => ?_).mono fun ids hids index kid hkid => ?_
    · exact .mapError (fun _ hkid => hkid) fun _ herror =>
        hfault (.noReference hnode hobjects hobject herror)
    · obtain ⟨hindex, rfl⟩ := List.getElem?_eq_some_iff.mp hkid
      have hobject : index < objects.length := hids.length_eq ▸ hindex
      exact .kid hleads hnode hobjects (List.getElem?_eq_getElem hobject)
        (hids.get hobject hindex)

variable (lopdf document limits root) in
/-- What the visit of a node at a depth leaves behind, and why it fails. -/
def VisitEnds (depth : Nat) : Prop :=
  ∀ (path : List Nat) (nodeId : ObjectId) (inherited : InheritedAttributes Object)
    (walker : PageTreeWalker Object) (ahead : List Nat → Prop), path.length = depth →
    Leads lopdf document root path nodeId → (∀ other, path <+: other → ahead other) →
    Walked lopdf document root ahead walker →
      (visit lopdf document limits nodeId inherited depth walker).Ends
        (Walked lopdf document root fun other => ahead other ∧ ¬ path <+: other)
        (WalkFailure lopdf document limits root)

/-- The kids of the node on the path, from one of them on. -/
theorem visitAll_ends {depth : Nat} (hvisit : VisitEnds lopdf document limits root depth)
    {path : List Nat} (hdepth : path.length + 1 = depth) (ids : List ObjectId) (start : Nat)
    (inherited : InheritedAttributes Object) (walker : PageTreeWalker Object)
    (ahead : List Nat → Prop)
    (hleads : ∀ index kid, ids[index]? = some kid →
      Leads lopdf document root (path ++ [start + index]) kid)
    (hahead : ∀ index other, start ≤ index → path ++ [index] <+: other → ahead other)
    (h : Walked lopdf document root ahead walker) :
    (visitAll lopdf document limits ids inherited depth walker).Ends
      (Walked lopdf document root fun other => ahead other ∧ ¬ path <+: other)
      (WalkFailure lopdf document limits root) := by
  induction ids generalizing start walker ahead with
  | nil =>
    rw [visitAll]
    exact h.mono fun other hother => hother.1
  | cons id ids ih =>
    rw [visitAll]
    have hkid : Leads lopdf document root (path ++ [start]) id := hleads 0 id rfl
    have hfirst := hvisit (path ++ [start]) id inherited walker ahead
      (by rw [List.length_append, List.length_singleton, hdepth]) hkid
      (fun other hother => hahead start other (Nat.le_refl _) hother) h
    apply hfirst.bind
    intro left hleft
    refine (ih (start + 1) left _ (fun index kid hindex => ?_) (fun index other hle hother => ?_)
      hleft).mono fun walker hwalked => hwalked.mono fun other hother => ⟨⟨hother.1, ?_⟩, hother.2⟩
    · rw [Nat.add_assoc, Nat.add_comm 1 index]
      exact hleads (index + 1) kid hindex
    · refine ⟨hahead index other (Nat.le_of_succ_le hle) hother, fun hstart => ?_⟩
      -- A path goes on with one kid of its last node.
      have hsame := (List.prefix_of_prefix_length_le hstart hother (by simp)).eq_of_length (by simp)
      have hindex : start = index := by simpa using hsame
      omega
    · exact fun hstart => hother.2 ((List.prefix_append path [start]).trans hstart)

/-- One visit, given the visits one level deeper. -/
theorem visitEnds_step {depth : Nat} (hdeeper : VisitEnds lopdf document limits root (depth + 1)) :
    VisitEnds lopdf document limits root depth := by
  intro path nodeId inherited walker ahead hdepth hleads hahead h
  have hpath : ahead path := hahead path (List.prefix_refl _)
  rw [visit]
  by_cases hdeep : depth > pageTreeDepthLimit
  · rw [if_pos (.inl hdeep)]
    exact .invalidPageTree (.deep hleads (hdepth ▸ hdeep))
  by_cases hseen : nodeId ∈ walker.seen
  · rw [if_pos (.inr (.inr hseen))]
    obtain ⟨path', hleads', hbehind⟩ := h.seen nodeId hseen
    exact .invalidPageTree (.twice hleads hleads' fun heq => hbehind (heq ▸ hpath))
  have hinactive : nodeId ∉ walker.active := fun hactive => hseen (h.active nodeId hactive)
  rw [if_neg (by simp only [hdeep, hseen, hinactive, or_self, not_false_eq_true])]
  have hentered := h.enter hleads
  apply Except.Ends.bind (P := fun dictionary =>
    lopdf.getDictionary document nodeId = .ok dictionary)
  · exact .mapError (fun _ hnode => hnode) fun _ herror =>
      .invalidPageTree (.node hleads (.missing herror))
  intro dictionary hnode
  apply (typeName_ends hleads hnode).bind
  intro name hname
  have hbeyond (other : List Nat) (hother : ahead other ∧ ¬ path <+: other) :
      ahead other ∧ other ≠ path := by
    refine ⟨hother.1, fun heq => hother.2 ?_⟩
    rw [heq]
  apply Except.Ends.bind (P := Walked lopdf document root fun other =>
    ahead other ∧ ¬ path <+: other)
  · apply Except.Ends.ite
    · rintro rfl
      obtain ⟨nodes, hnodup, hlength, hpages⟩ :=
        h.newPage hseen ⟨⟨path, hleads⟩, dictionary, hname⟩
      apply Except.Ends.ite
      · intro hfull
        refine .pageLimitExceeded hnodup (fun id hid => (hpages id hid).2) ?_
        rw [hlength]
        exact Nat.lt_succ_of_le hfull
      · intro _
        refine { hentered.mono hbeyond with pages := ⟨nodes, hnodup, ?_, hpages⟩ }
        rw [hlength, List.length_append, List.length_singleton]
        rfl
    · intro _
      apply Except.Ends.ite
      · rintro rfl
        apply (kidIds_ends hleads hname).bind
        intro ids hids
        have hkids (index : Nat) (kid : ObjectId) (hkid : ids[index]? = some kid) :
            Leads lopdf document root (path ++ [0 + index]) kid := by
          rw [Nat.zero_add]
          exact hids index kid hkid
        have hbelow (index : Nat) (other : List Nat) (_ : 0 ≤ index)
            (hother : path ++ [index] <+: other) : ahead other ∧ other ≠ path := by
          refine ⟨hahead other ((List.prefix_append path [index]).trans hother), fun heq => ?_⟩
          have hle := hother.length_le
          rw [heq, List.length_append, List.length_singleton] at hle
          omega
        have hall := visitAll_ends hdeeper (congrArg Nat.succ hdepth) ids 0
          (effectiveAttributes lopdf inherited dictionary) _ _ hkids hbelow hentered
        refine hall.mono fun left hleft => hleft.mono fun other hother => ?_
        exact ⟨hbeyond other hother, hother.2⟩
      · intro hother
        exact .invalidPageTree (.node hleads (.otherType hname ⟨‹_›, hother⟩))
  · exact fun left hleft => hleft.leave nodeId

theorem visit_ends (depth : Nat) : VisitEnds lopdf document limits root depth := by
  -- Upwards from the first level that is too deep, as for successful visits.
  induction hn : pageTreeDepthLimit + 1 - depth generalizing depth with
  | zero =>
    intro path nodeId inherited walker ahead hdepth hleads _ _
    have hdeep : depth > pageTreeDepthLimit := by omega
    rw [visit, if_pos (.inl hdeep)]
    exact .invalidPageTree (.deep hleads (hdepth ▸ hdeep))
  | succ n ih => exact visitEnds_step (ih (depth + 1) (by omega))

/-- The walk fails for a fault that the document has, or for pages that it has. -/
theorem collectPages_ends : (collectPages lopdf document limits).Ends
    (fun pages => collectPages lopdf document limits = .ok pages)
    (CollectFailure lopdf document limits) := by
  apply Except.Ends.value (P := fun _ => True)
  apply Except.Ends.bind (P := fun catalog => lopdf.catalog document = .ok catalog)
  · exact .mapError (fun _ hcatalog => hcatalog) fun _ herror => .noCatalog herror
  intro catalog hcatalog
  apply Except.Ends.bind (P := PagesRoot lopdf document)
  · refine .mapError (fun root hroot => ?_) fun _ herror => .noRoot hcatalog herror
    obtain ⟨object, hobject, hroot⟩ := Except.bind_eq_ok.mp hroot
    exact ⟨catalog, object, hcatalog, hobject, hroot⟩
  intro root hroot
  have hstart : Walked lopdf document root (fun _ => True) (⟨[], [], []⟩ : PageTreeWalker Object) :=
    ⟨nofun, nofun, [], .nil, rfl, nofun⟩
  have hvisit : VisitEnds lopdf document limits root 0 := visit_ends 0
  have hwalk := hvisit [] root ⟨none, none, none⟩ ⟨[], [], []⟩ _ rfl .root
    (fun _ _ => trivial) hstart
  apply (hwalk.mono_error fun _ hfailure => .walk hroot hfailure).bind
  exact fun _ _ => trivial

end Walk

/-! ### The pages, and the bytes -/

section Pages
variable {Document Dictionary Object : Type} {lopdf : Lopdf Document Dictionary Object}
  {document : Document} {limits : PdfInspectionLimits}

theorem parseRotation_ends (attributes : InheritedAttributes Object) (pageIndex : UInt32) :
    (parseRotation lopdf document attributes.rotate pageIndex).Ends (fun _ => True)
      (PageFailure lopdf document attributes pageIndex) := by
  unfold parseRotation
  cases hrotate : resolveObject lopdf document attributes.rotate with
  | none =>
    unfold resolveObject at hrotate
    rw [hrotate]
    trivial
  | some rotate =>
    have hresolved := hrotate
    unfold resolveObject at hresolved
    rw [hresolved]
    apply Except.Ends.bind (P := fun raw => lopdf.asI64 rotate = .ok raw)
    · exact .mapError (fun _ hraw => hraw) fun _ herror => .rotationType hrotate herror
    intro raw hraw
    have hturn : raw.toInt % 90 = raw.toInt % 360 % 90 := by omega
    apply Except.Ends.ite
    · exact fun hother => .rotationValue hrotate hraw (hturn ▸ hother)
    · intro hquarter
      obtain ⟨rotation, hrotation, -⟩ := fromDegrees_of_multiple (not_not.mp hquarter)
      rw [hrotation]
      trivial

/-- What is displayed has the area of a box that parsed, so it is a geometry. -/
theorem pageGeometry_ends (page : RawPage Object) (pageIndex : UInt32) :
    (pageGeometry lopdf document page pageIndex).Ends (fun _ => True)
      (PageFailure lopdf document page.attributes pageIndex) := by
  unfold pageGeometry
  apply Except.Ends.bind (P := fun mediaBox => page.attributes.mediaBox = some mediaBox)
  · exact .okOr (fun _ hmediaBox => hmediaBox) .missingMediaBox
  intro mediaBox hmediaBox
  apply Except.Ends.bind (P := fun media => parseBox lopdf document mediaBox = some media)
  · exact .okOr (fun _ hmedia => hmedia) (.invalidPageGeometry hmediaBox)
  intro media hmedia
  apply (parseRotation_ends page.attributes pageIndex).bind
  intro rotation _
  have hvisible := visibleBox_eq_some.mpr ⟨mediaBox, media, hmediaBox, hmedia, rfl⟩
  obtain ⟨hwidth, hheight⟩ := visibleBox_area hvisible
  cases rotation with
  | deg0 | deg180 =>
    dsimp only
    rw [PageDisplayGeometry.new, dif_pos hwidth, dif_pos hheight]
    trivial
  | deg90 | deg270 =>
    dsimp only
    rw [PageDisplayGeometry.new, dif_pos hheight, dif_pos hwidth]
    trivial

/-- A page within the limit has a number, so only its own content can be at fault. -/
theorem describePage_ends {index : Nat} (hindex : index < limits.maxPages.toNat)
    (page : RawPage Object) :
    (describePage lopdf document page index).Ends (fun _ => True) fun error =>
      ∃ pageIndex : UInt32, pageIndex.toNat = index ∧
        PageFailure lopdf document page.attributes pageIndex error := by
  have hnumbered : UInt32.tryFrom index = some (.ofNat index) := by
    apply UInt32.tryFrom_eq_some.mpr
    apply UInt32.toNat_ofNat_of_lt'
    exact Nat.lt_trans hindex limits.maxPages.toNat_lt
  unfold describePage
  rw [hnumbered, Except.okOr_some, Except.ok_bind]
  have hgeometry : (pageGeometry lopdf document page (.ofNat index)).Ends (fun _ => True)
      (PageFailure lopdf document page.attributes (.ofNat index)) :=
    pageGeometry_ends page (.ofNat index)
  apply Except.Ends.bind (P := fun _ => True)
  · exact hgeometry.mono_error fun error hfailure =>
      ⟨_, UInt32.tryFrom_eq_some.mp hnumbered, hfailure⟩
  · exact fun geometry _ => trivial

/-- A walk that ends has respected the limit on pages, and has found some. -/
theorem collectPages_length {pages : List (RawPage Object)}
    (h : collectPages lopdf document limits = .ok pages) :
    pages ≠ [] ∧ pages.length ≤ limits.maxPages.toNat := by
  obtain ⟨root, tree, -, htree, rfl⟩ := collectPages_eq_ok.mp h
  rw [List.length_map, Ne, List.map_eq_nil_iff]
  exact ⟨htree.represented.paths_ne_nil [], htree.leaves⟩

/-- An error of the parser library, under the name of its kind. -/
theorem mapParserError_failure {bytes : List UInt8} {error : LopdfError}
    (hpreflight : containsEncryptMarker bytes = .ok false)
    (hloaded : lopdf.loadMem bytes limits.maxDecompressedStreamBytes.toNat = .error error) :
    ParserFailure lopdf limits bytes (mapParserError error limits) := by
  cases error with
  | memoryLimitExceeded => exact .resourceLimit hpreflight hloaded
  | invalidPassword | unsupportedSecurityHandler | decryption =>
    exact .locked hpreflight hloaded (by decide)
  | other => exact .invalidPdf hpreflight hloaded

/-- A rejected PDF is rejected for a cause in its bytes. -/
theorem inspectBytes_ends {assetId : AssetId} {bytes : List UInt8}
    {result : Except PdfError PdfDocumentMetadata}
    (h : inspectBytes lopdf assetId bytes limits = .ok result) :
    result.Ends (fun _ => True) (ParserFailure lopdf limits bytes) := by
  obtain ⟨marker, hpreflight, h⟩ := Except.bind_eq_ok.mp h
  cases marker with
  | true =>
    rw [if_pos rfl] at h
    cases h
    exact .marked hpreflight
  | false =>
    rw [if_neg (by decide)] at h
    cases h
    apply Except.Ends.bind (P := fun document =>
      lopdf.loadMem bytes limits.maxDecompressedStreamBytes.toNat = .ok document)
    · exact .mapError (fun _ hloaded => hloaded) fun _ herror =>
        mapParserError_failure hpreflight herror
    intro document hloaded
    apply Except.Ends.ite
    · exact fun hencrypted => .encrypted hpreflight hloaded (by simpa using hencrypted)
    intro hplain
    rw [Bool.or_eq_true, not_or, Bool.not_eq_true, Bool.not_eq_true] at hplain
    have hparses : Parses lopdf limits bytes document := ⟨hpreflight, hloaded, hplain⟩
    apply (collectPages_ends.mono_error fun _ hfailure => .collect hparses hfailure).bind
    intro pages hpages
    obtain ⟨hnonempty, hlength⟩ := collectPages_length hpages
    apply Except.Ends.ite
    · exact fun hempty => absurd (List.isEmpty_iff.mp hempty) hnonempty
    intro _
    apply Except.Ends.bind
    · apply Except.Ends.mapM (P := fun _ _ => True)
      rintro ⟨page, index⟩ hmem
      obtain ⟨hindex, hpage⟩ := List.mem_zipIdx' hmem
      refine (describePage_ends (Nat.lt_of_lt_of_le hindex hlength) page).mono_error ?_
      rintro error ⟨pageIndex, rfl, hfailure⟩
      exact .page hparses hpages (hpage ▸ List.getElem?_eq_getElem hindex) hfailure
    · exact fun described _ => trivial

end Pages
end OrbitRelay
