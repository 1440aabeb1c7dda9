import OrbitRelay.Pdf.Basic

/-! The walk over the page tree. What it accepts is a tree; what it collects are the leaves of
that tree, each with the attributes of its path. -/
namespace OrbitRelay

def pageTreeDepthLimit : Nat := 256

/-- The state of the walk. The insertion orders of the two sets are not observable. -/
structure PageTreeWalker (Object : Type) where
  pages : List (RawPage Object)
  active : List ObjectId
  seen : List ObjectId

/-- The node is being visited. -/
def PageTreeWalker.enter {Object : Type} (walker : PageTreeWalker Object) (nodeId : ObjectId) :
    PageTreeWalker Object :=
  { walker with active := nodeId :: walker.active, seen := nodeId :: walker.seen }

def PageTreeWalker.leave {Object : Type} (walker : PageTreeWalker Object) (nodeId : ObjectId) :
    PageTreeWalker Object :=
  { walker with active := walker.active.erase nodeId }

section
variable {Document Dictionary Object : Type} (lopdf : Lopdf Document Dictionary Object)
  (document : Document) (limits : PdfInspectionLimits)

/-- A definition in the dictionary replaces what was inherited. -/
def inherit (slot : Option Object) (dictionary : Dictionary) (key : List UInt8) :
    Option Object :=
  match lopdf.get dictionary key with
  | .ok value => some value
  | .error _ => slot

/-- The attributes in effect at a node. -/
def effectiveAttributes (inherited : InheritedAttributes Object) (dictionary : Dictionary) :
    InheritedAttributes Object where
  mediaBox := inherit lopdf inherited.mediaBox dictionary (byteString "MediaBox")
  cropBox := inherit lopdf inherited.cropBox dictionary (byteString "CropBox")
  rotate := inherit lopdf inherited.rotate dictionary (byteString "Rotate")

def resolveAttributes (attributes : InheritedAttributes Object) :
    InheritedAttributes Object where
  mediaBox := resolveObject lopdf document attributes.mediaBox
  cropBox := resolveObject lopdf document attributes.cropBox
  rotate := resolveObject lopdf document attributes.rotate

/-- The name under `Type`. -/
def typeName (dictionary : Dictionary) : Except PdfError (List UInt8) :=
  (lopdf.getDeref dictionary (byteString "Type") document >>= lopdf.asName).mapError fun _ =>
    .invalidPageTree

/-- The references under `Kids`, of which there is at least one. -/
def kidIds (dictionary : Dictionary) : Except PdfError (List ObjectId) := do
  let kids ← (lopdf.getDeref dictionary (byteString "Kids") document >>= lopdf.asArray).mapError
    fun _ => .invalidPageTree
  if kids.isEmpty then .error .invalidPageTree
  else kids.mapM fun kid => (lopdf.asReference kid).mapError fun _ => .invalidPageTree

mutual

/-- Visits one node; a failure ends the walk. -/
def visit (nodeId : ObjectId) (inherited : InheritedAttributes Object) (depth : Nat)
    (walker : PageTreeWalker Object) : Except PdfError (PageTreeWalker Object) :=
  if depth > pageTreeDepthLimit ∨ nodeId ∈ walker.active ∨ nodeId ∈ walker.seen then
    .error .invalidPageTree
  else do
    let entered := walker.enter nodeId
    let dictionary ← (lopdf.getDictionary document nodeId).mapError fun _ => .invalidPageTree
    let name ← typeName lopdf document dictionary
    let effective := effectiveAttributes lopdf inherited dictionary
    let left ← (
      if name = byteString "Page" then
        if entered.pages.length ≥ limits.maxPages.toNat then
          .error (.pageLimitExceeded limits.maxPages)
        else
          .ok { entered with
            pages := entered.pages ++ [⟨resolveAttributes lopdf document effective⟩] }
      else if name = byteString "Pages" then do
        visitAll (← kidIds lopdf document dictionary) effective (depth + 1) entered
      else .error .invalidPageTree)
    .ok (left.leave nodeId)
termination_by (pageTreeDepthLimit + 1 - depth, 0)
decreasing_by
  apply Prod.Lex.left
  omega

/-- Visits the kids of a node, in order. -/
def visitAll (ids : List ObjectId) (inherited : InheritedAttributes Object) (depth : Nat)
    (walker : PageTreeWalker Object) : Except PdfError (PageTreeWalker Object) :=
  match ids with
  | [] => .ok walker
  | id :: rest => do visitAll rest inherited depth (← visit id inherited depth walker)
termination_by (pageTreeDepthLimit + 1 - depth, ids.length + 1)

end

/-- The pages in logical order, with their effective attributes. -/
def collectPages : Except PdfError (List (RawPage Object)) := do
  let catalog ← (lopdf.catalog document).mapError fun _ => .invalidPageTree
  let pagesId ← (lopdf.get catalog (byteString "Pages") >>= lopdf.asReference).mapError fun _ =>
    .invalidPageTree
  let walker ← visit lopdf document limits pagesId ⟨none, none, none⟩ 0 ⟨[], [], []⟩
  .ok walker.pages

end
/-! ### Page trees -/

/-- A tree of nodes with their dictionaries. -/
inductive PageTree (Dictionary : Type)
  | page (id : ObjectId) (dictionary : Dictionary)
  | pages (id : ObjectId) (dictionary : Dictionary) (kids : List (PageTree Dictionary))

namespace PageTree
variable {Dictionary : Type}

def id : PageTree Dictionary → ObjectId
  | page id _ => id
  | pages id _ _ => id

/-- All identities, parents before kids. -/
def ids : PageTree Dictionary → List ObjectId
  | page id _ => [id]
  | pages id _ kids => id :: kids.flatMap ids

/-- The depth of the deepest node below the root. -/
def height : PageTree Dictionary → Nat
  | page _ _ => 0
  | pages _ _ kids => (kids.map height).foldr max 0 + 1

/-- The path from each leaf, in order, up to the root and on to what lies above. -/
def paths (above : List Dictionary) : PageTree Dictionary → List (List Dictionary)
  | page _ dictionary => [dictionary :: above]
  | pages _ dictionary kids => kids.flatMap (paths (dictionary :: above))

@[simp] theorem ids_page (id : ObjectId) (dictionary : Dictionary) :
    (page id dictionary).ids = [id] := by rw [ids]

@[simp] theorem ids_pages (id : ObjectId) (dictionary : Dictionary)
    (kids : List (PageTree Dictionary)) :
    (pages id dictionary kids).ids = id :: kids.flatMap ids := by rw [ids]

@[simp] theorem height_page (id : ObjectId) (dictionary : Dictionary) :
    (page id dictionary).height = 0 := by rw [height]

@[simp] theorem paths_page (above : List Dictionary) (id : ObjectId) (dictionary : Dictionary) :
    (page id dictionary).paths above = [dictionary :: above] := by rw [paths]

@[simp] theorem paths_pages (above : List Dictionary) (id : ObjectId) (dictionary : Dictionary)
    (kids : List (PageTree Dictionary)) :
    (pages id dictionary kids).paths above = kids.flatMap (paths (dictionary :: above)) := by
  rw [paths]

theorem height_kids {id : ObjectId} {dictionary : Dictionary}
    {kids : List (PageTree Dictionary)} {n : Nat} (hne : kids ≠ []) :
    (pages id dictionary kids).height ≤ n ↔ ∀ kid ∈ kids, kid.height + 1 ≤ n := by
  have hmax : ∀ heights : List Nat, heights.foldr max 0 + 1 ≤ n ↔
      1 ≤ n ∧ ∀ height ∈ heights, height + 1 ≤ n := by
    intro heights
    induction heights with
    | nil => simp
    | cons height heights ih =>
      have hcons : max height (heights.foldr max 0) + 1 ≤ n ↔
          height + 1 ≤ n ∧ heights.foldr max 0 + 1 ≤ n := by omega
      rw [List.foldr_cons, List.forall_mem_cons, hcons, ih, and_left_comm]
  have hsome : (∀ kid ∈ kids, kid.height + 1 ≤ n) → 1 ≤ n := by
    intro h
    have hhead := h _ (List.head_mem hne)
    omega
  rw [height, hmax, List.forall_mem_map]
  exact ⟨fun h => h.2, fun h => ⟨hsome h, h⟩⟩

end PageTree

section
variable {Document Dictionary Object : Type} (lopdf : Lopdf Document Dictionary Object)
  (document : Document) (limits : PdfInspectionLimits)

/-- The tree is what the document holds under the identity of its root. -/
inductive Represents : PageTree Dictionary → Prop
  | page {id : ObjectId} {dictionary : Dictionary} {type : Object}
      (node : lopdf.getDictionary document id = .ok dictionary)
      (type_eq : lopdf.getDeref dictionary (byteString "Type") document = .ok type)
      (name : lopdf.asName type = .ok (byteString "Page")) : Represents (.page id dictionary)
  | pages {id : ObjectId} {dictionary : Dictionary} {type array : Object}
      {objects : List Object} {kids : List (PageTree Dictionary)}
      (node : lopdf.getDictionary document id = .ok dictionary)
      (type_eq : lopdf.getDeref dictionary (byteString "Type") document = .ok type)
      (name : lopdf.asName type = .ok (byteString "Pages"))
      (array_eq : lopdf.getDeref dictionary (byteString "Kids") document = .ok array)
      (objects_eq : lopdf.asArray array = .ok objects) (nonempty : objects ≠ [])
      (references : List.Forall₂ (fun object kid => lopdf.asReference object = .ok kid.id)
        objects kids)
      (represented : ∀ kid ∈ kids, Represents kid) : Represents (.pages id dictionary kids)

/-- The definition of a key that is nearest to the leaf. -/
def nearest (key : List UInt8) (path : List Dictionary) : Option Object :=
  path.findSome? fun dictionary => (lopdf.get dictionary key).toOption

/-- The attributes that the dictionaries of a path define. -/
def pathAttributes (path : List Dictionary) : InheritedAttributes Object where
  mediaBox := nearest lopdf (byteString "MediaBox") path
  cropBox := nearest lopdf (byteString "CropBox") path
  rotate := nearest lopdf (byteString "Rotate") path

/-- The page at the end of a path. -/
def pathPage (path : List Dictionary) : RawPage Object :=
  ⟨resolveAttributes lopdf document (pathAttributes lopdf path)⟩

theorem inherit_nearest (key : List UInt8) (dictionary : Dictionary)
    (above : List Dictionary) :
    inherit lopdf (nearest lopdf key above) dictionary key =
      nearest lopdf key (dictionary :: above) := by
  unfold inherit nearest
  rw [List.findSome?_cons]
  cases lopdf.get dictionary key <;> rfl

/-- What a node passes on is what its path defines. -/
theorem effectiveAttributes_path (dictionary : Dictionary) (above : List Dictionary) :
    effectiveAttributes lopdf (pathAttributes lopdf above) dictionary =
      pathAttributes lopdf (dictionary :: above) := by
  unfold effectiveAttributes pathAttributes
  simp only [inherit_nearest]

/-- The walk goes over these trees, in order, from one state to another. -/
structure Visits (above : List Dictionary) (depth : Nat) (trees : List (PageTree Dictionary))
    (walker left : PageTreeWalker Object) : Prop where
  represented : ∀ tree ∈ trees, Represents lopdf document tree
  height : ∀ tree ∈ trees, depth + tree.height ≤ pageTreeDepthLimit
  nodup : (trees.flatMap PageTree.ids).Nodup
  fresh : ∀ id ∈ trees.flatMap PageTree.ids, id ∉ walker.seen
  limit : walker.pages.length + (trees.flatMap (PageTree.paths above)).length ≤
    limits.maxPages.toNat
  left_eq : left =
    { pages := walker.pages ++
        (trees.flatMap (PageTree.paths above)).map (pathPage lopdf document)
      active := walker.active
      seen := (trees.flatMap PageTree.ids).reverse ++ walker.seen }

end

section
variable {Document Dictionary Object : Type} {lopdf : Lopdf Document Dictionary Object}
  {document : Document} {limits : PdfInspectionLimits} {above : List Dictionary} {depth : Nat}

/-- A walk over several trees goes over the first and then over the others. -/
theorem visits_cons {tree : PageTree Dictionary} {trees : List (PageTree Dictionary)}
    {walker left : PageTreeWalker Object} :
    Visits lopdf document limits above depth (tree :: trees) walker left ↔
      ∃ middle, Visits lopdf document limits above depth [tree] walker middle ∧
        Visits lopdf document limits above depth trees middle left := by
  constructor
  · intro h
    have hnodup := h.nodup
    have hfresh := h.fresh
    have hlimit := h.limit
    have hleft := h.left_eq
    have hrepresented := List.forall_mem_cons.mp h.represented
    have hheight := List.forall_mem_cons.mp h.height
    simp only [List.flatMap_cons, List.length_append] at hnodup hfresh hlimit hleft
    obtain ⟨hfirst, hrest, hdisjoint⟩ := List.nodup_append.mp hnodup
    refine ⟨_, ⟨List.forall_mem_singleton.mpr hrepresented.1,
      List.forall_mem_singleton.mpr hheight.1, ?_, ?_, ?_, rfl⟩,
      ⟨hrepresented.2, hheight.2, hrest, ?_, ?_, ?_⟩⟩
    · rwa [List.flatMap_singleton]
    · intro id hid
      rw [List.flatMap_singleton] at hid
      exact hfresh id (List.mem_append_left _ hid)
    · rw [List.flatMap_singleton]
      omega
    · intro id hid hseen
      simp only [List.flatMap_singleton] at hseen
      rcases List.mem_append.mp hseen with hseen | hseen
      · exact hdisjoint id (List.mem_reverse.mp hseen) id hid rfl
      · exact hfresh id (List.mem_append_right _ hid) hseen
    · simp only [List.flatMap_singleton, List.length_append, List.length_map]
      omega
    · rw [hleft]
      simp only [List.flatMap_singleton, List.map_append, List.reverse_append, List.append_assoc]
  · rintro ⟨middle, hfirst, hrest⟩
    have hmiddle := hfirst.left_eq
    have hleft := hrest.left_eq
    have hlimit := hrest.limit
    have hfresh := hrest.fresh
    have hnodup := hfirst.nodup
    have hunseen := hfirst.fresh
    subst hmiddle
    simp only [List.flatMap_singleton, List.length_append, List.length_map] at *
    constructor
    · exact List.forall_mem_cons.mpr ⟨hfirst.represented tree (List.mem_singleton_self _),
        hrest.represented⟩
    · exact List.forall_mem_cons.mpr ⟨hfirst.height tree (List.mem_singleton_self _), hrest.height⟩
    · rw [List.flatMap_cons]
      refine List.nodup_append.mpr ⟨hnodup, hrest.nodup, ?_⟩
      rintro id hid _ hid' rfl
      exact hfresh id hid' (List.mem_append_left _ (List.mem_reverse.mpr hid))
    · intro id hid
      rw [List.flatMap_cons] at hid
      rcases List.mem_append.mp hid with hid | hid
      · exact hunseen id hid
      · exact fun hseen => hfresh id hid (List.mem_append_right _ hseen)
    · rw [List.flatMap_cons, List.length_append]
      omega
    · rw [hleft]
      simp only [List.flatMap_cons, List.map_append, List.reverse_append, List.append_assoc]

theorem typeName_eq_ok {dictionary : Dictionary} {name : List UInt8} :
    typeName lopdf document dictionary = .ok name ↔
      ∃ type, lopdf.getDeref dictionary (byteString "Type") document = .ok type ∧
        lopdf.asName type = .ok name := by
  unfold typeName
  rw [Except.mapError_eq_ok, Except.bind_eq_ok]

theorem kidIds_eq_ok {dictionary : Dictionary} {ids : List ObjectId} :
    kidIds lopdf document dictionary = .ok ids ↔
      ∃ array objects, lopdf.getDeref dictionary (byteString "Kids") document = .ok array ∧
        lopdf.asArray array = .ok objects ∧ objects ≠ [] ∧
        List.Forall₂ (fun object id => lopdf.asReference object = .ok id) objects ids := by
  unfold kidIds
  simp only [Except.bind_eq_ok, Except.mapError_eq_ok]
  constructor
  · rintro ⟨objects, ⟨array, harray, hobjects⟩, h⟩
    split_ifs at h with hempty
    have hreferences := Except.mapM_eq_ok.mp h
    simp only [Except.mapError_eq_ok] at hreferences
    exact ⟨array, objects, harray, hobjects, fun hnil => hempty (by simp [hnil]), hreferences⟩
  · rintro ⟨array, objects, harray, hobjects, hne, hreferences⟩
    refine ⟨objects, ⟨array, harray, hobjects⟩, ?_⟩
    rw [if_neg (fun hempty => hne (List.isEmpty_iff.mp hempty))]
    apply Except.mapM_eq_ok.mpr
    simp only [Except.mapError_eq_ok]
    exact hreferences

/-- A walk over one leaf. -/
theorem visits_page {id : ObjectId} {dictionary : Dictionary}
    {walker left : PageTreeWalker Object} :
    Visits lopdf document limits above depth [.page id dictionary] walker left ↔
      Represents lopdf document (.page id dictionary) ∧ depth ≤ pageTreeDepthLimit ∧
        id ∉ walker.seen ∧ walker.pages.length < limits.maxPages.toNat ∧
        left = ⟨walker.pages ++ [pathPage lopdf document (dictionary :: above)], walker.active,
          id :: walker.seen⟩ := by
  constructor
  · intro h
    have hheight := h.height _ (List.mem_singleton_self _)
    have hlimit := h.limit
    have hleft := h.left_eq
    simp only [List.flatMap_singleton, PageTree.height_page, PageTree.paths_page,
      PageTree.ids_page, List.length_singleton, List.map_singleton, List.reverse_singleton]
      at hheight hlimit hleft
    exact ⟨h.represented _ (List.mem_singleton_self _), hheight, h.fresh id (by simp), hlimit,
      hleft⟩
  · rintro ⟨hrepresented, hdepth, hfresh, hlimit, rfl⟩
    constructor
    · exact List.forall_mem_singleton.mpr hrepresented
    · rw [List.forall_mem_singleton, PageTree.height_page]
      exact hdepth
    · simp
    · simpa using hfresh
    · simp only [List.flatMap_singleton, PageTree.paths_page, List.length_singleton]
      omega
    · simp

/-- A walk over a node goes over its kids, with the node entered. -/
theorem visits_pages {id : ObjectId} {dictionary : Dictionary}
    {kids : List (PageTree Dictionary)} (hne : kids ≠ []) {walker left : PageTreeWalker Object} :
    Visits lopdf document limits above depth [.pages id dictionary kids] walker left ↔
      Represents lopdf document (.pages id dictionary kids) ∧ id ∉ walker.seen ∧
        ∃ inner, Visits lopdf document limits (dictionary :: above) (depth + 1) kids
          (walker.enter id) inner ∧ left = inner.leave id := by
  constructor
  · intro h
    have hrepresented := h.represented _ (List.mem_singleton_self _)
    have hheight := h.height _ (List.mem_singleton_self _)
    have hnodup := h.nodup
    have hfresh := h.fresh
    have hlimit := h.limit
    have hleft := h.left_eq
    simp only [List.flatMap_singleton, PageTree.ids_pages, PageTree.paths_pages,
      List.nodup_cons, List.forall_mem_cons] at hnodup hfresh hlimit hleft
    refine ⟨hrepresented, hfresh.1, _, ⟨?_, ?_, hnodup.2, ?_, hlimit, rfl⟩, ?_⟩
    · cases hrepresented with
      | pages node type_eq name array_eq objects_eq nonempty references represented =>
        exact represented
    · intro kid hkid
      have hnode : (PageTree.pages id dictionary kids).height ≤ pageTreeDepthLimit - depth := by
        omega
      have hbelow := (PageTree.height_kids hne).mp hnode kid hkid
      omega
    · intro kid hkid hseen
      rcases List.mem_cons.mp hseen with rfl | hseen
      · exact hnodup.1 hkid
      · exact hfresh.2 kid hkid hseen
    · rw [hleft]
      simp [PageTreeWalker.leave, PageTreeWalker.enter]
  · rintro ⟨hrepresented, hunseen, inner, hkids, rfl⟩
    have hheight := hkids.height
    have hnodup := hkids.nodup
    have hfresh := hkids.fresh
    have hlimit := hkids.limit
    have hinner := hkids.left_eq
    subst hinner
    constructor
    · exact List.forall_mem_singleton.mpr hrepresented
    · rw [List.forall_mem_singleton]
      have hhead := hheight _ (List.head_mem hne)
      have hnode : (PageTree.pages id dictionary kids).height ≤ pageTreeDepthLimit - depth :=
        (PageTree.height_kids hne).mpr fun kid hkid => by
          have hkid := hheight kid hkid
          omega
      omega
    · rw [List.flatMap_singleton, PageTree.ids_pages, List.nodup_cons]
      exact ⟨fun hmem => hfresh id hmem (List.mem_cons_self ..), hnodup⟩
    · rw [List.flatMap_singleton, PageTree.ids_pages, List.forall_mem_cons]
      exact ⟨hunseen, fun kid hkid hseen => hfresh kid hkid (List.mem_cons_of_mem _ hseen)⟩
    · rw [List.flatMap_singleton, PageTree.paths_pages]
      exact hlimit
    · simp [PageTreeWalker.leave, PageTreeWalker.enter]

/-- What the walk maintains: what is active was seen, and the limit is respected. -/
structure PageTreeWalker.Consistent (walker : PageTreeWalker Object)
    (limits : PdfInspectionLimits) : Prop where
  active : ∀ id ∈ walker.active, id ∈ walker.seen
  limit : walker.pages.length ≤ limits.maxPages.toNat

theorem PageTreeWalker.Consistent.enter {walker : PageTreeWalker Object}
    (h : walker.Consistent limits) (id : ObjectId) : (walker.enter id).Consistent limits where
  active other hother := by
    rcases List.mem_cons.mp hother with rfl | hother
    · exact List.mem_cons_self ..
    · exact List.mem_cons_of_mem _ (h.active other hother)
  limit := h.limit

theorem Visits.consistent {trees : List (PageTree Dictionary)}
    {walker left : PageTreeWalker Object}
    (h : Visits lopdf document limits above depth trees walker left)
    (hwalker : walker.Consistent limits) : left.Consistent limits := by
  have hlimit := h.limit
  have hleft := h.left_eq
  subst hleft
  constructor
  · intro id hid
    exact List.mem_append_right _ (hwalker.active id hid)
  · rw [List.length_append, List.length_map]
    exact hlimit

variable (lopdf document limits) in
/-- The visit of a node at a depth goes over a tree with that root, if it succeeds. -/
def VisitSpec (depth : Nat) : Prop :=
  ∀ (nodeId : ObjectId) (above : List Dictionary) (walker left : PageTreeWalker Object),
    walker.Consistent limits →
    (visit lopdf document limits nodeId (pathAttributes lopdf above) depth walker = .ok left ↔
      ∃ tree, tree.id = nodeId ∧ Visits lopdf document limits above depth [tree] walker left)

theorem visits_nil {walker left : PageTreeWalker Object} (h : walker.Consistent limits) :
    Visits lopdf document limits above depth [] walker left ↔ left = walker := by
  constructor
  · intro hvisits
    rw [hvisits.left_eq]
    simp
  · rintro rfl
    have hlimit := h.limit
    constructor <;> simp [hlimit]

/-- From one node to all nodes of a list. -/
theorem visitAll_eq_ok (hvisit : VisitSpec lopdf document limits depth) (ids : List ObjectId)
    (walker left : PageTreeWalker Object) (hwalker : walker.Consistent limits) :
    visitAll lopdf document limits ids (pathAttributes lopdf above) depth walker = .ok left ↔
      ∃ trees, trees.map PageTree.id = ids ∧
        Visits lopdf document limits above depth trees walker left := by
  induction ids generalizing walker with
  | nil =>
    rw [visitAll]
    constructor
    · intro h
      exact ⟨[], rfl, (visits_nil hwalker).mpr (Except.ok.inj h).symm⟩
    · rintro ⟨trees, htrees, hvisits⟩
      rw [List.map_eq_nil_iff.mp htrees, visits_nil hwalker] at hvisits
      rw [hvisits]
  | cons id ids ih =>
    rw [visitAll, Except.bind_eq_ok]
    constructor
    · rintro ⟨middle, hmiddle, hrest⟩
      obtain ⟨tree, hid, hfirst⟩ := (hvisit id above walker middle hwalker).mp hmiddle
      obtain ⟨trees, hids, hvisits⟩ := (ih middle (hfirst.consistent hwalker)).mp hrest
      exact ⟨tree :: trees, by rw [List.map_cons, hid, hids],
        visits_cons.mpr ⟨middle, hfirst, hvisits⟩⟩
    · rintro ⟨trees, htrees, hvisits⟩
      obtain ⟨tree, rest, rfl, hid, hids⟩ := List.map_eq_cons_iff.mp htrees
      obtain ⟨middle, hfirst, hrest⟩ := visits_cons.mp hvisits
      exact ⟨middle, (hvisit id above walker middle hwalker).mpr ⟨tree, hid, hfirst⟩,
        (ih middle (hfirst.consistent hwalker)).mpr ⟨rest, hids, hrest⟩⟩

theorem forall₂_ids {objects : List Object} {kids : List (PageTree Dictionary)} :
    List.Forall₂ (fun object id => lopdf.asReference object = .ok id) objects
        (kids.map PageTree.id) ↔
      List.Forall₂ (fun object kid => lopdf.asReference object = .ok kid.id) objects kids :=
  List.forall₂_map_right_iff

/-- The nodes of the kids that a dictionary lists. -/
theorem represents_pages {id : ObjectId} {dictionary : Dictionary}
    {kids : List (PageTree Dictionary)} :
    Represents lopdf document (.pages id dictionary kids) ↔
      lopdf.getDictionary document id = .ok dictionary ∧
      typeName lopdf document dictionary = .ok (byteString "Pages") ∧
      kidIds lopdf document dictionary = .ok (kids.map PageTree.id) ∧
      ∀ kid ∈ kids, Represents lopdf document kid := by
  rw [typeName_eq_ok, kidIds_eq_ok]
  constructor
  · intro h
    cases h with
    | pages node type_eq name array_eq objects_eq nonempty references represented =>
      exact ⟨node, ⟨_, type_eq, name⟩, ⟨_, _, array_eq, objects_eq, nonempty,
        forall₂_ids.mpr references⟩, represented⟩
  · rintro ⟨node, ⟨type, type_eq, name⟩, ⟨array, objects, array_eq, objects_eq, nonempty,
      references⟩, represented⟩
    exact .pages node type_eq name array_eq objects_eq nonempty
      (forall₂_ids.mp references) represented

theorem represents_page {id : ObjectId} {dictionary : Dictionary} :
    Represents lopdf document (.page id dictionary) ↔
      lopdf.getDictionary document id = .ok dictionary ∧
      typeName lopdf document dictionary = .ok (byteString "Page") := by
  rw [typeName_eq_ok]
  constructor
  · intro h
    cases h with
    | page node type_eq name => exact ⟨node, _, type_eq, name⟩
  · rintro ⟨node, type, type_eq, name⟩
    exact .page node type_eq name

/-- A node with listed kids has some. -/
theorem kids_ne_nil {dictionary : Dictionary} {ids : List ObjectId}
    (h : kidIds lopdf document dictionary = .ok ids) : ids ≠ [] := by
  obtain ⟨array, objects, -, -, hne, hreferences⟩ := kidIds_eq_ok.mp h
  rintro rfl
  exact hne (List.forall₂_nil_right_iff.mp hreferences)

/-- One visit, given the visits one level deeper. -/
theorem visitSpec_step (hdepth : depth ≤ pageTreeDepthLimit)
    (hdeeper : VisitSpec lopdf document limits (depth + 1)) :
    VisitSpec lopdf document limits depth := by
  intro nodeId above walker left hwalker
  rw [visit]
  constructor
  · intro h
    split_ifs at h with hrefused
    have hunseen : nodeId ∉ walker.seen := fun hseen => hrefused (.inr (.inr hseen))
    obtain ⟨dictionary, hdictionary, h⟩ := Except.bind_eq_ok.mp h
    obtain ⟨name, hname, h⟩ := Except.bind_eq_ok.mp h
    obtain ⟨inner, hinner, h⟩ := Except.bind_eq_ok.mp h
    rw [Except.mapError_eq_ok] at hdictionary
    rw [effectiveAttributes_path] at hinner
    cases h
    by_cases hpage : name = byteString "Page"
    · rw [if_pos hpage] at hinner
      split_ifs at hinner with hlimit
      cases hinner
      rw [hpage] at hname
      refine ⟨.page nodeId dictionary, rfl, visits_page.mpr
        ⟨represents_page.mpr ⟨hdictionary, hname⟩, hdepth, hunseen, Nat.not_le.mp hlimit, ?_⟩⟩
      simp [PageTreeWalker.leave, PageTreeWalker.enter, pathPage]
    · rw [if_neg hpage] at hinner
      by_cases hpages : name = byteString "Pages"
      · rw [if_pos hpages] at hinner
        obtain ⟨ids, hids, hall⟩ := Except.bind_eq_ok.mp hinner
        obtain ⟨kids, rfl, hkids⟩ := (visitAll_eq_ok hdeeper ids _ inner
          (hwalker.enter nodeId)).mp hall
        have hne : kids ≠ [] := fun hnil => kids_ne_nil hids (by rw [hnil, List.map_nil])
        rw [hpages] at hname
        exact ⟨.pages nodeId dictionary kids, rfl, (visits_pages hne).mpr
          ⟨represents_pages.mpr ⟨hdictionary, hname, hids, hkids.represented⟩, hunseen, inner,
            hkids, rfl⟩⟩
      · rw [if_neg hpages] at hinner
        cases hinner
  · rintro ⟨tree, rfl, hvisits⟩
    have hunseen : tree.id ∉ walker.seen := by
      apply hvisits.fresh
      cases tree <;> simp [PageTree.id]
    have hrefused : ¬ (depth > pageTreeDepthLimit ∨ tree.id ∈ walker.active ∨
        tree.id ∈ walker.seen) := by
      rintro (hdeep | hactive | hseen)
      · omega
      · exact hunseen (hwalker.active _ hactive)
      · exact hunseen hseen
    rw [if_neg hrefused]
    cases tree with
    | page id dictionary =>
      obtain ⟨hrepresents, -, -, hlimit, rfl⟩ := visits_page.mp hvisits
      obtain ⟨hdictionary, hname⟩ := represents_page.mp hrepresents
      simp only [PageTree.id, hdictionary, Except.mapError_ok, Except.ok_bind, hname, if_pos,
        effectiveAttributes_path]
      have hroom : ¬ (walker.enter id).pages.length ≥ limits.maxPages.toNat :=
        Nat.not_le.mpr hlimit
      rw [if_neg hroom, Except.ok_bind]
      simp [PageTreeWalker.leave, PageTreeWalker.enter, pathPage]
    | pages id dictionary kids =>
      have hrepresents := hvisits.represented _ (List.mem_singleton_self _)
      obtain ⟨hdictionary, hname, hids, -⟩ := represents_pages.mp hrepresents
      have hne : kids ≠ [] := fun hnil => kids_ne_nil hids (by rw [hnil, List.map_nil])
      obtain ⟨-, -, inner, hkids, rfl⟩ := (visits_pages hne).mp hvisits
      have hother : byteString "Pages" ≠ byteString "Page" := by decide
      have hall := (visitAll_eq_ok hdeeper _ _ inner (hwalker.enter id)).mpr ⟨kids, rfl, hkids⟩
      simp only [PageTree.id, hdictionary, Except.mapError_ok, Except.ok_bind, hname,
        if_neg hother, if_pos, effectiveAttributes_path, hids, hall]

/-- Beyond the depth limit nothing is visited. -/
theorem visitSpec_beyond (hdepth : depth > pageTreeDepthLimit) :
    VisitSpec lopdf document limits depth := by
  intro nodeId above walker left hwalker
  rw [visit, if_pos (.inl hdepth)]
  constructor
  · rintro ⟨⟩
  · rintro ⟨tree, -, hvisits⟩
    have hheight := hvisits.height tree (List.mem_singleton_self _)
    omega

/-- Visits meet their specification at every depth. -/
theorem visitSpec (depth : Nat) : VisitSpec lopdf document limits depth := by
  -- Upwards from the first level that is too deep.
  induction hn : pageTreeDepthLimit + 1 - depth generalizing depth with
  | zero => exact visitSpec_beyond (by omega)
  | succ n ih => exact visitSpec_step (by omega) (ih (depth + 1) (by omega))

/-- The tree that the catalog's reference leads to, within the limits of the walk. -/
structure WalkableTree (lopdf : Lopdf Document Dictionary Object) (document : Document)
    (limits : PdfInspectionLimits) (root : ObjectId) (tree : PageTree Dictionary) : Prop where
  root : tree.id = root
  represented : Represents lopdf document tree
  distinct : tree.ids.Nodup
  depth : tree.height ≤ pageTreeDepthLimit
  leaves : (tree.paths []).length ≤ limits.maxPages.toNat

/-- The root of the walk. -/
def PagesRoot (lopdf : Lopdf Document Dictionary Object) (document : Document)
    (root : ObjectId) : Prop :=
  ∃ catalog object, lopdf.catalog document = .ok catalog ∧
    lopdf.get catalog (byteString "Pages") = .ok object ∧ lopdf.asReference object = .ok root

theorem visit_root {root : ObjectId} {left : PageTreeWalker Object} :
    visit lopdf document limits root ⟨none, none, none⟩ 0 ⟨[], [], []⟩ = .ok left ↔
      ∃ tree, WalkableTree lopdf document limits root tree ∧
        left = ⟨(tree.paths []).map (pathPage lopdf document), [], tree.ids.reverse⟩ := by
  have hstart : PageTreeWalker.Consistent (⟨[], [], []⟩ : PageTreeWalker Object) limits :=
    ⟨by simp, by simp⟩
  have hspec : VisitSpec lopdf document limits 0 := visitSpec 0
  have hattributes : pathAttributes lopdf [] = ⟨none, none, none⟩ := rfl
  rw [← hattributes, hspec root [] _ left hstart]
  constructor
  · rintro ⟨tree, hroot, hvisits⟩
    have hheight := hvisits.height tree (List.mem_singleton_self _)
    have hnodup := hvisits.nodup
    have hlimit := hvisits.limit
    have hleft := hvisits.left_eq
    simp only [List.flatMap_singleton, List.length_nil, Nat.zero_add, List.nil_append,
      List.append_nil] at hheight hnodup hlimit hleft
    exact ⟨tree, ⟨hroot, hvisits.represented tree (List.mem_singleton_self _), hnodup, hheight,
      hlimit⟩, hleft⟩
  · rintro ⟨tree, htree, rfl⟩
    refine ⟨tree, htree.root, ?_⟩
    constructor
    · exact List.forall_mem_singleton.mpr htree.represented
    · rw [List.forall_mem_singleton, Nat.zero_add]
      exact htree.depth
    · rw [List.flatMap_singleton]
      exact htree.distinct
    · intro id _
      exact List.not_mem_nil
    · rw [List.flatMap_singleton, List.length_nil, Nat.zero_add]
      exact htree.leaves
    · simp

/-- The pages are the leaves of the tree, each with the attributes of its path, and there are
pages exactly when there is such a tree. -/
theorem collectPages_eq_ok {pages : List (RawPage Object)} :
    collectPages lopdf document limits = .ok pages ↔
      ∃ root tree, PagesRoot lopdf document root ∧
        WalkableTree lopdf document limits root tree ∧
        pages = (tree.paths []).map (pathPage lopdf document) := by
  unfold collectPages PagesRoot
  simp only [Except.bind_eq_ok, Except.mapError_eq_ok, visit_root]
  constructor
  · rintro ⟨catalog, hcatalog, root, ⟨object, hobject, hroot⟩, left, ⟨tree, htree, rfl⟩, ⟨⟩⟩
    exact ⟨root, tree, ⟨catalog, object, hcatalog, hobject, hroot⟩, htree, rfl⟩
  · rintro ⟨root, tree, ⟨catalog, object, hcatalog, hobject, hroot⟩, htree, rfl⟩
    exact ⟨catalog, hcatalog, root, ⟨object, hobject, hroot⟩, _, ⟨tree, htree, rfl⟩, rfl⟩

end
end OrbitRelay
