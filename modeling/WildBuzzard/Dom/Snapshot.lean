import WildBuzzard.Dom.Forest

/-!
# Validation and snapshots

Source: `dom/src/lib.rs`, `Document::validate_invariants`, `document_order`,
`text_content`, `snapshot`.

**A well-formed arena passes its own validation** (`validateInvariants_eq`) **and has a snapshot**
(`exists_snapshot`): the loops end and none of the checks on the way can fail.
-/

namespace WildBuzzard.Dom

open Lib List Option NodeKind Function

namespace Arena

variable (a : Arena)

/-! ## Validation -/

/-- The inner loop of `validate_invariants` over one child list, with the children seen so far. -/
def checkChildren (parent : NodeId) : List NodeId → List NodeId → Except DomError (List NodeId)
  | seen, [] => .ok seen
  | seen, child :: rest => do
    let index ← a.checkedIndex child
    require (child ∉ seen) (.snapshotInvariant "node has multiple parents")
    require ((a.nodes[index]?).bind (·.parent) = some parent)
      (.snapshotInvariant "parent/child links disagree")
    checkChildren parent (child :: seen) rest

/-- The first loop of `validate_invariants`, over all records from a slot on. -/
def checkLinks : ℕ → List NodeRecord → List NodeId → Except DomError (List NodeId)
  | _, [], seen => .ok seen
  | slot, record :: rest, seen => do
    require (record.kind.isContainer = true ∨ record.children = [])
      (.snapshotInvariant "leaf node has children")
    let seen ← a.checkChildren (a.handle slot) seen record.children
    checkLinks (slot + 1) rest seen

/-- The loop of `validate_invariants` up one parent chain; `none` if the fuel runs out. -/
def checkAncestors : ℕ → List NodeId → Option NodeId → Option (Except DomError Unit)
  | _, _, none => some (.ok ())
  | 0, _, some _ => none
  | fuel + 1, ancestors, some ancestor =>
    if ancestor ∈ ancestors then some (.error (.snapshotInvariant "cycle in parent chain"))
    else
      match a.parent ancestor with
      | .error e => some (.error e)
      | .ok cursor => checkAncestors fuel (ancestor :: ancestors) cursor

/-- The second loop of `validate_invariants`, over all records from a slot on. -/
def checkParents (seen : List NodeId) : ℕ → List NodeRecord → Option (Except DomError Unit)
  | _, [] => some (.ok ())
  | slot, record :: rest =>
    if record.parent.isSome ≠ decide (a.handle slot ∈ seen) then
      some (.error (.snapshotInvariant "orphan parent link"))
    else
      match a.checkAncestors (a.nodes.length + 1) [] record.parent with
      | some (.ok ()) => checkParents seen (slot + 1) rest
      | stopped => stopped

/-- What `validate_invariants` does before its second loop; `nodes[0]` is the record of the document
node, which every arena has. -/
def checkDocument : Except DomError (List NodeId) := do
  require (a.parentOf a.documentNode = none ∧ a.kindOf a.documentNode = some .document)
    (.snapshotInvariant "invalid document node")
  a.validateChildren a.documentNode (a.childrenOf a.documentNode)
  a.checkLinks 0 a.nodes []

/-- Source: `Document::validate_invariants`; `none` stands for a loop that does not end -/
def validateInvariants : Option (Except DomError Unit) :=
  match a.checkDocument with
  | .error e => some (.error e)
  | .ok seen => a.checkParents seen 1 (a.nodes.drop 1)

variable {a} {fuel : ℕ} {slot : ℕ} {seen : List NodeId}

/-- A child list of the tree passes, if none of its nodes was seen before. -/
lemma checkChildren_eq (h : a.Wf) {p : NodeId} {l seen : List NodeId} (hl : l.Nodup)
    (hp : ∀ c ∈ l, a.parentOf c = some p) (hseen : ∀ c ∈ l, c ∉ seen) :
    ∃ seen', a.checkChildren p seen l = .ok seen' ∧ ∀ x, x ∈ seen' ↔ x ∈ seen ∨ x ∈ l := by
  induction l generalizing seen with
  | nil => exact ⟨seen, rfl, by simp⟩
  | cons c l ih =>
    have hc : (a.tagOf c).isSome := Tree.Wf.tag_of_parent (t := a.tree) h (hp c (by simp))
    obtain ⟨r, hr⟩ := tagOf_isSome.mp hc
    have hslot : (a.nodes[c.slot]?).bind (·.parent) = some p := by
      rw [(a.record?_eq_some.mp hr).2, bind_some, ← parentOf_eq hr]
      exact hp c (by simp)
    obtain ⟨hcl, hl'⟩ := nodup_cons.mp hl
    have hfresh : ∀ x ∈ l, x ∉ c :: seen := by
      intro x hx hmem
      rcases mem_cons.mp hmem with rfl | hmem
      · exact hcl hx
      · exact hseen x (by simp [hx]) hmem
    obtain ⟨seen', hok, hmem⟩ := ih hl' (fun x hx => hp x (by simp [hx])) hfresh
    refine ⟨seen', ?_, ?_⟩
    · simp only [checkChildren, checkedIndex_of_tagOf hc, ok_bind, require_bind, hslot, if_true,
        hseen c (by simp), not_false_eq_true]
      exact hok
    · intro x
      rw [hmem, mem_cons, mem_cons]
      tauto

/-- Slot `slot` of the arena, as the head of what is left of the records. -/
lemma drop_eq_cons {record : NodeRecord} {rest : List NodeRecord}
    (hrest : a.nodes.drop slot = record :: rest) :
    a.record? (a.handle slot) = some record ∧ a.nodes.drop (slot + 1) = rest := by
  refine ⟨?_, ?_⟩
  · rw [record?_handle, ← head?_drop, hrest]
    rfl
  · rw [← tail_drop, hrest]
    rfl

variable {records : List NodeRecord} {pending result : List NodeId}

/-- The first loop passes on what is left of the records; it has then seen every node that has a
parent. -/
lemma checkLinks_eq (h : a.Wf) (hrest : a.nodes.drop slot = records)
    (hseen : ∀ x, x ∈ seen ↔ ∃ p, a.parentOf x = some p ∧ p.slot < slot) :
    ∃ seen', a.checkLinks slot records seen = .ok seen' ∧
      ∀ x, x ∈ seen' ↔ (a.parentOf x).isSome := by
  induction records generalizing slot seen with
  | nil =>
    refine ⟨seen, rfl, ?_⟩
    intro x
    rw [hseen, isSome_iff_exists]
    refine exists_congr fun p => and_iff_left_of_imp ?_
    intro hp
    obtain ⟨r, hr⟩ := tagOf_isSome.mp (h.tagOf_parent hp)
    have hlt := (List.getElem?_eq_some_iff.mp (a.record?_eq_some.mp hr).2).1
    exact Nat.lt_of_lt_of_le hlt (drop_eq_nil_iff.mp hrest)
  | cons record records ih =>
    obtain ⟨hrecord, hrest'⟩ := drop_eq_cons hrest
    have hchildren := childrenOf_eq hrecord
    have hmem : ∀ c ∈ record.children, a.parentOf c = some (a.handle slot) := by
      intro c hc
      rw [← hchildren] at hc
      exact h.mem_childrenOf.mp hc
    have hcontainer : record.kind.isContainer = true ∨ record.children = [] := by
      rcases hl : record.children with _ | ⟨c, l⟩
      · exact Or.inr rfl
      · have hc := Tree.Wf.container_of_parent (t := a.tree) h (hmem c (by rw [hl]; simp))
        rw [show a.tree.tag = a.tagOf from rfl, tagOf_eq hrecord, some.injEq, some.injEq] at hc
        exact Or.inl (record.kind.isContainer_iff.mpr hc)
    have hnodup : record.children.Nodup := by
      rw [← hchildren]
      exact (Tree.Wf.forest h).nodup _
    have hfresh : ∀ c ∈ record.children, c ∉ seen := by
      intro c hc hin
      obtain ⟨p, hp, hlt⟩ := (hseen c).mp hin
      rw [hmem c hc] at hp
      cases hp
      exact Nat.lt_irrefl _ hlt
    obtain ⟨seen', hok, hseen'⟩ := checkChildren_eq h hnodup hmem hfresh
    simp only [checkLinks, require_bind, if_pos hcontainer, hok, ok_bind]
    refine ih hrest' ?_
    -- the children of the next slot have joined the nodes seen
    intro x
    rw [hseen', hseen]
    constructor
    · rintro (⟨p, hp, hlt⟩ | hx)
      · exact ⟨p, hp, Nat.lt_succ_of_lt hlt⟩
      · exact ⟨a.handle slot, hmem x hx, Nat.lt_succ_self _⟩
    · rintro ⟨p, hp, hlt⟩
      rcases Nat.lt_succ_iff_lt_or_eq.mp hlt with hlt | heq
      · exact Or.inl ⟨p, hp, hlt⟩
      · obtain ⟨r, hr⟩ := tagOf_isSome.mp (h.tagOf_parent hp)
        rw [a.eq_handle_of_record? hr, heq] at hp
        rw [← hchildren]
        exact Or.inr (h.mem_childrenOf.mpr hp)

/-- The loop up a parent chain meets no node twice. -/
lemma checkAncestors_eq (h : a.Wf) {x : NodeId}
    (hx : (a.tagOf x).isSome) (hfuel : climb a.parentOf fuel x = none)
    (hseen : ∀ y ∈ seen, Relation.TransGen (ParentEdge a.parentOf) y x) :
    a.checkAncestors fuel seen (some x) = some (.ok ()) := by
  induction fuel generalizing seen x with
  | zero => simp at hfuel
  | succ fuel ih =>
    have hnot : x ∉ seen := fun hmem => (Tree.Wf.forest h).acyclic x (hseen x hmem)
    simp only [checkAncestors, hnot, if_false, parent_eq_ok hx]
    rw [climb_succ] at hfuel
    rcases hp : a.parentOf x with _ | p
    · cases fuel <;> rfl
    · rw [hp, bind_some] at hfuel
      refine ih (h.tagOf_parent hp) hfuel ?_
      intro y hy
      rcases mem_cons.mp hy with rfl | hy
      · exact .single hp
      · exact (hseen y hy).tail hp

lemma checkParents_eq (h : a.Wf) (hrest : a.nodes.drop slot = records)
    (hseen : ∀ x, x ∈ seen ↔ (a.parentOf x).isSome) :
    a.checkParents seen slot records = some (.ok ()) := by
  induction records generalizing slot with
  | nil => rfl
  | cons record records ih =>
    obtain ⟨hrecord, hrest'⟩ := drop_eq_cons hrest
    have hparent := parentOf_eq hrecord
    have hlinks : record.parent.isSome = decide (a.handle slot ∈ seen) := by
      rw [← hparent, Bool.eq_iff_iff, decide_eq_true_iff, hseen]
    have hchain : a.checkAncestors (a.nodes.length + 1) [] record.parent = some (.ok ()) := by
      rcases hp : record.parent with _ | p
      · rfl
      · refine checkAncestors_eq h ?_ (climb_parentOf_eq_none h p) (by simp)
        exact h.tagOf_parent (hparent.trans hp)
    simp only [checkParents, hlinks, ne_eq, not_true_eq_false, if_false, hchain]
    exact ih hrest'

/-- **A well-formed arena passes validation.** -/
theorem validateInvariants_eq (h : a.Wf) : a.validateInvariants = some (.ok ()) := by
  have hkind : a.kindOf a.documentNode = some .document := by
    have htag : a.tagOf a.documentNode = some .document := Tree.Wf.root_tag h
    simp only [tagOf, map_eq_some_iff] at htag
    obtain ⟨k, hk, htag⟩ := htag
    cases k <;> simp [tag] at htag
    exact hk
  have hchildren : a.validateChildren a.documentNode (a.childrenOf a.documentNode) = .ok () :=
    validateChildren_eq_ok.mpr ⟨Or.inl (Tree.Wf.root_tag h), Tree.Wf.allowed h _⟩
  have hnone : ∀ x, x ∈ ([] : List NodeId) ↔ ∃ p, a.parentOf x = some p ∧ p.slot < 0 := by simp
  obtain ⟨seen, hlinks, hseen⟩ := checkLinks_eq h (drop_zero ..) hnone
  have hdocument : a.checkDocument = .ok seen := by
    have hroot : a.parentOf a.documentNode = none := Tree.Wf.root_parent h
    simp only [checkDocument, require_bind, hroot, hkind, and_self, if_true, hchildren, ok_bind]
    exact hlinks
  simp only [validateInvariants, hdocument]
  exact checkParents_eq h rfl hseen

/-! ## Document order -/

/-- On nodes of a well-formed arena the loop of `document_order` is a walk of the tree. -/
lemma visit_eq_walk (h : a.Wf) (hp : ∀ x ∈ pending, (a.tagOf x).isSome) :
    a.visit fuel pending result = (walk a.childrenOf fuel pending result).map .ok := by
  induction fuel generalizing pending result with
  | zero => cases pending <;> rfl
  | succ fuel ih =>
    cases pending with
    | nil => rfl
    | cons x pending =>
      simp only [visit, walk, children_eq_ok (hp x (by simp))]
      refine ih ?_
      intro y hy
      rcases mem_append.mp hy with hy | hy
      · exact Tree.Wf.tag_of_parent (t := a.tree) h (h.mem_childrenOf.mp hy)
      · exact hp y (by simp [hy])

/-- What is below a node of the arena is a node of the arena. -/
lemma tagOf_of_below (h : a.Wf) {x y : NodeId} (hy : (a.tagOf y).isSome)
    (hx : AncestorOrSelf a.parentOf x y) : (a.tagOf x).isSome := by
  rcases Relation.ReflTransGen.cases_head hx with rfl | ⟨p, hp, -⟩
  · exact hy
  · exact Tree.Wf.tag_of_parent (t := a.tree) h hp

/-- A walk from a node of the arena ends. -/
lemma exists_walk (h : a.Wf) {root : NodeId} (hroot : (a.tagOf root).isSome)
    (hfuel : a.nodes.length < fuel) :
    ∃ order, walk a.childrenOf fuel [root] [] = some order ∧ order.Nodup :=
  (Tree.Wf.forest h).walk_eq_some a.handles
    (fun _ _ hp => mem_handles (Tree.Wf.tag_of_parent (t := a.tree) h hp)) (mem_handles hroot)
    (.start _ _) (Nat.lt_of_le_of_lt a.card_handles_le hfuel)

/-- **`document_order` ends and lists the nodes below the document in pre-order.** -/
theorem exists_documentOrder (h : a.Wf) :
    ∃ order, a.documentOrder = some (.ok order) ∧ InPreorder a.childrenOf [a.documentNode] order ∧
      order.Nodup ∧ ∀ x, x ∈ order ↔ AncestorOrSelf a.parentOf x a.documentNode := by
  have hroot : (a.tagOf a.documentNode).isSome := isSome_of_eq_some (Tree.Wf.root_tag h)
  obtain ⟨order, hw, hnodup⟩ := exists_walk h hroot (Nat.lt_succ_self _)
  obtain ⟨l, hl, heq⟩ := preorder_of_walk hw
  subst heq
  refine ⟨order, ?_, hl, hnodup, ?_⟩
  · rw [documentOrder, visit_eq_walk h (by simpa using hroot), hw]
    rfl
  · intro x
    rw [(Tree.Wf.forest h).mem_preorder hl]
    simp [tree]

/-! ## Text content -/

/-- The loop of `text_content` over the descendants still to be visited, the next one first. -/
def textLoop (a : Arena) : ℕ → List NodeId → String → Option (Except DomError String)
  | _, [], content => some (.ok content)
  | 0, _ :: _, _ => none
  | fuel + 1, descendant :: pending, content =>
    match a.nodeKind descendant with
    | .error e => some (.error e)
    | .ok (.text data) => textLoop a fuel pending (content ++ data)
    | .ok (.element _) =>
      match a.children descendant with
      | .error e => some (.error e)
      | .ok cs => textLoop a fuel (cs ++ pending) content
    | .ok _ => textLoop a fuel pending content

/-- Source: `Document::text_content`; `none` stands for a loop that does not end -/
def textContent (a : Arena) (node : NodeId) : Option (Except DomError (Option String)) :=
  match a.nodeKind node with
  | .error e => some (.error e)
  | .ok .document | .ok (.documentType _) => some (.ok none)
  | .ok (.text data) | .ok (.comment data) => some (.ok (some data))
  | .ok (.element _) =>
    match a.children node with
    | .error e => some (.error e)
    | .ok cs => (a.textLoop (a.nodes.length + 1) cs "").map (·.map some)

/-- The data of a text node. -/
def textOf (a : Arena) (node : NodeId) : String :=
  match a.kindOf node with
  | some (.text data) => data
  | _ => ""

/-- The data of the text nodes of a list, one after the other. -/
def texts (a : Arena) (l : List NodeId) : String := String.join (l.map a.textOf)

lemma texts_concat (l : List NodeId) (x : NodeId) :
    a.texts (l ++ [x]) = a.texts l ++ a.textOf x := by
  simp [texts, String.join]

/-- The loop of `text_content` is a walk of the tree that keeps the texts only: the nodes it does
not descend into have no children. -/
lemma textLoop_eq_walk (h : a.Wf) (hp : ∀ x ∈ pending, (a.parentOf x).isSome) :
    a.textLoop fuel pending (a.texts result) =
      (walk a.childrenOf fuel pending result).map fun order => .ok (a.texts order) := by
  induction fuel generalizing pending result with
  | zero => cases pending <;> rfl
  | succ fuel ih =>
    cases pending with
    | nil => rfl
    | cons x pending =>
      obtain ⟨p, hx⟩ := isSome_iff_exists.mp (hp x (by simp))
      have htag : (a.tagOf x).isSome := Tree.Wf.tag_of_parent (t := a.tree) h hx
      obtain ⟨k, hk⟩ : ∃ k, a.kindOf x = some k := by
        simpa [tagOf, isSome_iff_exists] using htag
      have hallowed : Tree.Allowed a.tagOf (a.tagOf x) (a.childrenOf x) := Tree.Wf.allowed h x
      have hrest : ∀ y ∈ a.childrenOf x ++ pending, (a.parentOf y).isSome := by
        intro y hy
        rcases mem_append.mp hy with hy | hy
        · rw [h.mem_childrenOf.mp hy]
          rfl
        · exact hp y (by simp [hy])
      have hstep : a.textLoop fuel (a.childrenOf x ++ pending) (a.texts (result ++ [x])) = _ :=
        ih hrest
      rw [texts_concat] at hstep
      simp only [textLoop, walk, a.nodeKind_eq_ok.mpr hk, children_eq_ok htag]
      simp only [tagOf, hk, map_some, tag] at hallowed
      cases k with
      | document =>
        have hroot := Tree.Wf.eq_root h (show a.tree.tag x = some .document by
          simp [tree, tagOf, hk, tag])
        have hnone : a.parentOf a.documentNode = none := Tree.Wf.root_parent h
        rw [hroot, hnone] at hx
        cases hx
      | element data => simpa [textOf, hk] using hstep
      | text data | documentType data | comment data =>
        rw [show a.childrenOf x = [] from hallowed] at hstep ⊢
        simpa [textOf, hk] using hstep

/-- **The text content of an element is the texts of its descendants in pre-order.** -/
theorem textContent_element (h : a.Wf) {node : NodeId} {data : ElementData}
    (hk : a.kindOf node = some (.element data)) :
    ∃ below, InPreorder a.childrenOf (a.childrenOf node) below ∧
      a.textContent node = some (.ok (some (a.texts below))) := by
  have htag : (a.tagOf node).isSome := by simp [tagOf, hk]
  obtain ⟨order, hw, -⟩ := exists_walk h htag
    (show a.nodes.length < a.nodes.length + 1 + 1 by omega)
  rw [walk, append_nil, nil_append] at hw
  obtain ⟨below, hbelow, rfl⟩ := preorder_of_walk hw
  refine ⟨below, hbelow, ?_⟩
  have hnode : a.texts [node] = "" := by simp [texts, textOf, hk, String.join]
  have hchildren : ∀ x ∈ a.childrenOf node, (a.parentOf x).isSome := by
    intro x hx
    rw [h.mem_childrenOf.mp hx]
    rfl
  have hloop : a.textLoop (a.nodes.length + 1) (a.childrenOf node) (a.texts [node]) = _ :=
    textLoop_eq_walk h hchildren
  rw [hw, hnode] at hloop
  simp only [textContent, a.nodeKind_eq_ok.mpr hk, children_eq_ok htag, hloop]
  simp [texts, textOf, hk, String.join, Except.map]

end Arena

/-! ## Elements by name -/

/-- Whether `elements_by_tag_name` lists a node of this kind. -/
def NodeKind.hasTagName (localName : String) : NodeKind → Bool
  | .element data =>
    localName == "*" ||
      data.name.ns == .html && toAsciiLowercase data.name.localName == toAsciiLowercase localName ||
      data.name.localName == localName
  | _ => false

/-- The loop of `elements_by_tag_name`. -/
def Arena.selectByTagName (a : Arena) (localName : String) :
    List NodeId → Except DomError (List NodeId)
  | [] => .ok []
  | node :: rest => do
    let kind ← a.nodeKind node
    let selected ← a.selectByTagName localName rest
    .ok (if kind.hasTagName localName then node :: selected else selected)

lemma Arena.selectByTagName_eq {a : Arena} {nodes : List NodeId}
    (h : ∀ x ∈ nodes, (a.tagOf x).isSome) (name : String) : a.selectByTagName name nodes =
      .ok (nodes.filter fun x => (a.kindOf x).any (·.hasTagName name)) := by
  induction nodes with
  | nil => rfl
  | cons x rest ih =>
    rw [forall_mem_cons] at h
    obtain ⟨k, hk⟩ := isSome_iff_exists.mp (isSome_map ▸ h.1)
    rw [selectByTagName, a.nodeKind_eq_ok.mpr hk, ih h.2]
    cases hname : k.hasTagName name <;> simp [hk, hname, bind, Except.bind]

/-- Source: `Document::elements_by_tag_name` -/
def Document.elementsByTagName (localName : String) : Call Document DomError (List NodeId) :=
  fun d =>
    match d.documentOrder with
    | none => .halt .loop
    | some (.error e) => .err e d
    | some (.ok order) => Call.query (fun d => d.selectByTagName localName (order.drop 1)) d

/-! ## Snapshots -/

/-- Source: `SnapshotNode` -/
structure SnapshotNode where
  id : NodeId
  parent : Option NodeId
  children : List NodeId
  kind : NodeKind
  deriving DecidableEq, Repr

/-- Source: `DocumentSnapshot`; the hash map `index` is a partial function -/
structure DocumentSnapshot where
  documentId : DocumentId
  revision : ℕ
  documentNode : NodeId
  nodes : List SnapshotNode
  index : NodeId → Option ℕ

/-- The loop of `snapshot` over the nodes in document order. -/
def Arena.collect (a : Arena) : List NodeId → List SnapshotNode → (NodeId → Option ℕ) →
    Except DomError (List SnapshotNode × (NodeId → Option ℕ))
  | [], nodes, index => .ok (nodes, index)
  | id :: order, nodes, index => do
    let record ← a.record id
    a.collect order (nodes ++ [⟨id, record.parent, record.children, record.kind⟩])
      (Function.update index id (some nodes.length))

/-- Source: `Document::snapshot`; `none` stands for a loop that does not end -/
def Document.snapshot (d : Document) : Option (Except DomError DocumentSnapshot) :=
  match d.validateInvariants with
  | none => none
  | some (.error e) => some (.error e)
  | some (.ok ()) =>
    match d.documentOrder with
    | none => none
    | some (.error e) => some (.error e)
    | some (.ok order) =>
      match d.collect order [] (fun _ => none) with
      | .error e => some (.error e)
      | .ok (nodes, index) => some (.ok ⟨d.id, d.revision, d.documentNode, nodes, index⟩)

/-- Source: `DocumentSnapshot::node`, which panics on an index out of bounds -/
def DocumentSnapshot.node (s : DocumentSnapshot) (id : NodeId) :
    Except Halt (Option SnapshotNode) :=
  match s.index id with
  | none => .ok none
  | some i =>
    match s.nodes[i]? with
    | some node => .ok (some node)
    | none => .error (.panic "index out of bounds")

/-- A snapshot node holds what the arena has of its node. -/
def SnapshotNode.Of (a : Arena) (node : SnapshotNode) : Prop :=
  a.record? node.id = some ⟨node.parent, node.children, node.kind⟩

/-- The loop of `snapshot` keeps every node's position in the index. -/
lemma Arena.exists_collect {a : Arena} {order : List NodeId} {nodes : List SnapshotNode}
    {index : NodeId → Option ℕ} (ho : ∀ x ∈ order, (a.tagOf x).isSome)
    (hnodup : (nodes.map (·.id) ++ order).Nodup) (hof : ∀ node ∈ nodes, node.Of a)
    (hindex : ∀ x, index x = (nodes.map (·.id)).idxOf? x) :
    ∃ all index', a.collect order nodes index = .ok (all, index') ∧
      all.map (·.id) = nodes.map (·.id) ++ order ∧ (∀ node ∈ all, node.Of a) ∧
      ∀ x, index' x = (all.map (·.id)).idxOf? x := by
  induction order generalizing nodes index with
  | nil => exact ⟨nodes, index, rfl, by simp, hof, hindex⟩
  | cons id order ih =>
    obtain ⟨record, hr⟩ := tagOf_isSome.mp (ho id (by simp))
    simp only [collect, a.record_eq_ok.mpr hr, ok_bind]
    have hfresh : id ∉ nodes.map (·.id) := fun h =>
      (nodup_append.mp hnodup).2.2 id h id mem_cons_self rfl
    set node : SnapshotNode := ⟨id, record.parent, record.children, record.kind⟩
    have hof' : ∀ n ∈ nodes ++ [node], n.Of a := by
      intro n hn
      rcases mem_append.mp hn with hn | hn
      · exact hof n hn
      · rw [mem_singleton.mp hn]
        exact hr
    have hindex' : ∀ x, update index id (some nodes.length) x =
        ((nodes ++ [node]).map (·.id)).idxOf? x := by
      intro x
      rw [map_append, map_singleton]
      by_cases hx : x = id
      · rw [hx, update_self, idxOf?_append_cons hfresh, length_map]
      · rw [update_of_ne hx, hindex]
        simp [idxOf?, findIdx?_append, findIdx?_cons, node, Ne.symm hx]
    obtain ⟨all, index', hok, hids, hall⟩ := ih (fun x hx => ho x (by simp [hx]))
      (by simpa [node] using hnodup) hof' hindex'
    exact ⟨all, index', hok, by simpa [node] using hids, hall⟩

/-- What a snapshot shows of an arena: the nodes of its document order, each as the arena has it,
and no other node. -/
structure DocumentSnapshot.Shows (s : DocumentSnapshot) (a : Arena) : Prop where
  order : a.documentOrder = some (.ok (s.nodes.map (·.id)))
  node_of_mem : ∀ x ∈ s.nodes.map (·.id), ∃ node, s.node x = .ok (some node) ∧ node.id = x ∧
    node.Of a
  node_of_not_mem : ∀ x ∉ s.nodes.map (·.id), s.node x = .ok none

/-- **A well-formed document has a snapshot**, of its own identity and revision, that shows it. -/
theorem Document.exists_snapshot {d : Document} (h : d.Wf) :
    ∃ s, d.snapshot = some (.ok s) ∧ s.documentId = d.id ∧ s.revision = d.revision ∧
      s.Shows d.toArena := by
  obtain ⟨order, ho, -, hnodup, hmem⟩ := Arena.exists_documentOrder h
  have htags : ∀ x ∈ order, (d.tagOf x).isSome := fun x hx =>
    Arena.tagOf_of_below h (isSome_of_eq_some (Tree.Wf.root_tag h)) ((hmem x).mp hx)
  have hnone : ∀ x, none = (([] : List SnapshotNode).map (·.id)).idxOf? x := by simp
  obtain ⟨nodes, index, hc, hids, hof, hindex⟩ :=
    Arena.exists_collect htags (by simpa using hnodup) (by simp) hnone
  refine ⟨⟨d.id, d.revision, d.documentNode, nodes, index⟩, ?_, rfl, rfl, hids ▸ ho, ?_, ?_⟩
  · simp only [snapshot, Arena.validateInvariants_eq h, ho, hc]
  · intro x hx
    obtain ⟨i, hi⟩ := isSome_iff_exists.mp (isSome_idxOf?.mpr hx)
    obtain ⟨hlt, hget, -⟩ := idxOf?_eq_some_iff.mp hi
    rw [length_map] at hlt
    rw [getElem_map] at hget
    refine ⟨nodes[i], ?_, hget, hof _ (getElem_mem hlt)⟩
    simp only [DocumentSnapshot.node, hindex, hi, getElem?_eq_getElem hlt]
  · intro x hx
    simp only [DocumentSnapshot.node, hindex, idxOf?_eq_none_iff.mpr hx]

end WildBuzzard.Dom
