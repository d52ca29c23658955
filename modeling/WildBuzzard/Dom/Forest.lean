import WildBuzzard.Dom.Mutation
import WildBuzzard.Dom.Tree
import WildBuzzard.Lib.ListEdit

/-!
# The arena is a forest

The arena seen as a `Tree` (`Arena.tree`), and **every mutator as a sequence of tree changes**
(`Mutation.Refines`): what it writes is reached by creating, detaching and attaching nodes, each
under its condition, and it never runs into a loop that does not end. The invariant of the tree is
therefore kept by every mutator, and no proof below this file looks at the records again.

* `insertBefore` detaches the child and attaches it at its new place;
* `replaceChild` detaches both children and attaches the new one;
* `removeChild` detaches; `allocate` creates; the others leave the tree as it is.
-/

namespace WildBuzzard.Dom

open Lib NodeKind Function Option Except Relation NodeRecord Finset

/-- The tag of a kind. -/
def NodeKind.tag : NodeKind → NodeTag
  | .document => .document
  | .documentType _ => .documentType
  | .element _ => .element
  | .text _ => .text
  | .comment _ => .comment

lemma NodeKind.isContainer_iff (k : NodeKind) :
    k.isContainer = true ↔ k.tag = .document ∨ k.tag = .element := by
  cases k <;> simp [isContainer, tag]

namespace Arena

variable (a : Arena)

/-- The tag of a node, if the arena has it. -/
def tagOf (node : NodeId) : Option NodeTag := (a.kindOf node).map (·.tag)

/-- The tree an arena stores. -/
def tree : Tree NodeId := ⟨a.parentOf, a.childrenOf, a.tagOf⟩

/-- The arena stores a document tree. -/
def Wf : Prop := a.tree.Wf a.documentNode

variable {a} {r : NodeRecord} {node : NodeId} {f : NodeRecord → NodeRecord}

section

variable (h : a.record? node = some r)
include h

lemma tagOf_eq : a.tagOf node = some r.kind.tag := by
  simp [tagOf, kindOf, h]

lemma parentOf_eq : a.parentOf node = r.parent := by
  simp [parentOf, h]

lemma childrenOf_eq : a.childrenOf node = r.children := by
  simp [childrenOf, h]

end

/-- A node has a tag exactly if it has a record. -/
lemma tagOf_isSome : (a.tagOf node).isSome ↔ ∃ r, a.record? node = some r := by
  simp [tagOf, kindOf, isSome_iff_exists]

/-- On a node of the arena, `parent` returns. -/
lemma parent_eq_ok (h : (a.tagOf node).isSome) : a.parent node = .ok (a.parentOf node) := by
  obtain ⟨r, hr⟩ := tagOf_isSome.mp h
  rw [parent, a.record_eq_ok.mpr hr, parentOf_eq hr]
  rfl

/-- On a node of the arena, `children` returns. -/
lemma children_eq_ok (h : (a.tagOf node).isSome) : a.children node = .ok (a.childrenOf node) := by
  obtain ⟨r, hr⟩ := tagOf_isSome.mp h
  rw [children, a.record_eq_ok.mpr hr, childrenOf_eq hr]
  rfl

lemma checkedIndex_of_tagOf (h : (a.tagOf node).isSome) : a.checkedIndex node = .ok node.slot := by
  obtain ⟨r, hr⟩ := tagOf_isSome.mp h
  exact a.checkedIndex_eq_ok.mpr ⟨rfl, by rw [hr]; rfl⟩

lemma Wf.mem_childrenOf (h : a.Wf) {p c : NodeId} : c ∈ a.childrenOf p ↔ a.parentOf c = some p :=
  (Tree.Wf.forest h).mem_children

/-- The parent of a node is a node of the arena. -/
lemma Wf.tagOf_parent (h : a.Wf) {x p : NodeId} (hx : a.parentOf x = some p) :
    (a.tagOf p).isSome := by
  rcases Tree.Wf.container_of_parent (t := a.tree) h hx with htag | htag
  · exact isSome_of_eq_some htag
  · exact isSome_of_eq_some htag

/-! ## Writing one record -/

/-- Write one record. -/
def modify (a : Arena) (node : NodeId) (f : NodeRecord → NodeRecord) : Arena :=
  { a with nodes := a.nodes.modify node.slot f }

lemma record?_modify (hr : a.record? node = some r) (f : NodeRecord → NodeRecord) (x : NodeId) :
    (a.modify node f).record? x = if x = node then (a.record? x).map f else a.record? x := by
  have hd := (a.record?_eq_some.mp hr).1
  unfold record? modify
  by_cases hx : x.document = a.id
  · have hiff : node.slot = x.slot ↔ x = node := by
      constructor
      · intro hs
        cases x
        cases node
        simp_all
      · rintro rfl
        rfl
    simp only [hx, if_true, List.getElem?_modify, hiff]
    split_ifs <;> simp
  · have hne : x ≠ node := by
      rintro rfl
      exact hx hd
    simp [hx, hne]

lemma kindOf_modify (node : NodeId) (hf : ∀ r, (f r).kind = r.kind) :
    (a.modify node f).kindOf = a.kindOf := by
  funext x
  unfold kindOf record? modify
  split_ifs with hx
  · rw [List.getElem?_modify]
    cases a.nodes[x.slot]? <;> split_ifs <;> simp [hf]
  · rfl

section writes

variable {node : NodeId} (h : (a.tagOf node).isSome)

include h

/-- Writing a child list changes the children of one node. -/
lemma tree_modify_children (f : List NodeId → List NodeId) :
    (a.modify node fun r => r.withChildren (f r.children)).tree =
      ⟨a.parentOf, update a.childrenOf node (f (a.childrenOf node)), a.tagOf⟩ := by
  obtain ⟨r, hr⟩ := tagOf_isSome.mp h
  simp only [tree, Tree.mk.injEq]
  refine ⟨?_, ?_, ?_⟩ <;> funext x <;> by_cases hx : x = node <;>
    simp [parentOf, childrenOf, tagOf, kindOf, record?_modify hr, hx, hr, withChildren]

/-- Writing a parent link changes the parent of one node. -/
lemma tree_modify_parent (p : Option NodeId) :
    (a.modify node (·.withParent p)).tree = ⟨update a.parentOf node p, a.childrenOf, a.tagOf⟩ := by
  obtain ⟨r, hr⟩ := tagOf_isSome.mp h
  simp only [tree, Tree.mk.injEq]
  refine ⟨?_, ?_, ?_⟩ <;> funext x <;> by_cases hx : x = node <;>
    simp [parentOf, childrenOf, tagOf, kindOf, record?_modify hr, hx, hr, withParent]

/-- Writing data of the same tag changes nothing of the tree. -/
lemma tree_modify_kind {k : NodeKind} (hk : a.tagOf node = some k.tag) :
    (a.modify node (·.withKind k)).tree = a.tree := by
  obtain ⟨r, hr⟩ := tagOf_isSome.mp h
  have htag : r.kind.tag = k.tag := some.inj ((tagOf_eq hr).symm.trans hk)
  simp only [tree, Tree.mk.injEq]
  refine ⟨?_, ?_, ?_⟩ <;> funext x <;> by_cases hx : x = node <;>
    simp [parentOf, childrenOf, tagOf, kindOf, record?_modify hr, hx, hr, withKind, htag]

end writes

/-- Writing any record keeps the nodes the arena has. -/
lemma tagOf_modify_isSome {node x : NodeId} (h : (a.tagOf node).isSome) :
    ((a.modify node f).tagOf x).isSome ↔ (a.tagOf x).isSome := by
  obtain ⟨r, hr⟩ := tagOf_isSome.mp h
  rw [tagOf_isSome, tagOf_isSome, record?_modify hr]
  split_ifs with hx
  · simp [hx, hr]
  · rfl

/-! ## Creating a record -/

lemma record?_push (r : NodeRecord) (x : NodeId) :
    ({ a with nodes := a.nodes ++ [r] } : Arena).record? x =
      if x = a.handle a.nodes.length then some r else a.record? x := by
  unfold record? handle
  by_cases hd : x.document = a.id
  · rcases Nat.lt_trichotomy x.slot a.nodes.length with hlt | heq | hgt
    · have hne : x ≠ ⟨a.id, a.nodes.length⟩ := by
        rintro rfl
        exact absurd hlt (Nat.lt_irrefl _)
      simp [hd, hne, List.getElem?_append_left hlt]
    · have hx : x = ⟨a.id, a.nodes.length⟩ := by
        cases x
        simp_all
      simp [hx]
    · have hne : x ≠ ⟨a.id, a.nodes.length⟩ := by
        rintro rfl
        exact absurd hgt (Nat.lt_irrefl _)
      have h1 : (a.nodes ++ [r])[x.slot]? = none := by
        rw [List.getElem?_eq_none_iff, List.length_append]
        exact hgt
      have h2 : a.nodes[x.slot]? = none := by
        rw [List.getElem?_eq_none_iff]
        exact Nat.le_of_lt hgt
      simp [hd, hne, h1, h2]
  · have hne : x ≠ ⟨a.id, a.nodes.length⟩ := by
      rintro rfl
      exact hd rfl
    simp [hd, hne]

/-- The next handle is not in use. -/
lemma tagOf_next (a : Arena) : a.tagOf (a.handle a.nodes.length) = none := by
  simp [tagOf, kindOf, record?_handle]

/-- A new record with no links is a new node of the tree. -/
lemma tree_push (h : a.Wf) (k : NodeKind) :
    ({ a with nodes := a.nodes ++ [⟨none, [], k⟩] } : Arena).tree =
      a.tree.create (a.handle a.nodes.length) k.tag := by
  have hp : a.parentOf (a.handle a.nodes.length) = none :=
    Tree.Wf.parent_eq_none (t := a.tree) h (tagOf_next a)
  have hc : a.childrenOf (a.handle a.nodes.length) = [] :=
    Tree.Wf.children_eq_nil (t := a.tree) h (tagOf_next a)
  simp only [tree, Tree.create, Tree.mk.injEq]
  refine ⟨?_, ?_, ?_⟩ <;> funext x <;> by_cases hx : x = a.handle a.nodes.length
  · subst hx
    rw [hp]
    simp [parentOf, record?_push]
  · simp [parentOf, record?_push, hx]
  · subst hx
    rw [hc]
    simp [childrenOf, record?_push]
  · simp [childrenOf, record?_push, hx]
  · simp [tagOf, kindOf, record?_push, hx]
  · simp [tagOf, kindOf, record?_push, hx]

/-! ## The checks -/

/-- The loop of `validate_children` over a document's children. -/
lemma go_eq_ok (seenElement seenDoctype : Bool) (l : List NodeId) :
    validateChildren.go a seenElement seenDoctype l = .ok () ↔ Tree.DocumentChildren a.tagOf l ∧
        (seenElement = true → ∀ c ∈ l, a.tagOf c = some .comment) ∧
          (seenDoctype = true → ∀ c ∈ l, a.tagOf c ≠ some .documentType) := by
  induction l generalizing seenElement seenDoctype with
  | nil => simp [validateChildren.go, Tree.DocumentChildren]
  | cons c l ih =>
    rcases hk : a.nodeKind c with e | k
    · have hnone : a.tagOf c = none := by
        rcases hkind : a.kindOf c with _ | k
        · simp [tagOf, hkind]
        · rw [a.nodeKind_eq_ok.mpr hkind] at hk
          cases hk
      simp [validateChildren.go, hk, Tree.DocumentChildren, hnone]
    · have htag : a.tagOf c = some k.tag := by
        simp [tagOf, a.nodeKind_eq_ok.mp hk]
      cases k <;> cases seenElement <;> cases seenDoctype <;>
        simp [validateChildren.go, hk, ih, Tree.DocumentChildren, Tree.InOrder, htag, tag] <;> grind

lemma isMisplaced_eq_false {c : NodeId} :
    a.isMisplaced c = false ↔ a.tagOf c ≠ some .document ∧ a.tagOf c ≠ some .documentType := by
  unfold isMisplaced
  rcases hc : a.kindOf c with _ | k
  · rcases hnc : a.nodeKind c with e | k
    · simp [tagOf, hc]
    · rw [a.nodeKind_eq_ok.mp hnc] at hc
      cases hc
  · rw [a.nodeKind_eq_ok.mpr hc]
    cases k <;> simp [tagOf, hc, tag]

/-- `validate_children` accepts what the parent may have, and no parent but a container. -/
lemma validateChildren_eq_ok {parent : NodeId} {l : List NodeId} :
    a.validateChildren parent l = .ok () ↔
      (a.tagOf parent = some .document ∨ a.tagOf parent = some .element) ∧
        Tree.Allowed a.tagOf (a.tagOf parent) l := by
  rcases hk : a.kindOf parent with _ | k
  · have hne : ∀ k, a.nodeKind parent ≠ .ok k := by
      intro k h
      rw [a.nodeKind_eq_ok.mp h] at hk
      cases hk
    rcases hn : a.nodeKind parent with e | k
    · simp [validateChildren, hn, tagOf, hk]
    · exact absurd hn (hne k)
  · have hn := a.nodeKind_eq_ok.mpr hk
    have htag : a.tagOf parent = some k.tag := by simp [tagOf, hk]
    cases k with
    | document => simp [validateChildren, hn, htag, tag, Tree.Allowed, go_eq_ok]
    | element data =>
      simp [validateChildren, hn, htag, tag, Tree.Allowed, Tree.ElementChildren,
        ← isMisplaced_eq_false]
    | documentType data => simp [validateChildren, hn, htag, tag]
    | text data => simp [validateChildren, hn, htag, tag]
    | comment data => simp [validateChildren, hn, htag, tag]

/-- The handles of the arena. -/
def handles (a : Arena) : Finset NodeId := (Finset.range a.nodes.length).image a.handle

lemma card_handles_le (a : Arena) : a.handles.card ≤ a.nodes.length := by
  simpa [handles] using card_image_le (s := range a.nodes.length) (f := a.handle)

lemma mem_handles (h : (a.tagOf node).isSome) : node ∈ a.handles := by
  obtain ⟨r, hr⟩ := tagOf_isSome.mp h
  have hlt := (List.getElem?_eq_some_iff.mp (a.record?_eq_some.mp hr).2).1
  rw [a.eq_handle_of_record? hr]
  exact mem_image_of_mem _ (mem_range.mpr hlt)

/-- A parent chain is no longer than the arena. -/
lemma climb_parentOf_eq_none (h : a.Wf) (x : NodeId) :
    climb a.parentOf (a.nodes.length + 1) x = none :=
  climb_eq_none (Tree.Wf.forest h).acyclic a.handles
    (fun _ _ hx => mem_handles (h.tagOf_parent hx)) (Nat.lt_succ_of_le a.card_handles_le) x

/-- The loop of `is_inclusive_descendant` with fuel for the whole chain. -/
lemma climbTo_eq (h : a.Wf) (ancestor : NodeId) {fuel : ℕ} {x : NodeId}
    (hx : (a.tagOf x).isSome) (hfuel : climb a.parentOf fuel x = none) :
    ∃ b, a.climbTo ancestor fuel (some x) = some (.ok b) ∧
      (b = true ↔ AncestorOrSelf a.parentOf x ancestor) := by
  induction fuel generalizing x with
  | zero => simp at hfuel
  | succ fuel ih =>
    by_cases heq : x = ancestor
    · subst heq
      exact ⟨true, by simp [climbTo], iff_of_true rfl .refl⟩
    simp only [climbTo, heq, if_false, parent_eq_ok hx]
    rw [climb_succ] at hfuel
    rcases hp : a.parentOf x with _ | p
    · refine ⟨false, by cases fuel <;> rfl, ?_⟩
      simp only [Bool.false_eq_true, false_iff]
      intro hanc
      rcases ReflTransGen.cases_head hanc with rfl | ⟨y, hy, -⟩
      · exact heq rfl
      · rw [ParentEdge, hp] at hy
        cases hy
    · rw [hp, bind_some] at hfuel
      obtain ⟨b, hb, hiff⟩ := ih (h.tagOf_parent hp) hfuel
      refine ⟨b, hb, hiff.trans ?_⟩
      constructor
      · intro hanc
        exact ReflTransGen.head hp hanc
      · intro hanc
        rcases ReflTransGen.cases_head hanc with rfl | ⟨y, hy, hrest⟩
        · exact absurd rfl heq
        · rw [ParentEdge, hp] at hy
          cases hy
          exact hrest

/-- `is_inclusive_descendant` returns, and tells whether one node is above the other. -/
lemma isInclusiveDescendant_eq (h : a.Wf) {candidate ancestor : NodeId}
    (hc : (a.tagOf candidate).isSome) (ha : (a.tagOf ancestor).isSome) :
    ∃ b, a.isInclusiveDescendant candidate ancestor = some (.ok b) ∧
      (b = true ↔ AncestorOrSelf a.parentOf candidate ancestor) := by
  simp only [isInclusiveDescendant, checkedIndex_of_tagOf hc, checkedIndex_of_tagOf ha]
  exact climbTo_eq h ancestor hc (climb_parentOf_eq_none h candidate)

end Arena

/-! ## The mutators as tree changes -/

section orFail

variable {α β : Type} {x : Except DomError β}

@[simp] lemma orFail_eq_ok {b : β} : (orFail x : Except (Stop α) β) = .ok b ↔ x = .ok b := by
  cases x <;> simp [orFail, Except.mapError]

@[simp] lemma orFail_eq_error {s : Stop α} :
    (orFail x : Except (Stop α) β) = .error s ↔ ∃ e, x = .error e ∧ s = .fail e := by
  cases x <;> simp [orFail, Except.mapError, eq_comm]

end orFail

namespace Mutation

open Arena

variable {α : Type} {a : Arena} {nodes : List NodeRecord}

variable {k : NodeKind} {p c : NodeId} {l : List NodeId} {reference : Option NodeId} {i : ℕ}
  (element : NodeId)

/-- What a mutator does to a well-formed arena: it returns, and what it writes is reached by changes
of the tree. -/
structure Refines (m : Mutation α) : Prop where
  steps : ∀ {a v nodes}, a.Wf → m a = .ok (v, nodes) →
    Tree.Steps a.documentNode a.tree ({ a with nodes } : Arena).tree
  returns : ∀ {a}, a.Wf → m a ≠ .error .loop

lemma allocate_refines {kind : NodeKind} (hk : kind.tag ≠ .document) :
    (allocate kind).Refines where
  steps := by
    intro a v nodes h hok
    simp only [allocate, bind_eq_ok, require_eq_ok, ok.injEq, Prod.mk.injEq] at hok
    obtain ⟨-, -, -, rfl⟩ := hok
    rw [tree_push h]
    exact .single (.create (tagOf_next a) hk)
  returns := by
    intro a _ hloop
    simp [allocate, bind_eq_error] at hloop

/-- A check in front of a mutator. -/
lemma Refines.require {m : Mutation α} (hm : m.Refines) (c : Prop) [Decidable c] (e : DomError) :
    Refines (fun a => do Lib.require c (.fail e); m a) where
  steps := by
    intro a v nodes h hok
    obtain ⟨-, -, hok⟩ := bind_eq_ok.mp hok
    exact hm.steps h hok
  returns := by
    intro a h hloop
    rcases bind_eq_error.mp hloop with hreq | ⟨-, -, hloop⟩
    · simp at hreq
    · exact hm.returns h hloop

/-- A mutator that writes data of the same tag. -/
structure WritesKind (m : Mutation α) : Prop where
  writes : ∀ {a v nodes}, m a = .ok (v, nodes) → ∃ node k,
    a.tagOf node = some k.tag ∧ nodes = a.nodes.modify node.slot (·.withKind k)
  returns : ∀ {a}, m a ≠ .error .loop

lemma WritesKind.refines {m : Mutation α} (hm : m.WritesKind) : m.Refines where
  steps := by
    intro a v nodes _ h
    obtain ⟨node, k, htag, rfl⟩ := hm.writes h
    have htree : (a.modify node (·.withKind k)).tree = a.tree :=
      tree_modify_kind (isSome_of_eq_some htag) htag
    rw [show ({ a with nodes := _ } : Arena).tree = a.tree from htree]
    exact .refl
  returns := fun _ => hm.returns

/-! ### Creation -/

lemma createElement_refines (name : QualifiedName) : (createElement name).Refines :=
  (allocate_refines (by simp [tag])).require _ _

lemma createHtmlElement_refines (localName : String) : (createHtmlElement localName).Refines :=
  (createElement_refines _).require _ _

lemma createText_refines (data : String) : (createText data).Refines :=
  allocate_refines (by simp [tag])

lemma createComment_refines (data : String) : (createComment data).Refines :=
  allocate_refines (by simp [tag])

lemma createDoctype_refines (name publicId systemId : String) :
    (createDoctype name publicId systemId).Refines :=
  allocate_refines (by simp [tag])

/-! ### Attributes and character data -/

lemma elementData_eq_ok {data : ElementData} :
    (elementData k : Except (Stop α) ElementData) = .ok data ↔ k = .element data := by
  cases k <;> simp [elementData]

lemma elementData_ne_loop : (elementData k : Except (Stop α) ElementData) ≠ .error .loop := by
  cases k <;> simp [elementData]

variable {f : String → String} (node : NodeId) {b : Arena} {v : Unit}

lemma mapCharacterData_tag {r : String × NodeKind}
    (h : (mapCharacterData f k : Except (Stop α) _) = .ok r) : k.tag = r.2.tag := by
  cases k <;> simp [mapCharacterData] at h <;> subst h <;> rfl

lemma mapCharacterData_ne_loop : (mapCharacterData f k : Except (Stop α) _) ≠ .error .loop := by
  cases k <;> simp [mapCharacterData]

lemma setAttribute_writesKind (name : AttributeName) (value : String) :
    (setAttribute element name value).WritesKind where
  writes := by
    intro a v nodes h
    simp only [setAttribute, bind_eq_ok, require_eq_ok, orFail_eq_ok, elementData_eq_ok,
      ok.injEq, Prod.mk.injEq, a.record_eq_ok] at h
    obtain ⟨-, -, record, hr, data, hk, -, rfl⟩ := h
    exact ⟨element, _, by rw [tagOf_eq hr, hk]; rfl, rfl⟩
  returns := by
    intro a
    simp [setAttribute, bind_eq_error, elementData_ne_loop]

lemma removeAttribute_writesKind (ns : Option String) (localName : String) :
    (removeAttribute element ns localName).WritesKind where
  writes := by
    intro a v nodes h
    simp only [removeAttribute, bind_eq_ok, orFail_eq_ok, elementData_eq_ok, a.record_eq_ok] at h
    obtain ⟨record, hr, data, hk, h⟩ := h
    split at h
    · cases h
    · simp only [ok.injEq, Prod.mk.injEq] at h
      obtain ⟨-, rfl⟩ := h
      exact ⟨element, _, by rw [tagOf_eq hr, hk]; rfl, rfl⟩
  returns := by
    intro a
    simp only [removeAttribute, ne_eq, bind_eq_error, orFail_eq_error, elementData_ne_loop, not_or]
    refine ⟨by simp, ?_⟩
    rintro ⟨record, -, h | ⟨data, -, h⟩⟩
    · cases h
    · split at h <;> cases h

/-- The two methods that write character data. -/
lemma mapCharacterData_writesKind (f : String → String) (result : String → α) :
    WritesKind fun a => do
      let record ← orFail (a.record node)
      let mapped ← mapCharacterData f record.kind
      .ok (result mapped.1, a.nodes.modify node.slot (·.withKind mapped.2)) where
  writes := by
    intro a v nodes h
    simp only [bind_eq_ok, orFail_eq_ok, a.record_eq_ok, ok.injEq, Prod.mk.injEq] at h
    obtain ⟨record, hr, mapped, hmapped, -, rfl⟩ := h
    exact ⟨node, mapped.2, by rw [tagOf_eq hr, mapCharacterData_tag hmapped], rfl⟩
  returns := by
    intro a
    simp [bind_eq_error, mapCharacterData_ne_loop]

lemma appendCharacterData_writesKind (suffix : String) :
    (appendCharacterData node suffix).WritesKind :=
  mapCharacterData_writesKind node (· ++ suffix) fun _ => ()

lemma setCharacterData_writesKind (data : String) : (setCharacterData node data).WritesKind :=
  mapCharacterData_writesKind node (fun _ => data) id

/-! ### Tree structure -/

/-- `requireNotBelow` passes exactly if the child is not above the parent. -/
lemma requireNotBelow_eq_ok (h : a.Wf) (hp : (a.tagOf p).isSome) (hc : (a.tagOf c).isSome) :
    (requireNotBelow a p c : Except (Stop α) Unit) = .ok () ↔ ¬AncestorOrSelf a.parentOf p c := by
  obtain ⟨b, hb, hiff⟩ := isInclusiveDescendant_eq h hp hc
  unfold requireNotBelow
  by_cases heq : p = c
  · subst heq
    simp [AncestorOrSelf, ReflTransGen.refl]
  · cases b <;> simp_all

lemma requireNotBelow_ne_loop (h : a.Wf) (hp : (a.tagOf p).isSome) (hc : (a.tagOf c).isSome) :
    (requireNotBelow a p c : Except (Stop α) Unit) ≠ .error .loop := by
  obtain ⟨b, hb, -⟩ := isInclusiveDescendant_eq h hp hc
  unfold requireNotBelow
  split_ifs
  · simp
  · cases b <;> simp [hb]

/-- A child is in no list but its parent's. -/
lemma filter_childrenOf (h : a.Wf) {c q : NodeId} (hne : a.parentOf c ≠ some q) :
    (a.childrenOf q).filter (· ≠ c) = a.childrenOf q := by
  rw [List.filter_eq_self]
  intro x hx
  have hxq : a.parentOf x = some q := h.mem_childrenOf.mp hx
  simp only [ne_eq, decide_eq_true_eq]
  rintro rfl
  exact hne hxq

/-- Taking a child out of its parent's list takes it out of every list. -/
lemma tree_dropFromParent (h : a.Wf) {c : NodeId}
    (hok : (dropFromParent a (a.parentOf c) c : Except (Stop α) _) = .ok nodes) :
    ({ a with nodes } : Arena).tree =
      ⟨a.parentOf, fun q => (a.childrenOf q).filter (· ≠ c), a.tagOf⟩ := by
  rcases hp : a.parentOf c with _ | p
  · simp only [hp, dropFromParent, ok.injEq] at hok
    subst hok
    simp only [tree, Tree.mk.injEq, true_and, and_true]
    funext q
    exact (filter_childrenOf h (by rw [hp]; simp)).symm
  · simp only [hp, dropFromParent, bind_eq_ok, orFail_eq_ok, a.checkedIndex_eq_ok, ok.injEq] at hok
    obtain ⟨-, ⟨rfl, hsome⟩, rfl⟩ := hok
    have htag : (a.tagOf p).isSome := tagOf_isSome.mpr (isSome_iff_exists.mp hsome)
    refine (tree_modify_children htag (fun l => l.filter (· ≠ c))).trans ?_
    simp only [Tree.mk.injEq, true_and, and_true]
    funext q
    by_cases hq : q = p
    · subst hq
      simp
    · rw [update_of_ne hq, filter_childrenOf h]
      rw [hp]
      exact fun heq => hq (some.inj heq).symm

lemma kindOf_dropFromParent {q : Option NodeId}
    (h : (dropFromParent a q c : Except (Stop α) _) = .ok nodes) :
    ({ a with nodes } : Arena).kindOf = a.kindOf := by
  cases q with
  | none =>
    cases h
    rfl
  | some q =>
    obtain ⟨i, -, hok⟩ := bind_eq_ok.mp h
    cases hok
    exact kindOf_modify (a.handle i) fun _ => rfl

/-- The two writes of a move keep the kinds. -/
lemma kindOf_writes (l : List NodeId) :
    ((b.modify p (·.withChildren l)).modify c (·.withParent (some p))).kindOf = b.kindOf := by
  rw [kindOf_modify, kindOf_modify]
  · exact fun _ => rfl
  · exact fun _ => rfl

lemma dropFromParent_eq_error {p : Option NodeId} {s : Stop α} :
    (dropFromParent a p c : Except (Stop α) _) = .error s ↔
      ∃ q e, p = some q ∧ a.checkedIndex q = .error e ∧ s = .fail e := by
  cases p <;> simp [dropFromParent, bind_eq_error]

lemma requireNotBelow_ne_done {v : α} :
    (requireNotBelow a p c : Except (Stop α) Unit) ≠ .error (.done v) := by
  unfold requireNotBelow
  split_ifs
  · simp
  · split <;> simp

/-- Writing the new child list and the new parent link, after the child was dropped from its old
place, is detaching the child and attaching it again. -/
lemma tree_attach (hp : (a.tagOf p).isSome) (hc : (a.tagOf c).isSome)
    (hb : b.tree = ⟨a.parentOf, fun q => (a.childrenOf q).filter (· ≠ c), a.tagOf⟩) :
    ((b.modify p (·.withChildren l)).modify c (·.withParent (some p))).tree =
      (a.tree.detach c).attach c p l := by
  simp only [tree, Tree.mk.injEq] at hb
  rw [← hb.2.2] at hp hc
  have hl := tree_modify_children hp (fun _ => l)
  simp only [tree, Tree.mk.injEq] at hl
  rw [tree_modify_parent ((tagOf_modify_isSome hp).mpr hc), hl.1, hl.2.1, hl.2.2, hb.1, hb.2.1,
    hb.2.2]
  simp only [Tree.attach, Tree.detach, update_idem, tree]

/-- The writes of `replace_child`, after the new child was dropped from its old place. -/
lemma tree_replace {p new old : NodeId} (h : a.Wf) (hp : (a.tagOf p).isSome)
    (hn : (a.tagOf new).isSome) (ho : (a.tagOf old).isSome) (hne : new ≠ old)
    (hold : a.parentOf old = some p)
    (hb : b.tree = ⟨a.parentOf, fun q => (a.childrenOf q).filter (· ≠ new), a.tagOf⟩) :
    (((b.modify p (·.withChildren l)).modify new (·.withParent (some p))).modify old
      (·.withParent none)).tree = ((a.tree.detach new).detach old).attach new p l := by
  have hnew := tree_attach (l := l) hp hn hb
  have htag : ((b.modify p (·.withChildren l)).modify new (·.withParent (some p))).tagOf =
      a.tagOf := congrArg Tree.tag hnew
  simp only [tree, Tree.mk.injEq, Tree.attach] at hnew
  rw [tree_modify_parent (by rw [htag]; exact ho), hnew.1, hnew.2.1, hnew.2.2]
  simp only [Tree.attach, Tree.detach, Tree.mk.injEq, and_true, tree]
  refine ⟨update_comm hne _ _ _, ?_⟩
  funext q
  by_cases hq : q = p
  · subst hq
    simp
  · -- the old child was in the parent's list only
    rw [update_of_ne hq, update_of_ne hq, List.filter_filter]
    refine List.filter_congr ?_
    intro x hx
    have hxo : x ≠ old := by
      rintro rfl
      rw [h.mem_childrenOf.mp hx] at hold
      exact hq (some.inj hold)
    simp [hxo]

/-- The writes of `remove_child`. -/
lemma tree_remove (h : a.Wf) (hp : (a.tagOf p).isSome) (hc : (a.tagOf c).isSome)
    (hparent : a.parentOf c = some p) :
    ((a.modify p (·.withChildren ((a.childrenOf p).filter (· ≠ c)))).modify c
      (·.withParent none)).tree = a.tree.detach c := by
  have hl := tree_modify_children hp (fun _ => (a.childrenOf p).filter (· ≠ c))
  simp only [tree, Tree.mk.injEq] at hl
  rw [tree_modify_parent ((tagOf_modify_isSome hp).mpr hc), hl.1, hl.2.1, hl.2.2]
  simp only [Tree.detach, Tree.mk.injEq, true_and, and_true, tree]
  funext q
  by_cases hq : q = p
  · subst hq
    simp
  · rw [update_of_ne hq, filter_childrenOf h]
    rw [hparent]
    exact fun heq => hq (some.inj heq).symm

lemma insertionIndex_le {kept : List NodeId}
    (h : insertionIndex kept reference = .ok i) : i ≤ kept.length := by
  cases reference with
  | none =>
    cases h
    exact le_rfl
  | some reference =>
    simp only [insertionIndex] at h
    split at h
    · rename_i j hj
      cases h
      exact Nat.le_of_lt (List.idxOf?_eq_some_iff.mp hj).1
    · cases h

lemma insertionIndex_eq_error {kept : List NodeId} {s : Stop Unit} :
    insertionIndex kept reference = .error s ↔
      (∃ r, reference = some r ∧ kept.idxOf? r = none) ∧ s = .fail .referenceIsNotChild := by
  cases reference with
  | none => simp [insertionIndex]
  | some r =>
    cases h : kept.idxOf? r <;> simp [insertionIndex, h, eq_comm, -List.idxOf?_eq_none_iff]

lemma checkReference_ne_loop {siblings : List NodeId} {c : NodeId}
    : checkReference a siblings c reference ≠ .error .loop := by
  cases reference <;> simp [checkReference, bind_eq_error]

/-- What `insert_before` has checked when it writes, and what it writes. -/
lemma insertBefore_eq_ok (h : a.Wf) (hok : insertBefore p c reference a = .ok (v, nodes)) :
    ∃ i, insertionIndex ((a.childrenOf p).filter (· ≠ c)) reference = .ok i ∧
      checkReference a (a.childrenOf p) c reference = .ok () ∧ c ≠ a.documentNode ∧
      (a.tagOf c).isSome ∧ ¬AncestorOrSelf a.parentOf p c ∧
      a.validateChildren p (((a.childrenOf p).filter (· ≠ c)).insertIdx i c) = .ok () ∧
      ({ a with nodes } : Arena).kindOf = a.kindOf ∧ ({ a with nodes } : Arena).tree =
        (a.tree.detach c).attach c p (((a.childrenOf p).filter (· ≠ c)).insertIdx i c) := by
  simp only [insertBefore, bind_eq_ok, orFail_eq_ok, require_eq_ok, a.record_eq_ok,
    ok.injEq, Prod.mk.injEq] at hok
  obtain ⟨pr, hpr, cr, hcr, _, href, _, hroot, _, -, _, hbelow, i, hi, _, hvalid, dropped, hdrop,
    -, rfl⟩ := hok
  have hp : (a.tagOf p).isSome := tagOf_isSome.mpr ⟨pr, hpr⟩
  have hc : (a.tagOf c).isSome := tagOf_isSome.mpr ⟨cr, hcr⟩
  rw [requireNotBelow_eq_ok h hp hc] at hbelow
  rw [← parentOf_eq hcr] at hdrop
  rw [← childrenOf_eq hpr] at href hi hvalid ⊢
  exact ⟨i, hi, href, hroot, hc, hbelow, hvalid,
    (kindOf_writes _).trans (kindOf_dropFromParent hdrop),
    tree_attach hp hc (tree_dropFromParent h hdrop)⟩

lemma insertBefore_refines (p c : NodeId) (reference : Option NodeId) :
    (insertBefore p c reference).Refines where
  steps := by
    intro a v nodes h hok
    obtain ⟨i, hi, -, hroot, hc, hbelow, hvalid, -, htree⟩ := insertBefore_eq_ok h hok
    rw [htree]
    refine .tail (.single (.detach c)) ?_
    refine .attach (by simp [Tree.detach]) hroot hc ?_ ?_ (validateChildren_eq_ok.mp hvalid).2
    · exact List.perm_insertIdx c _ (insertionIndex_le hi)
    · exact not_ancestorOrSelf_update_none hbelow c
  returns := by
    intro a h hloop
    simp only [insertBefore, bind_eq_error, orFail_eq_error, orFail_eq_ok, a.record_eq_ok,
      require_eq_error, require_eq_ok, reduceCtorEq, and_false, exists_false, false_or, or_false,
      checkReference_ne_loop, insertionIndex_eq_error, dropFromParent_eq_error] at hloop
    obtain ⟨pr, hpr, cr, hcr, _, -, _, -, _, -, hbelow⟩ := hloop
    exact requireNotBelow_ne_loop h (tagOf_isSome.mpr ⟨pr, hpr⟩) (tagOf_isSome.mpr ⟨cr, hcr⟩) hbelow

/-- When `append_child` succeeds. -/
lemma appendChild_eq_ok (h : a.Wf) (hp : (a.tagOf p).isSome)
    (hc : (a.tagOf c).isSome) (hroot : c ≠ a.documentNode) (hbelow : ¬AncestorOrSelf a.parentOf p c)
    (hvalid : a.validateChildren p ((a.childrenOf p).filter (· ≠ c) ++ [c]) = .ok ()) :
    ∃ nodes, appendChild p c a = .ok ((), nodes) ∧
      ({ a with nodes } : Arena).tree =
        (a.tree.detach c).attach c p ((a.childrenOf p).filter (· ≠ c) ++ [c]) := by
  obtain ⟨pr, hpr⟩ := tagOf_isSome.mp hp
  obtain ⟨cr, hcr⟩ := tagOf_isSome.mp hc
  have hcontainer : pr.kind.isContainer = true := by
    have := (validateChildren_eq_ok.mp hvalid).1
    rw [tagOf_eq hpr, some.injEq, some.injEq] at this
    exact pr.kind.isContainer_iff.mpr this
  obtain ⟨dropped, hdrop⟩ : ∃ dropped,
      (dropFromParent a cr.parent c : Except (Stop Unit) _) = .ok dropped := by
    rcases hparent : cr.parent with _ | q
    · exact ⟨_, rfl⟩
    · have hq := h.tagOf_parent ((parentOf_eq hcr).trans hparent)
      simp only [dropFromParent, checkedIndex_of_tagOf hq]
      exact ⟨_, rfl⟩
  have hdrop' : (dropFromParent a (a.parentOf c) c : Except (Stop Unit) _) = .ok dropped := by
    rw [parentOf_eq hcr]
    exact hdrop
  have htree := tree_attach (l := (a.childrenOf p).filter (· ≠ c) ++ [c]) hp hc
    (tree_dropFromParent h hdrop')
  refine ⟨_, ?_, htree⟩
  simp only [appendChild, insertBefore, orFail, a.record_eq_ok.mpr hpr, a.record_eq_ok.mpr hcr,
    Except.mapError, ok_bind, checkReference, require_bind, hroot, ne_eq, not_false_eq_true,
    if_true, hcontainer, (requireNotBelow_eq_ok h hp hc).mpr hbelow, insertionIndex,
    List.insertIdx_length_self]
  simp only [ne_eq, childrenOf_eq hpr] at hvalid
  rw [hvalid, hdrop, childrenOf_eq hpr]
  rfl

/-- A node that hangs nowhere cannot be taken off. -/
lemma detach_loose (h : a.Wf) {c : NodeId} (hc : a.parentOf c = none) :
    a.tree.detach c = a.tree := by
  have hparent : update a.parentOf c none = a.parentOf := by
    rw [← hc, update_eq_self]
  have hchildren : (fun p => (a.childrenOf p).filter (· ≠ c)) = a.childrenOf := by
    funext p
    exact filter_childrenOf h (by rw [hc]; simp)
  calc a.tree.detach c
      = ⟨update a.parentOf c none, fun p => (a.childrenOf p).filter (· ≠ c), a.tagOf⟩ := rfl
    _ = a.tree := by rw [hparent, hchildren]; rfl

/-- A node that hangs nowhere and has no children can be appended wherever it is allowed. -/
lemma appendChild_leaf (h : a.Wf) (hc : (a.tagOf c).isSome)
    (hloose : a.parentOf c = none) (hleaf : a.childrenOf c = []) (hroot : c ≠ a.documentNode)
    (hne : p ≠ c) (hp : a.tagOf p = some .document ∨ a.tagOf p = some .element)
    (hallowed : Tree.Allowed a.tagOf (a.tagOf p) (a.childrenOf p ++ [c])) :
    ∃ nodes, appendChild p c a = .ok ((), nodes) ∧
      ({ a with nodes } : Arena).tree = a.tree.attach c p (a.childrenOf p ++ [c]) := by
  have hp' : (a.tagOf p).isSome := by
    rcases hp with hp | hp
    · exact isSome_of_eq_some hp
    · exact isSome_of_eq_some hp
  have hkept : (a.childrenOf p).filter (· ≠ c) = a.childrenOf p :=
    filter_childrenOf h (by rw [hloose]; simp)
  have hbelow : ¬AncestorOrSelf a.parentOf p c :=
    (Tree.Wf.forest h).not_ancestorOrSelf_of_childless hleaf hne
  have hvalid : a.validateChildren p ((a.childrenOf p).filter (· ≠ c) ++ [c]) = .ok () := by
    rw [hkept]
    exact validateChildren_eq_ok.mpr ⟨hp, hallowed⟩
  obtain ⟨nodes, hok, htree⟩ := appendChild_eq_ok h hp' hc hroot hbelow hvalid
  refine ⟨nodes, hok, ?_⟩
  rw [htree, hkept, detach_loose h hloose]

/-- When `append_child` reaches its writes, the parent may have the child. -/
lemma validateChildren_of_appendChild (hok : appendChild p c a = .ok (v, nodes)) :
    a.validateChildren p ((a.childrenOf p).filter (· ≠ c) ++ [c]) = .ok () := by
  simp only [appendChild, insertBefore, bind_eq_ok, orFail_eq_ok, a.record_eq_ok] at hok
  obtain ⟨pr, hpr, cr, hcr, _, -, _, -, _, -, _, -, i, hi, _, hvalid, -⟩ := hok
  cases hi
  rwa [List.insertIdx_length_self, ← childrenOf_eq hpr] at hvalid

lemma appendChild_ne_done : appendChild p c a ≠ .error (.done v) := by
  intro h
  simp [appendChild, insertBefore, bind_eq_error, checkReference, insertionIndex,
    requireNotBelow_ne_done, dropFromParent_eq_error] at h

lemma childPosition_eq_ok {c : NodeId} :
    (childPosition l c : Except (Stop α) ℕ) = .ok i ↔ l.idxOf? c = some i := by
  unfold childPosition
  split
  · rename_i j hj
    simp [hj]
  · rename_i hnone
    simp [hnone]

lemma childPosition_eq_error {s : Stop α} :
    (childPosition l c : Except (Stop α) ℕ) = .error s ↔
      l.idxOf? c = none ∧ s = .fail .nodeIsNotChild := by
  cases h : l.idxOf? c <;> simp [childPosition, h, eq_comm]

lemma checkSelfReplacement_eq_ok {p new old : NodeId} {r : NodeRecord} {u : Unit} :
    checkSelfReplacement p new old r = .ok u ↔ new ≠ old := by
  unfold checkSelfReplacement
  split_ifs <;> simp_all

lemma checkSelfReplacement_ne_loop {p new old : NodeId} {r : NodeRecord} :
    checkSelfReplacement p new old r ≠ .error .loop := by
  unfold checkSelfReplacement
  split_ifs <;> simp

/-- A child found in a list is one of the parent's children. -/
lemma parentOf_of_idxOf? (h : a.Wf)
    (hi : (a.childrenOf p).idxOf? c = some i) : a.parentOf c = some p :=
  h.mem_childrenOf.mp (List.isSome_idxOf?.mp (isSome_of_eq_some hi))

/-- Removing a child by its position leaves the others. -/
lemma eraseIdx_childrenOf (h : a.Wf) (hi : (a.childrenOf p).idxOf? c = some i) :
    (a.childrenOf p).eraseIdx i = (a.childrenOf p).filter (· ≠ c) := by
  have hnodup : (a.childrenOf p).Nodup := (Tree.Wf.forest h).nodup p
  calc (a.childrenOf p).eraseIdx i = (a.childrenOf p).erase c := by
        rw [List.erase_eq_eraseIdx, hi]
    _ = (a.childrenOf p).filter (· ≠ c) := (filter_ne_eq_erase hnodup c).symm

/-- The children `replace_child` gives the parent, the old child being at a position. -/
def replacement (l : List NodeId) (parent new old : NodeId) (r : NodeRecord) (i : ℕ) :
    List NodeId :=
  let kept := l.filter fun node => node ≠ new ∧ node ≠ old
  kept.insertIdx (replacementIndex l kept parent new r i) new

/-- What `replace_child` has checked when it writes, and what it writes. -/
lemma replaceChild_eq_ok {new old : NodeId} (h : a.Wf)
    (hok : replaceChild p new old a = .ok (v, nodes)) :
    ∃ r i, a.record? new = some r ∧ (a.childrenOf p).idxOf? old = some i ∧ new ≠ old ∧
      new ≠ a.documentNode ∧ ¬AncestorOrSelf a.parentOf p new ∧
      a.validateChildren p (replacement (a.childrenOf p) p new old r i) = .ok () ∧
      ({ a with nodes } : Arena).kindOf = a.kindOf ∧ ({ a with nodes } : Arena).tree =
        ((a.tree.detach new).detach old).attach new p
          (replacement (a.childrenOf p) p new old r i) := by
  simp only [replaceChild, bind_eq_ok, orFail_eq_ok, require_eq_ok, a.record_eq_ok,
    checkSelfReplacement_eq_ok, childPosition_eq_ok, ok.injEq, Prod.mk.injEq] at hok
  obtain ⟨pr, hpr, nr, hnr, or, hor, _, hne, i, hi, _, ⟨hroot, -⟩, _, hbelow, _, hvalid, dropped,
    hdrop, -, rfl⟩ := hok
  have hp : (a.tagOf p).isSome := tagOf_isSome.mpr ⟨pr, hpr⟩
  have hn : (a.tagOf new).isSome := tagOf_isSome.mpr ⟨nr, hnr⟩
  have ho : (a.tagOf old).isSome := tagOf_isSome.mpr ⟨or, hor⟩
  rw [requireNotBelow_eq_ok h hp hn] at hbelow
  rw [← parentOf_eq hnr] at hdrop
  rw [← childrenOf_eq hpr] at hi hvalid ⊢
  refine ⟨nr, i, hnr, hi, hne, hroot, hbelow, hvalid, ?_,
    tree_replace h hp hn ho hne (parentOf_of_idxOf? h hi) (tree_dropFromParent h hdrop)⟩
  exact (kindOf_modify (f := (·.withParent none)) old fun _ => rfl).trans
    ((kindOf_writes _).trans (kindOf_dropFromParent hdrop))

lemma replaceChild_refines (p new old : NodeId) : (replaceChild p new old).Refines where
  steps := by
    intro a v nodes h hok
    obtain ⟨r, i, hr, -, hne, hroot, hbelow, hvalid, -, htree⟩ := replaceChild_eq_ok h hok
    rw [htree]
    refine .tail (.tail (.single (.detach new)) (.detach old)) ?_
    refine .attach ?_ hroot (tagOf_isSome.mpr ⟨r, hr⟩) ?_ ?_ (validateChildren_eq_ok.mp hvalid).2
    · simp [Tree.detach, update_of_ne hne]
    · -- after the two detachments the parent has just the children that are kept
      refine (List.perm_insertIdx new _ (Nat.min_le_right _ _)).trans (.of_eq ?_)
      simp [Tree.detach, tree, List.filter_filter, Bool.and_comm]
    · exact not_ancestorOrSelf_update_none (not_ancestorOrSelf_update_none hbelow new) old
  returns := by
    intro a h hloop
    simp only [replaceChild, bind_eq_error, orFail_eq_error, orFail_eq_ok, a.record_eq_ok,
      require_eq_error, require_eq_ok, reduceCtorEq, and_false, exists_false, false_or, or_false,
      checkSelfReplacement_ne_loop, childPosition_eq_error, dropFromParent_eq_error] at hloop
    obtain ⟨pr, hpr, nr, hnr, or, hor, _, -, _, -, _, -, hbelow⟩ := hloop
    exact requireNotBelow_ne_loop h (tagOf_isSome.mpr ⟨pr, hpr⟩) (tagOf_isSome.mpr ⟨nr, hnr⟩) hbelow

lemma removeChild_refines (p c : NodeId) : (removeChild p c).Refines where
  steps := by
    intro a v nodes h hok
    simp only [removeChild, bind_eq_ok, orFail_eq_ok, a.record_eq_ok, childPosition_eq_ok,
      ok.injEq, Prod.mk.injEq] at hok
    obtain ⟨pr, hpr, cr, hcr, i, hi, -, rfl⟩ := hok
    have hp : (a.tagOf p).isSome := tagOf_isSome.mpr ⟨pr, hpr⟩
    have hc : (a.tagOf c).isSome := tagOf_isSome.mpr ⟨cr, hcr⟩
    rw [← childrenOf_eq hpr] at hi ⊢
    rw [eraseIdx_childrenOf h hi]
    refine Eq.subst (tree_remove h hp hc (parentOf_of_idxOf? h hi)).symm ?_
    exact .single (.detach c)
  returns := by
    intro a _ hloop
    simp [removeChild, bind_eq_error, childPosition_eq_error] at hloop

end Mutation

end WildBuzzard.Dom
