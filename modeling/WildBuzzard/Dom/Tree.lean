import WildBuzzard.Lib.OrderedForest

/-!
# The document tree, abstractly

What the arena is for: an ordered forest whose nodes carry one of five tags, with one root that is
the document. A tree changes in three ways only: a node is created, taken off its parent, or hung
under a node that may have it.

* `Tree.Wf root t` is the invariant: the two directions of every link agree, no chain of parents is
  cyclic, and every node has the children its tag allows (`Allowed`).
* `Tree.Step root` are the three changes, each with its condition; **a step keeps the invariant**
  (`Step.wf`), and so does every sequence of steps (`Steps.wf`).
-/

namespace WildBuzzard.Dom

open Lib Function

/-- What kind of node a node is, without its data. -/
inductive NodeTag where
  | document
  | documentType
  | element
  | text
  | comment
  deriving DecidableEq, Repr

/-- A tree over a type of nodes. A node the tree does not have has no tag. -/
structure Tree (α : Type) where
  parent : α → Option α
  children : α → List α
  tag : α → Option NodeTag

namespace Tree

variable {α : Type}

/-! ## The invariant -/

variable {parent : Option NodeTag}

/-- The order a document keeps among its children: one doctype, one element, the doctype first. -/
def InOrder (tag : α → Option NodeTag) (x y : α) : Prop :=
  ¬(tag x = some .element ∧ tag y = some .element) ∧
    ¬(tag x = some .documentType ∧ tag y = some .documentType) ∧
      ¬(tag x = some .element ∧ tag y = some .documentType)

/-- The children a document may have: comments, at most one doctype and at most one element, the
doctype before the element. -/
def DocumentChildren (tag : α → Option NodeTag) (l : List α) : Prop :=
  (∀ c ∈ l, tag c = some .comment ∨ tag c = some .documentType ∨ tag c = some .element) ∧
    l.Pairwise (InOrder tag)

/-- The children an element may have. -/
def ElementChildren (tag : α → Option NodeTag) (l : List α) : Prop :=
  ∀ c ∈ l, tag c ≠ some .document ∧ tag c ≠ some .documentType

/-- The children a node of the given tag may have. -/
def Allowed (tag : α → Option NodeTag) : Option NodeTag → List α → Prop
  | some .document, l => DocumentChildren tag l
  | some .element, l => ElementChildren tag l
  | _, l => l = []

variable {tag : α → Option NodeTag} {l : List α}

/-- Taking children away is always allowed. -/
lemma Allowed.sublist {l l' : List α} (h : Allowed tag parent l) (hs : l'.Sublist l) :
    Allowed tag parent l' := by
  unfold Allowed at h ⊢
  split at h
  · exact ⟨fun c hc => h.1 c (hs.subset hc), h.2.sublist hs⟩
  · exact fun c hc => h c (hs.subset hc)
  · subst h
    exact List.sublist_nil.mp hs

/-- Whether children are allowed is a matter of their own tags. -/
lemma Allowed.congr {tag tag' : α → Option NodeTag} (h : Allowed tag parent l)
    (heq : ∀ c ∈ l, tag' c = tag c) : Allowed tag' parent l := by
  unfold Allowed at h ⊢
  split at h
  · refine ⟨fun c hc => by rw [heq c hc]; exact h.1 c hc, ?_⟩
    refine h.2.imp_of_mem ?_
    intro x y hx hy hxy
    unfold InOrder
    rw [heq x hx, heq y hy]
    exact hxy
  · exact fun c hc => by rw [heq c hc]; exact h c hc
  · exact h

/-- A node with children is a document or an element. -/
lemma Allowed.tag_of_mem {c : α} (h : Allowed tag parent l) (hc : c ∈ l) :
    parent = some .document ∨ parent = some .element := by
  unfold Allowed at h
  split at h
  · exact Or.inl rfl
  · exact Or.inr rfl
  · subst h
    cases hc

/-- The invariant of a document tree with the given root. -/
structure Wf (root : α) (t : Tree α) : Prop where
  forest : OrderedForest t.parent t.children
  root_parent : t.parent root = none
  root_tag : t.tag root = some .document
  /-- The root is the only document. -/
  eq_root : ∀ {x}, t.tag x = some .document → x = root
  /-- A node that hangs somewhere is a node of the tree. -/
  tag_of_parent : ∀ {x p}, t.parent x = some p → (t.tag x).isSome
  allowed : ∀ p, Allowed t.tag (t.tag p) (t.children p)

namespace Wf

variable {root : α} {t : Tree α}

/-- A parent is a document or an element, in particular a node of the tree. -/
lemma container_of_parent (h : t.Wf root) {x p : α} (hx : t.parent x = some p) :
    t.tag p = some .document ∨ t.tag p = some .element :=
  (h.allowed p).tag_of_mem (h.forest.mem_children.mpr hx)

/-- A node the tree does not have hangs nowhere. -/
lemma parent_eq_none (h : t.Wf root) {x : α} (hx : t.tag x = none) : t.parent x = none := by
  rcases hp : t.parent x with _ | p
  · rfl
  · have := h.tag_of_parent hp
    rw [hx] at this
    cases this

/-- A node the tree does not have has no children. -/
lemma children_eq_nil (h : t.Wf root) {x : α} (hx : t.tag x = none) : t.children x = [] := by
  have := h.allowed x
  rwa [hx] at this

end Wf

/-! ## The changes -/

variable [DecidableEq α]

/-- Take a node off its parent. -/
def detach (t : Tree α) (x : α) : Tree α where
  parent := Function.update t.parent x none
  children p := (t.children p).filter (· ≠ x)
  tag := t.tag

/-- Hang a node under `p`, whose children become `l`. -/
def attach (t : Tree α) (x p : α) (l : List α) : Tree α where
  parent := Function.update t.parent x (some p)
  children := Function.update t.children p l
  tag := t.tag

/-- Create a node. -/
def create (t : Tree α) (x : α) (tag : NodeTag) : Tree α :=
  { t with tag := Function.update t.tag x (some tag) }

/-- One change of a tree, with its condition. -/
inductive Step (root : α) : Tree α → Tree α → Prop
  | create {t : Tree α} {x : α} {tag : NodeTag} (fresh : t.tag x = none)
      (kind : tag ≠ .document) : Step root t (t.create x tag)
  | detach {t : Tree α} (x : α) : Step root t (t.detach x)
  | attach {t : Tree α} {x p : α} {l : List α} (loose : t.parent x = none) (ne : x ≠ root)
      (known : (t.tag x).isSome) (arrangement : l.Perm (x :: t.children p))
      (notBelow : ¬AncestorOrSelf t.parent p x) (allowed : Allowed t.tag (t.tag p) l) :
      Step root t (t.attach x p l)

variable {root : α} {t t' : Tree α}

lemma Wf.create (h : t.Wf root) {x : α} {tag : NodeTag} (fresh : t.tag x = none)
    (kind : tag ≠ .document) : (t.create x tag).Wf root where
  forest := h.forest
  root_parent := h.root_parent
  root_tag := by
    have hne : root ≠ x := by
      rintro rfl
      rw [h.root_tag] at fresh
      cases fresh
    simpa [Tree.create, update_of_ne hne] using h.root_tag
  eq_root := by
    intro y hy
    by_cases hyx : y = x
    · subst hyx
      simp only [Tree.create, update_self, Option.some.injEq] at hy
      exact absurd hy kind
    · simp only [Tree.create, update_of_ne hyx] at hy
      exact h.eq_root hy
  tag_of_parent := by
    intro y p hy
    by_cases hyx : y = x
    · simp [Tree.create, hyx]
    · simpa [Tree.create, update_of_ne hyx] using h.tag_of_parent hy
  allowed p := by
    by_cases hpx : p = x
    · -- the new node has no children yet
      subst hpx
      show Allowed _ _ (t.children p)
      rw [h.children_eq_nil fresh]
      unfold Allowed DocumentChildren ElementChildren
      split <;> simp
    · have hal := h.allowed p
      rw [show (t.create x tag).tag p = t.tag p from update_of_ne hpx _ _]
      refine hal.congr ?_
      intro c hc
      have hcx : c ≠ x := by
        rintro rfl
        have := h.parent_eq_none fresh
        rw [h.forest.mem_children.mp hc] at this
        cases this
      exact update_of_ne hcx _ _

lemma Wf.detach (h : t.Wf root) (x : α) : (t.detach x).Wf root where
  forest := h.forest.detach x
  root_parent := by
    by_cases hx : root = x
    · simp [Tree.detach, hx]
    · simpa [Tree.detach, update_of_ne hx] using h.root_parent
  root_tag := h.root_tag
  eq_root := h.eq_root
  tag_of_parent := by
    intro y p hy
    exact h.tag_of_parent (parentEdge_of_update_none x y p hy)
  allowed p := (h.allowed p).sublist List.filter_sublist

lemma Wf.attach (h : t.Wf root) {x p : α} (loose : t.parent x = none) (ne : x ≠ root)
    (known : (t.tag x).isSome) (arrangement : l.Perm (x :: t.children p))
    (notBelow : ¬AncestorOrSelf t.parent p x) (allowed : Allowed t.tag (t.tag p) l) :
    (t.attach x p l).Wf root where
  forest := h.forest.attach loose arrangement notBelow
  root_parent := by
    simpa [Tree.attach, update_of_ne ne.symm] using h.root_parent
  root_tag := h.root_tag
  eq_root := h.eq_root
  tag_of_parent := by
    intro y q hy
    by_cases hyx : y = x
    · subst hyx
      exact known
    · exact h.tag_of_parent (by simpa [Tree.attach, update_of_ne hyx] using hy)
  allowed q := by
    by_cases hq : q = p
    · subst hq
      simpa [Tree.attach] using allowed
    · simpa [Tree.attach, update_of_ne hq] using h.allowed q

/-- **A change keeps the invariant.** -/
theorem Step.wf (hs : Step root t t') (h : t.Wf root) : t'.Wf root := by
  cases hs with
  | create fresh kind => exact h.create fresh kind
  | detach x => exact h.detach x
  | attach loose ne known arrangement notBelow allowed =>
    exact h.attach loose ne known arrangement notBelow allowed

/-- Several changes one after the other. -/
def Steps (root : α) : Tree α → Tree α → Prop := Relation.ReflTransGen (Step root)

lemma Steps.wf (hs : Steps root t t') (h : t.Wf root) : t'.Wf root := by
  induction hs with
  | refl => exact h
  | tail _ hstep ih => exact hstep.wf ih

end Tree

end WildBuzzard.Dom
