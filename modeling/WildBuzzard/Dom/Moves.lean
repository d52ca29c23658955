import WildBuzzard.Dom.Run

/-!
# What a move changes

Source: `dom/src/lib.rs`, `Document::insert_before` and `Document::replace_child`.

Both methods compute the new child list from one the moved node has already been taken out of, so
that a move within one list shifts its positions. The results here say what the lists are in terms
of the old list (`InsertedBefore`, `InPlaceOf`), and that nothing else changes (`Moved`).

* `insertedBefore_of_index`, `inPlaceOf_of_index`: **the computed position is the right one**;
* `move_changes_links_only`: what a successful call does to the whole arena of a reachable document.
-/

namespace WildBuzzard.Dom

open Lib List Function

/-! ## What a move is -/

/-- The children after `child` was taken out and put immediately before the reference, or at the
end. A child that is its own reference stays where it is. -/
def InsertedBefore (old new : List NodeId) (child : NodeId) : Option NodeId → Prop
  | none => new = old.erase child ++ [child]
  | some reference => ∃ before after, old = before ++ reference :: after ∧
      new = before.erase child ++ child :: (reference :: after).erase child

/-- The children after `newChild` was taken out and put in the place of `oldChild`. -/
def InPlaceOf (old new : List NodeId) (newChild oldChild : NodeId) : Prop :=
  ∃ before after, old = before ++ oldChild :: after ∧
    new = before.erase newChild ++ newChild :: after.erase newChild

/-- What a move of `child` under `parent`, where it may replace a node, does to everything but the
child list of `parent`. -/
structure Moved (a b : Arena) (parent child : NodeId) (replaced : Option NodeId) : Prop where
  /-- Another parent loses exactly the child, its other children keep their order. -/
  formerParent : ∀ {q}, q ≠ parent → a.parentOf child = some q →
    b.childrenOf q = (a.childrenOf q).erase child
  lists : ∀ {q}, q ≠ parent → a.parentOf child ≠ some q → b.childrenOf q = a.childrenOf q
  /-- Only the child and the replaced node change their parents. -/
  parents : ∀ x, b.parentOf x =
    if x = child then some parent else if some x = replaced then none else a.parentOf x
  /-- Kinds hold the names, the attributes and the character data. -/
  kinds : b.kindOf = a.kindOf
  records : ∀ {x}, x ≠ parent → x ≠ child → some x ≠ replaced → a.parentOf child ≠ some x →
    b.record? x = a.record? x

/-! ## Kinds and records -/

namespace Arena

variable {a b : Arena}

/-- A record is known by what can be read of it. -/
lemma record?_congr {x : NodeId} (hk : b.kindOf x = a.kindOf x)
    (hp : b.parentOf x = a.parentOf x) (hc : b.childrenOf x = a.childrenOf x) :
    b.record? x = a.record? x := by
  rcases ha : a.record? x with _ | ⟨p, l, k⟩ <;> rcases hb : b.record? x with _ | ⟨p', l', k'⟩ <;>
    simp_all [kindOf, parentOf, childrenOf]

end Arena

namespace Mutation

open Arena

variable {a b : Arena} {nodes : List NodeRecord} {p c old : NodeId} {l : List NodeId}
  {reference replaced : Option NodeId} {i : ℕ}

/-! ## The child list -/

/-- Where `insert_before` puts the child. -/
lemma insertedBefore_of_index (hl : l.Nodup) (href : checkReference a l c reference = .ok ())
    (hi : insertionIndex (l.filter (· ≠ c)) reference = .ok i) :
    InsertedBefore l ((l.filter (· ≠ c)).insertIdx i c) c reference := by
  rw [filter_ne_eq_erase hl] at hi ⊢
  cases reference with
  | none =>
    cases hi
    rw [insertIdx_length_self]
    rfl
  | some r =>
    simp only [checkReference, bind_eq_ok, require_eq_ok] at href
    obtain ⟨_, -, _, hr, hne⟩ := href
    obtain ⟨before, after, rfl, hnot, -⟩ := exists_eq_append_cons hl hr
    refine ⟨before, after, rfl, ?_⟩
    have hkept : (before ++ r :: after).erase c = before.erase c ++ (r :: after).erase c := by
      rw [← filter_ne_eq_erase hl, filter_append, filter_ne_eq_erase hl.of_append_left,
        filter_ne_eq_erase hl.of_append_right]
    have htail : (r :: after).erase c = r :: after.erase c :=
      erase_cons_tail (by simpa using hne)
    rw [hkept, htail] at hi ⊢
    rw [insertionIndex, idxOf?_append_cons fun h => hnot (mem_of_mem_erase h)] at hi
    cases hi
    exact insertIdx_append_length _ _ _

/-- Where `replace_child` puts the new child: the positions are those before anything is removed,
and the shift makes up for a new child that stood before the old one. -/
lemma inPlaceOf_of_index {r : NodeRecord} (hl : l.Nodup) (hr : c ∈ l ↔ r.parent = some p)
    (hi : l.idxOf? old = some i) : InPlaceOf l (replacement l p c old r i) c old := by
  have hposition : (if r.parent = some p then l.idxOf? c else none) = l.idxOf? c := by
    split_ifs with hp
    · rfl
    · exact (idxOf?_eq_none_iff.mpr fun h => hp (hr.mp h)).symm
  obtain ⟨before, after, rfl, hnot, -⟩ := exists_eq_append_cons hl
    (isSome_idxOf?.mp (Option.isSome_of_eq_some hi))
  refine ⟨before, after, rfl, ?_⟩
  rw [idxOf?_append_cons hnot] at hi
  cases hi
  have hkept : (before ++ old :: after).filter (fun x => x ≠ c ∧ x ≠ old) =
      before.erase c ++ after.erase c := by
    calc (before ++ old :: after).filter (fun x => x ≠ c ∧ x ≠ old)
        = ((before ++ old :: after).filter (· ≠ old)).filter (· ≠ c) := by
          simp [filter_filter]
      _ = (before ++ after).filter (· ≠ c) := by
          rw [filter_ne_eq_erase hl, erase_append_right _ hnot, erase_cons_head]
      _ = before.erase c ++ after.erase c := by
          rw [filter_append, filter_ne_eq_erase hl.of_append_left,
            filter_ne_eq_erase hl.of_append_right.of_cons]
  have hindex : replacementIndex (before ++ old :: after) (before.erase c ++ after.erase c) p c r
      before.length = (before.erase c).length := by
    simp only [replacementIndex, hposition, any_idxOf?_append, decide_eq_true_eq,
      length_append, length_erase]
    split_ifs <;> omega
  simp only [replacement, hkept, hindex]
  exact insertIdx_append_length _ _ _

/-! ## The early returns -/

/-- `insert_before` returns early on a child of the parent that is its own reference. -/
lemma insertBefore_eq_done (h : insertBefore p c reference a = .error (.done ())) :
    reference = some c ∧ c ∈ a.childrenOf p := by
  simp only [insertBefore, bind_eq_error, orFail_eq_error, orFail_eq_ok, a.record_eq_ok,
    require_eq_error, require_eq_ok, reduceCtorEq, and_false, exists_false, false_or, or_false,
    requireNotBelow_ne_done, dropFromParent_eq_error, insertionIndex_eq_error] at h
  obtain ⟨pr, hpr, cr, -, h⟩ := h
  cases reference with
  | none => simp [checkReference] at h
  | some r =>
    simp only [checkReference, bind_eq_error, orFail_eq_error, reduceCtorEq, and_false,
      exists_false, false_or, require_eq_error, require_eq_ok, not_not] at h
    obtain ⟨_, -, _, hmem, rfl, -⟩ := h
    exact ⟨rfl, childrenOf_eq hpr ▸ hmem⟩

/-- `replace_child` returns early on a child of the parent that replaces itself. -/
lemma replaceChild_eq_done (h : replaceChild p c old a = .error (.done ())) :
    c = old ∧ a.parentOf c = some p := by
  simp only [replaceChild, bind_eq_error, orFail_eq_error, orFail_eq_ok, a.record_eq_ok,
    require_eq_error, require_eq_ok, reduceCtorEq, and_false, exists_false, false_or, or_false,
    requireNotBelow_ne_done, dropFromParent_eq_error, childPosition_eq_error] at h
  obtain ⟨pr, -, cr, -, or, hor, h⟩ := h
  unfold checkSelfReplacement at h
  split_ifs at h with heq hparent
  · subst heq
    exact ⟨rfl, (parentOf_eq hor).trans hparent⟩
  all_goals simp at h

end Mutation

/-! ## The two methods -/

section moves

open Arena Mutation

variable {a b : Arena} {p c : NodeId} {l : List NodeId} {replaced : Option NodeId}

/-- Everything outside the parent's list, from the links after the move. -/
lemma Moved.of_links (h : a.Wf) (hparents : ∀ x, b.parentOf x =
      if x = c then some p else if some x = replaced then none else a.parentOf x)
    (hlists : ∀ q ≠ p, b.childrenOf q = (a.childrenOf q).filter (· ≠ c))
    (hkinds : b.kindOf = a.kindOf) : Moved a b p c replaced where
  formerParent := by
    intro q hq _
    rw [hlists q hq]
    exact filter_ne_eq_erase ((Tree.Wf.forest h).nodup q) c
  lists := by
    intro q hq hformer
    rw [hlists q hq, filter_childrenOf h hformer]
  parents := hparents
  kinds := hkinds
  records := by
    intro x hp hc hreplaced hformer
    apply record?_congr (congrFun hkinds x)
    · rw [hparents, if_neg hc, if_neg hreplaced]
    · rw [hlists x hp, filter_childrenOf h hformer]

/-- A move to where the child already is. -/
lemma Moved.refl (h : a.Wf) (hc : c ∈ a.childrenOf p) (hreplaced : ∀ r ∈ replaced, r = c) :
    Moved a a p c replaced := by
  rw [h.mem_childrenOf] at hc
  refine .of_links h ?_ ?_ rfl
  · intro x
    split_ifs with hx hr
    · rw [hx, hc]
    · exact absurd (hreplaced x hr.symm) hx
    · rfl
  · intro q hq
    refine (filter_childrenOf h ?_).symm
    rw [hc]
    exact fun heq => hq (Option.some.inj heq).symm

/-- Detaching the child and what it replaces and attaching the child is a move. -/
lemma Moved.of_attach (replaced : Option NodeId) (h : a.Wf)
    (hreplaced : ∀ r ∈ replaced, a.parentOf r = some p) (hkinds : b.kindOf = a.kindOf)
    (htree : b.tree = (replaced.elim (a.tree.detach c) (a.tree.detach c).detach).attach c p l) :
    b.childrenOf p = l ∧ Moved a b p c replaced := by
  have hparents := congrArg Tree.parent htree
  have hlists := congrArg Tree.children htree
  refine ⟨(congrFun hlists p).trans (update_self _ _ _), .of_links h ?_ ?_ hkinds⟩
  · intro x
    refine (congrFun hparents x).trans ?_
    cases replaced with
    | none => by_cases hx : x = c <;> simp [Tree.attach, Tree.detach, Arena.tree, hx]
    | some r =>
      by_cases hx : x = c <;> by_cases hr : x = r <;>
        simp [Tree.attach, Tree.detach, Arena.tree, update_apply, hx, hr]
  · intro q hq
    refine ((congrFun hlists q).trans (update_of_ne hq _ _)).trans ?_
    cases replaced with
    | none => rfl
    | some r =>
      -- the replaced node is in the parent's list only
      refine filter_eq_self.mpr ?_
      intro x hx
      have hxq : a.parentOf x = some q := h.mem_childrenOf.mp (mem_of_mem_filter hx)
      simp only [ne_eq, decide_eq_true_eq]
      rintro rfl
      exact hq (Option.some.inj (hxq.symm.trans (hreplaced x rfl)))

/-- **What a move does**: a successful `insert_before` puts the child immediately before the
reference or at the end, a successful `replace_child` puts it in the place of the old child. The
former parent loses the child, the two moved nodes get their new parents, and nothing else
changes. -/
theorem move_changes_links_only {d : Document} (h : Reachable d) :
    (∀ parent child reference d', Document.insertBefore parent child reference d = .ok () d' →
      InsertedBefore (d.childrenOf parent) (d'.childrenOf parent) child reference ∧
        Moved d.toArena d'.toArena parent child none) ∧
    ∀ parent newChild oldChild d', Document.replaceChild parent newChild oldChild d = .ok () d' →
      InPlaceOf (d.childrenOf parent) (d'.childrenOf parent) newChild oldChild ∧
        Moved d.toArena d'.toArena parent newChild (some oldChild) := by
  have hnodup : ∀ p, (d.childrenOf p).Nodup := (Tree.Wf.forest h.wf).nodup
  constructor
  · intro p c reference d' hok
    rcases (Mutation.run_sat _ d).of_ok hok with ⟨hdone, rfl⟩ | ⟨nodes, hwrite, -, rfl⟩
    · obtain ⟨rfl, hmem⟩ := insertBefore_eq_done hdone
      obtain ⟨before, after, heq, hnot, -⟩ := exists_eq_append_cons (hnodup p) hmem
      refine ⟨⟨before, after, heq, ?_⟩, .refl h.wf hmem (by simp)⟩
      rw [List.erase_of_not_mem hnot, List.erase_cons_head, heq]
    · obtain ⟨i, hi, href, -, -, -, -, hkinds, htree⟩ := insertBefore_eq_ok h.wf hwrite
      obtain ⟨hlist, hmoved⟩ := Moved.of_attach none h.wf (by simp) hkinds htree
      exact ⟨hlist ▸ insertedBefore_of_index (hnodup p) href hi, hmoved⟩
  · intro p c old d' hok
    rcases (Mutation.run_sat _ d).of_ok hok with ⟨hdone, rfl⟩ | ⟨nodes, hwrite, -, rfl⟩
    · obtain ⟨rfl, hparent⟩ := replaceChild_eq_done hdone
      have hmem := h.wf.mem_childrenOf.mpr hparent
      obtain ⟨before, after, heq, hnot, hnot'⟩ := exists_eq_append_cons (hnodup p) hmem
      refine ⟨⟨before, after, heq, ?_⟩, .refl h.wf hmem (by simp)⟩
      rw [List.erase_of_not_mem hnot, List.erase_of_not_mem hnot', heq]
    · obtain ⟨r, i, hr, hi, -, -, -, -, hkinds, htree⟩ := replaceChild_eq_ok h.wf hwrite
      obtain ⟨hlist, hmoved⟩ := Moved.of_attach (some old) h.wf
        (by simpa using parentOf_of_idxOf? h.wf hi) hkinds htree
      have hnew : c ∈ d.childrenOf p ↔ r.parent = some p := by
        rw [← parentOf_eq hr]
        exact h.wf.mem_childrenOf
      exact ⟨hlist ▸ inPlaceOf_of_index (hnodup p) hnew hi, hmoved⟩

/-- Three comments under the document: the last one is put before the second, and the first one in
the place of the last. -/
theorem move_changes_links_only_of_siblings :
    let node (slot : ℕ) : NodeId := ⟨⟨1⟩, slot⟩
    let comment (data : String) : NodeRecord := ⟨some (node 0), [], .comment data⟩
    let arena (list : List NodeId) (last : NodeRecord) : Arena := ⟨⟨1⟩,
      [⟨none, list, .document⟩, comment "a", comment "b", last]⟩
    let d := arena [node 1, node 2, node 3] (comment "c")
    (InsertedBefore [node 1, node 2, node 3] [node 1, node 3, node 2] (node 3) (some (node 2)) ∧
      Moved d (arena [node 1, node 3, node 2] (comment "c")) (node 0) (node 3) none) ∧
    InPlaceOf [node 1, node 2, node 3] [node 2, node 1] (node 1) (node 3) ∧
      Moved d (arena [node 2, node 1] ⟨none, [], .comment "c"⟩) (node 0) (node 1)
        (some (node 3)) := by
  have h : Reachable _ := ⟨⟨1⟩, [.createComment "a", .createComment "b", .createComment "c",
    .appendChild ⟨⟨1⟩, 0⟩ ⟨⟨1⟩, 1⟩, .appendChild ⟨⟨1⟩, 0⟩ ⟨⟨1⟩, 2⟩,
    .appendChild ⟨⟨1⟩, 0⟩ ⟨⟨1⟩, 3⟩], List.getLast_mem (List.cons_ne_nil _ _)⟩
  exact ⟨(move_changes_links_only h).1 ⟨⟨1⟩, 0⟩ ⟨⟨1⟩, 3⟩ (some ⟨⟨1⟩, 2⟩) _ rfl,
    (move_changes_links_only h).2 ⟨⟨1⟩, 0⟩ ⟨⟨1⟩, 1⟩ ⟨⟨1⟩, 3⟩ _ rfl⟩

end moves

end WildBuzzard.Dom
