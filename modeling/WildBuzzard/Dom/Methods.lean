import WildBuzzard.Dom.Forest

/-!
# What a method can do to a document

One specification for every mutating method. From a well-formed document a method returns a
well-formed document that is the same or **has a higher revision** (`Document.Advance`), whether it
returns a value or an error; the only way it does not return is that the revisions are exhausted
(`Keeps`). Methods of the shape of `Mutation.run` leave the document alone when they fail
(`Atomic`); so does `detach`. `appendText` does not: `appendText_changes_iff` says when.
-/

namespace WildBuzzard.Dom

open Lib Mutation Arena NodeKind Outcome Option

/-- `d'` is `d`, or a state of the same document with a higher revision. -/
def Document.Advance (d d' : Document) : Prop := d' = d ∨ d'.id = d.id ∧ d.revision < d'.revision

namespace Document

variable {d d' d'' : Document}

@[refl] lemma Advance.refl (d : Document) : d.Advance d := Or.inl rfl

lemma Advance.trans (h : d.Advance d') (h' : d'.Advance d'') : d.Advance d'' := by
  rcases h with rfl | ⟨hid, hlt⟩
  · exact h'
  · rcases h' with rfl | ⟨hid', hlt'⟩
    · exact Or.inr ⟨hid, hlt⟩
    · exact Or.inr ⟨hid'.trans hid, Nat.lt_trans hlt hlt'⟩

lemma Advance.revision_le (h : d.Advance d') : d.revision ≤ d'.revision := by
  rcases h with rfl | ⟨-, hlt⟩
  · exact le_rfl
  · exact Nat.le_of_lt hlt

/-- States of one run with the same revision are the same. -/
lemma Advance.eq_of_revision (h : d.Advance d') (hr : d'.revision = d.revision) : d' = d := by
  rcases h with rfl | ⟨-, hlt⟩
  · rfl
  · omega

end Document

section keeps

variable {ε α β : Type}

/-- From a well-formed document, a call leaves a well-formed document that has not gone back. -/
def Keeps (c : Call Document ε α) : Prop :=
  ∀ d, d.Wf → (c d).Sat (fun _ d' => d'.Wf ∧ d.Advance d') (fun _ d' => d'.Wf ∧ d.Advance d')
    (· = revisionExhausted)

/-- A call that returns an error has changed nothing. -/
def Atomic (c : Call Document ε α) : Prop := ∀ d e d', c d = .err e d' → d' = d

lemma Keeps.pure (a : α) : Keeps (pure a : Call Document ε α) :=
  fun d h => ⟨h, Document.Advance.refl d⟩

lemma Keeps.query (f : Document → Except ε α) : Keeps (Call.query f) :=
  fun d h => Call.sat_query.mpr
    ⟨fun _ _ => ⟨h, Document.Advance.refl d⟩, fun _ _ => ⟨h, Document.Advance.refl d⟩⟩

lemma Keeps.bind {c : Call Document ε α} {f : α → Call Document ε β} (hc : Keeps c)
    (hf : ∀ a, Keeps (f a)) : Keeps (c >>= f) := by
  intro d h
  rw [Call.sat_bind]
  refine (hc d h).imp₂ ?_ (fun _ _ he => he)
  intro a d' hd'
  refine (hf a d' hd'.1).imp₂ ?_ ?_
  · exact fun _ _ hs => ⟨hs.1, hd'.2.trans hs.2⟩
  · exact fun _ _ hs => ⟨hs.1, hd'.2.trans hs.2⟩

end keeps

/-! ## Methods of the mutation shape -/

namespace Mutation

variable {α : Type} {m : Mutation α} {d : Document}

/-- A method of this shape leaves the document as it is, or writes new records and counts one. -/
lemma run_sat (m : Mutation α) (d : Document) :
    (m.run d).Sat
      (fun v d' => m d.toArena = .error (.done v) ∧ d' = d ∨
        ∃ nodes, m d.toArena = .ok (v, nodes) ∧ d.revision < revisionMax ∧
          d' = { d with nodes, revision := d.revision + 1 })
      (fun e d' => m d.toArena = .error (.fail e) ∧ d' = d)
      (fun r => m d.toArena = .error .loop ∨ r = revisionExhausted ∧ revisionMax ≤ d.revision) := by
  unfold run
  split
  · rename_i e he
    exact ⟨he, rfl⟩
  · rename_i v hv
    exact Or.inl ⟨hv, rfl⟩
  · rename_i hl
    exact Or.inl hl
  · rename_i v nodes hok
    unfold Document.commit
    split_ifs with hrev
    · exact Or.inr ⟨nodes, hok, hrev, rfl⟩
    · exact Or.inr ⟨rfl, Nat.not_lt.mp hrev⟩

lemma run_atomic (m : Mutation α) : Atomic m.run := by
  intro d e d' h
  exact ((m.run_sat d).of_err h).2

/-- From a well-formed document, a mutator that refines the tree changes leaves one. -/
lemma Refines.run_wf (hm : m.Refines) (h : d.Wf) {v : α} {d' : Document}
    (hok : m.run d = .ok v d') : d'.Wf := by
  rcases (m.run_sat d).of_ok hok with ⟨-, rfl⟩ | ⟨nodes, hnodes, -, rfl⟩
  · exact h
  · exact (hm.steps h hnodes).wf h

lemma Refines.keeps (hm : m.Refines) : Keeps m.run := by
  intro d h
  have hsat := m.run_sat d
  rcases hrun : m.run d with ⟨v, d'⟩ | ⟨e, d'⟩ | r
  · refine ⟨hm.run_wf h hrun, ?_⟩
    rcases hsat.of_ok hrun with ⟨-, rfl⟩ | ⟨nodes, -, -, rfl⟩
    · exact Document.Advance.refl _
    · exact Or.inr ⟨rfl, Nat.lt_succ_self _⟩
  · obtain ⟨-, rfl⟩ := hsat.of_err hrun
    exact ⟨h, Document.Advance.refl _⟩
  · rcases hsat.of_halt hrun with hloop | ⟨hr, -⟩
    · exact absurd hloop (hm.returns h)
    · exact hr

end Mutation

/-! ## The two methods made of others -/

namespace Document

lemma detach_keeps (node : NodeId) : Keeps (detach node) := by
  refine .bind (.query _) ?_
  intro parent
  cases parent with
  | none => exact .pure _
  | some parent => exact .bind (removeChild_refines parent node).keeps fun _ => .pure _

lemma lastTextChild_keeps (parent : NodeId) : Keeps (lastTextChild parent) := by
  refine .bind (.query _) ?_
  intro last
  cases last with
  | none => exact .pure _
  | some node => exact .bind (.query _) fun _ => .pure _

lemma appendText_keeps (parent : NodeId) (data : String) : Keeps (appendText parent data) := by
  refine .bind (.query _) fun _ => .bind (lastTextChild_keeps parent) ?_
  intro last
  cases last with
  | some last =>
    exact .bind (appendCharacterData_writesKind last data).refines.keeps fun _ => .pure _
  | none =>
    refine .bind (createText_refines data).keeps fun text => ?_
    exact .bind (insertBefore_refines parent text none).keeps fun _ => .pure _

lemma detach_atomic (node : NodeId) : Atomic (detach node) := by
  intro d e d' h
  unfold detach at h
  rcases hp : d.parent node with e' | _ | parent
  · simp [Call.query, hp, andThen] at h
    exact h.2.symm
  · simp [Call.query, hp, andThen] at h
  · rcases hr : removeChild parent node d with ⟨v, d₁⟩ | ⟨e₁, d₁⟩ | r
    · simp [Call.query, hp, andThen, hr] at h
    · simp [Call.query, hp, andThen, hr] at h
      obtain ⟨-, rfl⟩ := h
      exact run_atomic _ _ _ _ hr
    · simp [Call.query, hp, andThen, hr] at h

/-! ### `append_text` fails after it has allocated -/

/-- The document after `create_text`, where there is room for it. -/
def withText (d : Document) (data : String) : Document :=
  { d with nodes := d.nodes ++ [⟨none, [], .text data⟩], revision := d.revision + 1 }

variable {d : Document}

lemma createText_eq (data : String) (hroom : d.nodes.length < slotLimit)
    (hrev : d.revision < revisionMax) :
    createText data d = .ok (d.handle d.nodes.length) (d.withText data) := by
  simp only [createText, run, Mutation.createText, allocate, require_bind, hroom,
    if_true, commit, hrev]
  rfl

/-- The last child of a node that is not an element is never a text. -/
lemma lastTextChild_of_not_element (h : d.Wf) {p : NodeId} {k : NodeKind}
    (hk : d.kindOf p = some k) (hne : k.isElement = false) : lastTextChild p d = .ok none d := by
  have hp : (d.tagOf p).isSome := by simp [tagOf, hk]
  have hlast : d.lastChild p = .ok (d.childrenOf p).getLast? := by
    simp [lastChild, children_eq_ok hp, Except.map]
  simp only [lastTextChild, Call.bind_apply, Call.query, hlast, andThen]
  rcases hl : (d.childrenOf p).getLast? with _ | c
  · rfl
  · have hmem : c ∈ d.childrenOf p := List.mem_of_getLast? hl
    have htag : d.tagOf p = some k.tag := by simp [tagOf, hk]
    have hallowed := Tree.Wf.allowed h p
    -- only the document is left: a node with children that is not an element
    have hdoc : k.tag = .document := by
      rcases hallowed.tag_of_mem hmem with h' | h'
      · rw [show d.tree.tag p = d.tagOf p from rfl, htag] at h'
        exact some.inj h'
      · rw [show d.tree.tag p = d.tagOf p from rfl, htag] at h'
        cases k <;> simp_all [tag, isElement]
    rw [show d.tree.tag p = d.tagOf p from rfl, htag, hdoc] at hallowed
    have hc : d.tagOf c = some .comment ∨ d.tagOf c = some .documentType ∨
        d.tagOf c = some .element := hallowed.1 c hmem
    obtain ⟨r, hr⟩ := tagOf_isSome.mp
      (show (d.tagOf c).isSome by rcases hc with hc | hc | hc <;> simp [hc])
    have hkind : d.nodeKind c = .ok r.kind := by
      rw [d.nodeKind_eq_ok]
      simp [kindOf, hr]
    have hnot : r.kind.isText = false := by
      rw [tagOf_eq hr] at hc
      cases hrk : r.kind <;> simp_all [tag, isText]
    simp only [Call.bind_apply, Call.query, hkind, andThen, hnot]
    rfl

/-- Looking for the last text child changes nothing. -/
lemma lastTextChild_sat (p : NodeId) (d : Document) :
    (lastTextChild p d).Ends (fun _ d' => d' = d) (fun _ d' => d' = d) := by
  refine Call.sat_bind.mpr (Call.sat_query.mpr ⟨?_, fun _ _ => rfl⟩)
  intro last _
  cases last with
  | none => rfl
  | some node => exact Call.sat_bind.mpr (Call.sat_query.mpr ⟨fun _ _ => rfl, fun _ _ => rfl⟩)

section withText

variable {d : Document} (h : d.Wf) (data : String)

include h

variable {p : NodeId}

lemma withText_tree : (d.withText data).tree = d.tree.create (d.handle d.nodes.length) .text :=
  tree_push h (.text data)

lemma withText_wf : (d.withText data).Wf := by
  have hstep : Tree.Step d.documentNode d.tree (d.withText data).tree := by
    rw [withText_tree h]
    exact .create d.tagOf_next (by simp)
  exact hstep.wf h

lemma withText_tagOf_text : (d.withText data).tagOf (d.handle d.nodes.length) = some .text := by
  rw [show (d.withText data).tagOf = _ from congrArg Tree.tag (withText_tree h data)]
  exact Function.update_self ..

lemma withText_tagOf (hp : (d.tagOf p).isSome) : (d.withText data).tagOf p = d.tagOf p := by
  rw [show (d.withText data).tagOf = _ from congrArg Tree.tag (withText_tree h data)]
  refine Function.update_of_ne ?_ _ _
  rintro rfl
  rw [d.tagOf_next] at hp
  cases hp

lemma withText_childrenOf : (d.withText data).childrenOf = d.childrenOf :=
  congrArg Tree.children (withText_tree h data)

/-- The new text can be appended to an element. -/
lemma appendChild_text_of_element (hp : d.tagOf p = some .element) :
    ∃ nodes, Mutation.appendChild p (d.handle d.nodes.length) (d.withText data).toArena =
      .ok ((), nodes) := by
  have hwf := withText_wf h data
  have htext := withText_tagOf_text h data
  have hp' : (d.withText data).tagOf p = some .element :=
    (withText_tagOf h data (isSome_of_eq_some hp)).trans hp
  have hloose : (d.withText data).parentOf (d.handle d.nodes.length) = none := by
    rw [show (d.withText data).parentOf = d.parentOf from
      congrArg Tree.parent (withText_tree h data)]
    exact Tree.Wf.parent_eq_none (t := d.tree) h d.tagOf_next
  have hleaf : (d.withText data).childrenOf (d.handle d.nodes.length) = [] := by
    rw [withText_childrenOf h data]
    exact Tree.Wf.children_eq_nil (t := d.tree) h d.tagOf_next
  have hroot : d.handle d.nodes.length ≠ (d.withText data).documentNode := by
    intro heq
    rw [heq, show (d.withText data).tagOf _ = _ from Tree.Wf.root_tag hwf] at htext
    simp at htext
  have hne : p ≠ d.handle d.nodes.length := by
    rintro rfl
    rw [htext] at hp'
    simp at hp'
  have hallowed : Tree.Allowed (d.withText data).tagOf ((d.withText data).tagOf p)
      ((d.withText data).childrenOf p ++ [d.handle d.nodes.length]) := by
    have hbefore := Tree.Wf.allowed hwf p
    rw [show (d.withText data).tree.tag p = _ from hp'] at hbefore
    rw [hp']
    intro c hc
    rcases List.mem_append.mp hc with hc | hc
    · exact hbefore c hc
    · rw [List.mem_singleton.mp hc, htext]
      simp
  obtain ⟨nodes, hok, -⟩ := appendChild_leaf hwf (isSome_of_eq_some htext) hloose
    hleaf hroot hne (.inr hp') hallowed
  exact ⟨nodes, hok⟩

/-- The new text cannot be appended to anything but an element. -/
lemma appendChild_text_of_not_element (hp : (d.tagOf p).isSome)
    (hne : d.tagOf p ≠ some .element) :
    ∃ e, appendChild p (d.handle d.nodes.length) (d.withText data) = .err e (d.withText data) := by
  have hwf := withText_wf h data
  have htext := withText_tagOf_text h data
  have hp' := withText_tagOf h data hp
  unfold appendChild run
  rcases hm : Mutation.appendChild p (d.handle d.nodes.length) (d.withText data).toArena with
    (e | v | _) | ⟨v, nodes⟩
  · exact ⟨e, rfl⟩
  · exact absurd hm appendChild_ne_done
  · exact absurd hm ((insertBefore_refines p _ none).returns hwf)
  · -- the new child list would have passed the check of a document
    obtain ⟨hcontainer, hallowed⟩ :=
      validateChildren_eq_ok.mp (validateChildren_of_appendChild hm)
    rw [hp'] at hcontainer hallowed
    rcases hcontainer with hdoc | hel
    · rw [hdoc] at hallowed
      rcases hallowed.1 (d.handle d.nodes.length) (by simp) with hc | hc | hc <;>
        rw [htext] at hc <;> cases hc
    · exact absurd hel hne

end withText

/-- Inversion of `create_text`. -/
lemma createText_eq_ok {d d' : Document} {data : String} {v : NodeId}
    (hok : createText data d = .ok v d') :
    d.nodes.length < slotLimit ∧ d.revision < revisionMax ∧ v = d.handle d.nodes.length ∧
      d' = d.withText data := by
  rcases ((Mutation.createText data).run_sat d).of_ok hok with ⟨hdone, -⟩ | ⟨nodes, hm, hrev, rfl⟩
  · simp [Mutation.createText, allocate, bind_eq_error] at hdone
  · simp only [Mutation.createText, allocate, bind_eq_ok, require_eq_ok, Except.ok.injEq,
      Prod.mk.injEq] at hm
    obtain ⟨_, hroom, rfl, rfl⟩ := hm
    exact ⟨hroom, hrev, rfl, rfl⟩

/-- **When `append_text` fails it has changed nothing, unless the parent is a node that takes no
text**: then the text node has been allocated before the failure. -/
theorem appendText_changes_iff (h : d.Wf) (p : NodeId) (data : String) :
    (∃ e d', appendText p data d = .err e d' ∧ d' ≠ d) ↔
      (∃ k, d.kindOf p = some k ∧ k.isElement = false) ∧ d.nodes.length < slotLimit ∧
        d.revision < revisionMax := by
  constructor
  · rintro ⟨e, d', herr, hne⟩
    by_contra hcond
    have hsat : (appendText p data d).Sat (fun _ _ => True) (fun _ d' => d' = d)
        (fun _ => True) := by
      refine Call.sat_bind.mpr (Call.sat_query.mpr ⟨?_, fun _ _ => rfl⟩)
      intro i hi
      have hp : (d.tagOf p).isSome :=
        tagOf_isSome.mpr (isSome_iff_exists.mp (d.checkedIndex_eq_ok.mp hi).2)
      refine Call.sat_bind.mpr ((lastTextChild_sat p d).mono ?_ (fun _ _ he => he) (by simp))
      intro last d₀ hd₀
      rw [hd₀]
      cases last with
      | some last =>
        refine Call.sat_bind.mpr ?_
        rcases hr : appendCharacterData last data d with ⟨v, d₁⟩ | ⟨e₁, d₁⟩ | r
        · trivial
        · exact run_atomic _ _ _ _ hr
        · trivial
      | none =>
        refine Call.sat_bind.mpr ?_
        rcases hr : createText data d with ⟨text, d₁⟩ | ⟨e₁, d₁⟩ | r
        · -- the text is there: only an element takes it
          obtain ⟨hroom, hrev, rfl, rfl⟩ := createText_eq_ok hr
          have hel : d.tagOf p = some .element := by
            obtain ⟨r, hr⟩ := tagOf_isSome.mp hp
            by_contra hnot
            refine hcond ⟨⟨r.kind, by simp [kindOf, hr], ?_⟩, hroom, hrev⟩
            rw [tagOf_eq hr] at hnot
            cases hk : r.kind <;> simp_all [tag, isElement]
          obtain ⟨nodes, hok⟩ := appendChild_text_of_element h data hel
          refine Call.sat_bind.mpr ?_
          simp only [appendChild, run, hok, commit]
          split_ifs <;> trivial
        · exact run_atomic _ _ _ _ hr
        · trivial
    exact hne (hsat.of_err herr)
  · rintro ⟨⟨k, hk, hne⟩, hroom, hrev⟩
    have htag : d.tagOf p = some k.tag := by simp [tagOf, hk]
    have hp : (d.tagOf p).isSome := isSome_of_eq_some htag
    have hnot : d.tagOf p ≠ some .element := by
      cases k <;> simp_all [tag, isElement]
    obtain ⟨e, he⟩ := appendChild_text_of_not_element h data hp hnot
    refine ⟨e, d.withText data, ?_, ?_⟩
    · simp only [appendText, Call.bind_apply, Call.query, checkedIndex_of_tagOf hp,
        andThen, lastTextChild_of_not_element h hk hne, createText_eq data hroom hrev, he]
    · intro heq
      have := congrArg Document.revision heq
      simp [withText] at this

end Document

end WildBuzzard.Dom
