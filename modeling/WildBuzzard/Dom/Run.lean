import WildBuzzard.Dom.Batch

/-!
# Runs of a document

A document is created and then changed by its public operations (`DomOp`), one after another, with
any arguments and whether they succeed or fail. The results here hold along every such run.

* `forest_of_run`: **every state is a forest** with the shape a document must have, passes its own
  validation, and has a snapshot; the only way an operation does not return is that the revisions
  are exhausted.
* `reads_in_preorder`: document order, snapshots, text content and queries by name are **the tree in
  pre-order**.
* `version_identifies_state`: a revision never goes back and grows with every change, so states with
  the same version are the same.
* `err_unchanged_iff`: an operation that fails has changed nothing, with the exception of
  `append_text` under a node that takes no text.
* `batch_equals_direct_run`: a batch changes the document as its commands do one after another, with
  one revision, or not at all.
-/

namespace WildBuzzard.Dom

open Lib Document Mutation Dom.Tree Option Wf

/-! ## Operations and runs -/

/-- The public operations that change a document. -/
inductive DomOp where
  | createElement (name : QualifiedName)
  | createHtmlElement (localName : String)
  | createText (data : String)
  | createComment (data : String)
  | createDoctype (name publicId systemId : String)
  | appendChild (parent child : NodeId)
  | insertBefore (parent child : NodeId) (reference : Option NodeId)
  | replaceChild (parent newChild oldChild : NodeId)
  | removeChild (parent child : NodeId)
  | detach (node : NodeId)
  | setAttribute (element : NodeId) (name : AttributeName) (value : String)
  | setHtmlAttribute (element : NodeId) (localName value : String)
  | removeAttribute (element : NodeId) (ns : Option String) (localName : String)
  | appendCharacterData (node : NodeId) (suffix : String)
  | setCharacterData (node : NodeId) (data : String)
  | appendText (parent : NodeId) (data : String)
  | applyScriptMutations (batch : ScriptMutationBatch) (limits : ScriptMutationLimits)

/-- The errors of the operations. -/
inductive OpError where
  | dom (error : DomError)
  | script (error : ScriptMutationError)
  deriving DecidableEq, Repr

/-- A call, for what it does to the document. -/
def effect {ε α : Type} (wrap : ε → OpError) (c : Call Document ε α) : Call Document OpError Unit :=
  fun d => (c d).trimap (fun _ => ()) wrap id

/-- What an operation does. -/
def DomOp.call : DomOp → Call Document OpError Unit
  | .createElement name => effect .dom (Document.createElement name)
  | .createHtmlElement localName => effect .dom (Document.createHtmlElement localName)
  | .createText data => effect .dom (Document.createText data)
  | .createComment data => effect .dom (Document.createComment data)
  | .createDoctype name publicId systemId =>
    effect .dom (Document.createDoctype name publicId systemId)
  | .appendChild parent child => effect .dom (Document.appendChild parent child)
  | .insertBefore parent child reference =>
    effect .dom (Document.insertBefore parent child reference)
  | .replaceChild parent newChild oldChild =>
    effect .dom (Document.replaceChild parent newChild oldChild)
  | .removeChild parent child => effect .dom (Document.removeChild parent child)
  | .detach node => effect .dom (Document.detach node)
  | .setAttribute element name value => effect .dom (Document.setAttribute element name value)
  | .setHtmlAttribute element localName value =>
    effect .dom (Document.setHtmlAttribute element localName value)
  | .removeAttribute element ns localName =>
    effect .dom (Document.removeAttribute element ns localName)
  | .appendCharacterData node suffix => effect .dom (Document.appendCharacterData node suffix)
  | .setCharacterData node data => effect .dom (Document.setCharacterData node data)
  | .appendText parent data => effect .dom (Document.appendText parent data)
  | .applyScriptMutations batch limits =>
    effect .script (Document.applyScriptMutations batch limits)

/-- The states of a run, the first and the last included. An operation that fails is followed by the
next one, on the state it left; one that does not return ends the run. -/
def states : Document → List DomOp → List Document
  | d, [] => [d]
  | d, op :: ops =>
    match (op.call d).state? with
    | some d' => d :: states d' ops
    | none => [d]

/-- The states a document can get into. -/
def Reachable (d : Document) : Prop := ∃ id ops, d ∈ states (Document.new id) ops

/-! ## What every operation keeps -/

section effect

variable {ε α : Type} {wrap : ε → OpError} {c : Call Document ε α}

lemma effect_keeps (hc : Keeps c) : Keeps (effect wrap c) := by
  intro d h
  have := hc d h
  unfold effect
  cases hcd : c d <;> rw [hcd] at this <;> exact this

lemma effect_atomic (hc : Atomic c) : Atomic (effect wrap c) := by
  intro d e d' h
  unfold effect at h
  rcases hcd : c d with ⟨v, d₁⟩ | ⟨e₁, d₁⟩ | r <;> rw [hcd] at h <;> cases h
  exact hc d e₁ _ hcd

end effect

/-- **Every operation keeps the document well-formed and does not take it back.** -/
theorem DomOp.call_keeps (op : DomOp) : Keeps op.call := by
  cases op with
  | createElement name => exact effect_keeps (createElement_refines _).keeps
  | createHtmlElement localName => exact effect_keeps (createHtmlElement_refines _).keeps
  | createText data => exact effect_keeps (createText_refines _).keeps
  | createComment data => exact effect_keeps (createComment_refines _).keeps
  | createDoctype name publicId systemId =>
    exact effect_keeps (createDoctype_refines _ _ _).keeps
  | appendChild parent child => exact effect_keeps (insertBefore_refines _ _ _).keeps
  | insertBefore parent child reference =>
    exact effect_keeps (insertBefore_refines _ _ _).keeps
  | replaceChild parent newChild oldChild =>
    exact effect_keeps (replaceChild_refines _ _ _).keeps
  | removeChild parent child => exact effect_keeps (removeChild_refines _ _).keeps
  | detach node => exact effect_keeps (detach_keeps node)
  | setAttribute element name value =>
    exact effect_keeps (setAttribute_writesKind _ _ _).refines.keeps
  | setHtmlAttribute element localName value =>
    exact effect_keeps (setAttribute_writesKind _ _ _).refines.keeps
  | removeAttribute element ns localName =>
    exact effect_keeps (removeAttribute_writesKind _ _ _).refines.keeps
  | appendCharacterData node suffix =>
    exact effect_keeps (appendCharacterData_writesKind _ _).refines.keeps
  | setCharacterData node data =>
    exact effect_keeps (setCharacterData_writesKind _ _).refines.keeps
  | appendText parent data => exact effect_keeps (appendText_keeps parent data)
  | applyScriptMutations batch limits =>
    exact effect_keeps (applyScriptMutations_keeps batch limits)

/-- One operation of a run. -/
lemma DomOp.state?_keeps {op : DomOp} {d d' : Document} (h : d.Wf)
    (hs : (op.call d).state? = some d') : d'.Wf ∧ d.Advance d' := by
  have := op.call_keeps d h
  rcases hop : op.call d with ⟨v, d₁⟩ | ⟨e, d₁⟩ | r <;> rw [hop] at this hs <;> cases hs
  · exact this
  · exact this

/-- A whole run: its states are well-formed, and each is later than those before it. -/
lemma states_keeps {d : Document} (h : d.Wf) (ops : List DomOp) :
    (∀ d' ∈ states d ops, d'.Wf ∧ d.Advance d') ∧ (states d ops).Pairwise Advance := by
  induction ops generalizing d with
  | nil => simp [states, h, Advance.refl]
  | cons op ops ih =>
    simp only [states]
    split
    · rename_i d' hs
      obtain ⟨hwf, hadv⟩ := DomOp.state?_keeps h hs
      obtain ⟨hall, hpair⟩ := ih hwf
      have hlater : ∀ x ∈ states d' ops, x.Wf ∧ d.Advance x :=
        fun x hx => ⟨(hall x hx).1, hadv.trans (hall x hx).2⟩
      refine ⟨?_, List.pairwise_cons.mpr ⟨fun x hx => (hlater x hx).2, hpair⟩⟩
      intro x hx
      rcases List.mem_cons.mp hx with rfl | hx
      · exact ⟨h, Advance.refl _⟩
      · exact hlater x hx
    · simp [h, Advance.refl]

/-- The document a run starts from. -/
lemma Document.new_wf (id : DocumentId) : (new id).Wf := by
  have hrecord : ∀ x, (new id).record? x =
      if x = ⟨id, 0⟩ then some ⟨none, [], .document⟩ else none := by
    rintro ⟨doc, slot⟩
    by_cases hd : doc = id
    · cases slot <;> simp [Arena.record?, new, hd]
    · simp [Arena.record?, new, hd]
  have hparent : ∀ x, (new id).parentOf x = none := by
    intro x
    by_cases hx : x = ⟨id, 0⟩ <;> simp [Arena.parentOf, hrecord, hx]
  have hchildren : ∀ x, (new id).childrenOf x = [] := by
    intro x
    by_cases hx : x = ⟨id, 0⟩ <;> simp [Arena.childrenOf, hrecord, hx]
  have htag : ∀ x, (new id).tagOf x = if x = ⟨id, 0⟩ then some .document else none := by
    intro x
    by_cases hx : x = ⟨id, 0⟩ <;> simp [Arena.tagOf, Arena.kindOf, hrecord, hx, NodeKind.tag]
  refine ⟨⟨?_, ?_, ?_⟩, hparent _, ?_, ?_, ?_, ?_⟩
  · intro p c
    simp [Arena.tree, hchildren, hparent]
  · intro p
    simp [Arena.tree, hchildren]
  · intro x hx
    rcases Relation.TransGen.head'_iff.mp hx with ⟨y, hy, -⟩
    simp [ParentEdge, Arena.tree, hparent] at hy
  · exact (htag _).trans (if_pos rfl)
  · intro x hx
    simp only [Arena.tree, htag] at hx
    split_ifs at hx with heq
    exact heq
  · intro x p hx
    simp [Arena.tree, hparent] at hx
  · intro p
    simp only [Arena.tree, htag, hchildren]
    split_ifs <;> simp [Allowed, DocumentChildren]

lemma Reachable.wf {d : Document} (h : Reachable d) : d.Wf := by
  obtain ⟨id, ops, hmem⟩ := h
  exact ((states_keeps (new_wf id) ops).1 d hmem).1

/-! ## Every state is a forest -/

/-- The arena is a forest of the shape a document has, in terms of its records. -/
structure Arena.IsForest (a : Arena) : Prop where
  /-- Every entry of a child list has that node as its parent. -/
  parent_of_child : ∀ {p c}, c ∈ a.childrenOf p → a.parentOf c = some p
  /-- Every parent link is mirrored by one entry of that parent's child list. -/
  count_of_parent : ∀ {p c}, a.parentOf c = some p → (a.childrenOf p).count c = 1
  /-- No node is in two child lists. -/
  parent_unique : ∀ {p q c}, c ∈ a.childrenOf p → c ∈ a.childrenOf q → p = q
  /-- No node is twice in one. -/
  nodup : ∀ p, (a.childrenOf p).Nodup
  acyclic : ∀ x, ¬Relation.TransGen (fun x y => a.parentOf x = some y) x x
  /-- The handles in links are handles of the arena. -/
  known : ∀ {p c}, a.parentOf c = some p → (a.record? c).isSome ∧ (a.record? p).isSome
  container : ∀ {p k}, a.kindOf p = some k → a.childrenOf p ≠ [] → k.isContainer = true
  element_children : ∀ {p c data}, a.kindOf p = some (.element data) → c ∈ a.childrenOf p →
    a.tagOf c ≠ some .document ∧ a.tagOf c ≠ some .documentType
  document_children : ∀ {p}, a.kindOf p = some .document →
    Tree.DocumentChildren a.tagOf (a.childrenOf p)

lemma Arena.Wf.isForest {a : Arena} (h : a.Wf) : a.IsForest where
  parent_of_child := h.mem_childrenOf.mp
  count_of_parent hp := List.count_eq_one_of_mem ((forest h).nodup _)
    (h.mem_childrenOf.mpr hp)
  parent_unique hp hq := by
    rw [h.mem_childrenOf] at hp hq
    exact some.inj (hp.symm.trans hq)
  nodup := (forest h).nodup
  acyclic := (forest h).acyclic
  known hp := by
    have hc := tag_of_parent (t := a.tree) h hp
    exact ⟨isSome_iff_exists.mpr (tagOf_isSome.mp hc),
      isSome_iff_exists.mpr (tagOf_isSome.mp (h.tagOf_parent hp))⟩
  container := by
    intro p k hk hne
    obtain ⟨c, hc⟩ := List.exists_mem_of_ne_nil _ hne
    have hcontainer := container_of_parent (t := a.tree) h (h.mem_childrenOf.mp hc)
    rw [show a.tree.tag p = some k.tag by simp [tree, tagOf, hk], some.injEq,
      some.injEq] at hcontainer
    exact k.isContainer_iff.mpr hcontainer
  element_children := by
    intro p c data hk hc
    have hallowed := allowed h p
    rw [show a.tree.tag p = some .element by simp [tree, tagOf, hk, NodeKind.tag]] at hallowed
    exact hallowed c hc
  document_children := by
    intro p hk
    have hallowed := allowed h p
    rwa [show a.tree.tag p = some .document by simp [tree, tagOf, hk, NodeKind.tag]] at hallowed

/-- **Every state of every run is a forest, passes validation and has a snapshot**; an operation
that does not return has exhausted the revisions. -/
theorem forest_of_run (id : DocumentId) (ops : List DomOp) :
    ∀ d ∈ states (Document.new id) ops,
      d.IsForest ∧ d.validateInvariants = some (.ok ()) ∧ (∃ s, d.snapshot = some (.ok s)) ∧
        ∀ op r, DomOp.call op d = .halt r → r = revisionExhausted := by
  intro d hd
  have hwf : d.Wf := ((states_keeps (Document.new_wf id) ops).1 d hd).1
  obtain ⟨s, hs, -⟩ := Document.exists_snapshot hwf
  refine ⟨hwf.isForest, Arena.validateInvariants_eq hwf, ⟨s, hs⟩, ?_⟩
  intro op r hr
  exact (op.call_keeps d hwf).of_halt hr

/-- A run with a failed operation: the text that `append_text` leaves behind is a root of its own. -/
theorem forest_of_run_with_failure :
    let d : Document := ⟨⟨⟨1⟩, [⟨none, [⟨⟨1⟩, 1⟩], .document⟩,
      ⟨some ⟨⟨1⟩, 0⟩, [], .element ⟨⟨.html, none, "html"⟩, []⟩⟩, ⟨none, [], .text "x"⟩]⟩, 3⟩
    d.IsForest ∧ d.validateInvariants = some (.ok ()) ∧ (∃ s, d.snapshot = some (.ok s)) ∧
      ∀ op r, DomOp.call op d = .halt r → r = revisionExhausted :=
  forest_of_run ⟨1⟩ [.createHtmlElement "HTML", .appendChild ⟨⟨1⟩, 0⟩ ⟨⟨1⟩, 1⟩,
    .appendText ⟨⟨1⟩, 0⟩ "x"] _ (by decide)

/-! ## Reading -/

/-- **What is read of a document is its tree in pre-order**: `document_order` returns the nodes
below the document, each once, a snapshot shows just these as the arena has them, and the text
content of an element is that of the text nodes below it. -/
theorem reads_in_preorder {d : Document} (h : Reachable d) :
    ∃ order s, d.documentOrder = some (.ok order) ∧
      InPreorder d.childrenOf [d.documentNode] order ∧ order.Nodup ∧
      (∀ x, x ∈ order ↔ AncestorOrSelf d.parentOf x d.documentNode) ∧
      d.snapshot = some (.ok s) ∧ s.nodes.map (·.id) = order ∧ s.Shows d.toArena ∧
      ∀ node data, d.kindOf node = some (.element data) →
        ∃ below, InPreorder d.childrenOf (d.childrenOf node) below ∧
          d.textContent node = some (.ok (some (d.texts below))) := by
  obtain ⟨order, ho, hpre, hnodup, hmem⟩ := Arena.exists_documentOrder h.wf
  obtain ⟨s, hs, -, -, hshows⟩ := Document.exists_snapshot h.wf
  refine ⟨order, s, ho, hpre, hnodup, hmem, hs, ?_, hshows, ?_⟩
  · simpa [ho, eq_comm] using hshows.order
  · intro node data hk
    exact Arena.textContent_element h.wf hk

/-- An element with a text and a comment, appended to the document. -/
theorem reads_in_preorder_of_paragraph :
    let d : Document := ⟨⟨⟨1⟩, [⟨none, [⟨⟨1⟩, 1⟩], .document⟩,
      ⟨some ⟨⟨1⟩, 0⟩, [⟨⟨1⟩, 2⟩, ⟨⟨1⟩, 3⟩], .element ⟨⟨.html, none, "p"⟩, []⟩⟩,
      ⟨some ⟨⟨1⟩, 1⟩, [], .text "x"⟩, ⟨some ⟨⟨1⟩, 1⟩, [], .comment "y"⟩]⟩, 6⟩
    ∃ below, InPreorder d.childrenOf [⟨⟨1⟩, 2⟩, ⟨⟨1⟩, 3⟩] below ∧
      d.textContent ⟨⟨1⟩, 1⟩ = some (.ok (some (d.texts below))) := by
  obtain ⟨order, s, -, -, -, -, -, -, -, htext⟩ := reads_in_preorder ⟨⟨1⟩,
    [.createHtmlElement "P", .appendChild ⟨⟨1⟩, 0⟩ ⟨⟨1⟩, 1⟩, .appendText ⟨⟨1⟩, 1⟩ "x",
      .createComment "y", .appendChild ⟨⟨1⟩, 1⟩ ⟨⟨1⟩, 3⟩], List.getLast_mem (List.cons_ne_nil _ _)⟩
  exact htext ⟨⟨1⟩, 1⟩ _ rfl

/-- **A query by name lists the matching elements of the tree in pre-order**. -/
theorem elementsByTagName_in_preorder {d : Document} (h : Reachable d) (name : String) :
    ∃ order, InPreorder d.childrenOf [d.documentNode] order ∧ order.Nodup ∧
      elementsByTagName name d =
        .ok (order.filter fun x => (d.kindOf x).any (·.hasTagName name)) d := by
  obtain ⟨order, ho, hpre, hnodup, hmem⟩ := Arena.exists_documentOrder h.wf
  have hroot := root_tag h.wf
  have htags : ∀ x ∈ order, (d.tagOf x).isSome := fun x hx =>
    Arena.tagOf_of_below h.wf (isSome_of_eq_some hroot) ((hmem x).mp hx)
  refine ⟨order, hpre, hnodup, ?_⟩
  -- the loop skips the document, which is no element
  obtain ⟨k, hk, hkind⟩ := map_eq_some_iff.mp hroot
  have hdocument : k.hasTagName name = false := by cases k <;> first | rfl | cases hkind
  cases hpre with
  | cons =>
    have hselect := Arena.selectByTagName_eq (List.forall_mem_cons.mp htags).2 name
    simp only [elementsByTagName, ho, Call.query, List.drop_one, List.tail_cons, hselect]
    rw [List.filter_cons_of_neg (by simp [hk, hdocument])]

/-- Two paragraphs are listed in the order of the tree, and one outside it is not. -/
theorem elementsByTagName_in_preorder_of_paragraphs :
    let p : NodeKind := .element ⟨⟨.html, none, "p"⟩, []⟩
    let d : Document := ⟨⟨⟨1⟩, [⟨none, [⟨⟨1⟩, 1⟩], .document⟩,
      ⟨some ⟨⟨1⟩, 0⟩, [⟨⟨1⟩, 3⟩, ⟨⟨1⟩, 2⟩], .element ⟨⟨.html, none, "html"⟩, []⟩⟩,
      ⟨some ⟨⟨1⟩, 1⟩, [], p⟩, ⟨some ⟨⟨1⟩, 1⟩, [], p⟩, ⟨none, [], p⟩]⟩, 7⟩
    ∃ order, InPreorder d.childrenOf [⟨⟨1⟩, 0⟩] order ∧
      order.filter (fun x => (d.kindOf x).any (·.hasTagName "P")) = [⟨⟨1⟩, 3⟩, ⟨⟨1⟩, 2⟩] ∧
      elementsByTagName "P" d = .ok [⟨⟨1⟩, 3⟩, ⟨⟨1⟩, 2⟩] d := by
  intro p d
  have hlisted : elementsByTagName "P" d = .ok [⟨⟨1⟩, 3⟩, ⟨⟨1⟩, 2⟩] d := by decide
  obtain ⟨order, hpre, -, heq⟩ := elementsByTagName_in_preorder (d := d) ⟨⟨1⟩,
    [.createHtmlElement "html", .createHtmlElement "p", .createHtmlElement "p",
      .createHtmlElement "p", .appendChild ⟨⟨1⟩, 0⟩ ⟨⟨1⟩, 1⟩, .appendChild ⟨⟨1⟩, 1⟩ ⟨⟨1⟩, 3⟩,
      .appendChild ⟨⟨1⟩, 1⟩ ⟨⟨1⟩, 2⟩], List.getLast_mem (List.cons_ne_nil _ _)⟩ "P"
  exact ⟨order, hpre, (Outcome.ok.inj (heq.symm.trans hlisted)).1, hlisted⟩

/-! ## Versions -/

/-- **A version identifies one state of a run**: no operation takes the revision back, an operation
that changes the arena raises it, and states of the run with the same version are the same. -/
theorem version_identifies_state (id : DocumentId) (ops : List DomOp) :
    (∀ d ∈ states (Document.new id) ops, ∀ op d', (DomOp.call op d).state? = some d' →
        d.revision ≤ d'.revision ∧ (d'.toArena ≠ d.toArena → d.revision < d'.revision)) ∧
      ∀ d ∈ states (Document.new id) ops, ∀ d' ∈ states (Document.new id) ops,
        d.version = d'.version → d.toArena = d'.toArena := by
  obtain ⟨hwf, hpair⟩ := states_keeps (Document.new_wf id) ops
  refine ⟨?_, ?_⟩
  · intro d hd op d' hs
    have hadv := (DomOp.state?_keeps (hwf d hd).1 hs).2
    refine ⟨hadv.revision_le, ?_⟩
    intro hne
    rcases hadv with rfl | ⟨-, hlt⟩
    · exact absurd rfl hne
    · exact hlt
  · -- two states of a run are comparable, and the later one has the higher revision
    have hsame : ∀ {x y : Document}, x.Advance y → x.version = y.version → x = y := by
      intro x y hadv hv
      exact (hadv.eq_of_revision (congrArg DocumentVersion.revision hv).symm).symm
    intro d hd d' hd' hv
    obtain ⟨i, hi, rfl⟩ := List.getElem_of_mem hd
    obtain ⟨j, hj, rfl⟩ := List.getElem_of_mem hd'
    rcases Nat.lt_trichotomy i j with hlt | rfl | hgt
    · exact congrArg _ (hsame (List.pairwise_iff_getElem.mp hpair i j hi hj hlt) hv)
    · rfl
    · exact congrArg _ (hsame (List.pairwise_iff_getElem.mp hpair j i hj hi hgt) hv.symm).symm

/-! ## Failures -/

/-- Appending text under a node that takes none, with room left for the text node. -/
def DomOp.LeaksText : DomOp → Document → Prop
  | .appendText parent _, d =>
    (∃ k, d.kindOf parent = some k ∧ k.isElement = false) ∧ d.nodes.length < slotLimit ∧
      d.revision < revisionMax
  | _, _ => False

lemma Document.applyScriptMutations_err {d d' : Document} (h : d.Wf)
    {batch : ScriptMutationBatch} {limits : ScriptMutationLimits} {e : OpError}
    (herr : (DomOp.applyScriptMutations batch limits).call d = .err e d') : d' = d := by
  simp only [DomOp.call, effect] at herr
  have hsat := applyScriptMutations_sat h batch limits
  rcases hb : applyScriptMutations batch limits d with ⟨v, d₁⟩ | ⟨e₁, d₁⟩ | r <;>
    rw [hb] at herr <;> cases herr
  exact hsat.of_err hb

/-- **An operation that fails has changed nothing, unless it appends text under a node that takes
none**: `append_text` has then allocated the text node and counted a revision. -/
theorem err_unchanged_iff {d : Document} (h : Reachable d) (op : DomOp) :
    (∀ e d', op.call d = .err e d' → d' = d) ↔ ¬op.LeaksText d := by
  cases op with
  | appendText parent data =>
    have hiff := Document.appendText_changes_iff h.wf parent data
    rw [DomOp.LeaksText, ← hiff]
    constructor
    · rintro hall ⟨e, d', herr, hne⟩
      exact hne (hall (.dom e) d' (by simp [DomOp.call, effect, herr, Outcome.trimap]))
    · intro hnot e d' herr
      by_contra hne
      simp only [DomOp.call, effect] at herr
      rcases hb : Document.appendText parent data d with ⟨v, d₁⟩ | ⟨e₁, d₁⟩ | r <;>
        rw [hb] at herr <;> cases herr
      exact hnot ⟨e₁, _, hb, hne⟩
  | applyScriptMutations batch limits =>
    exact iff_of_true (fun e d' herr => Document.applyScriptMutations_err h.wf herr) id
  | detach node =>
    exact iff_of_true (fun e d' => effect_atomic (Document.detach_atomic node) d e d') id
  | _ => exact iff_of_true (fun e d' => effect_atomic (Mutation.run_atomic _) d e d') id

/-- A text cannot be appended to the document node; the failed call leaves the text behind. -/
theorem appendText_document_leaks :
    Reachable (Document.new ⟨1⟩) ∧
      (DomOp.appendText ⟨⟨1⟩, 0⟩ "x").call (Document.new ⟨1⟩) =
        .err (.dom .hierarchyRequest)
          ⟨⟨⟨1⟩, [⟨none, [], .document⟩, ⟨none, [], .text "x"⟩]⟩, 1⟩ :=
  ⟨⟨⟨1⟩, [], by simp [states]⟩, by decide⟩

/-- A failure that changes nothing: the document node cannot be appended to itself. -/
theorem appendChild_self_unchanged :
    (DomOp.appendChild ⟨⟨1⟩, 0⟩ ⟨⟨1⟩, 0⟩).call (Document.new ⟨1⟩) =
        .err (.dom .hierarchyRequest) (Document.new ⟨1⟩) ∧
      ∀ e d', (DomOp.appendChild ⟨⟨1⟩, 0⟩ ⟨⟨1⟩, 0⟩).call (Document.new ⟨1⟩) = .err e d' →
        d' = Document.new ⟨1⟩ :=
  ⟨by decide,
    (err_unchanged_iff ⟨⟨1⟩, [], by simp [states]⟩ (.appendChild ⟨⟨1⟩, 0⟩ ⟨⟨1⟩, 0⟩)).mpr id⟩

/-! ## Batches -/

/-- **A batch does what its commands do one after another, in one revision, or nothing.** It always
returns. When it succeeds, the same commands run directly on a document with the same arena (the
document itself, in particular) create the same nodes and end with the same arena, unless their
revisions run out; the created nodes are numbered from the first free slot on; the revision is one
more; and the snapshot is the one of the new state. -/
theorem batch_equals_direct_run {d : Document} (h : Reachable d) (batch : ScriptMutationBatch)
    (limits : ScriptMutationLimits) :
    (Document.applyScriptMutations batch limits d).Sat
      (fun commit d' =>
        (∀ start : Document, start.toArena = d.toArena →
          (∃ direct, runDirect batch.commands [] start =
              some (.ok commit.createdNodes direct) ∧ d'.toArena = direct.toArena) ∨
            runDirect batch.commands [] start = some (.halt revisionExhausted) ∧
              revisionMax < start.revision + batch.commands.length) ∧
        d'.revision = d.revision + 1 ∧
        commit.createdNodes = (List.range (batch.commands.countP (·.isCreation))).map
          (fun i => ⟨d.id, d.nodes.length + i⟩) ∧
        d'.snapshot = some (.ok commit.snapshot))
      (fun _ d' => d' = d) (fun _ => False) := by
  refine (applyScriptMutations_sat h.wf batch limits).imp₂ ?_ (fun _ _ he => he)
  rintro commit d' ⟨run, hp⟩
  refine ⟨?_, by rw [hp.document_eq], ?_, hp.snapshot_eq⟩
  · intro start hstart
    rcases applyScriptCommands_direct hp.commands hstart with ⟨direct, hrun, harena⟩ | hhalt
    · refine Or.inl ⟨direct, ?_, ?_⟩
      · rw [hp.created_eq]
        exact hrun
      · rw [hp.document_eq]
        exact harena.symm
    · exact Or.inr hhalt
  · rw [hp.created_eq, hp.inv.created_eq, hp.count]
    rfl

/-- A batch that creates an element and appends it to the document. -/
theorem batch_creates_document_element :
    let batch : ScriptMutationBatch := ⟨⟨⟨1⟩, 0⟩, [.createHtmlElement ⟨0⟩ "MAIN",
      .appendChild (.existing ⟨⟨1⟩, 0⟩) (.created ⟨0⟩)]⟩
    ∃ commit d', Document.applyScriptMutations batch .default (Document.new ⟨1⟩) =
        .ok commit d' ∧ d'.revision = 1 ∧ commit.createdNodes = [⟨⟨1⟩, 1⟩] ∧
          d'.snapshot = some (.ok commit.snapshot) := by
  refine ⟨_, _, rfl, ?_⟩
  obtain ⟨-, hrevision, hcreated, hsnapshot⟩ :=
    batch_equals_direct_run (d := Document.new ⟨1⟩) ⟨⟨1⟩, [], by simp [states]⟩
      ⟨⟨⟨1⟩, 0⟩, [.createHtmlElement ⟨0⟩ "MAIN",
        .appendChild (.existing ⟨⟨1⟩, 0⟩) (.created ⟨0⟩)]⟩ .default
  exact ⟨hrevision, hcreated, hsnapshot⟩

end WildBuzzard.Dom
