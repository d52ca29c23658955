import WildBuzzard.Dom.Methods
import WildBuzzard.Dom.Script

/-!
# A batch is its commands, run one after another

`runDirect` runs the commands of a batch on the document itself, with the public methods: it is what
a batch is meant to do, without private copy, limits or tokens to check. **The private run and the
direct run agree** (`applyScriptCommands_direct`): where the batch goes through, the direct run
creates the same nodes and ends with the same arena, whatever the revision it starts from, unless it
panics because its revisions run out on the way.

The private copy itself never panics (`applyScriptCommands_sat`): it starts at revision zero and a
batch has at most 4096 commands.
-/

namespace WildBuzzard.Dom

open Lib Mutation Option List Document Outcome ScriptMutationCommand

/-! ## The direct run -/

/-- The node an operand stands for, given the nodes created so far. -/
def ScriptNode.resolve (created : List NodeId) : ScriptNode → Option NodeId
  | .existing node => some node
  | .created token => created[token.index]?

/-- A call whose value does not matter. -/
def creatingNothing {α : Type} (c : Call Document DomError α) :
    Call Document DomError (Option NodeId) :=
  (fun _ => none) <$> c

/-- The public method a command stands for, with the node it creates, if any; `none` if an operand
names a node that was not created. -/
def ScriptMutationCommand.direct (created : List NodeId) :
    ScriptMutationCommand → Option (Call Document DomError (Option NodeId))
  | .createHtmlElement _ localName => some (some <$> Document.createHtmlElement localName)
  | .createText _ data => some (some <$> Document.createText data)
  | .appendChild parent child => do
    let parent ← parent.resolve created
    let child ← child.resolve created
    some (creatingNothing (Document.appendChild parent child))
  | .insertBefore parent child none => do
    let parent ← parent.resolve created
    let child ← child.resolve created
    some (creatingNothing (Document.insertBefore parent child none))
  | .insertBefore parent child (some reference) => do
    let parent ← parent.resolve created
    let child ← child.resolve created
    let reference ← reference.resolve created
    some (creatingNothing (Document.insertBefore parent child (some reference)))
  | .setHtmlAttribute element localName value => do
    let element ← element.resolve created
    some (creatingNothing (Document.setHtmlAttribute element localName value))
  | .removeHtmlAttribute element localName => do
    let element ← element.resolve created
    some (creatingNothing
      (Document.removeAttribute element none (toAsciiLowercase localName)))
  | .setCharacterData node data => do
    let node ← node.resolve created
    some (creatingNothing (Document.setCharacterData node data))
  | .removeChild parent child => do
    let parent ← parent.resolve created
    let child ← child.resolve created
    some (creatingNothing (Document.removeChild parent child))

/-- Whether a command creates a node. -/
def ScriptMutationCommand.isCreation : ScriptMutationCommand → Bool
  | .createHtmlElement .. => true
  | .createText .. => true
  | _ => false

/-- The commands run one after another on the document; the value is the list of all nodes created.
`none` if a command names a node that was not created. -/
def runDirect : List ScriptMutationCommand → List NodeId → Document →
    Option (Outcome Document DomError (List NodeId))
  | [], created, d => some (.ok created d)
  | command :: rest, created, d =>
    match command.direct created with
    | none => none
    | some call =>
      match call d with
      | .ok node d' => runDirect rest (created ++ node.toList) d'
      | .err e d' => some (.err e d')
      | .halt r => some (.halt r)

/-! ## What a command's method does -/

/-- What the two runs of a batch rely on, for the method of one command: it is a mutator that
refines the tree changes, and it extends the arena by the node it returns. -/
structure Creates {α : Type} (m : Mutation α) (created : α → Option NodeId) : Prop where
  refines : m.Refines
  grows : ∀ {a v nodes}, m a = .ok (v, nodes) →
    nodes.length = a.nodes.length + (created v).toList.length
  node : ∀ {a v nodes n}, m a = .ok (v, nodes) → created v = some n →
    n = a.handle a.nodes.length
  early : ∀ {a v}, m a = .error (.done v) → created v = none

namespace Mutation

variable {α : Type}

/-- A mutator that overwrites records creates nothing. -/
lemma creates_none {m : Mutation α} (hm : m.Refines)
    (hlen : ∀ {a v nodes}, m a = .ok (v, nodes) → nodes.length = a.nodes.length) :
    Creates m (fun _ => none) where
  refines := hm
  grows h := by simpa using hlen h
  node _ h := by cases h
  early _ := rfl

lemma creates_allocate {m : Mutation NodeId} (hm : m.Refines)
    (hok : ∀ {a v nodes}, m a = .ok (v, nodes) → ∃ k, allocate k a = .ok (v, nodes))
    (hdone : ∀ {a v}, m a ≠ .error (.done v)) : Creates m some where
  refines := hm
  grows h := by
    obtain ⟨k, hk⟩ := hok h
    simp only [allocate, bind_eq_ok, require_eq_ok, Except.ok.injEq, Prod.mk.injEq] at hk
    obtain ⟨_, -, -, rfl⟩ := hk
    simp
  node h heq := by
    obtain ⟨k, hk⟩ := hok h
    simp only [allocate, bind_eq_ok, require_eq_ok, Except.ok.injEq, Prod.mk.injEq] at hk
    obtain ⟨_, -, rfl, -⟩ := hk
    exact (some.inj heq).symm
  early h := absurd h hdone

lemma createText_creates (data : String) : Creates (createText data) some := by
  refine creates_allocate (createText_refines data) (fun h => ⟨_, h⟩) ?_
  intro a v
  simp [createText, allocate, bind_eq_error]

lemma createHtmlElement_creates (localName : String) :
    Creates (createHtmlElement localName) some := by
  refine creates_allocate (createHtmlElement_refines localName) ?_ ?_
  · intro a v nodes h
    simp only [createHtmlElement, createElement, bind_eq_ok, require_eq_ok] at h
    obtain ⟨_, -, _, -, h⟩ := h
    exact ⟨_, h⟩
  · intro a v
    simp [createHtmlElement, createElement, allocate, bind_eq_error]

lemma dropFromParent_length {a : Arena} {p : Option NodeId} {c : NodeId} {nodes : List NodeRecord}
    (h : (dropFromParent a p c : Except (Stop α) _) = .ok nodes) :
    nodes.length = a.nodes.length := by
  cases p with
  | none =>
    cases h
    rfl
  | some p =>
    simp only [dropFromParent, bind_eq_ok, Except.ok.injEq] at h
    obtain ⟨_, -, rfl⟩ := h
    exact length_modify ..

lemma insertBefore_creates (p c : NodeId) (reference : Option NodeId) :
    Creates (insertBefore p c reference) (fun _ => none) := by
  refine creates_none (insertBefore_refines p c reference) ?_
  intro a v nodes h
  simp only [insertBefore, bind_eq_ok, Except.ok.injEq, Prod.mk.injEq] at h
  obtain ⟨_, -, _, -, _, -, _, -, _, -, _, -, _, -, _, -, dropped, hdrop, -, rfl⟩ := h
  simp [dropFromParent_length hdrop]

lemma removeChild_creates (p c : NodeId) : Creates (removeChild p c) (fun _ => none) := by
  refine creates_none (removeChild_refines p c) ?_
  intro a v nodes h
  simp only [removeChild, bind_eq_ok, Except.ok.injEq, Prod.mk.injEq] at h
  obtain ⟨_, -, _, -, _, -, -, rfl⟩ := h
  simp

lemma WritesKind.creates {m : Mutation α} (hm : m.WritesKind) : Creates m (fun _ => none) := by
  refine creates_none hm.refines ?_
  intro a v nodes h
  obtain ⟨node, k, -, rfl⟩ := hm.writes h
  exact length_modify ..

end Mutation

/-- The method of a command, as a mutator and the node it returns. -/
def CommandMethod (command : ScriptMutationCommand) (call : Call Document DomError (Option NodeId)) :
    Prop :=
  ∃ (α : Type) (m : Mutation α) (created : α → Option NodeId), call = created <$> m.run ∧
    Creates m created ∧ ∀ v, (created v).isSome = command.isCreation

lemma ScriptMutationCommand.direct_method {command : ScriptMutationCommand}
    {created : List NodeId} {call : Call Document DomError (Option NodeId)}
    (h : command.direct created = some call) : CommandMethod command call := by
  cases command with
  | createHtmlElement token localName =>
    cases h
    exact ⟨_, _, _, rfl, createHtmlElement_creates localName, fun _ => rfl⟩
  | createText token data =>
    cases h
    exact ⟨_, _, _, rfl, createText_creates data, fun _ => rfl⟩
  | appendChild parent child =>
    obtain ⟨p, -, h⟩ := bind_eq_some_iff.mp h
    obtain ⟨c, -, h⟩ := bind_eq_some_iff.mp h
    cases h
    exact ⟨_, _, _, rfl, insertBefore_creates p c none, fun _ => rfl⟩
  | insertBefore parent child reference =>
    cases reference with
    | none =>
      obtain ⟨p, -, h⟩ := bind_eq_some_iff.mp h
      obtain ⟨c, -, h⟩ := bind_eq_some_iff.mp h
      cases h
      exact ⟨_, _, _, rfl, insertBefore_creates p c none, fun _ => rfl⟩
    | some reference =>
      obtain ⟨p, -, h⟩ := bind_eq_some_iff.mp h
      obtain ⟨c, -, h⟩ := bind_eq_some_iff.mp h
      obtain ⟨r, -, h⟩ := bind_eq_some_iff.mp h
      cases h
      exact ⟨_, _, _, rfl, insertBefore_creates p c (some r), fun _ => rfl⟩
  | setHtmlAttribute element localName value =>
    obtain ⟨n, -, h⟩ := bind_eq_some_iff.mp h
    cases h
    exact ⟨_, _, _, rfl, (setAttribute_writesKind n _ value).creates, fun _ => rfl⟩
  | removeHtmlAttribute element localName =>
    obtain ⟨n, -, h⟩ := bind_eq_some_iff.mp h
    cases h
    exact ⟨_, _, _, rfl, (removeAttribute_writesKind n none _).creates, fun _ => rfl⟩
  | setCharacterData node data =>
    obtain ⟨n, -, h⟩ := bind_eq_some_iff.mp h
    cases h
    exact ⟨_, _, _, rfl, (setCharacterData_writesKind n data).creates, fun _ => rfl⟩
  | removeChild parent child =>
    obtain ⟨p, -, h⟩ := bind_eq_some_iff.mp h
    obtain ⟨c, -, h⟩ := bind_eq_some_iff.mp h
    cases h
    exact ⟨_, _, _, rfl, removeChild_creates p c, fun _ => rfl⟩

namespace CommandMethod

variable {command : ScriptMutationCommand} {call : Call Document DomError (Option NodeId)}

lemma map_run {α : Type} (m : Mutation α) (f : α → Option NodeId) (d : Document) :
    (f <$> m.run : Call Document DomError (Option NodeId)) d = (m.run d).trimap f id id := by
  show (m.run d).andThen (fun v d' => .ok (f v) d') = _
  cases m.run d <;> rfl

/-- What the method of a command does to a well-formed document. -/
lemma sat (hc : CommandMethod command call) {d : Document} (h : d.Wf) :
    (call d).Sat (fun node d' => d'.Wf ∧ d'.id = d.id ∧ d'.revision ≤ d.revision + 1 ∧
        d'.nodes.length = d.nodes.length + node.toList.length ∧
          (∀ n ∈ node, n = d.handle d.nodes.length) ∧ node.isSome = command.isCreation)
      (fun _ _ => True) (fun r => r = revisionExhausted ∧ revisionMax ≤ d.revision) := by
  obtain ⟨α, m, created, rfl, hm, hcreation⟩ := hc
  rw [map_run]
  have hsat := m.run_sat d
  rcases hrun : m.run d with ⟨v, d'⟩ | ⟨e, d'⟩ | r
  · have hwf := hm.refines.run_wf h hrun
    rcases hsat.of_ok hrun with ⟨hdone, rfl⟩ | ⟨nodes, hok, -, rfl⟩
    · have hnone := hm.early hdone
      exact ⟨hwf, rfl, Nat.le_succ _, by simp [hnone], by simp [hnone], hcreation v⟩
    · refine ⟨hwf, rfl, le_rfl, hm.grows hok, ?_, hcreation v⟩
      intro n hn
      exact hm.node hok hn
  · trivial
  · rcases hsat.of_halt hrun with hloop | hr
    · exact absurd hloop (hm.refines.returns h)
    · exact hr

/-- **The method of a command does not look at the revision**: from another revision it returns the
same value and arena, or the revisions are exhausted. -/
theorem oblivious (hc : CommandMethod command call) {d d' e : Document} {node : Option NodeId}
    (hok : call d = .ok node d') (he : e.toArena = d.toArena) :
    (∃ e', call e = .ok node e' ∧ e'.toArena = d'.toArena ∧ e'.revision ≤ e.revision + 1) ∨
      call e = .halt revisionExhausted ∧ revisionMax ≤ e.revision := by
  obtain ⟨α, m, created, rfl, -, -⟩ := hc
  rw [map_run] at hok ⊢
  rcases hrun : m.run d with ⟨v, d₁⟩ | ⟨x, d₁⟩ | r <;> rw [hrun] at hok <;> cases hok
  rcases (m.run_sat d).of_ok hrun with ⟨hdone, rfl⟩ | ⟨nodes, hnodes, -, rfl⟩
  · refine Or.inl ⟨e, ?_, he, Nat.le_succ _⟩
    simp [run, he, hdone, trimap]
  · by_cases hrev : e.revision < revisionMax
    · refine Or.inl ⟨{ e with nodes, revision := e.revision + 1 }, ?_, ?_, le_rfl⟩
      · simp [run, he, hnodes, commit, hrev, trimap]
      · exact congrArg (fun a : Arena => { a with nodes }) he
    · refine Or.inr ⟨?_, Nat.not_lt.mp hrev⟩
      simp [run, he, hnodes, commit, hrev, trimap]

end CommandMethod

/-! ## The private run -/

section commands

variable {limits : ScriptMutationLimits} {commandIndex : ℕ} {run : ScriptRun}

lemma accountString_cases (value : String) :
    (∃ e, accountString limits commandIndex value run = .err e run) ∨
      ∃ total, accountString limits commandIndex value run =
        .ok () { run with totalStringBytes := total } := by
  unfold accountString
  dsimp only
  split_ifs
  · exact Or.inl ⟨_, rfl⟩
  · exact Or.inl ⟨_, rfl⟩
  · exact Or.inl ⟨_, rfl⟩
  · exact Or.inr ⟨_, rfl⟩

lemma prepareCreationToken_cases (token : CreatedNodeToken) :
    (∃ e, prepareCreationToken limits commandIndex token run = .err e run) ∨
      prepareCreationToken limits commandIndex token run = .ok () run := by
  unfold prepareCreationToken
  dsimp only
  split_ifs
  · exact Or.inl ⟨_, rfl⟩
  · exact Or.inl ⟨_, rfl⟩
  · exact Or.inr rfl

lemma resolveScriptNode_cases (node : ScriptNode) :
    (∃ e, resolveScriptNode commandIndex node run = .err e run) ∨
      ∃ n, node.resolve run.createdNodes = some n ∧
        resolveScriptNode commandIndex node run = .ok n run := by
  unfold resolveScriptNode Call.query
  split
  · rename_i n hok
    refine Or.inr ⟨n, ?_, rfl⟩
    obtain ⟨n', hn, hrest⟩ := bind_eq_ok.mp hok
    obtain ⟨_, -, hrest⟩ := bind_eq_ok.mp hrest
    cases hrest
    cases node with
    | existing node =>
      cases hn
      rfl
    | created token =>
      simp only [lookupToken] at hn
      split at hn
      · rename_i m hm
        cases hn
        exact hm
      · cases hn
  · exact Or.inl ⟨_, rfl⟩

/-- The end of a command: the method's outcome, carried over to the private run. -/
def finishCommand (commandIndex : ℕ) (run : ScriptRun) (total : ℕ) :
    Outcome Document DomError (Option NodeId) → Outcome ScriptRun ScriptMutationError Unit
  | .ok node working => .ok () ⟨working, run.createdNodes ++ node.toList, total⟩
  | .err e working => .err (.command commandIndex e) ⟨working, run.createdNodes, total⟩
  | .halt r => .halt r

lemma onWorking_push (c : Call Document DomError NodeId) :
    (onWorking commandIndex c >>= pushCreated) run =
      finishCommand commandIndex run run.totalStringBytes
        ((some <$> c : Call Document DomError (Option NodeId)) run.working) := by
  show ((c run.working).trimap id _ _).andThen _ =
    finishCommand _ _ _ ((c run.working).andThen fun v d' => .ok (some v) d')
  cases c run.working <;> rfl

lemma onWorking_nothing {α : Type} (c : Call Document DomError α) :
    (onWorking commandIndex c >>= fun _ => pure ()) run =
      finishCommand commandIndex run run.totalStringBytes (creatingNothing c run.working) := by
  show ((c run.working).trimap id _ _).andThen _ =
    finishCommand _ _ _ ((c run.working).andThen fun _ d' => .ok none d')
  cases c run.working <;> simp [trimap, andThen, finishCommand]

lemma onWorking_unit (c : Call Document DomError Unit) :
    onWorking commandIndex c run =
      finishCommand commandIndex run run.totalStringBytes (creatingNothing c run.working) := by
  rw [← onWorking_nothing]
  show _ = (onWorking commandIndex c run).andThen _
  cases onWorking commandIndex c run <;> rfl

/-- The outcome of a command, or of the rest of it: a failed check, or the outcome of the method it
stands for. -/
def Fulfils (commandIndex : ℕ) (run : ScriptRun)
    (direct : Option (Call Document DomError (Option NodeId)))
    (outcome : Outcome ScriptRun ScriptMutationError Unit) : Prop :=
  (∃ e run', outcome = .err e run') ∨
    ∃ call total, direct = some call ∧
      outcome = finishCommand commandIndex run total (call run.working)

variable {direct : Option (Call Document DomError (Option NodeId))}

variable {rest : Call ScriptRun ScriptMutationError Unit}

lemma Fulfils.account {value : String}
    (h : ∀ total, Fulfils commandIndex run direct (rest { run with totalStringBytes := total })) :
    Fulfils commandIndex run direct ((do accountString limits commandIndex value; rest) run) := by
  rw [Call.bind_apply]
  rcases accountString_cases value with ⟨e, he⟩ | ⟨total, hs⟩
  · rw [he]
    exact Or.inl ⟨e, run, rfl⟩
  · rw [hs]
    exact h total

lemma Fulfils.token {token : CreatedNodeToken} (h : Fulfils commandIndex run direct (rest run)) :
    Fulfils commandIndex run direct
      ((do prepareCreationToken limits commandIndex token; rest) run) := by
  rw [Call.bind_apply]
  rcases prepareCreationToken_cases token with ⟨e, he⟩ | hs
  · rw [he]
    exact Or.inl ⟨e, run, rfl⟩
  · rw [hs]
    exact h

lemma Fulfils.resolve {node : ScriptNode}
    {direct : NodeId → Option (Call Document DomError (Option NodeId))}
    {rest : NodeId → Call ScriptRun ScriptMutationError Unit}
    (h : ∀ n, Fulfils commandIndex run (direct n) (rest n run)) :
    Fulfils commandIndex run (node.resolve run.createdNodes >>= direct)
      ((resolveScriptNode commandIndex node >>= rest) run) := by
  rw [Call.bind_apply]
  rcases resolveScriptNode_cases node with ⟨e, he⟩ | ⟨n, hn, hs⟩
  · rw [he]
    exact Or.inl ⟨e, run, rfl⟩
  · rw [hs, hn]
    exact h n

lemma Fulfils.resolveReference {reference : ScriptNode}
    {direct : NodeId → Option (Call Document DomError (Option NodeId))}
    {rest : Option NodeId → Call ScriptRun ScriptMutationError Unit}
    (h : ∀ n, Fulfils commandIndex run (direct n) (rest (some n) run)) :
    Fulfils commandIndex run (reference.resolve run.createdNodes >>= direct)
      ((Dom.resolveReference commandIndex (some reference) >>= rest) run) := by
  have hbind : (Dom.resolveReference commandIndex (some reference) >>= rest) run =
      (resolveScriptNode commandIndex reference >>= fun n => rest (some n)) run := by
    show ((resolveScriptNode commandIndex reference run).andThen _).andThen _ =
      (resolveScriptNode commandIndex reference run).andThen _
    cases resolveScriptNode commandIndex reference run <;> rfl
  rw [hbind]
  exact .resolve h

lemma Fulfils.method {c : Call Document DomError (Option NodeId)} {total : ℕ}
    {outcome : Outcome ScriptRun ScriptMutationError Unit}
    (h : outcome = finishCommand commandIndex run total (c run.working)) :
    Fulfils commandIndex run (some c) outcome :=
  Or.inr ⟨c, total, rfl, h⟩

/-- **A command fails its checks, or it is the method it stands for.** -/
theorem applyScriptCommand_fulfils (limits : ScriptMutationLimits) (commandIndex : ℕ)
    (run : ScriptRun) (command : ScriptMutationCommand) :
    Fulfils commandIndex run (command.direct run.createdNodes)
      (applyScriptCommand limits commandIndex command run) := by
  cases command with
  | createHtmlElement token localName =>
    exact .account fun _ => .token (.method (onWorking_push _))
  | createText token data =>
    exact .account fun _ => .token (.method (onWorking_push _))
  | appendChild parent child =>
    exact .resolve fun _ => .resolve fun _ => .method (onWorking_unit _)
  | insertBefore parent child reference =>
    cases reference with
    | none => exact .resolve fun _ => .resolve fun _ => .method (onWorking_unit _)
    | some reference =>
      exact .resolve fun _ => .resolve fun _ => .resolveReference fun _ =>
        .method (onWorking_unit _)
  | setHtmlAttribute element localName value =>
    exact .account fun _ => .account fun _ => .resolve fun _ => .method (onWorking_nothing _)
  | removeHtmlAttribute element localName =>
    exact .account fun _ => .resolve fun _ => .method (onWorking_nothing _)
  | setCharacterData node data =>
    exact .account fun _ => .resolve fun _ => .method (onWorking_nothing _)
  | removeChild parent child =>
    exact .resolve fun _ => .resolve fun _ => .method (onWorking_unit _)

end commands

/-! ## The whole batch -/

/-- What holds of the private run after some commands of a batch on `d`. -/
structure RunInv (d : Document) (count : ℕ) (run : ScriptRun) : Prop where
  wf : run.working.Wf
  id_eq : run.working.id = d.id
  /-- The private copy counts at most one revision for each command. -/
  revision_le : run.working.revision ≤ count
  length_eq : run.working.nodes.length = d.nodes.length + run.createdNodes.length
  /-- The created nodes have consecutive slots. -/
  created_eq : run.createdNodes =
    (List.range run.createdNodes.length).map fun i => d.handle (d.nodes.length + i)

lemma RunInv.start {d : Document} (h : d.Wf) : RunInv d 0 d.workingCopy where
  wf := h
  id_eq := rfl
  revision_le := le_rfl
  length_eq := rfl
  created_eq := rfl

section batch

variable {d : Document} {limits : ScriptMutationLimits}

/-- One command keeps the invariant, and does not halt while there are revisions left. -/
lemma applyScriptCommand_sat {count : ℕ} {run : ScriptRun} (inv : RunInv d count run)
    (hcount : count < revisionMax) (commandIndex : ℕ) (command : ScriptMutationCommand) :
    (applyScriptCommand limits commandIndex command run).Ends
      (fun _ run' => RunInv d (count + 1) run' ∧
        run'.createdNodes.length = run.createdNodes.length + command.isCreation.toNat)
      (fun _ _ => True) := by
  rcases applyScriptCommand_fulfils limits commandIndex run command with
    ⟨e, run', he⟩ | ⟨call, total, hdirect, hs⟩
  · rw [he]
    trivial
  rw [hs]
  have hsat := (direct_method hdirect).sat inv.wf
  rcases hcall : call run.working with ⟨node, working⟩ | ⟨e, working⟩ | r
  · obtain ⟨hwf, hid, hrev, hlen, hnode, hcreation⟩ := hsat.of_ok hcall
    have hcard : node.toList.length = command.isCreation.toNat := by
      rw [← hcreation]
      cases node <;> rfl
    refine ⟨⟨hwf, hid.trans inv.id_eq, ?_, ?_, ?_⟩, ?_⟩
    · exact Nat.le_trans hrev (Nat.succ_le_succ inv.revision_le)
    · show working.nodes.length = d.nodes.length + (run.createdNodes ++ node.toList).length
      rw [hlen, inv.length_eq, length_append, Nat.add_assoc]
    · -- the node this command created has the next slot
      cases node with
      | none => simpa using inv.created_eq
      | some n =>
        have hn : n = d.handle (d.nodes.length + run.createdNodes.length) := by
          rw [hnode n rfl, inv.length_eq, Arena.handle, Arena.handle, inv.id_eq]
        simp only [toList_some, length_append, length_singleton,
          range_succ, map_append, map_singleton, ← hn, ← inv.created_eq]
    · show (run.createdNodes ++ node.toList).length = _
      rw [length_append, hcard]
  · trivial
  · have := (hsat.of_halt hcall).2
    have := inv.revision_le
    omega

variable {commands : List ScriptMutationCommand}

lemma applyScriptCommands_sat (limits : ScriptMutationLimits) {count : ℕ} {run : ScriptRun}
    (inv : RunInv d count run) (hcount : count + commands.length ≤ revisionMax) (commandIndex : ℕ) :
    (applyScriptCommands limits commandIndex commands run).Ends
      (fun _ run' => RunInv d (count + commands.length) run' ∧
        run'.createdNodes.length = run.createdNodes.length + commands.countP (·.isCreation))
      (fun _ _ => True) := by
  induction commands generalizing count run commandIndex with
  | nil => exact ⟨inv, rfl⟩
  | cons command commands ih =>
    rw [length_cons] at hcount
    refine Call.sat_bind.mpr ?_
    refine (applyScriptCommand_sat inv (by omega) commandIndex command).imp₂ ?_ (fun _ _ he => he)
    rintro _ run' ⟨inv', hlen⟩
    refine (ih inv' (by omega) (commandIndex + 1)).imp₂ ?_ (fun _ _ he => he)
    rintro _ run'' ⟨inv'', hlen'⟩
    refine ⟨?_, ?_⟩
    · rwa [show count + 1 + commands.length = count + (command :: commands).length by
        rw [length_cons]; omega] at inv''
    · rw [hlen', hlen, countP_cons]
      cases command.isCreation
      · rfl
      · simp only [Bool.toNat_true, if_true]
        omega

/-- **The private run and the direct run agree.** -/
theorem applyScriptCommands_direct {commandIndex : ℕ} {run run' : ScriptRun}
    (hok : applyScriptCommands limits commandIndex commands run = .ok () run') {start : Document}
    (hstart : start.toArena = run.working.toArena) :
    (∃ d', runDirect commands run.createdNodes start = some (.ok run'.createdNodes d') ∧
        d'.toArena = run'.working.toArena) ∨
      runDirect commands run.createdNodes start = some (.halt revisionExhausted) ∧
        revisionMax < start.revision + commands.length := by
  induction commands generalizing run commandIndex start with
  | nil =>
    cases hok
    exact Or.inl ⟨start, rfl, hstart⟩
  | cons command commands ih =>
    obtain ⟨_, run₁, hfirst, hrest⟩ := Call.bind_eq_ok.mp hok
    rcases applyScriptCommand_fulfils limits commandIndex run command with
      ⟨e, run', he⟩ | ⟨call, total, hdirect, hs⟩
    · rw [he] at hfirst
      cases hfirst
    rw [hs] at hfirst
    rcases hcall : call run.working with ⟨node, working⟩ | ⟨e, working⟩ | r <;>
      rw [hcall] at hfirst <;> cases hfirst
    simp only [runDirect, hdirect, length_cons]
    rcases (direct_method hdirect).oblivious hcall hstart with
      ⟨start', hstart', harena, hrev⟩ | ⟨hhalt, hrev⟩
    · rw [hstart']
      rcases ih hrest harena with hdone | ⟨hhalt, hlt⟩
      · exact Or.inl hdone
      · exact Or.inr ⟨hhalt, by omega⟩
    · rw [hhalt]
      exact Or.inr ⟨rfl, by omega⟩

/-- What a published batch is made of. -/
structure Published (d : Document) (batch : ScriptMutationBatch) (limits : ScriptMutationLimits)
    (commit : ScriptMutationCommit) (d' : Document) (run : ScriptRun) : Prop where
  commands : applyScriptCommands limits 0 batch.commands d.workingCopy = .ok () run
  inv : RunInv d batch.commands.length run
  count : run.createdNodes.length = batch.commands.countP (·.isCreation)
  document_eq : d' = { run.working with revision := d.revision + 1 }
  snapshot_eq : d'.snapshot = some (.ok commit.snapshot)
  created_eq : commit.createdNodes = run.createdNodes

/-- **A batch publishes the private run, or changes nothing**; it always returns. -/
theorem applyScriptMutations_sat (h : d.Wf) (batch : ScriptMutationBatch)
    (limits : ScriptMutationLimits) :
    (applyScriptMutations batch limits d).Ends
      (fun commit d' => ∃ run, Published d batch limits commit d' run)
      (fun _ d' => d' = d) := by
  unfold applyScriptMutations
  split_ifs with hversion hempty hexhausted hcommands
  · rfl
  · rfl
  · rfl
  · rfl
  · have hbound : 0 + batch.commands.length ≤ revisionMax := by
      have hcap := limits.maxCommands_le
      unfold hardMaxCommands at hcap
      unfold revisionMax
      omega
    have hsat := applyScriptCommands_sat limits (RunInv.start h) hbound 0
    rcases hrun : applyScriptCommands limits 0 batch.commands d.workingCopy with
      ⟨_, run⟩ | ⟨e, run⟩ | r
    · obtain ⟨inv, hcount⟩ := hsat.of_ok hrun
      rw [Nat.zero_add] at inv
      have hwf : ({ run.working with revision := d.revision + 1 } : Document).Wf := inv.wf
      obtain ⟨snapshot, hsnapshot, -⟩ := exists_snapshot hwf
      simp only [publish, hsnapshot]
      exact ⟨run, hrun, inv, by simpa [workingCopy] using hcount, rfl, hsnapshot, rfl⟩
    · rfl
    · exact hsat.of_halt hrun

end batch

lemma Document.applyScriptMutations_keeps (batch : ScriptMutationBatch)
    (limits : ScriptMutationLimits) : Keeps (applyScriptMutations batch limits) := by
  intro d h
  refine (applyScriptMutations_sat h batch limits).mono ?_ ?_ (fun _ hr => hr.elim)
  · rintro commit d' ⟨run, hp⟩
    rw [hp.document_eq]
    exact ⟨hp.inv.wf, Or.inr ⟨hp.inv.id_eq, Nat.lt_succ_self _⟩⟩
  · rintro e d' rfl
    exact ⟨h, Advance.refl _⟩

end WildBuzzard.Dom
