import WildBuzzard.Dom.Snapshot

/-!
# Script mutation batches

Source: `dom/src/bindings.rs`.

A script hands the document a batch of commands. They run one after another on a private copy of the
arena, whose revision starts at zero; the copy replaces the document only when all of them have
succeeded and the copy has a snapshot.
-/

namespace WildBuzzard.Dom

open Lib

/-! ## Commands, limits and errors -/

/-- Source: `CreatedNodeToken` -/
structure CreatedNodeToken where
  index : ℕ
  deriving DecidableEq, Repr

/-- Source: `ScriptNode` -/
inductive ScriptNode where
  | existing (node : NodeId)
  | created (token : CreatedNodeToken)
  deriving DecidableEq, Repr

/-- Source: `ScriptMutationCommand` -/
inductive ScriptMutationCommand where
  | createHtmlElement (token : CreatedNodeToken) (localName : String)
  | createText (token : CreatedNodeToken) (data : String)
  | appendChild (parent child : ScriptNode)
  | insertBefore (parent child : ScriptNode) (reference : Option ScriptNode)
  | setHtmlAttribute (element : ScriptNode) (localName value : String)
  | removeHtmlAttribute (element : ScriptNode) (localName : String)
  | setCharacterData (node : ScriptNode) (data : String)
  | removeChild (parent child : ScriptNode)
  deriving DecidableEq, Repr

/-- Source: `ScriptMutationBatch` -/
structure ScriptMutationBatch where
  expectedVersion : DocumentVersion
  commands : List ScriptMutationCommand
  deriving DecidableEq, Repr

/-- Source: `ScriptMutationLimitKind` -/
inductive ScriptMutationLimitKind where
  | commands
  | createdNodes
  | stringBytes
  | totalStringBytes
  deriving DecidableEq, Repr

/-- Source: `ScriptMutationLimits::HARD_MAX_COMMANDS` -/
def hardMaxCommands : ℕ := 4096

/-- Source: `ScriptMutationLimits::HARD_MAX_CREATED_NODES` -/
def hardMaxCreatedNodes : ℕ := 2048

/-- Source: `ScriptMutationLimits::HARD_MAX_STRING_BYTES` -/
def hardMaxStringBytes : ℕ := 1024 * 1024

/-- Source: `ScriptMutationLimits::HARD_MAX_TOTAL_STRING_BYTES` -/
def hardMaxTotalStringBytes : ℕ := 4 * 1024 * 1024

/-- Checked limits of a batch: they only narrow the hard caps.
Source: `ScriptMutationLimits` -/
structure ScriptMutationLimits where
  maxCommands : ℕ
  maxCreatedNodes : ℕ
  maxStringBytes : ℕ
  maxTotalStringBytes : ℕ
  maxCommands_le : maxCommands ≤ hardMaxCommands
  maxCreatedNodes_le : maxCreatedNodes ≤ hardMaxCreatedNodes
  maxStringBytes_le : maxStringBytes ≤ hardMaxStringBytes
  maxTotalStringBytes_le : maxTotalStringBytes ≤ hardMaxTotalStringBytes

namespace ScriptMutationLimits

/-- Source: `ScriptMutationLimits::DEFAULT` -/
def default : ScriptMutationLimits where
  maxCommands := hardMaxCommands
  maxCreatedNodes := hardMaxCreatedNodes
  maxStringBytes := hardMaxStringBytes
  maxTotalStringBytes := hardMaxTotalStringBytes
  maxCommands_le := Nat.le_refl _
  maxCreatedNodes_le := Nat.le_refl _
  maxStringBytes_le := Nat.le_refl _
  maxTotalStringBytes_le := Nat.le_refl _

end ScriptMutationLimits

/-- Source: `ScriptMutationTokenError` -/
inductive ScriptMutationTokenError where
  | creationOrder (expected actual : CreatedNodeToken)
  | unavailable (token : CreatedNodeToken) (availableCreatedNodes : ℕ)
  deriving DecidableEq, Repr

/-- Source: `ScriptMutationError` -/
inductive ScriptMutationError where
  | emptyBatch
  | versionMismatch (expected actual : DocumentVersion)
  | revisionExhausted (version : DocumentVersion)
  | limitExceeded (commandIndex : ℕ) (kind : ScriptMutationLimitKind) (limit actual : ℕ)
  | token (commandIndex : ℕ) (error : ScriptMutationTokenError)
  | command (commandIndex : ℕ) (error : DomError)
  | finalization (error : DomError)
  deriving DecidableEq, Repr

/-- Source: `ScriptMutationCommit` -/
structure ScriptMutationCommit where
  snapshot : DocumentSnapshot
  createdNodes : List NodeId

/-! ## One command -/

/-- The locals of `apply_script_mutations` that its commands change. -/
structure ScriptRun where
  working : Document
  createdNodes : List NodeId
  totalStringBytes : ℕ
  deriving DecidableEq, Repr

/-- The largest `usize`. -/
def usizeMax : ℕ := 2 ^ 64 - 1

section commands

variable (limits : ScriptMutationLimits) (commandIndex : ℕ)

/-- Source: `account_string` -/
def accountString (value : String) : Call ScriptRun ScriptMutationError Unit := fun run =>
  let bytes := value.utf8ByteSize
  if limits.maxStringBytes < bytes then
    .err (.limitExceeded commandIndex .stringBytes limits.maxStringBytes bytes) run
  else if usizeMax < run.totalStringBytes + bytes then
    .err (.limitExceeded commandIndex .totalStringBytes limits.maxTotalStringBytes usizeMax) run
  else if limits.maxTotalStringBytes < run.totalStringBytes + bytes then
    .err (.limitExceeded commandIndex .totalStringBytes limits.maxTotalStringBytes
      (run.totalStringBytes + bytes)) run
  else .ok () { run with totalStringBytes := run.totalStringBytes + bytes }

/-- Source: `prepare_creation_token`; the number of created nodes is cast to `u32` -/
def prepareCreationToken (token : CreatedNodeToken) : Call ScriptRun ScriptMutationError Unit :=
  fun run =>
    if limits.maxCreatedNodes ≤ run.createdNodes.length then
      .err (.limitExceeded commandIndex .createdNodes limits.maxCreatedNodes
        (min (run.createdNodes.length + 1) usizeMax)) run
    else
      let expected : CreatedNodeToken := ⟨run.createdNodes.length % 2 ^ 32⟩
      if token ≠ expected then
        .err (.token commandIndex (.creationOrder expected token)) run
      else .ok () run

/-- The node a command names, before it is looked up. -/
def lookupToken (run : ScriptRun) : ScriptNode → Except ScriptMutationError NodeId
  | .existing node => .ok node
  | .created token =>
    match run.createdNodes[token.index]? with
    | some node => .ok node
    | none => .error (.token commandIndex (.unavailable token run.createdNodes.length))

/-- Source: `resolve_script_node` -/
def resolveScriptNode (node : ScriptNode) : Call ScriptRun ScriptMutationError NodeId :=
  Call.query fun run => do
    let node ← lookupToken commandIndex run node
    let _ ← (run.working.nodeKind node).mapError (.command commandIndex)
    .ok node

/-- An operand that may be missing. -/
def resolveReference : Option ScriptNode → Call ScriptRun ScriptMutationError (Option NodeId)
  | none => pure none
  | some reference => do
    let node ← resolveScriptNode commandIndex reference
    pure (some node)

/-- A method of the private copy, with its errors attributed to the command. -/
def onWorking {α : Type} (call : Call Document DomError α) : Call ScriptRun ScriptMutationError α :=
  Call.focus (·.working) (fun working run => { run with working }) (.command commandIndex) call

/-- `created_nodes.push(node)` -/
def pushCreated (node : NodeId) : Call ScriptRun ScriptMutationError Unit :=
  Call.modify fun run => { run with createdNodes := run.createdNodes ++ [node] }

/-- Source: `apply_script_command` -/
def applyScriptCommand : ScriptMutationCommand → Call ScriptRun ScriptMutationError Unit
  | .createHtmlElement token localName => do
    accountString limits commandIndex localName
    prepareCreationToken limits commandIndex token
    let node ← onWorking commandIndex (Document.createHtmlElement localName)
    pushCreated node
  | .createText token data => do
    accountString limits commandIndex data
    prepareCreationToken limits commandIndex token
    let node ← onWorking commandIndex (Document.createText data)
    pushCreated node
  | .appendChild parent child => do
    let parent ← resolveScriptNode commandIndex parent
    let child ← resolveScriptNode commandIndex child
    onWorking commandIndex (Document.appendChild parent child)
  | .insertBefore parent child reference => do
    let parent ← resolveScriptNode commandIndex parent
    let child ← resolveScriptNode commandIndex child
    let reference ← resolveReference commandIndex reference
    onWorking commandIndex (Document.insertBefore parent child reference)
  | .setHtmlAttribute element localName value => do
    accountString limits commandIndex localName
    accountString limits commandIndex value
    let element ← resolveScriptNode commandIndex element
    let _ ← onWorking commandIndex (Document.setHtmlAttribute element localName value)
    pure ()
  | .removeHtmlAttribute element localName => do
    accountString limits commandIndex localName
    let element ← resolveScriptNode commandIndex element
    let _ ← onWorking commandIndex
      (Document.removeAttribute element none (toAsciiLowercase localName))
    pure ()
  | .setCharacterData node data => do
    accountString limits commandIndex data
    let node ← resolveScriptNode commandIndex node
    let _ ← onWorking commandIndex (Document.setCharacterData node data)
    pure ()
  | .removeChild parent child => do
    let parent ← resolveScriptNode commandIndex parent
    let child ← resolveScriptNode commandIndex child
    onWorking commandIndex (Document.removeChild parent child)

end commands

/-! ## The batch -/

/-- The loop of `apply_script_mutations` over the commands from an index on. -/
def applyScriptCommands (limits : ScriptMutationLimits) :
    ℕ → List ScriptMutationCommand → Call ScriptRun ScriptMutationError Unit
  | _, [] => pure ()
  | commandIndex, command :: rest => do
    applyScriptCommand limits commandIndex command
    applyScriptCommands limits (commandIndex + 1) rest

namespace Document

/-- The private copy the commands run on. -/
def workingCopy (d : Document) : ScriptRun := ⟨{ d with revision := 0 }, [], 0⟩

/-- The end of `apply_script_mutations`: the copy takes its revision and replaces the document. -/
def publish (d : Document) (run : ScriptRun) :
    Outcome Document ScriptMutationError ScriptMutationCommit :=
  let working : Document := { run.working with revision := d.revision + 1 }
  match working.snapshot with
  | none => .halt .loop
  | some (.error e) => .err (.finalization e) d
  | some (.ok snapshot) => .ok ⟨snapshot, run.createdNodes⟩ working

/-- Source: `Document::apply_script_mutations` -/
def applyScriptMutations (batch : ScriptMutationBatch) (limits : ScriptMutationLimits) :
    Call Document ScriptMutationError ScriptMutationCommit := fun d =>
  if batch.expectedVersion ≠ d.version then
    .err (.versionMismatch batch.expectedVersion d.version) d
  else if batch.commands = [] then .err .emptyBatch d
  else if revisionMax ≤ d.revision then .err (.revisionExhausted d.version) d
  else if limits.maxCommands < batch.commands.length then
    .err (.limitExceeded limits.maxCommands .commands limits.maxCommands batch.commands.length) d
  else
    match applyScriptCommands limits 0 batch.commands d.workingCopy with
    | .ok () run => d.publish run
    | .err e _ => .err e d
    | .halt r => .halt r

end Document

end WildBuzzard.Dom
