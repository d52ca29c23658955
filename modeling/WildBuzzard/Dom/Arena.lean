import WildBuzzard.Lib.Call
import WildBuzzard.Lib.Require

/-!
# The document arena

Source: `dom/src/lib.rs`.

Nodes live in a document-owned arena and are addressed by `NodeId`, a slot number that carries the
identity of the document it belongs to. The slots are `u32` in the source and naturals here: a slot
the arena does not have is rejected by `checkedIndex` whatever its size, and `allocate` enforces the
bound.

The arena (`Arena`: identity and node records) is separated from the revision counter (`Document`)
because no method reads the counter: what a method does is a function of the arena, and the counter
only counts.
-/

namespace WildBuzzard.Dom

open Lib

/-! ## Data -/

/-- Stable identity of a document arena.
Source: `DocumentId` -/
structure DocumentId where
  get : ℕ
  deriving DecidableEq, Repr

/-- Stable, document-scoped handle to a DOM node.
Source: `NodeId` -/
structure NodeId where
  document : DocumentId
  slot : ℕ
  deriving DecidableEq, Repr

/-- Source: `Namespace` -/
inductive Namespace where
  | html
  | svg
  | mathMl
  | other (uri : String)
  deriving DecidableEq, Repr

/-- Rust's `str::to_ascii_lowercase`; `Char.toLower` maps `A..Z` and nothing else. -/
def toAsciiLowercase (s : String) : String := String.ofList (s.toList.map Char.toLower)

/-- Source: `QualifiedName` -/
structure QualifiedName where
  ns : Namespace
  namePrefix : Option String
  localName : String
  deriving DecidableEq, Repr

/-- Source: `QualifiedName::html` -/
def QualifiedName.ofHtml (localName : String) : QualifiedName :=
  ⟨.html, none, toAsciiLowercase localName⟩

/-- Source: `AttributeName` -/
structure AttributeName where
  ns : Option String
  namePrefix : Option String
  localName : String
  deriving DecidableEq, Repr

/-- Source: `AttributeName::html` -/
def AttributeName.ofHtml (localName : String) : AttributeName :=
  ⟨none, none, toAsciiLowercase localName⟩

/-- Source: `Attribute` -/
structure Attribute where
  name : AttributeName
  value : String
  deriving DecidableEq, Repr

/-- Whether an attribute has the given namespace and local name; the prefix is not compared. -/
def Attribute.isNamed (attr : Attribute) (ns : Option String) (localName : String) : Bool :=
  attr.name.ns == ns && attr.name.localName == localName

/-- Source: `ElementData` -/
structure ElementData where
  name : QualifiedName
  attributes : List Attribute
  deriving DecidableEq, Repr

/-- Source: `DocumentTypeData` -/
structure DocumentTypeData where
  name : String
  publicId : String
  systemId : String
  deriving DecidableEq, Repr

/-- Source: `NodeKind` -/
inductive NodeKind where
  | document
  | documentType (data : DocumentTypeData)
  | element (data : ElementData)
  | text (data : String)
  | comment (data : String)
  deriving DecidableEq, Repr

/-- Source: `NodeKind::is_container` -/
def NodeKind.isContainer : NodeKind → Bool
  | .document | .element _ => true
  | _ => false

/-- Source: `NodeKind::is_element` -/
def NodeKind.isElement : NodeKind → Bool
  | .element _ => true
  | _ => false

/-- Whether the kind is `Text`; the source matches on it in place. -/
def NodeKind.isText : NodeKind → Bool
  | .text _ => true
  | _ => false

/-- Source: `DomError` -/
inductive DomError where
  | wrongDocument (expected actual : DocumentId)
  | unknownNode (node : NodeId)
  | arenaCapacityExceeded
  | invalidName
  | hierarchyRequest
  | cycle
  | referenceIsNotChild
  | nodeIsNotChild
  | notAnElement
  | notCharacterData
  | snapshotInvariant (message : String)
  deriving DecidableEq, Repr

/-- Source: `NodeRecord` -/
structure NodeRecord where
  parent : Option NodeId
  children : List NodeId
  kind : NodeKind
  deriving DecidableEq, Repr

/-- A document's identity and node records: all of `Document` but its revision. -/
structure Arena where
  id : DocumentId
  nodes : List NodeRecord
  deriving DecidableEq, Repr

/-- Mutable, single-owner DOM arena.
Source: `Document` -/
structure Document extends Arena where
  revision : ℕ
  deriving DecidableEq, Repr

/-- Identity of one state of a document.
Source: `DocumentVersion` -/
structure DocumentVersion where
  documentId : DocumentId
  revision : ℕ
  deriving DecidableEq, Repr

/-- Source: `Document::version` -/
def Document.version (d : Document) : DocumentVersion := ⟨d.id, d.revision⟩

/-- The number of slots a `u32` can name. -/
def slotLimit : ℕ := 2 ^ 32

/-- The largest revision a `u64` can hold. -/
def revisionMax : ℕ := 2 ^ 64 - 1

/-- The message `bump_revision` panics with. -/
def revisionExhausted : Halt := .panic "document revision space exhausted"

namespace Arena

variable (a : Arena) {node : NodeId} {r : NodeRecord}

/-- The field `document_node`: set once, to slot 0 of the document's own arena. -/
def documentNode : NodeId := ⟨a.id, 0⟩

/-! ## Reading -/

/-- Source: `Document::checked_index` -/
def checkedIndex (node : NodeId) : Except DomError ℕ :=
  if node.document ≠ a.id then .error (.wrongDocument a.id node.document)
  else if a.nodes.length ≤ node.slot then .error (.unknownNode node)
  else .ok node.slot

/-- Source: `Document::record` -/
def record (node : NodeId) : Except DomError NodeRecord :=
  match a.checkedIndex node with
  | .error e => .error e
  | .ok index =>
    match a.nodes[index]? with
    | some r => .ok r
    | none => .error (.unknownNode node)

/-- Source: `Document::node_kind` -/
def nodeKind (node : NodeId) : Except DomError NodeKind := (a.record node).map (·.kind)

/-- Source: `Document::parent` -/
def parent (node : NodeId) : Except DomError (Option NodeId) := (a.record node).map (·.parent)

/-- Source: `Document::children` -/
def children (node : NodeId) : Except DomError (List NodeId) := (a.record node).map (·.children)

/-- Source: `Document::last_child` -/
def lastChild (node : NodeId) : Except DomError (Option NodeId) :=
  (a.children node).map (·.getLast?)

/-- The record behind a handle, if the handle is one of this arena's. -/
def record? (node : NodeId) : Option NodeRecord :=
  if node.document = a.id then a.nodes[node.slot]? else none

/-- The parent of a node; `none` also for a handle the arena does not have. -/
def parentOf (node : NodeId) : Option NodeId := (a.record? node).bind (·.parent)

/-- The children of a node; empty also for a handle the arena does not have. -/
def childrenOf (node : NodeId) : List NodeId := ((a.record? node).map (·.children)).getD []

/-- The kind of a node. -/
def kindOf (node : NodeId) : Option NodeKind := (a.record? node).map (·.kind)

lemma record?_eq_some :
    a.record? node = some r ↔ node.document = a.id ∧ a.nodes[node.slot]? = some r := by
  unfold record?
  split_ifs with h <;> simp [h]

/-- `record` succeeds exactly on the handles of this arena. -/
lemma record_eq_ok : a.record node = .ok r ↔ a.record? node = some r := by
  unfold record checkedIndex record?
  by_cases hd : node.document = a.id
  · by_cases hs : a.nodes.length ≤ node.slot
    · simp [hd, hs]
    · have hlt : node.slot < a.nodes.length := Nat.not_le.mp hs
      simp [hd, hs, hlt]
  · simp [hd]

lemma checkedIndex_eq_ok {i : ℕ} :
    a.checkedIndex node = .ok i ↔ i = node.slot ∧ (a.record? node).isSome := by
  unfold checkedIndex record?
  by_cases hd : node.document = a.id
  · by_cases hs : a.nodes.length ≤ node.slot
    · simp [hd, hs]
    · have hlt : node.slot < a.nodes.length := Nat.not_le.mp hs
      simp [hd, hs, hlt, eq_comm]
  · simp [hd]

lemma nodeKind_eq_ok {k : NodeKind} : a.nodeKind node = .ok k ↔ a.kindOf node = some k := by
  unfold nodeKind kindOf
  rcases h : a.record node with e | r
  · have : a.record? node = none := by
      rcases hr : a.record? node with _ | r
      · rfl
      · rw [(a.record_eq_ok).mpr hr] at h
        cases h
    simp [this, Except.map]
  · simp [(a.record_eq_ok).mp h, Except.map]

/-- The handle of a slot. -/
def handle (slot : ℕ) : NodeId := ⟨a.id, slot⟩

lemma record?_handle (slot : ℕ) : a.record? (a.handle slot) = a.nodes[slot]? := by
  simp [record?, handle]

/-- Every handle with a record is the handle of its slot. -/
lemma eq_handle_of_record? (h : a.record? node = some r) : node = a.handle node.slot := by
  obtain ⟨hd, -⟩ := (a.record?_eq_some).mp h
  rw [handle, ← hd]

/-! ## The two loops over the tree -/

/-- The loop of `is_inclusive_descendant`: climb from the cursor until `ancestor` or a root is
met. `none` means that the fuel ran out; a chain without a repeated node is shorter than the
arena, so with `nodes.length + 1` steps of fuel it means that the loop never ends. -/
def climbTo (ancestor : NodeId) : ℕ → Option NodeId → Option (Except DomError Bool)
  | _, none => some (.ok false)
  | 0, some _ => none
  | fuel + 1, some node =>
    if node = ancestor then some (.ok true)
    else
      match a.parent node with
      | .error e => some (.error e)
      | .ok cursor => climbTo ancestor fuel cursor

/-- Source: `Document::is_inclusive_descendant` -/
def isInclusiveDescendant (candidate ancestor : NodeId) : Option (Except DomError Bool) :=
  match a.checkedIndex candidate with
  | .error e => some (.error e)
  | .ok _ =>
    match a.checkedIndex ancestor with
    | .error e => some (.error e)
    | .ok _ => a.climbTo ancestor (a.nodes.length + 1) (some candidate)

/-- The loop of `document_order`: a stack of nodes still to be visited, last in first out. -/
def visit : ℕ → List NodeId → List NodeId → Option (Except DomError (List NodeId))
  | _, [], result => some (.ok result)
  | 0, _ :: _, _ => none
  | fuel + 1, node :: pending, result =>
    match a.children node with
    | .error e => some (.error e)
    | .ok cs => visit fuel (cs ++ pending) (result ++ [node])

/-- Nodes below the document, in document order. The stack is kept with its top first, so that the
children stand on it in order; `none` stands for a loop that never ends.
Source: `Document::document_order` -/
def documentOrder : Option (Except DomError (List NodeId)) :=
  a.visit (a.nodes.length + 1) [a.documentNode] []

/-- The nodes `validate_children` refuses under an element; a handle the arena does not have is not
one of them. -/
def isMisplaced (child : NodeId) : Bool :=
  match a.nodeKind child with
  | .ok .document => true
  | .ok (.documentType _) => true
  | _ => false

/-- Source: `Document::validate_children` -/
def validateChildren (parent : NodeId) (children : List NodeId) : Except DomError Unit :=
  match a.nodeKind parent with
  | .error e => .error e
  | .ok .document => go false false children
  | .ok (.element _) =>
    if children.any a.isMisplaced then .error .hierarchyRequest else .ok ()
  | .ok _ => .error .hierarchyRequest
where
  /-- The loop over the document's children. -/
  go (seenElement seenDoctype : Bool) : List NodeId → Except DomError Unit
    | [] => .ok ()
    | child :: rest =>
      match a.nodeKind child with
      | .error e => .error e
      | .ok (.element _) =>
        if seenElement then .error .hierarchyRequest else go true seenDoctype rest
      | .ok (.documentType _) =>
        if !seenDoctype && !seenElement then go seenElement true rest
        else .error .hierarchyRequest
      | .ok (.comment _) => go seenElement seenDoctype rest
      | .ok _ => .error .hierarchyRequest

end Arena

end WildBuzzard.Dom
