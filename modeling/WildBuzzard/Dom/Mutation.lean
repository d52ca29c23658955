import Mathlib.Data.List.InsertIdx
import WildBuzzard.Dom.Arena

/-!
# The mutators

Source: `dom/src/lib.rs`, the `&mut self` methods of `Document`.

Every mutator but two has one shape: it reads and validates, and only then writes and counts the
revision up. A `Mutation` is that shape, a function of the arena that ends in one of four ways:
a failed check (`Stop.fail`), an early return with nothing to do (`Stop.done`), a loop that never
ends (`Stop.loop`), or the value and the new node records. `Mutation.run` turns it into the method:
the state is written and the revision counted exactly in the last case.

The two that are not of this shape, `detach` and `appendText`, are sequences of others.
-/

namespace WildBuzzard.Dom

open Lib

/-- How a mutator ends before it writes. -/
inductive Stop (α : Type) where
  | fail (error : DomError)
  | done (value : α)
  | loop

/-- The reading part of a mutator, up to the records it would write. -/
abbrev Mutation (α : Type) : Type := Arena → Except (Stop α) (α × List NodeRecord)

/-- Write the records and count the revision.
Source: `Document::bump_revision` and the assignments before it -/
def Document.commit {α : Type} (d : Document) (value : α) (nodes : List NodeRecord) :
    Outcome Document DomError α :=
  if d.revision < revisionMax then
    .ok value { d with nodes := nodes, revision := d.revision + 1 }
  else .halt revisionExhausted

/-- The method a mutation describes. -/
def Mutation.run {α : Type} (m : Mutation α) : Call Document DomError α := fun d =>
  match m d.toArena with
  | .error (.fail e) => .err e d
  | .error (.done value) => .ok value d
  | .error .loop => .halt .loop
  | .ok (value, nodes) => d.commit value nodes

/-- The `?` operator on a read. -/
def orFail {α β : Type} (x : Except DomError β) : Except (Stop α) β := x.mapError Stop.fail

/-- Write the children, the parent or the kind of one record. -/
def NodeRecord.withChildren (children : List NodeId) (r : NodeRecord) : NodeRecord :=
  { r with children }

@[inherit_doc NodeRecord.withChildren]
def NodeRecord.withParent (parent : Option NodeId) (r : NodeRecord) : NodeRecord :=
  { r with parent }

@[inherit_doc NodeRecord.withChildren]
def NodeRecord.withKind (kind : NodeKind) (r : NodeRecord) : NodeRecord :=
  { r with kind }

namespace Mutation

/-! ## Creation -/

/-- Source: `Document::allocate` -/
def allocate (kind : NodeKind) : Mutation NodeId := fun a => do
  require (a.nodes.length < slotLimit) (.fail .arenaCapacityExceeded)
  .ok (a.handle a.nodes.length, a.nodes ++ [⟨none, [], kind⟩])

/-- Source: `Document::create_element` -/
def createElement (name : QualifiedName) : Mutation NodeId := fun a => do
  require (name.localName ≠ "") (.fail .invalidName)
  allocate (.element ⟨name, []⟩) a

/-- Source: `Document::create_html_element` -/
def createHtmlElement (localName : String) : Mutation NodeId := fun a => do
  require (localName ≠ "") (.fail .invalidName)
  createElement (.ofHtml localName) a

/-- Source: `Document::create_text` -/
def createText (data : String) : Mutation NodeId := allocate (.text data)

/-- Source: `Document::create_comment` -/
def createComment (data : String) : Mutation NodeId := allocate (.comment data)

/-- Source: `Document::create_doctype` -/
def createDoctype (name publicId systemId : String) : Mutation NodeId :=
  allocate (.documentType ⟨name, publicId, systemId⟩)

/-! ## Tree structure -/

/-- `parent == child || self.is_inclusive_descendant(parent, child)?`, as the check it guards. -/
def requireNotBelow {α : Type} (a : Arena) (parent child : NodeId) : Except (Stop α) Unit :=
  if parent = child then .error (.fail .cycle)
  else
    match a.isInclusiveDescendant parent child with
    | none => .error .loop
    | some (.error e) => .error (.fail e)
    | some (.ok true) => .error (.fail .cycle)
    | some (.ok false) => .ok ()

/-- Taking a child out of its old parent's list; the old parent's handle is looked up first. -/
def dropFromParent {α : Type} (a : Arena) (oldParent : Option NodeId) (child : NodeId) :
    Except (Stop α) (List NodeRecord) :=
  match oldParent with
  | none => .ok a.nodes
  | some p => do
    let index ← orFail (a.checkedIndex p)
    .ok (a.nodes.modify index fun r => r.withChildren (r.children.filter (· ≠ child)))

/-- The checks of `insert_before` on its reference node, early return included. -/
def checkReference (a : Arena) (siblings : List NodeId) (child : NodeId) :
    Option NodeId → Except (Stop Unit) Unit
  | none => .ok ()
  | some reference => do
    let _ ← orFail (a.checkedIndex reference)
    require (reference ∈ siblings) (.fail .referenceIsNotChild)
    require (reference ≠ child) (.done ())

/-- Where `insert_before` puts the child among the siblings it keeps. -/
def insertionIndex (kept : List NodeId) : Option NodeId → Except (Stop Unit) ℕ
  | none => .ok kept.length
  | some reference =>
    match kept.idxOf? reference with
    | some i => .ok i
    | none => .error (.fail .referenceIsNotChild)

/-- Source: `Document::insert_before` -/
def insertBefore (parent child : NodeId) (reference : Option NodeId) : Mutation Unit := fun a => do
  let parentRecord ← orFail (a.record parent)
  let childRecord ← orFail (a.record child)
  checkReference a parentRecord.children child reference
  require (child ≠ a.documentNode) (.fail .hierarchyRequest)
  require (parentRecord.kind.isContainer = true) (.fail .hierarchyRequest)
  requireNotBelow a parent child
  let kept := parentRecord.children.filter (· ≠ child)
  let index ← insertionIndex kept reference
  let candidate := kept.insertIdx index child
  orFail (a.validateChildren parent candidate)
  let nodes ← dropFromParent a childRecord.parent child
  .ok ((), (nodes.modify parent.slot (·.withChildren candidate)).modify child.slot
    (·.withParent (some parent)))

/-- Source: `Document::append_child` -/
def appendChild (parent child : NodeId) : Mutation Unit := insertBefore parent child none

/-- The branch of `replace_child` for a node that replaces itself. -/
def checkSelfReplacement (parent newChild oldChild : NodeId) (oldRecord : NodeRecord) :
    Except (Stop Unit) Unit :=
  if newChild = oldChild then
    if oldRecord.parent = some parent then .error (.done ()) else .error (.fail .nodeIsNotChild)
  else .ok ()

/-- `children.iter().position(..).ok_or(NodeIsNotChild)?` -/
def childPosition {α : Type} (siblings : List NodeId) (child : NodeId) : Except (Stop α) ℕ :=
  match siblings.idxOf? child with
  | some i => .ok i
  | none => .error (.fail .nodeIsNotChild)

/-- Where `replace_child` puts the new child: at the old one's place, one less if the new child
stood before it in the same list. -/
def replacementIndex (siblings kept : List NodeId) (parent newChild : NodeId)
    (newRecord : NodeRecord) (oldPosition : ℕ) : ℕ :=
  let newPosition := if newRecord.parent = some parent then siblings.idxOf? newChild else none
  let shift := if newPosition.any (· < oldPosition) then 1 else 0
  min (oldPosition - shift) kept.length

/-- Source: `Document::replace_child` -/
def replaceChild (parent newChild oldChild : NodeId) : Mutation Unit := fun a => do
  let parentRecord ← orFail (a.record parent)
  let newRecord ← orFail (a.record newChild)
  let oldRecord ← orFail (a.record oldChild)
  checkSelfReplacement parent newChild oldChild oldRecord
  let oldPosition ← childPosition parentRecord.children oldChild
  require (newChild ≠ a.documentNode ∧ parentRecord.kind.isContainer = true)
    (.fail .hierarchyRequest)
  requireNotBelow a parent newChild
  let kept := parentRecord.children.filter fun node => node ≠ newChild ∧ node ≠ oldChild
  let candidate := kept.insertIdx
    (replacementIndex parentRecord.children kept parent newChild newRecord oldPosition) newChild
  orFail (a.validateChildren parent candidate)
  let nodes ← dropFromParent a newRecord.parent newChild
  .ok ((), ((nodes.modify parent.slot (·.withChildren candidate)).modify newChild.slot
    (·.withParent (some parent))).modify oldChild.slot (·.withParent none))

/-- Source: `Document::remove_child` -/
def removeChild (parent child : NodeId) : Mutation Unit := fun a => do
  let parentRecord ← orFail (a.record parent)
  let _ ← orFail (a.record child)
  let position ← childPosition parentRecord.children child
  .ok ((), (a.nodes.modify parent.slot
    (·.withChildren (parentRecord.children.eraseIdx position))).modify child.slot
    (·.withParent none))

/-! ## Attributes and character data -/

/-- `let NodeKind::Element(data) = .. else { return Err(NotAnElement) }` -/
def elementData {α : Type} : NodeKind → Except (Stop α) ElementData
  | .element data => .ok data
  | _ => .error (.fail .notAnElement)

/-- Give the first attribute of the name the value, or add the attribute at the end; with the value
it had before. -/
def assignAttribute (attributes : List Attribute) (name : AttributeName) (value : String) :
    Option String × List Attribute :=
  match attributes.findIdx? (·.isNamed name.ns name.localName) with
  | some i => (attributes[i]?.map (·.value), attributes.modify i fun attr => { attr with value })
  | none => (none, attributes ++ [⟨name, value⟩])

/-- Source: `Document::set_attribute` -/
def setAttribute (element : NodeId) (name : AttributeName) (value : String) :
    Mutation (Option String) := fun a => do
  require (name.localName ≠ "") (.fail .invalidName)
  let record ← orFail (a.record element)
  let data ← elementData record.kind
  let assigned := assignAttribute data.attributes name value
  .ok (assigned.1, a.nodes.modify element.slot
    (·.withKind (.element { data with attributes := assigned.2 })))

/-- Source: `Document::set_html_attribute` -/
def setHtmlAttribute (element : NodeId) (localName value : String) : Mutation (Option String) :=
  setAttribute element (.ofHtml localName) value

/-- Source: `Document::remove_attribute` -/
def removeAttribute (element : NodeId) (ns : Option String) (localName : String) :
    Mutation (Option Attribute) := fun a => do
  let record ← orFail (a.record element)
  let data ← elementData record.kind
  match data.attributes.findIdx? (·.isNamed ns localName) with
  | none => .error (.done none)
  | some i => .ok (data.attributes[i]?, a.nodes.modify element.slot
      (·.withKind (.element { data with attributes := data.attributes.eraseIdx i })))

/-- Replace the data of a text or comment; with the data it had. -/
def mapCharacterData {α : Type} (f : String → String) :
    NodeKind → Except (Stop α) (String × NodeKind)
  | .text data => .ok (data, .text (f data))
  | .comment data => .ok (data, .comment (f data))
  | _ => .error (.fail .notCharacterData)

/-- Source: `Document::append_character_data` -/
def appendCharacterData (node : NodeId) (suffix : String) : Mutation Unit := fun a => do
  let record ← orFail (a.record node)
  let mapped ← mapCharacterData (· ++ suffix) record.kind
  .ok ((), a.nodes.modify node.slot (·.withKind mapped.2))

/-- Source: `Document::set_character_data` -/
def setCharacterData (node : NodeId) (data : String) : Mutation String := fun a => do
  let record ← orFail (a.record node)
  let mapped ← mapCharacterData (fun _ => data) record.kind
  .ok (mapped.1, a.nodes.modify node.slot (·.withKind mapped.2))

end Mutation

namespace Document

/-- Source: `Document::new`, for a fresh document identity -/
def new (id : DocumentId) : Document := ⟨⟨id, [⟨none, [], .document⟩]⟩, 0⟩

/-! The mutators of the shape above, as methods. -/

/-- Source: `Document::create_element` -/
def createElement (name : QualifiedName) : Call Document DomError NodeId :=
  (Mutation.createElement name).run

/-- Source: `Document::create_html_element` -/
def createHtmlElement (localName : String) : Call Document DomError NodeId :=
  (Mutation.createHtmlElement localName).run

/-- Source: `Document::create_text` -/
def createText (data : String) : Call Document DomError NodeId := (Mutation.createText data).run

/-- Source: `Document::create_comment` -/
def createComment (data : String) : Call Document DomError NodeId :=
  (Mutation.createComment data).run

/-- Source: `Document::create_doctype` -/
def createDoctype (name publicId systemId : String) : Call Document DomError NodeId :=
  (Mutation.createDoctype name publicId systemId).run

/-- Source: `Document::append_child` -/
def appendChild (parent child : NodeId) : Call Document DomError Unit :=
  (Mutation.appendChild parent child).run

/-- Source: `Document::insert_before` -/
def insertBefore (parent child : NodeId) (reference : Option NodeId) :
    Call Document DomError Unit :=
  (Mutation.insertBefore parent child reference).run

/-- Source: `Document::replace_child` -/
def replaceChild (parent newChild oldChild : NodeId) : Call Document DomError Unit :=
  (Mutation.replaceChild parent newChild oldChild).run

/-- Source: `Document::remove_child` -/
def removeChild (parent child : NodeId) : Call Document DomError Unit :=
  (Mutation.removeChild parent child).run

/-- Source: `Document::set_attribute` -/
def setAttribute (element : NodeId) (name : AttributeName) (value : String) :
    Call Document DomError (Option String) :=
  (Mutation.setAttribute element name value).run

/-- Source: `Document::set_html_attribute` -/
def setHtmlAttribute (element : NodeId) (localName value : String) :
    Call Document DomError (Option String) :=
  (Mutation.setHtmlAttribute element localName value).run

/-- Source: `Document::remove_attribute` -/
def removeAttribute (element : NodeId) (ns : Option String) (localName : String) :
    Call Document DomError (Option Attribute) :=
  (Mutation.removeAttribute element ns localName).run

/-- Source: `Document::append_character_data` -/
def appendCharacterData (node : NodeId) (suffix : String) : Call Document DomError Unit :=
  (Mutation.appendCharacterData node suffix).run

/-- Source: `Document::set_character_data` -/
def setCharacterData (node : NodeId) (data : String) : Call Document DomError String :=
  (Mutation.setCharacterData node data).run

/-! The two methods made of others. -/

/-- Source: `Document::detach` -/
def detach (node : NodeId) : Call Document DomError Bool := do
  let parent ← Call.query fun d => d.parent node
  match parent with
  | none => pure false
  | some parent => do
    removeChild parent node
    pure true

/-- The last child of a node, if it is a text node. -/
def lastTextChild (parent : NodeId) : Call Document DomError (Option NodeId) := do
  let last ← Call.query fun d => d.lastChild parent
  match last with
  | none => pure none
  | some node => do
    let kind ← Call.query fun d => d.nodeKind node
    pure (if kind.isText then some node else none)

/-- Source: `Document::append_text` -/
def appendText (parent : NodeId) (data : String) : Call Document DomError NodeId := do
  let _ ← Call.query fun d => d.checkedIndex parent
  match ← lastTextChild parent with
  | some last => do
    appendCharacterData last data
    pure last
  | none => do
    let text ← createText data
    appendChild parent text
    pure text

end Document

end WildBuzzard.Dom
