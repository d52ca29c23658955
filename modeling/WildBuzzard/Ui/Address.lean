import WildBuzzard.Lib.Checked
import WildBuzzard.Lib.Utf8

/-!
# The address draft of a tab

The editable text of the address bar with its selection, in byte offsets, and the text an input
method is composing.

**A draft carries the validity of its selection**: both endpoints lie between two characters of the
text, so the slices the source takes at them do not panic. Every operation returns such a draft, and
a rejected one returns the error and leaves the draft as it was.
-/

namespace WildBuzzard.Ui

open Lib

/-! ## Selections -/

/-- Source: `AddressSelection` -/
structure AddressSelection where
  anchor : ℕ
  focus : ℕ
  deriving DecidableEq, Repr

/-- Source: `AddressEditError` -/
inductive AddressEditError where
  | tooLong (actual maximum : ℕ)
  | invalidSelection (anchor focus textBytes : ℕ)
  deriving DecidableEq, Repr

/-- Source: `CursorMove` -/
inductive CursorMove where
  | previous
  | next
  | start
  | atEnd
  deriving DecidableEq, Repr

namespace AddressSelection

/-- Both endpoints lie between two characters. -/
structure Valid (text : List Char) (selection : AddressSelection) : Prop where
  anchor : IsBoundary text selection.anchor
  focus : IsBoundary text selection.focus

instance (text : List Char) (selection : AddressSelection) : Decidable (selection.Valid text) :=
  decidable_of_iff
    ((splitAtByte text selection.anchor).isSome ∧ (splitAtByte text selection.focus).isSome) <| by
    simp only [← isBoundary_iff_isSome]
    exact ⟨fun h => ⟨h.1, h.2⟩, fun h => ⟨h.anchor, h.focus⟩⟩

/-- A caret. -/
def caret (position : ℕ) : AddressSelection := ⟨position, position⟩

/-- Source: `AddressSelection::at_end` -/
def atEnd (text : List Char) : AddressSelection := caret (byteLen text)

/-- Source: `AddressSelection::start` -/
def start (selection : AddressSelection) : ℕ := min selection.anchor selection.focus

/-- Source: `AddressSelection::end` -/
def finish (selection : AddressSelection) : ℕ := max selection.anchor selection.focus

/-- Source: `AddressSelection::is_collapsed` -/
def isCollapsed (selection : AddressSelection) : Bool := selection.anchor = selection.focus

variable {text : List Char} {selection : AddressSelection}

lemma valid_caret {position : ℕ} (h : IsBoundary text position) : (caret position).Valid text :=
  ⟨h, h⟩

lemma valid_atEnd (text : List Char) : (atEnd text).Valid text :=
  valid_caret (IsBoundary.atEnd text)

lemma Valid.start (h : selection.Valid text) : IsBoundary text selection.start := by
  rw [AddressSelection.start, Nat.min_def]
  split
  · exact h.anchor
  · exact h.focus

lemma Valid.finish (h : selection.Valid text) : IsBoundary text selection.finish := by
  rw [AddressSelection.finish, Nat.max_def]
  split
  · exact h.focus
  · exact h.anchor

end AddressSelection

/-! ## Drafts -/

/-- Source: `AddressPreedit` -/
structure AddressPreedit where
  text : List Char
  selection : Option AddressSelection
  deriving DecidableEq, Repr

/-- Source: `AddressEditState` -/
structure AddressEditState where
  text : List Char
  selection : AddressSelection
  preedit : Option AddressPreedit
  dirty : Bool
  maximumBytes : ℕ
  valid : selection.Valid text
  deriving DecidableEq

namespace AddressEditState

/-- Source: `AddressEditState::empty` -/
def empty (maximumBytes : ℕ) : AddressEditState where
  text := []
  selection := .atEnd []
  preedit := none
  dirty := false
  maximumBytes := maximumBytes
  valid := AddressSelection.valid_atEnd []

variable (edit : AddressEditState)

/-- Source: `AddressEditState::check_length` -/
def checkLength (actual : ℕ) : Except AddressEditError Unit :=
  if edit.maximumBytes < actual then .error (.tooLong actual edit.maximumBytes) else .ok ()

/-- Source: `AddressEditState::set_text` -/
def setText (text : List Char) : Except AddressEditError AddressEditState := do
  edit.checkLength (byteLen text)
  .ok { edit with
    text := text
    selection := .atEnd text
    preedit := none
    dirty := true
    valid := AddressSelection.valid_atEnd text }

/-- Source: `AddressEditState::set_selection` -/
def setSelection (selection : AddressSelection) : Except AddressEditError AddressEditState :=
  if h : selection.Valid edit.text then .ok { edit with selection := selection, valid := h }
  else .error (.invalidSelection selection.anchor selection.focus (byteLen edit.text))

/-- Source: `AddressEditState::select_all` -/
def selectAll : AddressEditState :=
  { edit with
    selection := ⟨0, byteLen edit.text⟩
    valid := ⟨IsBoundary.zero _, IsBoundary.atEnd _⟩ }

/-- The text with a range replaced and the caret behind the replacement.
Source: `String::replace_range` -/
def replaceRange (start finish : ℕ) (inserted : List Char) : AddressEditState :=
  let before := (cutAtByte edit.text start).1
  { edit with
    text := before ++ inserted ++ (cutAtByte edit.text finish).2
    selection := .caret (byteLen (before ++ inserted))
    preedit := none
    dirty := true
    valid := AddressSelection.valid_caret ⟨before ++ inserted, _, rfl, rfl⟩ }

/-- Source: `AddressEditState::insert` -/
def insert (inserted : List Char) : Except AddressEditError AddressEditState := do
  let overflow : AddressEditError := .tooLong (2 ^ 64 - 1) edit.maximumBytes
  let removed := edit.selection.finish - edit.selection.start
  let kept ← (checkedSub (byteLen edit.text) removed).elim (.error overflow) .ok
  let nextLen ← (checkedAdd kept (byteLen inserted)).elim (.error overflow) .ok
  edit.checkLength nextLen
  let _insertionEnd ←
    (checkedAdd edit.selection.start (byteLen inserted)).elim (.error overflow) .ok
  .ok (edit.replaceRange edit.selection.start edit.selection.finish inserted)

/-- Source: `AddressEditState::delete_selection` -/
def deleteSelection : AddressEditState :=
  edit.replaceRange edit.selection.start edit.selection.finish []

/-- The last boundary before `position`, or `otherwise` at the start of the text. -/
def previousBoundary (position otherwise : ℕ) : ℕ :=
  match (cutAtByte edit.text position).1 with
  | [] => otherwise
  | before => byteLen before.dropLast

/-- The first boundary after the character at `position`, or the end of the text. -/
def nextBoundary (position : ℕ) : ℕ :=
  match (cutAtByte edit.text position).2 with
  | c :: _ :: _ => position + c.utf8Size
  | _ => byteLen edit.text

/-- Source: `AddressEditState::clear_preedit` -/
def clearPreedit : AddressEditState := { edit with preedit := none }

/-- Source: `AddressEditState::backspace` -/
def backspace : AddressEditState :=
  if ¬edit.selection.isCollapsed then edit.deleteSelection
  else
    let caret := edit.selection.focus
    let previous := edit.previousBoundary caret caret
    if previous ≠ caret then edit.replaceRange previous caret [] else edit.clearPreedit

/-- Source: `AddressEditState::delete_forward` -/
def deleteForward : AddressEditState :=
  if ¬edit.selection.isCollapsed then edit.deleteSelection
  else
    let caret := edit.selection.focus
    let next := edit.nextBoundary caret
    if next ≠ caret then edit.replaceRange caret next [] else edit.clearPreedit

/-- Where a movement leads from a position.
Source: the `match` on a collapsed or extended selection of `AddressEditState::move_cursor` -/
def moveFrom (base : ℕ) : CursorMove → ℕ
  | .previous => edit.previousBoundary base 0
  | .next => edit.nextBoundary base
  | .start => 0
  | .atEnd => byteLen edit.text

/-- Where a movement leads.
Source: `target` of `AddressEditState::move_cursor` -/
def moveTarget (movement : CursorMove) (extend : Bool) : ℕ :=
  if ¬extend ∧ ¬edit.selection.isCollapsed then
    match movement with
    | .previous => edit.selection.start
    | .next => edit.selection.finish
    | .start => 0
    | .atEnd => byteLen edit.text
  else edit.moveFrom edit.selection.focus movement

lemma isBoundary_previousBoundary {position otherwise : ℕ} (h : IsBoundary edit.text position)
    (hother : IsBoundary edit.text otherwise) :
    IsBoundary edit.text (edit.previousBoundary position otherwise) := by
  obtain ⟨htext, -⟩ := cutAtByte_spec h
  unfold previousBoundary
  split
  · exact hother
  · rename_i hne
    refine ⟨(cutAtByte edit.text position).1.dropLast,
      [(cutAtByte edit.text position).1.getLast hne] ++ (cutAtByte edit.text position).2, ?_, rfl⟩
    rw [← List.append_assoc, List.dropLast_append_getLast]
    exact htext

lemma isBoundary_nextBoundary {position : ℕ} (h : IsBoundary edit.text position) :
    IsBoundary edit.text (edit.nextBoundary position) := by
  obtain ⟨htext, hlen⟩ := cutAtByte_spec h
  unfold nextBoundary
  split
  · rename_i c d rest hafter
    refine ⟨(cutAtByte edit.text position).1 ++ [c], d :: rest, ?_, ?_⟩
    · rw [List.append_assoc, List.singleton_append, ← hafter]
      exact htext
    · simp [hlen]
  · exact IsBoundary.atEnd _

lemma isBoundary_moveTarget (movement : CursorMove) (extend : Bool) :
    IsBoundary edit.text (edit.moveTarget movement extend) := by
  unfold moveTarget
  split
  · cases movement
    · exact edit.valid.start
    · exact edit.valid.finish
    · exact IsBoundary.zero _
    · exact IsBoundary.atEnd _
  · cases movement
    · exact edit.isBoundary_previousBoundary edit.valid.focus (IsBoundary.zero _)
    · exact edit.isBoundary_nextBoundary edit.valid.focus
    · exact IsBoundary.zero _
    · exact IsBoundary.atEnd _

/-- Source: `AddressEditState::move_cursor` -/
def moveCursor (movement : CursorMove) (extend : Bool) : AddressEditState :=
  { edit with
    selection := ⟨if extend then edit.selection.anchor else edit.moveTarget movement extend,
      edit.moveTarget movement extend⟩
    preedit := none
    valid := by
      refine ⟨?_, edit.isBoundary_moveTarget movement extend⟩
      split
      · exact edit.valid.anchor
      · exact edit.isBoundary_moveTarget movement extend }

/-- Source: `AddressEditState::set_preedit` -/
def setPreedit (text : List Char) (selection : Option AddressSelection) :
    Except AddressEditError AddressEditState := do
  edit.checkLength (byteLen text)
  match selection with
  | some range =>
    if ¬range.Valid text then
      .error (.invalidSelection range.anchor range.focus (byteLen text))
    else .ok { edit with preedit := if text = [] then none else some ⟨text, some range⟩ }
  | none => .ok { edit with preedit := if text = [] then none else some ⟨text, none⟩ }

/-- Source: `AddressEditState::accept_navigation_value` -/
def acceptNavigationValue (value : List Char) : AddressEditState :=
  { edit with
    text := value
    selection := .atEnd value
    preedit := none
    dirty := false
    valid := AddressSelection.valid_atEnd value }

/-- Source: `AddressEditState::revert_to` -/
def revertTo (value : List Char) : AddressEditState := (edit.acceptNavigationValue value).selectAll

end AddressEditState

/-- The edits a holder of a draft can make.
Source: the public methods of `AddressEditState`, reached through `BrowserSession::address_mut` -/
inductive AddressEdit where
  | setText (text : List Char)
  | setSelection (selection : AddressSelection)
  | selectAll
  | insert (text : List Char)
  | backspace
  | deleteForward
  | moveCursor (movement : CursorMove) (extend : Bool)
  | setPreedit (text : List Char) (selection : Option AddressSelection)
  | clearPreedit
  deriving DecidableEq, Repr

/-- Carry out an edit. -/
def AddressEditState.apply (edit : AddressEditState) :
    AddressEdit → Except AddressEditError AddressEditState
  | .setText text => edit.setText text
  | .setSelection selection => edit.setSelection selection
  | .selectAll => .ok edit.selectAll
  | .insert text => edit.insert text
  | .backspace => .ok edit.backspace
  | .deleteForward => .ok edit.deleteForward
  | .moveCursor movement extend => .ok (edit.moveCursor movement extend)
  | .setPreedit text selection => edit.setPreedit text selection
  | .clearPreedit => .ok edit.clearPreedit

end WildBuzzard.Ui
