import WildBuzzard.Ui.Address

/-!
# The address draft as the source stores it

An `AddressEditState` carries the validity of its selection, so its slices cannot fail. The source
stores bare fields: a slice or a replacement at an offset inside a character would panic there. Here
are the methods on the bare fields, statement by statement, and their relation to the drafts.

* **The methods refine the edits of a draft** (`perform_fields`): on the fields of a draft a method
  does what the edit does, without a panic, and changes nothing when it is rejected.
* **An editor stays well formed** over every sequence of edits (`run_wellFormed`).
-/

namespace WildBuzzard.Ui

open Lib Call List AddressSelection

/-- Source: `AddressEditState` -/
structure AddressBuffer where
  text : List Char
  selection : AddressSelection
  preedit : Option AddressPreedit
  dirty : Bool
  maximumBytes : ℕ
  deriving DecidableEq, Repr

/-- The fields of a draft. -/
abbrev AddressEditState.fields (edit : AddressEditState) : AddressBuffer :=
  ⟨edit.text, edit.selection, edit.preedit, edit.dirty, edit.maximumBytes⟩

namespace AddressBuffer

/-! ## Methods -/

/-- A method of the editor. -/
abbrev Method := Call AddressBuffer AddressEditError

/-- `&self.text[..index]` and `&self.text[index..]`. -/
def cut (index : ℕ) : Method (List Char × List Char) := fun edit =>
  match splitText edit.text index with
  | .ok parts => .ok parts edit
  | .error panic => .halt panic

/-- `self.text.replace_range(start..finish, inserted)`. -/
def replaceRange (start finish : ℕ) (inserted : List Char) : Method Unit := do
  assert (start ≤ finish) "range start is after its end"
  let before ← cut start
  let after ← cut finish
  modify fun edit => { edit with text := before.1 ++ inserted ++ after.2 }

/-- Source: `AddressEditState::check_length` -/
def checkLength (actual : ℕ) : Method Unit := do
  let edit ← read
  check (actual ≤ edit.maximumBytes) (.tooLong actual edit.maximumBytes)

/-- Source: `AddressSelection::new` -/
def checkSelection (text : List Char) (selection : AddressSelection) : Method Unit :=
  check (selection.Valid text)
    (.invalidSelection selection.anchor selection.focus (byteLen text))

/-- Source: `AddressEditState::set_text` -/
def setText (text : List Char) : Method Unit := do
  checkLength (byteLen text)
  modify fun edit =>
    { edit with text := text, selection := .atEnd text, preedit := none, dirty := true }

/-- Source: `AddressEditState::set_selection` -/
def setSelection (selection : AddressSelection) : Method Unit := do
  let edit ← read
  checkSelection edit.text selection
  modify fun edit => { edit with selection := selection }

/-- Source: `AddressEditState::select_all` -/
def selectAll : Method Unit :=
  modify fun edit => { edit with selection := ⟨0, byteLen edit.text⟩ }

/-- Source: `AddressEditState::insert` -/
def insert (inserted : List Char) : Method Unit := do
  let edit ← read
  let overflow : AddressEditError := .tooLong (2 ^ 64 - 1) edit.maximumBytes
  let removed := edit.selection.finish - edit.selection.start
  let kept ← ofExcept ((checkedSub (byteLen edit.text) removed).elim (.error overflow) .ok)
  let nextLen ← ofExcept ((checkedAdd kept (byteLen inserted)).elim (.error overflow) .ok)
  checkLength nextLen
  let insertionEnd ←
    ofExcept ((checkedAdd edit.selection.start (byteLen inserted)).elim (.error overflow) .ok)
  replaceRange edit.selection.start edit.selection.finish inserted
  modify fun edit => { edit with selection := .caret insertionEnd, preedit := none, dirty := true }

/-- Source: `AddressEditState::delete_selection` -/
def deleteSelection : Method Unit := do
  let edit ← read
  let start := edit.selection.start
  replaceRange start edit.selection.finish []
  modify fun edit => { edit with selection := .caret start, preedit := none, dirty := true }

/-- Source: `AddressEditState::clear_preedit` -/
def clearPreedit : Method Unit := modify fun edit => { edit with preedit := none }

/-- The last boundary before `position`, or `otherwise` at the start of the text.
Source: `self.text[..position].char_indices().next_back()` -/
def previousBoundary (position otherwise : ℕ) : Method ℕ := do
  let parts ← cut position
  pure <| match parts.1 with
    | [] => otherwise
    | before => byteLen before.dropLast

/-- The first boundary after the character at `position`, or the end of the text.
Source: `self.text[position..].char_indices().nth(1)` -/
def nextBoundary (position : ℕ) : Method ℕ := do
  let edit ← read
  let parts ← cut position
  pure <| match parts.2 with
    | c :: _ :: _ => position + c.utf8Size
    | _ => byteLen edit.text

/-- Source: `AddressEditState::backspace` -/
def backspace : Method Unit := do
  let edit ← read
  if ¬edit.selection.isCollapsed then deleteSelection
  else
    let caret := edit.selection.focus
    let previous ← previousBoundary caret caret
    if previous ≠ caret then
      replaceRange previous caret []
      modify fun edit => { edit with selection := .caret previous, dirty := true }
      clearPreedit
    else clearPreedit

/-- Source: `AddressEditState::delete_forward` -/
def deleteForward : Method Unit := do
  let edit ← read
  if ¬edit.selection.isCollapsed then deleteSelection
  else
    let caret := edit.selection.focus
    let next ← nextBoundary caret
    if next ≠ caret then
      replaceRange caret next []
      modify fun edit => { edit with dirty := true }
      clearPreedit
    else clearPreedit

/-- Source: `target` of `AddressEditState::move_cursor` -/
def moveTarget (movement : CursorMove) (extend : Bool) : Method ℕ := do
  let edit ← read
  if ¬extend ∧ ¬edit.selection.isCollapsed then
    match movement with
    | .previous => pure edit.selection.start
    | .next => pure edit.selection.finish
    | .start => pure 0
    | .atEnd => pure (byteLen edit.text)
  else
    match movement with
    | .previous => previousBoundary edit.selection.focus 0
    | .next => nextBoundary edit.selection.focus
    | .start => pure 0
    | .atEnd => pure (byteLen edit.text)

/-- Source: `AddressEditState::move_cursor` -/
def moveCursor (movement : CursorMove) (extend : Bool) : Method Unit := do
  let anchor := (← read).selection.anchor
  let target ← moveTarget movement extend
  modify fun edit =>
    { edit with selection := ⟨if extend then anchor else target, target⟩, preedit := none }

/-- Source: `AddressEditState::set_preedit` -/
def setPreedit (text : List Char) (selection : Option AddressSelection) : Method Unit := do
  checkLength (byteLen text)
  match selection with
  | some range => checkSelection text range
  | none => pure ()
  modify fun edit =>
    { edit with preedit := if text = [] then none else some ⟨text, selection⟩ }

/-- Carry out an edit. -/
def perform : AddressEdit → Method Unit
  | .setText text => setText text
  | .setSelection selection => setSelection selection
  | .selectAll => selectAll
  | .insert text => insert text
  | .backspace => backspace
  | .deleteForward => deleteForward
  | .moveCursor movement extend => moveCursor movement extend
  | .setPreedit text selection => setPreedit text selection
  | .clearPreedit => clearPreedit

/-- Carry out edits one after another; a rejected edit does not stop the ones behind it. -/
def run : List AddressEdit → Method (List (Except AddressEditError Unit)) :=
  runAll fun edit => (perform edit).settle .ok .error

/-! ## The methods refine the edits of a draft -/

variable {edit next : AddressEditState} {inserted : List Char} {i j limit : ℕ}
  {buffer : AddressBuffer}

/-- What a draft's edit amounts to on its fields. -/
def answer (edit : AddressEditState) :
    Except AddressEditError AddressEditState → Outcome AddressBuffer AddressEditError Unit
  | .ok next => .ok () next.fields
  | .error e => .err e edit.fields

lemma cut_fields (h : IsBoundary edit.text i) :
    cut i edit.fields = .ok (cutAtByte edit.text i) edit.fields := by
  obtain ⟨before, after, htext, rfl⟩ := h
  simp only [cut, htext, splitText_append, cutAtByte_append]

lemma previousBoundary_fields (h : IsBoundary edit.text i) :
    previousBoundary i j edit.fields = .ok (edit.previousBoundary i j) edit.fields :=
  bind_of_ok (cut_fields h)

lemma nextBoundary_fields (h : IsBoundary edit.text i) :
    nextBoundary i edit.fields = .ok (edit.nextBoundary i) edit.fields :=
  bind_of_ok (cut_fields h)

/-- A replacement between two boundaries does not panic. -/
lemma replaceRange_fields (hi : IsBoundary edit.text i) (hj : IsBoundary edit.text j)
    (hij : i ≤ j) :
    replaceRange i j inserted edit.fields =
      .ok () { edit.fields with text := (edit.replaceRange i j inserted).text } := by
  unfold replaceRange
  rw [assert_eq_pure hij]
  refine (bind_of_ok (cut_fields hi)).trans ?_
  exact bind_of_ok (cut_fields hj)

/-- The caret of a draft's replacement is behind what is inserted. -/
lemma fields_replaceRange (hi : IsBoundary edit.text i) :
    (edit.replaceRange i j inserted).fields =
      ⟨(edit.replaceRange i j inserted).text, .caret (i + byteLen inserted), none, true,
        edit.maximumBytes⟩ := by
  have hcaret : byteLen ((cutAtByte edit.text i).1 ++ inserted) = i + byteLen inserted := by
    rw [byteLen_append, (cutAtByte_spec hi).2]
  rw [← hcaret]
  rfl

lemma start_le_finish (selection : AddressSelection) : selection.start ≤ selection.finish :=
  Nat.le_trans (Nat.min_le_left _ _) (Nat.le_max_left _ _)

lemma eq_caret {selection : AddressSelection} (h : selection.isCollapsed) :
    selection = .caret selection.focus := by
  obtain ⟨anchor, focus⟩ := selection
  obtain rfl : anchor = focus := of_decide_eq_true h
  rfl

lemma deleteSelection_fields :
    deleteSelection edit.fields = .ok () edit.deleteSelection.fields := by
  rw [AddressEditState.deleteSelection, fields_replaceRange edit.valid.start]
  exact bind_of_ok (replaceRange_fields edit.valid.start edit.valid.finish (start_le_finish _))

lemma previousBoundary_le (h : IsBoundary edit.text i) : edit.previousBoundary i i ≤ i := by
  unfold AddressEditState.previousBoundary
  split
  · exact le_rfl
  · rename_i hne
    conv_rhs => rw [← (cutAtByte_spec h).2, ← dropLast_append_getLast hne, byteLen_append]
    exact Nat.le_add_right _ _

lemma le_nextBoundary (h : IsBoundary edit.text i) : i ≤ edit.nextBoundary i := by
  unfold AddressEditState.nextBoundary
  split
  · exact Nat.le_add_right _ _
  · exact h.le_byteLen

lemma ite_fields {c : Prop} [Decidable c] {m n : Method Unit} {x y : AddressEditState}
    (hm : c → m edit.fields = .ok () x.fields) (hn : ¬c → n edit.fields = .ok () y.fields) :
    (if c then m else n) edit.fields = .ok () (if c then x else y).fields := by
  split_ifs with hc
  · exact hm hc
  · exact hn hc

lemma backspace_fields : backspace edit.fields = .ok () edit.backspace.fields := by
  have hfocus := edit.valid.focus
  have hprevious := edit.isBoundary_previousBoundary hfocus hfocus
  refine ite_fields (fun _ => deleteSelection_fields) fun _ => ?_
  refine (bind_of_ok (previousBoundary_fields hfocus)).trans (ite_fields (fun _ => ?_) fun _ => rfl)
  rw [fields_replaceRange hprevious]
  exact bind_of_ok (replaceRange_fields hprevious hfocus (previousBoundary_le hfocus))

lemma deleteForward_fields : deleteForward edit.fields = .ok () edit.deleteForward.fields := by
  have hfocus := edit.valid.focus
  have hnext := edit.isBoundary_nextBoundary hfocus
  refine ite_fields (fun _ => deleteSelection_fields) fun hc => ?_
  refine (bind_of_ok (nextBoundary_fields hfocus)).trans (ite_fields (fun _ => ?_) fun _ => rfl)
  refine (bind_of_ok (replaceRange_fields hfocus hnext (le_nextBoundary hfocus))).trans ?_
  -- the source leaves the selection, which is this caret
  rw [fields_replaceRange hfocus, byteLen_nil, Nat.add_zero, ← eq_caret (not_not.mp hc)]
  rfl

lemma moveTarget_fields (movement : CursorMove) (extend : Bool) :
    moveTarget movement extend edit.fields = .ok (edit.moveTarget movement extend) edit.fields := by
  change (if ¬extend ∧ ¬edit.selection.isCollapsed then _ else _ : Method ℕ) edit.fields = _
  unfold AddressEditState.moveTarget
  split_ifs
  · cases movement <;> rfl
  · cases movement with
    | previous => exact previousBoundary_fields edit.valid.focus
    | next => exact nextBoundary_fields edit.valid.focus
    | start => rfl
    | atEnd => rfl

lemma ofExcept_bind_fields {α : Type} {x : Except AddressEditError α} {m : α → Method Unit}
    {r : α → Except AddressEditError AddressEditState}
    (h : ∀ a, x = .ok a → m a edit.fields = answer edit (r a)) :
    (ofExcept x >>= m) edit.fields = answer edit (x >>= r) := by
  cases x with
  | error e => rfl
  | ok a => exact h a rfl

lemma checkLength_bind_fields {n : ℕ} {m : Unit → Method Unit}
    {r : Unit → Except AddressEditError AddressEditState}
    (h : m () edit.fields = answer edit (r ())) :
    (checkLength n >>= m) edit.fields = answer edit (edit.checkLength n >>= r) := by
  have hcheck : checkLength n edit.fields = ofExcept (edit.checkLength n) edit.fields := by
    change check (n ≤ edit.maximumBytes) _ _ = _
    unfold check AddressEditState.checkLength
    split_ifs <;> first | rfl | omega
  rw [bind_apply, hcheck]
  exact ofExcept_bind_fields fun _ _ => h

lemma elim_eq_ok {α ε : Type} {o : Option α} {e : ε} {a : α}
    (h : o.elim (.error e) .ok = (.ok a : Except ε α)) : o = some a := by
  cases o with
  | none => cases h
  | some b => exact congrArg some (Except.ok.inj h)

lemma insert_fields (inserted : List Char) :
    insert inserted edit.fields = answer edit (edit.insert inserted) := by
  refine ofExcept_bind_fields fun kept _ => ofExcept_bind_fields fun nextLen _ => ?_
  refine checkLength_bind_fields (ofExcept_bind_fields fun insertionEnd hend => ?_)
  rw [answer, fields_replaceRange edit.valid.start, (checkedAdd_eq_some.mp (elim_eq_ok hend)).2]
  exact bind_of_ok (replaceRange_fields edit.valid.start edit.valid.finish (start_le_finish _))

/-- **On the fields of a draft a method does what the draft's edit does**: it does not panic, and
when the edit is rejected nothing has changed. -/
theorem perform_fields (edit : AddressEditState) (op : AddressEdit) :
    perform op edit.fields = answer edit (edit.apply op) := by
  cases op with
  | setText text => exact checkLength_bind_fields rfl
  | setSelection selection =>
    change (check (selection.Valid edit.text) _ >>= _ : Method Unit) edit.fields =
      answer edit (edit.setSelection selection)
    unfold check AddressEditState.setSelection
    split <;> rfl
  | selectAll => rfl
  | insert text => exact insert_fields text
  | backspace => exact backspace_fields
  | deleteForward => exact deleteForward_fields
  | moveCursor movement extend => exact bind_of_ok (moveTarget_fields movement extend)
  | setPreedit text selection =>
    refine checkLength_bind_fields ?_
    cases selection with
    | none => rfl
    | some range =>
      change (check (range.Valid text) _ >>= _ : Method Unit) edit.fields =
        answer edit (if ¬range.Valid text then _ else _)
      unfold check
      split_ifs <;> rfl
  | clearPreedit => rfl

/-! ## Well-formed editors -/

/-- The selection lies between characters, and the text and the preedit keep to the limit. -/
structure WellFormed (limit : ℕ) (buffer : AddressBuffer) : Prop where
  selection : buffer.selection.Valid buffer.text
  maximum : buffer.maximumBytes = limit
  text : byteLen buffer.text ≤ limit
  preedit : ∀ preedit ∈ buffer.preedit, byteLen preedit.text ≤ limit

/-- A replacement takes a part out of the text, and its caret is behind what it inserts. -/
lemma replaceRange_append {a m b : List Char} (h : edit.text = a ++ m ++ b) :
    (edit.replaceRange (byteLen a) (byteLen (a ++ m)) inserted).text = a ++ inserted ++ b ∧
      (edit.replaceRange (byteLen a) (byteLen (a ++ m)) inserted).selection =
        .caret (byteLen (a ++ inserted)) := by
  have hstart : cutAtByte edit.text (byteLen a) = (a, m ++ b) := by
    rw [h, append_assoc, cutAtByte_append]
  have hfinish : cutAtByte edit.text (byteLen (a ++ m)) = (a ++ m, b) := by
    rw [h, cutAtByte_append]
  simp only [AddressEditState.replaceRange, hstart, hfinish, and_self]

lemma checkLength_eq_ok {n : ℕ} {u : Unit} (h : edit.checkLength n = .ok u) :
    n ≤ edit.maximumBytes :=
  Nat.not_lt.mp (ite_error_eq_ok.mp h).1

lemma insert_eq_ok (hnext : edit.insert inserted = .ok next) :
    byteLen edit.text - (edit.selection.finish - edit.selection.start) + byteLen inserted ≤
        edit.maximumBytes ∧
      next = edit.replaceRange edit.selection.start edit.selection.finish inserted := by
  unfold AddressEditState.insert at hnext
  simp only [Lib.bind_eq_ok (f := fun _ => _)] at hnext
  obtain ⟨kept, hkept, nextLen, hlen, _, hcheck, _, _, hend⟩ := hnext
  rw [(checkedSub_eq_some.mp (elim_eq_ok hkept)).2, (checkedAdd_eq_some.mp (elim_eq_ok hlen)).2]
  exact ⟨checkLength_eq_ok hcheck, (Except.ok.inj hend).symm⟩

namespace WellFormed

variable (h : edit.fields.WellFormed limit)
include h

lemma replaceRange (hi : IsBoundary edit.text i) (hj : IsBoundary edit.text j) (hij : i ≤ j)
    (hlen : byteLen edit.text - (j - i) + byteLen inserted ≤ limit) :
    (edit.replaceRange i j inserted).fields.WellFormed limit := by
  refine ⟨(edit.replaceRange i j inserted).valid, h.maximum, ?_, nofun⟩
  obtain ⟨a, m, b, htext, rfl, rfl⟩ := hi.split hj hij
  change byteLen (edit.replaceRange _ _ inserted).text ≤ limit
  rw [(replaceRange_append htext).1]
  simp only [htext, byteLen_append] at hlen ⊢
  omega

lemma delete (hi : IsBoundary edit.text i) (hj : IsBoundary edit.text j) (hij : i ≤ j) :
    (edit.replaceRange i j []).fields.WellFormed limit :=
  h.replaceRange hi hj hij ((Nat.sub_le _ _).trans h.text)

lemma withPreedit {text : List Char} {range : Option AddressSelection}
    (hlen : byteLen text ≤ limit) :
    WellFormed limit
      { edit.fields with preedit := if text = [] then none else some ⟨text, range⟩ } := by
  refine ⟨h.selection, h.maximum, h.text, ?_⟩
  intro preedit hpreedit
  split_ifs at hpreedit
  · cases hpreedit
  · cases hpreedit
    exact hlen

/-- What one edit keeps. -/
lemma apply {op : AddressEdit} (hnext : edit.apply op = .ok next) :
    next.fields.WellFormed limit := by
  have hselection := h.delete edit.valid.start edit.valid.finish (start_le_finish _)
  have hclear : edit.clearPreedit.fields.WellFormed limit :=
    ⟨h.selection, h.maximum, h.text, nofun⟩
  have hfocus := edit.valid.focus
  cases op with
  | setText text =>
    obtain ⟨_, hlen, hend⟩ := Lib.bind_eq_ok.mp hnext
    cases hend
    exact ⟨valid_atEnd text, h.maximum,
      (checkLength_eq_ok hlen).trans_eq h.maximum, nofun⟩
  | setSelection selection =>
    simp only [AddressEditState.apply, AddressEditState.setSelection] at hnext
    split at hnext
    · rename_i hvalid
      cases hnext
      exact ⟨hvalid, h.maximum, h.text, h.preedit⟩
    · cases hnext
  | selectAll =>
    cases hnext
    exact ⟨edit.selectAll.valid, h.maximum, h.text, h.preedit⟩
  | insert text =>
    obtain ⟨hlen, rfl⟩ := insert_eq_ok hnext
    exact h.replaceRange edit.valid.start edit.valid.finish (start_le_finish _)
      (hlen.trans_eq h.maximum)
  | backspace =>
    cases hnext
    simp only [AddressEditState.backspace]
    split_ifs
    · exact h.delete (edit.isBoundary_previousBoundary hfocus hfocus) hfocus
        (previousBoundary_le hfocus)
    · exact hclear
    · exact hselection
  | deleteForward =>
    cases hnext
    simp only [AddressEditState.deleteForward]
    split_ifs
    · exact h.delete hfocus (edit.isBoundary_nextBoundary hfocus) (le_nextBoundary hfocus)
    · exact hclear
    · exact hselection
  | moveCursor movement extend =>
    cases hnext
    exact ⟨(edit.moveCursor movement extend).valid, h.maximum, h.text, nofun⟩
  | setPreedit text selection =>
    obtain ⟨_, hlen, hend⟩ := Lib.bind_eq_ok.mp hnext
    have hlimit := (checkLength_eq_ok hlen).trans_eq h.maximum
    cases selection with
    | none =>
      cases hend
      exact h.withPreedit hlimit
    | some range =>
      cases (ite_error_eq_ok.mp hend).2
      exact h.withPreedit hlimit
  | clearPreedit =>
    cases hnext
    exact hclear

end WellFormed

lemma WellFormed.exists_fields (h : buffer.WellFormed limit) :
    ∃ edit : AddressEditState, edit.fields = buffer :=
  ⟨⟨_, _, _, _, _, h.selection⟩, rfl⟩

/-- One edit of a well-formed editor. -/
lemma perform_sat (h : buffer.WellFormed limit) (op : AddressEdit) :
    (perform op buffer).Ends (fun _ after => after.WellFormed limit) (fun _ after => after = buffer) := by
  obtain ⟨edit, rfl⟩ := h.exists_fields
  rw [perform_fields]
  cases hnext : edit.apply op with
  | error e => rfl
  | ok next => exact h.apply hnext

/-- A backspace takes back one inserted character. -/
lemma backspace_insert {c : Char} (hc : edit.selection.isCollapsed)
    (hnext : edit.insert [c] = .ok next) :
    next.backspace.text = edit.text ∧ next.backspace.selection = edit.selection := by
  obtain ⟨a, b, htext, ha⟩ := edit.valid.focus
  have hcaret : edit.selection = .caret (byteLen a) := ha ▸ eq_caret hc
  obtain ⟨htext', hcaret'⟩ : next.text = a ++ [c] ++ b ∧
      next.selection = .caret (byteLen (a ++ [c])) := by
    have hinsert := @replaceRange_append edit [c] a [] b (by rw [append_nil, htext])
    rw [(insert_eq_ok hnext).2, hcaret]
    simpa [start, finish, caret] using hinsert
  have hprevious : next.previousBoundary (byteLen (a ++ [c])) (byteLen (a ++ [c])) = byteLen a := by
    rw [AddressEditState.previousBoundary, htext', cutAtByte_append]
    simp
  have hne : byteLen a ≠ byteLen (a ++ [c]) := by
    have := c.utf8Size_pos
    simp
    omega
  have hback : next.backspace = next.replaceRange (byteLen a) (byteLen (a ++ [c])) [] := by
    simp only [AddressEditState.backspace, hcaret', caret, isCollapsed, decide_true, not_true,
      if_false, hprevious, if_pos hne]
  have hdeleted := @replaceRange_append next [] a [c] b htext'
  rw [append_nil] at hdeleted
  rw [hback, htext, hcaret]
  exact hdeleted

/-- **The editor stays well formed.** From a well-formed editor every sequence of edits returns and
leaves a well-formed one, with the same limit. No edit of that one panics, a rejected edit changes
nothing, and a backspace after inserting one character at a caret restores the text and the
selection. -/
theorem run_wellFormed (h : buffer.WellFormed limit) (edits : List AddressEdit) :
    ∃ answers final, run edits buffer = .ok answers final ∧ final.WellFormed limit ∧
      (∀ op, (perform op final).Sat (fun _ after => after.WellFormed limit)
        (fun _ after => after = final) fun _ => False) ∧
      ∀ c after, final.selection.isCollapsed → perform (.insert [c]) final = .ok () after →
        ∃ back, perform .backspace after = .ok () back ∧ back.text = final.text ∧
          back.selection = final.selection := by
  have hrun : (run edits buffer).Sat (fun _ final => final.WellFormed limit) (fun _ _ => False)
      fun _ => False := by
    let I : List (Except AddressEditError Unit) → AddressBuffer → Prop := fun _ => WellFormed limit
    have hstart : I [] buffer := h
    refine sat_runAll ?_ hstart edits
    intro _ state op hstate
    refine sat_settle.mpr ((perform_sat hstate op).mono (fun _ _ h => h) ?_ fun _ h => h)
    rintro _ _ rfl
    exact hstate
  obtain ⟨answers, final, hfinal, hwf⟩ := hrun.exists_ok
  refine ⟨answers, final, hfinal, hwf, perform_sat hwf, ?_⟩
  intro c after hc hafter
  obtain ⟨edit, rfl⟩ := hwf.exists_fields
  rw [perform_fields, AddressEditState.apply] at hafter
  cases hnext : edit.insert [c] with
  | error e =>
    rw [hnext] at hafter
    cases hafter
  | ok next =>
    rw [hnext] at hafter
    cases hafter
    exact ⟨_, perform_fields next .backspace, backspace_insert hc hnext⟩

/-- A text of eight bytes is full: one edit is rejected, and what is then typed is taken back. -/
theorem run_wellFormed_empty :
    ∃ answers final after back,
      run [.insert ['é', '字'], .moveCursor .previous false, .insert ['字', '字'], .deleteForward]
        (AddressEditState.empty 8).fields = .ok answers final ∧ final.WellFormed 8 ∧
      perform (.insert ['字']) final = .ok () after ∧ perform .backspace after = .ok () back ∧
      back.text = final.text ∧ back.selection = final.selection := by
  have h : (AddressEditState.empty 8).fields.WellFormed 8 :=
    ⟨valid_atEnd [], rfl, by decide, nofun⟩
  obtain ⟨answers, final, hfinal, hwf, -, hlaw⟩ := run_wellFormed h
    [.insert ['é', '字'], .moveCursor .previous false, .insert ['字', '字'], .deleteForward]
  obtain ⟨-, rfl⟩ := Outcome.ok.inj (hfinal.symm.trans rfl)
  obtain ⟨back, hback⟩ := hlaw '字' _ rfl rfl
  exact ⟨_, _, _, back, hfinal, hwf, rfl, hback⟩

end AddressBuffer

end WildBuzzard.Ui
