import WildBuzzard.Lib.Call

/-!
# Mutually recursive procedures on a stack of bounded size

A family of mutually recursive procedures is given by their bodies, each with the family itself as
an argument for the calls it makes. `descend` ties the knot: a call puts a frame on the stack, runs
the body and takes the frame off again, and **a call for which the stack has no room left stops the
whole run with an overflow**. An overflow is an error that no procedure sees, so it keeps the state
it happened in.

A run is watched: `Descent.entries` is the list of all stacks that procedures were entered with, so
that what is nested in what can be stated of it.

`sat_descend` is the induction over the depth of the recursion, once for all procedures of a family:
each body meets its specification when the calls it makes, with one frame less of room, meet theirs.
-/

namespace WildBuzzard.Lib

/-- The procedures of a family, with what they take and return. -/
structure Signature where
  Name : Type
  Input : Name → Type
  Output : Name → Type

/-- One activation of a procedure: its name and the state it was entered in. -/
structure Frame (ν σ : Type) where
  name : ν
  entry : σ

/-- The state of a run: the procedures' own state, the activations under way (innermost first), and
all stacks that a procedure was entered with (latest first). -/
structure Descent (ν σ : Type) where
  state : σ
  stack : List (Frame ν σ)
  entries : List (List (Frame ν σ))

/-- Why a run ends without a value. -/
inductive Stop (ε : Type) where
  /-- A procedure returned an error. -/
  | error (e : ε)
  /-- The stack had no room for another frame. -/
  | overflow

namespace Descent

variable {ν σ : Type} (d : Descent ν σ)

/-- The run as it starts, on an empty stack. -/
def start (s : σ) : Descent ν σ := ⟨s, [], []⟩

/-- Put a frame on the stack. -/
def enter (p : ν) (d : Descent ν σ) : Descent ν σ :=
  { d with stack := ⟨p, d.state⟩ :: d.stack, entries := (⟨p, d.state⟩ :: d.stack) :: d.entries }

/-- Take the topmost frame off the stack. -/
def leave (d : Descent ν σ) : Descent ν σ := { d with stack := d.stack.tail }

@[simp] lemma enter_stack (p : ν) : (d.enter p).stack = ⟨p, d.state⟩ :: d.stack := rfl

end Descent

/-- One call for each procedure of a family. -/
def Procedures (F : Signature) (σ ε : Type) : Type :=
  ∀ p : F.Name, F.Input p → Call (Descent F.Name σ) (Stop ε) (F.Output p)

namespace Procedures

variable {F : Signature} {σ ε : Type}

/-- The family with these bodies, with room for so many frames on the stack. -/
def descend (bodies : Procedures F σ ε → Procedures F σ ε) : Nat → Procedures F σ ε
  | 0, _, _ => Call.fail .overflow
  | room + 1, p, x => do
    Call.modify (Descent.enter p)
    let y ← bodies (descend bodies room) p x
    Call.modify Descent.leave
    pure y

variable {bodies : Procedures F σ ε → Procedures F σ ε}
  {P : ∀ p : F.Name, F.Input p → Descent F.Name σ → Prop}
  {Q : ∀ p : F.Name, Descent F.Name σ → F.Output p → Descent F.Name σ → Prop}
  {E : F.Name → Descent F.Name σ → Stop ε → Descent F.Name σ → Prop} {capacity : Nat}

/-- A family whose stack has room for `room` more frames meets its specification. -/
def Meets (P : ∀ p : F.Name, F.Input p → Descent F.Name σ → Prop)
    (Q : ∀ p : F.Name, Descent F.Name σ → F.Output p → Descent F.Name σ → Prop)
    (E : F.Name → Descent F.Name σ → Stop ε → Descent F.Name σ → Prop) (capacity room : Nat)
    (call : Procedures F σ ε) : Prop :=
  ∀ p x d, P p x d → capacity ≤ d.stack.length + room →
    (call p x d).Ends (Q p d) (E p d)

/-- **Induction over the depth of the recursion**: a family meets its specification when no call is
made on a full stack, and each body, run on the stack with its own frame, meets it whenever the
calls it makes do. -/
theorem sat_descend (hroom : ∀ p x d, P p x d → d.stack.length < capacity)
    (hbody : ∀ room, Meets P Q E capacity room (descend bodies room) → ∀ p x d, P p x d →
      capacity ≤ (d.enter p).stack.length + room →
      (bodies (descend bodies room) p x (d.enter p)).Ends (fun y d' => Q p d y d'.leave)
        (E p d)) (room : Nat) : Meets P Q E capacity room (descend bodies room) := by
  induction room with
  | zero =>
    intro p x d hp hcapacity
    exact absurd (hroom p x d hp) (by omega)
  | succ room ih =>
    intro p x d hp hcapacity
    refine Call.sat_modify_bind.mpr (Call.sat_bind.mpr ?_)
    have hrest : capacity ≤ (d.enter p).stack.length + room := by
      rw [Descent.enter_stack, List.length_cons]
      omega
    exact (hbody room ih p x d hp hrest).imp fun y d' hy => hy

end Procedures

end WildBuzzard.Lib
