import WildBuzzard.Lib.Call

/-!
# Loops of a call

A `loop` or `while` of a call is its body carried out again and again: each round **goes on** with
a new value of the loop's variables or **ends** the loop with a result. `Call.iterate` bounds the
number of rounds; a loop that has not ended within the bound halts, so a specification that rules
halts out also says that the loop ends.

* `sat_iterate` is the rule for a loop: an invariant that a round keeps, and a measure of the state
  that every round that goes on brings down.
* `Call.Uses` is the specification most readers of an input have: a condition leads to another, so
  much of the measure is used up, and the call does not halt.
-/

namespace WildBuzzard.Lib

/-- What a round of a loop decides. -/
inductive Round (α β : Type) where
  /-- Carry out another round with these variables. -/
  | next (carried : α)
  /-- Leave the loop with this result. -/
  | done (result : β)
  deriving DecidableEq, Repr

/-- What a round has to use up of a loop's measure: a round that goes on, something. -/
def Round.gain {α β : Type} : Round α β → Nat
  | next _ => 1
  | done _ => 0

/-- What holds after a round: one condition if it goes on, another if it ends the loop. -/
def Round.Leads {σ α β : Type} (Q : α → σ → Prop) (R : β → σ → Prop) : Round α β → σ → Prop
  | next a => Q a
  | done r => R r

namespace Call

variable {σ ε α β : Type}

/-- Carry out rounds until one ends the loop, at most `bound` of them. -/
def iterate (body : α → Call σ ε (Round α β)) : Nat → α → Call σ ε β
  | 0, _ => fun _ => .halt .loop
  | bound + 1, a => do
    match ← body a with
    | .next b => iterate body bound b
    | .done r => pure r

variable {body : α → Call σ ε (Round α β)} {bound : Nat}

lemma iterate_of_next {a b : α} {s t : σ} (h : body a s = .ok (.next b) t) :
    iterate body (bound + 1) a s = iterate body bound b t :=
  bind_of_ok h

lemma iterate_of_done {a : α} {r : β} {s t : σ} (h : body a s = .ok (.done r) t) :
    iterate body (bound + 1) a s = .ok r t :=
  bind_of_ok h

variable {Q : β → σ → Prop} {E : ε → σ → Prop} {H : Halt → Prop}

/-- **A loop ends and meets its specification** when its rounds keep an invariant and every round
that goes on brings the measure down. -/
theorem sat_iterate {I : α → σ → Prop} {measure : σ → Nat} (hround : ∀ a s, I a s → (body a s).Sat
      (fun
        | .next b, t => I b t ∧ measure t < measure s
        | .done r, t => Q r t) E H) {a : α} {s : σ} (hs : I a s) (hbound : measure s < bound) :
    (iterate body bound a s).Sat Q E H := by
  induction bound generalizing a s with
  | zero => exact absurd hbound (Nat.not_lt_zero _)
  | succ bound ih =>
    refine sat_bind.mpr ((hround a s hs).imp fun round t hround => ?_)
    cases round with
    | next b => exact ih hround.1 (by omega)
    | done r => exact hround

/-! ## Calls that use up an input -/

/-- From every state that satisfies `P` the call does not halt, and if it returns a value it leads
to a state that satisfies `Q` and uses up the `gain` of that value of the measure. -/
def Uses (measure : σ → Nat) (P : σ → Prop) (m : Call σ ε α) (Q : α → σ → Prop) (gain : α → Nat) :
    Prop :=
  ∀ s, P s → (m s).Ends (fun a t => Q a t ∧ measure t + gain a ≤ measure s) (fun _ _ => True)

namespace Uses

variable {measure : σ → Nat} {P P' : σ → Prop} {Q Q' : α → σ → Prop} {R : β → σ → Prop}
  {gain less : α → Nat} {later : β → Nat} {m m' : Call σ ε α}

lemma pure {a : α} (h : ∀ s, P s → Q a s) (hgain : gain a = 0) :
    Uses measure P (pure a : Call σ ε α) Q gain :=
  fun s hs => ⟨h s hs, by omega⟩

section

variable (h : Uses measure P m Q gain)
include h

lemma weaken (hP : ∀ s, P' s → P s) (hQ : ∀ a s, Q a s → Q' a s) (hle : ∀ a, less a ≤ gain a) :
    Uses measure P' m Q' less := by
  intro s hs
  refine (h s (hP s hs)).imp fun a t ht => ⟨hQ a t ht.1, ?_⟩
  have := hle a
  omega

lemma pre (hP : ∀ s, P' s → P s) : Uses measure P' m Q gain :=
  h.weaken hP (fun _ _ hq => hq) fun _ => le_rfl

lemma loosen (hle : ∀ a, less a ≤ gain a) : Uses measure P m Q less :=
  h.weaken (fun _ hp => hp) (fun _ _ hq => hq) hle

end

/-- **What a sequence uses up** is what its calls use up together. -/
theorem bind {f : α → Call σ ε β} (hm : Uses measure P m Q gain)
    (hf : ∀ a, Uses measure (Q a) (f a) R (fun b => later b - gain a)) :
    Uses measure P (m >>= f) R later := by
  intro s hs
  refine sat_bind.mpr ((hm s hs).imp fun a t ht => ?_)
  refine (hf a t ht.1).imp fun b u hu => ⟨hu.1, ?_⟩
  have hlater : measure u + (later b - gain a) ≤ measure t := hu.2
  omega

/-- The state read is the state the rest starts in. -/
lemma read {f : σ → Call σ ε β} (hf : ∀ a, P a → Uses measure (fun s => s = a) (f a) R later) :
    Uses measure P (Call.read >>= f) R later := fun s hs => hf s hs s rfl

lemma ite {c : Prop} [Decidable c] (hm : c → Uses measure P m Q gain)
    (hm' : ¬c → Uses measure P m' Q gain) : Uses measure P (if c then m else m') Q gain := by
  split
  · rename_i hc
    exact hm hc
  · rename_i hc
    exact hm' hc

/-- **A loop whose rounds use something up ends.** -/
theorem iterate {body : α → Call σ ε (Round α β)}
    (hround : ∀ a, Uses measure (Q a) (body a) (Round.Leads Q R) Round.gain) (bound : Nat) (a : α) :
    Uses measure (fun s => Q a s ∧ measure s < bound) (iterate body bound a) R (fun _ => 0) := by
  intro s hs
  refine sat_iterate (I := fun b t => Q b t ∧ measure t ≤ measure s) (fun b t ht => ?_)
    ⟨hs.1, le_rfl⟩ hs.2
  refine (hround b t ht.1).imp fun round u hu => ?_
  cases round with
  | next c =>
    have hless : measure u + 1 ≤ measure t := hu.2
    exact ⟨⟨hu.1, by omega⟩, hless⟩
  | done r =>
    have hle : measure u ≤ measure t := hu.2
    exact ⟨hu.1, Nat.le_trans hle ht.2⟩

end Uses

end Call

end WildBuzzard.Lib
