import Mathlib.Tactic.SplitIfs

/-!
# Validation chains

A validation chain is a sequence of checks in `Except`: each one returns or raises its own error.
`require c e` is a single check, and the lemmas turn the statement that a whole chain returned a
value into the conjunction of what its steps established.
-/

namespace WildBuzzard.Lib

variable {ε α β : Type} {c : Prop} {e : ε}

/-- Go on if the condition holds, raise the error otherwise. -/
def require (c : Prop) [Decidable c] (e : ε) : Except ε Unit := if c then .ok () else .error e

@[simp] lemma require_eq_ok [Decidable c] {u : Unit} : require c e = .ok u ↔ c := by
  unfold require
  split_ifs with h <;> simp [h]

@[simp] lemma require_eq_error [Decidable c] {e e' : ε} :
    require c e = .error e' ↔ ¬c ∧ e = e' := by
  unfold require
  split_ifs with h <;> simp [h]

variable {f : α → Except ε β}

/-- A chain returns a value when its first step does and the rest does from there. -/
lemma bind_eq_ok {x : Except ε α} {b : β} : (x >>= f) = .ok b ↔ ∃ a, x = .ok a ∧ f a = .ok b := by
  cases x with
  | error e => simp [bind, Except.bind]
  | ok a => simp [bind, Except.bind]

/-- A chain fails when its first step does, or the rest does after it. -/
lemma bind_eq_error {x : Except ε α} :
    (x >>= f) = .error e ↔ x = .error e ∨ ∃ a, x = .ok a ∧ f a = .error e := by
  cases x with
  | error e => simp [bind, Except.bind]
  | ok a => simp [bind, Except.bind]

lemma ok_bind (a : α) (f : α → Except ε β) : (Except.ok a >>= f) = f a := rfl

lemma error_bind (e : ε) (f : α → Except ε β) : (Except.error e >>= f) = .error e := rfl

/-- A check in front of a chain. -/
lemma require_bind [Decidable c] {f : Unit → Except ε β} :
    (require c e >>= f) = if c then f () else .error e := by
  unfold require
  split_ifs <;> rfl

/-- One check of a chain written with conditionals. -/
lemma ite_error_eq_ok [Decidable c] {r : Except ε α} {a : α} :
    (if c then .error e else r) = Except.ok a ↔ ¬c ∧ r = .ok a := by
  split_ifs with h <;> simp [h]

end WildBuzzard.Lib
