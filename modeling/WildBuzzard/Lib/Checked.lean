import Mathlib.Algebra.Ring.Nat
import Mathlib.Tactic.SplitIfs

/-!
# Checked arithmetic of 64 bits

Additions and subtractions of `u64` and `usize` that report an overflow instead of wrapping.
-/

namespace WildBuzzard.Lib

/-- The sum, if it fits in 64 bits. -/
def checkedAdd (a b : ℕ) : Option ℕ := if a + b < 2 ^ 64 then some (a + b) else none

/-- The difference, if it is not negative. -/
def checkedSub (a b : ℕ) : Option ℕ := if b ≤ a then some (a - b) else none

lemma checkedAdd_eq_some {a b c : ℕ} : checkedAdd a b = some c ↔ a + b < 2 ^ 64 ∧ a + b = c := by
  unfold checkedAdd
  split_ifs with h
  · rw [Option.some.injEq]
    exact ⟨fun hc => ⟨h, hc⟩, And.right⟩
  · exact ⟨nofun, fun hc => absurd hc.1 h⟩

variable {a b : ℕ}

lemma checkedAdd_of_lt (h : a + b < 2 ^ 64) : checkedAdd a b = some (a + b) := if_pos h

lemma checkedSub_eq_some {a b c : ℕ} : checkedSub a b = some c ↔ b ≤ a ∧ a - b = c := by
  unfold checkedSub
  split_ifs with h <;> simp [h]

lemma checkedSub_of_le (h : b ≤ a) : checkedSub a b = some (a - b) := if_pos h

lemma checkedSub_eq_none : checkedSub a b = none ↔ a < b := by
  unfold checkedSub
  split_ifs with h <;> simp <;> omega

end WildBuzzard.Lib
