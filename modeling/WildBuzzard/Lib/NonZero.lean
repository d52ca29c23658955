import Mathlib.Algebra.Ring.Int.Defs
import Mathlib.Algebra.Ring.Nat
import Mathlib.Data.UInt

/-!
# Numbers that are not zero

The non-zero numbers of a type, for identities and counters that reserve zero.
-/

namespace WildBuzzard.Lib

variable {α : Type} [Zero α]

/-- A number that is not zero. -/
structure NonZero (α : Type) [Zero α] where
  get : α
  ne_zero : get ≠ 0
  deriving DecidableEq, Repr

namespace NonZero

/-- A number as a non-zero number. -/
def new [DecidableEq α] (value : α) : Option (NonZero α) :=
  if h : value ≠ 0 then some ⟨value, h⟩ else none

lemma ext_get {g k : NonZero α} (h : g.get = k.get) : g = k := by
  cases g
  cases k
  simp_all

lemma new_of_ne_zero [DecidableEq α] {value : α} (h : value ≠ 0) : new value = some ⟨value, h⟩ := by
  simp [new, h]

lemma get_of_new [DecidableEq α] {value : α} {k : NonZero α} (h : new value = some k) :
    k.get = value := by
  unfold new at h
  split at h
  · rw [← Option.some.inj h]
  · simp at h

end NonZero

end WildBuzzard.Lib
