import Mathlib.Tactic.Ring
import Mathlib.Tactic.Linarith

/-!
# Little-endian fields at fixed offsets

A fixed wire header is a concatenation of little-endian fields, read back by byte offset. This
file is the arithmetic of that reading, with no particular header in mind.

* `leBytes w n` writes `n` in `w` bytes, least significant first; `leValue` reads a byte list.
  They are inverse to each other: `leValue_leBytes` below `256 ^ w`, `leBytes_leValue` on every
  list of length `w`.
* `field bytes o w` is the slice `bytes[o .. o + w]`. `drop_eq_field_append` peels one field off
  the front of what is left of a buffer; chained over the fields of a header it rebuilds the
  buffer from its own slices. `field_append_right` and `field_append_self` read a field back from
  a concatenation.
-/

namespace WildBuzzard.Lib

open List

/-- The `w` little-endian bytes of `n`; what does not fit in `w` bytes is lost. -/
def leBytes : ℕ → ℕ → List UInt8
  | 0, _ => []
  | w + 1, n => UInt8.ofNat n :: leBytes w (n / 256)

/-- The number whose little-endian bytes are given. -/
def leValue : List UInt8 → ℕ
  | [] => 0
  | b :: bs => b.toNat + 256 * leValue bs

@[simp] lemma leBytes_length (w n : ℕ) : (leBytes w n).length = w := by
  induction w generalizing n with
  | zero => rfl
  | succ w ih => simp [leBytes, ih]

/-- `w` bytes hold a number below `256 ^ w`. -/
lemma leValue_lt (bs : List UInt8) : leValue bs < 256 ^ bs.length := by
  induction bs with
  | nil => simp [leValue]
  | cons b bs ih =>
    have hb : b.toNat < 256 := b.toNat_lt
    simp only [leValue, length_cons, pow_succ]
    omega

/-- Writing and reading back is exact for every number that fits. -/
lemma leValue_leBytes {w n : ℕ} (h : n < 256 ^ w) : leValue (leBytes w n) = n := by
  induction w generalizing n with
  | zero =>
    have : n = 0 := by simpa using h
    simp [leBytes, leValue, this]
  | succ w ih =>
    have hdiv : n / 256 < 256 ^ w := by
      rw [pow_succ] at h
      exact Nat.div_lt_of_lt_mul (by linarith)
    simp only [leBytes, leValue, UInt8.toNat_ofNat', ih hdiv]
    omega

/-- Reading a byte list and writing it back in the same width is exact. -/
lemma leBytes_leValue {w : ℕ} {bs : List UInt8} (h : bs.length = w) :
    leBytes w (leValue bs) = bs := by
  induction bs generalizing w with
  | nil => subst h; rfl
  | cons b bs ih =>
    subst h
    have hb : b.toNat < 256 := b.toNat_lt
    have hhead : UInt8.ofNat (b.toNat + 256 * leValue bs) = b := by
      apply UInt8.toNat_inj.mp
      rw [UInt8.toNat_ofNat']
      omega
    have htail : (b.toNat + 256 * leValue bs) / 256 = leValue bs := by omega
    simp only [length_cons, leBytes, leValue, hhead, htail, ih rfl]

/-! ## Slices -/

/-- The slice `bytes[o .. o + w]`. -/
def field (bytes : List UInt8) (o w : ℕ) : List UInt8 := (bytes.drop o).take w

lemma field_length {bytes : List UInt8} {o w : ℕ} (h : o + w ≤ bytes.length) :
    (field bytes o w).length = w := by
  simp only [field, length_take, length_drop]
  omega

/-- One field peeled off the front of the rest of a buffer. -/
lemma drop_eq_field_append (bytes : List UInt8) (o w : ℕ) :
    bytes.drop o = field bytes o w ++ bytes.drop (o + w) := by
  rw [field, ← drop_drop, take_append_drop]

/-- A field that lies behind the first part of a concatenation. -/
lemma field_append_right {a b : List UInt8} {o w : ℕ} (h : a.length ≤ o) :
    field (a ++ b) o w = field b (o - a.length) w := by
  rw [field, field, drop_append, drop_eq_nil_of_le h, nil_append]

/-- The field that is exactly the first part of a concatenation. -/
lemma field_append_self {a b : List UInt8} {w : ℕ} (h : a.length = w) :
    field (a ++ b) 0 w = a := by
  rw [field, drop_zero, take_left' h]

end WildBuzzard.Lib
