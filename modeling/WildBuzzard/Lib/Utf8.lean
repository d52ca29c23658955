import Mathlib.Data.List.TakeWhile
import WildBuzzard.Lib.Call
import WildBuzzard.Lib.Require

/-!
# Text with byte offsets

A Rust `&str` is read through byte offsets, and a slice at an offset inside a character panics. Here
a text is the list of its characters; `utf8` are its bytes, and `splitText`, `slice` cut it at byte
offsets and panic where Rust does.

* `IsBoundary s i`: offset `i` lies between two characters of `s`. **Slices at boundaries succeed**
  (`exists_slice`).
* A byte below 0x80 is a character of its own, and no byte of another character is below 0x80
  (`exists_of_utf8_getElem?`). So **a scan over bytes that cannot tell the others apart stops at a
  boundary** (`skipWhile_spec`), which is why scanning for ASCII delimiters is safe.
* The searches `findChar`, `rfindChar`, `findText` return boundaries; what they find first stays
  first when text is appended.
-/

namespace WildBuzzard.Lib

open List

/-! ## Bytes -/

variable (c : Char)

/-- The bytes of a text. -/
def utf8 (s : List Char) : List UInt8 := s.flatMap String.utf8EncodeChar

/-- The number of bytes of a text. -/
def byteLen (s : List Char) : ℕ := (utf8 s).length

@[simp] lemma utf8_nil : utf8 [] = [] := rfl

@[simp] lemma utf8_cons (s : List Char) : utf8 (c :: s) = String.utf8EncodeChar c ++ utf8 s := rfl

@[simp] lemma utf8_append (s t : List Char) : utf8 (s ++ t) = utf8 s ++ utf8 t :=
  flatMap_append

@[simp] lemma byteLen_nil : byteLen [] = 0 := rfl

@[simp] lemma byteLen_cons (s : List Char) : byteLen (c :: s) = c.utf8Size + byteLen s := by
  simp [byteLen, String.length_utf8EncodeChar]

@[simp] lemma byteLen_append (s t : List Char) : byteLen (s ++ t) = byteLen s + byteLen t := by
  simp [byteLen]

variable {s : List Char} {p : UInt8 → Bool} {i : ℕ} {r : List Char × List Char}

lemma byteLen_eq_zero : byteLen s = 0 ↔ s = [] := by
  cases s with
  | nil => simp
  | cons c s =>
    have := c.utf8Size_pos
    simp
    omega

/-- The bytes of a character: one below 0x80, or several that are not. -/
lemma utf8EncodeChar_cases :
    (∃ b, String.utf8EncodeChar c = [b] ∧ b.toNat < 0x80 ∧ b.toNat = c.toNat ∧ c.utf8Size = 1) ∨
      (∀ b ∈ String.utf8EncodeChar c, 0x80 ≤ b.toNat) ∧ 0x80 ≤ c.toNat ∧ 1 < c.utf8Size := by
  by_cases hc : c.utf8Size = 1
  · left
    have hval : c.toNat ≤ 127 := by
      have := Char.utf8Size_eq_one_iff.mp hc
      rwa [UInt32.le_iff_toNat_le] at this
    refine ⟨UInt8.ofNat c.toNat, ?_, ?_, ?_, hc⟩
    · unfold String.utf8EncodeChar
      exact if_pos hval
    · rw [UInt8.toNat_ofNat']
      omega
    · rw [UInt8.toNat_ofNat']
      omega
  · right
    have hval : ¬c.toNat ≤ 127 := by
      intro hle
      exact hc (Char.utf8Size_eq_one_iff.mpr (by rw [UInt32.le_iff_toNat_le]; exact hle))
    refine ⟨?_, by omega, ?_⟩
    · have hval' : ¬c.val.toNat ≤ 127 := hval
      unfold String.utf8EncodeChar
      simp only [hval', if_false]
      split_ifs
      all_goals
        intro b hb
        simp only [mem_cons, not_mem_nil, or_false] at hb
        rcases hb with rfl | hb
        · rw [UInt8.toNat_ofNat']
          omega
        · rcases hb with rfl | rfl | rfl <;> rw [UInt8.toNat_ofNat'] <;> omega
    · have := c.utf8Size_pos
      omega

/-- The first byte of a character. -/
def leadByte (c : Char) : UInt8 := (String.utf8EncodeChar c).headD 0

/-- A byte test that does not tell bytes of longer characters apart. -/
def AsciiTest (p : UInt8 → Bool) : Prop := ∀ x y : UInt8, 0x80 ≤ x.toNat → 0x80 ≤ y.toNat → p x = p y

namespace AsciiTest

variable {p q : UInt8 → Bool}

/-- A test that only ASCII bytes pass. -/
lemma of_lt (h : ∀ b, p b = true → b.toNat < 0x80) : AsciiTest p := by
  have hfalse : ∀ b : UInt8, 0x80 ≤ b.toNat → p b = false := by
    intro b hb
    by_contra hp
    have := h b (by simpa using hp)
    omega
  intro x y hx hy
  rw [hfalse x hx, hfalse y hy]

lemma not (hp : AsciiTest p) : AsciiTest fun b => !p b := by
  intro x y hx hy
  simp only [hp x y hx hy]

lemma and (hp : AsciiTest p) (hq : AsciiTest q) : AsciiTest fun b => p b && q b := by
  intro x y hx hy
  simp only [hp x y hx hy, hq x y hx hy]

lemma or (hp : AsciiTest p) (hq : AsciiTest q) : AsciiTest fun b => p b || q b := by
  intro x y hx hy
  simp only [hp x y hx hy, hq x y hx hy]

/-- Looking for an ASCII byte. -/
lemma ne {b : UInt8} (hb : b.toNat < 0x80) : AsciiTest fun x => x ≠ b := by
  have hne : ∀ x : UInt8, 0x80 ≤ x.toNat → x ≠ b := by
    rintro x hx rfl
    omega
  intro x y hx hy
  exact (decide_eq_true (hne x hx)).trans (decide_eq_true (hne y hy)).symm

end AsciiTest

/-- **A scan over bytes with such a test is a scan over characters.** -/
theorem takeWhile_utf8 (hp : AsciiTest p) (s : List Char) :
    (utf8 s).takeWhile p = utf8 (s.takeWhile fun c => p (leadByte c)) := by
  induction s with
  | nil => rfl
  | cons c s ih =>
    rw [utf8_cons, takeWhile_cons]
    rcases utf8EncodeChar_cases c with ⟨b, hb, -⟩ | ⟨hbytes, -⟩
    · have hlead : leadByte c = b := by simp [leadByte, hb]
      rw [hb, hlead, singleton_append, takeWhile_cons, ih]
      cases p b <;> simp [hb]
    · obtain ⟨b, bs, hb⟩ := exists_cons_of_ne_nil (@String.utf8EncodeChar_ne_nil c)
      have hlead : leadByte c = b := by simp [leadByte, hb]
      have hsame : ∀ x ∈ String.utf8EncodeChar c, p x = p b :=
        fun x hx => hp x b (hbytes x hx) (hbytes b (by simp [hb]))
      rw [hlead]
      cases hpb : p b with
      | true =>
        rw [takeWhile_append_of_pos fun x hx => (hsame x hx).trans hpb, ih]
        simp
      | false =>
        rw [hb, cons_append, takeWhile_cons, hpb]
        rfl

/-- A byte below 0x80 is a character. -/
lemma exists_of_utf8_getElem? {b : UInt8} (h : (utf8 s)[i]? = some b) (hb : b.toNat < 0x80) :
    ∃ a c t, s = a ++ c :: t ∧ byteLen a = i ∧ String.utf8EncodeChar c = [b] := by
  induction s generalizing i with
  | nil => simp at h
  | cons c s ih =>
    rw [utf8_cons] at h
    by_cases hi : i < (String.utf8EncodeChar c).length
    · rw [getElem?_append_left hi] at h
      have hmem := mem_of_getElem? h
      rcases utf8EncodeChar_cases c with ⟨b', hb', -⟩ | ⟨hbytes, -⟩
      · rw [hb'] at h hi
        obtain rfl : i = 0 := by simpa using hi
        refine ⟨[], c, s, rfl, rfl, ?_⟩
        rw [hb']
        simpa using h
      · exact absurd (hbytes b hmem) (by omega)
    · rw [getElem?_append_right (Nat.le_of_not_lt hi)] at h
      obtain ⟨a, d, t, rfl, ha, hd⟩ := ih h
      refine ⟨c :: a, d, t, rfl, ?_, hd⟩
      rw [byteLen_cons, ha, ← String.length_utf8EncodeChar]
      omega

/-! ## Cutting at byte offsets -/

/-- Cut a text at a byte offset; `none` if the offset is inside a character or past the end. -/
def splitAtByte : List Char → ℕ → Option (List Char × List Char)
  | s, 0 => some ([], s)
  | [], _ + 1 => none
  | c :: s, i + 1 =>
    if c.utf8Size ≤ i + 1 then
      (splitAtByte s (i + 1 - c.utf8Size)).map fun r => (c :: r.1, r.2)
    else none

lemma splitAtByte_append (a b : List Char) : splitAtByte (a ++ b) (byteLen a) = some (a, b) := by
  induction a with
  | nil => cases b <;> rfl
  | cons c a ih =>
    have hpos := c.utf8Size_pos
    obtain ⟨i, hi⟩ : ∃ i, byteLen (c :: a) = i + 1 := ⟨byteLen (c :: a) - 1, by simp; omega⟩
    have hi' : i + 1 - c.utf8Size = byteLen a := by
      rw [byteLen_cons] at hi
      omega
    have hle : c.utf8Size ≤ i + 1 := by
      rw [byteLen_cons] at hi
      omega
    rw [hi, cons_append, splitAtByte, if_pos hle, hi', ih]
    rfl

lemma splitAtByte_eq_some {s a b : List Char} :
    splitAtByte s i = some (a, b) ↔ s = a ++ b ∧ byteLen a = i := by
  constructor
  · intro h
    induction s generalizing i a with
    | nil =>
      cases i with
      | zero =>
        cases h
        exact ⟨rfl, rfl⟩
      | succ i => cases h
    | cons c s ih =>
      cases i with
      | zero =>
        cases h
        exact ⟨rfl, rfl⟩
      | succ i =>
        rw [splitAtByte] at h
        split_ifs at h with hle
        obtain ⟨⟨a', b'⟩, hr, heq⟩ := Option.map_eq_some_iff.mp h
        cases heq
        obtain ⟨rfl, ha⟩ := ih hr
        refine ⟨rfl, ?_⟩
        rw [byteLen_cons, ha]
        omega
  · rintro ⟨rfl, rfl⟩
    exact splitAtByte_append a b

/-- The offset lies between two characters, or at an end. -/
def IsBoundary (s : List Char) (i : ℕ) : Prop := ∃ a b, s = a ++ b ∧ byteLen a = i

lemma isBoundary_iff_isSome : IsBoundary s i ↔ (splitAtByte s i).isSome := by
  rw [Option.isSome_iff_exists]
  constructor
  · rintro ⟨a, b, rfl, rfl⟩
    exact ⟨(a, b), splitAtByte_append a b⟩
  · rintro ⟨⟨a, b⟩, h⟩
    obtain ⟨hs, hi⟩ := splitAtByte_eq_some.mp h
    exact ⟨a, b, hs, hi⟩

/-- The parts of a text before and after an offset. -/
def cutAtByte (s : List Char) (i : ℕ) : List Char × List Char := (splitAtByte s i).getD (s, [])

lemma cutAtByte_append (a b : List Char) : cutAtByte (a ++ b) (byteLen a) = (a, b) := by
  rw [cutAtByte, splitAtByte_append]
  rfl

lemma cutAtByte_spec (h : IsBoundary s i) :
    s = (cutAtByte s i).1 ++ (cutAtByte s i).2 ∧ byteLen (cutAtByte s i).1 = i := by
  obtain ⟨a, b, rfl, rfl⟩ := h
  rw [cutAtByte_append]
  exact ⟨rfl, rfl⟩

/-- The panic of a slice at an offset that is not a boundary. -/
def sliceError : Halt := .panic "byte index is not a char boundary"

/-- `s[..i]` and `s[i..]`. -/
def splitText (s : List Char) (i : ℕ) : Except Halt (List Char × List Char) :=
  match splitAtByte s i with
  | some r => .ok r
  | none => .error sliceError

/-- `s[i..j]`. -/
def slice (s : List Char) (i j : ℕ) : Except Halt (List Char) := do
  let upTo ← splitText s j
  let parts ← splitText upTo.1 i
  .ok parts.2

lemma splitText_append (a b : List Char) : splitText (a ++ b) (byteLen a) = .ok (a, b) := by
  rw [splitText, splitAtByte_append]

lemma splitText_eq_ok : splitText s i = .ok r ↔ s = r.1 ++ r.2 ∧ byteLen r.1 = i := by
  unfold splitText
  rw [← splitAtByte_eq_some]
  cases splitAtByte s i <;> simp

/-- The only failure of a cut is the panic. -/
lemma splitText_eq_error {h : Halt} :
    splitText s i = .error h ↔ ¬IsBoundary s i ∧ h = sliceError := by
  unfold splitText
  rcases hs : splitAtByte s i with _ | ⟨a, b⟩
  · simp only [Except.error.injEq]
    constructor
    · rintro rfl
      refine ⟨?_, rfl⟩
      rintro ⟨a, b, rfl, rfl⟩
      rw [splitAtByte_append] at hs
      cases hs
    · rintro ⟨-, rfl⟩
      rfl
  · simp only [reduceCtorEq, false_iff, not_and]
    intro hb
    exact absurd ⟨a, b, splitAtByte_eq_some.mp hs⟩ hb

lemma exists_splitText (h : IsBoundary s i) :
    ∃ a b, splitText s i = .ok (a, b) ∧ s = a ++ b ∧ byteLen a = i := by
  obtain ⟨a, b, rfl, rfl⟩ := h
  exact ⟨a, b, splitText_append a b, rfl, rfl⟩

lemma slice_append (a m b : List Char) :
    slice (a ++ m ++ b) (byteLen a) (byteLen (a ++ m)) = .ok m := by
  rw [slice, splitText_append, ok_bind, splitText_append]
  rfl

/-- `s[..i]` does not depend on what follows `s`. -/
lemma splitText_append_right (h : splitText s i = .ok r) (t : List Char) :
    splitText (s ++ t) i = .ok (r.1, r.2 ++ t) := by
  obtain ⟨rfl, rfl⟩ := splitText_eq_ok.mp h
  rw [append_assoc, splitText_append]

namespace IsBoundary

variable {s : List Char} {i j : ℕ}

lemma zero (s : List Char) : IsBoundary s 0 := ⟨[], s, rfl, rfl⟩

lemma atEnd (s : List Char) : IsBoundary s (byteLen s) := ⟨s, [], by simp, rfl⟩

lemma le_byteLen (h : IsBoundary s i) : i ≤ byteLen s := by
  obtain ⟨a, b, rfl, rfl⟩ := h
  simp

/-- An ASCII byte is at a boundary, and so is what follows it. -/
lemma of_ascii {b : UInt8} (h : (utf8 s)[i]? = some b) (hb : b.toNat < 0x80) :
    IsBoundary s i ∧ IsBoundary s (i + 1) := by
  obtain ⟨a, c, t, rfl, ha, hc⟩ := exists_of_utf8_getElem? h hb
  refine ⟨⟨a, c :: t, rfl, ha⟩, ⟨a ++ [c], t, by simp, ?_⟩⟩
  have hsize : c.utf8Size = 1 := by rw [← String.length_utf8EncodeChar, hc]; rfl
  simp [ha, hsize]

/-- Of two boundaries the earlier one cuts the text before the later one. -/
lemma split (hi : IsBoundary s i) (hj : IsBoundary s j) (hij : i ≤ j) :
    ∃ a m b, s = a ++ m ++ b ∧ byteLen a = i ∧ byteLen (a ++ m) = j := by
  obtain ⟨a, t, rfl, ha⟩ := hi
  obtain ⟨u, b, hs, hu⟩ := hj
  rcases append_eq_append_iff.mp hs with ⟨m, rfl, rfl⟩ | ⟨m, rfl, rfl⟩
  · exact ⟨a, m, b, by simp, ha, hu⟩
  · -- the later boundary would come first
    have hm : m = [] := by
      rw [byteLen_append] at ha
      exact byteLen_eq_zero.mp (by omega)
    subst hm
    exact ⟨u, [], t, by simp, by simpa using ha, by simpa using hu⟩

end IsBoundary

variable {c : Char}

/-- A boundary inside the first of two texts is one of that text. -/
lemma IsBoundary.of_append {s t : List Char} (h : IsBoundary (s ++ t) i) (hi : i ≤ byteLen s) :
    IsBoundary s i := by
  obtain ⟨a, m, b, hs, ha, ham⟩ := h.split ⟨s, t, rfl, rfl⟩ hi
  have hsm : s = a ++ m := append_inj_left' hs ?_
  · exact ⟨a, m, hsm, ha⟩
  · obtain ⟨k, hk⟩ : ∃ k, byteLen s = k := ⟨_, rfl⟩
    have h₁ : splitText (s ++ t) k = .ok (s, t) := hk ▸ splitText_append s t
    have h₂ : splitText (s ++ t) k = .ok (a ++ m, b) := by
      rw [hs, ← hk, ← ham, splitText_append]
    rw [h₁] at h₂
    cases h₂
    rfl

/-- A slice after a text is a cut of what follows it. -/
lemma slice_after (a s : List Char) (k : ℕ) :
    slice (a ++ s) (byteLen a) (byteLen a + k) = (splitText s k).map (·.1) := by
  rcases hk : splitText s k with h | ⟨m, b⟩
  · obtain ⟨hb, rfl⟩ := splitText_eq_error.mp hk
    have : splitText (a ++ s) (byteLen a + k) = .error sliceError := by
      refine splitText_eq_error.mpr ⟨?_, rfl⟩
      rintro hbound
      obtain ⟨a', m, b, hs, ha, ham⟩ := IsBoundary.split ⟨a, s, rfl, rfl⟩ hbound (Nat.le_add_right _ _)
      have hsplit : splitText (a ++ s) (byteLen a) = .ok (a', m ++ b) := by
        rw [hs, ← ha, append_assoc, splitText_append]
      rw [splitText_append] at hsplit
      cases hsplit
      rw [byteLen_append] at ham
      exact hb ⟨m, b, rfl, by omega⟩
    rw [slice, this]
    rfl
  · obtain ⟨rfl, rfl⟩ := splitText_eq_ok.mp hk
    rw [← byteLen_append, ← append_assoc, slice_append]
    rfl

/-- **Slices at boundaries succeed.** -/
theorem exists_slice {i j : ℕ} (hi : IsBoundary s i) (hj : IsBoundary s j) (hij : i ≤ j) :
    ∃ a m b, slice s i j = .ok m ∧ s = a ++ m ++ b ∧ byteLen a = i ∧ byteLen (a ++ m) = j := by
  obtain ⟨a, m, b, rfl, rfl, rfl⟩ := hi.split hj hij
  exact ⟨a, m, b, slice_append a m b, rfl, rfl, rfl⟩

/-- A slice does not depend on what follows the text. -/
lemma slice_append_right {j : ℕ} (hj : j ≤ byteLen s) (i : ℕ) (t : List Char) :
    slice (s ++ t) i j = slice s i j := by
  unfold slice
  rcases hs : splitText s j with h | r
  · obtain ⟨hb, rfl⟩ := splitText_eq_error.mp hs
    have : splitText (s ++ t) j = .error sliceError :=
      splitText_eq_error.mpr ⟨fun hb' => hb (hb'.of_append hj), rfl⟩
    rw [this]
  · rw [splitText_append_right hs, ok_bind, ok_bind]

/-! ## Scanning bytes -/

/-- `while cursor < stop && p(bytes[cursor]) { cursor += 1 }`, the final cursor. -/
def skipWhile (p : UInt8 → Bool) (bytes : List UInt8) (cursor stop : ℕ) : ℕ :=
  cursor + (((bytes.take stop).drop cursor).takeWhile p).length

lemma le_skipWhile (p : UInt8 → Bool) (bytes : List UInt8) (cursor stop : ℕ) :
    cursor ≤ skipWhile p bytes cursor stop := Nat.le_add_right _ _

/-- What a scan stops at before its end fails the test. -/
lemma exists_of_skipWhile_lt {bytes : List UInt8} {cursor stop : ℕ}
    (h : skipWhile p bytes cursor stop < stop) (hs : stop ≤ bytes.length) :
    ∃ b, bytes[skipWhile p bytes cursor stop]? = some b ∧ p b = false := by
  unfold skipWhile at h ⊢
  obtain ⟨m, hm⟩ : ∃ m, (bytes.take stop).drop cursor = m := ⟨_, rfl⟩
  have hlen : m.length = stop - cursor := by
    rw [← hm, length_drop, length_take, Nat.min_eq_left hs]
  have hsplit := takeWhile_append_dropWhile (p := p) (l := m)
  rw [hm] at h ⊢
  obtain ⟨b, rest, hrest⟩ : ∃ b rest, m.dropWhile p = b :: rest := by
    refine exists_cons_of_ne_nil ?_
    intro hnil
    rw [hnil, append_nil] at hsplit
    rw [hsplit] at h
    omega
  refine ⟨b, ?_, ?_⟩
  · have hget : m[(m.takeWhile p).length]? = some b := by
      rw [hrest] at hsplit
      have := congrArg (·[(m.takeWhile p).length]?) hsplit
      simpa using this.symm
    rw [← hm, getElem?_drop, getElem?_take] at hget
    split_ifs at hget
    rw [hm] at hget
    exact hget
  · have := head?_dropWhile_not p m
    rw [hrest] at this
    simpa using this

/-- **A scan between boundaries with an ASCII test stops at a boundary**: it passes the characters
that the test holds for. -/
theorem skipWhile_spec (hp : AsciiTest p) (a m b : List Char) :
    skipWhile p (utf8 (a ++ m ++ b)) (byteLen a) (byteLen (a ++ m)) =
      byteLen (a ++ m.takeWhile fun c => p (leadByte c)) := by
  have htake : (utf8 (a ++ m ++ b)).take (byteLen (a ++ m)) = utf8 a ++ utf8 m := by
    rw [utf8_append, byteLen, take_left, utf8_append]
  rw [skipWhile, htake, byteLen, drop_left, takeWhile_utf8 hp, ← byteLen, ← byteLen, byteLen_append]

lemma IsBoundary.skipWhile {cursor stop : ℕ} (hp : AsciiTest p) (hc : IsBoundary s cursor)
    (hs : IsBoundary s stop) (hle : cursor ≤ stop) :
    IsBoundary s (skipWhile p (utf8 s) cursor stop) ∧ skipWhile p (utf8 s) cursor stop ≤ stop := by
  obtain ⟨a, m, b, rfl, rfl, rfl⟩ := hc.split hs hle
  rw [skipWhile_spec hp]
  have hm := takeWhile_append_dropWhile (p := fun c => p (leadByte c)) (l := m)
  refine ⟨⟨a ++ m.takeWhile (fun c => p (leadByte c)), m.dropWhile (fun c => p (leadByte c)) ++ b,
    ?_, rfl⟩, ?_⟩
  · rw [append_assoc a (m.takeWhile _), ← append_assoc (m.takeWhile _), hm, append_assoc]
  · have hlen : byteLen m = byteLen (m.takeWhile fun c => p (leadByte c)) +
        byteLen (m.dropWhile fun c => p (leadByte c)) := by rw [← byteLen_append, hm]
    rw [byteLen_append, byteLen_append]
    omega

/-! ## Searching -/

/-- `str::find` for a character: the offset of the first one. -/
def findChar (c : Char) (s : List Char) : Option ℕ :=
  if c ∈ s then some (byteLen (s.takeWhile (· ≠ c))) else none

/-- `str::rfind` for a character: the offset of the last one. -/
def rfindChar (c : Char) : List Char → Option ℕ
  | [] => none
  | d :: s =>
    match rfindChar c s with
    | some i => some (d.utf8Size + i)
    | none => if d = c then some 0 else none

/-- `str::find` for a text: the offset of its first occurrence. -/
def findText (pattern : List Char) : List Char → Option ℕ
  | [] => if pattern = [] then some 0 else none
  | c :: s =>
    if pattern.isPrefixOf (c :: s) then some 0
    else (findText pattern s).map (c.utf8Size + ·)

lemma findChar_eq_some :
    findChar c s = some i ↔ ∃ a b, s = a ++ c :: b ∧ c ∉ a ∧ byteLen a = i := by
  unfold findChar
  constructor
  · intro h
    split_ifs at h with hmem
    obtain ⟨d, b, hd⟩ : ∃ d b, s.dropWhile (· ≠ c) = d :: b := by
      refine exists_cons_of_ne_nil ?_
      rw [Ne, dropWhile_eq_nil_iff]
      intro hall
      simpa using hall c hmem
    have hdc : d = c := by
      have := head?_dropWhile_not (fun x => decide (x ≠ c)) s
      rw [hd] at this
      simpa using this
    refine ⟨s.takeWhile (· ≠ c), b, ?_, ?_, by simpa using h⟩
    · rw [hdc] at hd
      rw [← hd, takeWhile_append_dropWhile]
    · intro hc
      simpa using mem_takeWhile_imp hc
  · rintro ⟨a, b, rfl, ha, rfl⟩
    have htake : (a ++ c :: b).takeWhile (· ≠ c) = a := by
      rw [takeWhile_append_of_pos (by
        intro x hx
        simp only [ne_eq, decide_eq_true_eq]
        rintro rfl
        exact ha hx)]
      simp
    rw [if_pos (by simp), htake]

lemma findChar_eq_none : findChar c s = none ↔ c ∉ s := by
  simp [findChar]

lemma rfindChar_eq_none (h : rfindChar c s = none) : c ∉ s := by
  induction s with
  | nil => simp
  | cons d s ih =>
    rw [rfindChar] at h
    split at h
    · cases h
    · rename_i hs
      split_ifs at h with hd
      rw [mem_cons]
      rintro (rfl | hmem)
      · exact hd rfl
      · exact ih hs hmem

lemma rfindChar_eq_some (h : rfindChar c s = some i) :
    ∃ a b, s = a ++ c :: b ∧ c ∉ b ∧ byteLen a = i := by
  induction s generalizing i with
  | nil => cases h
  | cons d s ih =>
    rw [rfindChar] at h
    split at h
    · rename_i j hj
      cases h
      obtain ⟨a, b, rfl, hb, rfl⟩ := ih hj
      exact ⟨d :: a, b, rfl, hb, by simp⟩
    · rename_i hs
      split_ifs at h with hd
      cases h
      exact ⟨[], s, by rw [hd]; rfl, rfindChar_eq_none hs, rfl⟩

lemma findText_eq_some {pattern s : List Char} (h : findText pattern s = some i) :
    ∃ a b, s = a ++ pattern ++ b ∧ byteLen a = i := by
  induction s generalizing i with
  | nil =>
    rw [findText] at h
    split_ifs at h with hp
    cases h
    exact ⟨[], [], by simp [hp], rfl⟩
  | cons c s ih =>
    rw [findText] at h
    split_ifs at h with hp
    · cases h
      obtain ⟨b, hb⟩ := isPrefixOf_iff_prefix.mp hp
      exact ⟨[], b, by simpa using hb.symm, rfl⟩
    · obtain ⟨j, hj, rfl⟩ := Option.map_eq_some_iff.mp h
      obtain ⟨a, b, rfl, rfl⟩ := ih hj
      exact ⟨c :: a, b, by simp, by simp⟩

/-- The first occurrence of a text stays the first one when text is appended. -/
lemma findText_append {pattern s : List Char} (h : findText pattern s = some i) (t : List Char) :
    findText pattern (s ++ t) = some i := by
  induction s generalizing i with
  | nil =>
    rw [findText] at h
    split_ifs at h with hp
    cases h
    subst hp
    cases t <;> simp [findText]
  | cons c s ih =>
    rw [findText] at h
    rw [cons_append, findText]
    split_ifs at h with hp
    · cases h
      obtain ⟨b, hb⟩ := isPrefixOf_iff_prefix.mp hp
      have : pattern.isPrefixOf (c :: (s ++ t)) = true :=
        isPrefixOf_iff_prefix.mpr ⟨b ++ t, by rw [← append_assoc, hb]; rfl⟩
      rw [if_pos this]
    · obtain ⟨j, hj, rfl⟩ := Option.map_eq_some_iff.mp h
      have hnot : ¬pattern.isPrefixOf (c :: (s ++ t)) = true := by
        intro hp'
        apply hp
        apply isPrefixOf_iff_prefix.mpr
        -- the pattern fits into the text before the appended one
        obtain ⟨a, b, hab, -⟩ := findText_eq_some hj
        have hlen : pattern.length ≤ (c :: s).length := by
          rw [hab]
          simp
          omega
        have hlong := isPrefixOf_iff_prefix.mp hp'
        exact prefix_of_prefix_length_le hlong (prefix_append (c :: s) t) hlen
      rw [if_neg hnot, ih hj]
      rfl

lemma findChar_append (h : findChar c s = some i) (t : List Char) :
    findChar c (s ++ t) = some i := by
  obtain ⟨a, b, rfl, ha, hi⟩ := findChar_eq_some.mp h
  exact findChar_eq_some.mpr ⟨a, b ++ t, by simp, ha, hi⟩

end WildBuzzard.Lib
