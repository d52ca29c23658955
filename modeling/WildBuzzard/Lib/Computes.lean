import WildBuzzard.Lib.Call

/-!
# Checked computations

A computation with checked operations has an exact value, the one it would have without the checks,
and it either gives this value or fails. `Computes x value fits` says that `x` gives nothing but
`value`, and that it does give it if the condition `fits` holds; the rules build such a statement
along the computation, so that what a result is and when there is one are proved together.
-/

namespace WildBuzzard.Lib

open List

variable {ε α β σ : Type}

/-- The computation gives nothing but the value, and gives it under a condition. -/
structure Computes (x : Except ε α) (value : α) (fits : Prop) : Prop where
  exact : ∀ r, x = .ok r → r = value
  total : fits → x = .ok value

namespace Computes

variable {x : Except ε α} {value : α} {fits fits' : Prop}

lemma ok (value : α) : Computes (.ok value : Except ε α) value fits :=
  ⟨fun _ h => (Except.ok.inj h).symm, fun _ => rfl⟩

lemma mono (h : Computes x value fits) (hfits : fits' → fits) : Computes x value fits' :=
  ⟨h.exact, fun hf => h.total (hfits hf)⟩

/-- A check in front of a value. -/
lemma guarded {c : Prop} [Decidable c] (value : α) (e : ε) :
    Computes (if c then .ok value else .error e) value c := by
  split_ifs with hc
  · exact ok value
  · exact ⟨fun _ h => (nomatch h), fun h => absurd h hc⟩

lemma bind {f : α → Except ε β} {value' : β} (h : Computes x value fits)
    (h' : Computes (f value) value' fits) : Computes (x >>= f) value' fits := by
  constructor
  · intro r hr
    cases x with
    | ok a =>
      obtain rfl := h.exact a rfl
      exact h'.exact r hr
    | error e => simp [Bind.bind, Except.bind] at hr
  · intro hf
    rw [h.total hf]
    exact h'.total hf

/-- A fold that adds up sizes, each of them at most `size`: it fits if the largest sum would. -/
lemma foldlM_sum {f : Int → α → Except ε Int} {g : α → Int} {size bound : Nat} {l : List α}
    (hf : ∀ b, ∀ a ∈ l, Computes (f b a) (b + g a) (b.natAbs + size < bound))
    (hsize : ∀ a ∈ l, (g a).natAbs ≤ size) (b : Int) :
    Computes (l.foldlM f b) (b + (l.map g).sum) (b.natAbs + l.length * size < bound) := by
  induction l generalizing b with
  | nil =>
    rw [map_nil, sum_nil, Int.add_zero]
    exact ok b
  | cons a rest ih =>
    have hrest := ih (fun b a ha => hf b a (mem_cons_of_mem _ ha))
      (fun a ha => hsize a (mem_cons_of_mem _ ha)) (b + g a)
    have ha := hsize a mem_cons_self
    rw [foldlM_cons, map_cons, sum_cons, ← Int.add_assoc, length_cons, Nat.succ_mul]
    refine ((hf b a mem_cons_self).mono fun h => ?_).bind (hrest.mono fun h => ?_)
    · omega
    · omega

/-- A checked computation in a call: it goes on with the value, or it did not fit. -/
lemma sat_bind {Q : β → σ → Prop} {E : ε → σ → Prop} {H : Halt → Prop}
    {n : α → Call σ ε β} {s : σ} (h : Computes x value fits) (hok : (n value s).Sat Q E H)
    (herr : ¬fits → ∀ e, E e s) : ((Call.ofExcept x >>= n) s).Sat Q E H := by
  refine Call.sat_ofExcept_bind.mpr ⟨fun a ha => ?_, fun e he => ?_⟩
  · obtain rfl := h.exact a ha
    exact hok
  · apply herr
    intro hf
    rw [h.total hf] at he
    simp at he

end Computes

end WildBuzzard.Lib
