import WildBuzzard.Lib.Call

/-!
# Calls with their interruptions erased

An `Eraser` takes out of a state what makes calls fail with an error that is to be *skipped*: an
interruption after which the call may be made again. `burden` counts what there is to take out.

A call is `Erasable` at a state when **what it does there, it does without the interruptions**: the
same value, or the same error unless that is skipped, in the erased state; and a skipped error has
used up an interruption, so that only so many of them can come. The rules are for the calls that
sequences are built from.

A call *spares* the state when an interruption of it leaves the erased state as it was, so that the
call can be made again; a sequence does when nothing behind the first interruptible call can be
interrupted.
-/

namespace WildBuzzard.Lib

/-- What it means to take the interruptions out of a state. -/
structure Eraser (σ ε : Type) where
  /-- The state without interruptions. -/
  erase : σ → σ
  /-- The states that calls are made in. -/
  Valid : σ → Prop
  /-- How many interruptions there are. -/
  burden : σ → Nat
  /-- The errors that are interruptions. -/
  Skipped : ε → Prop

namespace Call

variable {σ τ ε α β : Type} {A : Eraser σ ε} {s : σ}

/-- The call does at the state what it does at the erased state. -/
def ErasableAt (A : Eraser σ ε) (m : Call σ ε α) (s : σ) : Prop :=
  (m s).Sat
    (fun a t => A.Valid t ∧ A.burden t ≤ A.burden s ∧ m (A.erase s) = .ok a (A.erase t))
    (fun e t => A.Valid t ∧ A.burden t ≤ A.burden s ∧ (A.Skipped e → A.burden t < A.burden s) ∧
      (¬A.Skipped e → m (A.erase s) = .err e (A.erase t)))
    (fun r => m (A.erase s) = .halt r)

/-- The call does at every state what it does at the erased state. -/
def Erasable (A : Eraser σ ε) (m : Call σ ε α) : Prop := ∀ s, A.Valid s → ErasableAt A m s

namespace ErasableAt

variable {c : Prop}

lemma pure (a : α) (h : A.Valid s) : ErasableAt A (Pure.pure a : Call σ ε α) s :=
  ⟨h, le_rfl, rfl⟩

lemma fail {e : ε} (h : A.Valid s) (he : ¬A.Skipped e) :
    ErasableAt A (Call.fail e : Call σ ε α) s :=
  ⟨h, le_rfl, fun hs => absurd hs he, fun _ => rfl⟩

lemma halt (r : Halt) : ErasableAt A (fun _ => .halt r : Call σ ε α) s := rfl

/-- The rest of a sequence starts where its first call leads to. -/
lemma bind {m : Call σ ε α} {f : α → Call σ ε β} (hm : ErasableAt A m s)
    (hf : ∀ a t, m s = .ok a t → A.Valid t → ErasableAt A (f a) t) : ErasableAt A (m >>= f) s := by
  unfold ErasableAt at hm ⊢
  rw [bind_apply, bind_apply]
  cases hrun : m s with
  | ok a t =>
    rw [hrun] at hm
    obtain ⟨hvalid, hburden, herased⟩ := hm
    have hnext := hf a t hrun hvalid
    rw [herased]
    refine hnext.imp₂ ?_ ?_
    · rintro b u ⟨hu, hle, heq⟩
      exact ⟨hu, Nat.le_trans hle hburden, heq⟩
    · rintro e u ⟨hu, hle, hless, heq⟩
      exact ⟨hu, Nat.le_trans hle hburden, fun hs => Nat.lt_of_lt_of_le (hless hs) hburden, heq⟩
  | err e t =>
    rw [hrun] at hm
    obtain ⟨hvalid, hburden, hless, herased⟩ := hm
    exact ⟨hvalid, hburden, hless, fun hs => by rw [herased hs]; rfl⟩
  | halt r =>
    rw [hrun] at hm
    have herased : m (A.erase s) = .halt r := hm
    rw [herased]
    rfl

/-- What is read of the state is not erased. -/
lemma read {f : σ → Call σ ε α} (hview : f (A.erase s) = f s) (hf : ErasableAt A (f s) s) :
    ErasableAt A (Call.read >>= f) s := by
  unfold ErasableAt at hf ⊢
  rw [bind_apply, bind_apply]
  have herased : ((Call.read : Call σ ε σ) (A.erase s)).andThen f = f s (A.erase s) :=
    congrFun hview (A.erase s)
  rw [herased]
  exact hf

lemma modify {g : σ → σ} (hvalid : A.Valid (g s)) (hburden : A.burden (g s) ≤ A.burden s)
    (hg : g (A.erase s) = A.erase (g s)) : ErasableAt A (Call.modify g : Call σ ε Unit) s :=
  ⟨hvalid, hburden, congrArg (Outcome.ok ()) hg⟩

lemma check [Decidable c] {e : ε} (h : A.Valid s) (he : ¬A.Skipped e) :
    ErasableAt A (Call.check c e : Call σ ε Unit) s := by
  unfold Call.check
  by_cases hc : c
  · rw [if_pos hc]
    exact pure () h
  · rw [if_neg hc]
    exact fail h he

lemma assert [Decidable c] {message : String} (h : A.Valid s) :
    ErasableAt A (Call.assert c message : Call σ ε Unit) s := by
  by_cases hc : c
  · have hpass : (Call.assert c message : Call σ ε Unit) = Pure.pure () := if_pos hc
    rw [hpass]
    exact pure () h
  · have hstop : (Call.assert c message : Call σ ε Unit) = fun _ => .halt (.panic message) :=
      if_neg hc
    rw [hstop]
    exact halt _

lemma ite [Decidable c] {m m' : Call σ ε α} (hm : c → ErasableAt A m s)
    (hm' : ¬c → ErasableAt A m' s) : ErasableAt A (if c then m else m') s := by
  by_cases hc : c
  · rw [if_pos hc]
    exact hm hc
  · rw [if_neg hc]
    exact hm' hc

/-- A call on a component, whose interruptions are those of the whole. -/
lemma focus {B : Eraser τ ε} {get : τ → σ} {set : σ → τ → τ} {m : Call σ ε α} {t : τ}
    (hm : ErasableAt A m (get t)) (hget : get (B.erase t) = A.erase (get t))
    (hset : ∀ u, A.Valid u → set (A.erase u) (B.erase t) = B.erase (set u t) ∧ B.Valid (set u t) ∧
      B.burden (set u t) = A.burden u)
    (hburden : B.burden t = A.burden (get t)) (hskip : B.Skipped = A.Skipped) :
    ErasableAt B (Call.focus get set id m) t := by
  unfold ErasableAt at hm ⊢
  rw [sat_focus]
  have herased : ∀ o, m (A.erase (get t)) = o →
      Call.focus get set id m (B.erase t) = o.trimap id id fun u => set u (B.erase t) := by
    intro o ho
    simp only [Call.focus, hget, ho]
  refine hm.mono ?_ ?_ ?_
  · rintro a u ⟨hu, hle, heq⟩
    obtain ⟨hput, hvalid, hrest⟩ := hset u hu
    refine ⟨hvalid, by omega, ?_⟩
    rw [herased _ heq]
    exact congrArg (Outcome.ok a) hput
  · rintro e u ⟨hu, hle, hless, heq⟩
    obtain ⟨hput, hvalid, hrest⟩ := hset u hu
    refine ⟨hvalid, by omega, fun hs => ?_, fun hs => ?_⟩
    · rw [hskip] at hs
      have := hless hs
      omega
    · rw [hskip] at hs
      rw [herased _ (heq hs)]
      exact congrArg (Outcome.err e) hput
  · intro r heq
    rw [herased _ heq]
    rfl

end ErasableAt

namespace Erasable

variable {c : Prop}

lemma pure (a : α) : Erasable A (Pure.pure a : Call σ ε α) := fun _ h => .pure a h

lemma bind {m : Call σ ε α} {f : α → Call σ ε β} (hm : Erasable A m) (hf : ∀ a, Erasable A (f a)) :
    Erasable A (m >>= f) :=
  fun s h => (hm s h).bind fun a t _ => hf a t

lemma read {f : σ → Call σ ε α} (hview : ∀ s, f (A.erase s) = f s) (hf : ∀ s, Erasable A (f s)) :
    Erasable A (Call.read >>= f) :=
  fun s h => .read (hview s) (hf s s h)

lemma modify {g : σ → σ} (hg : ∀ s, A.Valid s → A.Valid (g s) ∧ A.burden (g s) ≤ A.burden s ∧
      g (A.erase s) = A.erase (g s)) : Erasable A (Call.modify g : Call σ ε Unit) :=
  fun s h => .modify (hg s h).1 (hg s h).2.1 (hg s h).2.2

lemma check [Decidable c] {e : ε} (he : ¬A.Skipped e) :
    Erasable A (Call.check c e : Call σ ε Unit) :=
  fun _ h => .check h he

lemma assert [Decidable c] {message : String} :
    Erasable A (Call.assert c message : Call σ ε Unit) :=
  fun _ h => .assert h

lemma ofExcept {x : Except ε α} (he : ∀ e, x = .error e → ¬A.Skipped e) :
    Erasable A (Call.ofExcept x : Call σ ε α) := by
  intro s h
  cases x with
  | ok a => exact .pure a h
  | error e => exact .fail h (he e rfl)

lemma ite [Decidable c] {m m' : Call σ ε α} (hm : Erasable A m) (hm' : Erasable A m') :
    Erasable A (if c then m else m') :=
  fun s h => .ite (fun _ => hm s h) fun _ => hm' s h

end Erasable

/-! ## Calls that can be made again -/

/-- The call is never interrupted. -/
def Steady (A : Eraser σ ε) (m : Call σ ε α) : Prop :=
  ∀ s, (m s).Sat (fun _ _ => True) (fun e _ => ¬A.Skipped e) (fun _ => True)

/-- An interruption of the call leaves the erased state as it is. -/
def SparesAt (A : Eraser σ ε) (m : Call σ ε α) (s : σ) : Prop :=
  (m s).Sat (fun _ _ => True) (fun e t => A.Skipped e → A.erase t = A.erase s) (fun _ => True)

namespace Steady

lemma pure (a : α) : Steady A (Pure.pure a : Call σ ε α) := fun _ => trivial

lemma fail {e : ε} (he : ¬A.Skipped e) : Steady A (Call.fail e : Call σ ε α) := fun _ => he

lemma modify (g : σ → σ) : Steady A (Call.modify g : Call σ ε Unit) := fun _ => trivial

lemma bind {m : Call σ ε α} {f : α → Call σ ε β} (hm : Steady A m) (hf : ∀ a, Steady A (f a)) :
    Steady A (m >>= f) :=
  fun s => sat_bind.mpr ((hm s).imp fun a t _ => hf a t)

lemma read {f : σ → Call σ ε α} (hf : ∀ s, Steady A (f s)) : Steady A (Call.read >>= f) :=
  fun s => hf s s

lemma check {c : Prop} [Decidable c] {e : ε} (he : ¬A.Skipped e) :
    Steady A (Call.check c e : Call σ ε Unit) := by
  unfold Call.check
  split_ifs
  · exact pure ()
  · exact fail he

lemma assert (c : Prop) [Decidable c] (message : String) :
    Steady A (Call.assert c message : Call σ ε Unit) := by
  by_cases hc : c
  · rw [assert_eq_pure hc]
    exact pure ()
  · have hstop : (Call.assert c message : Call σ ε Unit) = fun _ => .halt (.panic message) :=
      if_neg hc
    rw [hstop]
    exact fun _ => trivial

lemma ofExcept {x : Except ε α} (he : ∀ e, x = .error e → ¬A.Skipped e) :
    Steady A (Call.ofExcept x : Call σ ε α) := by
  cases x with
  | ok a => exact pure a
  | error e => exact fail (he e rfl)

lemma ite {c : Prop} [Decidable c] {m m' : Call σ ε α} (hm : Steady A m) (hm' : Steady A m') :
    Steady A (if c then m else m') := by
  split_ifs
  · exact hm
  · exact hm'

end Steady

namespace SparesAt

variable {f : α → Call σ ε β}

/-- Nothing behind the call can be interrupted. -/
lemma bind {m : Call σ ε α} (hm : SparesAt A m s) (hf : ∀ a, Steady A (f a)) :
    SparesAt A (m >>= f) s := by
  refine sat_bind.mpr (hm.imp fun a t _ => ?_)
  exact (hf a t).mono (fun _ _ _ => trivial) (fun _ _ hnot hskip => absurd hskip hnot)
    fun _ _ => trivial

lemma read {f : σ → Call σ ε α} (hf : SparesAt A (f s) s) : SparesAt A (Call.read >>= f) s := hf

/-- The call itself is not interrupted and leaves the state as it is. -/
lemma after {m : Call σ ε α} (hm : Steady A m)
    (hf : ∀ a t, m s = .ok a t → A.erase t = A.erase s ∧ SparesAt A (f a) t) :
    SparesAt A (m >>= f) s := by
  unfold SparesAt
  have hsteady := hm s
  rw [bind_apply]
  cases hrun : m s with
  | ok a t =>
    obtain ⟨hsame, hrest⟩ := hf a t hrun
    exact hrest.imp₂ (fun _ _ h => h) (fun _ _ h hskip => (h hskip).trans hsame)
  | err e t =>
    rw [hrun] at hsteady
    exact fun hskip => absurd hskip hsteady
  | halt r => trivial

end SparesAt

end Call

end WildBuzzard.Lib
