import Mathlib.Algebra.Ring.Int.Defs
import Mathlib.Algebra.Ring.Nat
import Mathlib.Data.List.Basic

/-!
# Calls that change their receiver and may fail

A method that takes its receiver by `&mut` and returns a `Result` is a function from the state
before the call to an `Outcome`: a value or an error, **each with the state the call left behind**,
or a `Halt`, a call that never returns. An error keeps whatever was written before it was raised;
that is the difference from a state transformer over `Except`, and the reason for this file.

* `Call σ ε` is a monad: the `?` operator is its bind.
* `Outcome.Sat Q E H` says that the outcome satisfies `Q` if it is a value, `E` if it is an error
  and `H` if it is a halt. `sat_bind` reduces a sequence of calls to its first call, so that a
  specification of each callee (used through `Sat.mono`) proves one of the caller.
* `Call.focus` runs a call on a component of a larger state.
* `Call.runAll` carries out a list of operations and collects their answers; `sat_runAll` is
  induction over such a run, for a property of the answers so far and the state.
-/

namespace WildBuzzard.Lib

/-- Why a call does not return. -/
inductive Halt where
  /-- The call panics with a message. -/
  | panic (message : String)
  /-- A loop of the call never ends. -/
  | loop
  deriving DecidableEq, Repr

/-- What a call does: it returns a value or an error and leaves a state, or it never returns. -/
inductive Outcome (σ ε α : Type) where
  | ok (value : α) (state : σ)
  | err (error : ε) (state : σ)
  | halt (reason : Halt)
  deriving DecidableEq, Repr

namespace Outcome

variable {σ τ ε δ α β : Type}

/-- The state a call that returns leaves behind. -/
def state? : Outcome σ ε α → Option σ
  | ok _ s => some s
  | err _ s => some s
  | halt _ => none

/-- The value a call returns. -/
def value? : Outcome σ ε α → Option α
  | ok a _ => some a
  | err _ _ => none
  | halt _ => none

/-- The outcome meets one condition for each way it can end. -/
def Sat (o : Outcome σ ε α) (Q : α → σ → Prop) (E : ε → σ → Prop) (H : Halt → Prop) : Prop :=
  match o with
  | ok a s => Q a s
  | err e s => E e s
  | halt h => H h

/-- The outcome is a value or an error, and meets the condition for it. -/
abbrev Ends (o : Outcome σ ε α) (Q : α → σ → Prop) (E : ε → σ → Prop) : Prop :=
  o.Sat Q E fun _ => False

/-- Go on with the state and value of a call that returned a value. -/
def andThen (o : Outcome σ ε α) (f : α → σ → Outcome σ ε β) : Outcome σ ε β :=
  match o with
  | ok a s => f a s
  | err e s => err e s
  | halt h => halt h

/-- Rewrite the value, the error and the state of an outcome. -/
def trimap (o : Outcome σ ε α) (v : α → β) (e : ε → δ) (s : σ → τ) : Outcome τ δ β :=
  match o with
  | ok a t => ok (v a) (s t)
  | err x t => err (e x) (s t)
  | halt h => halt h

variable {Q Q' : α → σ → Prop} {E E' : ε → σ → Prop} {H H' : Halt → Prop} {o : Outcome σ ε α}

variable {s : σ}

@[simp] lemma sat_ok {a : α} : (ok a s : Outcome σ ε α).Sat Q E H ↔ Q a s := Iff.rfl

@[simp] lemma sat_err {e : ε} : (err e s : Outcome σ ε α).Sat Q E H ↔ E e s := Iff.rfl

section

variable (h : o.Sat Q E H)
include h

lemma Sat.mono (hQ : ∀ a s, Q a s → Q' a s) (hE : ∀ e s, E e s → E' e s) (hH : ∀ r, H r → H' r) :
    o.Sat Q' E' H' := by
  cases o with
  | ok a s => exact hQ a s h
  | err e s => exact hE e s h
  | halt r => exact hH r h

/-- The part of a specification that is about values, replaced. -/
lemma Sat.imp (hQ : ∀ a s, Q a s → Q' a s) : o.Sat Q' E H :=
  h.mono hQ (fun _ _ he => he) (fun _ hr => hr)

/-- The parts about values and about errors, replaced. -/
lemma Sat.imp₂ (hQ : ∀ a s, Q a s → Q' a s) (hE : ∀ e s, E e s → E' e s) : o.Sat Q' E' H :=
  h.mono hQ hE fun _ hr => hr

lemma Sat.and (h' : o.Sat Q' E' H') :
    o.Sat (fun a s => Q a s ∧ Q' a s) (fun e s => E e s ∧ E' e s) (fun r => H r ∧ H' r) := by
  cases o <;> exact ⟨h, h'⟩

/-- A specification read off an outcome that is known to be a value. -/
lemma Sat.of_ok {a : α} (ho : o = ok a s) : Q a s := by
  subst ho
  exact h

lemma Sat.of_err {e : ε} (ho : o = err e s) : E e s := by
  subst ho
  exact h

lemma Sat.of_halt {r : Halt} (ho : o = halt r) : H r := by
  subst ho
  exact h

end

/-- A call that neither fails nor halts returns a value. -/
lemma Sat.exists_ok (h : o.Sat Q (fun _ _ => False) (fun _ => False)) :
    ∃ a s, o = ok a s ∧ Q a s := by
  cases o with
  | ok a s => exact ⟨a, s, rfl, h⟩
  | err e s => exact h.elim
  | halt r => exact h.elim

lemma sat_andThen {R : β → σ → Prop} {f : α → σ → Outcome σ ε β} :
    (o.andThen f).Sat R E H ↔ o.Sat (fun a s => (f a s).Sat R E H) E H := by
  cases o <;> rfl

end Outcome

/-- A call on a receiver of type `σ`. -/
def Call (σ ε α : Type) : Type := σ → Outcome σ ε α

namespace Call

variable {σ τ ε δ α β : Type}

instance : Monad (Call σ ε) where
  pure a := fun s => .ok a s
  bind m f := fun s => (m s).andThen f

/-- Return an error and change nothing. -/
def fail (e : ε) : Call σ ε α := fun s => .err e s

/-- Read the receiver. -/
def read : Call σ ε σ := fun s => .ok s s

/-- Change the receiver. -/
def modify (f : σ → σ) : Call σ ε Unit := fun s => .ok () (f s)

/-- Go on if the condition holds, return the error otherwise. -/
def check (c : Prop) [Decidable c] (e : ε) : Call σ ε Unit := if c then pure () else fail e

/-- Go on if the condition holds, panic otherwise. -/
def assert (c : Prop) [Decidable c] (message : String) : Call σ ε Unit :=
  if c then pure () else fun _ => .halt (.panic message)

/-- The result of a pure function. -/
def ofExcept : Except ε α → Call σ ε α
  | .ok a => pure a
  | .error e => fail e

/-- A read-only method that may fail. -/
def query (f : σ → Except ε α) : Call σ ε α := fun s =>
  match f s with
  | .ok a => .ok a s
  | .error e => .err e s

/-- Run a call on a component, with its errors embedded in the caller's. -/
def focus (get : τ → σ) (set : σ → τ → τ) (wrap : ε → δ) (m : Call σ ε α) : Call τ δ α := fun t =>
  (m (get t)).trimap id wrap (fun s => set s t)

/-- Embed the errors of a call in the caller's. -/
def mapError (wrap : ε → δ) (m : Call σ ε α) : Call σ δ α := fun s => (m s).trimap id wrap id

/-- Take a value or an error as an answer of one type. -/
def settle (value : α → β) (error : ε → β) (m : Call σ ε α) : Call σ δ β := fun s =>
  match m s with
  | .ok a t => .ok (value a) t
  | .err e t => .ok (error e) t
  | .halt r => .halt r

/-- Carry out operations one after another and collect their answers. -/
def runAll (step : α → Call σ ε β) : List α → Call σ ε (List β)
  | [] => pure []
  | op :: rest => do
    let answer ← step op
    let answers ← runAll step rest
    pure (answer :: answers)

variable {Q : β → σ → Prop} {E : ε → σ → Prop} {H : Halt → Prop} {s : σ}

variable {c : Prop} [Decidable c] {step : α → Call σ ε β} {m : Call σ ε α} {f : α → Call σ ε β} {e : ε}
  {message : String} {n : Unit → Call σ ε β} {a : Unit} {t : σ}

lemma sat_settle {value : α → β} {error : δ → β} {m : Call σ δ α} :
    (settle value error m s).Sat Q E H ↔
      (m s).Sat (fun a => Q (value a)) (fun e => Q (error e)) H := by
  unfold settle
  cases m s <;> rfl

/-- A read-only method changes nothing. -/
lemma sat_query {f : σ → Except ε β} :
    (query f s).Sat Q E H ↔ (∀ b, f s = .ok b → Q b s) ∧ ∀ e, f s = .error e → E e s := by
  unfold query
  split <;> simp_all

@[simp] lemma pure_apply (a : α) (s : σ) : (pure a : Call σ ε α) s = .ok a s := rfl

@[simp] lemma bind_apply (m : Call σ ε α) (f : α → Call σ ε β) (s : σ) :
    (m >>= f) s = (m s).andThen f := rfl

/-- A sequence of calls returns a value when its calls do. -/
lemma bind_eq_ok {b : β} {s' : σ} :
    (m >>= f) s = .ok b s' ↔ ∃ a t, m s = .ok a t ∧ f a t = .ok b s' := by
  rw [bind_apply]
  cases m s with
  | ok a t =>
    constructor
    · intro h
      exact ⟨a, t, rfl, h⟩
    · rintro ⟨_, _, heq, h⟩
      cases heq
      exact h
  | err e t => simp [Outcome.andThen]
  | halt r => simp [Outcome.andThen]

/-- Two sequences with the same first call agree when the rests agree where it leads to. -/
lemma bind_congr_of_ok {f g : α → Call σ ε β}
    (h : ∀ a t, m s = .ok a t → f a t = g a t) : (m >>= f) s = (m >>= g) s := by
  rw [bind_apply, bind_apply]
  cases hm : m s with
  | ok a t => exact h a t hm
  | err e t => rfl
  | halt r => rfl

lemma bind_of_ok {a : α} (h : m s = .ok a t) : (m >>= f) s = f a t := by
  rw [bind_apply, h]
  rfl

/-- A check that is passed changes nothing. -/
lemma check_state (h : check c e s = .ok a t) : s = t := by
  unfold check at h
  split at h
  · exact (Outcome.ok.inj h).2
  · simp [fail] at h

lemma ofExcept_eq_ok {x : Except ε α} {a : α} (h : ofExcept x s = .ok a t) : x = .ok a ∧ s = t := by
  cases x with
  | ok b =>
    obtain ⟨rfl, rfl⟩ := Outcome.ok.inj h
    exact ⟨rfl, rfl⟩
  | error e => simp [ofExcept, fail] at h

lemma except_mapError_eq_ok {δ : Type} {x : Except δ α} {wrap : δ → ε} {a : α}
    (h : x.mapError wrap = .ok a) : x = .ok a := by
  cases x with
  | ok b => exact congrArg _ (Except.ok.inj h)
  | error e => simp [Except.mapError] at h

lemma check_holds (h : check c e s = .ok a t) : c := by
  by_contra hc
  rw [check, if_neg hc] at h
  simp [fail] at h

lemma check_eq_pure (hc : c) : (check c e : Call σ ε Unit) = pure () := if_pos hc

lemma assert_eq_pure (hc : c) : (assert c message : Call σ ε Unit) = pure () := if_pos hc

lemma assert_state (h : assert (ε := ε) c message s = .ok a t) : s = t := by
  by_cases hc : c
  · have hpass : assert (σ := σ) (ε := ε) c message s = .ok () s := congrFun (if_pos hc) s
    rw [hpass] at h
    exact (Outcome.ok.inj h).2
  · have hstop : assert (σ := σ) (ε := ε) c message s = .halt (.panic message) :=
      congrFun (if_neg hc) s
    rw [hstop] at h
    simp at h

/-- **A sequence of calls meets its specification when its first call leads to a state from which
the rest does.** -/
theorem sat_bind : ((m >>= f) s).Sat Q E H ↔ (m s).Sat (fun a s' => (f a s').Sat Q E H) E H :=
  Outcome.sat_andThen

/-- **The rule of sequence**: a specification of the first call, and what the rest does from where
it leads to. -/
theorem sat_seq {P : α → σ → Prop} {F : ε → σ → Prop} (hm : (m s).Sat P F H)
    (hf : ∀ a t, P a t → (f a t).Sat Q E H) (he : ∀ e t, F e t → E e t) : ((m >>= f) s).Sat Q E H :=
  sat_bind.mpr (hm.imp₂ hf he)

lemma sat_check {R : Unit → σ → Prop} : (check c e s).Sat R E H ↔ (c → R () s) ∧ (¬c → E e s) := by
  unfold check
  split_ifs with hc
  · exact ⟨fun h => ⟨fun _ => h, fun hn => absurd hc hn⟩, fun h => h.1 hc⟩
  · exact ⟨fun h => ⟨fun hn => absurd hn hc, fun _ => h⟩, fun h => h.2 hc⟩

lemma sat_check_bind :
    ((check c e >>= n) s).Sat Q E H ↔ (c → (n () s).Sat Q E H) ∧ (¬c → E e s) := by
  rw [sat_bind]
  exact sat_check

lemma sat_assert_bind :
    ((assert c message >>= n) s).Sat Q E H ↔
      (c → (n () s).Sat Q E H) ∧ (¬c → H (.panic message)) := by
  rw [sat_bind]
  by_cases hc : c
  · have hpass : assert (σ := σ) (ε := ε) c message s = .ok () s := congrFun (if_pos hc) s
    rw [hpass]
    exact ⟨fun h => ⟨fun _ => h, fun hn => absurd hc hn⟩, fun h => h.1 hc⟩
  · have hstop : assert (σ := σ) (ε := ε) c message s = .halt (.panic message) :=
      congrFun (if_neg hc) s
    rw [hstop]
    exact ⟨fun h => ⟨fun hn => absurd hn hc, fun _ => h⟩, fun h => h.2 hc⟩

lemma sat_ofExcept {x : Except ε β} :
    (ofExcept x s).Sat Q E H ↔ (∀ b, x = .ok b → Q b s) ∧ ∀ e, x = .error e → E e s := by
  cases x with
  | ok b => exact ⟨fun h => ⟨fun _ hb => by cases hb; exact h, by simp⟩, fun h => h.1 b rfl⟩
  | error e => exact ⟨fun h => ⟨by simp, fun _ he => by cases he; exact h⟩, fun h => h.2 e rfl⟩

lemma sat_ofExcept_bind {x : Except ε α} {n : α → Call σ ε β} :
    ((ofExcept x >>= n) s).Sat Q E H ↔
      (∀ a, x = .ok a → (n a s).Sat Q E H) ∧ ∀ e, x = .error e → E e s := by
  rw [sat_bind]
  exact sat_ofExcept

lemma sat_read_bind {n : σ → Call σ ε β} : ((read >>= n) s).Sat Q E H ↔ (n s s).Sat Q E H := Iff.rfl

lemma sat_modify_bind {f : σ → σ} :
    ((modify f >>= n) s).Sat Q E H ↔ (n () (f s)).Sat Q E H := Iff.rfl

/-- **What every operation keeps, a run keeps**: `I` is about the answers so far and the state. -/
theorem sat_runAll {I : List β → σ → Prop}
    (hstep : ∀ past s op, I past s → (step op s).Sat (fun b t => I (past ++ [b]) t) E H)
    {past : List β} (hs : I past s) (ops : List α) :
    (runAll step ops s).Sat (fun answers t => I (past ++ answers) t) E H := by
  induction ops generalizing past s with
  | nil => simpa [runAll] using hs
  | cons op rest ih =>
    refine sat_bind.mpr ((hstep past s op hs).imp fun b t ht => ?_)
    refine sat_bind.mpr ((ih ht).imp fun answers u hu => ?_)
    simpa using hu

/-- Every answer of a run is related to its operation, whatever the state it was carried out in. -/
lemma sat_runAll_forall₂ {R : α → β → Prop} {ops : List α}
    (hstep : ∀ op ∈ ops, ∀ s, (step op s).Sat (fun b _ => R op b) E H) :
    (runAll step ops s).Sat (fun answers _ => List.Forall₂ R ops answers) E H := by
  induction ops generalizing s with
  | nil => exact .nil
  | cons op rest ih =>
    refine sat_bind.mpr ((hstep op List.mem_cons_self s).imp fun b t hb => ?_)
    refine sat_bind.mpr ((ih fun op' hop' => hstep op' (List.mem_cons_of_mem _ hop')).imp
      fun answers u hanswers => ?_)
    exact .cons hb hanswers

/-- The answers of a run belong to its operations, one for each. -/
lemma map_runAll {f : β → α}
    (hstep : ∀ op s b t, step op s = .ok b t → f b = op) {ops : List α} {answers : List β}
    (h : runAll step ops s = .ok answers t) : answers.map f = ops := by
  induction ops generalizing s answers t with
  | nil =>
    obtain ⟨rfl, -⟩ := Outcome.ok.inj h
    rfl
  | cons op rest ih =>
    obtain ⟨b, u, hb, hrest⟩ := bind_eq_ok.mp h
    obtain ⟨bs, v, hbs, hend⟩ := bind_eq_ok.mp hrest
    obtain ⟨rfl, -⟩ := Outcome.ok.inj hend
    rw [List.map_cons, hstep op s b u hb, ih hbs]

lemma sat_focus {get : τ → σ} {set : σ → τ → τ} {wrap : δ → ε} {m : Call σ δ β} {t : τ}
    {R : β → τ → Prop} {F : ε → τ → Prop} :
    (focus get set wrap m t).Sat R F H ↔
      (m (get t)).Sat (fun b s => R b (set s t)) (fun e s => F (wrap e) (set s t)) H := by
  unfold focus
  cases m (get t) <;> rfl

lemma sat_mapError {wrap : δ → ε} {m : Call σ δ β} :
    (mapError wrap m s).Sat Q E H ↔ (m s).Sat Q (fun e => E (wrap e)) H := by
  unfold mapError
  cases m s <;> rfl

lemma sat_map {f : α → β} : ((f <$> m) s).Sat Q E H ↔ (m s).Sat (fun a => Q (f a)) E H := by
  show ((m s).andThen fun a t => .ok (f a) t).Sat Q E H ↔ _
  rw [Outcome.sat_andThen]
  rfl

end Call

/-! ## Histories -/

/-- A list that ends in one more element, cut in two: the cut is at the end or before it. -/
lemma concat_eq_append_cases {β : Type} {journal past later : List β} {e : β}
    (h : journal ++ [e] = past ++ later) :
    past = journal ++ [e] ∧ later = [] ∨ ∃ rest, journal = past ++ rest ∧ later = rest ++ [e] := by
  rcases List.eq_nil_or_concat later with rfl | ⟨rest, x, rfl⟩
  · exact .inl ⟨by simpa using h.symm, rfl⟩
  · rw [List.concat_eq_append, ← List.append_assoc] at h
    obtain ⟨hjournal, hx⟩ := List.append_inj' h rfl
    rw [List.singleton_inj.mp hx]
    exact .inr ⟨rest, hjournal, List.concat_eq_append⟩

end WildBuzzard.Lib
