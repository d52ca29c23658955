import Mathlib.Logic.Relation
import WildBuzzard.Lib.Report

/-!
# Machines that are fed in chunks

A machine keeps a state and the input it has not consumed. One **round** consumes a prefix of the
pending input, or waits for more. `drain` runs rounds until the input is used up or a round waits; a
whole run drains once for each chunk and once more at the end of input.

* `drain_eq` unfolds one round of the loop. That the loop ends is carried by the machine: every
  round that makes progress makes `size` smaller.
* `Step` and `Reaches` are the rounds of a run one by one. **A run halts exactly if a round it
  reaches halts** (`run_eq_halted_iff`).
* `Cuttable`: what a round that does not yet know the rest of the input must guarantee. It is
  enough for **chunk invariance** (`runFrom_eq_finish`): a run over chunks gives what one drain over
  the whole input gives, up to a `view` of the output.
-/

namespace WildBuzzard.Lib

open Report List

variable {σ α β γ ε : Type}

/-- A machine with states `σ`, input `α`, output `β` and messages `ε`. -/
structure Machine (σ α β ε : Type) where
  /-- One round, told whether the input has ended: the next state, the input left and the output,
  or `none` if more input is needed. -/
  round : Bool → σ → List α → Report ε (Option (σ × List α × List β))
  size : σ → List α → ℕ
  size_lt : ∀ {eof s p s' p' out m}, p ≠ [] →
    round eof s p = .done (some (s', p', out)) m → size s' p' < size s p

namespace Machine

variable (M : Machine σ α β ε)

/-! ## Draining -/

/-- The loop, with a bound on the number of rounds. -/
def drainWith (eof : Bool) : ℕ → σ → List α → Report ε (σ × List α × List β)
  | _, s, [] => pure (s, [], [])
  | 0, _, _ :: _ => .halted .loop
  | fuel + 1, s, a :: p => do
    match ← M.round eof s (a :: p) with
    | none => pure (s, a :: p, [])
    | some (s', p', out) =>
      (drainWith eof fuel s' p').mapValue fun r => (r.1, r.2.1, out ++ r.2.2)

/-- Run rounds until the input is used up or a round waits. -/
def drain (eof : Bool) (s : σ) (p : List α) : Report ε (σ × List α × List β) :=
  M.drainWith eof (M.size s p + 1) s p

variable {M}

lemma drainWith_eq_drain (eof : Bool) {fuel : ℕ} {s : σ} {p : List α} (h : M.size s p < fuel) :
    M.drainWith eof fuel s p = M.drain eof s p := by
  -- every bound above the size gives the same result, by induction on the bound
  suffices ∀ n k : ℕ, M.size s p < n → M.size s p < k →
      M.drainWith eof n s p = M.drainWith eof k s p from this fuel _ h (Nat.lt_succ_self _)
  intro n
  induction n generalizing s p with
  | zero =>
    intro k hn
    omega
  | succ n ih =>
    intro k hn hk
    obtain ⟨k, rfl⟩ : ∃ j, k = j + 1 := ⟨k - 1, by omega⟩
    cases p with
    | nil => rfl
    | cons a p =>
      rw [drainWith, drainWith]
      rcases hr : M.round eof s (a :: p) with ⟨_ | ⟨s', p', out⟩, m⟩ | h
      · rfl
      · have hlt := M.size_lt (by simp) hr
        simp only [done_bind]
        rw [ih (by omega) k (by omega) (by omega)]
      · rfl

@[simp] lemma drain_nil (eof : Bool) (s : σ) : M.drain eof s [] = pure (s, [], []) := by
  rw [drain, drainWith]

/-- **One round of the loop.** -/
theorem drain_eq (eof : Bool) (s : σ) {p : List α} (hp : p ≠ []) :
    M.drain eof s p = M.round eof s p >>= fun
      | none => pure (s, p, [])
      | some (s', p', out) => (M.drain eof s' p').mapValue fun r => (r.1, r.2.1, out ++ r.2.2) := by
  obtain ⟨a, p, rfl⟩ := exists_cons_of_ne_nil hp
  rw [drain, drainWith]
  rcases hr : M.round eof s (a :: p) with ⟨_ | ⟨s', p', out⟩, m⟩ | h
  · rfl
  · have hlt := M.size_lt hp hr
    simp only [done_bind]
    rw [drainWith_eq_drain eof (by omega)]
  · rfl

/-- What a drain at the end of input puts out. -/
def finish (M : Machine σ α β ε) (s : σ) (p : List α) : Report ε (List β) :=
  (M.drain true s p).mapValue (·.2.2)

/-- Feed the chunks one by one, then finish. -/
def runFrom (M : Machine σ α β ε) : σ → List α → List (List α) → Report ε (List β)
  | s, p, [] => M.finish s p
  | s, p, c :: cs => do
    let r ← M.drain false s (p ++ c)
    (M.runFrom r.1 r.2.1 cs).mapValue (r.2.2 ++ ·)

/-- One round at the end of input. -/
lemma finish_eq (s : σ) {p : List α} (hp : p ≠ []) : M.finish s p = M.round true s p >>= fun
      | none => pure []
      | some (s', p', out) => (M.finish s' p').mapValue (out ++ ·) := by
  rw [finish, drain_eq true s hp, mapValue_bind]
  congr 1
  funext r
  rcases r with _ | ⟨s', p', out⟩
  · rfl
  · simp only [finish, mapValue_mapValue]

/-! ## The rounds of a run -/

/-- Where a run is: whether the input has ended, the chunks still to come, the state and the input
fed but not consumed. -/
structure Config (σ α : Type) where
  eof : Bool
  chunks : List (List α)
  state : σ
  pending : List α

/-- The machine has nothing to do before it is fed. -/
def Idle (M : Machine σ α β ε) (s : σ) (p : List α) : Prop :=
  p = [] ∨ ∃ m, M.round false s p = .done none m

/-- One step of a run: a round, the next chunk, or the end of input. -/
inductive Step (M : Machine σ α β ε) : Config σ α → Config σ α → Prop
  | round {eof cs s p s' p' out m} : p ≠ [] → M.round eof s p = .done (some (s', p', out)) m →
      Step M ⟨eof, cs, s, p⟩ ⟨eof, cs, s', p'⟩
  | feed {c cs s p} : M.Idle s p → Step M ⟨false, c :: cs, s, p⟩ ⟨false, cs, s, p ++ c⟩
  | finish {s p} : M.Idle s p → Step M ⟨false, [], s, p⟩ ⟨true, [], s, p⟩

/-- The places a run comes to. -/
def Reaches (M : Machine σ α β ε) : Config σ α → Config σ α → Prop :=
  Relation.ReflTransGen M.Step

/-- The run from where it is. -/
def Config.run (M : Machine σ α β ε) (c : Config σ α) : Report ε (List β) := do
  let r ← M.drain c.eof c.state c.pending
  if c.eof then pure r.2.2 else (M.runFrom r.1 r.2.1 c.chunks).mapValue (r.2.2 ++ ·)

variable {p : List α} {s : σ} {cs : List (List α)} {h : Halt}

lemma Config.run_start (cs : List (List α)) (s : σ) :
    Config.run M ⟨false, cs, s, []⟩ = M.runFrom s [] cs := by
  simp only [Config.run, drain_nil, pure_bind, nil_append]
  cases M.runFrom s [] cs <;> rfl

lemma Config.run_finish (s : σ) (p : List α) : Config.run M ⟨true, [], s, p⟩ = M.finish s p := by
  exact bind_pure_eq_mapValue _ _

/-- A round that makes progress, in front of the rest of the run. -/
lemma Config.run_round {eof : Bool} {s s' : σ} {p p' : List α} {out : List β} {m : List ε}
    (hp : p ≠ []) (hr : M.round eof s p = .done (some (s', p', out)) m) :
    Config.run M ⟨eof, cs, s, p⟩ =
      ((Config.run M ⟨eof, cs, s', p'⟩).mapValue (out ++ ·)).after m := by
  simp only [Config.run]
  rw [drain_eq eof s hp, hr, done_bind, after_bind]
  congr 1
  dsimp only
  rcases M.drain eof s' p' with ⟨r, more⟩ | h
  · cases eof with
    | true => rfl
    | false =>
      simp only [mapValue_done, done_bind, Bool.false_eq_true, if_false,
        mapValue_after, mapValue_mapValue, append_assoc]
  · rfl

lemma Config.run_idle (h : M.Idle s p) :
    ∃ m, Config.run M ⟨false, cs, s, p⟩ = (M.runFrom s p cs).after m := by
  rcases Decidable.em (p = []) with rfl | hp
  · exact ⟨[], by rw [run_start, after_nil]⟩
  · rcases h with h | ⟨m, hm⟩
    · exact absurd h hp
    · refine ⟨m, ?_⟩
      simp only [Config.run]
      rw [drain_eq false s hp, hm, done_bind, after_bind, pure_bind]
      simp only [Bool.false_eq_true, if_false, mapValue_nil_append]

/-- A step of a run, in front of the rest of the run. -/
lemma Step.run_eq {c c' : Config σ α} (h : M.Step c c') :
    ∃ m out, c.run M = ((c'.run M).mapValue (out ++ ·)).after m := by
  cases h with
  | round hp hr => exact ⟨_, _, Config.run_round hp hr⟩
  | feed hidle =>
    obtain ⟨m, hm⟩ := Config.run_idle hidle
    refine ⟨m, [], ?_⟩
    rw [hm, mapValue_nil_append]
    rfl
  | finish hidle =>
    obtain ⟨m, hm⟩ := Config.run_idle hidle
    refine ⟨m, [], ?_⟩
    rw [hm, mapValue_nil_append, Config.run_finish, runFrom]

/-- A round of the configuration halts. -/
def Config.Halts (M : Machine σ α β ε) (c : Config σ α) (h : Halt) : Prop :=
  c.pending ≠ [] ∧ M.round c.eof c.state c.pending = .halted h

lemma Config.Halts.run_eq {c : Config σ α} (hc : c.Halts M h) : c.run M = .halted h := by
  rw [Config.run, drain_eq _ _ hc.1, hc.2]
  rfl

/-- A drain that halts reaches a round that does. -/
lemma exists_halts_of_drain {eof : Bool} (hd : M.drain eof s p = .halted h) (cs : List (List α)) :
    ∃ c, M.Reaches ⟨eof, cs, s, p⟩ c ∧ c.Halts M h := by
  induction hn : M.size s p using Nat.strongRecOn generalizing s p with
  | _ n ih =>
    subst hn
    by_cases hp : p = []
    · rw [hp, drain_nil] at hd
      cases hd
    · rw [drain_eq eof s hp] at hd
      rcases hr : M.round eof s p with ⟨_ | ⟨s', p', out⟩, m⟩ | h'
      · rw [hr] at hd
        cases hd
      · rw [hr, done_bind] at hd
        dsimp only at hd
        have hd' : M.drain eof s' p' = .halted h := by
          rcases hx : M.drain eof s' p' with ⟨r, more⟩ | h'
          · rw [hx] at hd
            cases hd
          · rw [hx] at hd
            exact hd
        obtain ⟨c, hc, hhalt⟩ := ih _ (M.size_lt hp hr) hd' rfl
        exact ⟨c, .head (.round hp hr) hc, hhalt⟩
      · rw [hr] at hd
        cases hd
        exact ⟨_, .refl, hp, hr⟩

/-- A drain that returns reaches the state it returns, where nothing is left to do. -/
lemma reaches_of_drain {s s' : σ} {p p' : List α} {out : List β} {m : List ε}
    (hd : M.drain false s p = .done (s', p', out) m) (cs : List (List α)) :
    M.Reaches ⟨false, cs, s, p⟩ ⟨false, cs, s', p'⟩ ∧ M.Idle s' p' := by
  induction hn : M.size s p using Nat.strongRecOn generalizing s p out m with
  | _ n ih =>
    subst hn
    by_cases hp : p = []
    · rw [hp, drain_nil] at hd
      cases hd
      exact ⟨hp ▸ .refl, .inl rfl⟩
    · rw [drain_eq false s hp] at hd
      rcases hr : M.round false s p with ⟨_ | ⟨s₁, p₁, out₁⟩, m₁⟩ | h'
      · rw [hr] at hd
        cases hd
        exact ⟨.refl, .inr ⟨_, hr⟩⟩
      · rw [hr, done_bind] at hd
        dsimp only at hd
        rcases hx : M.drain false s₁ p₁ with ⟨⟨s₂, p₂, out₂⟩, m₂⟩ | h'
        · rw [hx] at hd
          cases hd
          obtain ⟨hreach, hidle⟩ := ih _ (M.size_lt hp hr) hx rfl
          exact ⟨.head (.round hp hr) hreach, hidle⟩
        · rw [hx] at hd
          cases hd
      · rw [hr] at hd
        cases hd

lemma exists_halts_of_runFrom (hidle : M.Idle s p) (hrun : M.runFrom s p cs = .halted h) :
    ∃ c, M.Reaches ⟨false, cs, s, p⟩ c ∧ c.Halts M h := by
  induction cs generalizing s p with
  | nil =>
    have hd : M.drain true s p = .halted h := by
      rw [runFrom, finish] at hrun
      rcases hx : M.drain true s p with ⟨r, m⟩ | h'
      · rw [hx] at hrun
        cases hrun
      · rw [hx] at hrun
        exact congrArg _ (halted.inj hrun)
    obtain ⟨c, hc, hhalt⟩ := exists_halts_of_drain hd []
    exact ⟨c, .head (.finish hidle) hc, hhalt⟩
  | cons c₀ cs ih =>
    rw [runFrom] at hrun
    rcases hx : M.drain false s (p ++ c₀) with ⟨⟨s', p', out⟩, m⟩ | h'
    · rw [hx, done_bind] at hrun
      obtain ⟨hreach, hidle'⟩ := reaches_of_drain hx cs
      have hrest : M.runFrom s' p' cs = .halted h := by
        rcases hy : M.runFrom s' p' cs with ⟨r, m⟩ | h'
        · rw [hy] at hrun
          cases hrun
        · rw [hy] at hrun
          exact hrun
      obtain ⟨c, hc, hhalt⟩ := ih hidle' hrest
      exact ⟨c, .head (.feed hidle) (hreach.trans hc), hhalt⟩
    · rw [hx] at hrun
      cases hrun
      obtain ⟨c, hc, hhalt⟩ := exists_halts_of_drain hx cs
      exact ⟨c, .head (.feed hidle) hc, hhalt⟩

/-- What a reached round that halts does to the run. -/
lemma Reaches.run_eq_halted {c c' : Config σ α} (hr : M.Reaches c c') (hh : c'.Halts M h) :
    c.run M = .halted h := by
  induction hr using Relation.ReflTransGen.head_induction_on with
  | refl => exact hh.run_eq
  | head hstep _ ih =>
    obtain ⟨m, out, heq⟩ := hstep.run_eq
    rw [heq, ih]
    rfl

/-- **A run halts exactly if a round it reaches halts.** -/
theorem run_eq_halted_iff :
    M.runFrom s [] cs = .halted h ↔ ∃ c, M.Reaches ⟨false, cs, s, []⟩ c ∧ c.Halts M h := by
  constructor
  · exact exists_halts_of_runFrom (.inl rfl)
  · rintro ⟨c, hc, hh⟩
    rw [← Config.run_start]
    exact hc.run_eq_halted hh

/-! ## Chunk invariance -/

/-- What the rounds of a machine must guarantee so that the chunks do not matter: whatever input `q`
is still to come, a round on the input `p` fed so far does what the machine does at the start of
`p ++ q`, up to a view of the output. The condition `within` may limit the input. -/
structure Cuttable (M : Machine σ α β ε) (view : List β → γ) (within : List α → Prop) : Prop where
  congr : ∀ {a b b' : List β}, view b = view b' → view (a ++ b) = view (a ++ b')
  within_rest : ∀ {s p q s' p' out m}, p ≠ [] → within (p ++ q) →
    M.round false s p = .done (some (s', p', out)) m → within (p' ++ q)
  idle : ∀ {s p m}, M.round false s p = .done none m → m = []
  halt : ∀ {s p q h}, p ≠ [] → within (p ++ q) → M.round false s p = .halted h →
    M.finish s (p ++ q) = .halted h
  progress : ∀ {s p q s' p' out m}, p ≠ [] → within (p ++ q) →
    M.round false s p = .done (some (s', p', out)) m →
    (M.finish s (p ++ q)).mapValue view =
      ((M.finish s' (p' ++ q)).mapValue fun more => view (out ++ more)).after m

namespace Cuttable

variable {view : List β → γ} {within : List α → Prop}

variable (hM : M.Cuttable view within)
include hM

/-- Outputs that look the same still do after the same output. -/
lemma mapValue_congr {x y : Report ε (List β)} (out : List β)
    (h : x.mapValue view = y.mapValue view) :
    (x.mapValue fun more => view (out ++ more)) = y.mapValue fun more => view (out ++ more) := by
  rcases x with ⟨a, m⟩ | r <;> rcases y with ⟨b, m'⟩ | r'
  · simp only [mapValue_done, done.injEq] at h ⊢
    exact ⟨hM.congr h.1, h.2⟩
  · cases h
  · cases h
  · exact h

/-- A drain on what has been fed, and then what finishing makes of the rest. -/
lemma drain_bind_eq {q : List α} {k : σ → List α → Report ε (List β)}
    (hk : ∀ s p, within (p ++ q) → (k s p).mapValue view = (M.finish s (p ++ q)).mapValue view)
    {s : σ} {p : List α} (hw : within (p ++ q)) :
    ((M.drain false s p >>= fun r => (k r.1 r.2.1).mapValue (r.2.2 ++ ·)).mapValue view) =
      (M.finish s (p ++ q)).mapValue view := by
  induction hn : M.size s p using Nat.strongRecOn generalizing s p with
  | _ n ih =>
    subst hn
    by_cases hp : p = []
    · subst hp
      rw [drain_nil, pure_bind, mapValue_nil_append]
      exact hk s [] hw
    · rw [drain_eq false s hp]
      rcases hr : M.round false s p with ⟨_ | ⟨s', p', out⟩, m⟩ | h
      · rw [hM.idle hr, done_bind, after_nil, pure_bind, mapValue_nil_append]
        exact hk s p hw
      · rw [hM.progress hp hw hr, done_bind, after_bind, mapValue_after]
        congr 1
        dsimp only
        -- the rounds after this one, by induction, with this round's output in front
        have hrest := hM.mapValue_congr out
          (ih _ (M.size_lt hp hr) (hM.within_rest hp hw hr) rfl)
        rw [← hrest]
        rcases M.drain false s' p' with ⟨r, more⟩ | h
        · simp only [mapValue_done, done_bind, mapValue_after, mapValue_mapValue, append_assoc]
        · rfl
      · rw [hM.halt hp hw hr]
        rfl

/-- **Chunk invariance**: feeding chunks gives what finishing on the whole input gives. -/
theorem runFrom_eq_finish (cs : List (List α)) {s : σ} {p : List α}
    (hw : within (p ++ cs.flatten)) :
    (M.runFrom s p cs).mapValue view = (M.finish s (p ++ cs.flatten)).mapValue view := by
  induction cs generalizing s p with
  | nil => rw [runFrom, flatten_nil, append_nil]
  | cons c cs ih =>
    rw [runFrom, flatten_cons, ← append_assoc]
    rw [flatten_cons, ← append_assoc] at hw
    exact hM.drain_bind_eq (fun s p hw => ih hw) hw

end Cuttable

end Machine

end WildBuzzard.Lib
