import WildBuzzard.Lib.Call

/-!
# Computations that report

A function that may halt and that appends messages to a log it is handed: `Report ε α` is what such
a function does, its value with the messages it adds, in order. It is a monad, the messages of a
sequence one after another.

`Report.Safe x Q` says that `x` does not halt and that its value satisfies `Q`, and `Report.Gives x Q`
that its value does if it does not halt; `Safe.bind` and `Gives.bind` prove it for a sequence from
its parts.
-/

namespace WildBuzzard.Lib

/-- A value with the messages reported on the way, or a halt. -/
inductive Report (ε α : Type) where
  | done (value : α) (messages : List ε)
  | halted (reason : Halt)
  deriving DecidableEq, Repr

namespace Report

variable {ε α β : Type} {γ : Type} (a : α) (f : α → β) (messages : List ε)

/-- Put messages in front of those of a computation. -/
def after (messages : List ε) : Report ε α → Report ε α
  | done a more => done a (messages ++ more)
  | halted h => halted h

/-- Go on with the value of a computation. -/
def andThen (x : Report ε α) (f : α → Report ε β) : Report ε β :=
  match x with
  | done a messages => (f a).after messages
  | halted h => halted h

instance : Monad (Report ε) where
  pure a := done a []
  bind := andThen

/-- Rewrite the value of a computation. -/
def mapValue (f : α → β) : Report ε α → Report ε β
  | done a messages => done (f a) messages
  | halted h => halted h

/-- Report a message. -/
def log (message : ε) : Report ε Unit := done () [message]

/-- Report a message if a condition holds. -/
def logIf (c : Bool) (message : ε) : Report ε Unit := done () (if c then [message] else [])

/-- A computation that reports nothing. -/
def silent : Except Halt α → Report ε α
  | .ok a => done a []
  | .error h => halted h

@[simp] lemma after_done (a : α) (more : List ε) :
    (done a more).after messages = done a (messages ++ more) := rfl

variable (h : Halt) (x : Report ε α)

@[simp] lemma after_halted : (halted h : Report ε α).after messages = halted h := rfl

@[simp] lemma after_nil : x.after [] = x := by cases x <;> rfl

lemma after_after (m m' : List ε) : (x.after m).after m' = x.after (m' ++ m) := by
  cases x <;> simp

lemma pure_eq : (pure a : Report ε α) = done a [] := rfl

section

variable (f : α → Report ε β)

@[simp] lemma done_bind : (done a messages >>= f) = (f a).after messages := rfl

@[simp] lemma halted_bind : ((halted h : Report ε α) >>= f) = halted h := rfl

@[simp] lemma pure_bind : (pure a >>= f) = f a := by
  rw [pure_eq, done_bind, after_nil]

end

lemma silent_ok : (silent (.ok a) : Report ε α) = pure a := rfl

lemma silent_error : (silent (.error h) : Report ε α) = halted h := rfl

lemma after_bind (messages : List ε) (f : α → Report ε β) :
    (x.after messages >>= f) = (x >>= f).after messages := by
  cases x with
  | done a more => simp [after_after]
  | halted h => rfl

@[simp] lemma mapValue_done (a : α) (messages : List ε) :
    (done a messages).mapValue f = done (f a) messages := rfl

@[simp] lemma mapValue_halted : (halted h : Report ε α).mapValue f = halted h := rfl

lemma mapValue_nil_append (x : Report ε (List β)) : x.mapValue ([] ++ ·) = x := by
  cases x <;> rfl

lemma mapValue_after (messages : List ε) :
    (x.after messages).mapValue f = (x.mapValue f).after messages := by
  cases x <;> rfl

lemma mapValue_mapValue (g : β → γ) (x : Report ε α) :
    (x.mapValue f).mapValue g = x.mapValue fun a => g (f a) := by
  cases x <;> rfl

lemma mapValue_bind (f : β → γ) (x : Report ε α) (k : α → Report ε β) :
    (x >>= k).mapValue f = x >>= fun a => (k a).mapValue f := by
  cases x with
  | done a messages => simp only [done_bind, mapValue_after]
  | halted h => rfl

lemma bind_mapValue (k : β → Report ε γ) : (x.mapValue f >>= k) = x >>= fun a => k (f a) := by
  cases x <;> rfl

lemma bind_pure_eq_mapValue : (x >>= fun a => pure (f a)) = x.mapValue f := by
  cases x <;> simp [pure_eq]

/-- The computation does not halt, and its value satisfies `Q`. -/
def Safe (x : Report ε α) (Q : α → Prop) : Prop := ∃ a messages, x = done a messages ∧ Q a

namespace Safe

variable {Q : α → Prop} {R : β → Prop} {x : Report ε α}

lemma pure {a : α} (h : Q a) : Safe (pure a : Report ε α) Q := ⟨a, [], rfl, h⟩

lemma bind {f : α → Report ε β} (hx : x.Safe Q) (hf : ∀ a, Q a → (f a).Safe R) :
    (x >>= f).Safe R := by
  obtain ⟨a, messages, rfl, ha⟩ := hx
  obtain ⟨b, more, hb, hR⟩ := hf a ha
  exact ⟨b, messages ++ more, by rw [done_bind, hb, after_done], hR⟩

lemma mono {Q' : α → Prop} (h : x.Safe Q) (hQ : ∀ a, Q a → Q' a) : x.Safe Q' := by
  obtain ⟨a, messages, rfl, ha⟩ := h
  exact ⟨a, messages, rfl, hQ a ha⟩

lemma log (message : ε) : (Report.log message).Safe fun _ => True := ⟨(), [message], rfl, trivial⟩

lemma logIf (c : Bool) (message : ε) : (Report.logIf c message).Safe fun _ => True :=
  ⟨(), _, rfl, trivial⟩

lemma ite {c : Prop} [Decidable c] {y : Report ε α} (hx : x.Safe Q) (hy : y.Safe Q) :
    (if c then x else y).Safe Q := by
  split
  · exact hx
  · exact hy

/-- A step that returns and reports nothing. -/
lemma silent_bind {y : Except Halt α} {a : α} {f : α → Report ε β} (hy : y = .ok a)
    (hf : (f a).Safe R) : (Report.silent y >>= f).Safe R := by
  rw [hy, silent_ok, pure_bind]
  exact hf

end Safe

/-- If the computation does not halt, its value satisfies `Q`. -/
def Gives (x : Report ε α) (Q : α → Prop) : Prop := ∀ a messages, x = done a messages → Q a

namespace Gives

variable {Q : α → Prop} {R : β → Prop} {x : Report ε α}

lemma pure {a : α} (h : Q a) : Gives (pure a : Report ε α) Q := by
  intro b m hb
  cases hb
  exact h

lemma bind {f : α → Report ε β} (hx : x.Gives Q) (hf : ∀ a, Q a → (f a).Gives R) :
    (x >>= f).Gives R := by
  intro b m hb
  rcases x with ⟨a, messages⟩ | h
  · rw [done_bind] at hb
    rcases hfa : f a with ⟨b', more⟩ | h
    · rw [hfa] at hb
      cases hb
      exact hf a (hx a messages rfl) _ _ hfa
    · rw [hfa] at hb
      cases hb
  · cases hb

/-- A sequence whose first part does not matter. -/
lemma seq {f : α → Report ε β} (hf : ∀ a, (f a).Gives R) : (x >>= f).Gives R :=
  bind (Q := fun _ => True) (fun _ _ _ => trivial) fun a _ => hf a

lemma silent {y : Except Halt α} (h : ∀ a, y = .ok a → Q a) :
    (Report.silent y : Report ε α).Gives Q := by
  intro a m ha
  rcases y with r | b
  · cases ha
  · cases ha
    exact h _ rfl

end Gives

end Report

end WildBuzzard.Lib
