import WildBuzzard.Script.ParserProgress

/-!
# The parser starves behind an open bracket

Where the input ends after an opening parenthesis or bracket, `parse_primary` reads that token once
more and calls itself again at the same place, through all levels of expressions. **On a stack of
any size it overflows** (`methods_overflow`).

With `bodies_complete` this decides when the parser ends: exactly when no primary expression is
entered starved (`parsesToEnd_iff_neverStarves`), so on every text whose last token opens nothing
(`parsesToEnd_of_closed`).
-/

namespace WildBuzzard.Script

open Lib Call List Script.Parser

variable {host : Host} {tokens : List Token} {call : Callees} {d : Parsing}

/-! ## Overflows -/

/-- The call overflows, and the log of the run only grows. -/
def Overflows {α : Type} (m : ParserM α) (d : Parsing) : Prop :=
  (m d).Ends (fun _ _ => False) (fun stop d' => stop = .overflow ∧ d.entries ⊆ d'.entries)

namespace Overflows

variable {α β : Type} {m : ParserM α} {k : α → ParserM β}

lemma bind (h : Overflows m d) : Overflows (m >>= k) d :=
  sat_bind.mpr (h.imp fun _ _ hfalse => hfalse.elim)

lemma after {a : α} (hm : m d = .ok a d) (hk : Overflows (k a) d) : Overflows (m >>= k) d := by
  unfold Overflows
  rw [bind_of_ok hm]
  exact hk

end Overflows

/-! ## At the end of the input -/

variable {room : Nat} {source : List Char} {p : Production}

section

variable (hend : AtEnd tokens d.state.current) {expected : TokenKind}
variable (hexpected : sameVariant expected .eof = false)
include hend hexpected

lemma isAt_ended : isAt tokens expected d = .ok false d := by
  obtain ⟨token, htoken, hkind⟩ := hend
  obtain ⟨hvalid, -⟩ := List.getElem?_eq_some_iff.mp htoken
  obtain ⟨token', htoken', -, hisAt⟩ := Goes.exists_isAt hvalid
  obtain rfl := Option.some.inj (htoken.symm.trans htoken')
  have hother : sameVariant token.kind expected = false := by
    by_contra hsame
    rw [Bool.not_eq_false] at hsame
    rw [sameVariant_eof hsame hexpected] at hkind
    simp at hkind
  rw [hisAt, hother]

lemma take_ended : Parser.take tokens expected d = .ok none d := by
  rw [Parser.take, bind_of_ok (isAt_ended hend hexpected)]
  rfl

end

lemma takeFirst_ended {α : Type} (hend : AtEnd tokens d.state.current)
    {choices : List (TokenKind × α)}
    (hchoices : choices.all (fun choice => !sameVariant choice.1 .eof) = true) :
    takeFirst tokens choices d = .ok none d := by
  induction choices with
  | nil => rfl
  | cons choice choices ih =>
    obtain ⟨kind, value⟩ := choice
    rw [all_cons, Bool.and_eq_true] at hchoices
    have htake : Parser.take tokens kind d = .ok none d :=
      take_ended hend (by simpa using hchoices.1)
    rw [takeFirst, bind_of_ok htake]
    exact ih hchoices.2

/-- `advance` does not move, and returns the bracket before the end. -/
lemma advance_endsOpen (h : EndsOpen tokens d.state.current) :
    ∃ token, advance tokens d = .ok token d ∧ opens token.kind = true := by
  obtain ⟨⟨last, hlast, hkind⟩, token, htoken, hopen⟩ := h
  obtain ⟨hvalid, -⟩ := List.getElem?_eq_some_iff.mp hlast
  obtain ⟨last', hlast', -, hisAt⟩ := Goes.exists_isAt hvalid
  obtain rfl := Option.some.inj (hlast.symm.trans hlast')
  refine ⟨token, ?_, hopen⟩
  rw [advance, bind_of_ok (hisAt .eof), if_pos hkind, previous, bind_apply]
  show tokenAt tokens (d.state.current - 1) d = _
  rw [tokenAt, htoken]

/-! ## The methods that come to a primary expression -/

/-- The methods that enter a primary expression before they take a token. -/
def Production.hungry : Production → Bool
  | assignment => true
  | logicalOr => true
  | logicalAnd => true
  | equality => true
  | relational => true
  | additive => true
  | multiplicative => true
  | unary => true
  | postfixExpression => true
  | primary => true
  | arrayLiteral => true
  | _ => false

lemma eq_of_opens {kind : TokenKind} (h : opens kind = true) :
    kind = .leftParen ∨ kind = .leftBracket := by
  cases kind
  case leftParen => exact .inl rfl
  case leftBracket => exact .inr rfl
  all_goals exact absurd (show false = true from h) (by decide)

section

variable (h : EndsOpen tokens d.state.current)
variable (hcall : ∀ (p : Production) (x : p.Input), p.hungry = true → Overflows (call p x) d)
include h hcall

lemma parsePrimary_overflows : Overflows (parsePrimary tokens call) d := by
  obtain ⟨⟨kind, span⟩, hadvance, hopen⟩ := advance_endsOpen h
  refine Overflows.after hadvance ?_
  rcases eq_of_opens hopen with rfl | rfl
  · exact (hcall .assignment () rfl).bind
  · exact hcall .arrayLiteral span rfl

lemma parseArrayLiteral_overflows (start : SourceSpan) :
    Overflows (parseArrayLiteral tokens call start) d := by
  refine Overflows.bind (Overflows.bind ?_)
  refine Overflows.after (isAt_ended h.1 rfl) (Overflows.after (take_ended h.1 rfl) ?_)
  exact (hcall .assignment () rfl).bind

end

lemma bodies_overflow (h : EndsOpen tokens d.state.current) (hp : p.hungry = true) (x : p.Input)
    (hcall : ∀ (q : Production) (y : q.Input), q.hungry = true → Overflows (call q y) d) :
    Overflows (bodies host tokens call p x) d := by
  cases p
  case assignment => exact (hcall .logicalOr () rfl).bind
  case logicalOr => exact (hcall .logicalAnd () rfl).bind
  case logicalAnd => exact (hcall .equality () rfl).bind
  case equality => exact (hcall .relational () rfl).bind
  case relational => exact (hcall .additive () rfl).bind
  case additive => exact (hcall .multiplicative () rfl).bind
  case multiplicative => exact (hcall .unary () rfl).bind
  case unary =>
    refine Overflows.after (take_ended h.1 rfl) (Overflows.after (takeFirst_ended h.1 rfl) ?_)
    exact hcall .postfixExpression () rfl
  case postfixExpression =>
    exact (Overflows.after (take_ended h.1 rfl) (hcall .primary () rfl)).bind
  case primary => exact parsePrimary_overflows h hcall
  case arrayLiteral => exact parseArrayLiteral_overflows h hcall x
  all_goals exact absurd hp (by decide)

/-- **A starved parser overflows every stack.** -/
theorem methods_overflow (room : Nat) (hp : p.hungry = true) (x : p.Input)
    (h : EndsOpen tokens d.state.current) : Overflows (methods host tokens room p x) d := by
  induction room generalizing p d with
  | zero => exact ⟨rfl, List.Subset.refl _⟩
  | succ room ih =>
    refine sat_modify_bind.mpr (sat_bind.mpr ?_)
    have hopen : EndsOpen tokens (d.enter p).state.current := h
    have hbody : Overflows (bodies host tokens (methods host tokens room) p x)
        (d.enter p) := bodies_overflow hopen hp x fun q y hq => ih hq y hopen
    refine hbody.imp₂ (fun _ _ hfalse => hfalse.elim) (fun stop d' hstop => ?_)
    exact ⟨hstop.1, List.Subset.trans (subset_cons_self _ _) hstop.2⟩

/-! ## Runs of the parser -/

/-- A stack that climbs has no more than sixteen frames for each token. -/
lemma Climbs.length_lt {f : Activation} {stack : List Activation} (h : Climbs (f :: stack))
    (hvalid : f.entry.current < tokens.length) : stack.length < framesPerToken * tokens.length := by
  have hlength := h.length_le
  have hrank := f.name.rank_lt
  unfold Activation.height framesPerToken at *
  omega

lemma Orderly.enter {x : p.Input} (h : Enters tokens p x d)
    (hfed : ¬Starved tokens ⟨p, d.state⟩) : Orderly tokens (d.enter p).entries := by
  intro stack hstack
  rcases mem_cons.mp hstack with rfl | hold
  · refine ⟨h.2.2, fun f hf => ?_⟩
    obtain rfl := Option.some.inj hf
    exact ⟨h.2.1, hfed⟩
  · exact h.1 stack hold

/-- **The methods meet their specifications** on a stack with sixteen frames for each token. -/
theorem methods_meet (hinput : EndsInput tokens) (room : Nat) :
    MeetsAll tokens room (methods host tokens room) := by
  refine Procedures.sat_descend (fun p x d h => h.2.2.length_lt h.2.1)
    (fun room hmeets p x d henters hroom => ?_) room
  by_cases hstarved : Starved tokens ⟨p, d.state⟩
  · obtain ⟨rfl, hopen⟩ := hstarved
    have hended : EndsOpen tokens (d.enter .primary).state.current := hopen
    have hbody : Overflows (bodies host tokens (methods host tokens room) .primary x)
        (d.enter .primary) :=
      parsePrimary_overflows hended fun q y hq => methods_overflow room hq y hended
    refine hbody.imp₂ (fun _ _ hfalse => hfalse.elim) (fun stop d' hstop => ?_)
    obtain ⟨rfl, hlog⟩ := hstop
    exact ⟨_, hlog mem_cons_self, _, rfl, rfl, hopen⟩
  · have hsetting : Setting tokens ⟨p, d.state⟩ d.stack (methods host tokens room) :=
      ⟨hinput, room, hmeets, hroom⟩
    have hhere : Here tokens ⟨p, d.state⟩ d.stack (d.enter p) :=
      ⟨rfl, .enter henters hstarved, henters.2.1, le_rfl, henters.2.2⟩
    refine (bodies_complete hsetting hstarved x _ hhere le_rfl).imp fun y d' h => ?_
    refine ⟨?_, h.1.orderly, h.1.valid, h.2⟩
    show d'.stack.tail = d.stack
    rw [h.1.stack, tail_cons]

lemma EndsInput.length_pos (h : EndsInput tokens) : 0 < tokens.length := by
  obtain ⟨body, last, rfl, -⟩ := h
  simp

lemma parseProgram_sat (hinput : EndsInput tokens) (hroom : framesPerToken * tokens.length ≤ room) :
    (parseProgram host tokens room (.start .new)).Ends
      (fun _ d => Orderly tokens d.entries) (Stops tokens) := by
  have henters : Enters tokens .statementList false (.start .new) :=
    ⟨fun _ h => absurd h not_mem_nil, hinput.length_pos, pairwise_singleton _ _⟩
  have hmethods : MeetsAll tokens room (methods host tokens room) :=
    methods_meet hinput room
  have hlist := hmethods .statementList false _ henters (Nat.le_trans hroom (Nat.le_add_left _ _))
  refine sat_bind.mpr (hlist.imp fun statements d h => ?_)
  refine sat_bind.mpr (sat_ofExcept.mpr ⟨fun _ _ => h.2.1, fun e he => ?_⟩)
  cases hscope : validateVarScope statements [] with
  | ok u => simp [hscope, Except.mapError] at he
  | error issue =>
    rw [hscope] at he
    obtain rfl := Except.error.inj he
    exact h.2.1

/-! ## When parsing ends -/

/-- The tokens of a text, if it can be cut into tokens. -/
def tokensOf (host : Host) (source : List Char) : List Token :=
  (Lexer.tokenize host source .new).value?.getD []

/-- The recursion of a run is bounded, and makes progress: between two nested activations of one
method, at least one token has been taken. -/
structure Progresses (tokens : List Token) (d : Parsing) : Prop where
  depth : ∀ stack ∈ d.entries, stack.length ≤ framesPerToken * tokens.length
  nested : ∀ stack ∈ d.entries, stack.Pairwise fun inner outer =>
    inner.name = outer.name → outer.entry.current < inner.entry.current

/-- On every stack with room for sixteen frames for each token, parsing ends with a program or an
error, and its recursion makes progress. -/
def ParsesToEnd (host : Host) (source : List Char) : Prop :=
  ∀ room, framesPerToken * (tokensOf host source).length ≤ room →
    (parse host room source).Ends (fun _ d => Progresses (tokensOf host source) d)
      (fun stop d => (∃ issue, stop = .error issue) ∧ Progresses (tokensOf host source) d)

/-- `parse_primary` is never entered where the input ends after an opening parenthesis or
bracket. -/
def NeverStarves (host : Host) (source : List Char) : Prop :=
  ∀ room, framesPerToken * (tokensOf host source).length ≤ room →
    ∀ d, (parse host room source).state? = some d →
      ∀ stack ∈ d.entries, ∀ f ∈ stack.head?, ¬Starved (tokensOf host source) f

lemma Orderly.progresses (h : Orderly tokens d.entries) : Progresses tokens d := by
  refine ⟨fun stack hstack => ?_, fun stack hstack => (h stack hstack).1.progress⟩
  cases stack with
  | nil => exact Nat.zero_le _
  | cons f rest =>
    obtain ⟨hclimbs, hhead⟩ := h _ hstack
    exact hclimbs.length_lt (hhead f rfl).1

/-- How a run on a stack of sufficient size goes. -/
lemma parse_sat (hroom : framesPerToken * (tokensOf host source).length ≤ room) :
    (parse host room source).Ends (fun _ d => Orderly (tokensOf host source) d.entries)
      (Stops (tokensOf host source)) := by
  have hlexer : (Lexer.tokenize host source .new).Ends (fun tokens _ => EndsInput tokens)
      (fun _ _ => True) := Lexer.tokenize_sat
  unfold parse tokensOf at *
  cases hrun : Lexer.tokenize host source .new with
  | ok tokens l =>
    rw [hrun] at hlexer hroom
    exact parseProgram_sat hlexer hroom
  | err issue l => exact fun stack h => absurd h not_mem_nil
  | halt reason => exact hlexer.of_halt hrun

lemma ParsesToEnd.neverStarves (h : ParsesToEnd host source) : NeverStarves host source := by
  intro room hroom d hd stack hstack f hf
  have hrun := parse_sat hroom
  have hend := h room hroom
  cases hparse : parse host room source with
  | ok program d' =>
    obtain rfl : d' = d := by simpa [hparse, Outcome.state?] using hd
    exact ((hrun.of_ok hparse stack hstack).2 f hf).2
  | err stop d' =>
    obtain rfl : d' = d := by simpa [hparse, Outcome.state?] using hd
    obtain ⟨⟨issue, rfl⟩, -⟩ := hend.of_err hparse
    exact ((hrun.of_err hparse stack hstack).2 f hf).2
  | halt reason => exact (hrun.of_halt hparse).elim

lemma NeverStarves.parsesToEnd (h : NeverStarves host source) : ParsesToEnd host source := by
  intro room hroom
  have hrun := parse_sat hroom
  have hnever := h room hroom
  cases hparse : parse host room source with
  | ok program d => exact (hrun.of_ok hparse).progresses
  | err stop d =>
    cases stop with
    | error issue =>
      have horderly : Orderly (tokensOf host source) d.entries := hrun.of_err hparse
      exact ⟨⟨issue, rfl⟩, horderly.progresses⟩
    | overflow =>
      obtain ⟨stack, hstack, f, hf, hstarved⟩ := hrun.of_err hparse
      exact (hnever d (by rw [hparse]; rfl) stack hstack f hf hstarved).elim
  | halt reason => exact hrun.of_halt hparse

/-- A text whose last token opens no parenthesis or bracket is parsed to its end. -/
lemma parsesToEnd_of_closed (h : ∀ i, ¬EndsOpen (tokensOf host source) i) :
    ParsesToEnd host source :=
  NeverStarves.parsesToEnd fun _ _ _ _ _ _ f _ hstarved => h f.entry.current hstarved.2

/-- **The parser ends on a text, with progress, exactly when it does not starve.** -/
theorem parsesToEnd_iff_neverStarves (host : Host) (source : List Char) :
    ParsesToEnd host source ↔ NeverStarves host source :=
  ⟨ParsesToEnd.neverStarves, NeverStarves.parsesToEnd⟩

/-- The standard library on ASCII texts without numbers. -/
def asciiHost : Host where
  isAlphabetic c := c.isAlpha
  isAlphanumeric c := c.isAlphanum
  debugChar c := c.quote
  parseFloat _ := none
  mulAdd _ _ _ := 0
  fromNat _ := 0
  floatText _ := []
  floatText_length := fun _ => by decide

/-- The run overflowed its stack. -/
def overflowed : Outcome Parsing (Stop SyntaxIssue) Program → Bool
  | .err .overflow _ => true
  | _ => false

lemma ParsesToEnd.not_overflowed (h : ParsesToEnd host source)
    (hroom : framesPerToken * (tokensOf host source).length ≤ room) :
    overflowed (parse host room source) = false := by
  have hrun := h room hroom
  cases hparse : parse host room source with
  | ok program d => rfl
  | err stop d =>
    obtain ⟨⟨issue, rfl⟩, -⟩ := hrun.of_err hparse
    rfl
  | halt reason => rfl

/-- A script that consists of an opening bracket only overflows the stack. -/
theorem leftBracket_not_parsesToEnd : ¬ParsesToEnd asciiHost ['['] := by
  intro h
  have hroom : framesPerToken * (tokensOf asciiHost ['[']).length ≤ 32 := by decide +kernel
  have hover : overflowed (parse asciiHost 32 ['[']) = true := by decide +kernel
  exact Bool.eq_false_iff.mp (h.not_overflowed hroom) hover

end WildBuzzard.Script
