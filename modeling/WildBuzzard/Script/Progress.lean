import WildBuzzard.Script.LexerProgress
import WildBuzzard.Script.Parser

/-!
# How the parser moves over its tokens

The rules by which the methods of the parser are shown to end. Every method has a `rank`: a method
that is called before its caller has taken a token has a higher rank than the caller. Hence the
frames on the stack **climb**: each was entered at a later token than the one below it, or at the
same token with a higher rank (`Climbs`), and a stack is never longer than sixteen times the number
of tokens (`Climbs.length_le`).

There is one exception. At the end of the input `advance` returns the token before the end once
more. If that is an opening parenthesis or bracket, `parse_primary` takes it for the start of an
expression inside it, at the same place: it is `Starved`.

`Goes f rest base pre m post` is the specification of a piece of a method whose frame is `f`: the
`Stride` says how far past the token `base` the parser is known to be.
-/

namespace WildBuzzard.Script

open Lib Call List Script.Parser

/-! ## Frames -/

/-- A method that may be called before its caller has taken a token has a higher rank. -/
def Production.rank : Production → Nat
  | statementList => 0
  | statementListItem => 1
  | statement => 2
  | block => 3
  | lexicalDeclaration => 3
  | variableDeclaration => 3
  | functionDeclaration => 3
  | ifStatement => 3
  | whileStatement => 3
  | doWhile => 3
  | forStatement => 3
  | returnStatement => 3
  | throwStatement => 3
  | tryStatement => 3
  | loopControl => 3
  | expressionStatement => 3
  | bindingList => 4
  | argumentsAfterLeftParen => 4
  | arrayLiteral => 4
  | assignment => 5
  | logicalOr => 6
  | logicalAnd => 7
  | equality => 8
  | relational => 9
  | additive => 10
  | multiplicative => 11
  | unary => 12
  | postfixExpression => 13
  | newAfterKeyword => 13
  | primary => 14
  | postfixSuffix => 14
  | functionAfterKeyword => 15
  | objectLiteral => 15

/-- The number of frames a token can account for. -/
def framesPerToken : Nat := 16

lemma Production.rank_lt (p : Production) : p.rank < framesPerToken := by
  cases p <;> decide

/-- An activation of a method of the parser. -/
abbrev Activation := Frame Production Parser

/-- Where a frame was entered, by token first and rank second. -/
def Activation.height (f : Activation) : Nat :=
  f.entry.current * framesPerToken + f.name.rank

/-- Every frame was entered above the ones below it on the stack. -/
def Climbs (stack : List Activation) : Prop :=
  stack.Pairwise fun inner outer => Activation.height outer < Activation.height inner

variable {stack : List Activation}

lemma Climbs.length_le {f : Activation} (h : Climbs (f :: stack)) :
    stack.length ≤ Activation.height f := by
  induction stack generalizing f with
  | nil => exact Nat.zero_le _
  | cons g rest ih =>
    obtain ⟨habove, hrest⟩ := pairwise_cons.mp h
    exact Nat.lt_of_le_of_lt (ih hrest) (habove g mem_cons_self)

/-- A frame on top of a stack that climbs. -/
lemma Climbs.cons {f g : Activation} {rest : List Activation} (h : Climbs (f :: rest))
    (hg : Activation.height f < Activation.height g) : Climbs (g :: f :: rest) := by
  refine pairwise_cons.mpr ⟨fun k hk => ?_, h⟩
  rcases mem_cons.mp hk with rfl | hk
  · exact hg
  · exact Nat.lt_trans ((pairwise_cons.mp h).1 k hk) hg

/-- **Two nested activations of one method have a token between them.** -/
theorem Climbs.progress (h : Climbs stack) :
    stack.Pairwise fun inner outer => inner.name = outer.name →
      outer.entry.current < inner.entry.current := by
  refine h.imp fun {inner outer} hlt hname => ?_
  unfold Activation.height framesPerToken at hlt
  rw [hname] at hlt
  omega

/-! ## Tokens -/

variable (tokens : List Token)

/-- The end of the input is at this index. -/
def AtEnd (i : Nat) : Prop :=
  ∃ token, tokens[i]? = some token ∧ sameVariant token.kind .eof = true

/-- The token opens a parenthesis or a bracket. -/
def opens (kind : TokenKind) : Bool :=
  sameVariant kind .leftParen || sameVariant kind .leftBracket

/-- The input ends at this index, right after an opening parenthesis or bracket. -/
def EndsOpen (i : Nat) : Prop :=
  AtEnd tokens i ∧ ∃ token, tokens[i - 1]? = some token ∧ opens token.kind = true

/-- A primary expression is looked for where the input ends after an opening parenthesis or
bracket. -/
def Starved (f : Activation) : Prop :=
  f.name = .primary ∧ EndsOpen tokens f.entry.current

lemma EndsInput.lt_of_not_end {tokens : List Token} (h : EndsInput tokens) {i : Nat}
    {token : Token} (htoken : tokens[i]? = some token)
    (hkind : sameVariant token.kind .eof = false) : i + 1 < tokens.length := by
  obtain ⟨body, last, rfl, hlast, -⟩ := h
  obtain ⟨hi, rfl⟩ := List.getElem?_eq_some_iff.mp htoken
  rw [length_append, length_singleton] at hi ⊢
  by_contra hnot
  obtain rfl : i = body.length := by omega
  rw [getElem_concat_length rfl] at hkind
  rw [hkind] at hlast
  simp at hlast

/-- Of two kinds of token that are compared with a third, one that is not the end of the input. -/
lemma sameVariant_eof {kind expected : TokenKind} (h : sameVariant kind expected = true)
    (hexpected : sameVariant expected .eof = false) : sameVariant kind .eof = false := by
  unfold sameVariant at *
  rw [eq_of_beq h]
  exact hexpected

/-! ## The log of a run -/

/-- No method was entered out of order, beyond the tokens or starved. -/
def Orderly (entries : List (List Activation)) : Prop :=
  ∀ stack ∈ entries, Climbs stack ∧
    ∀ f ∈ stack.head?, f.entry.current < tokens.length ∧ ¬Starved tokens f

/-- How a run that stops has gone: an error is met in order, an overflow comes of starving. -/
def Stops : Stop SyntaxIssue → Parsing → Prop
  | .error _, d => Orderly tokens d.entries
  | .overflow, d => ∃ stack ∈ d.entries, ∃ f ∈ stack.head?, Starved tokens f

/-! ## Strides -/

/-- What is known of the parser's place, compared with an earlier one. -/
inductive Stride where
  /-- It is not before it. -/
  | stays
  /-- It is past it, unless the input ended there. -/
  | tries
  /-- It is past it. -/
  | moves
  deriving DecidableEq, Repr

/-- Strides in order of how much they say. -/
def Stride.rank : Stride → Nat
  | stays => 0
  | tries => 1
  | moves => 2

lemma Stride.rank_le_moves (s : Stride) : s.rank ≤ moves.rank := by
  cases s <;> decide

/-- The place `i` is so far past the place `base`. -/
def Past (base : Nat) : Stride → Nat → Prop
  | .stays, i => base ≤ i
  | .tries, i => base ≤ i ∧ (AtEnd tokens base ∨ base < i)
  | .moves, i => base < i

namespace Past

variable {tokens : List Token} {base i j : Nat} {s s' : Stride}

variable (h : Past tokens base s i)
include h

lemma le : base ≤ i := by
  cases s with
  | stays => exact h
  | tries => exact h.1
  | moves => exact Nat.le_of_lt h

lemma mono (hij : i ≤ j) : Past tokens base s j := by
  cases s with
  | stays => exact Nat.le_trans h hij
  | tries => exact ⟨Nat.le_trans h.1 hij, h.2.imp_right fun hlt => Nat.lt_of_lt_of_le hlt hij⟩
  | moves => exact Nat.lt_of_lt_of_le h hij

omit h in
lemma of_lt (h : base < i) : Past tokens base s i := by
  cases s with
  | stays => exact Nat.le_of_lt h
  | tries => exact ⟨Nat.le_of_lt h, .inr h⟩
  | moves => exact h

lemma weaken (hs : s'.rank ≤ s.rank) : Past tokens base s' i := by
  cases s with
  | stays =>
    cases s' with
    | stays => exact h
    | tries => exact absurd hs (by decide)
    | moves => exact absurd hs (by decide)
  | tries =>
    cases s' with
    | stays => exact h.1
    | tries => exact h
    | moves => exact absurd hs (by decide)
  | moves => exact of_lt h

/-- An attempt from wherever the parser has come to. -/
lemma trans_tries (hj : Past tokens i .tries j) : Past tokens base .tries j := by
  refine ⟨Nat.le_trans h.le hj.1, ?_⟩
  rcases Nat.eq_or_lt_of_le h.le with rfl | hlt
  · exact hj.2
  · exact .inr (Nat.lt_of_lt_of_le hlt hj.1)

end Past

/-- How far a method gets when it returns. -/
def Production.stride : Production → Stride
  | statementList => .stays
  | bindingList => .stays
  | postfixSuffix => .stays
  | _ => .tries

/-! ## Specifications of methods -/

/-- What a method is called with: everything is in order, and its frame is above the others. -/
def Enters (p : Production) (_ : p.Input) (d : Parsing) : Prop :=
  Orderly tokens d.entries ∧ d.state.current < tokens.length ∧ Climbs (⟨p, d.state⟩ :: d.stack)

/-- What a method returns with: its frame is gone, and it has come as far as its stride says. -/
def Returns (p : Production) (d : Parsing) (_ : p.Output) (d' : Parsing) : Prop :=
  d'.stack = d.stack ∧ Orderly tokens d'.entries ∧ d'.state.current < tokens.length ∧
    Past tokens d.state.current p.stride d'.state.current

/-- The methods on a stack with room for so many more frames meet their specifications. -/
abbrev MeetsAll (room : Nat) (call : Callees) : Prop :=
  Procedures.Meets (Enters tokens) (Returns tokens) (fun _ _ => Stops tokens)
    (framesPerToken * tokens.length) room call

/-- A method with frame `f` is under way, on top of the frames `rest`. -/
structure Here (tokens : List Token) (f : Activation) (rest : List Activation) (d : Parsing) :
    Prop where
  stack : d.stack = f :: rest
  orderly : Orderly tokens d.entries
  valid : d.state.current < tokens.length
  entry_le : f.entry.current ≤ d.state.current
  climbs : Climbs (f :: rest)

/-- A piece of a method with frame `f`, run when the parser is `pre` past `base`, does not halt, and
if it returns a value the parser is as far past `base` as `post` of that value says. -/
def Goes {α : Type} (tokens : List Token) (f : Activation) (rest : List Activation) (base : Nat)
    (pre : Stride) (m : ParserM α) (post : α → Stride) : Prop :=
  ∀ d, Here tokens f rest d → Past tokens base pre d.state.current →
    (m d).Ends (fun a d' => Here tokens f rest d' ∧ Past tokens base (post a) d'.state.current)
      (Stops tokens)

namespace Goes

variable {α β : Type} {tokens : List Token} {f : Activation} {rest : List Activation} {base : Nat}
  {pre mid : Stride} {m m' : ParserM α} {post : α → Stride} {k : α → ParserM β} {final : β → Stride}

variable {message : String} {expected : TokenKind} {d : Parsing}

lemma pure {a : α} (h : (post a).rank ≤ pre.rank) : Goes tokens f rest base pre (pure a) post :=
  fun _ hd hpast => ⟨hd, hpast.weaken h⟩

lemma bind {between : α → Stride} (hm : Goes tokens f rest base pre m between)
    (hk : ∀ a, Goes tokens f rest base (between a) (k a) final) :
    Goes tokens f rest base pre (m >>= k) final :=
  fun d hd hpast => sat_bind.mpr ((hm d hd hpast).imp fun a d' h => hk a d' h.1 h.2)

lemma read {g : Parsing → ParserM β} (hg : ∀ d, Goes tokens f rest base pre (g d) final) :
    Goes tokens f rest base pre (Call.read >>= g) final :=
  fun d hd hpast => hg d d hd hpast

lemma ite {c : Prop} [Decidable c] (hm : c → Goes tokens f rest base pre m post)
    (hm' : ¬c → Goes tokens f rest base pre m' post) :
    Goes tokens f rest base pre (if c then m else m') post := by
  split
  · rename_i hc
    exact hm hc
  · rename_i hc
    exact hm' hc

/-- More may be known before, and less need be known afterwards. -/
lemma weaken {less : α → Stride} (h : Goes tokens f rest base mid m post)
    (hpre : mid.rank ≤ pre.rank) (hpost : ∀ a, (less a).rank ≤ (post a).rank) :
    Goes tokens f rest base pre m less :=
  fun d hd hpast => (h d hd (hpast.weaken hpre)).imp fun a _ h' => ⟨h'.1, h'.2.weaken (hpost a)⟩

lemma issue {span : SourceSpan} :
    Goes tokens f rest base pre (Parser.issue message span : ParserM α) post :=
  fun _ hd _ => hd.orderly

lemma require {x : Except SyntaxIssue α} :
    Goes tokens f rest base pre (Parser.require x) (fun _ => pre) := by
  intro d hd hpast
  refine sat_ofExcept.mpr ⟨fun _ _ => ⟨hd, hpast⟩, fun e he => ?_⟩
  cases x with
  | ok a => simp [Except.mapError] at he
  | error issue =>
    obtain rfl := Except.error.inj he
    exact hd.orderly

variable {g : Parser → Parser}

/-- A change of the nesting counters. -/
lemma update (hg : ∀ s, (g s).current = s.current) :
    Goes tokens f rest base pre (Parser.update g) (fun _ => pre) := by
  intro d hd hpast
  refine ⟨⟨hd.stack, hd.orderly, ?_, ?_, hd.climbs⟩, ?_⟩
  · rw [hg]
    exact hd.valid
  · rw [hg]
    exact hd.entry_le
  · rw [hg]
    exact hpast

/-- What is done after a call, whether it failed or not. -/
lemma afterwards (hm : Goes tokens f rest base pre m (fun _ => mid))
    (hg : ∀ s, (g s).current = s.current) :
    Goes tokens f rest base pre (Parser.afterwards m g) (fun _ => mid) := by
  intro d hd hpast
  refine sat_bind.mpr (sat_settle.mpr ((hm d hd hpast).imp₂ (fun a d' h => ?_) (fun e d' h => ?_)))
  · exact sat_bind.mpr ((update hg d' h.1 h.2).imp fun _ d'' h' => h')
  · cases e with
    | error issue => exact h
    | overflow => exact h

/-! ### Reading tokens -/

lemma peek : Goes tokens f rest base pre (Parser.peek tokens) (fun _ => pre) := by
  intro d hd hpast
  show (tokenAt tokens d.state.current d).Sat _ _ _
  rw [tokenAt, getElem?_eq_getElem hd.valid]
  exact ⟨hd, hpast⟩

lemma previous : Goes tokens f rest base pre (Parser.previous tokens) (fun _ => pre) := by
  intro d hd hpast
  have hvalid : d.state.current - 1 < tokens.length := Nat.lt_of_le_of_lt (Nat.sub_le _ _) hd.valid
  show (tokenAt tokens (d.state.current - 1) d).Sat _ _ _
  rw [tokenAt, getElem?_eq_getElem hvalid]
  exact ⟨hd, hpast⟩

lemma issueHere : Goes tokens f rest base pre (Parser.issueHere tokens message : ParserM α) post :=
  bind peek fun _ => issue

lemma isAt : Goes tokens f rest base pre (Parser.isAt tokens expected) (fun _ => pre) :=
  bind peek fun _ => pure le_rfl

lemma isAtAny (kinds : List TokenKind) :
    Goes tokens f rest base pre (Parser.isAtAny tokens kinds) (fun _ => pre) := by
  induction kinds with
  | nil => exact pure le_rfl
  | cons kind kinds ih =>
    exact bind isAt fun _ => ite (fun _ => pure le_rfl) fun _ => ih

lemma hasLineTerminatorAfter {token : Token} :
    Goes tokens f rest base pre (Parser.hasLineTerminatorAfter tokens token) (fun _ => pre) :=
  bind peek fun _ => pure le_rfl

/-! ### Taking tokens -/

/-- The current token, and what a test of it gives. -/
lemma exists_isAt (hvalid : d.state.current < tokens.length) :
    ∃ token, tokens[d.state.current]? = some token ∧ Parser.peek tokens d = .ok token d ∧
      ∀ kind, Parser.isAt tokens kind d = .ok (sameVariant token.kind kind) d := by
  have hpeek : Parser.peek tokens d = .ok tokens[d.state.current] d := by
    show tokenAt tokens d.state.current d = _
    rw [tokenAt, getElem?_eq_getElem hvalid]
  exact ⟨_, getElem?_eq_getElem hvalid, hpeek, fun kind => bind_of_ok hpeek⟩

/-- One token further, and the token that was passed. -/
lemma step_previous (hinput : EndsInput tokens) {token : Token}
    (hd : Here tokens f rest d) (hpast : Past tokens base pre d.state.current)
    (htoken : tokens[d.state.current]? = some token) (hkind : sameVariant token.kind .eof = false) :
    ((step >>= fun _ => Parser.previous tokens) d).Ends
      (fun a d' => a = token ∧ Here tokens f rest d' ∧
        Past tokens base .moves d'.state.current) (Stops tokens) := by
  have hvalid := hinput.lt_of_not_end htoken hkind
  refine sat_modify_bind.mpr ?_
  show (tokenAt tokens (d.state.current + 1 - 1) _).Sat _ _ _
  rw [Nat.add_sub_cancel, tokenAt, htoken]
  have hle := hd.entry_le
  have hbase := hpast.le
  refine ⟨rfl, ⟨hd.stack, hd.orderly, hvalid, ?_, hd.climbs⟩, ?_⟩
  · show f.entry.current ≤ d.state.current + 1
    omega
  · show base < d.state.current + 1
    omega

/-- What is known after a token that may have been taken. -/
def taken {γ : Type} (pre : Stride) : Option γ → Stride
  | none => pre
  | some _ => .moves

section

variable (hinput : EndsInput tokens)
include hinput

lemma take (hexpected : sameVariant expected .eof = false) :
    Goes tokens f rest base pre (Parser.take tokens expected) (taken pre) := by
  intro d hd hpast
  obtain ⟨token, htoken, -, hisAt⟩ := exists_isAt hd.valid
  rw [Parser.take, bind_of_ok (hisAt expected)]
  by_cases hfound : sameVariant token.kind expected = true
  · rw [if_pos hfound]
    have hstep := step_previous hinput hd hpast htoken (sameVariant_eof hfound hexpected)
    exact sat_bind.mpr ((sat_bind.mp hstep).imp fun _ d' h' =>
      sat_bind.mpr (h'.imp fun a d'' h'' => h''.2))
  · rw [if_neg hfound]
    exact ⟨hd, hpast⟩

lemma expect (hexpected : sameVariant expected .eof = false) :
    Goes tokens f rest base pre (Parser.expect tokens expected message) (fun _ => .moves) := by
  intro d hd hpast
  obtain ⟨token, htoken, -, hisAt⟩ := exists_isAt hd.valid
  rw [Parser.expect, bind_of_ok (hisAt expected)]
  by_cases hfound : sameVariant token.kind expected = true
  · rw [if_pos hfound]
    have hstep := step_previous hinput hd hpast htoken (sameVariant_eof hfound hexpected)
    exact hstep.imp fun a d' h => h.2
  · rw [if_neg hfound]
    exact issueHere d hd hpast

/-- `advance` moves, or the input has ended and it returns the token before the end. -/
lemma advance_sat (hd : Here tokens f rest d) (hpast : Past tokens base pre d.state.current) :
    (Parser.advance tokens d).Ends
      (fun token d' => Here tokens f rest d' ∧ (Past tokens base .moves d'.state.current ∨
        AtEnd tokens d.state.current ∧ tokens[d.state.current - 1]? = some token ∧ d' = d))
      (Stops tokens) := by
  obtain ⟨token, htoken, -, hisAt⟩ := exists_isAt hd.valid
  rw [Parser.advance, bind_of_ok (hisAt .eof)]
  by_cases hended : sameVariant token.kind .eof = true
  · have hvalid : d.state.current - 1 < tokens.length :=
      Nat.lt_of_le_of_lt (Nat.sub_le _ _) hd.valid
    rw [if_pos hended, Parser.previous, bind_apply]
    show (tokenAt tokens (d.state.current - 1) d).Sat _ _ _
    rw [tokenAt, getElem?_eq_getElem hvalid]
    exact ⟨hd, .inr ⟨⟨token, htoken, hended⟩, rfl, rfl⟩⟩
  · rw [if_neg hended]
    have hstep := step_previous hinput hd hpast htoken (Bool.eq_false_iff.mpr hended)
    exact hstep.imp fun a d' h => ⟨h.2.1, .inl h.2.2⟩

lemma advance : Goes tokens f rest base pre (Parser.advance tokens) (fun _ => .tries) := by
  intro d hd hpast
  refine (advance_sat hinput hd hpast).imp fun token d' h => ⟨h.1, ?_⟩
  rcases h.2 with hmoves | ⟨hend, -, rfl⟩
  · exact .of_lt hmoves
  · exact hpast.trans_tries ⟨le_rfl, .inl hend⟩

/-- What was known before stays known. -/
lemma advance_keeps : Goes tokens f rest base pre (Parser.advance tokens) (fun _ => pre) := by
  intro d hd hpast
  refine (advance_sat hinput hd hpast).imp fun token d' h => ⟨h.1, ?_⟩
  rcases h.2 with hmoves | ⟨-, -, rfl⟩
  · exact .of_lt hmoves
  · exact hpast

lemma takeFirst {choices : List (TokenKind × β)}
    (hchoices : choices.all (fun choice => !sameVariant choice.1 .eof) = true) :
    Goes tokens f rest base pre (Parser.takeFirst tokens choices) (taken pre) := by
  induction choices with
  | nil => exact pure le_rfl
  | cons choice choices ih =>
    rw [all_cons, Bool.and_eq_true] at hchoices
    refine bind (take hinput (by simpa using hchoices.1)) fun token => ?_
    cases token with
    | none => exact ih hchoices.2
    | some token => exact pure le_rfl

lemma consumeSemicolon :
    Goes tokens f rest base pre (Parser.consumeSemicolon tokens) (fun _ => pre) := by
  refine bind (take hinput (by decide)) fun token => ?_
  cases token with
  | some token => exact fun d hd hpast => ⟨hd, .of_lt hpast⟩
  | none =>
    refine bind previous fun last => bind (isAtAny _) fun _ => bind hasLineTerminatorAfter fun _ => ?_
    exact ite (fun _ => pure le_rfl) fun _ => issueHere

end

/-! ### Calls and loops -/

/-- **A method may call another** when it has taken a token, or the other has a higher rank. -/
theorem call_sat {call : Callees} {room : Nat} (hcall : MeetsAll tokens room call)
    {p : Production} {x : p.Input} (hd : Here tokens f rest d)
    (hroom : framesPerToken * tokens.length ≤ (f :: rest).length + room)
    (hpast : f.name.rank < p.rank ∨ f.entry.current < d.state.current) :
    (call p x d).Ends (fun _ d' => Here tokens f rest d' ∧
      Past tokens d.state.current p.stride d'.state.current) (Stops tokens) := by
  have hheight : Activation.height f < Activation.height ⟨p, d.state⟩ := by
    have hrank := f.name.rank_lt
    have hle := hd.entry_le
    unfold Activation.height framesPerToken at *
    dsimp only
    rcases hpast with hlt | hlt <;> omega
  have henters : Enters tokens p x d := by
    refine ⟨hd.orderly, hd.valid, ?_⟩
    rw [hd.stack]
    exact hd.climbs.cons hheight
  rw [← hd.stack] at hroom
  refine (hcall p x d henters hroom).imp fun y d' h => ?_
  obtain ⟨hstack, horderly, hvalid, hreturn⟩ := h
  exact ⟨⟨hstack.trans hd.stack, horderly, hvalid, Nat.le_trans hd.entry_le hreturn.le, hd.climbs⟩,
    hreturn⟩

end Goes

/-- The setting a body of a method runs in: complete input, its own frame on the stack, and calls
that meet their specifications with the room that is left. -/
structure Setting (tokens : List Token) (f : Activation) (rest : List Activation)
    (call : Callees) : Prop where
  input : EndsInput tokens
  room : ∃ room, MeetsAll tokens room call ∧
    framesPerToken * tokens.length ≤ (f :: rest).length + room

/-- What is known after a round of a loop: a round that goes on has taken a token. -/
def roundStride {α β : Type} : Round α β → Stride
  | .next _ => .moves
  | .done _ => .stays

/-- The number of tokens ahead. -/
def tokensAhead (d : Parsing) : Nat := tokens.length - d.state.current

namespace Setting

variable {α β : Type} {tokens : List Token} {f : Activation} {rest : List Activation}
  {call : Callees} {base : Nat} {pre : Stride} {p : Production} {x : p.Input}

section

variable (h : Setting tokens f rest call)
include h

/-- A call of a method of higher rank. -/
lemma callHigher (hrank : decide (f.name.rank < p.rank) = true) :
    Goes tokens f rest base pre (call p x) (fun _ => pre) := by
  obtain ⟨room, hcall, hroom⟩ := h.room
  intro d hd hpast
  refine (Goes.call_sat hcall hd hroom (.inl (of_decide_eq_true hrank))).imp fun _ d' h' => ⟨h'.1, ?_⟩
  exact hpast.mono h'.2.le

/-- ... which takes a token if there is one. -/
lemma callTrying (hrank : decide (f.name.rank < p.rank) = true) (hp : p.stride = .tries) :
    Goes tokens f rest base pre (call p x) (fun _ => .tries) := by
  obtain ⟨room, hcall, hroom⟩ := h.room
  intro d hd hpast
  refine (Goes.call_sat hcall hd hroom (.inl (of_decide_eq_true hrank))).imp fun _ d' h' => ⟨h'.1, ?_⟩
  rw [hp] at h'
  exact hpast.trans_tries h'.2

/-- A call of any method after a token has been taken. -/
lemma callLater (hbase : f.entry.current ≤ base) :
    Goes tokens f rest base .moves (call p x) (fun _ => .moves) := by
  obtain ⟨room, hcall, hroom⟩ := h.room
  intro d hd hpast
  have hlater : f.entry.current < d.state.current := Nat.lt_of_le_of_lt hbase hpast
  refine (Goes.call_sat hcall hd hroom (.inr hlater)).imp fun _ d' h' => ⟨h'.1, ?_⟩
  exact hpast.mono h'.2.le

end

variable {body : α → ParserM (Round α β)} {final : β → Stride}

/-- **A loop whose rounds take tokens ends.** -/
theorem iterateFrom (hround : ∀ a d, Here tokens f rest d → (body a d).Ends
      (fun r d' => Here tokens f rest d' ∧
        Past tokens d.state.current (roundStride r) d'.state.current) (Stops tokens)) (a : α) :
    Goes tokens f rest base pre (Call.iterate body (tokens.length + 1) a) (fun _ => pre) := by
  intro d hd hpast
  have hbound : tokensAhead tokens d < tokens.length + 1 := Nat.lt_succ_of_le (Nat.sub_le _ _)
  refine sat_iterate
    (I := fun _ e => Here tokens f rest e ∧ Past tokens base pre e.state.current)
    (fun b e he => ?_) ⟨hd, hpast⟩ hbound
  refine (hround b e he.1).imp fun r e' h => ?_
  have hlt := he.1.valid
  cases r with
  | next c =>
    have hmoved : e.state.current < e'.state.current := h.2
    exact ⟨⟨h.1, he.2.mono h.2.le⟩, by unfold tokensAhead; omega⟩
  | done r => exact ⟨h.1, he.2.mono h.2.le⟩

lemma iterate (hround : ∀ a base', f.entry.current ≤ base' →
      Goes tokens f rest base' .stays (body a) roundStride) (a : α) :
    Goes tokens f rest base pre (Call.iterate body (tokens.length + 1) a) (fun _ => pre) :=
  iterateFrom (fun b d hd => hround b d.state.current hd.entry_le d hd le_rfl) a

variable (h : Setting tokens f rest call)
include h

/-- Go on after a token that has been taken, or without it. -/
lemma takeThen {expected : TokenKind} {k : Option Token → ParserM β}
    (hexpected : sameVariant expected .eof = false)
    (hsome : ∀ token, Goes tokens f rest base .moves (k (some token)) final)
    (hnone : Goes tokens f rest base pre (k none) final) :
    Goes tokens f rest base pre (Parser.take tokens expected >>= k) final := by
  refine Goes.bind (Goes.take h.input hexpected) fun token => ?_
  cases token with
  | none => exact hnone
  | some token => exact hsome token

/-- Go on after one of several tokens that has been taken, or without it. -/
lemma takeFirstThen {choices : List (TokenKind × α)} {k : Option α → ParserM β}
    (hchoices : choices.all (fun choice => !sameVariant choice.1 .eof) = true)
    (hsome : ∀ a, Goes tokens f rest base .moves (k (some a)) final)
    (hnone : Goes tokens f rest base pre (k none) final) :
    Goes tokens f rest base pre (Parser.takeFirst tokens choices >>= k) final := by
  refine Goes.bind (Goes.takeFirst h.input hchoices) fun choice => ?_
  cases choice with
  | none => exact hnone
  | some a => exact hsome a

/-- Go on after a token that must be there. -/
lemma expectThen {expected : TokenKind} {message : String} {k : Token → ParserM β}
    (hexpected : sameVariant expected .eof = false)
    (hk : ∀ token, Goes tokens f rest base .moves (k token) final) :
    Goes tokens f rest base pre (Parser.expect tokens expected message >>= k) final :=
  Goes.bind (Goes.expect h.input hexpected) hk

end Setting

end WildBuzzard.Script
