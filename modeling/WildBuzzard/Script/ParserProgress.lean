import WildBuzzard.Script.Progress

/-!
# Every method of the parser takes tokens

One lemma for the body of each method of `parser.rs`, by the rules of `Goes`: run on a stack where
its calls meet their specifications, the body **makes every call above its own frame** and gets as
far as the method's stride says. `bodies_complete` puts them together. The only body that needs to
know more is that of `parse_primary`, which must not be starved.
-/

namespace WildBuzzard.Script

open Lib Setting Stride Script.Parser

variable {host : Host} {tokens : List Token} {f : Activation} {s : Parser}
  {rest : List Activation} {call : Callees} {base : Nat} {pre : Stride}

/-- The body of a method, from its entry on, gets as far as the method's stride says. -/
abbrev Completes {α : Type} (tokens : List Token) (p : Production) (s : Parser)
    (rest : List Activation) (m : ParserM α) : Prop :=
  Goes tokens ⟨p, s⟩ rest s.current .stays m (fun _ => p.stride)

/-- So does the body of a method whenever its calls meet their specifications. -/
abbrev BodyOf {α : Type} (tokens : List Token) (p : Production) (m : Callees → ParserM α) : Prop :=
  ∀ ⦃s rest call⦄, Setting tokens ⟨p, s⟩ rest call → Completes tokens p s rest (m call)

namespace Goes

/-- A value returned after a token has been taken. -/
lemma pureMoved {α : Type} {a : α} {post : α → Stride} :
    Goes tokens f rest base .moves (Pure.pure a : ParserM α) post :=
  pure (rank_le_moves _)

/-- A value returned with what is known. -/
lemma pureKeeping {α : Type} {a : α} :
    Goes tokens f rest base pre (Pure.pure a : ParserM α) (fun _ => pre) :=
  pure le_rfl

end Goes

/-! ## Statements -/

lemma parseStatementList_completes (stopAtBrace : Bool) :
    BodyOf tokens .statementList fun call => parseStatementList tokens call stopAtBrace := by
  intro s rest call h
  refine .bind (iterateFrom (fun statements d hd => ?_) []) fun _ => ?_
  · -- a round that goes on is not at the end of the input, so its statement takes a token
    obtain ⟨token, htoken, -, hisAt⟩ := Goes.exists_isAt hd.valid
    rw [Call.bind_of_ok (hisAt .eof), Call.bind_of_ok (hisAt .rightBrace)]
    by_cases hstop : sameVariant token.kind .eof = true ∨
        stopAtBrace = true ∧ sameVariant token.kind .rightBrace = true
    · rw [if_pos hstop]
      exact ⟨hd, le_rfl⟩
    · rw [if_neg hstop]
      have hitem : Goes tokens ⟨.statementList, s⟩ rest d.state.current .stays
          (call .statementListItem ()) (fun _ => .tries) := h.callTrying rfl rfl
      refine Call.sat_bind.mpr ((hitem d hd le_rfl).imp fun _ d' h' => ⟨h'.1, ?_⟩)
      refine h'.2.2.resolve_left ?_
      rintro ⟨token', htoken', hend⟩
      rw [htoken] at htoken'
      obtain rfl := Option.some.inj htoken'
      exact hstop (.inl hend)
  · exact .bind .isAt fun _ => .ite (fun _ => .issueHere) fun _ => .pureKeeping

lemma parseStatementListItem_completes :
    BodyOf tokens .statementListItem (parseStatementListItem tokens) := by
  intro _ _ _ h
  refine .bind (.isAtAny _) fun _ => .bind .isAt fun _ => ?_
  refine .ite (fun _ => ?_) fun _ => .ite (fun _ => ?_) fun _ => ?_
  · exact h.callTrying rfl rfl
  · exact h.callTrying rfl rfl
  · exact h.callTrying rfl rfl

/-- A statement that is told by its first token. -/
lemma statementOf_goes (h : Setting tokens ⟨.statement, s⟩ rest call) {kind : TokenKind}
    {statement : ParserM Statement} (heq : statementOf tokens call kind = some statement) :
    Goes tokens ⟨.statement, s⟩ rest base pre statement (fun _ => .tries) := by
  unfold statementOf at heq
  split at heq
  all_goals
    first
      | cases heq; exact h.callTrying rfl rfl
      | cases heq; exact .issueHere
      | cases heq

lemma parseStatement_completes : BodyOf tokens .statement (parseStatement tokens) := by
  intro _ _ _ h
  refine h.takeThen rfl (fun _ => .pureMoved) (.bind .peek fun token => ?_)
  split
  · rename_i statement heq
    exact statementOf_goes h heq
  · exact h.callTrying rfl rfl

lemma parseBlock_completes : BodyOf tokens .block (parseBlock tokens) := fun _ _ _ h =>
  h.expectThen rfl fun _ => .bind (h.callLater le_rfl) fun _ =>
    h.expectThen rfl fun _ => .pureMoved

lemma parseLexicalDeclaration_completes :
    BodyOf tokens .lexicalDeclaration (parseLexicalDeclaration tokens) := fun _ _ _ h =>
  .bind (.advance h.input) fun _ => .bind (h.callHigher rfl) fun _ =>
    .bind (.consumeSemicolon h.input) fun _ => .pureKeeping

lemma parseVariableDeclaration_completes :
    BodyOf tokens .variableDeclaration (parseVariableDeclaration tokens) := fun _ _ _ h =>
  h.expectThen rfl fun _ => .bind (h.callLater le_rfl) fun _ =>
    .bind (.consumeSemicolon h.input) fun _ => .pureMoved

lemma parseInitializer_goes (h : Setting tokens f rest call) (hbase : f.entry.current ≤ base) :
    Goes tokens f rest base pre (parseInitializer tokens call) (fun _ => pre) :=
  h.takeThen rfl (fun _ => .bind (h.callLater hbase) fun _ => .pureMoved) .pureKeeping

lemma bindingRound_goes (h : Setting tokens f rest call) (hbase : f.entry.current ≤ base)
    (initializerRequired : Bool) (bindings : List BindingDeclaration) :
    Goes tokens f rest base .stays
      (bindingRound tokens call initializerRequired bindings) roundStride := by
  refine .bind (.advance_keeps h.input) fun token => ?_
  split
  · refine .bind (parseInitializer_goes h hbase) fun _ => .ite (fun _ => .issue) fun _ => ?_
    exact h.takeThen rfl (fun _ => .pureMoved) (.pure le_rfl)
  · exact .issue

lemma parseBindingList_completes (initializerRequired : Bool) :
    BodyOf tokens .bindingList fun call => parseBindingList tokens call initializerRequired :=
  fun _ _ _ h =>
  iterate (fun bindings _ hbase => bindingRound_goes h hbase _ bindings) []

lemma parseFunctionDeclaration_completes :
    BodyOf tokens .functionDeclaration (parseFunctionDeclaration tokens) := fun _ _ _ h =>
  h.expectThen rfl fun _ => .bind (h.callLater le_rfl) fun _ => .pureMoved

lemma parseFunctionName_goes (hinput : EndsInput tokens) (nameRequired : Bool) :
    Goes tokens f rest base pre (parseFunctionName tokens nameRequired) (fun _ => pre) := by
  refine .bind .peek fun token => ?_
  split
  · exact .bind (.advance_keeps hinput) fun _ => .pureKeeping
  · exact .ite (fun _ => .issueHere) fun _ => .pureKeeping

lemma parameterRound_goes (h : Setting tokens f rest call) (parameters : List String) :
    Goes tokens f rest base .stays (parameterRound tokens parameters) roundStride := by
  refine .bind (.advance_keeps h.input) fun token => ?_
  split
  · refine .ite (fun _ => .issue) fun _ => ?_
    exact h.takeThen rfl (fun _ => .pureMoved) (.pure le_rfl)
  · exact .issue

lemma parseParameters_goes (h : Setting tokens f rest call) :
    Goes tokens f rest base pre (parseParameters tokens) (fun _ => pre) :=
  .bind .isAt fun _ => .ite (fun _ => .pureKeeping) fun _ =>
    iterate (fun parameters _ _ => parameterRound_goes h parameters) []

lemma parseFunctionAfterKeyword_completes (start : SourceSpan) (nameRequired : Bool) :
    BodyOf tokens .functionAfterKeyword fun call =>
      parseFunctionAfterKeyword tokens call start nameRequired := by
  intro _ _ _ h
  refine .bind (parseFunctionName_goes h.input nameRequired) fun _ => h.expectThen rfl fun _ => ?_
  refine .bind (parseParameters_goes h) fun _ => h.expectThen rfl fun _ => ?_
  refine h.expectThen rfl fun _ => .read fun outer => .bind (.update fun _ => rfl) fun _ => ?_
  refine .bind (.afterwards (h.callLater le_rfl) fun _ => rfl) fun _ => ?_
  exact .bind .require fun _ => h.expectThen rfl fun _ => .pureMoved

lemma parseIf_completes : BodyOf tokens .ifStatement (parseIf tokens) := by
  intro _ _ _ h
  refine h.expectThen rfl fun _ => h.expectThen rfl fun _ => ?_
  refine .bind (h.callLater le_rfl) fun _ => h.expectThen rfl fun _ => ?_
  refine .bind (h.callLater le_rfl) fun _ => h.takeThen rfl (fun _ => ?_) .pureMoved
  exact .bind (h.callLater le_rfl) fun _ => .pureMoved

lemma parseLoopBody_goes (h : Setting tokens f rest call) (hbase : f.entry.current ≤ base) :
    Goes tokens f rest base .moves (parseLoopBody call) (fun _ => .moves) :=
  .bind (.update fun _ => rfl) fun _ => .afterwards (h.callLater hbase) fun _ => rfl

lemma parseWhile_completes : BodyOf tokens .whileStatement (parseWhile tokens) := by
  intro _ _ _ h
  refine h.expectThen rfl fun _ => h.expectThen rfl fun _ => ?_
  refine .bind (h.callLater le_rfl) fun _ => h.expectThen rfl fun _ => ?_
  exact .bind (parseLoopBody_goes h le_rfl) fun _ => .pureMoved

lemma parseDoWhile_completes : BodyOf tokens .doWhile (parseDoWhile tokens) := by
  intro _ _ _ h
  refine h.expectThen rfl fun _ => .bind (parseLoopBody_goes h le_rfl) fun _ => ?_
  refine h.expectThen rfl fun _ => h.expectThen rfl fun _ => ?_
  refine .bind (h.callLater le_rfl) fun _ => h.expectThen rfl fun _ => ?_
  exact h.takeThen rfl (fun _ => .pureMoved) .pureMoved

lemma rejectForInOrOf_goes :
    Goes tokens f rest base pre (rejectForInOrOf tokens) (fun _ => pre) := by
  refine .bind .peek fun token => ?_
  split
  · exact .ite (fun _ => .issueHere) fun _ => .pureKeeping
  · exact .pureKeeping

section

variable (h : Setting tokens f rest call) (hbase : f.entry.current ≤ base)
include h hbase

lemma parseForDeclarations_goes :
    Goes tokens f rest base .moves (parseForDeclarations tokens call) (fun _ => .moves) := by
  refine h.takeThen rfl (fun _ => .bind (h.callLater hbase) fun _ => .pureMoved) ?_
  refine .bind (.isAtAny _) fun _ => .ite (fun _ => ?_) fun _ => ?_
  · refine .bind (.advance_keeps h.input) fun _ => .bind (h.callLater hbase) fun _ => .pureMoved
  · exact .bind (h.callLater hbase) fun _ => .pureMoved

lemma parseForInitializer_goes :
    Goes tokens f rest base .moves (parseForInitializer tokens call) (fun _ => .moves) := by
  refine h.takeThen rfl (fun _ => .pureMoved) ?_
  refine .bind (parseForDeclarations_goes h hbase) fun _ => .bind rejectForInOrOf_goes fun _ => ?_
  exact h.expectThen rfl fun _ => .pureMoved

lemma parseForTest_goes :
    Goes tokens f rest base .moves (parseForTest tokens call) (fun _ => .moves) :=
  h.takeThen rfl (fun _ => .pureMoved) (.bind (h.callLater hbase) fun _ =>
    h.expectThen rfl fun _ => .pureMoved)

lemma parseForUpdate_goes :
    Goes tokens f rest base .moves (parseForUpdate tokens call) (fun _ => .moves) :=
  .bind .isAt fun _ => .ite (fun _ => .pureMoved) fun _ =>
    .bind (h.callLater hbase) fun _ => .pureMoved

end

lemma parseFor_completes : BodyOf tokens .forStatement (parseFor tokens) := by
  intro _ _ _ h
  refine h.expectThen rfl fun _ => h.expectThen rfl fun _ => ?_
  refine .bind (parseForInitializer_goes h le_rfl) fun _ => ?_
  refine .bind (parseForTest_goes h le_rfl) fun _ => ?_
  refine .bind (parseForUpdate_goes h le_rfl) fun _ => h.expectThen rfl fun _ => ?_
  exact .bind (parseLoopBody_goes h le_rfl) fun _ => .pureMoved

lemma parseReturn_completes : BodyOf tokens .returnStatement (parseReturn tokens) := by
  intro _ _ _ h
  refine h.expectThen rfl fun _ => .read fun _ => .ite (fun _ => .issue) fun _ => ?_
  refine .bind .hasLineTerminatorAfter fun _ => .bind (.isAtAny _) fun _ => ?_
  refine .ite (fun _ => ?_) fun _ => .bind (h.callLater le_rfl) fun _ => ?_
  · exact .bind (.consumeSemicolon h.input) fun _ => .pureMoved
  · exact .bind (.consumeSemicolon h.input) fun _ => .pureMoved

lemma parseThrow_completes : BodyOf tokens .throwStatement (parseThrow tokens) := by
  intro _ _ _ h
  refine h.expectThen rfl fun _ => .bind .hasLineTerminatorAfter fun _ => ?_
  refine .ite (fun _ => .issue) fun _ => .bind (.isAtAny _) fun _ => ?_
  refine .ite (fun _ => .issueHere) fun _ => .bind (h.callLater le_rfl) fun _ => ?_
  exact .bind (.consumeSemicolon h.input) fun _ => .pureMoved

section

variable (h : Setting tokens f rest call) (hbase : f.entry.current ≤ base)
include h hbase

lemma parseRequiredBlock_goes (message : String) :
    Goes tokens f rest base .moves (parseRequiredBlock tokens call message) (fun _ => .moves) :=
  .bind .isAt fun _ => .ite (fun _ => h.callLater hbase) fun _ => .issueHere

omit h hbase in
lemma parseCatchParameter_goes (h : Setting tokens f rest call) :
    Goes tokens f rest base .moves (parseCatchParameter tokens) (fun _ => .moves) := by
  refine h.takeThen rfl (fun _ => .bind (.advance_keeps h.input) fun token => ?_) .pureMoved
  split
  · exact h.expectThen rfl fun _ => .pureMoved
  · exact .issue

lemma parseCatch_goes : Goes tokens f rest base .moves (parseCatch tokens call) (fun _ => .moves) :=
  h.takeThen rfl (fun _ => .bind (parseCatchParameter_goes h) fun _ =>
    .bind (parseRequiredBlock_goes h hbase _) fun _ => .pureMoved) .pureMoved

lemma parseFinally_goes :
    Goes tokens f rest base .moves (parseFinally tokens call) (fun _ => .moves) :=
  h.takeThen rfl (fun _ => .bind (parseRequiredBlock_goes h hbase _) fun _ => .pureMoved) .pureMoved

end

lemma parseTry_completes : BodyOf tokens .tryStatement (parseTry tokens) := by
  intro _ _ _ h
  refine h.expectThen rfl fun _ => .bind (parseRequiredBlock_goes h le_rfl _) fun _ => ?_
  refine .bind (parseCatch_goes h le_rfl) fun _ => ?_
  refine .bind (parseFinally_goes h le_rfl) fun _ => ?_
  exact .ite (fun _ => .issue) fun _ => .pureMoved

lemma parseLoopControl_completes (isBreak : Bool) :
    BodyOf tokens .loopControl fun _ => parseLoopControl tokens isBreak := by
  intro _ _ _ h
  refine .bind (.advance h.input) fun _ => .read fun _ => .ite (fun _ => .issue) fun _ => ?_
  refine .bind .hasLineTerminatorAfter fun _ => .bind (.bind .peek fun _ => .pureKeeping) ?_
  intro _
  refine .ite (fun _ => .issueHere) fun _ => .bind (.consumeSemicolon h.input) fun _ => ?_
  exact .pureKeeping

lemma parseExpressionStatement_completes :
    BodyOf tokens .expressionStatement (parseExpressionStatement tokens) := fun _ _ _ h =>
  .bind (h.callTrying rfl rfl) fun _ => .bind (.consumeSemicolon h.input) fun _ => .pureKeeping

/-! ## Expressions -/

lemma parseAssignment_completes : BodyOf tokens .assignment (parseAssignment tokens) := by
  intro _ _ _ h
  refine .bind (h.callTrying rfl rfl) fun left => h.takeThen rfl (fun _ => ?_) .pureKeeping
  dsimp only
  split
  · exact .issue
  · exact .bind (h.callLater le_rfl) fun _ => .pureMoved

/-- Operands joined by operators: the first operand is tried, each operator is taken. -/
lemma chain_goes {α : Type} (h : Setting tokens f rest call) {operand : ParserM Expression}
    {operators : List (TokenKind × α)} {join : Expression → α → Expression → Expression}
    (hoperators : operators.all (fun choice => !sameVariant choice.1 .eof) = true)
    (htries : Goes tokens f rest base pre operand (fun _ => .tries))
    (hkeeps : ∀ base', Goes tokens f rest base' .moves operand (fun _ => .moves)) :
    Goes tokens f rest base pre (chain tokens operand operators join) (fun _ => .tries) := by
  refine .bind htries fun first => iterate (fun left base' _ => ?_) first
  refine h.takeFirstThen hoperators (fun operator => ?_) (.pure le_rfl)
  exact .bind (hkeeps base') fun _ => .pureMoved

lemma deletion_goes (operand : Expression) (span : SourceSpan) :
    Goes tokens f rest base pre (deletion operand span) (fun _ => pre) := by
  unfold deletion
  split
  · exact .pureKeeping
  · exact .issue

lemma parseUnary_completes : BodyOf tokens .unary (parseUnary tokens) := by
  intro _ _ _ h
  refine h.takeThen rfl (fun _ => ?_) (h.takeFirstThen rfl (fun operator => ?_) ?_)
  · refine .bind (h.callLater le_rfl) fun operand => ?_
    exact (deletion_goes operand _).weaken le_rfl fun _ => rank_le_moves _
  · exact .bind .previous fun _ => .bind (h.callLater le_rfl) fun _ => .pureMoved
  · exact h.callTrying rfl rfl

lemma parseCallee_goes (h : Setting tokens f rest call) (hbase : f.entry.current ≤ base)
    (hrank : decide (f.name.rank < Production.primary.rank) = true) :
    Goes tokens f rest base pre (parseCallee tokens call) (fun _ => .tries) :=
  h.takeThen rfl (fun _ => (h.callLater hbase).weaken le_rfl fun _ =>
    rank_le_moves _) (h.callTrying hrank rfl)

lemma parsePostfix_completes :
    BodyOf tokens .postfixExpression (parsePostfix tokens) := fun _ _ _ h =>
  .bind (parseCallee_goes h le_rfl rfl) fun _ => h.callHigher rfl

lemma parseNewAfterKeyword_completes (start : SourceSpan) :
    BodyOf tokens .newAfterKeyword fun call => parseNewAfterKeyword tokens call start := by
  intro _ _ _ h
  refine .bind (parseCallee_goes h le_rfl rfl) fun _ => .bind (h.callHigher rfl) fun _ => ?_
  refine h.takeThen rfl (fun _ => ?_) .pureKeeping
  exact .bind (h.callLater le_rfl) fun _ => .bind .previous fun _ => .pureMoved

lemma propertyNameFromUtf8_goes (value : String) (span : SourceSpan) :
    Goes tokens f rest base pre (propertyNameFromUtf8 value span) (fun _ => pre) := .require

lemma parseSuffix_goes (h : Setting tokens f rest call) (hbase : f.entry.current ≤ base)
    (expression : Expression) (suffix : Suffix) :
    Goes tokens f rest base .moves (parseSuffix tokens call expression suffix)
      (fun _ => .moves) := by
  cases suffix with
  | member =>
    refine .bind (.advance_keeps h.input) fun token => ?_
    split
    · exact .issue
    · exact .bind (propertyNameFromUtf8_goes _ _) fun _ => .pureMoved
  | computed => exact .bind (h.callLater hbase) fun _ => h.expectThen rfl fun _ => .pureMoved
  | call => exact .bind (h.callLater hbase) fun _ => .bind .previous fun _ => .pureMoved

lemma suffixes_all (allowCalls : Bool) :
    (suffixes allowCalls).all (fun choice => !sameVariant choice.1 .eof) = true := by
  cases allowCalls <;> rfl

lemma parsePostfixSuffix_completes (expression : Expression) (allowCalls : Bool) :
    BodyOf tokens .postfixSuffix fun call =>
      parsePostfixSuffix tokens call expression allowCalls := by
  intro _ _ _ h
  refine iterate (fun left base' hbase => ?_) expression
  refine h.takeFirstThen (suffixes_all allowCalls) (fun suffix => ?_) (.pure le_rfl)
  exact .bind (parseSuffix_goes h hbase left suffix) fun _ => .pureMoved

lemma parseArgumentsAfterLeftParen_completes :
    BodyOf tokens .argumentsAfterLeftParen (parseArgumentsAfterLeftParen tokens) := by
  intro _ _ _ h
  refine .bind .isAt fun _ => .bind (.ite (fun _ => .pureKeeping) fun _ => ?_) fun _ =>
    h.expectThen rfl fun _ => .pureMoved
  refine iterate (fun arguments base' _ => .bind (h.callHigher rfl) fun _ => ?_) []
  exact h.takeThen rfl (fun _ => .pureMoved) (.pure le_rfl)

lemma parseArrayLiteral_completes (start : SourceSpan) :
    BodyOf tokens .arrayLiteral fun call => parseArrayLiteral tokens call start := by
  intro _ _ _ h
  refine .bind (iterate (fun elements base' _ => ?_) []) fun _ =>
    h.expectThen rfl fun _ => .pureMoved
  refine .bind .isAt fun _ => .ite (fun _ => .pure le_rfl) fun _ => ?_
  refine h.takeThen rfl (fun _ => .pureMoved) (.bind (h.callHigher rfl) fun _ => ?_)
  refine h.takeThen rfl (fun _ => .bind .isAt fun _ => ?_) (.pure le_rfl)
  exact .ite (fun _ => .pureMoved) fun _ => .pureMoved

lemma numberToPropertyKey_goes (number : Float64) :
    Goes tokens f rest base pre (numberToPropertyKey host number) (fun _ => pre) := by
  have hlength : (encodeUtf16 (if number = 0 ∨ number = 0x8000000000000000 then ['0']
      else host.floatText number)).length ≤ maxStringLength := by
    split
    · decide
    · exact host.floatText_length number
  intro d hd hpast
  unfold numberToPropertyKey
  simp only [JsString.fromUtf8, JsString.fromCodeUnits, dif_pos hlength]
  exact ⟨hd, hpast⟩

lemma parsePropertyKey_goes (token : Token) :
    Goes tokens f rest base pre (parsePropertyKey host token) (fun _ => pre) := by
  unfold parsePropertyKey
  split
  · exact .bind (propertyNameFromUtf8_goes _ _) fun _ => .pureKeeping
  · exact .pureKeeping
  · exact .bind (numberToPropertyKey_goes _) fun _ => .pureKeeping
  · split
    · exact .issue
    · exact .bind (propertyNameFromUtf8_goes _ _) fun _ => .pureKeeping

lemma parsePropertyValue_goes (h : Setting tokens f rest call) (hbase : f.entry.current ≤ base)
    (token : Token) (shorthand : Option String) :
    Goes tokens f rest base pre (parsePropertyValue tokens call token shorthand)
      (fun _ => pre) := by
  refine h.takeThen rfl (fun _ => ?_) ?_
  · exact (h.callLater hbase).weaken le_rfl fun _ => rank_le_moves _
  · dsimp only
    split
    · exact .pureKeeping
    · exact .issueHere

lemma parseObjectLiteral_completes (start : SourceSpan) :
    BodyOf tokens .objectLiteral fun call => parseObjectLiteral host tokens call start := by
  intro _ _ _ h
  refine .bind .isAt fun _ => .bind (.ite (fun _ => .pureKeeping) fun _ => ?_) fun _ =>
    h.expectThen rfl fun _ => .pureMoved
  refine iterate (fun properties base' hbase => ?_) []
  refine .bind (.advance_keeps h.input) fun token => .bind (parsePropertyKey_goes token) fun _ => ?_
  refine .bind (parsePropertyValue_goes h hbase token _) fun _ => ?_
  refine h.takeThen rfl (fun _ => .bind .isAt fun _ => ?_) (.pure le_rfl)
  exact .ite (fun _ => .pureMoved) fun _ => .pureMoved

/-- What is known after the first token of a primary expression. -/
def primaryStride (kind : TokenKind) : Stride := if opens kind then .moves else .tries

lemma tries_le_primaryStride (kind : TokenKind) : tries.rank ≤ (primaryStride kind).rank := by
  unfold primaryStride
  split <;> decide

/-- A primary expression that is not starved has taken the bracket it starts with. -/
lemma advance_unlessStarved (hinput : EndsInput tokens) (hfed : ¬Starved tokens ⟨.primary, s⟩) :
    Goes tokens ⟨.primary, s⟩ rest s.current .stays (Parser.advance tokens)
      (fun token => primaryStride token.kind) := by
  intro d hd hpast
  refine (Goes.advance_sat hinput hd hpast).imp fun token d' h => ⟨h.1, ?_⟩
  rcases h.2 with hmoves | ⟨hend, htoken, rfl⟩
  · exact .of_lt hmoves
  · rcases Nat.eq_or_lt_of_le hpast with heq | hlt
    · have hclosed : opens token.kind = false := by
        by_contra hopen
        rw [Bool.not_eq_false] at hopen
        refine hfed ⟨rfl, ?_, token, ?_, hopen⟩
        · exact heq ▸ hend
        · exact heq ▸ htoken
      have hstride : primaryStride token.kind = .tries := by simp [primaryStride, hclosed]
      show Past tokens s.current (primaryStride token.kind) d'.state.current
      rw [hstride]
      exact ⟨hpast, .inl (heq ▸ hend)⟩
    · exact .of_lt hlt

lemma parsePrimary_completes (h : Setting tokens ⟨.primary, s⟩ rest call)
    (hfed : ¬Starved tokens ⟨.primary, s⟩) :
    Completes tokens .primary s rest (parsePrimary tokens call) := by
  refine .bind (advance_unlessStarved h.input hfed) fun token => ?_
  split
  · exact .pure (tries_le_primaryStride _)
  · split
    · rename_i hfunction
      rw [hfunction]
      exact .bind (h.callHigher rfl) fun _ => .pureKeeping
    · rename_i hbrace
      rw [hbrace]
      exact h.callHigher rfl
    · rename_i hbracket
      rw [hbracket]
      exact (h.callLater le_rfl).weaken le_rfl fun _ => rank_le_moves _
    · rename_i hparen
      rw [hparen]
      exact .bind (h.callLater le_rfl) fun _ => h.expectThen rfl fun _ => .pureMoved
    · exact .issue

/-- **The body of every method** gets as far as its stride says, unless it is starved. -/
theorem bodies_complete {p : Production} (h : Setting tokens ⟨p, s⟩ rest call)
    (hfed : ¬Starved tokens ⟨p, s⟩) (x : p.Input) :
    Completes tokens p s rest (bodies host tokens call p x) := by
  cases p with
  | statementList => exact parseStatementList_completes x h
  | statementListItem => exact parseStatementListItem_completes h
  | statement => exact parseStatement_completes h
  | block => exact parseBlock_completes h
  | lexicalDeclaration => exact parseLexicalDeclaration_completes h
  | variableDeclaration => exact parseVariableDeclaration_completes h
  | bindingList => exact parseBindingList_completes x h
  | functionDeclaration => exact parseFunctionDeclaration_completes h
  | functionAfterKeyword => exact parseFunctionAfterKeyword_completes x.1 x.2 h
  | ifStatement => exact parseIf_completes h
  | whileStatement => exact parseWhile_completes h
  | doWhile => exact parseDoWhile_completes h
  | forStatement => exact parseFor_completes h
  | returnStatement => exact parseReturn_completes h
  | throwStatement => exact parseThrow_completes h
  | tryStatement => exact parseTry_completes h
  | loopControl => exact parseLoopControl_completes x h
  | expressionStatement => exact parseExpressionStatement_completes h
  | assignment => exact parseAssignment_completes h
  | logicalOr | logicalAnd | equality | relational | additive | multiplicative =>
    exact chain_goes h rfl (h.callTrying rfl rfl) fun _ => h.callHigher rfl
  | unary => exact parseUnary_completes h
  | postfixExpression => exact parsePostfix_completes h
  | newAfterKeyword => exact parseNewAfterKeyword_completes x h
  | postfixSuffix => exact parsePostfixSuffix_completes x.1 x.2 h
  | argumentsAfterLeftParen => exact parseArgumentsAfterLeftParen_completes h
  | primary => exact parsePrimary_completes h hfed
  | arrayLiteral => exact parseArrayLiteral_completes x h
  | objectLiteral => exact parseObjectLiteral_completes x h

end WildBuzzard.Script
