import WildBuzzard.Script.Syntax

/-!
# Early errors: names declared twice

The checks of `parser.rs` on a finished syntax tree: `validate_var_scope` for a script or a function
body, `validate_lexical_scope` for a block. A set of names is a list without repetitions, a map from
names to spans a list of pairs with one pair for each name, in the order of insertion. All functions
are recursive on the syntax tree.
-/

namespace WildBuzzard.Script

/-- Names declared by `var` with the place of their first declaration. -/
abbrev VarNames := List (String × SourceSpan)

/-- Source: `insert_lexical_name`. -/
def insertLexicalName (names : List String) (name : String) (span : SourceSpan) :
    Except SyntaxIssue (List String) :=
  if name ∈ names then .error ⟨"duplicate lexical declaration '" ++ name ++ "'", span⟩
  else .ok (names ++ [name])

/-- Source: `insert_var_name`. -/
def insertVarName (names : VarNames) (name : String) (span : SourceSpan) : VarNames :=
  if names.any (·.1 == name) then names else names ++ [(name, span)]

/-- Source: `extend_var_names`. -/
def extendVarNames (target source : VarNames) : VarNames :=
  source.foldl (fun names entry => insertVarName names entry.1 entry.2) target

/-- The entry that starts first in the source, the earlier one of two that start together.
Source: `min_by_key`. -/
def firstByOffset (names : VarNames) : Option (String × SourceSpan) :=
  names.foldl (fun best entry =>
    match best with
    | none => some entry
    | some b => if entry.2.start.byteOffset < b.2.start.byteOffset then some entry else some b) none

/-- Source: `reject_var_lexical_conflicts`. -/
def rejectVarLexicalConflicts (varNames : VarNames) (lexicalNames : List String) :
    Except SyntaxIssue Unit :=
  match firstByOffset (varNames.filter fun entry => lexicalNames.contains entry.1) with
  | none => .ok ()
  | some (name, span) =>
    .error ⟨"variable declaration '" ++ name ++ "' conflicts with a lexical declaration", span⟩

/-- The names of a lexical declaration. -/
def insertBindings (names : List String) (bindings : List BindingDeclaration) :
    Except SyntaxIssue (List String) :=
  bindings.foldlM (fun names binding => insertLexicalName names binding.name binding.span) names

/-- The names of a `var` declaration. -/
def insertVarBindings (names : VarNames) (bindings : List BindingDeclaration) : VarNames :=
  bindings.foldl (fun names binding => insertVarName names binding.name binding.span) names

/-- The name of a declared function. -/
def declaredName (function : Function) : Except SyntaxIssue String :=
  match function.name with
  | some name => .ok name
  | none => .error ⟨"function declaration requires a name", function.span⟩

/-- The names that the statements of a block declare lexically.
Source: the first loop of `validate_lexical_scope`. -/
def insertBlockNames (names : List String) (statements : List Statement) :
    Except SyntaxIssue (List String) :=
  statements.foldlM (fun names statement =>
    match statement.kind with
    | .lexicalDeclaration _ bindings => insertBindings names bindings
    | .functionDeclaration function => do
      let name ← declaredName function
      insertLexicalName names name function.span
    | _ => pure names) names

mutual

/-- Source: `collect_statement_var_names`. -/
def collectStatementVarNames : Statement → VarNames → Except SyntaxIssue VarNames
  | ⟨.variableDeclaration bindings, _⟩, names => .ok (insertVarBindings names bindings)
  | ⟨.block statements, _⟩, names => do
    let lexicalNames ← insertBlockNames [] statements
    let inner ← collectBlockVarNames statements []
    rejectVarLexicalConflicts inner lexicalNames
    pure (extendVarNames names inner)
  | ⟨.ifStatement _ consequent none, _⟩, names => collectStatementVarNames consequent names
  | ⟨.ifStatement _ consequent (some alternate), _⟩, names => do
    let names ← collectStatementVarNames consequent names
    collectStatementVarNames alternate names
  | ⟨.whileStatement _ body, _⟩, names => collectStatementVarNames body names
  | ⟨.doWhile body _, _⟩, names => collectStatementVarNames body names
  | ⟨.forStatement ⟨some (.variable bindings), _, _, body⟩, _⟩, names =>
    collectStatementVarNames body (insertVarBindings names bindings)
  | ⟨.forStatement ⟨some (.lexical _ bindings), _, _, body⟩, _⟩, names => do
    let lexicalNames ← insertBindings [] bindings
    let inner ← collectStatementVarNames body []
    rejectVarLexicalConflicts inner lexicalNames
    pure (extendVarNames names inner)
  | ⟨.forStatement ⟨some (.expression _), _, _, body⟩, _⟩, names =>
    collectStatementVarNames body names
  | ⟨.forStatement ⟨none, _, _, body⟩, _⟩, names => collectStatementVarNames body names
  | ⟨.tryStatement body handler finalizer, _⟩, names => do
    let names ← collectStatementVarNames body names
    let names ← collectCatchVarNames handler names
    collectFinallyVarNames finalizer names
  | ⟨.empty, _⟩, names => .ok names
  | ⟨.expression _, _⟩, names => .ok names
  | ⟨.lexicalDeclaration _ _, _⟩, names => .ok names
  | ⟨.breakStatement, _⟩, names => .ok names
  | ⟨.continueStatement, _⟩, names => .ok names
  | ⟨.functionDeclaration _, _⟩, names => .ok names
  | ⟨.returnStatement _, _⟩, names => .ok names
  | ⟨.throwStatement _, _⟩, names => .ok names

/-- The part of `collect_statement_var_names` about a catch clause, whose parameter is a lexical
name of its block. -/
def collectCatchVarNames : Option CatchClause → VarNames → Except SyntaxIssue VarNames
  | none, names => .ok names
  | some ⟨parameter, ⟨.block statements, _⟩, _⟩, names => do
    let lexicalNames ← insertBlockNames parameter.toList statements
    let inner ← collectBlockVarNames statements []
    rejectVarLexicalConflicts inner lexicalNames
    pure (extendVarNames names inner)
  | some ⟨_, _, span⟩, _ => .error ⟨"catch body must be a block", span⟩

/-- The part of `collect_statement_var_names` about a finally clause. -/
def collectFinallyVarNames : Option Statement → VarNames → Except SyntaxIssue VarNames
  | none, names => .ok names
  | some body, names => collectStatementVarNames body names

/-- Source: the second loop of `validate_lexical_scope`. -/
def collectBlockVarNames : List Statement → VarNames → Except SyntaxIssue VarNames
  | [], names => .ok names
  | ⟨.functionDeclaration _, _⟩ :: rest, names => collectBlockVarNames rest names
  | statement :: rest, names => do
    let names ← collectStatementVarNames statement names
    collectBlockVarNames rest names

end

/-- The names a script or a function body declares with `let` and `const`, checked against the
reserved ones. Source: the first loop of `validate_var_scope`. -/
def directLexicalNames (reserved : List String) (statements : List Statement) :
    Except SyntaxIssue (List String × List String) :=
  statements.foldlM (fun names statement =>
    match statement.kind with
    | .lexicalDeclaration _ bindings => do
      let all ← insertBindings names.1 bindings
      pure (all, names.2 ++ bindings.map (·.name))
    | _ => pure names) (reserved, [])

/-- The `var` names of a script or a function body, its functions among them.
Source: the second loop of `validate_var_scope`. -/
def collectScopeVarNames (statements : List Statement) : Except SyntaxIssue VarNames :=
  statements.foldlM (fun names statement =>
    match statement.kind with
    | .functionDeclaration function => do
      let name ← declaredName function
      pure (insertVarName names name function.span)
    | _ => collectStatementVarNames statement names) []

/-- Source: `validate_var_scope`. -/
def validateVarScope (statements : List Statement) (reserved : List String) :
    Except SyntaxIssue Unit := do
  let names ← directLexicalNames reserved statements
  let varNames ← collectScopeVarNames statements
  rejectVarLexicalConflicts varNames names.2

end WildBuzzard.Script
