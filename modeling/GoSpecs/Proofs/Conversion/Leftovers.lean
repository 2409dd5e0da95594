import GoSpecs.Syntax.Build
import GoSpecs.Proofs.Conversion.Exact
import GoSpecs.Proofs.Conversion.Names

namespace GoSpecs

def Visited.names (visits : List Visited) : List String :=
  visits.filterMap fun
    | .expr ⟨.ident name, _⟩ => some name
    | _ => none

def Block.identNames (body : Block) : List String :=
  Visited.names body.visits

def tally (name : String) (visits : List Visited) : Nat :=
  (Visited.names visits).count name

@[simp] theorem tally_nil (name : String) : tally name [] = 0 := rfl

@[simp] theorem tally_append (name : String) (left right : List Visited) :
    tally name (left ++ right) = tally name left + tally name right := by
  rw [tally, Visited.names, List.filterMap_append, List.count_append]
  rfl

@[simp] theorem tally_field (name : String) (field : Field) (visits : List Visited) :
    tally name (.field field :: visits) = tally name visits := rfl

theorem tally_ident (name text : String) (span : Span) (visits : List Visited) :
    tally name (.expr ⟨.ident text, span⟩ :: visits) = (if text == name then 1 else 0) + tally name visits := by
  rw [tally, tally, Nat.add_comm]
  exact List.count_cons

theorem tally_of_ne_ident {node : Expr.Node} (other : ∀ text, node ≠ .ident text) (name : String) (span : Span)
    (visits : List Visited) : tally name (.expr ⟨node, span⟩ :: visits) = tally name visits := by
  cases node with
  | ident text => exact absurd rfl (other text)
  | _ => rfl

/-- The parameter does not stand in what replaces it. -/
def ContextUse.Vanishes (context : ContextUse) : Prop :=
  ∀ span, tally context.param (Expr.visits ⟨context.replacement, span⟩) = 0

namespace ContextUse.Vanishes

variable {context : ContextUse}

theorem name (vanishes : context.Vanishes) (hidden : Bool) (name : String) (count more : Nat) (span : Span) :
    let found := (context.name hidden name).run count
    tally context.param (Expr.visits ⟨found.1, span⟩) + (found.2 + more) =
      count + (tally context.param (Expr.visits ⟨.ident name, span⟩) + more) := by
  unfold ContextUse.name
  split
  · rename_i isParam
    have same : name = context.param := by simpa using (Bool.and_eq_true_iff.mp isParam).1
    have here : tally context.param (Expr.visits ⟨.ident name, span⟩) = 1 := by
      simp [Expr.visits, Expr.Node.visits, tally_ident, same]
    rw [here, ← Nat.add_assoc count]
    exact (congrArg (· + (count + 1 + more)) (vanishes span)).trans (Nat.zero_add _)
  · exact Nat.add_left_comm ..

attribute [local simp high] StateM.run_pure StateM.run_bind StateM.run_map

attribute [local simp] Nat.add_assoc tally_of_ne_ident Expr.withContext Expr.Node.withContext
  exprWithContext? exprsWithContext targetWithContext? targetsWithContext Field.withContext
  fieldWithContext? fieldsWithContext FuncType.withContext Block.withContext blockWithContext? Stmt.withContext
  Stmt.Node.withContext stmtWithContext? stmtsWithContext casesWithContext commsWithContext typeSpecsWithContext
  valueSpecsWithContext Decl.withContext Expr.visits Expr.Node.visits visitsOfExpr? visitsOfExprs Field.visits
  visitsOfField? visitsOfFields FuncType.visits Block.visits visitsOfBlock? Stmt.visits Stmt.Node.visits visitsOfStmt?
  visitsOfStmts visitsOfCases visitsOfComms visitsOfTypeSpecs visitsOfValueSpecs Decl.visits

-- Where the parameter is hidden has no part in this: a name that is not replaced counts for the result. The further
-- summand lets the equations of the parts be used one after the other.
mutual

theorem expr (vanishes : context.Vanishes) (hidden : Bool) : (expr : Expr) → ∀ count more,
    let found := (expr.withContext context hidden).run count
    tally context.param found.1.visits + (found.2 + more) = count + (tally context.param expr.visits + more)
  | ⟨node, span⟩ => by simpa using fun count more => exprNode vanishes hidden node count more span

theorem exprNode (vanishes : context.Vanishes) (hidden : Bool) : (node : Expr.Node) → ∀ count more span,
    let found := (node.withContext context hidden).run count
    tally context.param (Expr.visits ⟨found.1, span⟩) + (found.2 + more) =
      count + (tally context.param (Expr.visits ⟨node, span⟩) + more)
  | .ident text => by
    rw [Expr.Node.withContext]
    exact vanishes.name hidden text
  | .literal _ => by simp
  | .composite type? elements _ _ => by simp [optExpr vanishes hidden type?, exprs vanishes hidden elements]
  | .funcLit ⟨params, results⟩ body => by
    simp [fields vanishes _ params, fields vanishes _ results, block vanishes _ body]
  | .paren inner | .star inner | .selector inner _ | .unary _ inner | .chanType _ inner => by
    simp [expr vanishes hidden inner]
  | .index left right | .mapType left right | .binary left _ right => by
    simp [expr vanishes hidden left, expr vanishes hidden right]
  | .keyValue left right => by simp [key vanishes hidden left, expr vanishes hidden right]
  | .indexList base list | .call base list _ _ => by simp [expr vanishes hidden base, exprs vanishes hidden list]
  | .slice base low? high? max? _ => by
    simp [expr vanishes hidden base, optExpr vanishes hidden low?, optExpr vanishes hidden high?,
      optExpr vanishes hidden max?]
  | .typeAssert base type? => by simp [expr vanishes hidden base, optExpr vanishes hidden type?]
  | .arrayType length? elem => by simp [optExpr vanishes hidden length?, expr vanishes hidden elem]
  | .ellipsis elem? => by simp [optExpr vanishes hidden elem?]
  | .funcType type => by simp [funcType vanishes hidden type]
  | .structType members _ | .interfaceType members _ => by simp [fields vanishes hidden members]

theorem key (vanishes : context.Vanishes) (hidden : Bool) : (expr : Expr) → ∀ count more,
    let found := (expr.keyWithContext context hidden).run count
    tally context.param found.1.visits + (found.2 + more) = count + (tally context.param expr.visits + more)
  | ⟨node, span⟩ => by
    have whole := exprNode vanishes hidden node
    intro count more
    rcases node.ident_or_other with ⟨text, rfl⟩ | other
    · rw [Expr.keyWithContext]
      exact Nat.add_left_comm ..
    · rw [Expr.keyWithContext]
      · exact whole count more span
      · exact other

theorem optExpr (vanishes : context.Vanishes) (hidden : Bool) : (expr? : Option Expr) → ∀ count more,
    let found := (exprWithContext? context hidden expr?).run count
    tally context.param (visitsOfExpr? found.1) + (found.2 + more) =
      count + (tally context.param (visitsOfExpr? expr?) + more)
  | none => by simp
  | some one => by simp [expr vanishes hidden one]

theorem exprs (vanishes : context.Vanishes) (hidden : Bool) : (list : List Expr) → ∀ count more,
    let found := (exprsWithContext context hidden list).run count
    tally context.param (visitsOfExprs found.1) + (found.2 + more) =
      count + (tally context.param (visitsOfExprs list) + more)
  | [] => by simp
  | one :: list => by simp [expr vanishes hidden one, exprs vanishes hidden list]

theorem target (vanishes : context.Vanishes) (define hidden : Bool) : (target : Expr) → ∀ count more,
    let found := (target.targetWithContext context define hidden).run count
    tally context.param found.1.1.visits + (found.2 + more) = count + (tally context.param target.visits + more)
  | ⟨node, span⟩ => by
    have whole := exprNode vanishes hidden node
    intro count more
    rcases node.ident_or_other with ⟨text, rfl⟩ | other
    · rw [Expr.targetWithContext]
      exact Nat.add_left_comm ..
    · rw [Expr.targetWithContext]
      · exact whole count more span
      · exact other

theorem optTarget (vanishes : context.Vanishes) (define hidden : Bool) : (target? : Option Expr) → ∀ count more,
    let found := (targetWithContext? context define hidden target?).run count
    tally context.param (visitsOfExpr? found.1.1) + (found.2 + more) =
      count + (tally context.param (visitsOfExpr? target?) + more)
  | none => by simp
  | some one => by simp [target vanishes define hidden one]

theorem targets (vanishes : context.Vanishes) (define hidden : Bool) : (list : List Expr) → ∀ count more,
    let found := (targetsWithContext context define hidden list).run count
    tally context.param (visitsOfExprs found.1.1) + (found.2 + more) =
      count + (tally context.param (visitsOfExprs list) + more)
  | [] => by simp
  | one :: list => by simp [target vanishes define hidden one, targets vanishes define _ list]

theorem field (vanishes : context.Vanishes) (hidden : Bool) : (field : Field) → ∀ count more,
    let found := (field.withContext context hidden).run count
    tally context.param found.1.visits + (found.2 + more) = count + (tally context.param field.visits + more)
  | ⟨_, type, _, _⟩ => by simp [expr vanishes hidden type]

theorem optField (vanishes : context.Vanishes) (hidden : Bool) : (field? : Option Field) → ∀ count more,
    let found := (fieldWithContext? context hidden field?).run count
    tally context.param (visitsOfField? found.1) + (found.2 + more) =
      count + (tally context.param (visitsOfField? field?) + more)
  | none => by simp
  | some one => by simp [field vanishes hidden one]

theorem fields (vanishes : context.Vanishes) (hidden : Bool) : (list : List Field) → ∀ count more,
    let found := (fieldsWithContext context hidden list).run count
    tally context.param (visitsOfFields found.1) + (found.2 + more) =
      count + (tally context.param (visitsOfFields list) + more)
  | [] => by simp
  | one :: list => by simp [field vanishes hidden one, fields vanishes hidden list]

theorem funcType (vanishes : context.Vanishes) (hidden : Bool) : (type : FuncType) → ∀ count more,
    let found := (type.withContext context hidden).run count
    tally context.param found.1.visits + (found.2 + more) = count + (tally context.param type.visits + more)
  | ⟨params, results⟩ => by simp [fields vanishes hidden params, fields vanishes hidden results]

theorem block (vanishes : context.Vanishes) (hidden : Bool) : (block : Block) → ∀ count more,
    let found := (block.withContext context hidden).run count
    tally context.param found.1.visits + (found.2 + more) = count + (tally context.param block.visits + more)
  | ⟨list, _, _⟩ => by simp [stmts vanishes hidden list]

theorem optBlock (vanishes : context.Vanishes) (hidden : Bool) : (block? : Option Block) → ∀ count more,
    let found := (blockWithContext? context hidden block?).run count
    tally context.param (visitsOfBlock? found.1) + (found.2 + more) =
      count + (tally context.param (visitsOfBlock? block?) + more)
  | none => by simp
  | some one => by simp [block vanishes hidden one]

theorem stmt (vanishes : context.Vanishes) (hidden : Bool) : (stmt : Stmt) → ∀ count more,
    let found := (stmt.withContext context hidden).run count
    tally context.param found.1.1.visits + (found.2 + more) = count + (tally context.param stmt.visits + more)
  | ⟨node, _⟩ => by simp [stmtNode vanishes hidden node]

theorem stmtNode (vanishes : context.Vanishes) (hidden : Bool) : (node : Stmt.Node) → ∀ count more,
    let found := (node.withContext context hidden).run count
    tally context.param found.1.1.visits + (found.2 + more) = count + (tally context.param node.visits + more)
  | .expr one | .go one | .defer one | .incDec one _ => by simp [expr vanishes hidden one]
  | .assign left _ right => by
    simp
    intro count more
    rw [Nat.add_left_comm]
    simp [targets vanishes _ hidden left, exprs vanishes hidden right]
    omega
  | .send channel value => by simp [expr vanishes hidden channel, expr vanishes hidden value]
  | .decl one => by simp [decl vanishes hidden one]
  | .ret results => by simp [exprs vanishes hidden results]
  | .branch _ _ | .empty => by simp
  | .block one => by simp [block vanishes hidden one]
  | .ifElse init? cond body else? => by
    simp [optStmt vanishes hidden init?, expr vanishes _ cond, block vanishes _ body, optStmt vanishes _ else?]
  | .forLoop init? cond? post? body => by
    simp [optStmt vanishes hidden init?, optExpr vanishes _ cond?, optStmt vanishes _ post?, block vanishes _ body]
  | .rangeLoop key? value? define one body => by
    have swap (k v e m : Nat) : k + (v + (e + m)) = e + (k + (v + m)) := by omega
    simp [block vanishes _ body]
    intro count more
    rw [swap]
    simp [optTarget vanishes define _ key?, optTarget vanishes define _ value?, expr vanishes hidden one]
    omega
  | .switch init? tag? clauses => by
    simp [optStmt vanishes hidden init?, optExpr vanishes _ tag?, cases vanishes _ _ clauses]
  | .typeSwitch init? _ one clauses => by
    simp [optStmt vanishes hidden init?, expr vanishes _ one, cases vanishes _ _ clauses]
  | .select clauses => by simp [comms vanishes hidden clauses]
  | .labeled _ one => by simp [stmt vanishes hidden one]

theorem optStmt (vanishes : context.Vanishes) (hidden : Bool) : (stmt? : Option Stmt) → ∀ count more,
    let found := (stmtWithContext? context hidden stmt?).run count
    tally context.param (visitsOfStmt? found.1.1) + (found.2 + more) =
      count + (tally context.param (visitsOfStmt? stmt?) + more)
  | none => by simp
  | some one => by simp [stmt vanishes hidden one]

theorem stmts (vanishes : context.Vanishes) (hidden : Bool) : (list : List Stmt) → ∀ count more,
    let found := (stmtsWithContext context hidden list).run count
    tally context.param (visitsOfStmts found.1) + (found.2 + more) =
      count + (tally context.param (visitsOfStmts list) + more)
  | [] => by simp
  | one :: list => by simp [stmt vanishes hidden one, stmts vanishes _ list]

theorem cases (vanishes : context.Vanishes) (hidden : Bool) (names : List String) : (clauses : List CaseClause) →
    ∀ count more,
    let found := (casesWithContext context hidden names clauses).run count
    tally context.param (visitsOfCases found.1) + (found.2 + more) =
      count + (tally context.param (visitsOfCases clauses) + more)
  | [] => by simp
  | ⟨list, body⟩ :: clauses => by
    simp [exprs vanishes hidden list, block vanishes _ body, cases vanishes hidden names clauses]

theorem comms (vanishes : context.Vanishes) (hidden : Bool) : (clauses : List CommClause) → ∀ count more,
    let found := (commsWithContext context hidden clauses).run count
    tally context.param (visitsOfComms found.1) + (found.2 + more) =
      count + (tally context.param (visitsOfComms clauses) + more)
  | [] => by simp
  | ⟨comm?, body⟩ :: clauses => by
    simp [optStmt vanishes hidden comm?, block vanishes _ body, comms vanishes hidden clauses]

theorem typeSpecs (vanishes : context.Vanishes) (hidden : Bool) : (specs : List TypeSpec) → ∀ count more,
    let found := (typeSpecsWithContext context hidden specs).run count
    tally context.param (visitsOfTypeSpecs found.1.1) + (found.2 + more) =
      count + (tally context.param (visitsOfTypeSpecs specs) + more)
  | [] => by simp
  | ⟨_, _, _, type, _⟩ :: specs => by
    simp [expr vanishes _ type, typeSpecs vanishes _ specs, Nat.add_left_comm (tally _ (visitsOfFields _))]

theorem valueSpecs (vanishes : context.Vanishes) (hidden : Bool) : (specs : List ValueSpec) → ∀ count more,
    let found := (valueSpecsWithContext context hidden specs).run count
    tally context.param (visitsOfValueSpecs found.1.1) + (found.2 + more) =
      count + (tally context.param (visitsOfValueSpecs specs) + more)
  | [] => by simp
  | ⟨_, type?, values, _⟩ :: specs => by
    simp [optExpr vanishes hidden type?, exprs vanishes hidden values, valueSpecs vanishes _ specs]

theorem decl (vanishes : context.Vanishes) (hidden : Bool) : (decl : Decl) → ∀ count more,
    let found := (decl.withContext context hidden).run count
    tally context.param found.1.1.visits + (found.2 + more) = count + (tally context.param decl.visits + more)
  | .imports _ => by simp
  | .func ⟨receiver?, _, _, typeParams, type, body?⟩ => by
    simp [optField vanishes hidden receiver?, fields vanishes hidden typeParams, funcType vanishes hidden type,
      optBlock vanishes hidden body?]
  | .types specs _ => by simp [typeSpecs vanishes hidden specs]
  | .values _ specs _ => by simp [valueSpecs vanishes hidden specs]

end

end ContextUse.Vanishes

namespace Block

variable (body : Block) {context : ContextUse}

theorem identNames_replaceContext (vanishes : context.Vanishes) :
    body.identNames.count context.param =
      (body.replaceContext context).2 + (body.replaceContext context).1.identNames.count context.param := by
  unfold replaceContext
  split
  · exact (Nat.zero_add _).symm
  · have kept := vanishes.block false body 0 0
    rw [Nat.zero_add, Nat.add_zero] at kept
    exact kept.symm.trans (Nat.add_comm ..)

theorem not_isReplaced_replaceContext {head : String}
    (accessed : ∀ scope, context.replacement.uses scope = [⟨head, scope, .plain⟩]) (other : head ≠ context.param) :
    ∀ use ∈ (body.replaceContext context).1.uses [], ¬use.isReplaced context.param := by
  rw [uses_replaceContext body context accessed]
  intro use here
  obtain ⟨before, -, rfl⟩ := List.mem_map.mp here
  unfold Use.renamed
  split
  · simp [Use.isReplaced, Use.isFree, other]
  · assumption

theorem replaceContext_of_not_isReplaced (none : ∀ use ∈ body.uses [], ¬use.isReplaced context.param) :
    body.replaceContext context = (body, 0) := by
  rw [replaceContext_eq, withUses_standIn none, List.countP_eq_zero.mpr none]

end Block

namespace Expr.Node

def access (qualifier? : Option String) (name : String) (isCall : Bool) : Expr.Node :=
  if isCall then .callNoArgs (.qualified qualifier? name) else .qualified qualifier? name

variable (qualifier? : Option String) (name : String) (isCall : Bool)

theorem uses_access (scope : List String) :
    (access qualifier? name isCall).uses scope = [⟨qualifier?.getD name, scope, .plain⟩] := by
  cases isCall with
  | false => exact ContextProvider.uses_qualified scope qualifier? name
  | true => simp [access, callNoArgs, Expr.built, uses, Expr.uses, usesOfExprs, ContextProvider.uses_qualified]

theorem names_access (span : Span) :
    Visited.names (Expr.visits ⟨access qualifier? name isCall, span⟩) = [qualifier?.getD name] := by
  cases isCall <;> cases qualifier? <;> rfl

end Expr.Node

/--
After its free uses were replaced by something that it does not stand in, a parameter has no free use, and its
names are the ones that were not counted.
-/
theorem Block.replaceContext_leaves_none (body : Block) (param : String) (qualifier? : Option String) (name : String)
    (isCall : Bool) (absent : param ∉ Visited.names (Expr.built (.access qualifier? name isCall)).visits) :
    ∃ after count, body.replaceContext ⟨param, .access qualifier? name isCall⟩ = (after, count) ∧
      after.replaceContext ⟨param, .access qualifier? name isCall⟩ = (after, 0) ∧
      body.identNames.count param = count + after.identNames.count param := by
  have other : qualifier?.getD name ≠ param := by
    rintro rfl
    simp [Expr.built, Expr.Node.names_access] at absent
  have vanishes : ContextUse.Vanishes ⟨param, .access qualifier? name isCall⟩ := by
    intro span
    rw [tally, Expr.Node.names_access]
    exact List.count_eq_zero.mpr fun here => other (List.mem_singleton.mp here).symm
  refine ⟨_, _, rfl, ?_, body.identNames_replaceContext vanishes⟩
  apply replaceContext_of_not_isReplaced
  exact body.not_isReplaced_replaceContext (Expr.Node.uses_access qualifier? name isCall) other

def Block.redeclaring : Block :=
  let param : Expr := .built (.ident "t")
  .built
    [.built (.expr (.built (.call (.built (.selector param "Log")) [param] false .detached))),
      .built (.assign [param] .define [param]), .built (.expr param)] []

theorem Block.redeclaring_leaves_none :
    "t" ∉ Visited.names (Expr.built (.access (some "mr") "T" true)).visits ∧
    ∃ after, redeclaring.replaceContext ⟨"t", .access (some "mr") "T" true⟩ = (after, 3) ∧
      after.replaceContext ⟨"t", .access (some "mr") "T" true⟩ = (after, 0) ∧
      redeclaring.identNames.count "t" = 5 ∧ after.identNames.count "t" = 2 := by
  have absent : "t" ∉ Visited.names (Expr.built (.access (some "mr") "T" true)).visits := by decide
  have replaced : (redeclaring.replaceContext ⟨"t", .access (some "mr") "T" true⟩).2 = 3 := by decide
  have before : redeclaring.identNames.count "t" = 5 := by decide
  obtain ⟨after, count, run, again, kept⟩ := redeclaring.replaceContext_leaves_none "t" (some "mr") "T" true absent
  obtain rfl : count = 3 := by rwa [run] at replaced
  exact ⟨absent, after, run, again, before, by omega⟩

end GoSpecs
