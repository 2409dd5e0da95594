import GoSpecs.Syntax.Retype
import GoSpecs.Syntax.Walk
import GoSpecs.Proofs.Syntax.Fill
import GoSpecs.Proofs.Syntax.Replace

namespace GoSpecs

def Visited.isReplaced (field? : Field → Option Field) : Visited → Bool
  | .expr _ => false
  | .field inner => (field? inner).isSome

/-- The number of fields among the visits that are replaced. -/
def replaced (field? : Field → Option Field) (visits : List Visited) : Nat :=
  visits.countP (·.isReplaced field?)

@[simp] theorem replaced_nil (field? : Field → Option Field) : replaced field? [] = 0 := rfl

@[simp] theorem replaced_append (field? : Field → Option Field) (left right : List Visited) :
    replaced field? (left ++ right) = replaced field? left + replaced field? right :=
  List.countP_append

@[simp] theorem replaced_expr (field? : Field → Option Field) (expr : Expr) (visits : List Visited) :
    replaced field? (.expr expr :: visits) = replaced field? visits := rfl

@[simp] theorem replaced_field (field? : Field → Option Field) (field : Field) (visits : List Visited) :
    replaced field? (.field field :: visits) =
      (if (field? field).isSome then 1 else 0) + replaced field? visits := by
  rw [Nat.add_comm]
  exact List.countP_cons

/-- No field that is replaced holds another one: this one would be gone uncounted. -/
def ReplacesFlat (field? : Field → Option Field) : Prop :=
  ∀ field, (field? field).isSome = true → replaced field? field.type.visits = 0

namespace ReplacesFlat

section

variable {field? : Field → Option Field}

attribute [local simp high] StateM.run_pure StateM.run_bind StateM.run_map

attribute [local simp] Nat.add_assoc Expr.retype Expr.Node.retype retypeExpr? retypeExprs retypeField? retypeFields
  FuncType.retype Block.retype retypeBlock? Stmt.retype Stmt.Node.retype retypeStmt? retypeStmts retypeCases
  retypeComms retypeTypeSpecs retypeValueSpecs Decl.retype Expr.replace_ofFields Expr.Node.replace replaceExpr?
  replaceExprs replaceField? replaceFields FuncType.replace Block.replace replaceBlock? Stmt.replace Stmt.Node.replace
  replaceStmt? replaceStmts replaceCases replaceComms replaceTypeSpecs replaceValueSpecs Decl.replace Expr.visits
  Expr.Node.visits visitsOfExpr? visitsOfExprs Field.visits visitsOfField? visitsOfFields FuncType.visits Block.visits
  visitsOfBlock? Stmt.visits Stmt.Node.visits visitsOfStmt? visitsOfStmts visitsOfCases visitsOfComms
  visitsOfTypeSpecs visitsOfValueSpecs Decl.visits

mutual

theorem expr (flat : ReplacesFlat field?) : (expr : Expr) → ∀ count, (expr.retype field?).run count =
    (expr.replace (.ofFields field?), count + replaced field? expr.visits)
  | ⟨node, span⟩ => by simp [exprNode flat node]

theorem exprNode (flat : ReplacesFlat field?) : (node : Expr.Node) → ∀ count, (node.retype field?).run count =
    (node.replace (.ofFields field?), count + replaced field? node.visits)
  | .ident _ | .literal _ => by simp
  | .composite type? elements _ _ => by simp [optExpr flat type?, exprs flat elements]
  | .funcLit type body => by simp [funcType flat type, block flat body]
  | .paren inner | .star inner | .selector inner _ | .unary _ inner | .chanType _ inner => by simp [expr flat inner]
  | .index left right | .mapType left right | .binary left _ right | .keyValue left right => by
    simp [expr flat left, expr flat right]
  | .indexList base list | .call base list _ _ => by simp [expr flat base, exprs flat list]
  | .slice base low? high? max? _ => by simp [expr flat base, optExpr flat low?, optExpr flat high?, optExpr flat max?]
  | .typeAssert base type? => by simp [expr flat base, optExpr flat type?]
  | .arrayType length? elem => by simp [optExpr flat length?, expr flat elem]
  | .ellipsis elem? => by simp [optExpr flat elem?]
  | .funcType type => by simp [funcType flat type]
  | .structType members _ | .interfaceType members _ => by simp [fields flat members]

theorem optExpr (flat : ReplacesFlat field?) : (expr? : Option Expr) → ∀ count, (retypeExpr? field? expr?).run count =
    (replaceExpr? (.ofFields field?) expr?, count + replaced field? (visitsOfExpr? expr?))
  | none => by simp
  | some one => by simp [expr flat one]

theorem exprs (flat : ReplacesFlat field?) : (list : List Expr) → ∀ count, (retypeExprs field? list).run count =
    (replaceExprs (.ofFields field?) list, count + replaced field? (visitsOfExprs list))
  | [] => by simp
  | one :: list => by simp [expr flat one, exprs flat list]

theorem field (flat : ReplacesFlat field?) : (field : Field) → ∀ count, (field.retype field?).run count =
    (field.replace (.ofFields field?), count + replaced field? field.visits)
  | ⟨names, type, tag?, comment⟩ => by
    intro count
    rw [Field.retype, Field.visits, replaced_field]
    cases found : field? ⟨names, type, tag?, comment⟩ with
    | some field' =>
      rw [Field.replace_of_some found, flat ⟨names, type, tag?, comment⟩ (by rw [found]; rfl)]
      rfl
    | none =>
      rw [Field.replace_of_none found]
      simp [expr flat type]

theorem optField (flat : ReplacesFlat field?) : (field'? : Option Field) → ∀ count,
    (retypeField? field? field'?).run count =
    (replaceField? (.ofFields field?) field'?, count + replaced field? (visitsOfField? field'?))
  | none => by simp
  | some one => by simp [field flat one]

theorem fields (flat : ReplacesFlat field?) : (list : List Field) → ∀ count, (retypeFields field? list).run count =
    (replaceFields (.ofFields field?) list, count + replaced field? (visitsOfFields list))
  | [] => by simp
  | one :: list => by simp [field flat one, fields flat list]

theorem funcType (flat : ReplacesFlat field?) : (type : FuncType) → ∀ count, (type.retype field?).run count =
    (type.replace (.ofFields field?), count + replaced field? type.visits)
  | ⟨params, results⟩ => by simp [fields flat params, fields flat results]

theorem block (flat : ReplacesFlat field?) : (block : Block) → ∀ count, (block.retype field?).run count =
    (block.replace (.ofFields field?), count + replaced field? block.visits)
  | ⟨list, _, _⟩ => by simp [stmts flat list]

theorem optBlock (flat : ReplacesFlat field?) : (block? : Option Block) → ∀ count,
    (retypeBlock? field? block?).run count =
    (replaceBlock? (.ofFields field?) block?, count + replaced field? (visitsOfBlock? block?))
  | none => by simp
  | some one => by simp [block flat one]

theorem stmt (flat : ReplacesFlat field?) : (stmt : Stmt) → ∀ count, (stmt.retype field?).run count =
    (stmt.replace (.ofFields field?), count + replaced field? stmt.visits)
  | ⟨node, _⟩ => by simp [stmtNode flat node]

theorem stmtNode (flat : ReplacesFlat field?) : (node : Stmt.Node) → ∀ count, (node.retype field?).run count =
    (node.replace (.ofFields field?), count + replaced field? node.visits)
  | .expr inner | .incDec inner _ | .go inner | .defer inner => by simp [expr flat inner]
  | .assign targets _ values => by simp [exprs flat targets, exprs flat values]
  | .send channel value => by simp [expr flat channel, expr flat value]
  | .decl inner => by simp [decl flat inner]
  | .ret results => by simp [exprs flat results]
  | .branch _ _ | .empty => by simp
  | .block inner => by simp [block flat inner]
  | .ifElse init? cond body else? => by simp [optStmt flat init?, expr flat cond, block flat body, optStmt flat else?]
  | .forLoop init? cond? post? body => by
    simp [optStmt flat init?, optExpr flat cond?, optStmt flat post?, block flat body]
  | .rangeLoop key? value? _ subject body => by
    simp [optExpr flat key?, optExpr flat value?, expr flat subject, block flat body]
  | .switch init? tag? clauses => by simp [optStmt flat init?, optExpr flat tag?, cases flat clauses]
  | .typeSwitch init? _ subject clauses => by simp [optStmt flat init?, expr flat subject, cases flat clauses]
  | .select clauses => by simp [comms flat clauses]
  | .labeled _ inner => by simp [stmt flat inner]

theorem optStmt (flat : ReplacesFlat field?) : (stmt? : Option Stmt) → ∀ count, (retypeStmt? field? stmt?).run count =
    (replaceStmt? (.ofFields field?) stmt?, count + replaced field? (visitsOfStmt? stmt?))
  | none => by simp
  | some one => by simp [stmt flat one]

theorem stmts (flat : ReplacesFlat field?) : (list : List Stmt) → ∀ count, (retypeStmts field? list).run count =
    (replaceStmts (.ofFields field?) list, count + replaced field? (visitsOfStmts list))
  | [] => by simp
  | one :: list => by simp [stmt flat one, stmts flat list]

theorem cases (flat : ReplacesFlat field?) : (clauses : List CaseClause) → ∀ count,
    (retypeCases field? clauses).run count =
    (replaceCases (.ofFields field?) clauses, count + replaced field? (visitsOfCases clauses))
  | [] => by simp
  | ⟨list, body⟩ :: clauses => by simp [exprs flat list, block flat body, cases flat clauses]

theorem comms (flat : ReplacesFlat field?) : (clauses : List CommClause) → ∀ count,
    (retypeComms field? clauses).run count =
    (replaceComms (.ofFields field?) clauses, count + replaced field? (visitsOfComms clauses))
  | [] => by simp
  | ⟨comm?, body⟩ :: clauses => by simp [optStmt flat comm?, block flat body, comms flat clauses]

theorem typeSpecs (flat : ReplacesFlat field?) : (specs : List TypeSpec) → ∀ count,
    (retypeTypeSpecs field? specs).run count =
    (replaceTypeSpecs (.ofFields field?) specs, count + replaced field? (visitsOfTypeSpecs specs))
  | [] => by simp
  | ⟨_, typeParams, _, type, _⟩ :: specs => by simp [fields flat typeParams, expr flat type, typeSpecs flat specs]

theorem valueSpecs (flat : ReplacesFlat field?) : (specs : List ValueSpec) → ∀ count,
    (retypeValueSpecs field? specs).run count =
    (replaceValueSpecs (.ofFields field?) specs, count + replaced field? (visitsOfValueSpecs specs))
  | [] => by simp
  | ⟨_, type?, values, _⟩ :: specs => by simp [optExpr flat type?, exprs flat values, valueSpecs flat specs]

theorem decl (flat : ReplacesFlat field?) : (decl : Decl) → ∀ count, (decl.retype field?).run count =
    (decl.replace (.ofFields field?), count + replaced field? decl.visits)
  | .imports _ => by simp
  | .func ⟨receiver?, _, _, typeParams, type, body?⟩ => by
    simp [optField flat receiver?, fields flat typeParams, funcType flat type, optBlock flat body?]
  | .types specs _ => by simp [typeSpecs flat specs]
  | .values _ specs _ => by simp [valueSpecs flat specs]

end

theorem items (flat : ReplacesFlat field?) (list : List Item) (count : Nat) :
    (list.mapM (Item.retype field?)).run count =
      (list.map fun item => { item with decl := item.decl.replace (.ofFields field?) },
        count + replaced field? (list.flatMap (·.decl.visits))) := by
  induction list generalizing count with
  | nil => simp
  | cons item list ih => simp [Item.retype, flat.decl, ih]

theorem run_retype (flat : ReplacesFlat field?) (file : SourceFile) (count : Nat) : (file.retype field?).run count =
    (file.replace (.ofFields field?), count + replaced field? file.visits) := by
  simp [SourceFile.retype, flat.items, SourceFile.replace, SourceFile.visits]

end

end ReplacesFlat

end GoSpecs
