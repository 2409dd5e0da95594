import GoSpecs.Proofs.Syntax.Replace
import GoSpecs.Proofs.Syntax.Scope
import Mathlib.Data.List.Forall2

namespace GoSpecs

/-- A replacement keeps the names that a field declares, and each use in its type is one in the new type, which
stands where the other one stands. -/
structure KeepsUses (related : Use → Use → Prop) (field? : Field → Option Field) : Prop where
  refl : ∀ use, related use use
  site : ∀ before after, related before after → after.site = before.site
  sited : ∀ before after, related before after → ∀ site, related { before with site } { after with site }
  names : ∀ field field', field? field = some field' → field'.names = field.names
  uses : ∀ field field', field? field = some field' →
    ∀ scope, List.Forall₂ related (field.uses scope) (field'.uses scope)

variable {field? : Field → Option Field}

theorem Expr.bareName_replace (expr : Expr) : (expr.replace (.ofFields field?)).bareName = expr.bareName := by
  obtain ⟨node, span⟩ := expr
  rw [Expr.replace_ofFields]
  cases node <;> simp [Expr.Node.replace, Expr.bareName]

theorem Expr.defines_replace (define : Bool) (expr : Expr) :
    (expr.replace (.ofFields field?)).defines define = expr.defines define := by
  simp [Expr.defines, Expr.bareName_replace]

theorem replaceExprs_defines (define : Bool) (exprs : List Expr) :
    (replaceExprs (.ofFields field?) exprs).flatMap (·.defines define) = exprs.flatMap (·.defines define) := by
  induction exprs with
  | nil => simp [replaceExprs]
  | cons expr exprs ih => simp [replaceExprs, Expr.defines_replace, ih]

theorem bindsOfTarget?_replace (define : Bool) (target? : Option Expr) :
    bindsOfTarget? define (replaceExpr? (.ofFields field?) target?) = bindsOfTarget? define target? := by
  cases target? <;> simp [replaceExpr?, bindsOfTarget?, Expr.defines_replace]

theorem Decl.binds_replace (replacement : Replacement) (decl : Decl) :
    (decl.replace replacement).binds = decl.binds := by
  cases decl with
  | imports group => simp [Decl.replace, Decl.binds]
  | func func =>
    obtain ⟨⟩ := func
    simp [Decl.replace, Decl.binds]
  | types specs grouped =>
    simp only [Decl.replace, Decl.binds]
    induction specs with
    | nil => simp [replaceTypeSpecs]
    | cons spec specs ih =>
      obtain ⟨⟩ := spec
      simp [replaceTypeSpecs, ih]
  | values kind specs grouped =>
    simp only [Decl.replace, Decl.binds]
    induction specs with
    | nil => simp [replaceValueSpecs]
    | cons spec specs ih =>
      obtain ⟨⟩ := spec
      simp [replaceValueSpecs, ih]

mutual

theorem Stmt.binds_replace : (stmt : Stmt) → (stmt.replace (.ofFields field?)).binds = stmt.binds
  | ⟨node, _⟩ => by simp only [Stmt.replace, Stmt.binds, node.binds_replace]

theorem Stmt.Node.binds_replace : (node : Stmt.Node) → (node.replace (.ofFields field?)).binds = node.binds
  | .assign targets op values => by simp only [Stmt.Node.replace, Stmt.Node.binds, replaceExprs_defines]
  | .decl decl => by simp only [Stmt.Node.replace, Stmt.Node.binds, Decl.binds_replace]
  | .labeled label stmt => by simp only [Stmt.Node.replace, Stmt.Node.binds, stmt.binds_replace]
  | .expr _ | .incDec .. | .send .. | .go _ | .defer _ | .ret _ | .branch .. | .block _ | .ifElse .. | .forLoop ..
  | .rangeLoop .. | .switch .. | .typeSwitch .. | .select _ | .empty => by
    simp only [Stmt.Node.replace, Stmt.Node.binds]

end

theorem bindsOfStmt?_replace (stmt? : Option Stmt) :
    bindsOfStmt? (replaceStmt? (.ofFields field?) stmt?) = bindsOfStmt? stmt? := by
  cases stmt? <;> simp [replaceStmt?, bindsOfStmt?, Stmt.binds_replace]

namespace KeepsUses

variable {related : Use → Use → Prop}

theorem append {one one' two two' : List Use} (left : List.Forall₂ related one one')
    (right : List.Forall₂ related two two') : List.Forall₂ related (one ++ two) (one' ++ two') :=
  List.rel_append left right

section

variable (keeps : KeepsUses related field?)
include keeps

theorem inTypeParams {uses uses' : List Use} (all : List.Forall₂ related uses uses') :
    List.Forall₂ related (uses.map .inTypeParams) (uses'.map .inTypeParams) := by
  rw [List.forall₂_map_left_iff, List.forall₂_map_right_iff]
  exact all.imp fun before after is => keeps.sited before after is .typeParams

theorem inType {uses uses' : List Use} (all : List.Forall₂ related uses uses') (typeParams : List Field) :
    List.Forall₂ related (uses.map (.inType typeParams))
      (uses'.map (.inType (replaceFields (.ofFields field?) typeParams))) := by
  have isEmpty : (replaceFields (.ofFields field?) typeParams).isEmpty = typeParams.isEmpty := by
    cases typeParams <;> simp [replaceFields]
  rw [List.forall₂_map_left_iff, List.forall₂_map_right_iff]
  refine all.imp fun before after is => ?_
  rw [Use.inType, Use.inType, isEmpty, keeps.site before after is]
  split
  · exact is
  · exact keeps.sited before after is .genericType

theorem fieldNames (field : Field) :
    (field.replace (.ofFields field?)).names = field.names := by
  obtain ⟨names, type, tag?, comment⟩ := field
  cases found : field? ⟨names, type, tag?, comment⟩ with
  | none => rw [Field.replace_of_none found]
  | some field' =>
    rw [Field.replace_of_some found]
    exact keeps.names _ _ found

theorem fieldsNames (fields : List Field) :
    (replaceFields (.ofFields field?) fields).flatMap (·.names) = fields.flatMap (·.names) := by
  induction fields with
  | nil => simp [replaceFields]
  | cons field fields ih => simp [replaceFields, keeps.fieldNames, ih]

end

attribute [local simp] append Expr.replace_ofFields Expr.Node.replace replaceExpr? replaceExprs replaceField?
  replaceFields FuncType.replace Block.replace replaceBlock? Stmt.replace Stmt.Node.replace replaceStmt? replaceStmts
  replaceCases replaceComms replaceTypeSpecs replaceValueSpecs Decl.replace Expr.uses Expr.Node.uses usesOfExpr?
  usesOfExprs usesOfTarget? usesOfTargets Field.uses usesOfField? usesOfFields FuncType.uses Block.uses usesOfBlock?
  Stmt.uses Stmt.Node.uses usesOfStmt? usesOfStmts usesOfCases usesOfComms usesOfTypeSpecs usesOfValueSpecs Decl.uses
  Expr.defines_replace Stmt.binds_replace bindsOfStmt?_replace bindsOfTarget?_replace

mutual

theorem expr (keeps : KeepsUses related field?) (scope : List String) : (expr : Expr) →
    List.Forall₂ related (expr.uses scope) ((expr.replace (.ofFields field?)).uses scope)
  | ⟨node, span⟩ => by simp [exprNode keeps scope node]

theorem exprNode (keeps : KeepsUses related field?) (scope : List String) : (node : Expr.Node) →
    List.Forall₂ related (node.uses scope) ((node.replace (.ofFields field?)).uses scope)
  | .ident name => by simp [keeps.refl]
  | .literal text => by simp
  | .composite type? elements braces comments => by simp [optExpr keeps scope type?, exprs keeps scope elements]
  | .funcLit ⟨params, results⟩ body => by
    simp [keeps.fieldsNames, fields keeps _ params, fields keeps _ results, block keeps _ body]
  | .paren inner | .selector inner _ | .star inner | .unary _ inner | .chanType _ inner => by
    simp [expr keeps scope inner]
  | .index left right | .binary left _ right | .mapType left right => by
    simp [expr keeps scope left, expr keeps scope right]
  | .keyValue key value => by simp [inner keeps scope key, expr keeps scope value]
  | .indexList base list | .call base list _ _ => by simp [expr keeps scope base, exprs keeps scope list]
  | .slice base low? high? max? threeIndex => by
    simpa using append (expr keeps scope base)
      (append (optExpr keeps scope low?) (append (optExpr keeps scope high?) (optExpr keeps scope max?)))
  | .typeAssert base type? => by simp [expr keeps scope base, optExpr keeps scope type?]
  | .arrayType length? elem => by simp [optExpr keeps scope length?, expr keeps scope elem]
  | .ellipsis elem? => by simp [optExpr keeps scope elem?]
  | .funcType type => by simp [funcType keeps scope type]
  | .structType members _ | .interfaceType members _ => by simp [fields keeps scope members]

theorem inner (keeps : KeepsUses related field?) (scope : List String) : (expr : Expr) →
    List.Forall₂ related (expr.innerUses scope) ((expr.replace (.ofFields field?)).innerUses scope)
  | ⟨node, span⟩ => by
    have whole := exprNode keeps scope node
    rw [Expr.replace_ofFields]
    cases node with
    | ident name =>
      simp only [Expr.Node.replace, Expr.innerUses]
      exact .nil
    | _ => simpa only [Expr.Node.replace, Expr.innerUses] using whole

theorem optExpr (keeps : KeepsUses related field?) (scope : List String) : (expr? : Option Expr) →
    List.Forall₂ related (usesOfExpr? scope expr?) (usesOfExpr? scope (replaceExpr? (.ofFields field?) expr?))
  | none => by simp
  | some one => by simp [expr keeps scope one]

theorem exprs (keeps : KeepsUses related field?) (scope : List String) : (list : List Expr) →
    List.Forall₂ related (usesOfExprs scope list) (usesOfExprs scope (replaceExprs (.ofFields field?) list))
  | [] => by simp
  | one :: list => by simp [expr keeps scope one, exprs keeps scope list]

theorem optTarget (keeps : KeepsUses related field?) (scope : List String) : (target? : Option Expr) →
    List.Forall₂ related (usesOfTarget? scope target?) (usesOfTarget? scope (replaceExpr? (.ofFields field?) target?))
  | none => by simp
  | some one => by simp [inner keeps scope one]

theorem targets (keeps : KeepsUses related field?) (define : Bool) (scope : List String) : (list : List Expr) →
    List.Forall₂ related (usesOfTargets define scope list)
      (usesOfTargets define scope (replaceExprs (.ofFields field?) list))
  | [] => by simp
  | one :: list => by simp [inner keeps scope one, targets keeps define _ list]

theorem field (keeps : KeepsUses related field?) (scope : List String) : (field : Field) →
    List.Forall₂ related (field.uses scope) ((field.replace (.ofFields field?)).uses scope)
  | ⟨names, type, tag?, comment⟩ => by
    cases found : field? ⟨names, type, tag?, comment⟩ with
    | none =>
      rw [Field.replace_of_none found]
      simpa only [Field.uses] using expr keeps scope type
    | some field' =>
      rw [Field.replace_of_some found]
      exact keeps.uses _ _ found scope

theorem optField (keeps : KeepsUses related field?) (scope : List String) : (field'? : Option Field) →
    List.Forall₂ related (usesOfField? scope field'?) (usesOfField? scope (replaceField? (.ofFields field?) field'?))
  | none => by simp
  | some one => by simp [field keeps scope one]

theorem fields (keeps : KeepsUses related field?) (scope : List String) : (list : List Field) →
    List.Forall₂ related (usesOfFields scope list) (usesOfFields scope (replaceFields (.ofFields field?) list))
  | [] => by simp
  | one :: list => by simp [field keeps scope one, fields keeps scope list]

theorem funcType (keeps : KeepsUses related field?) (scope : List String) : (type : FuncType) →
    List.Forall₂ related (type.uses scope) ((type.replace (.ofFields field?)).uses scope)
  | ⟨params, results⟩ => by simp [fields keeps scope params, fields keeps scope results]

theorem block (keeps : KeepsUses related field?) (scope : List String) : (block : Block) →
    List.Forall₂ related (block.uses scope) ((block.replace (.ofFields field?)).uses scope)
  | ⟨list, comments, span⟩ => by simp [stmts keeps scope list]

theorem optBlock (keeps : KeepsUses related field?) (scope : List String) : (block? : Option Block) →
    List.Forall₂ related (usesOfBlock? scope block?) (usesOfBlock? scope (replaceBlock? (.ofFields field?) block?))
  | none => by simp
  | some one => by simp [block keeps scope one]

theorem stmt (keeps : KeepsUses related field?) (scope : List String) : (stmt : Stmt) →
    List.Forall₂ related (stmt.uses scope) ((stmt.replace (.ofFields field?)).uses scope)
  | ⟨node, span⟩ => by simp [stmtNode keeps scope node]

theorem stmtNode (keeps : KeepsUses related field?) (scope : List String) : (node : Stmt.Node) →
    List.Forall₂ related (node.uses scope) ((node.replace (.ofFields field?)).uses scope)
  | .expr one | .incDec one _ | .go one | .defer one => by simp [expr keeps scope one]
  | .assign left _ right => by simp [exprs keeps scope right, targets keeps _ scope left]
  | .send channel value => by simp [expr keeps scope channel, expr keeps scope value]
  | .decl one => by simp [decl keeps scope one]
  | .ret results => by simp [exprs keeps scope results]
  | .branch _ _ | .empty => by simp
  | .block one => by simp [block keeps scope one]
  | .ifElse init? cond body else? => by
    simpa using append (optStmt keeps scope init?) (append (expr keeps _ cond) (append (block keeps _ body)
      (optStmt keeps _ else?)))
  | .forLoop init? cond? post? body => by
    simpa using append (optStmt keeps scope init?) (append (optExpr keeps _ cond?) (append (optStmt keeps _ post?)
      (block keeps _ body)))
  | .rangeLoop key? value? define one body => by
    simpa using append (expr keeps scope one) (append (optTarget keeps scope key?) (append (optTarget keeps _ value?)
      (block keeps _ body)))
  | .switch init? tag? clauses => by
    simp [optStmt keeps scope init?, optExpr keeps _ tag?, cases keeps _ [] clauses]
  | .typeSwitch init? binding? one clauses => by
    simp [optStmt keeps scope init?, expr keeps _ one, cases keeps _ binding?.toList clauses]
  | .select clauses => by simp [comms keeps scope clauses]
  | .labeled label one => by simp [stmt keeps scope one]

theorem optStmt (keeps : KeepsUses related field?) (scope : List String) : (stmt? : Option Stmt) →
    List.Forall₂ related (usesOfStmt? scope stmt?) (usesOfStmt? scope (replaceStmt? (.ofFields field?) stmt?))
  | none => by simp
  | some one => by simp [stmt keeps scope one]

theorem stmts (keeps : KeepsUses related field?) (scope : List String) : (list : List Stmt) →
    List.Forall₂ related (usesOfStmts scope list) (usesOfStmts scope (replaceStmts (.ofFields field?) list))
  | [] => by simp
  | one :: list => by simp [stmt keeps scope one, stmts keeps _ list]

theorem cases (keeps : KeepsUses related field?) (scope names : List String) : (clauses : List CaseClause) →
    List.Forall₂ related (usesOfCases scope names clauses)
      (usesOfCases scope names (replaceCases (.ofFields field?) clauses))
  | [] => by simp
  | ⟨list, body⟩ :: clauses => by simp [exprs keeps scope list, block keeps _ body, cases keeps scope names clauses]

theorem comms (keeps : KeepsUses related field?) (scope : List String) : (clauses : List CommClause) →
    List.Forall₂ related (usesOfComms scope clauses) (usesOfComms scope (replaceComms (.ofFields field?) clauses))
  | [] => by simp
  | ⟨comm?, body⟩ :: clauses => by simp [optStmt keeps scope comm?, block keeps _ body, comms keeps scope clauses]

theorem typeSpecs (keeps : KeepsUses related field?) (scope : List String) : (specs : List TypeSpec) →
    List.Forall₂ related (usesOfTypeSpecs scope specs)
      (usesOfTypeSpecs scope (replaceTypeSpecs (.ofFields field?) specs))
  | [] => by simp
  | ⟨name, typeParams, isAlias, type, comment⟩ :: specs => by
    simp [keeps.inTypeParams (fields keeps _ typeParams), keeps.inType (expr keeps _ type) typeParams,
      typeSpecs keeps _ specs]

theorem valueSpecs (keeps : KeepsUses related field?) (scope : List String) : (specs : List ValueSpec) →
    List.Forall₂ related (usesOfValueSpecs scope specs)
      (usesOfValueSpecs scope (replaceValueSpecs (.ofFields field?) specs))
  | [] => by simp
  | ⟨names, type?, values, comment⟩ :: specs => by
    simp [optExpr keeps scope type?, exprs keeps scope values, valueSpecs keeps _ specs]

theorem decl (keeps : KeepsUses related field?) (scope : List String) : (decl : Decl) →
    List.Forall₂ related (decl.uses scope) ((decl.replace (.ofFields field?)).uses scope)
  | .imports group => by simp
  | .func ⟨receiver?, name, nameSpan, typeParams, type, body?⟩ => by
    simpa using append (optField keeps scope receiver?)
      (append (fields keeps scope typeParams) (append (funcType keeps scope type) (optBlock keeps scope body?)))
  | .types specs grouped => by simp [typeSpecs keeps scope specs]
  | .values kind specs grouped => by simp [valueSpecs keeps scope specs]

end

end KeepsUses

end GoSpecs
