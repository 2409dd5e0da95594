import GoSpecs.Proofs.Syntax.Fill
import GoSpecs.Spec.Context

namespace GoSpecs

namespace Use

/-- The use stands for what has the name outside of the body. The blank name stands for nothing. -/
def isFree (name : String) (use : Use) : Bool :=
  name != "_" && use.name == name && !use.scope.contains name

/-- Type parameters are not visited. -/
def isReplaced (name : String) (use : Use) : Bool :=
  use.isFree name && use.site != .typeParams

theorem isReplaced_eq {param : String} (named : param ≠ "_") (name : String) (scope : List String) :
    isReplaced param ⟨name, scope, .plain⟩ = (name == param && !scope.contains param) := by
  rw [isReplaced, isFree, bne_iff_ne.mpr named, Bool.true_and]
  exact Bool.and_true _

theorem isReplaced_inTypeParams (param : String) (use : Use) : use.inTypeParams.isReplaced param = false :=
  Bool.and_false _

theorem isReplaced_inType (param : String) (typeParams : List Field) (use : Use) :
    (use.inType typeParams).isReplaced param = use.isReplaced param := by
  have site : ((use.inType typeParams).site != .typeParams) = (use.site != .typeParams) := by
    unfold inType
    split
    · rfl
    · rename_i other
      have elsewhere : use.site ≠ .typeParams := by
        intro same
        simp [same] at other
      exact (bne_iff_ne.mpr elsewhere).symm
  simp [isReplaced, isFree, site]

def renamed (param head : String) (use : Use) : Use :=
  if use.isReplaced param then { use with name := head } else use

@[simp] theorem renamed_comp_inTypeParams (param head : String) :
    renamed param head ∘ inTypeParams = inTypeParams := by
  funext use
  exact if_neg (ne_true_of_eq_false (isReplaced_inTypeParams param use))

@[simp] theorem renamed_comp_inType (param head : String) (typeParams : List Field) :
    renamed param head ∘ inType typeParams = inType typeParams ∘ renamed param head := by
  funext use
  simp only [Function.comp_apply, renamed, isReplaced_inType]
  split
  · unfold inType
    dsimp only
    split <;> rfl
  · rfl

end Use

/-- Some name in scope hides the parameter. -/
def ContextUse.hides (context : ContextUse) (scope : List String) : Bool :=
  scope.contains context.param

namespace ContextUse

variable (context : ContextUse) (scope : List String)

theorem hides_swap (left right : List String) :
    context.hides (right ++ (left ++ scope)) = context.hides (left ++ (right ++ scope)) := by
  simp [hides, or_left_comm]

theorem hiddenBy_eq (names : List String) :
    context.hiddenBy (context.hides scope) names = context.hides (names ++ scope) := by
  simp [hides, hiddenBy, Bool.or_comm]

theorem hiddenByFields_eq (fields : List Field) :
    context.hiddenByFields (context.hides scope) fields = context.hides (fields.flatMap (·.names) ++ scope) := by
  have names : fields.any (·.names.contains context.param) =
      (fields.flatMap (·.names)).contains context.param := by
    induction fields with
    | nil => rfl
    | cons field fields ih => simp only [List.any_cons, List.flatMap_cons, List.contains_append, ih]
  rw [hides, hides, hiddenByFields, names, List.contains_append, Bool.or_comm]

end ContextUse

theorem Expr.Node.withContext_ne_ident (context : ContextUse) (hidden : Bool) {node : Expr.Node}
    (other : ∀ name, node ≠ .ident name) (count : Nat) :
    ∀ name, ((node.withContext context hidden).run count).1 ≠ .ident name := by
  intro name
  cases node with
  | ident name => exact (other name rfl).elim
  | funcLit type body =>
    obtain ⟨params, results⟩ := type
    rw [Expr.Node.withContext]
    nofun
  | _ =>
    rw [Expr.Node.withContext]
    nofun

section

variable {node : Expr.Node} {span : Span} (other : ∀ name, node ≠ .ident name)
include other

theorem Expr.innerUses_of_ne_ident (scope : List String) :
    Expr.innerUses scope ⟨node, span⟩ = node.uses scope := by
  rw [Expr.innerUses]
  exact other

theorem Expr.defines_of_ne_ident (define : Bool) : Expr.defines define ⟨node, span⟩ = [] := by
  have none : Expr.bareName ⟨node, span⟩ = [] := by
    rw [Expr.bareName]
    intro name _ same
    cases same
    exact other name rfl
  simp [Expr.defines, none]

end

/-- What stands in place of the parameter is a use of the one name. -/
structure Accesses (context : ContextUse) (head : String) : Prop where
  named : context.param ≠ "_"
  uses : ∀ scope, context.replacement.uses scope = [⟨head, scope, .plain⟩]

namespace Accesses

variable {context : ContextUse} {head : String}

theorem name (accesses : Accesses context head) (scope : List String) (name : String) (count : Nat) :
    ((context.name (context.hides scope) name).run count).1.uses scope =
      [Use.renamed context.param head ⟨name, scope, .plain⟩] := by
  unfold ContextUse.name ContextUse.hides Use.renamed
  rw [← Use.isReplaced_eq accesses.named]
  split
  · exact accesses.uses scope
  · rw [StateM.run_pure, Expr.Node.uses]

attribute [local simp high] StateM.run_pure StateM.run_bind StateM.run_map

attribute [local simp] ContextUse.hiddenBy_eq ContextUse.hiddenByFields_eq Expr.withContext Expr.Node.withContext
  exprWithContext? exprsWithContext targetWithContext? targetsWithContext Field.withContext
  fieldWithContext? fieldsWithContext FuncType.withContext Block.withContext blockWithContext? Stmt.withContext
  Stmt.Node.withContext stmtWithContext? stmtsWithContext casesWithContext commsWithContext typeSpecsWithContext
  valueSpecsWithContext Decl.withContext Expr.uses Expr.Node.uses usesOfExpr? usesOfExprs usesOfTarget? usesOfTargets
  Field.uses usesOfField? usesOfFields FuncType.uses Block.uses usesOfBlock? Stmt.uses Stmt.Node.uses usesOfStmt?
  usesOfStmts usesOfCases usesOfComms usesOfTypeSpecs usesOfValueSpecs Decl.uses Stmt.binds Stmt.Node.binds

mutual

theorem expr (accesses : Accesses context head) (scope : List String) : (expr : Expr) → ∀ count,
    ((expr.withContext context (context.hides scope)).run count).1.uses scope =
      (expr.uses scope).map (.renamed context.param head)
  | ⟨node, span⟩ => by simp [exprNode accesses scope node]

theorem exprNode (accesses : Accesses context head) (scope : List String) : (node : Expr.Node) → ∀ count,
    ((node.withContext context (context.hides scope)).run count).1.uses scope =
      (node.uses scope).map (.renamed context.param head)
  | .ident one => by simp [name accesses scope one]
  | .literal _ => by simp
  | .composite type? elements _ _ => by simp [optExpr accesses scope type?, exprs accesses scope elements]
  | .funcLit ⟨params, results⟩ body => by
    simp [fields accesses _ params, fields accesses _ results, block accesses _ body]
  | .paren inner | .star inner | .selector inner _ | .unary _ inner | .chanType _ inner => by
    simp [expr accesses scope inner]
  | .index left right | .mapType left right | .binary left _ right => by
    simp [expr accesses scope left, expr accesses scope right]
  | .keyValue left right => by simp [key accesses scope left, expr accesses scope right]
  | .indexList base list | .call base list _ _ => by simp [expr accesses scope base, exprs accesses scope list]
  | .slice base low? high? max? _ => by
    simp [expr accesses scope base, optExpr accesses scope low?, optExpr accesses scope high?,
      optExpr accesses scope max?]
  | .typeAssert base type? => by simp [expr accesses scope base, optExpr accesses scope type?]
  | .arrayType length? elem => by simp [optExpr accesses scope length?, expr accesses scope elem]
  | .ellipsis elem? => by simp [optExpr accesses scope elem?]
  | .funcType type => by simp [funcType accesses scope type]
  | .structType members _ | .interfaceType members _ => by simp [fields accesses scope members]

theorem key (accesses : Accesses context head) (scope : List String) : (expr : Expr) → ∀ count,
    ((expr.keyWithContext context (context.hides scope)).run count).1.innerUses scope =
      (expr.innerUses scope).map (.renamed context.param head)
  | ⟨node, span⟩ => by
    have whole := exprNode accesses scope node
    intro count
    rcases node.ident_or_other with ⟨name, rfl⟩ | other
    · simp [Expr.keyWithContext, Expr.innerUses]
    · rw [Expr.keyWithContext]
      · have still := Expr.Node.withContext_ne_ident context (context.hides scope) other count
        rw [Expr.innerUses_of_ne_ident other]
        exact (Expr.innerUses_of_ne_ident still scope).trans (whole count)
      · exact other

theorem optExpr (accesses : Accesses context head) (scope : List String) : (expr? : Option Expr) → ∀ count,
    usesOfExpr? scope ((exprWithContext? context (context.hides scope) expr?).run count).1 =
      (usesOfExpr? scope expr?).map (.renamed context.param head)
  | none => by simp
  | some one => by simp [expr accesses scope one]

theorem exprs (accesses : Accesses context head) (scope : List String) : (list : List Expr) → ∀ count,
    usesOfExprs scope ((exprsWithContext context (context.hides scope) list).run count).1 =
      (usesOfExprs scope list).map (.renamed context.param head)
  | [] => by simp
  | one :: list => by simp [expr accesses scope one, exprs accesses scope list]

theorem target (accesses : Accesses context head) (define : Bool) (scope : List String) : (target : Expr) → ∀ count,
    let found := (target.targetWithContext context define (context.hides scope)).run count
    found.1.1.innerUses scope = (target.innerUses scope).map (.renamed context.param head) ∧
      found.1.1.defines define = target.defines define ∧ found.1.2 = context.hides (target.defines define ++ scope)
  | ⟨node, span⟩ => by
    have whole := exprNode accesses scope node
    intro count
    rcases node.ident_or_other with ⟨name, rfl⟩ | other
    · rw [Expr.targetWithContext]
      refine ⟨by simp [Expr.innerUses], rfl, ?_⟩
      cases define with
      | false => rfl
      | true => exact context.hiddenBy_eq scope [name]
    · rw [Expr.targetWithContext]
      · have still := Expr.Node.withContext_ne_ident context (context.hides scope) other count
        rw [Expr.innerUses_of_ne_ident other, Expr.defines_of_ne_ident other]
        exact ⟨(Expr.innerUses_of_ne_ident still scope).trans (whole count),
          Expr.defines_of_ne_ident still define, rfl⟩
      · exact other

theorem optTarget (accesses : Accesses context head) (define : Bool) (scope : List String) : (target? : Option Expr) →
    ∀ count,
    let found := (targetWithContext? context define (context.hides scope) target?).run count
    usesOfTarget? scope found.1.1 = (usesOfTarget? scope target?).map (.renamed context.param head) ∧
      bindsOfTarget? define found.1.1 = bindsOfTarget? define target? ∧
      found.1.2 = context.hides (bindsOfTarget? define target? ++ scope)
  | none => by simp [bindsOfTarget?]
  | some one => by simp [bindsOfTarget?, target accesses define scope one]

theorem targets (accesses : Accesses context head) (define : Bool) (scope : List String) : (list : List Expr) → ∀ count,
    let found := (targetsWithContext context define (context.hides scope) list).run count
    usesOfTargets define scope found.1.1 = (usesOfTargets define scope list).map (.renamed context.param head) ∧
      found.1.1.flatMap (·.defines define) = list.flatMap (·.defines define) ∧
      found.1.2 = context.hides (list.flatMap (·.defines define) ++ scope)
  | [] => by simp
  | one :: list => by
    simpa [target accesses define scope one, targets accesses define _ list] using context.hides_swap scope
      (one.defines define) _

theorem field (accesses : Accesses context head) (scope : List String) : (field : Field) → ∀ count,
    let found := (field.withContext context (context.hides scope)).run count
    found.1.uses scope = (field.uses scope).map (.renamed context.param head) ∧ found.1.names = field.names
  | ⟨names, type, tag?, comment⟩ => by simp [expr accesses scope type]

theorem optField (accesses : Accesses context head) (scope : List String) : (field? : Option Field) → ∀ count,
    usesOfField? scope ((fieldWithContext? context (context.hides scope) field?).run count).1 =
      (usesOfField? scope field?).map (.renamed context.param head)
  | none => by simp
  | some one => by simp [field accesses scope one]

theorem fields (accesses : Accesses context head) (scope : List String) : (list : List Field) → ∀ count,
    let found := (fieldsWithContext context (context.hides scope) list).run count
    usesOfFields scope found.1 = (usesOfFields scope list).map (.renamed context.param head) ∧
      found.1.flatMap (·.names) = list.flatMap (·.names)
  | [] => by simp
  | one :: list => by simp [field accesses scope one, fields accesses scope list]

theorem funcType (accesses : Accesses context head) (scope : List String) : (type : FuncType) → ∀ count,
    ((type.withContext context (context.hides scope)).run count).1.uses scope =
      (type.uses scope).map (.renamed context.param head)
  | ⟨params, results⟩ => by simp [fields accesses scope params, fields accesses scope results]

theorem block (accesses : Accesses context head) (scope : List String) : (block : Block) → ∀ count,
    ((block.withContext context (context.hides scope)).run count).1.uses scope =
      (block.uses scope).map (.renamed context.param head)
  | ⟨list, comments, span⟩ => by simp [stmts accesses scope list]

theorem optBlock (accesses : Accesses context head) (scope : List String) : (block? : Option Block) → ∀ count,
    usesOfBlock? scope ((blockWithContext? context (context.hides scope) block?).run count).1 =
      (usesOfBlock? scope block?).map (.renamed context.param head)
  | none => by simp
  | some one => by simp [block accesses scope one]

theorem stmt (accesses : Accesses context head) (scope : List String) : (stmt : Stmt) → ∀ count,
    let found := (stmt.withContext context (context.hides scope)).run count
    found.1.1.uses scope = (stmt.uses scope).map (.renamed context.param head) ∧ found.1.1.binds = stmt.binds ∧
      found.1.2 = context.hides (stmt.binds ++ scope)
  | ⟨node, span⟩ => by simp [stmtNode accesses scope node]

theorem stmtNode (accesses : Accesses context head) (scope : List String) : (node : Stmt.Node) → ∀ count,
    let found := (node.withContext context (context.hides scope)).run count
    found.1.1.uses scope = (node.uses scope).map (.renamed context.param head) ∧ found.1.1.binds = node.binds ∧
      found.1.2 = context.hides (node.binds ++ scope)
  | .expr one | .go one | .defer one | .incDec one _ => by simp [expr accesses scope one]
  | .assign list op values => by simp [exprs accesses scope values, targets accesses (op == .define) scope list]
  | .send channel value => by simp [expr accesses scope channel, expr accesses scope value]
  | .decl one => by simp [decl accesses scope one]
  | .ret results => by simp [exprs accesses scope results]
  | .branch _ _ | .empty => by simp
  | .block one => by simp [block accesses scope one]
  | .ifElse init? cond body else? => by
    simp [optStmt accesses scope init?, expr accesses _ cond, block accesses _ body, optStmt accesses _ else?]
  | .forLoop init? cond? post? body => by
    simp [optStmt accesses scope init?, optExpr accesses _ cond?, optStmt accesses _ post?, block accesses _ body]
  | .rangeLoop key? value? define one body => by
    simp [expr accesses scope one, optTarget accesses define scope key?, optTarget accesses define _ value?,
      block accesses _ body]
  | .switch init? tag? clauses => by
    simp [optStmt accesses scope init?, optExpr accesses _ tag?, cases accesses _ [] clauses]
  | .typeSwitch init? binding? one clauses => by
    simp [optStmt accesses scope init?, expr accesses _ one, cases accesses _ binding?.toList clauses]
  | .select clauses => by simp [comms accesses scope clauses]
  | .labeled _ one => by simp [stmt accesses scope one]

theorem optStmt (accesses : Accesses context head) (scope : List String) : (stmt? : Option Stmt) → ∀ count,
    let found := (stmtWithContext? context (context.hides scope) stmt?).run count
    usesOfStmt? scope found.1.1 = (usesOfStmt? scope stmt?).map (.renamed context.param head) ∧
      bindsOfStmt? found.1.1 = bindsOfStmt? stmt? ∧ found.1.2 = context.hides (bindsOfStmt? stmt? ++ scope)
  | none => by simp [bindsOfStmt?]
  | some one => by simp [bindsOfStmt?, stmt accesses scope one]

theorem stmts (accesses : Accesses context head) (scope : List String) : (list : List Stmt) → ∀ count,
    usesOfStmts scope ((stmtsWithContext context (context.hides scope) list).run count).1 =
      (usesOfStmts scope list).map (.renamed context.param head)
  | [] => by simp
  | one :: list => by simp [stmt accesses scope one, stmts accesses _ list]

theorem cases (accesses : Accesses context head) (scope names : List String) : (clauses : List CaseClause) → ∀ count,
    usesOfCases scope names ((casesWithContext context (context.hides scope) names clauses).run count).1 =
      (usesOfCases scope names clauses).map (.renamed context.param head)
  | [] => by simp
  | ⟨list, body⟩ :: clauses => by
    simp [exprs accesses scope list, block accesses _ body, cases accesses scope names clauses]

theorem comms (accesses : Accesses context head) (scope : List String) : (clauses : List CommClause) → ∀ count,
    usesOfComms scope ((commsWithContext context (context.hides scope) clauses).run count).1 =
      (usesOfComms scope clauses).map (.renamed context.param head)
  | [] => by simp
  | ⟨comm?, body⟩ :: clauses => by
    simp [optStmt accesses scope comm?, block accesses _ body, comms accesses scope clauses]

theorem typeSpecs (accesses : Accesses context head) (scope : List String) : (specs : List TypeSpec) → ∀ count,
    let found := (typeSpecsWithContext context (context.hides scope) specs).run count
    usesOfTypeSpecs scope found.1.1 = (usesOfTypeSpecs scope specs).map (.renamed context.param head) ∧
      found.1.1.map (·.name) = specs.map (·.name) ∧ found.1.2 = context.hides (specs.map (·.name) ++ scope)
  | [] => by simp
  | ⟨one, typeParams, isAlias, type, comment⟩ :: specs => by
    simpa [expr accesses _ type, typeSpecs accesses _ specs] using context.hides_swap scope [one] _

theorem valueSpecs (accesses : Accesses context head) (scope : List String) : (specs : List ValueSpec) → ∀ count,
    let found := (valueSpecsWithContext context (context.hides scope) specs).run count
    usesOfValueSpecs scope found.1.1 = (usesOfValueSpecs scope specs).map (.renamed context.param head) ∧
      found.1.1.flatMap (·.names) = specs.flatMap (·.names) ∧
      found.1.2 = context.hides (specs.flatMap (·.names) ++ scope)
  | [] => by simp
  | ⟨names, type?, values, comment⟩ :: specs => by
    simpa [optExpr accesses scope type?, exprs accesses scope values,
      valueSpecs accesses _ specs] using context.hides_swap scope names _

theorem decl (accesses : Accesses context head) (scope : List String) : (decl : Decl) → ∀ count,
    let found := (decl.withContext context (context.hides scope)).run count
    found.1.1.uses scope = (decl.uses scope).map (.renamed context.param head) ∧ found.1.1.binds = decl.binds ∧
      found.1.2 = context.hides (decl.binds ++ scope)
  | .imports _ => by simp [Decl.binds]
  | .func ⟨receiver?, _, _, typeParams, type, body?⟩ => by
    simp [Decl.binds, optField accesses scope receiver?, fields accesses scope typeParams,
      funcType accesses scope type, optBlock accesses scope body?]
  | .types specs _ => by simp [Decl.binds, typeSpecs accesses scope specs]
  | .values _ specs _ => by simp [Decl.binds, valueSpecs accesses scope specs]

end

end Accesses

/-- The free uses of the parameter become uses of another name at the same places. -/
theorem Block.uses_replaceContext (body : Block) (context : ContextUse) {head : String}
    (accessed : ∀ scope, context.replacement.uses scope = [⟨head, scope, .plain⟩]) :
    (body.replaceContext context).1.uses [] = (body.uses []).map (.renamed context.param head) := by
  unfold Block.replaceContext
  split
  · rename_i blank
    have same : Use.renamed context.param head = id := by
      funext use
      simp [Use.renamed, Use.isReplaced, Use.isFree, eq_of_beq blank]
    rw [same, List.map_id]
  · rename_i named
    have accesses : Accesses context head := ⟨by simpa using named, accessed⟩
    exact accesses.block [] body 0

end GoSpecs
