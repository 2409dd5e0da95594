import GoSpecs.Fault
import GoSpecs.Syntax.Walk
import GoSpecs.Proofs.Conversion.Capture

namespace GoSpecs

def ContextUse.standIn (context : ContextUse) (use : Use) : Expr.Node :=
  if use.isReplaced context.param then context.replacement else use.node

@[simp] theorem ContextUse.standIn_inTypeParams (context : ContextUse) (use : Use) :
    context.standIn use.inTypeParams = use.node :=
  if_neg (ne_true_of_eq_false (Use.isReplaced_inTypeParams context.param use))

@[simp] theorem ContextUse.standIn_inType (context : ContextUse) (typeParams : List Field) (use : Use) :
    context.standIn (use.inType typeParams) = context.standIn use := by
  simp [standIn, Use.isReplaced_inType, Use.node]

/--
The action counts the uses that are replaced, and its result shows the tree that has the stand-in of each use in
its place.
-/
def Follows {α γ : Type} (context : ContextUse) (uses : List Use) (shown : α → γ) (action : Counting γ)
    (filling : Filling α) : Prop :=
  ∃ value, Fills context.standIn uses filling value ∧
    ∀ count, action.run count = (shown value, count + uses.countP (·.isReplaced context.param))

section

variable {α β γ δ : Type} {context : ContextUse} {uses more : List Use} {shown : α → γ} {shown' : β → δ}

theorem follows_pure (value : α) : Follows context [] shown (pure (shown value)) (pure value) :=
  ⟨value, fills_pure value, fun _ => rfl⟩

theorem Follows.bind {first : Counting γ} {next : γ → Counting δ} {filling : Filling α} {later : α → Filling β}
    (one : Follows context uses shown first filling)
    (two : ∀ value, Follows context more shown' (next (shown value)) (later value)) :
    Follows context (uses ++ more) shown' (first >>= next) (filling >>= later) := by
  obtain ⟨value, filled, counted⟩ := one
  obtain ⟨result, filled', counted'⟩ := two value
  refine ⟨result, filled.bind filled', fun count => ?_⟩
  rw [StateT.run_bind, counted, List.countP_append, ← Nat.add_assoc]
  exact counted' _

theorem Follows.make {first : Counting γ} {next : γ → Counting δ} {filling : Filling α} {make : α → β}
    (one : Follows context uses shown first filling) (made : ∀ value, next (shown value) = pure (shown' (make value))) :
    Follows context uses shown' (first >>= next) (filling >>= fun value => pure (make value)) := by
  have whole : Follows context (uses ++ []) shown' (first >>= next) (filling >>= fun value => pure (make value)) := by
    apply one.bind
    intro value
    rw [made]
    exact follows_pure _
  rwa [List.append_nil] at whole

end

namespace Follows

variable {context : ContextUse}

theorem name (named : context.param ≠ "_") (scope : List String) (name : String) :
    Follows context [⟨name, scope, .plain⟩] id (context.name (context.hides scope) name) (fillUse name) := by
  refine ⟨context.standIn ⟨name, scope, .plain⟩, fills_use ⟨name, scope, .plain⟩, fun count => ?_⟩
  rw [List.countP_singleton, ContextUse.standIn, ContextUse.name, ContextUse.hides, Use.isReplaced_eq named]
  split
  · rfl
  · rfl

section

variable {α γ : Type} {uses : List Use} {shown : α → γ} {action : Counting γ}

theorem afterTypeParams (scope : List String) (typeParams : List Field) {later : List Field → Filling α}
    (follows : Follows context uses shown action (later typeParams)) :
    Follows context ((usesOfFields scope typeParams).map .inTypeParams ++ uses) shown action
      (fillFields typeParams >>= later) := by
  obtain ⟨value, filled, counted⟩ := follows
  have self : Fills context.standIn ((usesOfFields scope typeParams).map .inTypeParams) (fillFields typeParams)
      typeParams := by
    intro rest
    simpa [Function.comp_def] using Fills.fields scope typeParams rest
  refine ⟨value, self.bind filled, fun count => ?_⟩
  simpa [List.countP_map, Function.comp_def, Use.isReplaced_inTypeParams] using counted count

theorem inType {filling : Filling α} (follows : Follows context uses shown action filling)
    (typeParams : List Field) :
    Follows context (uses.map (.inType typeParams)) shown action filling := by
  obtain ⟨value, filled, counted⟩ := follows
  refine ⟨value, fun rest => ?_, fun count => ?_⟩
  · simpa [Function.comp_def] using filled rest
  · simpa [List.countP_map, Function.comp_def, Use.isReplaced_inType] using counted count

end

-- Statements and declarations also tell whether the parameter is hidden after them. This is shown beside the tree,
-- and the next action begins with it.
mutual

theorem expr (named : context.param ≠ "_") (scope : List String) : (expr : Expr) →
    Follows context (expr.uses scope) id (expr.withContext context (context.hides scope)) expr.fill
  | ⟨node, span⟩ => by
    rw [Expr.uses, Expr.withContext, Expr.fill]
    exact (exprNode named scope node).make fun _ => rfl

theorem exprNode (named : context.param ≠ "_") (scope : List String) : (node : Expr.Node) →
    Follows context (node.uses scope) id (node.withContext context (context.hides scope)) node.fill
  | .ident one => by
    rw [Expr.Node.uses, Expr.Node.withContext, Expr.Node.fill]
    exact name named scope one
  | .literal text => by
    rw [Expr.Node.uses, Expr.Node.withContext, Expr.Node.fill]
    exact follows_pure _
  | .composite type? elements braces comments => by
    rw [Expr.Node.uses, Expr.Node.withContext, Expr.Node.fill]
    exact (optExpr named scope type?).bind fun _ => (exprs named scope elements).make fun _ => rfl
  | .funcLit ⟨params, results⟩ body => by
    rw [Expr.Node.withContext, Expr.Node.fill]
    simp only [Expr.Node.uses, ContextUse.hiddenByFields_eq, List.append_assoc]
    exact (fields named _ params).bind fun _ => (fields named _ results).bind fun _ =>
      (block named _ body).make fun _ => rfl
  | .paren inner | .star inner | .selector inner _ | .unary _ inner | .chanType _ inner => by
    rw [Expr.Node.uses, Expr.Node.withContext, Expr.Node.fill]
    exact (expr named scope inner).make fun _ => rfl
  | .index left right | .mapType left right | .binary left _ right => by
    rw [Expr.Node.uses, Expr.Node.withContext, Expr.Node.fill]
    exact (expr named scope left).bind fun _ => (expr named scope right).make fun _ => rfl
  | .keyValue left right => by
    rw [Expr.Node.uses, Expr.Node.withContext, Expr.Node.fill]
    exact (key named scope left).bind fun _ => (expr named scope right).make fun _ => rfl
  | .indexList base list | .call base list _ _ => by
    rw [Expr.Node.uses, Expr.Node.withContext, Expr.Node.fill]
    exact (expr named scope base).bind fun _ => (exprs named scope list).make fun _ => rfl
  | .slice base low? high? max? threeIndex => by
    rw [Expr.Node.withContext, Expr.Node.fill]
    simp only [Expr.Node.uses, List.append_assoc]
    exact (expr named scope base).bind fun _ => (optExpr named scope low?).bind fun _ =>
      (optExpr named scope high?).bind fun _ => (optExpr named scope max?).make fun _ => rfl
  | .typeAssert base type? => by
    rw [Expr.Node.uses, Expr.Node.withContext, Expr.Node.fill]
    exact (expr named scope base).bind fun _ => (optExpr named scope type?).make fun _ => rfl
  | .arrayType length? elem => by
    rw [Expr.Node.uses, Expr.Node.withContext, Expr.Node.fill]
    exact (optExpr named scope length?).bind fun _ => (expr named scope elem).make fun _ => rfl
  | .ellipsis elem? => by
    rw [Expr.Node.uses, Expr.Node.withContext, Expr.Node.fill]
    exact (optExpr named scope elem?).make fun _ => rfl
  | .funcType type => by
    rw [Expr.Node.uses, Expr.Node.withContext, Expr.Node.fill]
    exact (funcType named scope type).make fun _ => rfl
  | .structType members _ | .interfaceType members _ => by
    rw [Expr.Node.uses, Expr.Node.withContext, Expr.Node.fill]
    exact (fields named scope members).make fun _ => rfl

theorem key (named : context.param ≠ "_") (scope : List String) : (expr : Expr) →
    Follows context (expr.innerUses scope) id (expr.keyWithContext context (context.hides scope))
      expr.fillInner
  | ⟨node, span⟩ => by
    have whole := exprNode named scope node
    rcases node.ident_or_other with ⟨name, rfl⟩ | other
    · rw [Expr.innerUses, Expr.keyWithContext, Expr.fillInner]
      exact follows_pure _
    · rw [Expr.innerUses_of_ne_ident other, Expr.keyWithContext, Expr.fillInner]
      · exact whole.make fun _ => rfl
      · exact other
      · exact other

theorem optExpr (named : context.param ≠ "_") (scope : List String) : (expr? : Option Expr) →
    Follows context (usesOfExpr? scope expr?) id (exprWithContext? context (context.hides scope) expr?)
      (fillExpr? expr?)
  | none => by
    rw [usesOfExpr?, exprWithContext?, fillExpr?]
    exact follows_pure _
  | some one => by
    rw [usesOfExpr?, exprWithContext?, fillExpr?]
    exact (expr named scope one).make fun _ => rfl

theorem exprs (named : context.param ≠ "_") (scope : List String) : (list : List Expr) →
    Follows context (usesOfExprs scope list) id (exprsWithContext context (context.hides scope) list)
      (fillExprs list)
  | [] => by
    rw [usesOfExprs, exprsWithContext, fillExprs]
    exact follows_pure _
  | one :: list => by
    rw [usesOfExprs, exprsWithContext, fillExprs]
    exact (expr named scope one).bind fun _ => (exprs named scope list).make fun _ => rfl

theorem target (named : context.param ≠ "_") (define : Bool) (scope : List String) : (target : Expr) →
    Follows context (target.innerUses scope) (·, context.hides (target.defines define ++ scope))
      (target.targetWithContext context define (context.hides scope)) target.fillInner
  | ⟨node, span⟩ => by
    have whole := exprNode named scope node
    rcases node.ident_or_other with ⟨name, rfl⟩ | other
    · rw [Expr.innerUses, Expr.targetWithContext, Expr.fillInner]
      cases define with
      | false => exact follows_pure _
      | true =>
        rw [ContextUse.hiddenBy_eq]
        exact follows_pure _
    · rw [Expr.innerUses_of_ne_ident other, Expr.defines_of_ne_ident other, Expr.targetWithContext, Expr.fillInner]
      · exact whole.make fun _ => rfl
      · exact other
      · exact other

theorem optTarget (named : context.param ≠ "_") (define : Bool) (scope : List String) : (target? : Option Expr) →
    Follows context (usesOfTarget? scope target?) (·, context.hides (bindsOfTarget? define target? ++ scope))
      (targetWithContext? context define (context.hides scope) target?) (fillTarget? target?)
  | none => by
    rw [usesOfTarget?, targetWithContext?, fillTarget?]
    exact follows_pure _
  | some one => by
    rw [usesOfTarget?, targetWithContext?, fillTarget?]
    exact (target named define scope one).make fun _ => rfl

theorem targets (named : context.param ≠ "_") (define : Bool) (scope : List String) : (list : List Expr) →
    Follows context (usesOfTargets define scope list)
      (·, context.hides (list.flatMap (·.defines define) ++ scope))
      (targetsWithContext context define (context.hides scope) list) (fillTargets list)
  | [] => by
    rw [usesOfTargets, targetsWithContext, fillTargets]
    exact follows_pure _
  | one :: list => by
    rw [usesOfTargets, targetsWithContext, fillTargets, List.flatMap_cons, List.append_assoc,
      ← ContextUse.hides_swap]
    exact (target named define scope one).bind fun _ => (targets named define _ list).make fun _ => rfl

theorem field (named : context.param ≠ "_") (scope : List String) : (field : Field) →
    Follows context (field.uses scope) id (field.withContext context (context.hides scope)) field.fill
  | ⟨names, type, tag?, comment⟩ => by
    rw [Field.uses, Field.withContext, Field.fill]
    exact (expr named scope type).make fun _ => rfl

theorem optField (named : context.param ≠ "_") (scope : List String) : (field? : Option Field) →
    Follows context (usesOfField? scope field?) id (fieldWithContext? context (context.hides scope) field?)
      (fillField? field?)
  | none => by
    rw [usesOfField?, fieldWithContext?, fillField?]
    exact follows_pure _
  | some one => by
    rw [usesOfField?, fieldWithContext?, fillField?]
    exact (field named scope one).make fun _ => rfl

theorem fields (named : context.param ≠ "_") (scope : List String) : (list : List Field) →
    Follows context (usesOfFields scope list) id (fieldsWithContext context (context.hides scope) list)
      (fillFields list)
  | [] => by
    rw [usesOfFields, fieldsWithContext, fillFields]
    exact follows_pure _
  | one :: list => by
    rw [usesOfFields, fieldsWithContext, fillFields]
    exact (field named scope one).bind fun _ => (fields named scope list).make fun _ => rfl

theorem funcType (named : context.param ≠ "_") (scope : List String) : (type : FuncType) →
    Follows context (type.uses scope) id (type.withContext context (context.hides scope)) type.fill
  | ⟨params, results⟩ => by
    rw [FuncType.uses, FuncType.withContext, FuncType.fill]
    exact (fields named scope params).bind fun _ => (fields named scope results).make fun _ => rfl

theorem block (named : context.param ≠ "_") (scope : List String) : (block : Block) →
    Follows context (block.uses scope) id (block.withContext context (context.hides scope)) block.fill
  | ⟨list, comments, span⟩ => by
    rw [Block.uses, Block.withContext, Block.fill]
    exact (stmts named scope list).make fun _ => rfl

theorem optBlock (named : context.param ≠ "_") (scope : List String) : (block? : Option Block) →
    Follows context (usesOfBlock? scope block?) id (blockWithContext? context (context.hides scope) block?)
      (fillBlock? block?)
  | none => by
    rw [usesOfBlock?, blockWithContext?, fillBlock?]
    exact follows_pure _
  | some one => by
    rw [usesOfBlock?, blockWithContext?, fillBlock?]
    exact (block named scope one).make fun _ => rfl

theorem stmt (named : context.param ≠ "_") (scope : List String) : (stmt : Stmt) →
    Follows context (stmt.uses scope) (·, context.hides (stmt.binds ++ scope))
      (stmt.withContext context (context.hides scope)) stmt.fill
  | ⟨node, span⟩ => by
    rw [Stmt.uses, Stmt.binds, Stmt.withContext, Stmt.fill]
    exact (stmtNode named scope node).make fun _ => rfl

theorem stmtNode (named : context.param ≠ "_") (scope : List String) : (node : Stmt.Node) →
    Follows context (node.uses scope) (·, context.hides (node.binds ++ scope))
      (node.withContext context (context.hides scope)) node.fill
  | .expr one | .go one | .defer one | .incDec one _ => by
    rw [Stmt.Node.uses, Stmt.Node.withContext, Stmt.Node.fill]
    simp only [Stmt.Node.binds, List.nil_append]
    exact (expr named scope one).make fun _ => rfl
  | .assign list op values => by
    rw [Stmt.Node.uses, Stmt.Node.binds, Stmt.Node.withContext, Stmt.Node.fill]
    exact (exprs named scope values).bind fun _ => (targets named (op == .define) scope list).make fun _ => rfl
  | .send channel value => by
    rw [Stmt.Node.uses, Stmt.Node.withContext, Stmt.Node.fill]
    simp only [Stmt.Node.binds, List.nil_append]
    exact (expr named scope channel).bind fun _ => (expr named scope value).make fun _ => rfl
  | .decl one => by
    rw [Stmt.Node.uses, Stmt.Node.binds, Stmt.Node.withContext, Stmt.Node.fill]
    exact (decl named scope one).make fun _ => rfl
  | .ret results => by
    rw [Stmt.Node.uses, Stmt.Node.withContext, Stmt.Node.fill]
    simp only [Stmt.Node.binds, List.nil_append]
    exact (exprs named scope results).make fun _ => rfl
  | .block one => by
    rw [Stmt.Node.uses, Stmt.Node.withContext, Stmt.Node.fill]
    simp only [Stmt.Node.binds, List.nil_append]
    exact (block named scope one).make fun _ => rfl
  | .ifElse init? cond body else? => by
    rw [Stmt.Node.withContext, Stmt.Node.fill]
    simp only [Stmt.Node.uses, Stmt.Node.binds, List.nil_append, List.append_assoc]
    exact (optStmt named scope init?).bind fun _ => (expr named _ cond).bind fun _ =>
      (block named _ body).bind fun _ => (optStmt named _ else?).make fun _ => rfl
  | .forLoop init? cond? post? body => by
    rw [Stmt.Node.withContext, Stmt.Node.fill]
    simp only [Stmt.Node.uses, Stmt.Node.binds, List.nil_append, List.append_assoc]
    exact (optStmt named scope init?).bind fun _ => (optExpr named _ cond?).bind fun _ =>
      (optStmt named _ post?).bind fun _ => (block named _ body).make fun _ => rfl
  | .rangeLoop key? value? define one body => by
    rw [Stmt.Node.withContext, Stmt.Node.fill]
    simp only [Stmt.Node.uses, Stmt.Node.binds, List.nil_append, List.append_assoc]
    exact (expr named scope one).bind fun _ => (optTarget named define scope key?).bind fun _ =>
      (optTarget named define _ value?).bind fun _ => (block named _ body).make fun _ => rfl
  | .switch init? tag? clauses => by
    rw [Stmt.Node.withContext, Stmt.Node.fill]
    simp only [Stmt.Node.uses, Stmt.Node.binds, List.nil_append, List.append_assoc]
    exact (optStmt named scope init?).bind fun _ => (optExpr named _ tag?).bind fun _ =>
      (cases named _ [] clauses).make fun _ => rfl
  | .typeSwitch init? binding? one clauses => by
    rw [Stmt.Node.withContext, Stmt.Node.fill]
    simp only [Stmt.Node.uses, Stmt.Node.binds, List.nil_append, List.append_assoc]
    exact (optStmt named scope init?).bind fun _ => (expr named _ one).bind fun _ =>
      (cases named _ binding?.toList clauses).make fun _ => rfl
  | .select clauses => by
    rw [Stmt.Node.uses, Stmt.Node.withContext, Stmt.Node.fill]
    simp only [Stmt.Node.binds, List.nil_append]
    exact (comms named scope clauses).make fun _ => rfl
  | .labeled label one => by
    rw [Stmt.Node.uses, Stmt.Node.binds, Stmt.Node.withContext, Stmt.Node.fill]
    exact (stmt named scope one).make fun _ => rfl
  | .branch _ _ | .empty => by
    rw [Stmt.Node.uses, Stmt.Node.withContext, Stmt.Node.fill]
    simp only [Stmt.Node.binds, List.nil_append]
    exact follows_pure _

theorem optStmt (named : context.param ≠ "_") (scope : List String) : (stmt? : Option Stmt) →
    Follows context (usesOfStmt? scope stmt?) (·, context.hides (bindsOfStmt? stmt? ++ scope))
      (stmtWithContext? context (context.hides scope) stmt?) (fillStmt? stmt?)
  | none => by
    rw [usesOfStmt?, stmtWithContext?, fillStmt?]
    exact follows_pure _
  | some one => by
    rw [usesOfStmt?, stmtWithContext?, fillStmt?]
    exact (stmt named scope one).make fun _ => rfl

theorem stmts (named : context.param ≠ "_") (scope : List String) : (list : List Stmt) →
    Follows context (usesOfStmts scope list) id (stmtsWithContext context (context.hides scope) list)
      (fillStmts list)
  | [] => by
    rw [usesOfStmts, stmtsWithContext, fillStmts]
    exact follows_pure _
  | one :: list => by
    rw [usesOfStmts, stmtsWithContext, fillStmts]
    exact (stmt named scope one).bind fun _ => (stmts named _ list).make fun _ => rfl

theorem cases (named : context.param ≠ "_") (scope names : List String) : (clauses : List CaseClause) →
    Follows context (usesOfCases scope names clauses) id
      (casesWithContext context (context.hides scope) names clauses) (fillCases clauses)
  | [] => by
    rw [usesOfCases, casesWithContext, fillCases]
    exact follows_pure _
  | ⟨list, body⟩ :: clauses => by
    rw [usesOfCases, casesWithContext, fillCases, ContextUse.hiddenBy_eq, List.append_assoc]
    exact (exprs named scope list).bind fun _ => (block named _ body).bind fun _ =>
      (cases named scope names clauses).make fun _ => rfl

theorem comms (named : context.param ≠ "_") (scope : List String) : (clauses : List CommClause) →
    Follows context (usesOfComms scope clauses) id
      (commsWithContext context (context.hides scope) clauses) (fillComms clauses)
  | [] => by
    rw [usesOfComms, commsWithContext, fillComms]
    exact follows_pure _
  | ⟨comm?, body⟩ :: clauses => by
    rw [usesOfComms, commsWithContext, fillComms, List.append_assoc]
    exact (optStmt named scope comm?).bind fun _ => (block named _ body).bind fun _ =>
      (comms named scope clauses).make fun _ => rfl

theorem typeSpecs (named : context.param ≠ "_") (scope : List String) : (specs : List TypeSpec) →
    Follows context (usesOfTypeSpecs scope specs) (·, context.hides (specs.map (·.name) ++ scope))
      (typeSpecsWithContext context (context.hides scope) specs) (fillTypeSpecs specs)
  | [] => by
    rw [usesOfTypeSpecs, typeSpecsWithContext, fillTypeSpecs]
    exact follows_pure _
  | ⟨one, typeParams, isAlias, type, comment⟩ :: specs => by
    have names : (⟨one, typeParams, isAlias, type, comment⟩ :: specs : List TypeSpec).map (·.name) =
        [one] ++ specs.map (·.name) := rfl
    rw [usesOfTypeSpecs, typeSpecsWithContext, fillTypeSpecs, ContextUse.hiddenBy_eq, names, List.append_assoc,
      List.append_assoc, ← ContextUse.hides_swap]
    exact afterTypeParams (one :: scope) typeParams (((expr named (one :: scope) type).inType typeParams).bind fun _ =>
      (typeSpecs named (one :: scope) specs).make fun _ => rfl)

theorem valueSpecs (named : context.param ≠ "_") (scope : List String) : (specs : List ValueSpec) →
    Follows context (usesOfValueSpecs scope specs) (·, context.hides (specs.flatMap (·.names) ++ scope))
      (valueSpecsWithContext context (context.hides scope) specs) (fillValueSpecs specs)
  | [] => by
    rw [usesOfValueSpecs, valueSpecsWithContext, fillValueSpecs]
    exact follows_pure _
  | ⟨names, type?, values, comment⟩ :: specs => by
    rw [usesOfValueSpecs, valueSpecsWithContext, fillValueSpecs, ContextUse.hiddenBy_eq, List.flatMap_cons,
      List.append_assoc, List.append_assoc, ← ContextUse.hides_swap]
    exact (optExpr named scope type?).bind fun _ => (exprs named scope values).bind fun _ =>
      (valueSpecs named _ specs).make fun _ => rfl

theorem decl (named : context.param ≠ "_") (scope : List String) : (decl : Decl) →
    Follows context (decl.uses scope) (·, context.hides (decl.binds ++ scope))
      (decl.withContext context (context.hides scope)) decl.fill
  | .imports group => by
    rw [Decl.uses, Decl.withContext, Decl.fill]
    exact follows_pure _
  | .func ⟨receiver?, one, nameSpan, typeParams, type, body?⟩ => by
    rw [Decl.withContext, Decl.fill]
    simp only [Decl.uses, List.append_assoc]
    exact (optField named scope receiver?).bind fun _ => (fields named scope typeParams).bind fun _ =>
      (funcType named scope type).bind fun _ => (optBlock named scope body?).make fun _ => rfl
  | .types specs grouped => by
    rw [Decl.uses, Decl.withContext, Decl.fill]
    exact (typeSpecs named scope specs).make fun _ => rfl
  | .values kind specs grouped => by
    rw [Decl.uses, Decl.withContext, Decl.fill]
    exact (valueSpecs named scope specs).make fun _ => rfl

end

end Follows

namespace Block

variable {body : Block} {context : ContextUse}

theorem withUses_standIn (none : ∀ use ∈ body.uses [], ¬use.isReplaced context.param) :
    body.withUses ((body.uses []).map context.standIn) = body := by
  have same : (body.uses []).map context.standIn = (body.uses []).map Use.node := by
    apply List.map_congr_left
    intro use here
    rw [ContextUse.standIn, if_neg (none use here)]
  rw [same, withUses_self]

theorem replaceContext_eq (body : Block) (context : ContextUse) :
    body.replaceContext context =
      (body.withUses ((body.uses []).map context.standIn), (body.uses []).countP (·.isReplaced context.param)) := by
  unfold Block.replaceContext
  split
  · rename_i blank
    have none : ∀ use ∈ body.uses [], ¬use.isReplaced context.param := by
      intro use _
      simp [Use.isReplaced, Use.isFree, eq_of_beq blank]
    rw [withUses_standIn none, List.countP_eq_zero.mpr none]
  · rename_i other
    have named : context.param ≠ "_" := fun blank => other (beq_iff_eq.mpr blank)
    obtain ⟨result, fills, counted⟩ := Follows.block named [] body
    have run := counted 0
    rw [Nat.zero_add] at run
    rw [withUses_eq fills]
    exact run

end Block

namespace SourceFile

end SourceFile

end GoSpecs
