import GoSpecs.Proofs.Syntax.Outline
import GoSpecs.Proofs.Syntax.Replace

namespace GoSpecs

/-- The rewrite does to the outlines of expressions and fields what the replacement does to these, and keeps every
other label. -/
structure Replacement.Rewrites (replacement : Replacement) (rewrite : Outline → Outline) : Prop where
  kept (label : Label) (parts : List Outline) (plain : label.isVisited = false) :
    rewrite (.node label parts) = .node label (parts.map rewrite)
  ofExpr (expr : Expr) : rewrite expr.outline =
    ((replacement.expr? expr).map Expr.outline).getD (.node (.expr expr.span) [rewrite expr.node.outline])
  ofField (field : Field) : rewrite field.outline =
    ((replacement.field? field).map Field.outline).getD
      (.node (.field field.names field.tag? field.comment) [rewrite field.type.outline])

namespace Replacement.Rewrites

variable {replacement : Replacement} {rewrite : Outline → Outline}

theorem node (rewrites : replacement.Rewrites rewrite) {label : Label} {parts after : List Outline}
    (plain : label.isVisited = false) (same : after = parts.map rewrite) :
    .node label after = rewrite (.node label parts) := by
  rw [rewrites.kept label parts plain, same]

theorem cons {part after : Outline} {parts others : List Outline} (first : after = rewrite part)
    (more : others = parts.map rewrite) : after :: others = (part :: parts).map rewrite := by
  rw [first, more, List.map_cons]

mutual

theorem expr (rewrites : replacement.Rewrites rewrite) : (expr : Expr) →
    (expr.replace replacement).outline = rewrite expr.outline
  | ⟨node, span⟩ => by
    rw [rewrites.ofExpr, Expr.replace]
    cases replacement.expr? ⟨node, span⟩ with
    | some other => rfl
    | none => simp [Expr.outline, exprNode rewrites node]

theorem exprNode (rewrites : replacement.Rewrites rewrite) : (node : Expr.Node) →
    (node.replace replacement).outline = rewrite node.outline
  | .ident _ | .literal _ => rewrites.node rfl rfl
  | .composite type? elements _ _ =>
    rewrites.node rfl (cons (optExpr rewrites type?) (cons (rewrites.node rfl (exprs rewrites elements)) rfl))
  | .funcLit type body => rewrites.node rfl (cons (funcType rewrites type) (cons (block rewrites body) rfl))
  | .paren inner | .star inner => rewrites.node rfl (cons (expr rewrites inner) rfl)
  | .selector base _ => rewrites.node rfl (cons (expr rewrites base) rfl)
  | .index base index => rewrites.node rfl (cons (expr rewrites base) (cons (expr rewrites index) rfl))
  | .indexList base indices =>
    rewrites.node rfl (cons (expr rewrites base) (cons (rewrites.node rfl (exprs rewrites indices)) rfl))
  | .slice base low? high? max? _ =>
    rewrites.node rfl (cons (expr rewrites base) (cons (optExpr rewrites low?) (cons (optExpr rewrites high?)
      (cons (optExpr rewrites max?) rfl))))
  | .typeAssert base type? => rewrites.node rfl (cons (expr rewrites base) (cons (optExpr rewrites type?) rfl))
  | .call func args _ _ =>
    rewrites.node rfl (cons (expr rewrites func) (cons (rewrites.node rfl (exprs rewrites args)) rfl))
  | .unary _ operand => rewrites.node rfl (cons (expr rewrites operand) rfl)
  | .binary left _ right => rewrites.node rfl (cons (expr rewrites left) (cons (expr rewrites right) rfl))
  | .keyValue key value | .mapType key value =>
    rewrites.node rfl (cons (expr rewrites key) (cons (expr rewrites value) rfl))
  | .arrayType length? elem => rewrites.node rfl (cons (optExpr rewrites length?) (cons (expr rewrites elem) rfl))
  | .ellipsis elem? => rewrites.node rfl (cons (optExpr rewrites elem?) rfl)
  | .chanType _ elem => rewrites.node rfl (cons (expr rewrites elem) rfl)
  | .funcType type => rewrites.node rfl (cons (funcType rewrites type) rfl)
  | .structType members _ => rewrites.node rfl (fields rewrites members)
  | .interfaceType methods _ => rewrites.node rfl (fields rewrites methods)

theorem optExpr (rewrites : replacement.Rewrites rewrite) : (node? : Option Expr) →
    outlineOfExpr? (replaceExpr? replacement node?) = rewrite (outlineOfExpr? node?)
  | none => rewrites.node rfl rfl
  | some one => expr rewrites one

theorem exprs (rewrites : replacement.Rewrites rewrite) : (list : List Expr) →
    outlinesOfExprs (replaceExprs replacement list) = (outlinesOfExprs list).map rewrite
  | [] => rfl
  | one :: list => cons (expr rewrites one) (exprs rewrites list)

theorem field (rewrites : replacement.Rewrites rewrite) : (field : Field) →
    (field.replace replacement).outline = rewrite field.outline
  | ⟨names, type, tag?, comment⟩ => by
    rw [rewrites.ofField, Field.replace]
    cases replacement.field? ⟨names, type, tag?, comment⟩ with
    | some other => rfl
    | none => simp [Field.outline, expr rewrites type]

theorem optField (rewrites : replacement.Rewrites rewrite) : (node? : Option Field) →
    outlineOfField? (replaceField? replacement node?) = rewrite (outlineOfField? node?)
  | none => rewrites.node rfl rfl
  | some one => field rewrites one

theorem fields (rewrites : replacement.Rewrites rewrite) : (list : List Field) →
    outlinesOfFields (replaceFields replacement list) = (outlinesOfFields list).map rewrite
  | [] => rfl
  | one :: list => cons (field rewrites one) (fields rewrites list)

theorem funcType (rewrites : replacement.Rewrites rewrite) : (type : FuncType) →
    (type.replace replacement).outline = rewrite type.outline
  | ⟨params, results⟩ =>
    rewrites.node rfl (cons (rewrites.node rfl (fields rewrites params))
      (cons (rewrites.node rfl (fields rewrites results)) rfl))

theorem block (rewrites : replacement.Rewrites rewrite) : (block : Block) →
    (block.replace replacement).outline = rewrite block.outline
  | ⟨list, _, _⟩ => rewrites.node rfl (stmts rewrites list)

theorem optBlock (rewrites : replacement.Rewrites rewrite) : (node? : Option Block) →
    outlineOfBlock? (replaceBlock? replacement node?) = rewrite (outlineOfBlock? node?)
  | none => rewrites.node rfl rfl
  | some one => block rewrites one

theorem stmt (rewrites : replacement.Rewrites rewrite) : (stmt : Stmt) →
    (stmt.replace replacement).outline = rewrite stmt.outline
  | ⟨node, _⟩ => rewrites.node rfl (cons (stmtNode rewrites node) rfl)

theorem stmtNode (rewrites : replacement.Rewrites rewrite) : (node : Stmt.Node) →
    (node.replace replacement).outline = rewrite node.outline
  | .expr inner | .incDec inner _ => rewrites.node rfl (cons (expr rewrites inner) rfl)
  | .assign targets _ values =>
    rewrites.node rfl (cons (rewrites.node rfl (exprs rewrites targets))
      (cons (rewrites.node rfl (exprs rewrites values)) rfl))
  | .send channel value => rewrites.node rfl (cons (expr rewrites channel) (cons (expr rewrites value) rfl))
  | .decl inner => rewrites.node rfl (cons (decl rewrites inner) rfl)
  | .go call | .defer call => rewrites.node rfl (cons (expr rewrites call) rfl)
  | .ret results => rewrites.node rfl (exprs rewrites results)
  | .branch _ _ | .empty => rewrites.node rfl rfl
  | .block inner => rewrites.node rfl (cons (block rewrites inner) rfl)
  | .ifElse init? cond body else? =>
    rewrites.node rfl (cons (optStmt rewrites init?) (cons (expr rewrites cond) (cons (block rewrites body)
      (cons (optStmt rewrites else?) rfl))))
  | .forLoop init? cond? post? body =>
    rewrites.node rfl (cons (optStmt rewrites init?) (cons (optExpr rewrites cond?) (cons (optStmt rewrites post?)
      (cons (block rewrites body) rfl))))
  | .rangeLoop key? value? _ inner body =>
    rewrites.node rfl (cons (optExpr rewrites key?) (cons (optExpr rewrites value?) (cons (expr rewrites inner)
      (cons (block rewrites body) rfl))))
  | .switch init? tag? clauses =>
    rewrites.node rfl (cons (optStmt rewrites init?) (cons (optExpr rewrites tag?)
      (cons (rewrites.node rfl (cases rewrites clauses)) rfl)))
  | .typeSwitch init? _ inner clauses =>
    rewrites.node rfl (cons (optStmt rewrites init?) (cons (expr rewrites inner)
      (cons (rewrites.node rfl (cases rewrites clauses)) rfl)))
  | .select clauses => rewrites.node rfl (comms rewrites clauses)
  | .labeled _ inner => rewrites.node rfl (cons (stmt rewrites inner) rfl)

theorem optStmt (rewrites : replacement.Rewrites rewrite) : (node? : Option Stmt) →
    outlineOfStmt? (replaceStmt? replacement node?) = rewrite (outlineOfStmt? node?)
  | none => rewrites.node rfl rfl
  | some one => stmt rewrites one

theorem stmts (rewrites : replacement.Rewrites rewrite) : (list : List Stmt) →
    outlinesOfStmts (replaceStmts replacement list) = (outlinesOfStmts list).map rewrite
  | [] => rfl
  | one :: list => cons (stmt rewrites one) (stmts rewrites list)

theorem cases (rewrites : replacement.Rewrites rewrite) : (list : List CaseClause) →
    outlinesOfCases (replaceCases replacement list) = (outlinesOfCases list).map rewrite
  | [] => rfl
  | ⟨values, body⟩ :: list =>
    cons (rewrites.node rfl (cons (rewrites.node rfl (exprs rewrites values)) (cons (block rewrites body) rfl)))
      (cases rewrites list)

theorem comms (rewrites : replacement.Rewrites rewrite) : (list : List CommClause) →
    outlinesOfComms (replaceComms replacement list) = (outlinesOfComms list).map rewrite
  | [] => rfl
  | ⟨comm?, body⟩ :: list =>
    cons (rewrites.node rfl (cons (optStmt rewrites comm?) (cons (block rewrites body) rfl))) (comms rewrites list)

theorem typeSpecs (rewrites : replacement.Rewrites rewrite) : (list : List TypeSpec) →
    outlinesOfTypeSpecs (replaceTypeSpecs replacement list) = (outlinesOfTypeSpecs list).map rewrite
  | [] => rfl
  | ⟨_, typeParams, _, type, _⟩ :: list =>
    cons (rewrites.node rfl (cons (rewrites.node rfl (fields rewrites typeParams)) (cons (expr rewrites type) rfl)))
      (typeSpecs rewrites list)

theorem valueSpecs (rewrites : replacement.Rewrites rewrite) : (list : List ValueSpec) →
    outlinesOfValueSpecs (replaceValueSpecs replacement list) = (outlinesOfValueSpecs list).map rewrite
  | [] => rfl
  | ⟨_, type?, values, _⟩ :: list =>
    cons (rewrites.node rfl (cons (optExpr rewrites type?) (cons (rewrites.node rfl (exprs rewrites values)) rfl)))
      (valueSpecs rewrites list)

theorem decl (rewrites : replacement.Rewrites rewrite) : (decl : Decl) →
    (decl.replace replacement).outline = rewrite decl.outline
  | .imports _ => rewrites.node rfl rfl
  | .func ⟨receiver?, _, _, typeParams, type, body?⟩ =>
    rewrites.node rfl (cons (optField rewrites receiver?) (cons (rewrites.node rfl (fields rewrites typeParams))
      (cons (funcType rewrites type) (cons (optBlock rewrites body?) rfl))))
  | .types specs _ => rewrites.node rfl (typeSpecs rewrites specs)
  | .values _ specs _ => rewrites.node rfl (valueSpecs rewrites specs)

end

theorem outline_replace (rewrites : replacement.Rewrites rewrite) (file : SourceFile) :
    (file.replace replacement).outline = rewrite file.outline := by
  refine rewrites.node rfl ?_
  simp only [SourceFile.replace, List.map_map]
  refine List.map_congr_left fun item _ => rewrites.node rfl ?_
  rw [rewrites.decl]
  rfl

end Replacement.Rewrites

end GoSpecs
