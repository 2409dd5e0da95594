import GoSpecs.Proofs.Syntax.Twins

namespace GoSpecs

variable (place : Span → Span)

def Comment.relocate (comment : Comment) : Comment :=
  { comment with span := place comment.span }

def AnchoredComment.relocate (anchored : AnchoredComment) : AnchoredComment :=
  { anchored with comment := anchored.comment.relocate place }

def ElementComment.relocate (element : ElementComment) : ElementComment :=
  { element with comment := element.comment.relocate place }

def ImportSpec.relocate (spec : ImportSpec) : ImportSpec :=
  { spec with comment := spec.comment.map (·.relocate place) }

def ImportGroup.relocate (group : ImportGroup) : ImportGroup :=
  { group with specs := group.specs.map (·.relocate place) }

mutual

@[simp] def Expr.relocate : Expr → Expr
  | ⟨node, span⟩ => ⟨node.relocate, place span⟩

@[simp] def Expr.Node.relocate : Expr.Node → Expr.Node
  | .ident name => .ident name
  | .literal text => .literal text
  | .composite type? elements braces comments =>
    .composite (relocateExpr? type?) (relocateExprs elements) (place braces) (comments.map (·.relocate place))
  | .funcLit type body => .funcLit type.relocate body.relocate
  | .paren inner => .paren inner.relocate
  | .selector base field => .selector base.relocate field
  | .index base index => .index base.relocate index.relocate
  | .indexList base indices => .indexList base.relocate (relocateExprs indices)
  | .slice base low? high? max? threeIndex =>
    .slice base.relocate (relocateExpr? low?) (relocateExpr? high?) (relocateExpr? max?) threeIndex
  | .typeAssert base type? => .typeAssert base.relocate (relocateExpr? type?)
  | .call func args ellipsis parens => .call func.relocate (relocateExprs args) ellipsis (place parens)
  | .star inner => .star inner.relocate
  | .unary op operand => .unary op operand.relocate
  | .binary left op right => .binary left.relocate op right.relocate
  | .keyValue key value => .keyValue key.relocate value.relocate
  | .arrayType length? elem => .arrayType (relocateExpr? length?) elem.relocate
  | .ellipsis elem? => .ellipsis (relocateExpr? elem?)
  | .mapType key value => .mapType key.relocate value.relocate
  | .chanType dir elem => .chanType dir elem.relocate
  | .funcType type => .funcType type.relocate
  | .structType fields braces => .structType (relocateFields fields) (place braces)
  | .interfaceType methods braces => .interfaceType (relocateFields methods) (place braces)

@[simp] def relocateExpr? : Option Expr → Option Expr
  | none => none
  | some expr => some expr.relocate

@[simp] def relocateExprs : List Expr → List Expr
  | [] => []
  | expr :: exprs => expr.relocate :: relocateExprs exprs

@[simp] def Field.relocate : Field → Field
  | ⟨names, type, tag?, comment⟩ => ⟨names, type.relocate, tag?, comment.map (·.relocate place)⟩

@[simp] def relocateField? : Option Field → Option Field
  | none => none
  | some field => some field.relocate

@[simp] def relocateFields : List Field → List Field
  | [] => []
  | field :: fields => field.relocate :: relocateFields fields

@[simp] def FuncType.relocate : FuncType → FuncType
  | ⟨params, results⟩ => ⟨relocateFields params, relocateFields results⟩

@[simp] def Block.relocate : Block → Block
  | ⟨stmts, comments, span⟩ => ⟨relocateStmts stmts, comments.map (·.relocate place), place span⟩

@[simp] def relocateBlock? : Option Block → Option Block
  | none => none
  | some block => some block.relocate

@[simp] def Stmt.relocate : Stmt → Stmt
  | ⟨node, span⟩ => ⟨node.relocate, place span⟩

@[simp] def Stmt.Node.relocate : Stmt.Node → Stmt.Node
  | .expr expr => .expr expr.relocate
  | .assign targets op values => .assign (relocateExprs targets) op (relocateExprs values)
  | .incDec expr inc => .incDec expr.relocate inc
  | .send channel value => .send channel.relocate value.relocate
  | .decl decl => .decl decl.relocate
  | .go call => .go call.relocate
  | .defer call => .defer call.relocate
  | .ret results => .ret (relocateExprs results)
  | .branch kind label? => .branch kind label?
  | .block block => .block block.relocate
  | .ifElse init? cond body else? =>
    .ifElse (relocateStmt? init?) cond.relocate body.relocate (relocateStmt? else?)
  | .forLoop init? cond? post? body =>
    .forLoop (relocateStmt? init?) (relocateExpr? cond?) (relocateStmt? post?) body.relocate
  | .rangeLoop key? value? define expr body =>
    .rangeLoop (relocateExpr? key?) (relocateExpr? value?) define expr.relocate body.relocate
  | .switch init? tag? clauses => .switch (relocateStmt? init?) (relocateExpr? tag?) (relocateCases clauses)
  | .typeSwitch init? binding? expr clauses =>
    .typeSwitch (relocateStmt? init?) binding? expr.relocate (relocateCases clauses)
  | .select clauses => .select (relocateComms clauses)
  | .labeled label stmt => .labeled label stmt.relocate
  | .empty => .empty

@[simp] def relocateStmt? : Option Stmt → Option Stmt
  | none => none
  | some stmt => some stmt.relocate

@[simp] def relocateStmts : List Stmt → List Stmt
  | [] => []
  | stmt :: stmts => stmt.relocate :: relocateStmts stmts

@[simp] def CaseClause.relocate : CaseClause → CaseClause
  | ⟨exprs, body⟩ => ⟨relocateExprs exprs, body.relocate⟩

@[simp] def relocateCases : List CaseClause → List CaseClause
  | [] => []
  | clause :: clauses => clause.relocate :: relocateCases clauses

@[simp] def CommClause.relocate : CommClause → CommClause
  | ⟨comm?, body⟩ => ⟨relocateStmt? comm?, body.relocate⟩

@[simp] def relocateComms : List CommClause → List CommClause
  | [] => []
  | clause :: clauses => clause.relocate :: relocateComms clauses

@[simp] def TypeSpec.relocate : TypeSpec → TypeSpec
  | ⟨name, typeParams, isAlias, type, comment⟩ =>
    ⟨name, relocateFields typeParams, isAlias, type.relocate, comment.map (·.relocate place)⟩

@[simp] def relocateTypeSpecs : List TypeSpec → List TypeSpec
  | [] => []
  | spec :: specs => spec.relocate :: relocateTypeSpecs specs

@[simp] def ValueSpec.relocate : ValueSpec → ValueSpec
  | ⟨names, type?, values, comment⟩ =>
    ⟨names, relocateExpr? type?, relocateExprs values, comment.map (·.relocate place)⟩

@[simp] def relocateValueSpecs : List ValueSpec → List ValueSpec
  | [] => []
  | spec :: specs => spec.relocate :: relocateValueSpecs specs

@[simp] def Decl.relocate : Decl → Decl
  | .imports group => .imports (group.relocate place)
  | .func ⟨receiver?, name, nameSpan, typeParams, type, body?⟩ =>
    .func ⟨relocateField? receiver?, name, place nameSpan, relocateFields typeParams, type.relocate,
      relocateBlock? body?⟩
  | .types specs grouped => .types (relocateTypeSpecs specs) grouped
  | .values kind specs grouped => .values kind (relocateValueSpecs specs) grouped

end

@[simp] theorem relocateExpr?_eq_map (expr? : Option Expr) :
    relocateExpr? place expr? = expr?.map (·.relocate place) := by
  cases expr? <;> simp

@[simp] theorem relocateField?_eq_map (field? : Option Field) :
    relocateField? place field? = field?.map (·.relocate place) := by
  cases field? <;> simp

@[simp] theorem relocateBlock?_eq_map (block? : Option Block) :
    relocateBlock? place block? = block?.map (·.relocate place) := by
  cases block? <;> simp

@[simp] theorem relocateStmt?_eq_map (stmt? : Option Stmt) :
    relocateStmt? place stmt? = stmt?.map (·.relocate place) := by
  cases stmt? <;> simp

@[simp] theorem relocateExprs_eq_map (exprs : List Expr) :
    relocateExprs place exprs = exprs.map (·.relocate place) := by
  induction exprs with
  | nil => simp
  | cons _ _ ih => simp [ih]

@[simp] theorem relocateFields_eq_map (fields : List Field) :
    relocateFields place fields = fields.map (·.relocate place) := by
  induction fields with
  | nil => simp
  | cons _ _ ih => simp [ih]

@[simp] theorem relocateStmts_eq_map (stmts : List Stmt) :
    relocateStmts place stmts = stmts.map (·.relocate place) := by
  induction stmts with
  | nil => simp
  | cons _ _ ih => simp [ih]

@[simp] theorem relocateCases_eq_map (clauses : List CaseClause) :
    relocateCases place clauses = clauses.map (·.relocate place) := by
  induction clauses with
  | nil => simp
  | cons _ _ ih => simp [ih]

@[simp] theorem relocateComms_eq_map (clauses : List CommClause) :
    relocateComms place clauses = clauses.map (·.relocate place) := by
  induction clauses with
  | nil => simp
  | cons _ _ ih => simp [ih]

@[simp] theorem relocateTypeSpecs_eq_map (specs : List TypeSpec) :
    relocateTypeSpecs place specs = specs.map (·.relocate place) := by
  induction specs with
  | nil => simp
  | cons _ _ ih => simp [ih]

@[simp] theorem relocateValueSpecs_eq_map (specs : List ValueSpec) :
    relocateValueSpecs place specs = specs.map (·.relocate place) := by
  induction specs with
  | nil => simp
  | cons _ _ ih => simp [ih]

@[simp] def Item.relocate (item : Item) : Item :=
  ⟨item.decl.relocate place, item.doc.map (·.relocate place), item.comment.map (·.relocate place), place item.span⟩

def SourceFile.relocate (file : SourceFile) (lines : Lines) : SourceFile :=
  ⟨file.header.map (·.relocate place), file.package, place file.packageSpan, file.items.map (·.relocate place),
    file.trailing.map (·.relocate place), lines⟩

theorem Expr.isTypeName_relocate (expr : Expr) : (expr.relocate place).isTypeName = expr.isTypeName := by
  fun_induction Expr.isTypeName expr with
  | case1 => simp [isTypeName]
  | case2 => simp [isTypeName]
  | case3 _ _ _ ih => simp [isTypeName, ih]
  | case4 _ _ _ ih => simp [isTypeName, ih]
  | case5 expr ident selector index indexList =>
    obtain ⟨node, span⟩ := expr
    cases node with
    | selector base field =>
      obtain ⟨base, inner⟩ := base
      cases base with
      | ident name => exact absurd rfl (selector name inner field span)
      | _ => simp [isTypeName]
    | ident name => exact absurd rfl (ident name span)
    | index base inner => exact absurd rfl (index base inner span)
    | indexList base inner => exact absurd rfl (indexList base inner span)
    | _ => simp [isTypeName]

theorem Expr.isLiteralType_relocate (expr : Expr) : (expr.relocate place).isLiteralType = expr.isLiteralType := by
  obtain ⟨node, span⟩ := expr
  have name := isTypeName_relocate place ⟨node, span⟩
  cases node with
  | arrayType _ _ => simp [isLiteralType]
  | mapType _ _ => simp [isLiteralType]
  | structType _ _ => simp [isLiteralType]
  | _ => exact name

theorem guarded?_relocate (expr : Expr) :
    Rules.guarded? (expr.relocate place) = (Rules.guarded? expr).map (·.relocate place) := by
  obtain ⟨node, span⟩ := expr
  cases node with
  | typeAssert base type? => cases type? <;> simp [Rules.guarded?]
  | _ => simp [Rules.guarded?]

end GoSpecs
