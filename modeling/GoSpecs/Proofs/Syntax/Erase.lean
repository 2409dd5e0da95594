import GoSpecs.Syntax.File

namespace GoSpecs

@[simp] def ImportSpec.erase (spec : ImportSpec) : ImportSpec :=
  { spec with comment := none }

@[simp] def ImportGroup.erase (group : ImportGroup) : ImportGroup :=
  { group with specs := group.specs.map ImportSpec.erase }

mutual

@[simp] def Expr.erase : Expr → Expr
  | ⟨node, _⟩ => ⟨node.erase, .detached⟩

@[simp] def Expr.Node.erase : Expr.Node → Expr.Node
  | .ident name => .ident name
  | .literal text => .literal text
  | .composite type? elements _ _ => .composite (eraseExpr? type?) (eraseExprs elements) .detached []
  | .funcLit type body => .funcLit type.erase body.erase
  | .paren inner => .paren inner.erase
  | .selector base field => .selector base.erase field
  | .index base index => .index base.erase index.erase
  | .indexList base indices => .indexList base.erase (eraseExprs indices)
  | .slice base low? high? max? threeIndex =>
    .slice base.erase (eraseExpr? low?) (eraseExpr? high?) (eraseExpr? max?) threeIndex
  | .typeAssert base type? => .typeAssert base.erase (eraseExpr? type?)
  | .call func args ellipsis _ => .call func.erase (eraseExprs args) ellipsis .detached
  | .star inner => .star inner.erase
  | .unary op operand => .unary op operand.erase
  | .binary left op right => .binary left.erase op right.erase
  | .keyValue key value => .keyValue key.erase value.erase
  | .arrayType length? elem => .arrayType (eraseExpr? length?) elem.erase
  | .ellipsis elem? => .ellipsis (eraseExpr? elem?)
  | .mapType key value => .mapType key.erase value.erase
  | .chanType dir elem => .chanType dir elem.erase
  | .funcType type => .funcType type.erase
  | .structType fields _ => .structType (eraseFields fields) .detached
  | .interfaceType methods _ => .interfaceType (eraseFields methods) .detached

@[simp] def eraseExpr? : Option Expr → Option Expr
  | none => none
  | some expr => some expr.erase

@[simp] def eraseExprs : List Expr → List Expr
  | [] => []
  | expr :: exprs => expr.erase :: eraseExprs exprs

@[simp] def Field.erase : Field → Field
  | ⟨names, type, tag?, _⟩ => ⟨names, type.erase, tag?, none⟩

@[simp] def eraseField? : Option Field → Option Field
  | none => none
  | some field => some field.erase

@[simp] def eraseFields : List Field → List Field
  | [] => []
  | field :: fields => field.erase :: eraseFields fields

@[simp] def FuncType.erase : FuncType → FuncType
  | ⟨params, results⟩ => ⟨eraseFields params, eraseFields results⟩

@[simp] def Block.erase : Block → Block
  | ⟨stmts, _, _⟩ => ⟨eraseStmts stmts, [], .detached⟩

@[simp] def eraseBlock? : Option Block → Option Block
  | none => none
  | some block => some block.erase

@[simp] def Stmt.erase : Stmt → Stmt
  | ⟨node, _⟩ => ⟨node.erase, .detached⟩

@[simp] def Stmt.Node.erase : Stmt.Node → Stmt.Node
  | .expr expr => .expr expr.erase
  | .assign targets op values => .assign (eraseExprs targets) op (eraseExprs values)
  | .incDec expr inc => .incDec expr.erase inc
  | .send channel value => .send channel.erase value.erase
  | .decl decl => .decl decl.erase
  | .go call => .go call.erase
  | .defer call => .defer call.erase
  | .ret results => .ret (eraseExprs results)
  | .branch kind label? => .branch kind label?
  | .block block => .block block.erase
  | .ifElse init? cond body else? => .ifElse (eraseStmt? init?) cond.erase body.erase (eraseStmt? else?)
  | .forLoop init? cond? post? body =>
    .forLoop (eraseStmt? init?) (eraseExpr? cond?) (eraseStmt? post?) body.erase
  | .rangeLoop key? value? define expr body =>
    .rangeLoop (eraseExpr? key?) (eraseExpr? value?) define expr.erase body.erase
  | .switch init? tag? clauses => .switch (eraseStmt? init?) (eraseExpr? tag?) (eraseCases clauses)
  | .typeSwitch init? binding? expr clauses =>
    .typeSwitch (eraseStmt? init?) binding? expr.erase (eraseCases clauses)
  | .select clauses => .select (eraseComms clauses)
  | .labeled label stmt => .labeled label stmt.erase
  | .empty => .empty

@[simp] def eraseStmt? : Option Stmt → Option Stmt
  | none => none
  | some stmt => some stmt.erase

@[simp] def eraseStmts : List Stmt → List Stmt
  | [] => []
  | stmt :: stmts => stmt.erase :: eraseStmts stmts

@[simp] def CaseClause.erase : CaseClause → CaseClause
  | ⟨exprs, body⟩ => ⟨eraseExprs exprs, body.erase⟩

@[simp] def eraseCases : List CaseClause → List CaseClause
  | [] => []
  | clause :: clauses => clause.erase :: eraseCases clauses

@[simp] def CommClause.erase : CommClause → CommClause
  | ⟨comm?, body⟩ => ⟨eraseStmt? comm?, body.erase⟩

@[simp] def eraseComms : List CommClause → List CommClause
  | [] => []
  | clause :: clauses => clause.erase :: eraseComms clauses

@[simp] def TypeSpec.erase : TypeSpec → TypeSpec
  | ⟨name, typeParams, isAlias, type, _⟩ => ⟨name, eraseFields typeParams, isAlias, type.erase, none⟩

@[simp] def eraseTypeSpecs : List TypeSpec → List TypeSpec
  | [] => []
  | spec :: specs => spec.erase :: eraseTypeSpecs specs

@[simp] def ValueSpec.erase : ValueSpec → ValueSpec
  | ⟨names, type?, values, _⟩ => ⟨names, eraseExpr? type?, eraseExprs values, none⟩

@[simp] def eraseValueSpecs : List ValueSpec → List ValueSpec
  | [] => []
  | spec :: specs => spec.erase :: eraseValueSpecs specs

@[simp] def Decl.erase : Decl → Decl
  | .imports group => .imports group.erase
  | .func ⟨receiver?, name, _, typeParams, type, body?⟩ =>
    .func ⟨eraseField? receiver?, name, .detached, eraseFields typeParams, type.erase, eraseBlock? body?⟩
  | .types specs grouped => .types (eraseTypeSpecs specs) grouped
  | .values kind specs grouped => .values kind (eraseValueSpecs specs) grouped

end

@[simp] theorem eraseExpr?_eq_map (expr? : Option Expr) : eraseExpr? expr? = expr?.map Expr.erase := by
  cases expr? <;> simp

@[simp] theorem eraseField?_eq_map (field? : Option Field) : eraseField? field? = field?.map Field.erase := by
  cases field? <;> simp

@[simp] theorem eraseBlock?_eq_map (block? : Option Block) : eraseBlock? block? = block?.map Block.erase := by
  cases block? <;> simp

@[simp] theorem eraseStmt?_eq_map (stmt? : Option Stmt) : eraseStmt? stmt? = stmt?.map Stmt.erase := by
  cases stmt? <;> simp

@[simp] theorem eraseExprs_eq_map (exprs : List Expr) : eraseExprs exprs = exprs.map Expr.erase := by
  induction exprs with
  | nil => simp
  | cons _ _ ih => simp [ih]

@[simp] theorem eraseFields_eq_map (fields : List Field) : eraseFields fields = fields.map Field.erase := by
  induction fields with
  | nil => simp
  | cons _ _ ih => simp [ih]

@[simp] theorem eraseStmts_eq_map (stmts : List Stmt) : eraseStmts stmts = stmts.map Stmt.erase := by
  induction stmts with
  | nil => simp
  | cons _ _ ih => simp [ih]

@[simp] theorem eraseCases_eq_map (clauses : List CaseClause) : eraseCases clauses = clauses.map CaseClause.erase := by
  induction clauses with
  | nil => simp
  | cons _ _ ih => simp [ih]

@[simp] theorem eraseComms_eq_map (clauses : List CommClause) : eraseComms clauses = clauses.map CommClause.erase := by
  induction clauses with
  | nil => simp
  | cons _ _ ih => simp [ih]

@[simp] theorem eraseTypeSpecs_eq_map (specs : List TypeSpec) : eraseTypeSpecs specs = specs.map TypeSpec.erase := by
  induction specs with
  | nil => simp
  | cons _ _ ih => simp [ih]

@[simp] theorem eraseValueSpecs_eq_map (specs : List ValueSpec) : eraseValueSpecs specs = specs.map ValueSpec.erase := by
  induction specs with
  | nil => simp
  | cons _ _ ih => simp [ih]

@[simp] def Item.erase (item : Item) : Item :=
  ⟨item.decl.erase, [], none, .detached⟩

def SourceFile.erase (file : SourceFile) : SourceFile :=
  ⟨[], file.package, .detached, file.items.map Item.erase, [], .unknown⟩

end GoSpecs
