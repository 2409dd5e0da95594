import GoSpecs.Syntax.File

namespace GoSpecs

structure Replacement where
  expr? : Expr → Option Expr
  field? : Field → Option Field

def Replacement.ofFields (field? : Field → Option Field) : Replacement where
  expr? := fun _ => none
  field? := field?

section

variable (replacement : Replacement)

mutual

def Expr.replace : Expr → Expr
  | ⟨node, span⟩ =>
    match replacement.expr? ⟨node, span⟩ with
    | some expr => expr
    | none => ⟨node.replace, span⟩

def Expr.Node.replace : Expr.Node → Expr.Node
  | .ident name => .ident name
  | .literal text => .literal text
  | .composite type? elements braces comments =>
    .composite (replaceExpr? type?) (replaceExprs elements) braces comments
  | .funcLit type body => .funcLit type.replace body.replace
  | .paren inner => .paren inner.replace
  | .selector base field => .selector base.replace field
  | .index base index => .index base.replace index.replace
  | .indexList base indices => .indexList base.replace (replaceExprs indices)
  | .slice base low? high? max? threeIndex =>
    .slice base.replace (replaceExpr? low?) (replaceExpr? high?) (replaceExpr? max?) threeIndex
  | .typeAssert base type? => .typeAssert base.replace (replaceExpr? type?)
  | .call func args ellipsis parens => .call func.replace (replaceExprs args) ellipsis parens
  | .star inner => .star inner.replace
  | .unary op operand => .unary op operand.replace
  | .binary left op right => .binary left.replace op right.replace
  | .keyValue key value => .keyValue key.replace value.replace
  | .arrayType length? elem => .arrayType (replaceExpr? length?) elem.replace
  | .ellipsis elem? => .ellipsis (replaceExpr? elem?)
  | .mapType key value => .mapType key.replace value.replace
  | .chanType dir elem => .chanType dir elem.replace
  | .funcType type => .funcType type.replace
  | .structType fields braces => .structType (replaceFields fields) braces
  | .interfaceType methods braces => .interfaceType (replaceFields methods) braces

def replaceExpr? : Option Expr → Option Expr
  | none => none
  | some expr => some expr.replace

def replaceExprs : List Expr → List Expr
  | [] => []
  | expr :: exprs => expr.replace :: replaceExprs exprs

def Field.replace : Field → Field
  | ⟨names, type, tag?, comment⟩ =>
    match replacement.field? ⟨names, type, tag?, comment⟩ with
    | some field => field
    | none => ⟨names, type.replace, tag?, comment⟩

def replaceField? : Option Field → Option Field
  | none => none
  | some field => some field.replace

def replaceFields : List Field → List Field
  | [] => []
  | field :: fields => field.replace :: replaceFields fields

def FuncType.replace : FuncType → FuncType
  | ⟨params, results⟩ => ⟨replaceFields params, replaceFields results⟩

def Block.replace : Block → Block
  | ⟨stmts, comments, span⟩ => ⟨replaceStmts stmts, comments, span⟩

def replaceBlock? : Option Block → Option Block
  | none => none
  | some block => some block.replace

def Stmt.replace : Stmt → Stmt
  | ⟨node, span⟩ => ⟨node.replace, span⟩

def Stmt.Node.replace : Stmt.Node → Stmt.Node
  | .expr expr => .expr expr.replace
  | .assign targets op values => .assign (replaceExprs targets) op (replaceExprs values)
  | .incDec expr inc => .incDec expr.replace inc
  | .send channel value => .send channel.replace value.replace
  | .decl decl => .decl decl.replace
  | .go call => .go call.replace
  | .defer call => .defer call.replace
  | .ret results => .ret (replaceExprs results)
  | .branch kind label? => .branch kind label?
  | .block block => .block block.replace
  | .ifElse init? cond body else? =>
    .ifElse (replaceStmt? init?) cond.replace body.replace (replaceStmt? else?)
  | .forLoop init? cond? post? body =>
    .forLoop (replaceStmt? init?) (replaceExpr? cond?) (replaceStmt? post?) body.replace
  | .rangeLoop key? value? define expr body =>
    .rangeLoop (replaceExpr? key?) (replaceExpr? value?) define expr.replace body.replace
  | .switch init? tag? clauses =>
    .switch (replaceStmt? init?) (replaceExpr? tag?) (replaceCases clauses)
  | .typeSwitch init? binding? expr clauses =>
    .typeSwitch (replaceStmt? init?) binding? expr.replace (replaceCases clauses)
  | .select clauses => .select (replaceComms clauses)
  | .labeled label stmt => .labeled label stmt.replace
  | .empty => .empty

def replaceStmt? : Option Stmt → Option Stmt
  | none => none
  | some stmt => some stmt.replace

def replaceStmts : List Stmt → List Stmt
  | [] => []
  | stmt :: stmts => stmt.replace :: replaceStmts stmts

def replaceCases : List CaseClause → List CaseClause
  | [] => []
  | ⟨exprs, body⟩ :: clauses => ⟨replaceExprs exprs, body.replace⟩ :: replaceCases clauses

def replaceComms : List CommClause → List CommClause
  | [] => []
  | ⟨comm?, body⟩ :: clauses => ⟨replaceStmt? comm?, body.replace⟩ :: replaceComms clauses

def replaceTypeSpecs : List TypeSpec → List TypeSpec
  | [] => []
  | ⟨name, typeParams, isAlias, type, comment⟩ :: specs =>
    ⟨name, replaceFields typeParams, isAlias, type.replace, comment⟩ :: replaceTypeSpecs specs

def replaceValueSpecs : List ValueSpec → List ValueSpec
  | [] => []
  | ⟨names, type?, values, comment⟩ :: specs =>
    ⟨names, replaceExpr? type?, replaceExprs values, comment⟩ :: replaceValueSpecs specs

def Decl.replace : Decl → Decl
  | .imports group => .imports group
  | .func ⟨receiver?, name, nameSpan, typeParams, type, body?⟩ =>
    .func ⟨replaceField? receiver?, name, nameSpan, replaceFields typeParams, type.replace,
      replaceBlock? body?⟩
  | .types specs grouped => .types (replaceTypeSpecs specs) grouped
  | .values kind specs grouped => .values kind (replaceValueSpecs specs) grouped

end

def SourceFile.replace (file : SourceFile) : SourceFile :=
  { file with
    items := file.items.map fun item => { item with decl := item.decl.replace replacement } }

end

theorem Expr.replace_ofFields (field? : Field → Option Field) (node : Expr.Node) (span : Span) :
    Expr.replace (.ofFields field?) ⟨node, span⟩ = ⟨node.replace (.ofFields field?), span⟩ := by
  simp [Expr.replace, Replacement.ofFields]

theorem Field.replace_of_some {field? : Field → Option Field} {field field' : Field}
    (h : field? field = some field') : field.replace (.ofFields field?) = field' := by
  obtain ⟨names, type, tag?, comment⟩ := field
  simp [Field.replace, Replacement.ofFields, h]

theorem Field.replace_of_none {field? : Field → Option Field} {names : List String} {type : Expr}
    {tag? : Option String} {comment : Option Comment} (h : field? ⟨names, type, tag?, comment⟩ = none) :
    Field.replace (.ofFields field?) ⟨names, type, tag?, comment⟩ =
      ⟨names, type.replace (.ofFields field?), tag?, comment⟩ := by
  have none : (Replacement.ofFields field?).field? ⟨names, type, tag?, comment⟩ = none := h
  rw [Field.replace, none]

end GoSpecs
