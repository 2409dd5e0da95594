import GoSpecs.Syntax.File

namespace GoSpecs

abbrev Counting := StateM Nat

variable (field? : Field → Option Field)

mutual

def Expr.retype : Expr → Counting Expr
  | ⟨node, span⟩ => return ⟨← node.retype, span⟩

def Expr.Node.retype : Expr.Node → Counting Expr.Node
  | .ident name => return .ident name
  | .literal text => return .literal text
  | .composite type? elements braces comments =>
    return .composite (← retypeExpr? type?) (← retypeExprs elements) braces comments
  | .funcLit type body => return .funcLit (← type.retype) (← body.retype)
  | .paren inner => return .paren (← inner.retype)
  | .selector base field => return .selector (← base.retype) field
  | .index base index => return .index (← base.retype) (← index.retype)
  | .indexList base indices => return .indexList (← base.retype) (← retypeExprs indices)
  | .slice base low? high? max? threeIndex =>
    return .slice (← base.retype) (← retypeExpr? low?) (← retypeExpr? high?) (← retypeExpr? max?) threeIndex
  | .typeAssert base type? => return .typeAssert (← base.retype) (← retypeExpr? type?)
  | .call func args ellipsis parens => return .call (← func.retype) (← retypeExprs args) ellipsis parens
  | .star inner => return .star (← inner.retype)
  | .unary op operand => return .unary op (← operand.retype)
  | .binary left op right => return .binary (← left.retype) op (← right.retype)
  | .keyValue key value => return .keyValue (← key.retype) (← value.retype)
  | .arrayType length? elem => return .arrayType (← retypeExpr? length?) (← elem.retype)
  | .ellipsis elem? => return .ellipsis (← retypeExpr? elem?)
  | .mapType key value => return .mapType (← key.retype) (← value.retype)
  | .chanType dir elem => return .chanType dir (← elem.retype)
  | .funcType type => return .funcType (← type.retype)
  | .structType fields braces => return .structType (← retypeFields fields) braces
  | .interfaceType methods braces => return .interfaceType (← retypeFields methods) braces

def retypeExpr? : Option Expr → Counting (Option Expr)
  | none => return none
  | some expr => return some (← expr.retype)

def retypeExprs : List Expr → Counting (List Expr)
  | [] => return []
  | expr :: exprs => return (← expr.retype) :: (← retypeExprs exprs)

def Field.retype : Field → Counting Field
  | ⟨names, type, tag?, comment⟩ =>
    match field? ⟨names, type, tag?, comment⟩ with
    | some field => do
      modify (· + 1)
      return field
    | none => return ⟨names, ← type.retype, tag?, comment⟩

def retypeField? : Option Field → Counting (Option Field)
  | none => return none
  | some field => return some (← field.retype)

def retypeFields : List Field → Counting (List Field)
  | [] => return []
  | field :: fields => return (← field.retype) :: (← retypeFields fields)

def FuncType.retype : FuncType → Counting FuncType
  | ⟨params, results⟩ => return ⟨← retypeFields params, ← retypeFields results⟩

def Block.retype : Block → Counting Block
  | ⟨stmts, comments, span⟩ => return ⟨← retypeStmts stmts, comments, span⟩

def retypeBlock? : Option Block → Counting (Option Block)
  | none => return none
  | some block => return some (← block.retype)

def Stmt.retype : Stmt → Counting Stmt
  | ⟨node, span⟩ => return ⟨← node.retype, span⟩

def Stmt.Node.retype : Stmt.Node → Counting Stmt.Node
  | .expr expr => return .expr (← expr.retype)
  | .assign targets op values => return .assign (← retypeExprs targets) op (← retypeExprs values)
  | .incDec expr inc => return .incDec (← expr.retype) inc
  | .send channel value => return .send (← channel.retype) (← value.retype)
  | .decl decl => return .decl (← decl.retype)
  | .go call => return .go (← call.retype)
  | .defer call => return .defer (← call.retype)
  | .ret results => return .ret (← retypeExprs results)
  | .branch kind label? => return .branch kind label?
  | .block block => return .block (← block.retype)
  | .ifElse init? cond body else? =>
    return .ifElse (← retypeStmt? init?) (← cond.retype) (← body.retype) (← retypeStmt? else?)
  | .forLoop init? cond? post? body =>
    return .forLoop (← retypeStmt? init?) (← retypeExpr? cond?) (← retypeStmt? post?) (← body.retype)
  | .rangeLoop key? value? define expr body =>
    return .rangeLoop (← retypeExpr? key?) (← retypeExpr? value?) define (← expr.retype) (← body.retype)
  | .switch init? tag? clauses =>
    return .switch (← retypeStmt? init?) (← retypeExpr? tag?) (← retypeCases clauses)
  | .typeSwitch init? binding? expr clauses =>
    return .typeSwitch (← retypeStmt? init?) binding? (← expr.retype) (← retypeCases clauses)
  | .select clauses => return .select (← retypeComms clauses)
  | .labeled label stmt => return .labeled label (← stmt.retype)
  | .empty => return .empty

def retypeStmt? : Option Stmt → Counting (Option Stmt)
  | none => return none
  | some stmt => return some (← stmt.retype)

def retypeStmts : List Stmt → Counting (List Stmt)
  | [] => return []
  | stmt :: stmts => return (← stmt.retype) :: (← retypeStmts stmts)

def retypeCases : List CaseClause → Counting (List CaseClause)
  | [] => return []
  | ⟨exprs, body⟩ :: clauses => return ⟨← retypeExprs exprs, ← body.retype⟩ :: (← retypeCases clauses)

def retypeComms : List CommClause → Counting (List CommClause)
  | [] => return []
  | ⟨comm?, body⟩ :: clauses => return ⟨← retypeStmt? comm?, ← body.retype⟩ :: (← retypeComms clauses)

def retypeTypeSpecs : List TypeSpec → Counting (List TypeSpec)
  | [] => return []
  | ⟨name, typeParams, isAlias, type, comment⟩ :: specs =>
    return ⟨name, ← retypeFields typeParams, isAlias, ← type.retype, comment⟩ :: (← retypeTypeSpecs specs)

def retypeValueSpecs : List ValueSpec → Counting (List ValueSpec)
  | [] => return []
  | ⟨names, type?, values, comment⟩ :: specs =>
    return ⟨names, ← retypeExpr? type?, ← retypeExprs values, comment⟩ :: (← retypeValueSpecs specs)

def Decl.retype : Decl → Counting Decl
  | .imports group => return .imports group
  | .func ⟨receiver?, name, nameSpan, typeParams, type, body?⟩ =>
    return .func ⟨← retypeField? receiver?, name, nameSpan, ← retypeFields typeParams, ← type.retype,
      ← retypeBlock? body?⟩
  | .types specs grouped => return .types (← retypeTypeSpecs specs) grouped
  | .values kind specs grouped => return .values kind (← retypeValueSpecs specs) grouped

end

def Item.retype (item : Item) : Counting Item :=
  return { item with decl := ← item.decl.retype field? }

/-- Puts `field?`'s field in the place of each one that it knows, and counts these. -/
def SourceFile.retype (file : SourceFile) : Counting SourceFile :=
  return { file with items := ← file.items.mapM (Item.retype field?) }

end GoSpecs
