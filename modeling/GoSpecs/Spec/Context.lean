import GoSpecs.Syntax.Retype

namespace GoSpecs

/-- A parameter that goes away, and what is written in its place. -/
structure ContextUse where
  param : String
  replacement : Expr.Node

namespace ContextUse

def hiddenBy (use : ContextUse) (hidden : Bool) (names : List String) : Bool :=
  hidden || names.contains use.param

def hiddenByFields (use : ContextUse) (hidden : Bool) (fields : List Field) : Bool :=
  hidden || fields.any (·.names.contains use.param)

def name (use : ContextUse) (hidden : Bool) (name : String) : Counting Expr.Node :=
  if name == use.param && !hidden then do
    modify (· + 1)
    return use.replacement
  else
    return .ident name

end ContextUse

variable (use : ContextUse)

mutual

def Expr.withContext (hidden : Bool) : Expr → Counting Expr
  | ⟨node, span⟩ => return ⟨← node.withContext hidden, span⟩

def Expr.Node.withContext (hidden : Bool) : Expr.Node → Counting Expr.Node
  | .ident name => use.name hidden name
  | .literal text => return .literal text
  | .composite type? elements braces comments => do
    let type? ← exprWithContext? hidden type?
    let elements ← exprsWithContext hidden elements
    return .composite type? elements braces comments
  | .funcLit ⟨params, results⟩ body => do
    let hidden := use.hiddenByFields hidden (params ++ results)
    let params ← fieldsWithContext hidden params
    let results ← fieldsWithContext hidden results
    let body ← body.withContext hidden
    return .funcLit ⟨params, results⟩ body
  | .paren inner => return .paren (← inner.withContext hidden)
  | .selector base field => return .selector (← base.withContext hidden) field
  | .index base index => do
    let base ← base.withContext hidden
    let index ← index.withContext hidden
    return .index base index
  | .indexList base indices => do
    let base ← base.withContext hidden
    let indices ← exprsWithContext hidden indices
    return .indexList base indices
  | .slice base low? high? max? threeIndex => do
    let base ← base.withContext hidden
    let low? ← exprWithContext? hidden low?
    let high? ← exprWithContext? hidden high?
    let max? ← exprWithContext? hidden max?
    return .slice base low? high? max? threeIndex
  | .typeAssert base type? => do
    let base ← base.withContext hidden
    let type? ← exprWithContext? hidden type?
    return .typeAssert base type?
  | .call func args ellipsis parens => do
    let func ← func.withContext hidden
    let args ← exprsWithContext hidden args
    return .call func args ellipsis parens
  | .star inner => return .star (← inner.withContext hidden)
  | .unary op operand => return .unary op (← operand.withContext hidden)
  | .binary left op right => do
    let left ← left.withContext hidden
    let right ← right.withContext hidden
    return .binary left op right
  | .keyValue key value => do
    let key ← key.keyWithContext hidden
    let value ← value.withContext hidden
    return .keyValue key value
  | .arrayType length? elem => do
    let length? ← exprWithContext? hidden length?
    let elem ← elem.withContext hidden
    return .arrayType length? elem
  | .ellipsis elem? => return .ellipsis (← exprWithContext? hidden elem?)
  | .mapType key value => do
    let key ← key.withContext hidden
    let value ← value.withContext hidden
    return .mapType key value
  | .chanType dir elem => return .chanType dir (← elem.withContext hidden)
  | .funcType type => return .funcType (← type.withContext hidden)
  | .structType fields braces => return .structType (← fieldsWithContext hidden fields) braces
  | .interfaceType methods braces =>
    return .interfaceType (← fieldsWithContext hidden methods) braces

/-- A bare name as the key of an element is the name of a field. -/
def Expr.keyWithContext (hidden : Bool) : Expr → Counting Expr
  | ⟨.ident name, span⟩ => return ⟨.ident name, span⟩
  | ⟨node, span⟩ => return ⟨← node.withContext hidden, span⟩

def exprWithContext? (hidden : Bool) : Option Expr → Counting (Option Expr)
  | none => return none
  | some expr => return some (← expr.withContext hidden)

def exprsWithContext (hidden : Bool) : List Expr → Counting (List Expr)
  | [] => return []
  | expr :: exprs => do
    let expr ← expr.withContext hidden
    let exprs ← exprsWithContext hidden exprs
    return expr :: exprs

/-- A bare name as the target of an assignment is no use; `:=` declares it. -/
def Expr.targetWithContext (define hidden : Bool) : Expr → Counting (Expr × Bool)
  | ⟨.ident name, span⟩ =>
    return (⟨.ident name, span⟩, if define then use.hiddenBy hidden [name] else hidden)
  | ⟨node, span⟩ => return (⟨← node.withContext hidden, span⟩, hidden)

def targetWithContext? (define hidden : Bool) : Option Expr → Counting (Option Expr × Bool)
  | none => return (none, hidden)
  | some target => do
    let (target, hidden) ← target.targetWithContext define hidden
    return (some target, hidden)

def targetsWithContext (define hidden : Bool) : List Expr → Counting (List Expr × Bool)
  | [] => return ([], hidden)
  | target :: targets => do
    let (target, hidden) ← target.targetWithContext define hidden
    let (targets, hidden) ← targetsWithContext define hidden targets
    return (target :: targets, hidden)

def Field.withContext (hidden : Bool) : Field → Counting Field
  | ⟨names, type, tag?, comment⟩ => return ⟨names, ← type.withContext hidden, tag?, comment⟩

def fieldWithContext? (hidden : Bool) : Option Field → Counting (Option Field)
  | none => return none
  | some field => return some (← field.withContext hidden)

def fieldsWithContext (hidden : Bool) : List Field → Counting (List Field)
  | [] => return []
  | field :: fields => do
    let field ← field.withContext hidden
    let fields ← fieldsWithContext hidden fields
    return field :: fields

def FuncType.withContext (hidden : Bool) : FuncType → Counting FuncType
  | ⟨params, results⟩ => do
    let params ← fieldsWithContext hidden params
    let results ← fieldsWithContext hidden results
    return ⟨params, results⟩

def Block.withContext (hidden : Bool) : Block → Counting Block
  | ⟨stmts, comments, span⟩ => return ⟨← stmtsWithContext hidden stmts, comments, span⟩

def blockWithContext? (hidden : Bool) : Option Block → Counting (Option Block)
  | none => return none
  | some block => return some (← block.withContext hidden)

def Stmt.withContext (hidden : Bool) : Stmt → Counting (Stmt × Bool)
  | ⟨node, span⟩ => do
    let (node, hidden) ← node.withContext hidden
    return (⟨node, span⟩, hidden)

def Stmt.Node.withContext (hidden : Bool) : Stmt.Node → Counting (Stmt.Node × Bool)
  | .expr expr => return (.expr (← expr.withContext hidden), hidden)
  | .assign targets op values => do
    let values ← exprsWithContext hidden values
    let (targets, hidden) ← targetsWithContext (op == .define) hidden targets
    return (.assign targets op values, hidden)
  | .incDec expr inc => return (.incDec (← expr.withContext hidden) inc, hidden)
  | .send channel value => do
    let channel ← channel.withContext hidden
    let value ← value.withContext hidden
    return (.send channel value, hidden)
  | .decl decl => do
    let (decl, hidden) ← decl.withContext hidden
    return (.decl decl, hidden)
  | .go call => return (.go (← call.withContext hidden), hidden)
  | .defer call => return (.defer (← call.withContext hidden), hidden)
  | .ret results => return (.ret (← exprsWithContext hidden results), hidden)
  | .branch kind label? => return (.branch kind label?, hidden)
  | .block block => return (.block (← block.withContext hidden), hidden)
  | .ifElse init? cond body else? => do
    let (init?, inner) ← stmtWithContext? hidden init?
    let cond ← cond.withContext inner
    let body ← body.withContext inner
    let (else?, _) ← stmtWithContext? inner else?
    return (.ifElse init? cond body else?, hidden)
  | .forLoop init? cond? post? body => do
    let (init?, inner) ← stmtWithContext? hidden init?
    let cond? ← exprWithContext? inner cond?
    let (post?, inner) ← stmtWithContext? inner post?
    let body ← body.withContext inner
    return (.forLoop init? cond? post? body, hidden)
  | .rangeLoop key? value? define expr body => do
    let expr ← expr.withContext hidden
    let (key?, inner) ← targetWithContext? define hidden key?
    let (value?, inner) ← targetWithContext? define inner value?
    let body ← body.withContext inner
    return (.rangeLoop key? value? define expr body, hidden)
  | .switch init? tag? clauses => do
    let (init?, inner) ← stmtWithContext? hidden init?
    let tag? ← exprWithContext? inner tag?
    let clauses ← casesWithContext inner [] clauses
    return (.switch init? tag? clauses, hidden)
  | .typeSwitch init? binding? expr clauses => do
    let (init?, inner) ← stmtWithContext? hidden init?
    let expr ← expr.withContext inner
    let clauses ← casesWithContext inner binding?.toList clauses
    return (.typeSwitch init? binding? expr clauses, hidden)
  | .select clauses => return (.select (← commsWithContext hidden clauses), hidden)
  | .labeled label stmt => do
    let (stmt, hidden) ← stmt.withContext hidden
    return (.labeled label stmt, hidden)
  | .empty => return (.empty, hidden)

def stmtWithContext? (hidden : Bool) : Option Stmt → Counting (Option Stmt × Bool)
  | none => return (none, hidden)
  | some stmt => do
    let (stmt, hidden) ← stmt.withContext hidden
    return (some stmt, hidden)

def stmtsWithContext (hidden : Bool) : List Stmt → Counting (List Stmt)
  | [] => return []
  | stmt :: stmts => do
    let (stmt, hidden) ← stmt.withContext hidden
    let stmts ← stmtsWithContext hidden stmts
    return stmt :: stmts

def casesWithContext (hidden : Bool) (names : List String) :
    List CaseClause → Counting (List CaseClause)
  | [] => return []
  | ⟨exprs, body⟩ :: clauses => do
    let exprs ← exprsWithContext hidden exprs
    let body ← body.withContext (use.hiddenBy hidden names)
    let clauses ← casesWithContext hidden names clauses
    return ⟨exprs, body⟩ :: clauses

def commsWithContext (hidden : Bool) : List CommClause → Counting (List CommClause)
  | [] => return []
  | ⟨comm?, body⟩ :: clauses => do
    let (comm?, inner) ← stmtWithContext? hidden comm?
    let body ← body.withContext inner
    let clauses ← commsWithContext hidden clauses
    return ⟨comm?, body⟩ :: clauses

/-- A local type is declared before its own definition. -/
def typeSpecsWithContext (hidden : Bool) : List TypeSpec → Counting (List TypeSpec × Bool)
  | [] => return ([], hidden)
  | ⟨name, typeParams, isAlias, type, comment⟩ :: specs => do
    let hidden := use.hiddenBy hidden [name]
    let type ← type.withContext hidden
    let (specs, hidden) ← typeSpecsWithContext hidden specs
    return (⟨name, typeParams, isAlias, type, comment⟩ :: specs, hidden)

/-- Variables and constants are declared after their own values. -/
def valueSpecsWithContext (hidden : Bool) : List ValueSpec → Counting (List ValueSpec × Bool)
  | [] => return ([], hidden)
  | ⟨names, type?, values, comment⟩ :: specs => do
    let type? ← exprWithContext? hidden type?
    let values ← exprsWithContext hidden values
    let (specs, hidden) ← valueSpecsWithContext (use.hiddenBy hidden names) specs
    return (⟨names, type?, values, comment⟩ :: specs, hidden)

def Decl.withContext (hidden : Bool) : Decl → Counting (Decl × Bool)
  | .imports group => return (.imports group, hidden)
  | .func ⟨receiver?, name, nameSpan, typeParams, type, body?⟩ => do
    let receiver? ← fieldWithContext? hidden receiver?
    let typeParams ← fieldsWithContext hidden typeParams
    let type ← type.withContext hidden
    let body? ← blockWithContext? hidden body?
    return (.func ⟨receiver?, name, nameSpan, typeParams, type, body?⟩, hidden)
  | .types specs grouped => do
    let (specs, hidden) ← typeSpecsWithContext hidden specs
    return (.types specs grouped, hidden)
  | .values kind specs grouped => do
    let (specs, hidden) ← valueSpecsWithContext hidden specs
    return (.values kind specs grouped, hidden)

end

/-- Replaces every free use of the parameter in a body, and counts them. The blank name has none. -/
def Block.replaceContext (body : Block) : Block × Nat :=
  if use.param == "_" then (body, 0) else (body.withContext use false).run 0

end GoSpecs
