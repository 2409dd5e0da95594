import GoSpecs.Source.Span
import GoSpecs.Syntax.Operator

namespace GoSpecs

/-- Where a comment stands among the statements of a block. -/
inductive Anchor where
  /-- On lines of its own above a statement. -/
  | before (index : Nat)
  /-- At the end of a statement's last line. -/
  | after (index : Nat)
  /-- Below the last statement. -/
  | atEnd
deriving DecidableEq

structure AnchoredComment where
  anchor : Anchor
  comment : Comment
deriving DecidableEq

/-- A line comment after the comma of an element of a composite literal. -/
structure ElementComment where
  index : Nat
  comment : Comment
deriving DecidableEq

structure ImportSpec where
  alias? : Option String
  path : String
  comment : Option Comment
deriving DecidableEq

structure ImportGroup where
  specs : List ImportSpec
  parenthesized : Bool
deriving DecidableEq

inductive ValueKind where
  | var | const
deriving DecidableEq

mutual

structure Expr where
  node : Expr.Node
  span : Span

inductive Expr.Node where
  | ident (name : String)
  | literal (text : String)
  /-- A composite literal `T{a, b}`, or `{a, b}` with an elided type. -/
  | composite (type? : Option Expr) (elements : List Expr) (braces : Span)
      (comments : List ElementComment)
  | funcLit (type : FuncType) (body : Block)
  | paren (inner : Expr)
  | selector (base : Expr) (field : String)
  | index (base index : Expr)
  | indexList (base : Expr) (indices : List Expr)
  | slice (base : Expr) (low? high? max? : Option Expr) (threeIndex : Bool)
  /-- A type assertion `x.(T)`, or `x.(type)` without a type. -/
  | typeAssert (base : Expr) (type? : Option Expr)
  | call (func : Expr) (args : List Expr) (ellipsis : Bool) (parens : Span)
  | star (inner : Expr)
  | unary (op : UnaryOp) (operand : Expr)
  | binary (left : Expr) (op : BinaryOp) (right : Expr)
  | keyValue (key value : Expr)
  | arrayType (length? : Option Expr) (elem : Expr)
  /-- The type `...T` of a parameter, or the bare `...` of an array length. -/
  | ellipsis (elem? : Option Expr)
  | mapType (key value : Expr)
  | chanType (dir : ChanDir) (elem : Expr)
  | funcType (type : FuncType)
  | structType (fields : List Field) (braces : Span)
  /-- A method is a field whose type is a function type. -/
  | interfaceType (methods : List Field) (braces : Span)

structure Field where
  names : List String
  type : Expr
  tag? : Option String
  comment : Option Comment

structure FuncType where
  params : List Field
  results : List Field

/-- Statements between braces, or those of a clause, whose span is then the whole clause. -/
structure Block where
  stmts : List Stmt
  comments : List AnchoredComment
  span : Span

structure Stmt where
  node : Stmt.Node
  span : Span

inductive Stmt.Node where
  | expr (expr : Expr)
  | assign (targets : List Expr) (op : AssignOp) (values : List Expr)
  | incDec (expr : Expr) (inc : Bool)
  | send (channel value : Expr)
  | decl (decl : Decl)
  | go (call : Expr)
  | defer (call : Expr)
  | ret (results : List Expr)
  | branch (kind : BranchKind) (label? : Option String)
  | block (block : Block)
  | ifElse (init? : Option Stmt) (cond : Expr) (body : Block) (else? : Option Stmt)
  | forLoop (init? : Option Stmt) (cond? : Option Expr) (post? : Option Stmt) (body : Block)
  | rangeLoop (key? value? : Option Expr) (define : Bool) (expr : Expr) (body : Block)
  | switch (init? : Option Stmt) (tag? : Option Expr) (clauses : List CaseClause)
  | typeSwitch (init? : Option Stmt) (binding? : Option String) (expr : Expr)
      (clauses : List CaseClause)
  | select (clauses : List CommClause)
  | labeled (label : String) (stmt : Stmt)
  | empty

structure CaseClause where
  exprs : List Expr
  body : Block

structure CommClause where
  comm? : Option Stmt
  body : Block

structure TypeSpec where
  name : String
  typeParams : List Field
  isAlias : Bool
  type : Expr
  comment : Option Comment

structure ValueSpec where
  names : List String
  type? : Option Expr
  values : List Expr
  comment : Option Comment

structure FuncDecl where
  receiver? : Option Field
  name : String
  nameSpan : Span
  typeParams : List Field
  type : FuncType
  body? : Option Block

inductive Decl where
  | imports (group : ImportGroup)
  | func (func : FuncDecl)
  | types (specs : List TypeSpec) (grouped : Bool)
  | values (kind : ValueKind) (specs : List ValueSpec) (grouped : Bool)

end

end GoSpecs
