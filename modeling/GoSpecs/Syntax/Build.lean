import GoSpecs.Syntax.Tree

namespace GoSpecs

def Expr.built (node : Expr.Node) : Expr := ⟨node, .detached⟩

def Stmt.built (node : Stmt.Node) : Stmt := ⟨node, .detached⟩

def Block.built (stmts : List Stmt) (comments : List AnchoredComment) : Block :=
  ⟨stmts, comments, .detached⟩

namespace Expr.Node

/-- The name `qualifier.name`, or the bare name of a package imported into the file's own scope. -/
def qualified (qualifier : Option String) (name : String) : Expr.Node :=
  match qualifier with
  | some package => .selector (.built (.ident package)) name
  | none => .ident name

def callNoArgs (func : Expr.Node) : Expr.Node :=
  .call (.built func) [] false .detached

def isQualified (package name : String) : Expr.Node → Bool
  | .selector ⟨.ident base, _⟩ field => field == name && base == package
  | _ => false

def escapedChar (c : Char) : List Char :=
  if c = '"' then ['\\', '"']
  else if c = '\\' then ['\\', '\\']
  else if c = '\n' then ['\\', 'n']
  else if c = '\t' then ['\\', 't']
  else [c]

def quotedText (value : String) : String :=
  String.ofList (['"'] ++ value.toList.flatMap escapedChar ++ ['"'])

def stringLit (value : String) : Expr.Node :=
  .literal (quotedText value)

end Expr.Node

end GoSpecs
