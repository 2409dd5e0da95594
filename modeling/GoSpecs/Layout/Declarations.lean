import GoSpecs.Layout.Columns
import GoSpecs.Syntax.Tree

namespace GoSpecs.Layout

def commentCell (comment : Option Comment) : Row :=
  (comment.map (·.text)).toList

def rowLines (rows : List Row) (indent : Nat) : String :=
  concat ((alignRows rows).map fun line => tabs indent ++ line ++ "\n")

def specGroup (keyword : String) (rows : List Row) (grouped : Bool) (indent : Nat) : String :=
  if !grouped then keyword ++ " " ++ " ".intercalate (rows.head?.getD [])
  else if rows.isEmpty then keyword ++ " ()"
  else keyword ++ " (\n" ++ rowLines rows (indent + 1) ++ tabs indent ++ ")"

/-- The fields of a struct or the elements of an interface between braces. `short` tells that there
is one without a comment. -/
def memberBlock (keyword : String) (rows : List Row) (oneLine short : Bool) (indent : Nat) :
    String :=
  match rows with
  | [] =>
    if oneLine then keyword ++ "\x7b\x7d" else keyword ++ " \x7b\n" ++ tabs indent ++ "\x7d"
  | row :: _ =>
    if oneLine && short && row.isSingleLine then
      keyword ++ "\x7b " ++ " ".intercalate row ++ " \x7d"
    else
      keyword ++ " \x7b\n" ++ rowLines rows (indent + 1) ++ tabs indent ++ "\x7d"

def isShort : List Field → Bool
  | [field] => field.comment.isNone
  | _ => false

def importSpecText (spec : ImportSpec) : String :=
  let path := "\"" ++ spec.path ++ "\""
  match spec.alias? with
  | some name => name ++ " " ++ path
  | none => path

def importRow (spec : ImportSpec) : Row :=
  importSpecText spec :: commentCell spec.comment

def importText (group : ImportGroup) : String :=
  match group.parenthesized, group.specs with
  | false, [spec] => "import " ++ " ".intercalate (importRow spec)
  | _, specs => "import (\n" ++ rowLines (specs.map importRow) 1 ++ ")"

def valueKeyword : ValueKind → String
  | .var => "var"
  | .const => "const"

/-- The cell of a value's type. In a group that has types somewhere an absent one leaves an empty
cell. -/
def typeCell (keepsTypes : Bool) : Option String → Row
  | some type => [type]
  | none => if keepsTypes then [""] else []

def valueCell (values : List String) : Row :=
  if values.isEmpty then [] else ["= " ++ commas values]

end GoSpecs.Layout
