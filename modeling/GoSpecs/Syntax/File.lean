import GoSpecs.Source.Lines
import GoSpecs.Syntax.Tree

namespace GoSpecs

structure Item where
  decl : Decl
  doc : List Comment
  comment : Option Comment
  span : Span

structure SourceFile where
  header : List Comment
  package : String
  packageSpan : Span
  items : List Item
  trailing : List Comment
  lines : Lines

/-- The name that stands for the import inside its file. Without an alias it is the last element of
the path. -/
def ImportSpec.localName (spec : ImportSpec) : String :=
  match spec.alias? with
  | some name => name
  | none => String.ofList (spec.path.toList.reverse.takeWhile (· != '/')).reverse

namespace ImportGroup

def find? (group : ImportGroup) (path : String) : Option ImportSpec :=
  group.specs.find? (·.path == path)

def contains (group : ImportGroup) (path : String) : Bool :=
  (group.find? path).isSome

end ImportGroup

def Decl.imports? : Decl → Option ImportGroup
  | .imports group => some group
  | _ => none

def Decl.func? : Decl → Option FuncDecl
  | .func decl => some decl
  | _ => none

namespace SourceFile

def imports? (file : SourceFile) : Option ImportGroup :=
  file.items.findSome? (·.decl.imports?)

def functions (file : SourceFile) : List FuncDecl :=
  file.items.filterMap (·.decl.func?)

end SourceFile

def FuncType.paramCount (type : FuncType) : Nat :=
  type.params.foldr (fun field count => max field.names.length 1 + count) 0

end GoSpecs
