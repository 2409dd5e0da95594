import GoSpecs.Spec.Conventions
import GoSpecs.Syntax.File
import GoSpecs.Syntax.Retype
import GoSpecs.Syntax.Build

namespace GoSpecs

/-- The type `*package.name` as a file writes it. -/
structure NativeType where
  package : String
  name : String
deriving DecidableEq

structure Candidate where
  index : Nat
  name : String
  param : String
deriving DecidableEq

namespace NativeType

/-- There is none if the file does not import the framework under a name of its own. -/
def ofFile? (conventions : Conventions) (file : SourceFile) : Option NativeType := do
  let spec ← file.items.findSome? fun item =>
    item.decl.imports?.bind (·.find? conventions.testingPath)
  if spec.localName == "_" || spec.localName == "." then none
  else some ⟨spec.localName, conventions.testingType⟩

def isTypeOf (native : NativeType) (type : Expr) : Bool :=
  match type with
  | ⟨.star inner, _⟩ => inner.node.isQualified native.package native.name
  | _ => false

/-- The name of a test's context parameter; a function that is no test has none. -/
def contextParam? (native : NativeType) (func : FuncDecl) : Option String :=
  match func.receiver?, func.body?, func.type.params with
  | none, some _, [⟨[param], type, _, _⟩] =>
    if isTestName func.name && native.isTypeOf type then some param else none
  | _, _, _ => none

def candidateAt? (native : NativeType) (item : Item) (index : Nat) : Option Candidate := do
  let func ← item.decl.func?
  let param ← native.contextParam? func
  return ⟨index, func.name, param⟩

def candidates (native : NativeType) (file : SourceFile) : List Candidate :=
  file.items.zipIdx.filterMap fun (item, index) => native.candidateAt? item index

def substitute? (native : NativeType) (type : Expr.Node) (field : Field) : Option Field :=
  if native.isTypeOf field.type then
    some { field with type := ⟨type, field.type.span⟩ }
  else
    none

/-- Gives another type to every field, parameter and result of the native one, and counts them. -/
def substitute (native : NativeType) (type : Expr.Node) (file : SourceFile) : SourceFile × Nat :=
  (file.retype (native.substitute? type)).run 0

end NativeType

end GoSpecs
