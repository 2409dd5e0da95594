import GoSpecs.Spec.Conventions
import GoSpecs.Syntax.Build
import GoSpecs.Syntax.File

namespace GoSpecs

inductive ConversionError where
  | missingImports
  | emptyImports
  | testGone (name : String)
  | testNoFunction (name : String)
  | testWithoutBody (name : String)
deriving DecidableEq

structure ContextProvider where
  /-- There is none if the package is imported into the file's own scope. -/
  qualifier? : Option String
  added : Bool
deriving DecidableEq

namespace ContextProvider

def accessorCall (provider : ContextProvider) (conventions : Conventions) : Expr.Node :=
  .callNoArgs (.qualified provider.qualifier? conventions.contextAccessor)

def capabilityType (provider : ContextProvider) (conventions : Conventions) : Expr.Node :=
  .qualified provider.qualifier? conventions.capabilityType

end ContextProvider

namespace ImportGroup

def withBdd (conventions : Conventions) (specs : List ImportSpec) : List ImportSpec :=
  if specs.any (·.path == conventions.bddPath) then specs
  else specs ++ [⟨some conventions.bddAlias, conventions.bddPath, none⟩]

/-- The specs with one for the context's package, and how to refer to it. An import for side effects
only gets a name. -/
def withContext (conventions : Conventions) : List ImportSpec → List ImportSpec × ContextProvider
  | [] =>
    ([⟨some conventions.contextAlias, conventions.contextPath, none⟩],
      ⟨some conventions.contextAlias, true⟩)
  | spec :: specs =>
    if spec.path == conventions.contextPath then
      if spec.alias? == some "." then (spec :: specs, ⟨none, false⟩)
      else if spec.alias? == some "_" then
        ({ spec with alias? := some conventions.contextAlias } :: specs,
          ⟨some conventions.contextAlias, false⟩)
      else (spec :: specs, ⟨some spec.localName, false⟩)
    else
      let (rest, provider) := withContext conventions specs
      (spec :: rest, provider)

def sortByPath (specs : List ImportSpec) : List ImportSpec :=
  specs.mergeSort fun a b => decide (a.path ≤ b.path)

def ensure (conventions : Conventions) (group : ImportGroup) : ImportGroup × ContextProvider :=
  let (specs, provider) := withContext conventions (withBdd conventions group.specs)
  (⟨sortByPath specs, group.parenthesized || 1 < specs.length⟩, provider)

end ImportGroup

def Item.ensureImports (conventions : Conventions) :
    List Item → Except ConversionError (List Item × ContextProvider)
  | [] => .error .missingImports
  | item :: items =>
    match item.decl with
    | .imports group =>
      if group.specs.isEmpty then .error .emptyImports
      else
        let (group, provider) := group.ensure conventions
        .ok ({ item with decl := .imports group } :: items, provider)
    | _ => do
      let (items, provider) ← ensureImports conventions items
      return (item :: items, provider)

namespace SourceFile

def ensureImports (conventions : Conventions) (file : SourceFile) :
    Except ConversionError (SourceFile × ContextProvider) := do
  let (items, provider) ← Item.ensureImports conventions file.items
  return ({ file with items }, provider)

end SourceFile

def ImportGroup.remove (path : String) (group : ImportGroup) : ImportGroup :=
  { group with specs := group.specs.filter (·.path != path) }

/-- An import declaration without the path; one that is left without entries goes away. -/
def Item.removeImport? (path : String) (item : Item) : Option Item :=
  match item.decl with
  | .imports group =>
    let group := group.remove path
    if group.specs.isEmpty then none else some { item with decl := .imports group }
  | _ => some item

namespace SourceFile

def hasImport (file : SourceFile) (path : String) : Bool :=
  file.items.any fun item => item.decl.imports?.any (·.contains path)

def removeImport (path : String) (file : SourceFile) : SourceFile :=
  { file with items := file.items.filterMap (Item.removeImport? path) }

end SourceFile

end GoSpecs
