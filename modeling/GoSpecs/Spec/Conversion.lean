import GoSpecs.Spec.Container
import GoSpecs.Spec.Context
import GoSpecs.Spec.Imports
import GoSpecs.Spec.Native
import GoSpecs.Syntax.Walk

namespace GoSpecs

namespace Candidate

/-- Takes the test out of the items, which leaves its place empty. Its leaf has the context that `accessor` gives in
place of the parameter. -/
def take (accessor : Expr.Node) (test : Candidate) (places : List (Option Item)) :
    Except ConversionError (Leaf × List (Option Item)) :=
  match places[test.index]? with
  | some (some item) =>
    match item.decl with
    | .func func =>
      match func.body? with
      | some body =>
        .ok (⟨test.name, item.doc, item.comment, (body.replaceContext ⟨test.param, accessor⟩).1⟩,
          places.set test.index none)
      | none => .error (.testWithoutBody test.name)
    | _ => .error (.testNoFunction test.name)
  | _ => .error (.testGone test.name)

def takeAll (accessor : Expr.Node) :
    List Candidate → List (Option Item) → Except ConversionError (List Leaf × List (Option Item))
  | [], places => return ([], places)
  | test :: tests, places => do
    let (leaf, places) ← test.take accessor places
    let (leaves, places) ← takeAll accessor tests places
    return (leaf :: leaves, places)

end Candidate

namespace SourceFile

def dropUnused (file : SourceFile) (name path : String) : SourceFile :=
  if file.refersTo name then file else file.removeImport path

/-- The capability takes the place of the native type, whose package goes away once it is unused. -/
def dropNative (file : SourceFile) (conventions : Conventions) (native? : Option NativeType)
    (capability : Expr.Node) : SourceFile :=
  match native? with
  | some native =>
    (native.substitute capability file).1.dropUnused native.package conventions.testingPath
  | none => file

/-- An import of the context's package that was added and turns out to be unused goes away. -/
def dropProvider (file : SourceFile) (conventions : Conventions) (provider : ContextProvider) :
    SourceFile :=
  match provider with
  | ⟨some qualifier, true⟩ => file.dropUnused qualifier conventions.contextPath
  | _ => file

end SourceFile

/-- Changes a file step by step. A step that fails leaves the file as the steps before it made it. -/
abbrev Conversion := ExceptT ConversionError (StateM SourceFile)

namespace Conversion

def ensureImports (conventions : Conventions) : Conversion ContextProvider := do
  let (imported, provider) ← (← get).ensureImports conventions
  set imported
  return provider

/-- Moves the tests out of the file into a container at its end. The file has no items until all tests are taken
out of them. -/
def moveTests (conventions : Conventions) (accessor : Expr.Node) (tests : List Candidate) :
    Conversion Unit := do
  let places := (← get).items.map some
  modify ({ · with items := [] })
  let (leaves, places) ← Candidate.takeAll accessor tests places
  modify ({ · with items := places.filterMap id ++ [.ofLeaves conventions leaves] })

/-- Turns the tests of the file into specs, and counts them. Every file gets the imports and a container, even one
without tests; without a native type there are none. -/
def ofTests (conventions : Conventions) : Conversion Nat := do
  let native? := NativeType.ofFile? conventions (← get)
  let provider ← ensureImports conventions
  let tests := (native?.map (·.candidates (← get))).getD []
  moveTests conventions (provider.accessorCall conventions) tests
  modify (·.dropNative conventions native? (provider.capabilityType conventions))
  modify (·.dropProvider conventions provider)
  return tests.length

end Conversion

namespace SourceFile

def convertInPlace (file : SourceFile) (conventions : Conventions) :
    Except ConversionError Nat × SourceFile :=
  (Conversion.ofTests conventions).run.run file

def convert (file : SourceFile) (conventions : Conventions) :
    Except ConversionError (SourceFile × Nat) :=
  match file.convertInPlace conventions with
  | (.ok tests, converted) => .ok (converted, tests)
  | (.error error, _) => .error error

end SourceFile

end GoSpecs
