import GoSpecs.Workspace.Suite

namespace GoSpecs

structure Options where
  package : String
  destructive : Bool
  createSuite : Bool
  suiteKind : SuiteKind
  dumpTrees : Bool
deriving DecidableEq

inductive Request where
  | help
  | shortHelp
  | version
  | run (options : Options)
deriving DecidableEq

inductive UsageError where
  | unknownArgument (arg : String)
  | needlessValue (flag : String)
  | missingValue (option : String)
  | invalidValue (option value : String)
  | repeated (option : String)
  | missingPackage
deriving DecidableEq

def UsageError.message : UsageError → String
  | .unknownArgument arg => "unexpected argument '" ++ arg ++ "' found"
  | .needlessValue flag => "unexpected value for '--" ++ flag ++ "'"
  | .missingValue option => "a value is required for '--" ++ option ++ "'"
  | .invalidValue option value => "invalid value '" ++ value ++ "' for '--" ++ option ++ "'"
  | .repeated option => "the argument '--" ++ option ++ "' cannot be used multiple times"
  | .missingPackage => "the argument '<PACKAGE>' is required"

structure Given where
  package? : Option String
  destructive : Bool
  createSuite? : Option Bool
  suiteKind? : Option SuiteKind
  dumpTrees : Bool
deriving DecidableEq

namespace Given

def nothing : Given := ⟨none, false, none, none, false⟩

def options (given : Given) : Except UsageError Options :=
  match given.package? with
  | some package =>
    .ok ⟨package, given.destructive, given.createSuite?.getD true,
      given.suiteKind?.getD .ginkgo, given.dumpTrees⟩
  | none => .error .missingPackage

def withPackage (given : Given) (arg : String) : Except UsageError Given :=
  match given.package? with
  | none => .ok { given with package? := some arg }
  | some _ => .error (.unknownArgument arg)

def withDestructive (given : Given) : Except UsageError Given :=
  if given.destructive then .error (.repeated "destructive")
  else .ok { given with destructive := true }

def withDumpTrees (given : Given) : Except UsageError Given :=
  if given.dumpTrees then .error (.repeated "dump-ast") else .ok { given with dumpTrees := true }

/-- Without a value the answer is yes. -/
def withCreateSuite (given : Given) (value? : Option String) : Except UsageError Given := do
  if given.createSuite?.isSome then throw (.repeated "create-suite")
  match value?.getD "true" with
  | "true" => return { given with createSuite? := some true }
  | "false" => return { given with createSuite? := some false }
  | value => throw (.invalidValue "create-suite" value)

def withSuiteKind (given : Given) (value : String) : Except UsageError Given := do
  if given.suiteKind?.isSome then throw (.repeated "scaffold")
  match SuiteKind.ofText? value with
  | some kind => return { given with suiteKind? := some kind }
  | none => throw (.invalidValue "scaffold" value)

end Given

inductive Argument where
  | endOfOptions
  | long (name : String) (value? : Option String)
  /-- One dash and at least one letter, of which the first counts. -/
  | short (letter : Char)
  | plain (text : String)
deriving DecidableEq

def Argument.ofText (text : String) : Argument :=
  match text.toList with
  | ['-', '-'] => .endOfOptions
  | '-' :: '-' :: chars =>
    match chars.dropWhile (· != '=') with
    | _ :: value => .long (String.ofList (chars.takeWhile (· != '='))) (some (String.ofList value))
    | [] => .long (String.ofList chars) none
  | '-' :: letter :: _ => .short letter
  | _ => .plain text

inductive Stop where
  | answered (request : Request)
  | refused (error : UsageError)
deriving DecidableEq

inductive Expected where
  | anything
  | suiteKind
  /-- A plain value, even if it looks like an option. -/
  | plain
deriving DecidableEq

structure Reading where
  given : Given
  expected : Expected
deriving DecidableEq

namespace Reading

def start : Reading := ⟨.nothing, .anything⟩

def onWith (given : Except UsageError Given) : Except Stop Reading :=
  match given with
  | .ok given => .ok ⟨given, .anything⟩
  | .error error => .error (.refused error)

def flag (name : String) (value? : Option String) (reading : Except Stop Reading) :
    Except Stop Reading :=
  if value?.isSome then .error (.refused (.needlessValue name)) else reading

def long (given : Given) (name : String) (value? : Option String) : Except Stop Reading :=
  match name with
  | "help" => flag name value? (.error (.answered .help))
  | "version" => flag name value? (.error (.answered .version))
  | "destructive" => flag name value? (onWith given.withDestructive)
  | "dump-ast" => flag name value? (onWith given.withDumpTrees)
  | "create-suite" => onWith (given.withCreateSuite value?)
  | "scaffold" =>
    match value? with
    | some value => onWith (given.withSuiteKind value)
    | none => .ok ⟨given, .suiteKind⟩
  | _ => .error (.refused (.unknownArgument ("--" ++ name)))

def short (letter : Char) : Except Stop Reading :=
  match letter with
  | 'h' => .error (.answered .shortHelp)
  | 'V' => .error (.answered .version)
  | _ => .error (.refused (.unknownArgument (String.ofList ['-', letter])))

def step (reading : Reading) (arg : String) : Except Stop Reading :=
  let given := reading.given
  match reading.expected, Argument.ofText arg with
  | .plain, _ => (onWith (given.withPackage arg)).map fun next => { next with expected := .plain }
  | .suiteKind, .plain text => onWith (given.withSuiteKind text)
  | .suiteKind, _ => .error (.refused (.missingValue "scaffold"))
  | .anything, .endOfOptions => .ok ⟨given, .plain⟩
  | .anything, .plain text => onWith (given.withPackage text)
  | .anything, .short letter => short letter
  | .anything, .long name value? => long given name value?

def finish (reading : Reading) : Except UsageError Request :=
  match reading.expected with
  | .suiteKind => .error (.missingValue "scaffold")
  | _ => reading.given.options.map .run

end Reading

/-- What a command line asks for. The first argument that is refused, or asks for help or for the
version, decides. -/
def Request.ofArgs (args : List String) : Except UsageError Request :=
  match args.foldlM Reading.step Reading.start with
  | .ok reading => reading.finish
  | .error (.answered request) => .ok request
  | .error (.refused error) => .error error

end GoSpecs
