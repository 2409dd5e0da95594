import GoSpecs.Workspace.Suite

namespace GoSpecs

structure Settings where
  destructive : Bool
  createSuite : Bool
  maker : SuiteMaker
  conventions : Conventions

structure Package where
  dir : Bytes
  /-- The name of the package clause, without `_test` at its end. -/
  name : String
  testFiles : List Bytes
deriving DecidableEq

def Host.roots (host : Host) : List Bytes :=
  match host.gopath? with
  | some gopath =>
    if gopath.isEmpty then ofHome else (Text.split (· == ':') gopath).map Text.utf8
  | none => ofHome
where
  ofHome : List Bytes :=
    host.home?.toList.map fun home => Path.join (Text.utf8 home) (Text.utf8 "go")

def firstDir? (host : Host) (disk : Disk) (dirs : List Bytes) : Option Bytes :=
  dirs.find? (disk.isDir host.cwd)

namespace Package

/-- The directory of a package. A directory is taken as it is, and any other text as an import
path. -/
def resolve (host : Host) (id : String) : Job Bytes := do
  let direct := Text.utf8 id
  if ← host.isDir direct then
    return direct
  else
    let candidates := host.roots.map fun root =>
      Path.join (Path.join root (Text.utf8 "src")) direct
    match firstDir? host (← get) candidates with
    | some dir => return dir
    | none =>
      throw (.unresolved ("cannot find package " ++ Text.quoted id.toList ++ " in any of [" ++
        String.intercalate ", " (host.roots.map fun root => Text.quoted (Text.lossy root).toList) ++
        "]"))

def isIgnored (name : String) : Bool :=
  name.toList.head? == some '.' || name.toList.head? == some '_' || name == "testdata" ||
    name == "vendor"

/-- The Go files of a directory and the directories that are walked. Both are told by their names as
text, and the paths have the names as they are. -/
def contents (host : Host) (dir : Bytes) : Job (List Bytes × List Bytes) := do
  let entries ← host.list dir
  let files := entries.filter fun (name, node) =>
    !node.isDir && Conventions.hasSuffix (Text.lossy name) ".go"
  let dirs := entries.filter fun (name, node) => node.isDir && !isIgnored (Text.lossy name)
  return (files.map (Path.join dir ·.1), dirs.map (Path.join dir ·.1))

def nameOf (path : Bytes) : String :=
  ((Path.fileName? path).map Text.lossy).getD ""

/-- The file whose package clause names the package, preferably one without tests. -/
def namingFile? (conventions : Conventions) (files : List Bytes) : Option Bytes :=
  (files.find? fun path => !Conventions.hasSuffix (nameOf path) conventions.testSuffix).or
    files.head?

def ofFiles (host : Host) (conventions : Conventions) (dir : Bytes) (files : List Bytes) :
    Job (Option Package) := do
  match namingFile? conventions files with
  | none => return none
  | some path =>
    let clause ← Job.ofFault path (packageNameOf (← host.readText path))
    let name := (Conventions.dropSuffix? clause "_test").getD clause
    let testFiles := files.filter fun path => conventions.isConvertible (nameOf path) name
    return some ⟨dir, name, testFiles⟩

def load (host : Host) (conventions : Conventions) (dir : Bytes) : Job (Option Package) := do
  let (files, _) ← contents host dir
  ofFiles host conventions dir files

def provide (host : Host) (settings : Settings) (package? : Option Package) : Job Unit :=
  match package? with
  | some package => do
    if settings.createSuite then
      let _ ← Suite.ensure host settings.maker settings.conventions package.dir package.name
  | none => pure ()

/-- The test files of a directory and of those below it, down to a depth. A package gets its suite
file after those below it. -/
def walkTo (host : Host) (settings : Settings) : (depth : Nat) → (dir : Bytes) → Job (List Bytes)
  | 0, _ => return []
  | depth + 1, dir => do
    let (files, dirs) ← contents host dir
    let package? ← ofFiles host settings.conventions dir files
    let below ← dirs.mapM (walkTo host settings depth)
    provide host settings package?
    return (package?.map (·.testFiles)).getD [] ++ below.flatten

/-- The test files of a directory and of all below it. Paths get longer on the way down, and those
that are too long are refused. -/
def walk (host : Host) (settings : Settings) (dir : Bytes) : Job (List Bytes) :=
  walkTo host settings (Disk.maxPathSize + 1) dir

end Package

end GoSpecs
