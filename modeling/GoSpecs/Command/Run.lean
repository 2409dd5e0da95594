import GoSpecs.Command.Arguments
import GoSpecs.Command.Help
import GoSpecs.Json.Tree
import GoSpecs.Workspace.Run

namespace GoSpecs

structure Reply where
  status : Nat
  stdout : String
  /-- Errors that are reported in plain words. -/
  errors : List String
  /-- Faults at a place of a file, and misuse of the command line. -/
  notices : List String
deriving DecidableEq

namespace Reply

def success (stdout : String) : Reply := ⟨0, stdout, [], []⟩

def misuse (error : UsageError) : Reply := ⟨1, "", [], ["error: " ++ error.message]⟩

def failure (stdout : String) (error : Error) : Reply :=
  match error with
  | .inFile _ (.lexical ..) => ⟨1, stdout, [], [error.message]⟩
  | .inFile _ (.grammatical ..) => ⟨1, stdout, [], [error.message]⟩
  | _ => ⟨1, stdout, ["Error: " ++ error.message], []⟩

end Reply

namespace Options

def settings (options : Options) : Settings where
  destructive := options.destructive
  createSuite := options.createSuite
  maker := .ofKind options.suiteKind
  conventions := .ginkgo

def convert (options : Options) (host : Host) (disk : Disk) : Reply × Disk :=
  let (result, disk) := (host.convertPackage options.settings options.package).run.run disk
  match result with
  | .ok written => (.success (String.join (written.map (Text.lossy ·.path ++ "\n"))), disk)
  | .error error => (.failure "" error, disk)

def filesToDump (options : Options) (host : Host) : Job (List Bytes) := do
  let dir ← Package.resolve host options.package
  Package.walk host { options.settings with createSuite := false } dir

/-- Prints the trees of files after the text that has been printed, up to the first that fails. -/
def dumpFiles (host : Host) (disk : Disk) : (printed : String) → List Bytes → Reply
  | printed, [] => .success printed
  | printed, path :: paths =>
    match ((host.loadFile path).run.run disk).1 with
    | .ok file =>
      dumpFiles host disk
        (printed ++ "// " ++ Text.lossy path ++ "\n" ++ file.toJson.pretty 0 ++ "\n") paths
    | .error error => .failure printed error

def dump (options : Options) (host : Host) (disk : Disk) : Reply × Disk :=
  let (result, disk) := (options.filesToDump host).run.run disk
  match result with
  | .ok files => (dumpFiles host disk "" files, disk)
  | .error error => (.failure "" error, disk)

end Options

def Host.command (host : Host) (args : List String) (disk : Disk) : Reply × Disk :=
  match Request.ofArgs args with
  | .error error => (.misuse error, disk)
  | .ok .help => (.success Help.long, disk)
  | .ok .shortHelp => (.success Help.short, disk)
  | .ok .version => (.success Help.version, disk)
  | .ok (.run options) =>
    if options.dumpTrees then options.dump host disk else options.convert host disk

end GoSpecs
