import GoSpecs.Workspace.Package

namespace GoSpecs

structure Written where
  path : Bytes
  tests : Nat
deriving DecidableEq

/-- Where the specs of a file go: under a name that is made from the file's name as text. -/
def Settings.outputPath (settings : Settings) (path : Bytes) : Bytes :=
  if settings.destructive then path
  else
    Path.withFileName path
      (Text.utf8 (settings.conventions.convertedFileName (Package.nameOf path)))

namespace Host

variable (host : Host)

def loadFile (path : Bytes) : Job SourceFile := do
  Job.ofFault path (SourceFile.ofText (← host.readText path))

def convertFile (settings : Settings) (path : Bytes) : Job Written := do
  let file ← host.loadFile path
  let (converted, tests) ← Job.ofFault path (file.converted settings.conventions)
  let output := settings.outputPath path
  host.writeText output converted.render
  return ⟨output, tests⟩

def convertPackage (settings : Settings) (id : String) : Job (List Written) := do
  let dir ← Package.resolve host id
  let files ← Package.walk host settings dir
  files.mapM (host.convertFile settings)

end Host

end GoSpecs
