import GoSpecs.Spec.Conventions
import GoSpecs.Text.Lossy
import GoSpecs.Text.Split
import GoSpecs.Text.Uppercase
import GoSpecs.Workspace.Host

namespace GoSpecs

inductive SuiteKind where
  | ginkgo | template
deriving DecidableEq

namespace SuiteKind

def text : SuiteKind → String
  | ginkgo => "ginkgo"
  | template => "template"

def ofText? (text : String) : Option SuiteKind :=
  [ginkgo, template].find? (·.text == text)

end SuiteKind

inductive SuiteMaker where
  | template
  /-- Has a program write it, which is run inside the package's directory. -/
  | bootstrap (program : String)
deriving DecidableEq

def SuiteMaker.ofKind : SuiteKind → SuiteMaker
  | .ginkgo => .bootstrap "ginkgo"
  | .template => .template

namespace Suite

def path (conventions : Conventions) (dir : Bytes) (package : String) : Bytes :=
  Path.join dir (Text.utf8 (conventions.suiteFileName package))

def capitalize (part : String) : String :=
  match part.toList with
  | [] => ""
  | c :: rest => String.ofList (Text.uppercase c ++ rest)

/-- The name of a package as one word in which every part is capitalized. -/
def title (package : String) : String :=
  String.join ((Text.split (fun c => c == '-' || c == '_') package).map capitalize)

def source (conventions : Conventions) (package : String) : String :=
  let name := title package
  "package " ++ package ++ "_test\n\nimport (\n\t. \"" ++ conventions.bddPath ++
    "\"\n\t. \"github.com/onsi/gomega\"\n\n\t\"" ++ conventions.testingPath ++
    "\"\n)\n\nfunc Test" ++ name ++
    "(t *testing.T) \x7b\n\tRegisterFailHandler(Fail)\n\tRunSpecs(t, \"" ++ name ++
    " Suite\")\n\x7d\n"

def writeTemplate (host : Host) (conventions : Conventions) (dir : Bytes) (package : String) :
    Job Unit := do
  let path := Suite.path conventions dir package
  match (← get).writeText host.cwd path (source conventions package) with
  | .ok disk => set disk
  | .error refusal => throw (.suite (.write path refusal))

def runBootstrap (host : Host) (program : String) (dir : Bytes) : Job Unit := do
  let command := program ++ " bootstrap"
  match ← host.run program ["bootstrap"] dir with
  | .error refusal => throw (.suite (.spawn command dir refusal))
  | .ok outcome =>
    unless outcome.ending.isSuccess do
      throw (.suite (.failed command dir outcome.ending (Text.lossy outcome.stdout.data.toList)
        (Text.lossy outcome.stderr.data.toList)))

def make (host : Host) (maker : SuiteMaker) (conventions : Conventions) (dir : Bytes)
    (package : String) : Job Unit :=
  match maker with
  | .template => writeTemplate host conventions dir package
  | .bootstrap program => runBootstrap host program dir

/-- Makes the suite file of a package unless something is there, and tells whether it did. -/
def ensure (host : Host) (maker : SuiteMaker) (conventions : Conventions) (dir : Bytes)
    (package : String) : Job Bool := do
  if ← host.isPresent (path conventions dir package) then
    return false
  else
    make host maker conventions dir package
    return true

end Suite

end GoSpecs
