import GoSpecs.Workspace.Disk

namespace GoSpecs

structure Outcome where
  ending : Ending
  stdout : ByteArray
  stderr : ByteArray

structure Call where
  args : List String
  env : List (String × String)
  dir : Location

/-- A program by what it does with a call and the disk. -/
abbrev Program := Call → Disk → Outcome × Disk

structure Host where
  cwd : Location
  gopath? : Option String
  home? : Option String
  programs : List (String × Program)

/-- A job may fail, and what it wrote before that stays. -/
abbrev Job := ExceptT Error (StateM Disk)

namespace Host

variable (host : Host)

def readText (path : Bytes) : Job String := do
  match (← get).readText host.cwd path with
  | .ok text => return text
  | .error refusal => throw (.file path refusal)

def writeText (path : Bytes) (text : String) : Job Unit := do
  match (← get).writeText host.cwd path text with
  | .ok disk => set disk
  | .error refusal => throw (.file path refusal)

def list (dir : Bytes) : Job (List (Bytes × DiskNode)) := do
  match (← get).list host.cwd dir with
  | .ok entries => return entries
  | .error refusal => throw (.file dir (.listing dir refusal))

def isDir (path : Bytes) : Job Bool :=
  return (← get).isDir host.cwd path

def isPresent (path : Bytes) : Job Bool :=
  return (← get).exists? host.cwd path

def env : List (String × String) :=
  (host.gopath?.map fun text => ("GOPATH", text)).toList ++
    (host.home?.map fun text => ("HOME", text)).toList

/-- Runs a program inside a directory, if both are there. -/
def run (name : String) (args : List String) (dir : Bytes) : Job (Except Refusal Outcome) := do
  let disk ← get
  if dir.contains 0 || (name :: args).any (·.contains '\x00') then return .error .nulInCommand
  match disk.locate host.cwd dir with
  | .error refusal => return .error refusal
  | .ok (_, .file _) => return .error .notDirectory
  | .ok (place, .dir) =>
    match host.programs.lookup name with
    | none => return .error .notFound
    | some program =>
      let (outcome, disk) := program ⟨args, host.env, place⟩ disk
      set disk
      return .ok outcome

end Host

def Job.ofFault {α : Type} (path : Bytes) (result : Except Fault α) : Job α :=
  match result with
  | .ok value => return value
  | .error fault => throw ((Error.source fault).within path)

end GoSpecs
