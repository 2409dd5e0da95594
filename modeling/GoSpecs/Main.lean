import GoSpecs.Command.Run

namespace GoSpecs.Main

/-- Reads a file or a directory, and what is below it, onto a disk. Directories that no package is
looked for in stay empty, and so do files without Go text. -/
partial def readOnto (disk : Disk) (place : Location) (path : String) : IO Disk := do
  let file := (← IO.currentDir) / path
  if ← file.isDir then
    let mut disk := disk.makeDirs place
    for entry in ← file.readDir do
      let inside := place ++ [Text.utf8 entry.fileName]
      if Package.isIgnored entry.fileName && (← entry.path.isDir) then
        disk := disk.makeDirs inside
      else
        disk ← readOnto disk inside (path ++ "/" ++ entry.fileName)
    return disk
  else if ← file.pathExists then
    let bytes ← if Conventions.hasSuffix path ".go" then IO.FS.readBinFile file else pure .empty
    return (disk.makeDirs place.dropLast).put place (.file bytes)
  else
    return disk

def candidates (host : Host) (package : String) : List Bytes :=
  Text.utf8 package :: host.roots.map fun root =>
    Path.join (Path.join root (Text.utf8 "src")) (Text.utf8 package)

def placeOf (host : Host) (path : Bytes) : Location :=
  (Path.segments path).foldl Disk.enter (Disk.origin host.cwd path)

def diskFor (host : Host) (args : List String) : IO Disk :=
  match Request.ofArgs args with
  | .ok (.run options) =>
    (candidates host options.package).foldlM
      (fun disk path => if path.isEmpty then pure disk else readOnto disk (placeOf host path) (Text.lossy path))
      (Disk.empty.makeDirs host.cwd)
  | _ => pure (Disk.empty.makeDirs host.cwd)

def writeChanges (before after : Disk) : IO Unit :=
  after.entries.forM fun (place, node) =>
    match node with
    | .file bytes =>
      if before.at? place == some node then pure ()
      else IO.FS.writeBinFile ("/" ++ String.intercalate "/" (place.map Text.lossy)) bytes
    | .dir => pure ()

end GoSpecs.Main

open GoSpecs in
/-- It has no programs to start, so that only the template gives suites. -/
def main (args : List String) : IO UInt32 := do
  let cwd := (Path.segments (Text.utf8 (← IO.currentDir).toString)).foldl Disk.enter []
  let host : Host := ⟨cwd, ← IO.getEnv "GOPATH", ← IO.getEnv "HOME", []⟩
  let disk ← Main.diskFor host args
  let (reply, after) := host.command args disk
  Main.writeChanges disk after
  IO.print reply.stdout
  (reply.errors ++ reply.notices).forM IO.eprintln
  return reply.status.toUInt32
