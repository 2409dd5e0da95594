import GoSpecs.Workspace.Error
import GoSpecs.Workspace.Path

namespace GoSpecs

/-- The names on the way from the root. -/
abbrev Location := List Bytes

inductive DiskNode where
  | dir
  | file (bytes : ByteArray)

namespace DiskNode

instance : DecidableEq DiskNode
  | dir, dir => isTrue rfl
  | dir, file _ => isFalse nofun
  | file _, dir => isFalse nofun
  | file bytes, file other => decidable_of_iff (bytes.data = other.data) (by simp [ByteArray.ext_iff])

def isDir : DiskNode → Bool
  | dir => true
  | file _ => false

end DiskNode

structure Disk where
  entries : List (Location × DiskNode)
deriving DecidableEq

namespace Disk

def empty : Disk := ⟨[]⟩

def at? (disk : Disk) (location : Location) : Option DiskNode :=
  if location.isEmpty then some .dir else disk.entries.lookup location

/-- The entries with a node at a location, which keeps its place in the list if it has one. -/
def putIn (location : Location) (node : DiskNode) :
    List (Location × DiskNode) → List (Location × DiskNode)
  | [] => [(location, node)]
  | entry :: entries =>
    if entry.1 == location then (location, node) :: entries
    else entry :: putIn location node entries

def put (disk : Disk) (location : Location) (node : DiskNode) : Disk :=
  ⟨putIn location node disk.entries⟩

def erase (disk : Disk) (location : Location) : Disk :=
  ⟨disk.entries.filter fun entry => !location.isPrefixOf entry.1⟩

def makeDirs (disk : Disk) (location : Location) : Disk :=
  (List.range location.length).foldl (fun disk depth =>
    let place := location.take (depth + 1)
    if (disk.at? place).isSome then disk else disk.put place .dir) disk

def children (disk : Disk) (dir : Location) : List (Bytes × DiskNode) :=
  let named := disk.entries.filterMap fun (location, node) =>
    match location.getLast? with
    | some name => if location.dropLast == dir then some (name, node) else none
    | none => none
  named.mergeSort fun a b => a.1.comesFirst b.1

def maxNameSize : Nat := 255

def enter (here : Location) (segment : Bytes) : Location :=
  if segment == [] || segment == [Path.dot] then here
  else if segment == [Path.dot, Path.dot] then here.dropLast
  else here ++ [segment]

/-- Follows segments from a place. Each is looked up in a directory, so only what the last one leads
to may be missing or no directory. -/
def follow (disk : Disk) : Location → List Bytes → Except Refusal Location
  | here, [] => .ok here
  | here, segment :: rest =>
    match disk.at? here with
    | none => .error .notFound
    | some (.file _) => .error .notDirectory
    | some .dir =>
      if maxNameSize < segment.length then .error .nameTooLong
      else disk.follow (enter here segment) rest

def maxPathSize : Nat := 4095

def origin (cwd : Location) (path : Bytes) : Location :=
  if Path.isAbsolute path then [] else cwd

def check (path : Bytes) : Except Refusal Unit :=
  if path.contains 0 then .error .nulByte
  else if path.isEmpty then .error .notFound
  else if maxPathSize < path.length then .error .nameTooLong
  else .ok ()

def locate (disk : Disk) (cwd : Location) (path : Bytes) :
    Except Refusal (Location × DiskNode) := do
  check path
  let place ← disk.follow (origin cwd path) (Path.segments path)
  match disk.at? place with
  | some node => return (place, node)
  | none => throw .notFound

def exists? (disk : Disk) (cwd : Location) (path : Bytes) : Bool :=
  (disk.locate cwd path).isOk

def isDir (disk : Disk) (cwd : Location) (path : Bytes) : Bool :=
  match disk.locate cwd path with
  | .ok (_, node) => node.isDir
  | .error _ => false

def readBytes (disk : Disk) (cwd : Location) (path : Bytes) : Except Refusal ByteArray := do
  match ← disk.locate cwd path with
  | (_, .dir) => throw .isDirectory
  | (_, .file bytes) => return bytes

def readText (disk : Disk) (cwd : Location) (path : Bytes) : Except Refusal String := do
  match String.fromUTF8? (← disk.readBytes cwd path) with
  | some text => return text
  | none => throw .invalidText

/-- Where a file that is written goes. Its directory has to be there. A path that ends in a slash is
one to a directory. -/
def target (disk : Disk) (cwd : Location) (path : Bytes) : Except Refusal Location := do
  check path
  let given := Path.segments path
  let named := (given.reverse.dropWhile (· == [])).reverse
  match named.getLast? with
  | none => throw .isDirectory
  | some last =>
    let parent ← disk.follow (origin cwd path) named.dropLast
    match disk.at? parent with
    | none => throw .notFound
    | some (.file _) => throw .notDirectory
    | some .dir =>
      if last == [Path.dot] || last == [Path.dot, Path.dot] || named.length < given.length then throw .isDirectory
      else if maxNameSize < last.length then throw .nameTooLong
      else return enter parent last

def writeBytes (disk : Disk) (cwd : Location) (path : Bytes) (bytes : ByteArray) :
    Except Refusal Disk := do
  let place ← disk.target cwd path
  match disk.at? place with
  | some .dir => throw .isDirectory
  | _ => return disk.put place (.file bytes)

def writeText (disk : Disk) (cwd : Location) (path : Bytes) (text : String) : Except Refusal Disk :=
  disk.writeBytes cwd path text.toUTF8

def list (disk : Disk) (cwd : Location) (path : Bytes) :
    Except Refusal (List (Bytes × DiskNode)) := do
  match ← disk.locate cwd path with
  | (place, .dir) => return disk.children place
  | (_, .file _) => return []

end Disk

end GoSpecs
