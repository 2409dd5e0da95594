import GoSpecs.Text.Bytes
import GoSpecs.Text.Split

namespace GoSpecs.Path

@[match_pattern] def slash : UInt8 := 0x2f

@[match_pattern] def dot : UInt8 := 0x2e

def segments (path : Bytes) : List Bytes :=
  Text.splitList (· == slash) path

def isAbsolute (path : Bytes) : Bool :=
  path.head? == some slash

inductive Base where
  | root
  | here
  | none
deriving DecidableEq

structure Parts where
  base : Base
  segments : List Bytes
deriving DecidableEq

namespace Parts

def ofPath (path : Bytes) : Parts :=
  if isAbsolute path then ⟨.root, (Path.segments path).tail⟩
  else
    match Path.segments path with
    | [dot] :: rest => ⟨.here, rest⟩
    | all => ⟨.none, all⟩

def trim (parts : Parts) : Parts :=
  { parts with
    segments := (parts.segments.reverse.dropWhile fun segment =>
      segment == [] || segment == [dot]).reverse }

def bytes (parts : Parts) : Bytes :=
  let rest := [slash].intercalate parts.segments
  match parts.base with
  | .root => slash :: rest
  | .here => if parts.segments.isEmpty then [dot] else dot :: slash :: rest
  | .none => rest

end Parts

/-- The last name of a path. A path to a root or to the directory above has none. -/
def fileName? (path : Bytes) : Option Bytes :=
  match (Parts.ofPath path).trim.segments.getLast? with
  | some [dot, dot] => none
  | last? => last?

def parent (path : Bytes) : Bytes :=
  let parts := (Parts.ofPath path).trim
  { parts with segments := parts.segments.dropLast : Parts }.trim.bytes

/-- The path of something below a directory; an absolute path stays as it is. -/
def join (dir path : Bytes) : Bytes :=
  if isAbsolute path then path
  else if dir.isEmpty || dir.getLast? == some slash then dir ++ path
  else dir ++ slash :: path

/-- The path with another last name, which is added where there is none. -/
def withFileName (path name : Bytes) : Bytes :=
  match fileName? path with
  | some _ => join (parent path) name
  | none => join path name

end GoSpecs.Path
