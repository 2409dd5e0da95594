import GoSpecs.Text.Utf8

namespace GoSpecs

/-- The byte offsets at which the lines of a source start; an unknown source has no lines. -/
structure Lines where
  starts : List Nat
deriving DecidableEq

namespace Lines

def unknown : Lines := ⟨[]⟩

def startsAfterNewlines (offset : Nat) : List Char → List Nat
  | [] => []
  | c :: chars =>
    let next := offset + c.utf8Size
    if c = '\n' then next :: startsAfterNewlines next chars else startsAfterNewlines next chars

def ofSource (source : List Char) : Lines :=
  ⟨0 :: startsAfterNewlines 0 source⟩

/-- Where an offset stands among offsets in order: at one that equals it, or before the first greater
one. -/
inductive Standing where
  | equal (index : Nat)
  | before (index : Nat)
deriving DecidableEq

/-- The range of `size` entries from `base` on is halved until one entry is left, which is the last
one that is not greater, if there is any. As many rounds as there are entries are enough. -/
def narrow (starts : List Nat) (offset : Nat) : (rounds base size : Nat) → Nat
  | 0, base, _ => base
  | rounds + 1, base, size =>
    if size ≤ 1 then base
    else
      let middle := base + size / 2
      let base := if (starts[middle]?).all (offset < ·) then base else middle
      narrow starts offset rounds base (size - size / 2)

def search (starts : List Nat) (offset : Nat) : Standing :=
  let index := narrow starts offset starts.length 0 starts.length
  match starts[index]? with
  | none => .before 0
  | some start =>
    if start = offset then .equal index
    else if start < offset then .before (index + 1)
    else .before index

def lineOf (lines : Lines) (offset : Nat) : Option Nat :=
  if lines.starts.isEmpty then none
  else
    match search lines.starts offset with
    | .equal line => some line
    | .before next => some (next - 1)

def line? (lines : Lines) (offset : Option Nat) : Option Nat :=
  offset.bind lines.lineOf

/-- The line of the last byte before an offset. What ends at an unknown offset reaches to the last
line. -/
def lineBefore? (lines : Lines) (stop : Option Nat) : Option Nat :=
  match stop with
  | some stop => lines.lineOf (stop - 1)
  | none => if lines.starts.isEmpty then none else some (lines.starts.length - 1)

/-- The number of line breaks from one offset to another, when both lines are known. -/
def between? (lines : Lines) (first last : Option Nat) : Option Nat := do
  let a ← lines.line? first
  let b ← lines.line? last
  return b - a

def areSame : Option Nat → Option Nat → Bool
  | some a, some b => a == b
  | _, _ => false

def areBroken : Option Nat → Option Nat → Bool
  | some a, some b => a < b
  | _, _ => false

def sameLine (lines : Lines) (first last : Option Nat) : Bool :=
  areSame (lines.line? first) (lines.line? last)

def breaks (lines : Lines) (first last : Option Nat) : Bool :=
  areBroken (lines.line? first) (lines.line? last)

def blankBetween (lines : Lines) (first last : Option Nat) : Bool :=
  match lines.between? first last with
  | some count => 1 < count
  | none => false

end Lines

end GoSpecs
