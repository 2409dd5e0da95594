import GoSpecs.Layout.Columns
import GoSpecs.Source.Lines
import GoSpecs.Syntax.Tree

namespace GoSpecs.Layout

/-- Brackets that stood on one line, or that were built. -/
def oneLine (lines : Lines) (span : Span) : Bool :=
  span = .detached || Lines.areSame (lines.line? span.start?) (lines.lineBefore? span.stop?)

structure Element where
  /-- It stands on a later line than what comes before it. -/
  breaks : Bool
  blankBefore : Bool
  text : String
  pair? : Option (String × String)

namespace Element

def append (element : Element) (suffix : String) : Element :=
  { element with
    text := element.text ++ suffix
    pair? := element.pair?.map fun (key, value) => (key, value ++ suffix) }

/-- What counts for the decision whether neighbouring lines share a column: the width of the key, or
of an element without one. It is zero for an element of several lines. -/
def size (element : Element) : Nat :=
  if hasNewline element.text then 0
  else
    match element.pair? with
    | some (key, _) => width key
    | none => width element.text

def cells (element : Element) (alone : Bool) : Row :=
  match element.pair? with
  | some (key, value) =>
    if alone || element.size == 0 then [element.text] else [key ++ ":", value]
  | none => [element.text]

end Element

structure ListLine where
  cells : Row
  /-- The line starts a new set of columns. -/
  starts : Bool
  blankBefore : Bool
  comment? : Option String

namespace ListLine

def extend (line : ListLine) (text : String) : ListLine :=
  match line.cells.reverse with
  | last :: cells => { line with cells := cells.reverse ++ [last ++ text] }
  | [] => line

def row (line : ListLine) : Row :=
  line.cells ++ line.comment?.toList

end ListLine

structure Listing where
  head : String
  headComment? : Option String
  lines : List ListLine
  size : Nat
  /-- The sum of the logarithms of the sizes that count, and their number. -/
  logSum : Float
  count : Nat
  lastBreak? : Option Nat

namespace Listing

def empty : Listing := ⟨"", none, [], 0, 0, 0, none⟩

def smallSize : Nat := 40

/-- The size is out of proportion to the geometric mean of those before it. -/
def outOfProportion (listing : Listing) (size : Nat) : Bool :=
  let ratio := size.toFloat / (listing.logSum / listing.count.toFloat).exp
  2.5 * ratio ≤ 1.0 || 2.5 ≤ ratio

def parts (listing : Listing) (size : Nat) : Bool :=
  if listing.size == 0 || size == 0 then true
  else if listing.count == 0 || (listing.size ≤ smallSize && size ≤ smallSize) then false
  else listing.outOfProportion size

def skipsLine (listing : Listing) (index : Nat) : Bool :=
  match listing.lastBreak? with
  | some last => last + 1 < index
  | none => true

def addLine (listing : Listing) (index : Nat) (alone : Bool) (element : Element) : Listing :=
  let line : ListLine :=
    { cells := element.cells alone
      starts := listing.parts element.size || listing.skipsLine index || element.blankBefore
      blankBefore := element.blankBefore
      comment? := none }
  { listing with
    lines := line :: listing.lines
    logSum := if element.blankBefore then 0 else listing.logSum
    count := if element.blankBefore then 0 else listing.count
    lastBreak? := some index }

def continueLine (listing : Listing) (index : Nat) (element : Element) : Listing :=
  match listing.lines with
  | line :: lines => { listing with lines := line.extend (", " ++ element.text) :: lines }
  | [] =>
    { listing with head := listing.head ++ (if index == 0 then "" else ", ") ++ element.text }

def addComment (listing : Listing) : Option String → Listing
  | none => listing
  | some text =>
    match listing.lines with
    | line :: lines => { listing with lines := { line with comment? := some text } :: lines }
    | [] => { listing with headComment? := some text }

def addSize (listing : Listing) (size : Nat) : Listing :=
  if size == 0 then { listing with size }
  else
    { listing with
      size
      logSum := listing.logSum + size.toFloat.log
      count := listing.count + 1 }

def add (comments : List ElementComment) (alone : Bool) (listing : Listing)
    (indexed : Element × Nat) : Listing :=
  let (element, index) := indexed
  let placed :=
    if element.breaks then listing.addLine index alone element
    else listing.continueLine index element
  let comment? := (comments.find? (·.index == index)).map (·.comment.text)
  (placed.addComment comment?).addSize element.size

end Listing

def columnSets : List ListLine → List (List ListLine)
  | [] => []
  | line :: rest =>
    match columnSets rest with
    | (next :: set) :: sets =>
      if next.starts then [line] :: (next :: set) :: sets else (line :: next :: set) :: sets
    | sets => [line] :: sets

/-- A comma goes before the comment of its line, so it is part of the last cell. The last line has
one only if the closing bracket stands on a line of its own. -/
def withCommas (closes : Bool) : List ListLine → List ListLine
  | [] => []
  | [line] => [if closes then line.extend "," else line]
  | line :: rest => line.extend "," :: withCommas closes rest

def listLineTexts (lines : List ListLine) : List (Bool × String) :=
  (columnSets lines).flatMap fun set =>
    (set.map (·.blankBefore)).zip (alignRows (set.map ListLine.row))

namespace Listing

def render (listing : Listing) (closes : Bool) (indent : Nat) : String :=
  let lines := withCommas closes listing.lines.reverse
  let comma := listing.head != "" && (!lines.isEmpty || closes)
  let head := listing.head ++ (if comma then "," else "") ++
    (match listing.headComment? with
      | some text => " " ++ text
      | none => "")
  let body := (listLineTexts lines).map fun (blank, text) =>
    "\n" ++ newlineIf blank ++ tabs (indent + 1) ++ text
  head ++ concat body ++ (if closes then "\n" ++ tabs indent else "")

end Listing

def addSuffix (suffix : String) : List Element → List Element
  | [] => []
  | [element] => [element.append suffix]
  | element :: elements => element :: addSuffix suffix elements

/-- A list whose brackets stand on different lines. `closes` tells that the closing bracket stands
on a later line than the last element. -/
def brokenList (elements : List Element) (comments : List ElementComment) (closes : Bool)
    (indent : Nat) (suffix : String) : String :=
  let alone := elements.length ≤ 1
  let listing := (addSuffix suffix elements).zipIdx.foldl (Listing.add comments alone) .empty
  listing.render closes indent

end GoSpecs.Layout
