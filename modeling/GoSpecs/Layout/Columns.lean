import GoSpecs.Layout.Text
import GoSpecs.Text.Blank

namespace GoSpecs.Layout

abbrev Row := List String

namespace Row

def isSingleLine (row : Row) : Bool :=
  row.all (!hasNewline ·)

/-- The width of a cell that takes part in its column: the row has a further cell and stays on one
line. -/
def columnWidth? (row : Row) (column : Nat) : Option Nat :=
  match row.drop column with
  | cell :: _ :: _ => if row.isSingleLine then some (width cell) else none
  | _ => none

end Row

/-- For each entry the largest number of its run, a run being unbroken by `none`; zero for `none`.
`seen` is the largest number of the run so far. -/
def runMaxima (seen : Nat) : List (Option Nat) → List Nat
  | [] => []
  | none :: rest => 0 :: runMaxima 0 rest
  | some value :: rest =>
    let seen := max seen value
    let tail := runMaxima seen rest
    match rest, tail with
    | some _ :: _, largest :: _ => largest :: tail
    | _, _ => seen :: tail

def columnWidths (rows : List Row) (column : Nat) : List Nat :=
  runMaxima 0 (rows.map (·.columnWidth? column))

/-- The cells of a row, each but the last padded to its column's width and one blank. -/
def padded : Row → (widths : List Nat) → String
  | [], _ => ""
  | [cell], _ => cell
  | cell :: cells, widths =>
    let own := width cell
    let column := max (widths.head?.getD 0) own
    cell ++ blanks (column - own + 1) ++ padded cells widths.tail

def alignRows (rows : List Row) : List String :=
  let columns := (rows.map List.length).foldl max 0
  let table := (List.range columns).map (columnWidths rows)
  rows.zipIdx.map fun (row, index) =>
    if row.isSingleLine then
      GoSpecs.Text.trimEnd (padded row (table.map fun widths => widths[index]?.getD 0))
    else
      " ".intercalate row

end GoSpecs.Layout
