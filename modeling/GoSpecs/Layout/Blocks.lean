import GoSpecs.Layout.Listing

namespace GoSpecs.Layout

/-- Comments on lines of their own, below something that ends at `previous`. -/
def commentLines (lines : Lines) (indent : Nat) : (previous : Option Nat) → List Comment → String
  | _, [] => ""
  | previous, comment :: comments =>
    newlineIf (lines.blankBetween previous comment.span.start?) ++ tabs indent ++ comment.text ++
      "\n" ++ commentLines lines indent comment.span.stop? comments

def startOfAll (comments : List Comment) (following : Option Nat) : Option Nat :=
  match comments.head? with
  | some comment => comment.span.start?
  | none => following

def stopOfAll (comments : List Comment) (preceding : Option Nat) : Option Nat :=
  match comments.getLast? with
  | some comment => comment.span.stop?
  | none => preceding

def anchoredAt (anchor : Anchor) (comments : List AnchoredComment) : List Comment :=
  (comments.filter (·.anchor == anchor)).map (·.comment)

def leadingComments (lines : Lines) (indent : Nat) (comments : List Comment)
    (start : Option Nat) : String :=
  commentLines lines indent none comments ++
    newlineIf (lines.blankBetween (stopOfAll comments none) start)

def trailingComments (comments : List Comment) : String :=
  concat (comments.map fun comment => " " ++ comment.text)

structure StmtLine where
  span : Span
  text : String

/-- Statements from `index` on with the comments of their block, below something that ends at
`previous`. -/
def stmtLines (lines : Lines) (comments : List AnchoredComment) (indent : Nat) :
    (index : Nat) → (previous : Option Nat) → List StmtLine → String
  | _, previous, [] => commentLines lines indent previous (anchoredAt .atEnd comments)
  | index, previous, stmt :: stmts =>
    let leading := anchoredAt (.before index) comments
    let trailing := anchoredAt (.after index) comments
    let start := startOfAll leading stmt.span.start?
    newlineIf (lines.blankBetween previous start) ++
      leadingComments lines indent leading stmt.span.start? ++
      stmt.text ++ trailingComments trailing ++ "\n" ++
      stmtLines lines comments indent (index + 1) (stopOfAll trailing stmt.span.stop?) stmts

def stmtListText (lines : Lines) (comments : List AnchoredComment) (indent : Nat)
    (stmts : List StmtLine) : String :=
  stmtLines lines comments indent 0 none stmts

def blockText (lines : Lines) (indent : Nat) (span : Span) (comments : List AnchoredComment)
    (stmts : List StmtLine) : String :=
  if stmts.isEmpty && comments.isEmpty then
    if oneLine lines span then "\x7b\x7d" else "\x7b\n" ++ tabs indent ++ "\x7d"
  else
    "\x7b\n" ++ stmtListText lines comments (indent + 1) stmts ++ tabs indent ++ "\x7d"

def maxOneLineBody : Nat := 100

def oneLineBody? (lines : Lines) (span : Span) (comments : List AnchoredComment) : Bool :=
  span != .detached && comments.isEmpty && oneLine lines span

def shortBody? (stmts : List String) : Option String :=
  let joined := "; ".intercalate stmts
  if stmts.isEmpty then some "\x7b\x7d"
  else if !hasNewline joined && joined.utf8ByteSize ≤ maxOneLineBody then
    some ("\x7b " ++ joined ++ " \x7d")
  else none

structure ClauseText where
  span : Span
  header : String
  body : String

def clauseLines (lines : Lines) (indent : Nat) :
    (previous : Option Nat) → List ClauseText → String
  | _, [] => ""
  | previous, clause :: clauses =>
    newlineIf (lines.blankBetween previous clause.span.start?) ++ tabs indent ++
      clause.header ++ ":\n" ++ clause.body ++
      clauseLines lines indent clause.span.stop? clauses

def clausesText (lines : Lines) (indent : Nat) (clauses : List ClauseText) : String :=
  "\x7b\n" ++ clauseLines lines indent none clauses ++ tabs indent ++ "\x7d"

end GoSpecs.Layout
