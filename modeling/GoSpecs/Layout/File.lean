import GoSpecs.Layout.Render
import GoSpecs.Syntax.File

namespace GoSpecs.Layout

inductive DeclKind where
  | imports | func | types | vars | consts
deriving DecidableEq

def declKind : Decl → DeclKind
  | .imports _ => .imports
  | .func _ => .func
  | .types _ _ => .types
  | .values .var _ _ => .vars
  | .values .const _ _ => .consts

/-- The number of line breaks above an item: as in the source, but at least one, at least two above
a doc comment or another kind of declaration, and never more than two. -/
def itemBreaks (lines : Lines) (previous : Option Nat) (previousKind? : Option DeclKind)
    (item : Item) : Nat :=
  let least :=
    if previousKind? != some (declKind item.decl) || !item.doc.isEmpty then 2 else 1
  match lines.between? previous (startOfAll item.doc item.span.start?) with
  | some count => min (max count least) 2
  | none => 2

def itemText (lines : Lines) (item : Item) : String :=
  leadingComments lines 0 item.doc item.span.start? ++ declText lines 0 item.decl ++
    trailingComments item.comment.toList ++ "\n"

/-- Items below something that ends at `previous`, and then the comments at the end of the file. -/
def itemLines (lines : Lines) (trailing : List Comment) :
    (previous : Option Nat) → (previousKind? : Option DeclKind) → List Item → String
  | previous, _, [] => commentLines lines 0 previous trailing
  | previous, previousKind?, item :: items =>
    String.ofList (List.replicate (itemBreaks lines previous previousKind? item - 1) '\n') ++
      itemText lines item ++
      itemLines lines trailing (stopOfAll item.comment.toList item.span.stop?)
        (some (declKind item.decl)) items

end GoSpecs.Layout

namespace GoSpecs

open Layout in
def SourceFile.render (file : SourceFile) : String :=
  leadingComments file.lines 0 file.header file.packageSpan.start? ++
    "package " ++ file.package ++ "\n" ++
    itemLines file.lines file.trailing file.packageSpan.stop? none file.items

end GoSpecs
