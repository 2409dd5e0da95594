import GoSpecs.Grammar.Fault
import GoSpecs.Source.Lines

namespace GoSpecs

structure Cursor where
  rest : List Lexeme
  comments : List Comment
  /-- The end of the last token read that is no semicolon. -/
  lastEnd : Nat
  /-- The number of brackets open around an expression, less one in the header of a statement,
  where a brace after a type name opens the body. -/
  level : Int
  source : List Char

abbrev Parser := StateT Cursor (Except SyntaxError)

/-- What a loop goes over. -/
inductive Parser.Course where
  | tokens
  /-- A list that was made up before. -/
  | entries
deriving DecidableEq

/-- What a round of a loop comes to. -/
inductive Parser.Step (σ α : Type) where
  | again (state : σ)
  | done (result : α)

/-- What is read by a rule of its own. -/
inductive Phrase where
  | file | declaration | importDecl | importSpec | funcDecl | genDecl | typeSpec | valueSpec
  | signature | params | paramType | typeParams | constraint | constraintTerm
  | type | typeArgs | arrayLength | structFields | interfaceElems
  | expr | exprList | binary | unary | primary | operand | parens | suffixes | indexOrSlice | call
  /-- A brace after an operand, which may be a type name and nothing more. -/
  | brace (bare : Bool)
  | composite | element | elementValue
  | body | block | stmtList | clauseBody | caseClause
  | stmt | simple | simpleOrRange | ifStmt | ifHeader | forStmt | forHeader | switchStmt
  | switchHeader | selectStmt
deriving DecidableEq

/-- What rules need of the monad they run in. They say which phrase they read and what is a round of
a loop, so that a run can be followed. A parser takes no notice of it. -/
class MonadParser (m : Type → Type) extends Monad m, MonadStateOf Cursor m where
  raise {α : Type} (error : SyntaxError) : m α
  phrase {α : Type} (phrase : Phrase) (rule : m α) : m α
  round {σ α : Type} (course : Parser.Course) (step : m (Parser.Step σ α)) : m (Parser.Step σ α)

instance : MonadParser Parser where
  raise error := throw error
  phrase _ rule := rule
  round _ step := step

namespace Cursor

def ofLexemes (lexemes : List Lexeme) (source : List Char) : Cursor where
  rest := lexemes.filter (!·.token.isComment)
  comments := (lexemes.filter (·.token.isComment)).map fun lexeme =>
    ⟨lexeme.token.text, .range lexeme.start lexeme.stop⟩
  lastEnd := 0
  level := 0
  source := source

def size (cursor : Cursor) : Nat :=
  Text.byteSize cursor.source

def lines (cursor : Cursor) : Lines :=
  .ofSource cursor.source

def peek (cursor : Cursor) : Option Token :=
  cursor.rest.head?.map (·.token)

def start (cursor : Cursor) : Nat :=
  match cursor.rest with
  | lexeme :: _ => lexeme.start
  | [] => cursor.size

def span (cursor : Cursor) : Span :=
  match cursor.rest with
  | lexeme :: _ => .range lexeme.start lexeme.stop
  | [] => .range cursor.size cursor.size

def advance (cursor : Cursor) : Cursor :=
  match cursor.rest with
  | lexeme :: rest =>
    { cursor with
      rest
      lastEnd := if lexeme.token.isSemicolon then cursor.lastEnd else lexeme.stop }
  | [] => cursor

def spanFrom (cursor : Cursor) (start : Nat) : Span :=
  .range start (max cursor.lastEnd start)

/-- The comment starts at or after an offset, and no line ends between. -/
def isTrailing (cursor : Cursor) (offset : Nat) (comment : Comment) : Bool :=
  (comment.span.start?.bind (Text.slice? cursor.source offset)).any fun gap => !gap.contains '\n'

end Cursor

namespace Parser

variable {m : Type → Type} [MonadParser m]

def peek : m (Option Token) := do
  return (← get).peek

def peekAfter (count : Nat) : m (Option Token) := do
  return ((← get).rest[count]?).map (·.token)

def start : m Nat := do
  return (← get).start

def spanFrom (start : Nat) : m Span := do
  return (← get).spanFrom start

def lastEnd : m Nat := do
  return (← get).lastEnd

def skip : m Unit :=
  modify Cursor.advance

def fail {α : Type} (fault : SyntaxFault) (span : Span) : m α :=
  MonadParser.raise ⟨fault, span⟩

def unexpected {α : Type} (what : Expectation) : m α := do
  let cursor ← get
  fail (.expected what cursor.peek) cursor.span

def atMark (mark : Mark) : m Bool := do
  return (← peek) == some (.mark mark)

def atKeyword (word : Keyword) : m Bool := do
  return (← peek) == some (.keyword word)

def isIdent : Option Token → Bool
  | some (.ident _) => true
  | _ => false

def isSemicolon : Option Token → Bool
  | some token => token.isSemicolon
  | none => false

def atIdent : m Bool := do
  return isIdent (← peek)

def atSemicolon : m Bool := do
  return isSemicolon (← peek)

def eatIf (test : m Bool) : m Bool := do
  if ← test then
    skip
    return true
  else
    return false

def eatMark (mark : Mark) : m Bool :=
  eatIf (atMark mark)

def eatKeyword (word : Keyword) : m Bool :=
  eatIf (atKeyword word)

def eatSemicolon : m Bool :=
  eatIf atSemicolon

def expect (token : Token) : m Span := do
  let cursor ← get
  if cursor.peek == some token then
    skip
    return cursor.span
  else
    unexpected (.token token)

def expectMark (mark : Mark) : m Span :=
  expect (.mark mark)

def expectKeyword (word : Keyword) : m Span :=
  expect (.keyword word)

def expectSemicolon : m Unit := do
  unless ← eatSemicolon do
    unexpected (.token (.semicolon false))

def ident : m (String × Span) := do
  let cursor ← get
  match cursor.peek with
  | some (.ident name) =>
    skip
    return (name, cursor.span)
  | _ => unexpected .identifier

def name : m String := do
  return (← ident).1

/-- Reads the semicolon after a statement or declaration. A closing bracket or the end of the file
stands for one. -/
def lineEnd : m Unit := do
  match ← peek with
  | none => return
  | some (.mark .rparen) => return
  | some (.mark .rbrace) => return
  | some (.semicolon _) => skip
  | _ => unexpected .lineEnd

def deeper {α : Type} (parser : m α) : m α := do
  modify fun cursor => { cursor with level := cursor.level + 1 }
  let result ← parser
  modify fun cursor => { cursor with level := cursor.level - 1 }
  return result

def atLevel {α : Type} (level : Int) (parser : m α) : m α := do
  let outer := (← get).level
  modify fun cursor => { cursor with level }
  let result ← parser
  modify fun cursor => { cursor with level := outer }
  return result

def inHeader {α : Type} (parser : m α) : m α :=
  atLevel (-1) parser

def startsBefore (offset : Nat) (comment : Comment) : Bool :=
  match comment.span.start? with
  | some start => start < offset
  | none => false

def commentsBefore (offset : Nat) : m (List Comment) := do
  let cursor ← get
  set { cursor with comments := cursor.comments.dropWhile (startsBefore offset) }
  return cursor.comments.takeWhile (startsBefore offset)

def trailingComment (offset : Nat) : m (Option Comment) := do
  let cursor ← get
  match cursor.comments with
  | comment :: rest =>
    if cursor.isTrailing offset comment then
      set { cursor with comments := rest }
      return some comment
    else
      return none
  | [] => return none

def trailingLineComment (offset : Nat) : m (Option Comment) := do
  match (← get).comments with
  | comment :: _ =>
    if "//".toList.isPrefixOf comment.text.toList then trailingComment offset else return none
  | [] => return none

def remainingComments : m (List Comment) := do
  let cursor ← get
  set { cursor with comments := [] }
  return cursor.comments

end Parser

end GoSpecs
