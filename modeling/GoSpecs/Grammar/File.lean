import GoSpecs.Grammar.Statements
import GoSpecs.Syntax.File

namespace GoSpecs

namespace Rules

variable {m : Type → Type} [MonadParser m]

def next (rules : Rules m) : Rules m where
  type := typeExpr rules
  binary := binaryExpr rules
  unary := unaryExpr rules
  elided := composite rules none
  block := blockStmts rules
  stmt := stmtRule rules
  ifElse := ifStmt rules

/-- The rules for files with at most `depth` layers of nesting. -/
def layered : (depth : Nat) → Rules m
  | 0 => exhausted
  | depth + 1 => (layered depth).next

abbrev ofDepth (depth : Nat) : Rules :=
  layered depth

open GoSpecs.Parser MonadParser

def trimQuotes (text : String) : String :=
  let isQuote (c : Char) : Bool := c == '"' || c == '`'
  String.ofList ((text.toList.dropWhile isQuote).reverse.dropWhile isQuote).reverse

def importAlias? : m (Option String) := do
  match ← peek with
  | some (.mark .dot) =>
    skip
    return some "."
  | some (.ident name) =>
    skip
    return some name
  | _ => return none

def importSpec : m ImportSpec := phrase .importSpec do
  let alias? ← importAlias?
  let cursor ← get
  match cursor.peek with
  | some (.string text) =>
    skip
    let path := trimQuotes text
    if path.isEmpty then fail .emptyImportPath cursor.span
    else return ⟨alias?, path, ← trailingComment (← lastEnd)⟩
  | _ => unexpected .importPath

def importDecl : m Decl := phrase .importDecl do
  let _ ← expectKeyword .import
  if ← eatMark .lparen then
    let specs ← linesUntil .rparen importSpec
    let _ ← expectMark .rparen
    return .imports ⟨specs, true⟩
  else
    return .imports ⟨[← importSpec], false⟩

def receiver? (rules : Rules m) : m (Option Field) := do
  let cursor ← get
  if ← atMark .lparen then
    match ← params (typeExpr rules) with
    | [field] => return some field
    | _ => fail .severalReceivers cursor.span
  else
    return none

def funcDecl (rules : Rules m) : m Decl := phrase .funcDecl do
  let _ ← expectKeyword .func
  let receiver? ← Rules.receiver? rules
  let (name, nameSpan) ← ident
  let typeParams ← if ← atMark .lbracket then typeParams (typeExpr rules) else pure []
  let type ← signature (typeExpr rules)
  let body? ← if ← atMark .lbrace then some <$> body rules else pure none
  return .func ⟨receiver?, name, nameSpan, typeParams, type, body?⟩

def topLevel (rules : Rules m) : m Decl := phrase .declaration do
  match ← peek with
  | some (.keyword .import) => importDecl
  | some (.keyword .func) => funcDecl rules
  | some (.keyword .type) => typeDecl rules
  | some (.keyword .var) => valueDecl rules .var
  | some (.keyword .const) => valueDecl rules .const
  | _ => unexpected .declaration

/-- A declaration with the comments above, inside and right after it. -/
def item (rules : Rules m) : m Item := do
  let start ← Parser.start
  let leading ← commentsBefore start
  let decl ← topLevel rules
  let span ← spanFrom start
  let stop := span.stop?.getD 0
  let inner ← commentsBefore stop
  return ⟨decl, leading ++ inner, ← trailingComment stop, span⟩

def items (rules : Rules m) : m (List Item) :=
  loop [] fun items => do
    if (← peek).isNone then
      return .done items
    else if ← eatSemicolon then
      return .again items
    else
      let items := items ++ [← item rules]
      lineEnd
      return .again items

def file (rules : Rules m) : m SourceFile := phrase .file do
  let start ← Parser.start
  let header ← commentsBefore start
  let _ ← expectKeyword .package
  let package ← name
  let packageSpan ← spanFrom start
  lineEnd
  let items ← items rules
  let trailing ← remainingComments
  return ⟨header, package, packageSpan, items, trailing, (← get).lines⟩

end Rules

namespace SourceFile

def ofLexemes (source : List Char) (lexemes : List Lexeme) : Except SyntaxError SourceFile :=
  (Rules.file (Rules.ofDepth (lexemes.length + 1))).run' (.ofLexemes lexemes source)

def packageName (lexemes : List Lexeme) : Except SyntaxError String :=
  match lexemes.filter (!·.token.isComment) with
  | ⟨.keyword .package, _, _⟩ :: ⟨.ident name, _, _⟩ :: _ => .ok name
  | lexeme :: _ => .error ⟨.packageClause, .range lexeme.start lexeme.stop⟩
  | [] => .error ⟨.emptySource, .range 0 0⟩

end SourceFile

end GoSpecs
