import GoSpecs.Grammar.Types

namespace GoSpecs

/-- A type name `T` or `pkg.T`, maybe instantiated. -/
def Expr.isTypeName : Expr → Bool
  | ⟨.ident _, _⟩ => true
  | ⟨.selector ⟨.ident _, _⟩ _, _⟩ => true
  | ⟨.index base _, _⟩ => base.isTypeName
  | ⟨.indexList base _, _⟩ => base.isTypeName
  | _ => false

def Expr.isLiteralType : Expr → Bool
  | ⟨.arrayType _ _, _⟩ => true
  | ⟨.mapType _ _, _⟩ => true
  | ⟨.structType _ _, _⟩ => true
  | expr => expr.isTypeName

namespace Rules

open GoSpecs.Parser MonadParser

variable {m : Type → Type} [MonadParser m]

def binaryOp? : Token → Option BinaryOp
  | .mark .orOr => some .orOr
  | .mark .andAnd => some .andAnd
  | .mark .eqEq => some .eq
  | .mark .notEq => some .ne
  | .mark .lt => some .lt
  | .mark .ltEq => some .le
  | .mark .gt => some .gt
  | .mark .gtEq => some .ge
  | .mark .plus => some .add
  | .mark .minus => some .sub
  | .mark .pipe => some .or
  | .mark .caret => some .xor
  | .mark .star => some .mul
  | .mark .slash => some .div
  | .mark .percent => some .rem
  | .mark .shl => some .shl
  | .mark .shr => some .shr
  | .mark .amp => some .and
  | .mark .ampCaret => some .andNot
  | _ => none

def unaryOp? : Token → Option UnaryOp
  | .mark .plus => some .pos
  | .mark .minus => some .neg
  | .mark .bang => some .not
  | .mark .caret => some .xor
  | .mark .amp => some .addr
  | .mark .arrow => some .recv
  | .mark .tilde => some .tilde
  | _ => none

def startOf (expr : Expr) : Nat :=
  expr.span.start?.getD 0

def elementValue (rules : Rules m) : m Expr := phrase .elementValue do
  if ← atMark .lbrace then rules.elided else rules.expr

def element (rules : Rules m) : m Expr := phrase .element do
  let key ← elementValue rules
  if ← eatMark .colon then
    let value ← elementValue rules
    return ⟨.keyValue key value, key.span.merge value.span⟩
  else
    return key

/-- Elements up to the closing brace, and the line comments after their commas. -/
def elements (rules : Rules m) : m (List Expr × List ElementComment) :=
  loop ([], []) fun (elements, comments) => do
    if ← atMark .rbrace then
      return .done (elements, comments)
    else
      let index := elements.length
      let elements := elements ++ [← element rules]
      if ← eatMark .comma then
        match ← trailingLineComment (← lastEnd) with
        | some comment => return .again (elements, comments ++ [⟨index, comment⟩])
        | none => return .again (elements, comments)
      else
        return .done (elements, comments)

def composite (rules : Rules m) (type? : Option Expr) : m Expr := phrase .composite do
  let start := (type?.map startOf).getD (← Parser.start)
  let opening ← expectMark .lbrace
  let (elements, comments) ← deeper (elements rules)
  let closing ← expectMark .rbrace
  return ⟨.composite type? elements (opening.merge closing) comments, ← spanFrom start⟩

def arguments (rules : Rules m) : m (List Expr × Bool) := do
  let args ← listUntil .rparen do
    let arg ← rules.expr
    return (arg, ← eatMark .ellipsis)
  return (args.map (·.1), args.any (·.2))

def call (rules : Rules m) (func : Expr) : m Expr := phrase .call do
  let opening ← expectMark .lparen
  let (args, ellipsis) ← deeper (arguments rules)
  let closing ← expectMark .rparen
  return ⟨.call func args ellipsis (opening.merge closing), ← spanFrom (startOf func)⟩

def bound (rules : Rules m) : m (Option Expr) := do
  if (← atMark .colon) || (← atMark .rbracket) then return none else return some (← rules.expr)

inductive Bracketed where
  | index (index : Expr)
  | list (indices : List Expr)
  | slice (low? high? : Option Expr)
  | fullSlice (low? high? max? : Option Expr)

/-- What follows each colon of a slice, of which there are at most two. -/
def upperBounds (rules : Rules m) : m (List (Option Expr)) :=
  loop [] fun bounds => do
    if bounds.length < 2 then
      if ← eatMark .colon then return .again (bounds ++ [← bound rules]) else return .done bounds
    else
      return .done bounds

def sliced (rules : Rules m) (low? : Option Expr) : m Bracketed := do
  match ← upperBounds rules with
  | [] =>
    match low? with
    | some index => return .index index
    | none => unexpected .expression
  | [high?] => return .slice low? high?
  | [high?, max?] => return .fullSlice low? high? max?
  | _ => unexpected .expression

def bracketed (rules : Rules m) : m Bracketed := do
  if ← atMark .colon then
    sliced rules none
  else
    let first ← rules.expr
    if ← atMark .comma then
      .list <$> loop [first] fun indices => do
        if ← eatMark .comma then
          if ← atMark .rbracket then return .done indices
          else return .again (indices ++ [← rules.expr])
        else
          return .done indices
    else
      sliced rules (some first)

def indexOrSlice (rules : Rules m) (base : Expr) : m Expr := phrase .indexOrSlice do
  let _ ← expectMark .lbracket
  let inner ← deeper (bracketed rules)
  let _ ← expectMark .rbracket
  let span ← spanFrom (startOf base)
  match inner with
  | .index index => return ⟨.index base index, span⟩
  | .list indices => return ⟨.indexList base indices, span⟩
  | .slice low? high? => return ⟨.slice base low? high? none false, span⟩
  | .fullSlice low? (some high) (some max) =>
    return ⟨.slice base low? (some high) (some max) true, span⟩
  | .fullSlice _ _ _ => fail .sliceBounds span

def afterDot (rules : Rules m) (base : Expr) : m Expr := do
  let _ ← expectMark .dot
  if ← eatMark .lparen then
    let type? ← if ← eatKeyword .type then pure none else some <$> typeExpr rules
    let _ ← expectMark .rparen
    return ⟨.typeAssert base type?, ← spanFrom (startOf base)⟩
  else
    let field ← name
    return ⟨.selector base field, ← spanFrom (startOf base)⟩

/-- Selectors, indices, calls and literal bodies after an operand. Directly in a header a brace
after a type name opens no literal. -/
def suffixes (rules : Rules m) (operand : Expr) : m Expr := phrase .suffixes <|
  loop operand fun expr => do
    match ← peek with
    | some (.mark .dot) => return .again (← afterDot rules expr)
    | some (.mark .lbracket) => return .again (← indexOrSlice rules expr)
    | some (.mark .lparen) => return .again (← call rules expr)
    | some (.mark .lbrace) => phrase (.brace expr.isTypeName) do
      if expr.isLiteralType && (0 ≤ (← get).level || !expr.isTypeName) then
        return .again (← composite rules (some expr))
      else
        return .done expr
    | _ => return .done expr

def body (rules : Rules m) : m Block := phrase .body <|
  atLevel 0 rules.block

def funcOperand (rules : Rules m) (start : Nat) : m Expr := do
  let _ ← expectKeyword .func
  let type ← signature rules.type
  if ← atMark .lbrace then
    let body ← deeper (body rules)
    return ⟨.funcLit type body, ← spanFrom start⟩
  else
    return ⟨.funcType type, ← spanFrom start⟩

def parenthesized (rules : Rules m) (start : Nat) : m Expr := phrase .parens do
  let _ ← expectMark .lparen
  let inner ← deeper rules.expr
  let _ ← expectMark .rparen
  return ⟨.paren inner, ← spanFrom start⟩

def operand (rules : Rules m) : m Expr := phrase .operand do
  let cursor ← get
  let literal (text : String) : m Expr := do
    skip
    return ⟨.literal text, cursor.span⟩
  match cursor.peek with
  | some (.ident name) =>
    skip
    return ⟨.ident name, cursor.span⟩
  | some (.number text) => literal text
  | some (.string text) => literal text
  | some (.rune text) => literal text
  | some (.mark .lparen) => parenthesized rules cursor.start
  | some (.keyword .func) => funcOperand rules cursor.start
  | some (.mark .lbracket) => typeExpr rules
  | some (.keyword .map) => typeExpr rules
  | some (.keyword .chan) => typeExpr rules
  | some (.keyword .struct) => typeExpr rules
  | some (.keyword .interface) => typeExpr rules
  | _ => unexpected .expression

def primary (rules : Rules m) : m Expr := phrase .primary do
  suffixes rules (← operand rules)

def unaryExpr (rules : Rules m) : m Expr := phrase .unary do
  let cursor ← get
  match cursor.peek with
  | some (.mark .star) =>
    skip
    let operand ← rules.unary
    return ⟨.star operand, ← spanFrom cursor.start⟩
  | some token =>
    if token == .mark .arrow && (← peekAfter 1) == some (.keyword .chan) then
      suffixes rules (← typeExpr rules)
    else
      match unaryOp? token with
      | some op =>
        skip
        let operand ← rules.unary
        return ⟨.unary op operand, ← spanFrom cursor.start⟩
      | none => primary rules
  | none => primary rules

/-- Operands joined by operators of at least the given precedence, grouped to the left. -/
def binaryExpr (rules : Rules m) (least : Nat) : m Expr := phrase .binary do
  loop (← unaryExpr rules) fun left => do
    match (← peek).bind binaryOp? with
    | some op =>
      if least ≤ op.precedence then
        skip
        let right ← rules.binary (op.precedence + 1)
        return .again ⟨.binary left op right, left.span.merge right.span⟩
      else
        return .done left
    | none => return .done left

def outerExpr (rules : Rules m) : m Expr := phrase .expr <|
  binaryExpr rules 1

def exprList (rules : Rules m) : m (List Expr) := phrase .exprList <|
  commaList (outerExpr rules)

end Rules

end GoSpecs
