import GoSpecs.Layout.Blocks
import GoSpecs.Layout.Declarations
import GoSpecs.Layout.Spacing

namespace GoSpecs.Layout

def enclose (test : Bool) (text : String) : String :=
  if test then "(" ++ text ++ ")" else text

def isParen : Expr → Bool
  | ⟨.paren _, _⟩ => true
  | _ => false

def isBinary : Expr → Bool
  | ⟨.binary _ _ _, _⟩ => true
  | _ => false

def isEmptyStmt : Stmt → Bool
  | ⟨.empty, _⟩ => true
  | _ => false

/-- Colons between the bounds of a slice have blanks around them if two bounds are given and one of
them has an operator. -/
def sliceBlanks (depth : Nat) (bounds : List (Option Expr)) : Bool :=
  let given := bounds.filterMap id
  depth ≤ 1 && 1 < given.length && given.any isBinary

def boundsText (spaced : Bool) : List (Option String) → String
  | [] => ""
  | [bound] => bound.getD ""
  | bound :: next :: bounds =>
    bound.getD "" ++ (if bound.isSome && spaced then " " else "") ++ ":" ++
      (if next.isSome && spaced then " " else "") ++ boundsText spaced (next :: bounds)

def listText (lines : Lines) (brackets : Span) (list : List Expr) (comments : List ElementComment)
    (indent : Nat) (suffix : String) (flat : Unit → List String)
    (broken : Unit → List Element) : String :=
  match list.getLast? with
  | none => ""
  | some last =>
    if oneLine lines brackets then commas (flat ()) ++ suffix
    else
      let closes :=
        Lines.areBroken (lines.line? last.span.stop?) (lines.lineBefore? brackets.stop?)
      brokenList (broken ()) comments closes indent suffix

def elementAt (previous? line? : Option Nat) (text : String) (pair? : Option (String × String)) :
    Element :=
  match previous?, line? with
  | some previous, some line => ⟨previous < line, previous + 1 < line, text, pair?⟩
  | _, _ => ⟨false, false, text, pair?⟩

def typeParamList (texts : List String) : String :=
  if texts.isEmpty then "" else "[" ++ commas texts ++ "]"

def fieldText (names : List String) (type : String) : String :=
  if names.isEmpty then type else commas names ++ " " ++ type

def chanText : ChanDir → String
  | .both => "chan "
  | .send => "chan<- "
  | .recv => "<-chan "

variable (lines : Lines)

mutual

/-- An expression that stands at operand position of the given precedence. -/
def exprText (precedence depth indent : Nat) : Expr → String
  | ⟨.ident name, _⟩ => name
  | ⟨.literal text, _⟩ => text
  | ⟨.binary left op right, span⟩ =>
    let enclosed : Bool := op.precedence < precedence
    let depth := if enclosed then reduceDepth (max depth 1) else max depth 1
    let blank := if op.precedence < cutoff ⟨.binary left op right, span⟩ depth then " " else ""
    let leftText :=
      exprText op.precedence (leftDepth left op.precedence depth) indent left
    if lines.breaks left.span.stop? right.span.start? then
      enclose enclosed (leftText ++ blank ++ op.text ++ "\n" ++ tabs (indent + 1) ++
        exprText (op.precedence + 1) (depth + 1) (indent + 1) right)
    else
      enclose enclosed (leftText ++ blank ++ op.text ++ blank ++
        exprText (op.precedence + 1) (depth + 1) indent right)
  | ⟨.unary op operand, _⟩ =>
    let enclosed : Bool := unaryPrecedence < precedence
    let depth := if enclosed then reduceDepth depth else depth
    enclose enclosed (op.text ++ exprText unaryPrecedence depth indent operand)
  | ⟨.star inner, _⟩ =>
    enclose (unaryPrecedence < precedence) ("*" ++ exprText 0 1 indent inner)
  | ⟨.paren inner, _⟩ =>
    if isParen inner then exprText 0 depth indent inner
    else "(" ++ exprText 0 (reduceDepth depth) indent inner ++ ")"
  | ⟨.selector base field, _⟩ =>
    exprText suffixPrecedence depth indent base ++ "." ++ field
  | ⟨.typeAssert base type?, _⟩ =>
    let target :=
      match type? with
      | some type => exprText 0 1 indent type
      | none => "type"
    exprText suffixPrecedence depth indent base ++ ".(" ++ target ++ ")"
  | ⟨.index base index, _⟩ =>
    exprText suffixPrecedence 1 indent base ++ "[" ++ exprText 0 (depth + 1) indent index ++ "]"
  | ⟨.indexList base indices, _⟩ =>
    exprText suffixPrecedence 1 indent base ++ "[" ++
      commas (exprTexts (depth + 1) indent indices) ++ "]"
  | ⟨.slice base low? high? max? threeIndex, _⟩ =>
    let spaced := sliceBlanks depth ([low?, high?] ++ if threeIndex then [max?] else [])
    let texts := [boundText (depth + 1) indent low?, boundText (depth + 1) indent high?] ++
      if threeIndex then [boundText (depth + 1) indent max?] else []
    exprText suffixPrecedence 1 indent base ++ "[" ++ boundsText spaced texts ++ "]"
  | ⟨.call func args ellipsis parens, _⟩ =>
    let depth := if 1 < args.length then depth + 1 else depth
    exprText suffixPrecedence depth indent func ++ "(" ++
      listText lines parens args [] indent (if ellipsis then "..." else "")
        (fun _ => exprTexts depth indent args)
        (fun _ => elementTexts depth indent (lines.line? parens.start?) false args) ++ ")"
  | ⟨.composite type? elements braces comments, _⟩ =>
    let type :=
      match type? with
      | some type => exprText suffixPrecedence depth indent type
      | none => ""
    type ++ "\x7b" ++
      listText lines braces elements comments indent ""
        (fun _ => exprTexts 1 indent elements)
        (fun _ => elementTexts 1 indent (lines.line? braces.start?) false elements) ++ "\x7d"
  | ⟨.funcLit type body, _⟩ => "func" ++ signatureText indent type ++ " " ++ bodyText indent body
  | ⟨.keyValue key value, _⟩ => exprText 0 1 indent key ++ ": " ++ exprText 0 1 indent value
  | ⟨.arrayType length? elem, _⟩ =>
    "[" ++ optExprText indent length? ++ "]" ++ exprText 0 1 indent elem
  | ⟨.ellipsis elem?, _⟩ => "..." ++ optExprText indent elem?
  | ⟨.mapType key value, _⟩ =>
    "map[" ++ exprText 0 1 indent key ++ "]" ++ exprText 0 1 indent value
  | ⟨.chanType dir elem, _⟩ => chanText dir ++ exprText 0 1 indent elem
  | ⟨.funcType type, _⟩ => "func" ++ signatureText indent type
  | ⟨.structType fields braces, _⟩ =>
    memberBlock "struct" (structRows (indent + 1) fields) (oneLine lines braces) (isShort fields)
      indent
  | ⟨.interfaceType methods braces, _⟩ =>
    memberBlock "interface" (interfaceRows (indent + 1) methods) (oneLine lines braces)
      (isShort methods) indent

def optExprText (indent : Nat) : Option Expr → String
  | none => ""
  | some expr => exprText 0 1 indent expr

def boundText (depth indent : Nat) : Option Expr → Option String
  | none => none
  | some expr => some (exprText 0 depth indent expr)

def exprTexts (depth indent : Nat) : List Expr → List String
  | [] => []
  | expr :: exprs => exprText 0 depth indent expr :: exprTexts depth indent exprs

/-- The elements of a broken list. After the first line break they are indented. -/
def elementTexts (depth indent : Nat) : (previous? : Option Nat) → (broken : Bool) →
    List Expr → List Element
  | _, _, [] => []
  | previous?, broken, ⟨.keyValue key value, span⟩ :: exprs =>
    let line? := lines.line? span.start?
    let broken := broken || Lines.areBroken previous? line?
    let inner := if broken then indent + 1 else indent
    let keyText := exprText 0 1 inner key
    let valueText := exprText 0 1 inner value
    elementAt previous? line? (keyText ++ ": " ++ valueText) (some (keyText, valueText)) ::
      elementTexts depth indent (lines.line? span.stop?) broken exprs
  | previous?, broken, expr :: exprs =>
    let line? := lines.line? expr.span.start?
    let broken := broken || Lines.areBroken previous? line?
    let inner := if broken then indent + 1 else indent
    elementAt previous? line? (exprText 0 depth inner expr) none ::
      elementTexts depth indent (lines.line? expr.span.stop?) broken exprs

def fieldTexts (indent : Nat) : List Field → List String
  | [] => []
  | ⟨names, type, _, _⟩ :: fields =>
    fieldText names (exprText 0 1 indent type) :: fieldTexts indent fields

def structRows (indent : Nat) : List Field → List Row
  | [] => []
  | ⟨names, type, tag?, comment⟩ :: fields =>
    ((if names.isEmpty then [] else [commas names]) ++ [exprText 0 1 indent type] ++
      tag?.toList ++ commentCell comment) :: structRows indent fields

def interfaceRows (indent : Nat) : List Field → List Row
  | [] => []
  | ⟨[name], ⟨.funcType type, _⟩, tag?, comment⟩ :: fields =>
    ([name ++ signatureText indent type] ++ tag?.toList ++ commentCell comment) ::
      interfaceRows indent fields
  | ⟨_, type, tag?, comment⟩ :: fields =>
    ([exprText 0 1 indent type] ++ tag?.toList ++ commentCell comment) ::
      interfaceRows indent fields

def signatureText (indent : Nat) : FuncType → String
  | ⟨params, results⟩ =>
    let paramTexts := "(" ++ commas (fieldTexts indent params) ++ ")"
    let resultTexts := commas (fieldTexts indent results)
    match results with
    | [] => paramTexts
    | [⟨[], _, _, _⟩] => paramTexts ++ " " ++ resultTexts
    | _ => paramTexts ++ " (" ++ resultTexts ++ ")"

def blockLines (indent : Nat) : Block → String
  | ⟨stmts, comments, span⟩ =>
    blockText lines indent span comments (stmtLineTexts (indent + 1) stmts)

/-- A function body. One that stood on one line stays there if it is short. -/
def bodyText (indent : Nat) : Block → String
  | ⟨stmts, comments, span⟩ =>
    let short? :=
      if oneLineBody? lines span comments then shortBody? (stmtTexts (indent + 1) stmts) else none
    match short? with
    | some text => text
    | none => blockText lines indent span comments (stmtLineTexts (indent + 1) stmts)

def stmtTexts (indent : Nat) : List Stmt → List String
  | [] => []
  | stmt :: stmts => stmtText indent stmt :: stmtTexts indent stmts

/-- Statements with their indentation. A label stands one level to the left. -/
def stmtLineTexts (indent : Nat) : List Stmt → List StmtLine
  | [] => []
  | ⟨.labeled label inner, span⟩ :: stmts =>
    let rest :=
      if isEmptyStmt inner then "" else "\n" ++ tabs indent ++ stmtText indent inner
    ⟨span, tabs (indent - 1) ++ label ++ ":" ++ rest⟩ :: stmtLineTexts indent stmts
  | stmt :: stmts =>
    ⟨stmt.span, tabs indent ++ stmtText indent stmt⟩ :: stmtLineTexts indent stmts

def stmtText (indent : Nat) : Stmt → String
  | ⟨.expr expr, _⟩ => exprText 0 1 indent expr
  | ⟨.assign targets op values, _⟩ =>
    let depth := if 1 < targets.length && 1 < values.length then 2 else 1
    commas (exprTexts depth indent targets) ++ " " ++ op.text ++ " " ++
      commas (exprTexts depth indent values)
  | ⟨.incDec expr inc, _⟩ => exprText 0 2 indent expr ++ (if inc then "++" else "--")
  | ⟨.send channel value, _⟩ =>
    exprText 0 1 indent channel ++ " <- " ++ exprText 0 1 indent value
  | ⟨.decl decl, _⟩ => declText indent decl
  | ⟨.go call, _⟩ => "go " ++ exprText 0 1 indent call
  | ⟨.defer call, _⟩ => "defer " ++ exprText 0 1 indent call
  | ⟨.ret results, _⟩ =>
    if results.isEmpty then "return" else "return " ++ commas (exprTexts 1 indent results)
  | ⟨.branch kind label?, _⟩ =>
    match label? with
    | some label => kind.text ++ " " ++ label
    | none => kind.text
  | ⟨.block block, _⟩ => blockLines indent block
  | ⟨.ifElse init? cond body else?, _⟩ =>
    "if " ++ initText indent init? ++ exprText 0 1 indent cond ++ " " ++ blockLines indent body ++
      elseText indent else?
  | ⟨.forLoop init? cond? post? body, _⟩ =>
    let header :=
      if init?.isNone && post?.isNone then
        if cond?.isNone then "for " else "for " ++ optExprText indent cond? ++ " "
      else
        let post := optStmtText indent post?
        "for " ++ optStmtText indent init? ++ "; " ++ optExprText indent cond? ++ "; " ++
          (if post.isEmpty then "" else post ++ " ")
    header ++ blockLines indent body
  | ⟨.rangeLoop key? value? define expr body, _⟩ =>
    let targets :=
      match key?, value? with
      | none, _ => ""
      | some key, none => exprText 0 1 indent key ++ (if define then " := " else " = ")
      | some key, some value =>
        exprText 0 1 indent key ++ ", " ++ exprText 0 1 indent value ++
          (if define then " := " else " = ")
    "for " ++ targets ++ "range " ++ exprText 0 1 indent expr ++ " " ++ blockLines indent body
  | ⟨.switch init? tag? clauses, _⟩ =>
    "switch " ++ initText indent init? ++
      (if tag?.isNone then "" else optExprText indent tag? ++ " ") ++
      clausesText lines indent (caseTexts indent clauses)
  | ⟨.typeSwitch init? binding? expr clauses, _⟩ =>
    "switch " ++ initText indent init? ++
      (match binding? with
        | some name => name ++ " := "
        | none => "") ++
      exprText 0 1 indent expr ++ ".(type) " ++
      clausesText lines indent (caseTexts indent clauses)
  | ⟨.select clauses, _⟩ => "select " ++ clausesText lines indent (commTexts indent clauses)
  | ⟨.labeled label inner, _⟩ =>
    if isEmptyStmt inner then label ++ ":" else label ++ ": " ++ stmtText indent inner
  | ⟨.empty, _⟩ => ""

def optStmtText (indent : Nat) : Option Stmt → String
  | none => ""
  | some stmt => stmtText indent stmt

def initText (indent : Nat) : Option Stmt → String
  | none => ""
  | some stmt => stmtText indent stmt ++ "; "

def elseText (indent : Nat) : Option Stmt → String
  | none => ""
  | some stmt => " else " ++ stmtText indent stmt

def caseTexts (indent : Nat) : List CaseClause → List ClauseText
  | [] => []
  | ⟨exprs, ⟨stmts, comments, span⟩⟩ :: clauses =>
    let header :=
      if exprs.isEmpty then "default" else "case " ++ commas (exprTexts 1 indent exprs)
    let body := stmtListText lines comments (indent + 1) (stmtLineTexts (indent + 1) stmts)
    ⟨span, header, body⟩ :: caseTexts indent clauses

def commTexts (indent : Nat) : List CommClause → List ClauseText
  | [] => []
  | ⟨comm?, ⟨stmts, comments, span⟩⟩ :: clauses =>
    let header := if comm?.isNone then "default" else "case " ++ optStmtText indent comm?
    let body := stmtListText lines comments (indent + 1) (stmtLineTexts (indent + 1) stmts)
    ⟨span, header, body⟩ :: commTexts indent clauses

def typeRows (indent : Nat) (grouped : Bool) : List TypeSpec → List Row
  | [] => []
  | ⟨name, typeParams, isAlias, type, comment⟩ :: specs =>
    let typeText := exprText 0 1 (if grouped then indent + 1 else indent) type
    ([name ++ typeParamList (fieldTexts indent typeParams),
      if isAlias then "= " ++ typeText else typeText] ++ commentCell comment) ::
      typeRows indent grouped specs

def valueRows (indent : Nat) (keepsTypes : Bool) : List ValueSpec → List Row
  | [] => []
  | ⟨names, type?, values, comment⟩ :: specs =>
    ([commas names] ++ typeCell keepsTypes (boundText 1 indent type?) ++
      valueCell (exprTexts 1 indent values) ++ commentCell comment) ::
      valueRows indent keepsTypes specs

def receiverText (indent : Nat) : Option Field → String
  | none => ""
  | some ⟨names, type, _, _⟩ => "(" ++ fieldText names (exprText 0 1 indent type) ++ ") "

def optBodyText (indent : Nat) : Option Block → String
  | none => ""
  | some body => " " ++ bodyText indent body

def declText (indent : Nat) : Decl → String
  | .imports group => importText group
  | .func ⟨receiver?, name, _, typeParams, type, body?⟩ =>
    "func " ++ receiverText indent receiver? ++ name ++
      typeParamList (fieldTexts indent typeParams) ++ signatureText indent type ++
      optBodyText indent body?
  | .types specs grouped => specGroup "type" (typeRows indent grouped specs) grouped indent
  | .values kind specs grouped =>
    let keepsTypes := grouped && specs.any (·.type?.isSome)
    let inner := if grouped then indent + 1 else indent
    specGroup (valueKeyword kind) (valueRows inner keepsTypes specs) grouped indent

end

end GoSpecs.Layout
