import GoSpecs.Grammar.Rules

namespace GoSpecs.Rules

open GoSpecs.Parser MonadParser

variable {m : Type → Type} [MonadParser m]

/-- An entry of a parameter list before it is known whether names come with types. -/
structure ParamEntry where
  name? : Option (String × Span)
  type? : Option Expr

def ParamEntry.unnamed (entry : ParamEntry) : Field :=
  let type :=
    match entry.type?, entry.name? with
    | some type, _ => type
    | none, some (name, span) => ⟨.ident name, span⟩
    | none, none => ⟨.ident "_", .detached⟩
  ⟨[], type, none, none⟩

/-- Names wait for the type of a later entry. There is none if an entry has no name or the last
names get no type. -/
def namedFields? (waiting : List String) : List ParamEntry → Option (List Field)
  | [] => if waiting.isEmpty then some [] else none
  | ⟨some (name, _), none⟩ :: entries => namedFields? (waiting ++ [name]) entries
  | ⟨some (name, _), some type⟩ :: entries => do
    let fields ← namedFields? [] entries
    return ⟨waiting ++ [name], type, none, none⟩ :: fields
  | ⟨none, _⟩ :: _ => none

def nameEntry (start : Nat) : List Field × List String → ParamEntry → m (List Field × List String)
  | (fields, waiting), ⟨some (name, _), none⟩ => return (fields, waiting ++ [name])
  | (fields, waiting), ⟨some (name, _), some type⟩ =>
    return (fields ++ [⟨waiting ++ [name], type, none, none⟩], [])
  | _, ⟨none, _⟩ => do fail .mixedParams (← spanFrom start)

def namedParams (start : Nat) (entries : List ParamEntry) : m (List Field) := do
  let (fields, waiting) ← visit (nameEntry start) ([], []) entries
  if waiting.isEmpty then return fields else fail .mixedParams (← spanFrom start)

def paramType (type : m Expr) : m Expr := phrase .paramType do
  let start ← Parser.start
  if ← eatMark .ellipsis then
    let elem ← type
    return ⟨.ellipsis (some elem), ← spanFrom start⟩
  else
    type

def paramEntry (type : m Expr) : m ParamEntry := do
  if ← atIdent then
    match ← peekAfter 1 with
    | some (.mark .comma) => return ⟨some (← ident), none⟩
    | some (.mark .rparen) => return ⟨some (← ident), none⟩
    | some (.mark .dot) => return ⟨none, some (← type)⟩
    | _ =>
      let name ← ident
      return ⟨some name, some (← paramType type)⟩
  else
    return ⟨none, some (← paramType type)⟩

/-- A parenthesized list of parameters or results. `(a, b int)` and `(int, string)` differ only in
whether some entry has both a name and a type. -/
def params (type : m Expr) : m (List Field) := phrase .params do
  let start ← Parser.start
  let _ ← expectMark .lparen
  let entries ← listUntil .rparen (paramEntry type)
  let _ ← expectMark .rparen
  if entries.any fun entry => entry.name?.isSome && entry.type?.isSome then
    namedParams start entries
  else
    return entries.map ParamEntry.unnamed

def startsType : Option Token → Bool
  | some (.ident _) => true
  | some (.mark .star) => true
  | some (.mark .lbracket) => true
  | some (.mark .arrow) => true
  | some (.mark .lparen) => true
  | some (.keyword .map) => true
  | some (.keyword .chan) => true
  | some (.keyword .func) => true
  | some (.keyword .struct) => true
  | some (.keyword .interface) => true
  | _ => false

def signature (type : m Expr) : m FuncType := phrase .signature do
  let params ← Rules.params type
  if ← atMark .lparen then
    return ⟨params, ← Rules.params type⟩
  else if startsType (← peek) then
    return ⟨params, [⟨[], ← type, none, none⟩]⟩
  else
    return ⟨params, []⟩

def constraintTerm (type : m Expr) : m Expr := phrase .constraintTerm do
  let start ← Parser.start
  if ← eatMark .tilde then
    let operand ← type
    return ⟨.unary .tilde operand, ← spanFrom start⟩
  else
    type

def constraint (type : m Expr) : m Expr := phrase .constraint do
  loop (← constraintTerm type) fun left => do
    if ← eatMark .pipe then
      let right ← constraintTerm type
      return .again ⟨.binary left .or right, left.span.merge right.span⟩
    else
      return .done left

/-- Type parameters `[K comparable, V any]`; names that share a constraint share a field. -/
def typeParams (type : m Expr) : m (List Field) := phrase .typeParams do
  let start ← Parser.start
  let _ ← expectMark .lbracket
  let entries ← listUntil .rbracket do
    let name ← ident
    if (← atMark .comma) || (← atMark .rbracket) then
      return (⟨some name, none⟩ : ParamEntry)
    else
      return ⟨some name, some (← constraint type)⟩
  let _ ← expectMark .rbracket
  match namedFields? [] entries with
  | some (field :: fields) => return field :: fields
  | _ => fail .unconstrainedTypeParam (← spanFrom start)

def atEmbedded : m Bool := do
  match ← peek with
  | some (.mark .star) => return true
  | some (.ident _) =>
    match ← peekAfter 1 with
    | some (.mark .dot) => return true
    | some (.mark .rbrace) => return true
    | some (.semicolon _) => return true
    | some (.string _) => return true
    | _ => return false
  | _ => unexpected .fieldOrEmbedded

def tag? : m (Option String) := do
  match ← peek with
  | some (.string text) =>
    skip
    return some text
  | _ => return none

def structField (type : m Expr) : m Field := do
  let names ← if ← atEmbedded then pure [] else commaList name
  let type ← type
  let tag ← Rules.tag?
  return ⟨names, type, tag, ← trailingComment (← lastEnd)⟩

def interfaceElem (type : m Expr) : m Field := do
  if (← atIdent) && (← peekAfter 1) == some (.mark .lparen) then
    let name ← name
    let start ← Parser.start
    let method ← signature type
    let span ← spanFrom start
    return ⟨[name], ⟨.funcType method, span⟩, none, ← trailingComment (← lastEnd)⟩
  else
    let constraint ← constraint type
    return ⟨[], constraint, none, ← trailingComment (← lastEnd)⟩

def braced {α : Type} (entry : m α) : m (List α × Span) := do
  let opening ← expectMark .lbrace
  let entries ← linesUntil .rbrace entry
  let closing ← expectMark .rbrace
  return (entries, opening.merge closing)

def typeArgs (type : m Expr) (base : Expr) (start : Nat) : m Expr := phrase .typeArgs do
  let _ ← expectMark .lbracket
  let args ← loop [← type] fun args => do
    if ← eatMark .comma then
      if ← atMark .rbracket then return .done args else return .again (args ++ [← type])
    else
      return .done args
  let _ ← expectMark .rbracket
  let span ← spanFrom start
  match args with
  | [arg] => return ⟨.index base arg, span⟩
  | args => return ⟨.indexList base args, span⟩

def typeName (start : Nat) : m Expr := do
  let (name, span) ← ident
  if (← atMark .dot) && isIdent (← peekAfter 1) then
    skip
    let field ← Parser.name
    return ⟨.selector ⟨.ident name, span⟩ field, ← spanFrom start⟩
  else
    return ⟨.ident name, ← spanFrom start⟩

def arrayLength (rules : Rules m) : m (Option Expr) := phrase .arrayLength do
  let cursor ← get
  match cursor.peek with
  | some (.mark .rbracket) => return none
  | some (.mark .ellipsis) =>
    skip
    return some ⟨.ellipsis none, cursor.span⟩
  | _ => return some (← deeper rules.expr)

def typeNode (rules : Rules m) : m Expr.Node := do
  match ← peek with
  | some (.mark .star) =>
    skip
    return .star (← rules.type)
  | some (.mark .lparen) =>
    skip
    let inner ← rules.type
    let _ ← expectMark .rparen
    return .paren inner
  | some (.mark .lbracket) =>
    skip
    let length ← arrayLength rules
    let _ ← expectMark .rbracket
    return .arrayType length (← rules.type)
  | some (.keyword .map) =>
    skip
    let _ ← expectMark .lbracket
    let key ← rules.type
    let _ ← expectMark .rbracket
    return .mapType key (← rules.type)
  | some (.keyword .chan) =>
    skip
    let dir := if ← eatMark .arrow then ChanDir.send else ChanDir.both
    return .chanType dir (← rules.type)
  | some (.mark .arrow) =>
    skip
    let _ ← expectKeyword .chan
    return .chanType .recv (← rules.type)
  | some (.keyword .func) =>
    skip
    return .funcType (← signature rules.type)
  | some (.keyword .struct) =>
    skip
    let (fields, braces) ← phrase .structFields (braced (structField rules.type))
    return .structType fields braces
  | some (.keyword .interface) =>
    skip
    let (methods, braces) ← phrase .interfaceElems (braced (interfaceElem rules.type))
    return .interfaceType methods braces
  | _ => unexpected .type

def typeExpr (rules : Rules m) : m Expr := phrase .type do
  let start ← Parser.start
  if ← atIdent then
    let base ← typeName start
    if ← atMark .lbracket then typeArgs rules.type base start else return base
  else
    let node ← typeNode rules
    return ⟨node, ← spanFrom start⟩

end GoSpecs.Rules
