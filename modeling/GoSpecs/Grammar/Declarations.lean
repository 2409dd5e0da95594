import GoSpecs.Grammar.Expressions

namespace GoSpecs.Rules

open GoSpecs.Parser MonadParser

variable {m : Type → Type} [MonadParser m]

/-- After a type's name the bracket opens type parameters and not an array type. -/
def atTypeParams : m Bool := do
  if (← atMark .lbracket) && isIdent (← peekAfter 1) then
    match ← peekAfter 2 with
    | some (.ident _) => return true
    | some (.mark .comma) => return true
    | some (.mark .tilde) => return true
    | some (.keyword .interface) => return true
    | some (.keyword .func) => return true
    | some (.keyword .map) => return true
    | some (.keyword .chan) => return true
    | some (.keyword .struct) => return true
    | _ => return false
  else
    return false

def typeSpec (rules : Rules m) : m TypeSpec := phrase .typeSpec do
  let name ← name
  let typeParams ← if ← atTypeParams then typeParams (typeExpr rules) else pure []
  let isAlias ← eatMark .eq
  let type ← typeExpr rules
  return ⟨name, typeParams, isAlias, type, none⟩

def valueType? (rules : Rules m) : m (Option Expr) := do
  match ← peek with
  | none => return none
  | some (.mark .eq) => return none
  | some (.mark .rparen) => return none
  | some (.semicolon _) => return none
  | _ => return some (← typeExpr rules)

def valueSpec (rules : Rules m) : m ValueSpec := phrase .valueSpec do
  let names ← commaList name
  let type? ← valueType? rules
  let values ← if ← eatMark .eq then exprList rules else pure []
  return ⟨names, type?, values, none⟩

/-- One specification, or several in parentheses with a comment after each. -/
def grouped {α : Type} (spec : m α) (withComment : α → Option Comment → α) :
    m (List α × Bool) := do
  if ← eatMark .lparen then
    let specs ← linesUntil .rparen do
      let spec ← spec
      return withComment spec (← trailingComment (← lastEnd))
    let _ ← expectMark .rparen
    return (specs, true)
  else
    return ([← spec], false)

def typeDecl (rules : Rules m) : m Decl := phrase .genDecl do
  skip
  let (specs, isGroup) ← grouped (typeSpec rules) fun spec comment => { spec with comment }
  return .types specs isGroup

def valueDecl (rules : Rules m) (kind : ValueKind) : m Decl := phrase .genDecl do
  skip
  let (specs, isGroup) ← grouped (valueSpec rules) fun spec comment => { spec with comment }
  return .values kind specs isGroup

end GoSpecs.Rules
