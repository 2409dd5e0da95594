import GoSpecs.Grammar.Cursor
import GoSpecs.Syntax.Tree

namespace GoSpecs

structure Rules (m : Type → Type := Parser) where
  type : m Expr
  binary : Nat → m Expr
  unary : m Expr
  elided : m Expr
  block : m Block
  stmt : m Stmt
  ifElse : m Stmt

variable {m : Type → Type} [MonadParser m]

open MonadParser (phrase)

namespace Rules

def expr (rules : Rules m) : m Expr :=
  phrase .expr (rules.binary 1)

def exhausted : Rules m where
  type := do Parser.fail .nesting (← get).span
  binary := fun _ => do Parser.fail .nesting (← get).span
  unary := do Parser.fail .nesting (← get).span
  elided := do Parser.fail .nesting (← get).span
  block := do Parser.fail .nesting (← get).span
  stmt := do Parser.fail .nesting (← get).span
  ifElse := do Parser.fail .nesting (← get).span

end Rules

namespace Parser

def iterate {σ α : Type} (step : σ → m (Step σ α)) : (fuel : Nat) → σ → m α
  | 0, _ => do fail .nesting (← get).span
  | fuel + 1, state => do
    match ← MonadParser.round .tokens (step state) with
    | .again state => iterate step fuel state
    | .done result => return result

/-- Repeats `step` until it is done. A round that is followed by another reads a token. -/
def loop {σ α : Type} (state : σ) (step : σ → m (Step σ α)) : m α := do
  iterate step ((← get).rest.length + 1) state

/-- Goes over a list. -/
def visit {σ β : Type} (step : σ → β → m σ) : σ → List β → m σ
  | state, [] => return state
  | state, entry :: entries => do
    let outcome ← MonadParser.round .entries do
      let state ← step state entry
      return if entries.isEmpty then .done state else .again state
    match outcome with
    | .again state => visit step state entries
    | .done state => return state

def commaList {α : Type} (entry : m α) : m (List α) := do
  loop [← entry] fun entries => do
    if ← eatMark .comma then
      return .again (entries ++ [← entry])
    else
      return .done entries

/-- Entries with commas between them and maybe one at the end, up to a closing bracket, which is not
read. -/
def listUntil {α : Type} (close : Mark) (entry : m α) : m (List α) :=
  loop [] fun entries => do
    if ← atMark close then
      return .done entries
    else
      let entries := entries ++ [← entry]
      if ← eatMark .comma then return .again entries else return .done entries

def linesUntil {α : Type} (close : Mark) (entry : m α) : m (List α) :=
  loop [] fun entries => do
    if ← eatSemicolon then
      return .again entries
    else if ← atMark close then
      return .done entries
    else
      let entries := entries ++ [← entry]
      lineEnd
      return .again entries

end Parser

end GoSpecs
