import GoSpecs.Syntax.Tree

namespace GoSpecs.Layout

def unaryPrecedence : Nat := 6

def suffixPrecedence : Nat := 7

def reduceDepth (depth : Nat) : Nat :=
  max (depth - 1) 1

/-- The operators of an expression that are grouped without parentheses. -/
structure OperatorUse where
  sums : Bool
  products : Bool
  /-- The tightest precedence that needs blanks to keep two operators apart, or zero. -/
  clash : Nat

namespace OperatorUse

def none : OperatorUse := ⟨false, false, 0⟩

def or (a b : OperatorUse) : OperatorUse :=
  ⟨a.sums || b.sums, a.products || b.products, max a.clash b.clash⟩

def ofOp (op : BinaryOp) : OperatorUse :=
  ⟨op.precedence == 4, op.precedence == 5, 0⟩

/-- Two operators next to each other that would read as another token. -/
def ofClash : BinaryOp → Expr.Node → OperatorUse → OperatorUse
  | .div, .star _, seen => { seen with clash := 5 }
  | .and, .unary .addr _, seen => { seen with clash := 5 }
  | .and, .unary .xor _, seen => { seen with clash := 5 }
  | .add, .unary .pos _, seen => { seen with clash := max seen.clash 4 }
  | .sub, .unary .neg _, seen => { seen with clash := max seen.clash 4 }
  | _, _, seen => seen

end OperatorUse

def binaryPrecedence? : Expr → Option Nat
  | ⟨.binary _ op _, _⟩ => some op.precedence
  | _ => none

def operatorUse : Expr → OperatorUse
  | ⟨.binary left op right, _⟩ =>
    let own := OperatorUse.ofOp op
    let fromLeft :=
      match binaryPrecedence? left with
      | some inner => if op.precedence ≤ inner then own.or (operatorUse left) else own
      | none => own
    match binaryPrecedence? right with
    | some inner => if op.precedence < inner then fromLeft.or (operatorUse right) else fromLeft
    | none => OperatorUse.ofClash op right.node fromLeft
  | _ => .none

/-- Operators of a lower precedence than this have blanks around them. -/
def cutoff (expr : Expr) (depth : Nat) : Nat :=
  let use := operatorUse expr
  if use.clash != 0 then use.clash + 1
  else if depth == 1 then
    if use.sums && use.products then 5 else 6
  else 4

/-- One deeper unless the operand continues the same level of precedence. -/
def leftDepth (left : Expr) (precedence depth : Nat) : Nat :=
  if binaryPrecedence? left == some precedence then depth else depth + 1

end GoSpecs.Layout
