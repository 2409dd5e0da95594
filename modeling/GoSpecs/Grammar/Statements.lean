import GoSpecs.Grammar.Declarations

namespace GoSpecs.Rules

open GoSpecs.Parser MonadParser

variable {m : Type → Type} [MonadParser m]

def assignOp? : Token → Option AssignOp
  | .mark .eq => some .assign
  | .mark .colonEq => some .define
  | .mark .plusEq => some (.compound .add)
  | .mark .minusEq => some (.compound .sub)
  | .mark .starEq => some (.compound .mul)
  | .mark .slashEq => some (.compound .div)
  | .mark .percentEq => some (.compound .rem)
  | .mark .ampEq => some (.compound .and)
  | .mark .pipeEq => some (.compound .or)
  | .mark .caretEq => some (.compound .xor)
  | .mark .shlEq => some (.compound .shl)
  | .mark .shrEq => some (.compound .shr)
  | .mark .ampCaretEq => some (.compound .andNot)
  | _ => none

inductive Simple where
  | stmt (stmt : Stmt)
  | range (key? value? : Option Expr) (define : Bool) (expr : Expr)

def single (exprs : List Expr) (start : Nat) : m Expr := do
  match exprs with
  | [expr] => return expr
  | _ => fail .oneExpression (← spanFrom start)

def rangeClause (rules : Rules m) (targets : List Expr) (define : Bool) (start : Nat) :
    m Simple := do
  let expr ← outerExpr rules
  match targets with
  | [] => return .range none none define expr
  | [key] => return .range (some key) none define expr
  | [key, value] => return .range (some key) (some value) define expr
  | _ => fail .rangeVariables (← spanFrom start)

def assignment (rules : Rules m) (rangeAllowed : Bool) (targets : List Expr) (op : AssignOp)
    (start : Nat) : m Simple := do
  skip
  let mayRange := rangeAllowed && (op == .assign || op == .define)
  if ← pure mayRange <&&> eatKeyword .range then
    rangeClause rules targets (op == .define) start
  else
    let values ← exprList rules
    return .stmt ⟨.assign targets op values, ← spanFrom start⟩

def simpleOrRange (rules : Rules m) (rangeAllowed : Bool) : m Simple := phrase .simpleOrRange do
  let start ← Parser.start
  if ← pure rangeAllowed <&&> eatKeyword .range then
    rangeClause rules [] false start
  else
    let exprs ← exprList rules
    let next ← peek
    match next.bind assignOp?, next with
    | some op, _ => assignment rules rangeAllowed exprs op start
    | none, some (.mark .inc) =>
      skip
      let expr ← single exprs start
      return .stmt ⟨.incDec expr true, ← spanFrom start⟩
    | none, some (.mark .dec) =>
      skip
      let expr ← single exprs start
      return .stmt ⟨.incDec expr false, ← spanFrom start⟩
    | none, some (.mark .arrow) =>
      skip
      let channel ← single exprs start
      let value ← outerExpr rules
      return .stmt ⟨.send channel value, ← spanFrom start⟩
    | none, _ =>
      let expr ← single exprs start
      return .stmt ⟨.expr expr, ← spanFrom start⟩

def simple (rules : Rules m) : m Stmt := phrase .simple do
  match ← simpleOrRange rules false with
  | .stmt stmt => return stmt
  | .range _ _ _ expr => fail .rangeClause expr.span

def anchored (anchor : Anchor) (comments : List Comment) : List AnchoredComment :=
  comments.map fun comment => ⟨anchor, comment⟩

def endsList : Option Token → Bool
  | none => true
  | some (.mark .rbrace) => true
  | some (.keyword .case) => true
  | some (.keyword .default) => true
  | _ => false

def startsClause : Option Token → Bool
  | some (.keyword .case) => true
  | some (.keyword .default) => true
  | _ => false

/-- The statement at `index` of its list and the comments that belong to it. Comments inside it move
above it. -/
def listed (stmt : m Stmt) (index : Nat) : m (Stmt × List AnchoredComment) := do
  let leading ← commentsBefore (← Parser.start)
  let stmt ← stmt
  let stop := stmt.span.stop?.getD 0
  let inner ← commentsBefore stop
  let trailing ← trailingComment stop
  return (stmt, anchored (.before index) (leading ++ inner) ++
    anchored (.after index) trailing.toList)

def stmtList (rules : Rules m) : m (List Stmt × List AnchoredComment) := phrase .stmtList <|
  loop ([], []) fun (stmts, comments) => do
    if endsList (← peek) then
      return .done (stmts, comments)
    else if ← eatSemicolon then
      return .again (stmts, comments)
    else
      let (stmt, taken) ← listed rules.stmt stmts.length
      unless startsClause (← peek) do lineEnd
      return .again (stmts ++ [stmt], comments ++ taken)

def blockStmts (rules : Rules m) : m Block := phrase .block do
  let opening ← expectMark .lbrace
  let (stmts, comments) ← stmtList rules
  let closingComments ← commentsBefore (← Parser.start)
  let closing ← expectMark .rbrace
  return ⟨stmts, comments ++ anchored .atEnd closingComments, opening.merge closing⟩

def clauseBody (rules : Rules m) (start : Nat) : m Block := phrase .clauseBody do
  let (stmts, comments) ← stmtList rules
  let closing ← if ← atMark .rbrace then commentsBefore (← Parser.start) else pure []
  return ⟨stmts, comments ++ anchored .atEnd closing, ← spanFrom start⟩

def ifHeader (rules : Rules m) : m (Option Stmt × Expr) := phrase .ifHeader do
  let first? ← if ← atSemicolon then pure none else some <$> simple rules
  if ← eatSemicolon then
    return (first?, ← outerExpr rules)
  else
    match first? with
    | some ⟨.expr cond, _⟩ => return (none, cond)
    | _ => unexpected .ifCondition

def elseBranch (rules : Rules m) : m Stmt := do
  match ← peek with
  | some (.keyword .if) => rules.ifElse
  | some (.mark .lbrace) =>
    let start ← Parser.start
    let block ← blockStmts rules
    return ⟨.block block, ← spanFrom start⟩
  | _ => unexpected .elseBranch

def ifStmt (rules : Rules m) : m Stmt := phrase .ifStmt do
  let start ← Parser.start
  let _ ← expectKeyword .if
  let (init?, cond) ← inHeader (ifHeader rules)
  let body ← blockStmts rules
  let else? ← if ← eatKeyword .else then some <$> elseBranch rules else pure none
  return ⟨.ifElse init? cond body else?, ← spanFrom start⟩

inductive LoopHeader where
  | clauses (init? : Option Stmt) (cond? : Option Expr) (post? : Option Stmt)
  | range (key? value? : Option Expr) (define : Bool) (expr : Expr)

def forClauses (rules : Rules m) (first? : Option Stmt) : m LoopHeader := do
  if ← eatSemicolon then
    let cond? ← if ← atSemicolon then pure none else some <$> outerExpr rules
    expectSemicolon
    let post? ← if ← atMark .lbrace then pure none else some <$> simple rules
    return .clauses first? cond? post?
  else
    match first? with
    | some ⟨.expr cond, _⟩ => return .clauses none (some cond) none
    | _ => unexpected .forCondition

def forHeader (rules : Rules m) : m LoopHeader := phrase .forHeader do
  if ← atMark .lbrace then
    return .clauses none none none
  else if ← atSemicolon then
    forClauses rules none
  else
    match ← simpleOrRange rules true with
    | .range key? value? define expr => return .range key? value? define expr
    | .stmt first => forClauses rules (some first)

def forStmt (rules : Rules m) : m Stmt := phrase .forStmt do
  let start ← Parser.start
  let _ ← expectKeyword .for
  let header ← inHeader (forHeader rules)
  let body ← blockStmts rules
  let span ← spanFrom start
  match header with
  | .clauses init? cond? post? => return ⟨.forLoop init? cond? post? body, span⟩
  | .range key? value? define expr => return ⟨.rangeLoop key? value? define expr body, span⟩

def switchHeader (rules : Rules m) : m (Option Stmt × Option Stmt) := phrase .switchHeader do
  if ← atMark .lbrace then
    return (none, none)
  else
    let first? ← if ← atSemicolon then pure none else some <$> simple rules
    if ← eatSemicolon then
      if ← atMark .lbrace then return (first?, none) else return (first?, some (← simple rules))
    else
      return (none, first?)

def caseExprs (rules : Rules m) : m (List Expr) := do
  match ← peek with
  | some (.keyword .case) =>
    skip
    exprList rules
  | some (.keyword .default) =>
    skip
    return []
  | _ => unexpected .clause

def caseClause (rules : Rules m) : m CaseClause := phrase .caseClause do
  let start ← Parser.start
  let exprs ← caseExprs rules
  let _ ← expectMark .colon
  return ⟨exprs, ← clauseBody rules start⟩

def clauses {α : Type} (clause : m α) : m (List α) := do
  let _ ← expectMark .lbrace
  let clauses ← loop [] fun clauses => do
    if ← atMark .rbrace then return .done clauses else return .again (clauses ++ [← clause])
  let _ ← expectMark .rbrace
  return clauses

def guarded? : Expr → Option Expr
  | ⟨.typeAssert base none, _⟩ => some base
  | _ => none

/-- A switch with its clauses. Only a guard makes a type switch. -/
def switchNode (start : Nat) (init? header? : Option Stmt) (clauses : List CaseClause) :
    m Stmt.Node := do
  match header? with
  | none => return .switch init? none clauses
  | some ⟨.expr tag, _⟩ =>
    match guarded? tag with
    | some expr => return .typeSwitch init? none expr clauses
    | none => return .switch init? (some tag) clauses
  | some ⟨.assign [target] .define [value], _⟩ =>
    match guarded? value, target with
    | some expr, ⟨.ident name, _⟩ => return .typeSwitch init? (some name) expr clauses
    | some _, _ => fail .switchBinding (← spanFrom start)
    | none, _ => fail .switchTag (← spanFrom start)
  | some _ => fail .switchTag (← spanFrom start)

def switchStmt (rules : Rules m) : m Stmt := phrase .switchStmt do
  let start ← Parser.start
  let _ ← expectKeyword .switch
  let (init?, header?) ← inHeader (switchHeader rules)
  let clauses ← clauses (caseClause rules)
  let node ← switchNode start init? header? clauses
  return ⟨node, ← spanFrom start⟩

def comm? (rules : Rules m) : m (Option Stmt) := do
  match ← peek with
  | some (.keyword .case) =>
    skip
    return some (← simple rules)
  | some (.keyword .default) =>
    skip
    return none
  | _ => unexpected .clause

def commClause (rules : Rules m) : m CommClause := do
  let start ← Parser.start
  let comm? ← Rules.comm? rules
  let _ ← expectMark .colon
  return ⟨comm?, ← clauseBody rules start⟩

def selectStmt (rules : Rules m) : m Stmt := phrase .selectStmt do
  let start ← Parser.start
  let _ ← expectKeyword .select
  let clauses ← clauses (commClause rules)
  return ⟨.select clauses, ← spanFrom start⟩

/-- The statement after a label; a closing brace stands for an empty one. -/
def labeledInner (rules : Rules m) (start : Nat) : m Stmt := do
  if ← atMark .rbrace then return ⟨.empty, ← spanFrom start⟩ else rules.stmt

def labeled (rules : Rules m) (start : Nat) : m Stmt.Node := do
  let label ← name
  let _ ← expectMark .colon
  return .labeled label (← labeledInner rules start)

def results (rules : Rules m) : m (List Expr) := do
  match ← peek with
  | none => return []
  | some (.mark .rbrace) => return []
  | some (.semicolon _) => return []
  | _ => exprList rules

def branch (kind : BranchKind) : m Stmt.Node := do
  skip
  return .branch kind (← if ← atIdent then some <$> name else pure none)

def plainNode? (rules : Rules m) : Option Token → Option (m Stmt.Node)
  | some (.keyword .var) => some (.decl <$> valueDecl rules .var)
  | some (.keyword .const) => some (.decl <$> valueDecl rules .const)
  | some (.keyword .type) => some (.decl <$> typeDecl rules)
  | some (.keyword .go) => some do
    skip
    return .go (← outerExpr rules)
  | some (.keyword .defer) => some do
    skip
    return .defer (← outerExpr rules)
  | some (.keyword .return) => some do
    skip
    return .ret (← results rules)
  | some (.keyword .break) => some (branch .break)
  | some (.keyword .continue) => some (branch .continue)
  | some (.keyword .goto) => some (branch .goto)
  | some (.keyword .fallthrough) => some do
    skip
    return .branch .fallthrough none
  | some (.mark .lbrace) => some (.block <$> blockStmts rules)
  | _ => none

def stmtRule (rules : Rules m) : m Stmt := phrase .stmt do
  let start ← Parser.start
  let next ← peek
  match next with
  | some (.keyword .if) => ifStmt rules
  | some (.keyword .for) => forStmt rules
  | some (.keyword .switch) => switchStmt rules
  | some (.keyword .select) => selectStmt rules
  | _ =>
    if isIdent next && (← peekAfter 1) == some (.mark .colon) then
      let node ← labeled rules start
      return ⟨node, ← spanFrom start⟩
    else
      match plainNode? rules next with
      | some parser =>
        let node ← parser
        return ⟨node, ← spanFrom start⟩
      | none => simple rules

end GoSpecs.Rules
