import GoSpecs.Syntax.File

namespace GoSpecs

def Field.AreUniform (fields : List Field) : Prop :=
  (∀ field ∈ fields, field.names ≠ []) ∨ ∀ field ∈ fields, field.names = []

def Anchor.IsBelow (count : Nat) : Anchor → Prop
  | .before index => index < count
  | .after index => index < count
  | .atEnd => True

/-- At most one comment for each of so many elements, in their order. -/
structure ElementComment.AreOrdered (count : Nat) (comments : List ElementComment) : Prop where
  increasing : comments.Pairwise (·.index < ·.index)
  bounded : ∀ comment ∈ comments, comment.index < count

/-- Three bounds are all there but the first, and with fewer the last is missing. -/
def AreBounds (high? max? : Option Expr) (threeIndex : Bool) : Prop :=
  max?.isSome = threeIndex ∧ (threeIndex = true → high?.isSome = true)

def Stmt.IsBranch : Stmt → Prop
  | ⟨.ifElse .., _⟩ => True
  | ⟨.block _, _⟩ => True
  | _ => False

def ImportGroup.WellFormed (group : ImportGroup) : Prop :=
  group.parenthesized = false → ∃ spec, group.specs = [spec]

/-- Without parentheses there is one specification, and the comment after it is not its own. -/
def IsGroup {α : Type} (comment : α → Option Comment) (specs : List α) (grouped : Bool) : Prop :=
  grouped = false → ∃ spec, specs = [spec] ∧ comment spec = none

mutual

@[simp] def Expr.WellFormed : Expr → Prop
  | ⟨node, _⟩ => node.WellFormed

@[simp] def Expr.Node.WellFormed : Expr.Node → Prop
  | .ident _ => True
  | .literal _ => True
  | .composite type? elements _ comments =>
    WellFormedExpr? type? ∧ WellFormedExprs elements ∧ ElementComment.AreOrdered elements.length comments
  | .funcLit type body => type.WellFormed ∧ body.WellFormed
  | .paren inner => inner.WellFormed
  | .selector base _ => base.WellFormed
  | .index base index => base.WellFormed ∧ index.WellFormed
  | .indexList base indices => base.WellFormed ∧ WellFormedExprs indices
  | .slice base low? high? max? threeIndex =>
    base.WellFormed ∧ WellFormedExpr? low? ∧ WellFormedExpr? high? ∧ WellFormedExpr? max? ∧
      AreBounds high? max? threeIndex
  | .typeAssert base type? => base.WellFormed ∧ WellFormedExpr? type?
  | .call func args _ _ => func.WellFormed ∧ WellFormedExprs args
  | .star inner => inner.WellFormed
  | .unary _ operand => operand.WellFormed
  | .binary left _ right => left.WellFormed ∧ right.WellFormed
  | .keyValue key value => key.WellFormed ∧ value.WellFormed
  | .arrayType length? elem => WellFormedExpr? length? ∧ elem.WellFormed
  | .ellipsis elem? => WellFormedExpr? elem?
  | .mapType key value => key.WellFormed ∧ value.WellFormed
  | .chanType _ elem => elem.WellFormed
  | .funcType type => type.WellFormed
  | .structType fields _ => WellFormedFields fields
  | .interfaceType methods _ => WellFormedFields methods

@[simp] def WellFormedExpr? : Option Expr → Prop
  | none => True
  | some expr => expr.WellFormed

@[simp] def WellFormedExprs : List Expr → Prop
  | [] => True
  | expr :: exprs => expr.WellFormed ∧ WellFormedExprs exprs

@[simp] def Field.WellFormed : Field → Prop
  | ⟨_, type, _, _⟩ => type.WellFormed

@[simp] def WellFormedField? : Option Field → Prop
  | none => True
  | some field => field.WellFormed

@[simp] def WellFormedFields : List Field → Prop
  | [] => True
  | field :: fields => field.WellFormed ∧ WellFormedFields fields

@[simp] def FuncType.WellFormed : FuncType → Prop
  | ⟨params, results⟩ =>
    WellFormedFields params ∧ WellFormedFields results ∧ Field.AreUniform params ∧ Field.AreUniform results

@[simp] def Block.WellFormed : Block → Prop
  | ⟨stmts, comments, _⟩ => WellFormedStmts stmts ∧ ∀ comment ∈ comments, comment.anchor.IsBelow stmts.length

@[simp] def WellFormedBlock? : Option Block → Prop
  | none => True
  | some block => block.WellFormed

@[simp] def Stmt.WellFormed : Stmt → Prop
  | ⟨node, _⟩ => node.WellFormed

@[simp] def Stmt.Node.WellFormed : Stmt.Node → Prop
  | .expr expr => expr.WellFormed
  | .assign targets _ values => WellFormedExprs targets ∧ WellFormedExprs values
  | .incDec expr _ => expr.WellFormed
  | .send channel value => channel.WellFormed ∧ value.WellFormed
  | .decl decl => decl.WellFormed
  | .go call => call.WellFormed
  | .defer call => call.WellFormed
  | .ret results => WellFormedExprs results
  | .branch _ _ => True
  | .block block => block.WellFormed
  | .ifElse init? cond body else? =>
    WellFormedStmt? init? ∧ cond.WellFormed ∧ body.WellFormed ∧ WellFormedStmt? else? ∧
      ∀ stmt ∈ else?, stmt.IsBranch
  | .forLoop init? cond? post? body =>
    WellFormedStmt? init? ∧ WellFormedExpr? cond? ∧ WellFormedStmt? post? ∧ body.WellFormed
  | .rangeLoop key? value? _ expr body =>
    WellFormedExpr? key? ∧ WellFormedExpr? value? ∧ expr.WellFormed ∧ body.WellFormed
  | .switch init? tag? clauses => WellFormedStmt? init? ∧ WellFormedExpr? tag? ∧ WellFormedCases clauses
  | .typeSwitch init? _ expr clauses => WellFormedStmt? init? ∧ expr.WellFormed ∧ WellFormedCases clauses
  | .select clauses => WellFormedComms clauses
  | .labeled _ stmt => stmt.WellFormed
  | .empty => True

@[simp] def WellFormedStmt? : Option Stmt → Prop
  | none => True
  | some stmt => stmt.WellFormed

@[simp] def WellFormedStmts : List Stmt → Prop
  | [] => True
  | stmt :: stmts => stmt.WellFormed ∧ WellFormedStmts stmts

@[simp] def CaseClause.WellFormed : CaseClause → Prop
  | ⟨exprs, body⟩ => WellFormedExprs exprs ∧ body.WellFormed

@[simp] def WellFormedCases : List CaseClause → Prop
  | [] => True
  | clause :: clauses => clause.WellFormed ∧ WellFormedCases clauses

@[simp] def CommClause.WellFormed : CommClause → Prop
  | ⟨comm?, body⟩ => WellFormedStmt? comm? ∧ body.WellFormed

@[simp] def WellFormedComms : List CommClause → Prop
  | [] => True
  | clause :: clauses => clause.WellFormed ∧ WellFormedComms clauses

@[simp] def TypeSpec.WellFormed : TypeSpec → Prop
  | ⟨_, typeParams, _, type, _⟩ => WellFormedFields typeParams ∧ Field.AreUniform typeParams ∧ type.WellFormed

@[simp] def WellFormedTypeSpecs : List TypeSpec → Prop
  | [] => True
  | spec :: specs => spec.WellFormed ∧ WellFormedTypeSpecs specs

@[simp] def ValueSpec.WellFormed : ValueSpec → Prop
  | ⟨_, type?, values, _⟩ => WellFormedExpr? type? ∧ WellFormedExprs values

@[simp] def WellFormedValueSpecs : List ValueSpec → Prop
  | [] => True
  | spec :: specs => spec.WellFormed ∧ WellFormedValueSpecs specs

@[simp] def Decl.WellFormed : Decl → Prop
  | .imports group => group.WellFormed
  | .func ⟨receiver?, _, _, typeParams, type, body?⟩ =>
    WellFormedField? receiver? ∧ WellFormedFields typeParams ∧ Field.AreUniform typeParams ∧
      type.WellFormed ∧ WellFormedBlock? body?
  | .types specs grouped => WellFormedTypeSpecs specs ∧ IsGroup TypeSpec.comment specs grouped
  | .values _ specs grouped => WellFormedValueSpecs specs ∧ IsGroup ValueSpec.comment specs grouped

end

@[simp low] theorem wellFormedExpr?_iff (expr? : Option Expr) :
    WellFormedExpr? expr? ↔ ∀ expr ∈ expr?, expr.WellFormed := by
  cases expr? <;> simp

@[simp low] theorem wellFormedField?_iff (field? : Option Field) :
    WellFormedField? field? ↔ ∀ field ∈ field?, field.WellFormed := by
  cases field? <;> simp

@[simp low] theorem wellFormedBlock?_iff (block? : Option Block) :
    WellFormedBlock? block? ↔ ∀ block ∈ block?, block.WellFormed := by
  cases block? <;> simp

@[simp low] theorem wellFormedStmt?_iff (stmt? : Option Stmt) :
    WellFormedStmt? stmt? ↔ ∀ stmt ∈ stmt?, stmt.WellFormed := by
  cases stmt? <;> simp

@[simp low] theorem wellFormedExprs_iff (exprs : List Expr) : WellFormedExprs exprs ↔ ∀ expr ∈ exprs, expr.WellFormed := by
  induction exprs with
  | nil => simp
  | cons _ _ ih => simp [ih]

@[simp low] theorem wellFormedFields_iff (fields : List Field) :
    WellFormedFields fields ↔ ∀ field ∈ fields, field.WellFormed := by
  induction fields with
  | nil => simp
  | cons _ _ ih => simp [ih]

@[simp low] theorem wellFormedStmts_iff (stmts : List Stmt) : WellFormedStmts stmts ↔ ∀ stmt ∈ stmts, stmt.WellFormed := by
  induction stmts with
  | nil => simp
  | cons _ _ ih => simp [ih]

@[simp low] theorem wellFormedCases_iff (clauses : List CaseClause) :
    WellFormedCases clauses ↔ ∀ clause ∈ clauses, clause.WellFormed := by
  induction clauses with
  | nil => simp
  | cons _ _ ih => simp [ih]

@[simp low] theorem wellFormedComms_iff (clauses : List CommClause) :
    WellFormedComms clauses ↔ ∀ clause ∈ clauses, clause.WellFormed := by
  induction clauses with
  | nil => simp
  | cons _ _ ih => simp [ih]

@[simp low] theorem wellFormedTypeSpecs_iff (specs : List TypeSpec) :
    WellFormedTypeSpecs specs ↔ ∀ spec ∈ specs, spec.WellFormed := by
  induction specs with
  | nil => simp
  | cons _ _ ih => simp [ih]

@[simp low] theorem wellFormedValueSpecs_iff (specs : List ValueSpec) :
    WellFormedValueSpecs specs ↔ ∀ spec ∈ specs, spec.WellFormed := by
  induction specs with
  | nil => simp
  | cons _ _ ih => simp [ih]

def SourceFile.WellFormed (file : SourceFile) : Prop :=
  ∀ item ∈ file.items, item.decl.WellFormed

end GoSpecs
