import GoSpecs.Proofs.Syntax.Scope

namespace GoSpecs

abbrev Filling := StateM (List Expr.Node)

/-- The name stays where the nodes are at their end. -/
def fillUse (name : String) : Filling Expr.Node :=
  modifyGet fun nodes => (nodes.headD (.ident name), nodes.tail)

mutual

def Expr.fill : Expr → Filling Expr
  | ⟨node, span⟩ => return ⟨← node.fill, span⟩

def Expr.Node.fill : Expr.Node → Filling Expr.Node
  | .ident name => fillUse name
  | .literal text => return .literal text
  | .composite type? elements braces comments => do
    let type? ← fillExpr? type?
    let elements ← fillExprs elements
    return .composite type? elements braces comments
  | .funcLit ⟨params, results⟩ body => do
    let params ← fillFields params
    let results ← fillFields results
    let body ← body.fill
    return .funcLit ⟨params, results⟩ body
  | .paren inner => return .paren (← inner.fill)
  | .selector base field => return .selector (← base.fill) field
  | .index base index => do
    let base ← base.fill
    let index ← index.fill
    return .index base index
  | .indexList base indices => do
    let base ← base.fill
    let indices ← fillExprs indices
    return .indexList base indices
  | .slice base low? high? max? threeIndex => do
    let base ← base.fill
    let low? ← fillExpr? low?
    let high? ← fillExpr? high?
    let max? ← fillExpr? max?
    return .slice base low? high? max? threeIndex
  | .typeAssert base type? => do
    let base ← base.fill
    let type? ← fillExpr? type?
    return .typeAssert base type?
  | .call func args ellipsis parens => do
    let func ← func.fill
    let args ← fillExprs args
    return .call func args ellipsis parens
  | .star inner => return .star (← inner.fill)
  | .unary op operand => return .unary op (← operand.fill)
  | .binary left op right => do
    let left ← left.fill
    let right ← right.fill
    return .binary left op right
  | .keyValue key value => do
    let key ← key.fillInner
    let value ← value.fill
    return .keyValue key value
  | .arrayType length? elem => do
    let length? ← fillExpr? length?
    let elem ← elem.fill
    return .arrayType length? elem
  | .ellipsis elem? => return .ellipsis (← fillExpr? elem?)
  | .mapType key value => do
    let key ← key.fill
    let value ← value.fill
    return .mapType key value
  | .chanType dir elem => return .chanType dir (← elem.fill)
  | .funcType type => return .funcType (← type.fill)
  | .structType fields braces => return .structType (← fillFields fields) braces
  | .interfaceType methods braces => return .interfaceType (← fillFields methods) braces

def Expr.fillInner : Expr → Filling Expr
  | ⟨.ident name, span⟩ => return ⟨.ident name, span⟩
  | ⟨node, span⟩ => return ⟨← node.fill, span⟩

def fillExpr? : Option Expr → Filling (Option Expr)
  | none => return none
  | some expr => return some (← expr.fill)

def fillExprs : List Expr → Filling (List Expr)
  | [] => return []
  | expr :: exprs => do
    let expr ← expr.fill
    let exprs ← fillExprs exprs
    return expr :: exprs

def fillTarget? : Option Expr → Filling (Option Expr)
  | none => return none
  | some target => return some (← target.fillInner)

def fillTargets : List Expr → Filling (List Expr)
  | [] => return []
  | target :: targets => do
    let target ← target.fillInner
    let targets ← fillTargets targets
    return target :: targets

def Field.fill : Field → Filling Field
  | ⟨names, type, tag?, comment⟩ => return ⟨names, ← type.fill, tag?, comment⟩

def fillField? : Option Field → Filling (Option Field)
  | none => return none
  | some field => return some (← field.fill)

def fillFields : List Field → Filling (List Field)
  | [] => return []
  | field :: fields => do
    let field ← field.fill
    let fields ← fillFields fields
    return field :: fields

def FuncType.fill : FuncType → Filling FuncType
  | ⟨params, results⟩ => do
    let params ← fillFields params
    let results ← fillFields results
    return ⟨params, results⟩

def Block.fill : Block → Filling Block
  | ⟨stmts, comments, span⟩ => return ⟨← fillStmts stmts, comments, span⟩

def fillBlock? : Option Block → Filling (Option Block)
  | none => return none
  | some block => return some (← block.fill)

def Stmt.fill : Stmt → Filling Stmt
  | ⟨node, span⟩ => return ⟨← node.fill, span⟩

def Stmt.Node.fill : Stmt.Node → Filling Stmt.Node
  | .expr expr => return .expr (← expr.fill)
  | .assign targets op values => do
    let values ← fillExprs values
    let targets ← fillTargets targets
    return .assign targets op values
  | .incDec expr inc => return .incDec (← expr.fill) inc
  | .send channel value => do
    let channel ← channel.fill
    let value ← value.fill
    return .send channel value
  | .decl decl => return .decl (← decl.fill)
  | .go call => return .go (← call.fill)
  | .defer call => return .defer (← call.fill)
  | .ret results => return .ret (← fillExprs results)
  | .branch kind label? => return .branch kind label?
  | .block block => return .block (← block.fill)
  | .ifElse init? cond body else? => do
    let init? ← fillStmt? init?
    let cond ← cond.fill
    let body ← body.fill
    let else? ← fillStmt? else?
    return .ifElse init? cond body else?
  | .forLoop init? cond? post? body => do
    let init? ← fillStmt? init?
    let cond? ← fillExpr? cond?
    let post? ← fillStmt? post?
    let body ← body.fill
    return .forLoop init? cond? post? body
  | .rangeLoop key? value? define expr body => do
    let expr ← expr.fill
    let key? ← fillTarget? key?
    let value? ← fillTarget? value?
    let body ← body.fill
    return .rangeLoop key? value? define expr body
  | .switch init? tag? clauses => do
    let init? ← fillStmt? init?
    let tag? ← fillExpr? tag?
    let clauses ← fillCases clauses
    return .switch init? tag? clauses
  | .typeSwitch init? binding? expr clauses => do
    let init? ← fillStmt? init?
    let expr ← expr.fill
    let clauses ← fillCases clauses
    return .typeSwitch init? binding? expr clauses
  | .select clauses => return .select (← fillComms clauses)
  | .labeled label stmt => return .labeled label (← stmt.fill)
  | .empty => return .empty

def fillStmt? : Option Stmt → Filling (Option Stmt)
  | none => return none
  | some stmt => return some (← stmt.fill)

def fillStmts : List Stmt → Filling (List Stmt)
  | [] => return []
  | stmt :: stmts => do
    let stmt ← stmt.fill
    let stmts ← fillStmts stmts
    return stmt :: stmts

def fillCases : List CaseClause → Filling (List CaseClause)
  | [] => return []
  | ⟨exprs, body⟩ :: clauses => do
    let exprs ← fillExprs exprs
    let body ← body.fill
    let clauses ← fillCases clauses
    return ⟨exprs, body⟩ :: clauses

def fillComms : List CommClause → Filling (List CommClause)
  | [] => return []
  | ⟨comm?, body⟩ :: clauses => do
    let comm? ← fillStmt? comm?
    let body ← body.fill
    let clauses ← fillComms clauses
    return ⟨comm?, body⟩ :: clauses

def fillTypeSpecs : List TypeSpec → Filling (List TypeSpec)
  | [] => return []
  | ⟨name, typeParams, isAlias, type, comment⟩ :: specs => do
    let typeParams ← fillFields typeParams
    let type ← type.fill
    let specs ← fillTypeSpecs specs
    return ⟨name, typeParams, isAlias, type, comment⟩ :: specs

def fillValueSpecs : List ValueSpec → Filling (List ValueSpec)
  | [] => return []
  | ⟨names, type?, values, comment⟩ :: specs => do
    let type? ← fillExpr? type?
    let values ← fillExprs values
    let specs ← fillValueSpecs specs
    return ⟨names, type?, values, comment⟩ :: specs

def Decl.fill : Decl → Filling Decl
  | .imports group => return .imports group
  | .func ⟨receiver?, name, nameSpan, typeParams, type, body?⟩ => do
    let receiver? ← fillField? receiver?
    let typeParams ← fillFields typeParams
    let type ← type.fill
    let body? ← fillBlock? body?
    return .func ⟨receiver?, name, nameSpan, typeParams, type, body?⟩
  | .types specs grouped => return .types (← fillTypeSpecs specs) grouped
  | .values kind specs grouped => return .values kind (← fillValueSpecs specs) grouped

end

/-- The body with these nodes in the places of its uses. -/
def Block.withUses (body : Block) (nodes : List Expr.Node) : Block :=
  (body.fill.run nodes).1

/-- A node for each of the uses is what there is to fill, and gives the result. -/
def Fills {α : Type} (node : Use → Expr.Node) (uses : List Use) (filling : Filling α) (result : α) : Prop :=
  ∀ rest, filling.run (uses.map node ++ rest) = (result, rest)

section

variable {α β : Type} {node : Use → Expr.Node} {uses more : List Use}

theorem fills_use (use : Use) : Fills node [use] (fillUse use.name) (node use) :=
  fun _ => rfl

theorem fills_pure (result : α) : Fills node [] (pure result) result :=
  fun _ => rfl

theorem Fills.bind {first : Filling β} {next : β → Filling α} {value : β} {result : α}
    (one : Fills node uses first value) (two : Fills node more (next value) result) :
    Fills node (uses ++ more) (first >>= next) result := by
  intro rest
  have start := one (more.map node ++ rest)
  rw [← List.append_assoc, ← List.map_append] at start
  rw [StateT.run_bind, start]
  exact two rest

theorem Fills.make {first : Filling β} {value : β} (one : Fills node uses first value) (make : β → α) :
    Fills node uses (first >>= fun value => pure (make value)) (make value) := by
  have last : Fills node [] (pure (make value)) (make value) := fills_pure _
  have whole : Fills node (uses ++ []) (first >>= fun value => pure (make value)) (make value) := one.bind last
  rwa [List.append_nil] at whole

end

namespace StateM

variable {σ α β : Type} (state : σ)

theorem run_pure (result : α) : (pure result : StateM σ α).run state = (result, state) := rfl

theorem run_bind (first : StateM σ α) (next : α → StateM σ β) :
    (first >>= next).run state = (next (first.run state).1).run (first.run state).2 := rfl

theorem run_map (change : α → β) (first : StateM σ α) :
    (change <$> first).run state = (change (first.run state).1, (first.run state).2) := rfl

end StateM

namespace Use

def node (use : Use) : Expr.Node :=
  .ident use.name

@[simp] theorem name_inTypeParams (use : Use) : use.inTypeParams.name = use.name := rfl

@[simp] theorem scope_inTypeParams (use : Use) : use.inTypeParams.scope = use.scope := rfl

@[simp] theorem name_inType (typeParams : List Field) (use : Use) : (use.inType typeParams).name = use.name := by
  unfold inType
  split <;> rfl

@[simp] theorem scope_inType (typeParams : List Field) (use : Use) : (use.inType typeParams).scope = use.scope := by
  unfold inType
  split <;> rfl

@[simp] theorem node_comp_inTypeParams : node ∘ inTypeParams = node := rfl

@[simp] theorem node_comp_inType (typeParams : List Field) : node ∘ inType typeParams = node := by
  funext use
  simp [node]

end Use

namespace Fills

attribute [local simp high] StateM.run_pure StateM.run_bind StateM.run_map

attribute [local simp] Fills Expr.fill Expr.Node.fill fillExpr? fillExprs fillTarget? fillTargets Field.fill fillField?
  fillFields FuncType.fill Block.fill fillBlock? Stmt.fill Stmt.Node.fill fillStmt? fillStmts fillCases fillComms
  fillTypeSpecs fillValueSpecs Decl.fill Expr.uses Expr.Node.uses usesOfExpr? usesOfExprs usesOfTarget? usesOfTargets
  Field.uses usesOfField? usesOfFields FuncType.uses Block.uses usesOfBlock? Stmt.uses Stmt.Node.uses usesOfStmt?
  usesOfStmts usesOfCases usesOfComms usesOfTypeSpecs usesOfValueSpecs Decl.uses

mutual

theorem expr (scope : List String) : (expr : Expr) → Fills Use.node (expr.uses scope) expr.fill expr
  | ⟨node, span⟩ => by simp [exprNode scope node _]

theorem exprNode (scope : List String) : (node : Expr.Node) → Fills Use.node (node.uses scope) node.fill node
  | .ident name => by
    rw [Expr.Node.fill, Expr.Node.uses]
    exact fun _ => rfl
  | .literal text => by simp
  | .composite type? elements braces comments => by simp [optExpr scope type? _, exprs scope elements _]
  | .funcLit ⟨params, results⟩ body => by simp [fields _ params _, fields _ results _, block _ body _]
  | .paren inner | .star inner | .selector inner _ | .unary _ inner | .chanType _ inner => by simp [expr scope inner _]
  | .index left right | .mapType left right | .binary left _ right => by simp [expr scope left _, expr scope right _]
  | .keyValue key value => by simp [inner scope key _, expr scope value _]
  | .indexList base list | .call base list _ _ => by simp [expr scope base _, exprs scope list _]
  | .slice base low? high? max? threeIndex => by
    simp [expr scope base _, optExpr scope low? _, optExpr scope high? _, optExpr scope max? _]
  | .typeAssert base type? => by simp [expr scope base _, optExpr scope type? _]
  | .arrayType length? elem => by simp [optExpr scope length? _, expr scope elem _]
  | .ellipsis elem? => by simp [optExpr scope elem? _]
  | .funcType type => by simp [funcType scope type _]
  | .structType members _ | .interfaceType members _ => by simp [fields scope members _]

theorem inner (scope : List String) : (expr : Expr) → Fills Use.node (expr.innerUses scope) expr.fillInner expr
  | ⟨node, span⟩ => by
    have whole := (exprNode scope node).make fun node => Expr.mk node span
    rcases node.ident_or_other with ⟨name, rfl⟩ | other
    · rw [Expr.fillInner, Expr.innerUses]
      exact fills_pure _
    · rw [Expr.fillInner, Expr.innerUses]
      · exact whole
      · exact other
      · exact other

theorem optExpr (scope : List String) : (expr? : Option Expr) →
    Fills Use.node (usesOfExpr? scope expr?) (fillExpr? expr?) expr?
  | none => by simp
  | some one => by simp [expr scope one _]

theorem exprs (scope : List String) : (list : List Expr) →
    Fills Use.node (usesOfExprs scope list) (fillExprs list) list
  | [] => by simp
  | one :: list => by simp [expr scope one _, exprs scope list _]

theorem optTarget (scope : List String) : (target? : Option Expr) →
    Fills Use.node (usesOfTarget? scope target?) (fillTarget? target?) target?
  | none => by simp
  | some target => by simp [inner scope target _]

theorem targets (define : Bool) (scope : List String) : (list : List Expr) →
    Fills Use.node (usesOfTargets define scope list) (fillTargets list) list
  | [] => by simp
  | target :: list => by simp [inner scope target _, targets define _ list _]

theorem field (scope : List String) : (field : Field) → Fills Use.node (field.uses scope) field.fill field
  | ⟨names, type, tag?, comment⟩ => by simp [expr scope type _]

theorem optField (scope : List String) : (field? : Option Field) →
    Fills Use.node (usesOfField? scope field?) (fillField? field?) field?
  | none => by simp
  | some one => by simp [field scope one _]

theorem fields (scope : List String) : (list : List Field) →
    Fills Use.node (usesOfFields scope list) (fillFields list) list
  | [] => by simp
  | one :: list => by simp [field scope one _, fields scope list _]

theorem funcType (scope : List String) : (type : FuncType) → Fills Use.node (type.uses scope) type.fill type
  | ⟨params, results⟩ => by simp [fields scope params _, fields scope results _]

theorem block (scope : List String) : (block : Block) → Fills Use.node (block.uses scope) block.fill block
  | ⟨list, comments, span⟩ => by simp [stmts scope list _]

theorem optBlock (scope : List String) : (block? : Option Block) →
    Fills Use.node (usesOfBlock? scope block?) (fillBlock? block?) block?
  | none => by simp
  | some one => by simp [block scope one _]

theorem stmt (scope : List String) : (stmt : Stmt) → Fills Use.node (stmt.uses scope) stmt.fill stmt
  | ⟨node, span⟩ => by simp [stmtNode scope node _]

theorem stmtNode (scope : List String) : (node : Stmt.Node) → Fills Use.node (node.uses scope) node.fill node
  | .expr one | .go one | .defer one | .incDec one _ => by simp [expr scope one _]
  | .assign list op values => by simp [exprs scope values _, targets (op == .define) scope list _]
  | .send channel value => by simp [expr scope channel _, expr scope value _]
  | .decl one => by simp [decl scope one _]
  | .ret results => by simp [exprs scope results _]
  | .branch _ _ | .empty => by simp
  | .block one => by simp [block scope one _]
  | .ifElse init? cond body else? => by simp [optStmt scope init? _, expr _ cond _, block _ body _, optStmt _ else? _]
  | .forLoop init? cond? post? body => by
    simp [optStmt scope init? _, optExpr _ cond? _, optStmt _ post? _, block _ body _]
  | .rangeLoop key? value? define one body => by
    simp [expr scope one _, optTarget scope key? _, optTarget _ value? _, block _ body _]
  | .switch init? tag? clauses => by simp [optStmt scope init? _, optExpr _ tag? _, cases _ [] clauses _]
  | .typeSwitch init? binding? one clauses => by
    simp [optStmt scope init? _, expr _ one _, cases _ binding?.toList clauses _]
  | .select clauses => by simp [comms scope clauses _]
  | .labeled label one => by simp [stmt scope one _]

theorem optStmt (scope : List String) : (stmt? : Option Stmt) →
    Fills Use.node (usesOfStmt? scope stmt?) (fillStmt? stmt?) stmt?
  | none => by simp
  | some one => by simp [stmt scope one _]

theorem stmts (scope : List String) : (list : List Stmt) →
    Fills Use.node (usesOfStmts scope list) (fillStmts list) list
  | [] => by simp
  | one :: list => by simp [stmt scope one _, stmts _ list _]

theorem cases (scope names : List String) : (clauses : List CaseClause) →
    Fills Use.node (usesOfCases scope names clauses) (fillCases clauses) clauses
  | [] => by simp
  | ⟨list, body⟩ :: clauses => by simp [exprs scope list _, block _ body _, cases scope names clauses _]

theorem comms (scope : List String) : (clauses : List CommClause) →
    Fills Use.node (usesOfComms scope clauses) (fillComms clauses) clauses
  | [] => by simp
  | ⟨comm?, body⟩ :: clauses => by simp [optStmt scope comm? _, block _ body _, comms scope clauses _]

theorem typeSpecs (scope : List String) : (specs : List TypeSpec) →
    Fills Use.node (usesOfTypeSpecs scope specs) (fillTypeSpecs specs) specs
  | [] => by simp
  | ⟨name, typeParams, isAlias, type, comment⟩ :: specs => by
    simp [fields _ typeParams _, expr _ type _, typeSpecs _ specs _]

theorem valueSpecs (scope : List String) : (specs : List ValueSpec) →
    Fills Use.node (usesOfValueSpecs scope specs) (fillValueSpecs specs) specs
  | [] => by simp
  | ⟨names, type?, values, comment⟩ :: specs => by
    simp [optExpr scope type? _, exprs scope values _, valueSpecs _ specs _]

theorem decl (scope : List String) : (decl : Decl) → Fills Use.node (decl.uses scope) decl.fill decl
  | .imports group => by simp
  | .func ⟨receiver?, name, nameSpan, typeParams, type, body?⟩ => by
    simp [optField scope receiver? _, fields scope typeParams _, funcType scope type _, optBlock scope body? _]
  | .types specs grouped => by simp [typeSpecs scope specs _]
  | .values kind specs grouped => by simp [valueSpecs scope specs _]

end

end Fills

theorem Block.withUses_eq {node : Use → Expr.Node} {body result : Block}
    (fills : Fills node (body.uses []) body.fill result) : body.withUses ((body.uses []).map node) = result := by
  have whole := fills []
  rw [List.append_nil] at whole
  rw [Block.withUses, whole]

/-- Its own names in their places are the body. -/
theorem Block.withUses_self (body : Block) : body.withUses ((body.uses []).map Use.node) = body :=
  Block.withUses_eq (Fills.block [] body)

end GoSpecs
