import GoSpecs.Syntax.File

namespace GoSpecs

/-- Whether a use stands in the declaration of a local type that has type parameters: among these, or in the rest. -/
inductive Use.Site where
  | plain
  | typeParams
  | genericType
deriving DecidableEq

/-- An identifier that stands for what it names, and the names declared around it inside the body. A type parameter
is not among these names: the site tells where there may be one. -/
structure Use where
  name : String
  scope : List String
  site : Use.Site
deriving DecidableEq

namespace Use

def inTypeParams (use : Use) : Use :=
  { use with site := .typeParams }

def inType (typeParams : List Field) (use : Use) : Use :=
  if typeParams.isEmpty || use.site == .typeParams then use else { use with site := .genericType }

end Use

def Expr.bareName : Expr → List String
  | ⟨.ident name, _⟩ => [name]
  | _ => []

theorem Expr.Node.ident_or_other (node : Expr.Node) : (∃ name, node = .ident name) ∨ ∀ name, node ≠ .ident name := by
  by_cases bare : ∃ name, node = .ident name
  · exact .inl bare
  · exact .inr fun name same => bare ⟨name, same⟩

def Expr.defines (define : Bool) (target : Expr) : List String :=
  if define then target.bareName else []

def Decl.binds : Decl → List String
  | .imports _ => []
  | .func _ => []
  | .types specs _ => specs.map (·.name)
  | .values _ specs _ => specs.flatMap (·.names)

mutual

def Stmt.binds : Stmt → List String
  | ⟨node, _⟩ => node.binds

def Stmt.Node.binds : Stmt.Node → List String
  | .assign targets op _ => targets.flatMap (·.defines (op == .define))
  | .decl decl => decl.binds
  | .labeled _ stmt => stmt.binds
  | _ => []

end

def bindsOfStmt? (stmt? : Option Stmt) : List String :=
  (stmt?.map (·.binds)).getD []

def bindsOfTarget? (define : Bool) (target? : Option Expr) : List String :=
  (target?.map (·.defines define)).getD []

mutual

def Expr.uses (scope : List String) : Expr → List Use
  | ⟨node, _⟩ => node.uses scope

def Expr.Node.uses (scope : List String) : Expr.Node → List Use
  | .ident name => [⟨name, scope, .plain⟩]
  | .literal _ => []
  | .composite type? elements _ _ => usesOfExpr? scope type? ++ usesOfExprs scope elements
  | .funcLit ⟨params, results⟩ body =>
    let inner := (params ++ results).flatMap (·.names) ++ scope
    usesOfFields inner params ++ usesOfFields inner results ++ body.uses inner
  | .paren inner => inner.uses scope
  | .selector base _ => base.uses scope
  | .index base index => base.uses scope ++ index.uses scope
  | .indexList base indices => base.uses scope ++ usesOfExprs scope indices
  | .slice base low? high? max? _ =>
    base.uses scope ++ usesOfExpr? scope low? ++ usesOfExpr? scope high? ++ usesOfExpr? scope max?
  | .typeAssert base type? => base.uses scope ++ usesOfExpr? scope type?
  | .call func args _ _ => func.uses scope ++ usesOfExprs scope args
  | .star inner => inner.uses scope
  | .unary _ operand => operand.uses scope
  | .binary left _ right => left.uses scope ++ right.uses scope
  | .keyValue key value => key.innerUses scope ++ value.uses scope
  | .arrayType length? elem => usesOfExpr? scope length? ++ elem.uses scope
  | .ellipsis elem? => usesOfExpr? scope elem?
  | .mapType key value => key.uses scope ++ value.uses scope
  | .chanType _ elem => elem.uses scope
  | .funcType type => type.uses scope
  | .structType fields _ => usesOfFields scope fields
  | .interfaceType methods _ => usesOfFields scope methods

/-- A bare name is no use as the key of an element or the target of an assignment. -/
def Expr.innerUses (scope : List String) : Expr → List Use
  | ⟨.ident _, _⟩ => []
  | ⟨node, _⟩ => node.uses scope

def usesOfExpr? (scope : List String) : Option Expr → List Use
  | none => []
  | some expr => expr.uses scope

def usesOfExprs (scope : List String) : List Expr → List Use
  | [] => []
  | expr :: exprs => expr.uses scope ++ usesOfExprs scope exprs

def usesOfTarget? (scope : List String) : Option Expr → List Use
  | none => []
  | some target => target.innerUses scope

def usesOfTargets (define : Bool) (scope : List String) : List Expr → List Use
  | [] => []
  | target :: targets =>
    target.innerUses scope ++ usesOfTargets define (target.defines define ++ scope) targets

def Field.uses (scope : List String) : Field → List Use
  | ⟨_, type, _, _⟩ => type.uses scope

def usesOfField? (scope : List String) : Option Field → List Use
  | none => []
  | some field => field.uses scope

def usesOfFields (scope : List String) : List Field → List Use
  | [] => []
  | field :: fields => field.uses scope ++ usesOfFields scope fields

def FuncType.uses (scope : List String) : FuncType → List Use
  | ⟨params, results⟩ => usesOfFields scope params ++ usesOfFields scope results

def Block.uses (scope : List String) : Block → List Use
  | ⟨stmts, _, _⟩ => usesOfStmts scope stmts

def usesOfBlock? (scope : List String) : Option Block → List Use
  | none => []
  | some block => block.uses scope

def Stmt.uses (scope : List String) : Stmt → List Use
  | ⟨node, _⟩ => node.uses scope

def Stmt.Node.uses (scope : List String) : Stmt.Node → List Use
  | .expr expr => expr.uses scope
  | .assign targets op values => usesOfExprs scope values ++ usesOfTargets (op == .define) scope targets
  | .incDec expr _ => expr.uses scope
  | .send channel value => channel.uses scope ++ value.uses scope
  | .decl decl => decl.uses scope
  | .go call => call.uses scope
  | .defer call => call.uses scope
  | .ret results => usesOfExprs scope results
  | .branch _ _ => []
  | .block block => block.uses scope
  | .ifElse init? cond body else? =>
    let inner := bindsOfStmt? init? ++ scope
    usesOfStmt? scope init? ++ cond.uses inner ++ body.uses inner ++ usesOfStmt? inner else?
  | .forLoop init? cond? post? body =>
    let inner := bindsOfStmt? init? ++ scope
    usesOfStmt? scope init? ++ usesOfExpr? inner cond? ++ usesOfStmt? inner post? ++
      body.uses (bindsOfStmt? post? ++ inner)
  | .rangeLoop key? value? define expr body =>
    let inner := bindsOfTarget? define key? ++ scope
    expr.uses scope ++ usesOfTarget? scope key? ++ usesOfTarget? inner value? ++
      body.uses (bindsOfTarget? define value? ++ inner)
  | .switch init? tag? clauses =>
    let inner := bindsOfStmt? init? ++ scope
    usesOfStmt? scope init? ++ usesOfExpr? inner tag? ++ usesOfCases inner [] clauses
  | .typeSwitch init? binding? expr clauses =>
    let inner := bindsOfStmt? init? ++ scope
    usesOfStmt? scope init? ++ expr.uses inner ++ usesOfCases inner binding?.toList clauses
  | .select clauses => usesOfComms scope clauses
  | .labeled _ stmt => stmt.uses scope
  | .empty => []

def usesOfStmt? (scope : List String) : Option Stmt → List Use
  | none => []
  | some stmt => stmt.uses scope

def usesOfStmts (scope : List String) : List Stmt → List Use
  | [] => []
  | stmt :: stmts => stmt.uses scope ++ usesOfStmts (stmt.binds ++ scope) stmts

def usesOfCases (scope names : List String) : List CaseClause → List Use
  | [] => []
  | ⟨exprs, body⟩ :: clauses =>
    usesOfExprs scope exprs ++ body.uses (names ++ scope) ++ usesOfCases scope names clauses

def usesOfComms (scope : List String) : List CommClause → List Use
  | [] => []
  | ⟨comm?, body⟩ :: clauses =>
    usesOfStmt? scope comm? ++ body.uses (bindsOfStmt? comm? ++ scope) ++ usesOfComms scope clauses

/-- A local type is declared before its own parameters and definition. -/
def usesOfTypeSpecs (scope : List String) : List TypeSpec → List Use
  | [] => []
  | ⟨name, typeParams, _, type, _⟩ :: specs =>
    (usesOfFields (name :: scope) typeParams).map .inTypeParams ++
      (type.uses (name :: scope)).map (.inType typeParams) ++ usesOfTypeSpecs (name :: scope) specs

/-- Variables and constants are declared after their own values. -/
def usesOfValueSpecs (scope : List String) : List ValueSpec → List Use
  | [] => []
  | ⟨names, type?, values, _⟩ :: specs =>
    usesOfExpr? scope type? ++ usesOfExprs scope values ++ usesOfValueSpecs (names ++ scope) specs

def Decl.uses (scope : List String) : Decl → List Use
  | .imports _ => []
  | .func ⟨receiver?, _, _, typeParams, type, body?⟩ =>
    usesOfField? scope receiver? ++ usesOfFields scope typeParams ++ type.uses scope ++ usesOfBlock? scope body?
  | .types specs _ => usesOfTypeSpecs scope specs
  | .values _ specs _ => usesOfValueSpecs scope specs

end

end GoSpecs
