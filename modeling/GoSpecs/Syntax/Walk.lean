import GoSpecs.Syntax.File

namespace GoSpecs

inductive Visited where
  | expr (expr : Expr)
  | field (field : Field)

mutual

def Expr.visits : Expr → List Visited
  | ⟨node, span⟩ => .expr ⟨node, span⟩ :: node.visits

def Expr.Node.visits : Expr.Node → List Visited
  | .ident _ => []
  | .literal _ => []
  | .composite type? elements _ _ => visitsOfExpr? type? ++ visitsOfExprs elements
  | .funcLit type body => type.visits ++ body.visits
  | .paren inner => inner.visits
  | .selector base _ => base.visits
  | .index base index => base.visits ++ index.visits
  | .indexList base indices => base.visits ++ visitsOfExprs indices
  | .slice base low? high? max? _ =>
    base.visits ++ visitsOfExpr? low? ++ visitsOfExpr? high? ++ visitsOfExpr? max?
  | .typeAssert base type? => base.visits ++ visitsOfExpr? type?
  | .call func args _ _ => func.visits ++ visitsOfExprs args
  | .star inner => inner.visits
  | .unary _ operand => operand.visits
  | .binary left _ right => left.visits ++ right.visits
  | .keyValue key value => key.visits ++ value.visits
  | .arrayType length? elem => visitsOfExpr? length? ++ elem.visits
  | .ellipsis elem? => visitsOfExpr? elem?
  | .mapType key value => key.visits ++ value.visits
  | .chanType _ elem => elem.visits
  | .funcType type => type.visits
  | .structType fields _ => visitsOfFields fields
  | .interfaceType methods _ => visitsOfFields methods

def visitsOfExpr? : Option Expr → List Visited
  | none => []
  | some expr => expr.visits

def visitsOfExprs : List Expr → List Visited
  | [] => []
  | expr :: exprs => expr.visits ++ visitsOfExprs exprs

def Field.visits : Field → List Visited
  | ⟨names, type, tag?, comment⟩ => .field ⟨names, type, tag?, comment⟩ :: type.visits

def visitsOfField? : Option Field → List Visited
  | none => []
  | some field => field.visits

def visitsOfFields : List Field → List Visited
  | [] => []
  | field :: fields => field.visits ++ visitsOfFields fields

def FuncType.visits : FuncType → List Visited
  | ⟨params, results⟩ => visitsOfFields params ++ visitsOfFields results

def Block.visits : Block → List Visited
  | ⟨stmts, _, _⟩ => visitsOfStmts stmts

def visitsOfBlock? : Option Block → List Visited
  | none => []
  | some block => block.visits

def Stmt.visits : Stmt → List Visited
  | ⟨node, _⟩ => node.visits

def Stmt.Node.visits : Stmt.Node → List Visited
  | .expr expr => expr.visits
  | .assign targets _ values => visitsOfExprs targets ++ visitsOfExprs values
  | .incDec expr _ => expr.visits
  | .send channel value => channel.visits ++ value.visits
  | .decl decl => decl.visits
  | .go call => call.visits
  | .defer call => call.visits
  | .ret results => visitsOfExprs results
  | .branch _ _ => []
  | .block block => block.visits
  | .ifElse init? cond body else? =>
    visitsOfStmt? init? ++ cond.visits ++ body.visits ++ visitsOfStmt? else?
  | .forLoop init? cond? post? body =>
    visitsOfStmt? init? ++ visitsOfExpr? cond? ++ visitsOfStmt? post? ++ body.visits
  | .rangeLoop key? value? _ expr body =>
    visitsOfExpr? key? ++ visitsOfExpr? value? ++ expr.visits ++ body.visits
  | .switch init? tag? clauses =>
    visitsOfStmt? init? ++ visitsOfExpr? tag? ++ visitsOfCases clauses
  | .typeSwitch init? _ expr clauses =>
    visitsOfStmt? init? ++ expr.visits ++ visitsOfCases clauses
  | .select clauses => visitsOfComms clauses
  | .labeled _ stmt => stmt.visits
  | .empty => []

def visitsOfStmt? : Option Stmt → List Visited
  | none => []
  | some stmt => stmt.visits

def visitsOfStmts : List Stmt → List Visited
  | [] => []
  | stmt :: stmts => stmt.visits ++ visitsOfStmts stmts

def visitsOfCases : List CaseClause → List Visited
  | [] => []
  | ⟨exprs, body⟩ :: clauses => visitsOfExprs exprs ++ body.visits ++ visitsOfCases clauses

def visitsOfComms : List CommClause → List Visited
  | [] => []
  | ⟨comm?, body⟩ :: clauses => visitsOfStmt? comm? ++ body.visits ++ visitsOfComms clauses

def visitsOfTypeSpecs : List TypeSpec → List Visited
  | [] => []
  | ⟨_, typeParams, _, type, _⟩ :: specs =>
    visitsOfFields typeParams ++ type.visits ++ visitsOfTypeSpecs specs

def visitsOfValueSpecs : List ValueSpec → List Visited
  | [] => []
  | ⟨_, type?, values, _⟩ :: specs =>
    visitsOfExpr? type? ++ visitsOfExprs values ++ visitsOfValueSpecs specs

def Decl.visits : Decl → List Visited
  | .imports _ => []
  | .func ⟨receiver?, _, _, typeParams, type, body?⟩ =>
    visitsOfField? receiver? ++ visitsOfFields typeParams ++ type.visits ++ visitsOfBlock? body?
  | .types specs _ => visitsOfTypeSpecs specs
  | .values _ specs _ => visitsOfValueSpecs specs

end

namespace SourceFile

def visits (file : SourceFile) : List Visited :=
  file.items.flatMap (·.decl.visits)

def identNames (file : SourceFile) : List String :=
  file.visits.filterMap fun
    | .expr ⟨.ident name, _⟩ => some name
    | _ => none

def refersTo (file : SourceFile) (package : String) : Bool :=
  file.visits.any fun
    | .expr ⟨.selector ⟨.ident base, _⟩ _, _⟩ => base == package
    | _ => false

end SourceFile

end GoSpecs
