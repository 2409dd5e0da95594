import GoSpecs.Grammar.File
import GoSpecs.Proofs.Token.Longest
import Mathlib.Algebra.Order.Group.Multiset

namespace GoSpecs

inductive Part where
  | word (sign : Token)
  | path (text : String)
  | note (comment : Comment)

namespace Part

def ofNames (names : List String) : List Part :=
  names.map fun text => .word (.ident text)

def ofNotes (comments : List Comment) : List Part :=
  comments.map .note

def ofTag (tag? : Option String) : List Part :=
  tag?.toList.map fun text => .word (.string text)

def ofImport (spec : ImportSpec) : List Part :=
  ofNames (spec.alias?.toList.filter (· != ".")) ++ .path spec.path :: ofNotes spec.comment.toList

mutual

def ofExpr : Expr → List Part
  | ⟨.ident text, _⟩ => [.word (.ident text)]
  | ⟨.literal text, _⟩ => [.word (.ofLiteral text)]
  | ⟨.composite type? elements _ comments, _⟩ =>
    ofOptExpr type? ++ ofExprs elements ++ ofNotes (comments.map (·.comment))
  | ⟨.funcLit type body, _⟩ => ofFuncType type ++ ofBlock body
  | ⟨.paren inner, _⟩ => ofExpr inner
  | ⟨.selector base field, _⟩ => ofExpr base ++ [.word (.ident field)]
  | ⟨.index base index, _⟩ => ofExpr base ++ ofExpr index
  | ⟨.indexList base indices, _⟩ => ofExpr base ++ ofExprs indices
  | ⟨.slice base low? high? max? _, _⟩ => ofExpr base ++ ofOptExpr low? ++ ofOptExpr high? ++ ofOptExpr max?
  | ⟨.typeAssert base type?, _⟩ => ofExpr base ++ ofOptExpr type?
  | ⟨.call func args _ _, _⟩ => ofExpr func ++ ofExprs args
  | ⟨.star inner, _⟩ => ofExpr inner
  | ⟨.unary _ operand, _⟩ => ofExpr operand
  | ⟨.binary left _ right, _⟩ => ofExpr left ++ ofExpr right
  | ⟨.keyValue key value, _⟩ => ofExpr key ++ ofExpr value
  | ⟨.arrayType length? elem, _⟩ => ofOptExpr length? ++ ofExpr elem
  | ⟨.ellipsis elem?, _⟩ => ofOptExpr elem?
  | ⟨.mapType key value, _⟩ => ofExpr key ++ ofExpr value
  | ⟨.chanType _ elem, _⟩ => ofExpr elem
  | ⟨.funcType type, _⟩ => ofFuncType type
  | ⟨.structType fields _, _⟩ => ofFields fields
  | ⟨.interfaceType methods _, _⟩ => ofFields methods

def ofOptExpr : Option Expr → List Part
  | none => []
  | some expr => ofExpr expr

def ofExprs : List Expr → List Part
  | [] => []
  | expr :: exprs => ofExpr expr ++ ofExprs exprs

def ofFields : List Field → List Part
  | [] => []
  | ⟨names, type, tag?, comment⟩ :: fields =>
    ofNames names ++ ofExpr type ++ ofTag tag? ++ ofNotes comment.toList ++ ofFields fields

def ofFuncType : FuncType → List Part
  | ⟨params, results⟩ => ofFields params ++ ofFields results

def ofBlock : Block → List Part
  | ⟨stmts, comments, _⟩ => ofStmts stmts ++ ofNotes (comments.map (·.comment))

def ofStmts : List Stmt → List Part
  | [] => []
  | stmt :: stmts => ofStmt stmt ++ ofStmts stmts

def ofStmt : Stmt → List Part
  | ⟨.expr expr, _⟩ => ofExpr expr
  | ⟨.assign targets _ values, _⟩ => ofExprs targets ++ ofExprs values
  | ⟨.incDec expr _, _⟩ => ofExpr expr
  | ⟨.send channel value, _⟩ => ofExpr channel ++ ofExpr value
  | ⟨.decl decl, _⟩ => ofDecl decl
  | ⟨.go call, _⟩ => ofExpr call
  | ⟨.defer call, _⟩ => ofExpr call
  | ⟨.ret results, _⟩ => ofExprs results
  | ⟨.branch _ label?, _⟩ => ofNames label?.toList
  | ⟨.block block, _⟩ => ofBlock block
  | ⟨.ifElse init? cond body else?, _⟩ => ofOptStmt init? ++ ofExpr cond ++ ofBlock body ++ ofOptStmt else?
  | ⟨.forLoop init? cond? post? body, _⟩ =>
    ofOptStmt init? ++ ofOptExpr cond? ++ ofOptStmt post? ++ ofBlock body
  | ⟨.rangeLoop key? value? _ expr body, _⟩ => ofOptExpr key? ++ ofOptExpr value? ++ ofExpr expr ++ ofBlock body
  | ⟨.switch init? tag? clauses, _⟩ => ofOptStmt init? ++ ofOptExpr tag? ++ ofCases clauses
  | ⟨.typeSwitch init? binding? expr clauses, _⟩ =>
    ofOptStmt init? ++ ofNames binding?.toList ++ ofExpr expr ++ ofCases clauses
  | ⟨.select clauses, _⟩ => ofComms clauses
  | ⟨.labeled label stmt, _⟩ => .word (.ident label) :: ofStmt stmt
  | ⟨.empty, _⟩ => []

def ofOptStmt : Option Stmt → List Part
  | none => []
  | some stmt => ofStmt stmt

def ofCases : List CaseClause → List Part
  | [] => []
  | ⟨exprs, body⟩ :: clauses => ofExprs exprs ++ ofBlock body ++ ofCases clauses

def ofComms : List CommClause → List Part
  | [] => []
  | ⟨comm?, body⟩ :: clauses => ofOptStmt comm? ++ ofBlock body ++ ofComms clauses

def ofTypes : List TypeSpec → List Part
  | [] => []
  | ⟨text, typeParams, _, type, comment⟩ :: specs =>
    .word (.ident text) :: ofFields typeParams ++ ofExpr type ++ ofNotes comment.toList ++ ofTypes specs

def ofValues : List ValueSpec → List Part
  | [] => []
  | ⟨names, type?, values, comment⟩ :: specs =>
    ofNames names ++ ofOptExpr type? ++ ofExprs values ++ ofNotes comment.toList ++ ofValues specs

def ofReceiver : Option Field → List Part
  | none => []
  | some ⟨names, type, tag?, comment⟩ => ofNames names ++ ofExpr type ++ ofTag tag? ++ ofNotes comment.toList

def ofOptBlock : Option Block → List Part
  | none => []
  | some block => ofBlock block

def ofDecl : Decl → List Part
  | .imports group => group.specs.flatMap ofImport
  | .func ⟨receiver?, text, _, typeParams, type, body?⟩ =>
    ofReceiver receiver? ++ .word (.ident text) :: ofFields typeParams ++ ofFuncType type ++ ofOptBlock body?
  | .types specs _ => ofTypes specs
  | .values _ specs _ => ofValues specs

end

def ofItem (item : Item) : List Part :=
  ofNotes item.doc ++ ofDecl item.decl ++ ofNotes item.comment.toList

def ofFile (file : SourceFile) : List Part :=
  ofNotes file.header ++ .word (.ident file.package) :: file.items.flatMap ofItem ++ ofNotes file.trailing

def ofField (field : Field) : List Part :=
  ofNames field.names ++ ofExpr field.type ++ ofTag field.tag? ++ ofNotes field.comment.toList

def ofNode (node : Expr.Node) : List Part :=
  ofExpr ⟨node, .detached⟩

def ofTypeSpec (spec : TypeSpec) : List Part :=
  .word (.ident spec.name) :: ofFields spec.typeParams ++ ofExpr spec.type ++ ofNotes spec.comment.toList

def ofValueSpec (spec : ValueSpec) : List Part :=
  ofNames spec.names ++ ofOptExpr spec.type? ++ ofExprs spec.values ++ ofNotes spec.comment.toList

def ofCase (clause : CaseClause) : List Part :=
  ofExprs clause.exprs ++ ofBlock clause.body

def ofComm (clause : CommClause) : List Part :=
  ofOptStmt clause.comm? ++ ofBlock clause.body

def ofStmtNode (node : Stmt.Node) : List Part :=
  ofStmt ⟨node, .detached⟩

theorem ofExpr_node (node : Expr.Node) (span : Span) : ofExpr ⟨node, span⟩ = ofNode node := by
  cases node <;> simp [ofNode, ofExpr]

theorem ofStmt_node (node : Stmt.Node) (span : Span) : ofStmt ⟨node, span⟩ = ofStmtNode node := by
  cases node <;> simp [ofStmtNode, ofStmt]

theorem ofNames_eq (names : List String) : ofNames names = names.flatMap fun text => [.word (.ident text)] := by
  rw [ofNames, List.map_eq_flatMap]

@[simp] theorem ofNotes_nil : ofNotes [] = [] := rfl

@[simp] theorem ofNotes_append (comments more : List Comment) : ofNotes (comments ++ more) = ofNotes comments ++ ofNotes more :=
  List.map_append

theorem ofOptExpr_eq (expr? : Option Expr) : ofOptExpr expr? = expr?.toList.flatMap ofExpr := by
  cases expr? <;> simp [ofOptExpr]

theorem ofOptStmt_eq (stmt? : Option Stmt) : ofOptStmt stmt? = stmt?.toList.flatMap ofStmt := by
  cases stmt? <;> simp [ofOptStmt]

theorem ofOptBlock_eq (block? : Option Block) : ofOptBlock block? = block?.toList.flatMap ofBlock := by
  cases block? <;> simp [ofOptBlock]

theorem ofReceiver_eq (receiver? : Option Field) : ofReceiver receiver? = receiver?.toList.flatMap ofField := by
  rcases receiver? with _ | ⟨names, type, tag?, comment⟩ <;> simp [ofReceiver, ofField]

theorem ofExprs_eq (exprs : List Expr) : ofExprs exprs = exprs.flatMap ofExpr := by
  induction exprs <;> simp_all [ofExprs]

theorem ofFields_eq (fields : List Field) : ofFields fields = fields.flatMap ofField := by
  induction fields with
  | nil => simp [ofFields]
  | cons field fields ih =>
    obtain ⟨names, type, tag?, comment⟩ := field
    simp [ofFields, ofField, ih]

theorem ofTypes_eq (specs : List TypeSpec) : ofTypes specs = specs.flatMap ofTypeSpec := by
  induction specs with
  | nil => simp [ofTypes]
  | cons spec specs ih =>
    obtain ⟨name, typeParams, isAlias, type, comment⟩ := spec
    simp [ofTypes, ofTypeSpec, ih]

theorem ofValues_eq (specs : List ValueSpec) : ofValues specs = specs.flatMap ofValueSpec := by
  induction specs with
  | nil => simp [ofValues]
  | cons spec specs ih =>
    obtain ⟨names, type?, values, comment⟩ := spec
    simp [ofValues, ofValueSpec, ih]

theorem ofStmts_eq (stmts : List Stmt) : ofStmts stmts = stmts.flatMap ofStmt := by
  induction stmts <;> simp_all [ofStmts]

theorem ofCases_eq (clauses : List CaseClause) : ofCases clauses = clauses.flatMap ofCase := by
  induction clauses with
  | nil => simp [ofCases]
  | cons clause clauses ih =>
    obtain ⟨exprs, body⟩ := clause
    simp [ofCases, ofCase, ih]

theorem ofComms_eq (clauses : List CommClause) : ofComms clauses = clauses.flatMap ofComm := by
  induction clauses with
  | nil => simp [ofComms]
  | cons clause clauses ih =>
    obtain ⟨comm?, body⟩ := clause
    simp [ofComms, ofComm, ih]

def isWord : Part → Bool
  | .note _ => false
  | _ => true

def note? : Part → Option Comment
  | .note comment => some comment
  | _ => none

def words (parts : List Part) : List Part :=
  parts.filter isWord

def notes (parts : List Part) : Multiset Comment :=
  (parts.filterMap note? : List Comment)

/-- The part is what a tree keeps of the word. -/
def IsOf : Part → Token → Prop
  | .word sign, token => sign = token
  | .path text, token => ∃ quoted, token = .string quoted ∧ text = Rules.trimQuotes quoted
  | .note _, _ => False

@[simp] theorem words_nil : words [] = [] := rfl

@[simp] theorem words_append (left right : List Part) : words (left ++ right) = words left ++ words right :=
  List.filter_append ..

@[simp] theorem words_ofNotes (comments : List Comment) : words (ofNotes comments) = [] := by
  simp [words, ofNotes, isWord]

@[simp] theorem notes_nil : notes [] = 0 := rfl

@[simp] theorem notes_append (left right : List Part) : notes (left ++ right) = notes left + notes right := by
  simp [notes]

@[simp] theorem notes_ofNotes (comments : List Comment) : notes (ofNotes comments) = comments := by
  have same : (fun comment => note? (.note comment)) = some := rfl
  simp [notes, ofNotes, same]

end Part

end GoSpecs
