import GoSpecs.Syntax.Walk

namespace GoSpecs

/-- What a node is besides its parts. -/
inductive Label where
  | absent
  | group
  | expr (span : Span)
  | ident (name : String)
  | literal (text : String)
  | composite (braces : Span) (comments : List ElementComment)
  | funcLit
  | paren
  | selector (field : String)
  | index
  | indexList
  | slice (threeIndex : Bool)
  | typeAssert
  | call (ellipsis : Bool) (parens : Span)
  | star
  | unary (op : UnaryOp)
  | binary (op : BinaryOp)
  | keyValue
  | arrayType
  | ellipsis
  | mapType
  | chanType (dir : ChanDir)
  | funcType
  | structType (braces : Span)
  | interfaceType (braces : Span)
  | field (names : List String) (tag? : Option String) (comment : Option Comment)
  | signature
  | block (comments : List AnchoredComment) (span : Span)
  | stmt (span : Span)
  | exprStmt
  | assign (op : AssignOp)
  | incDec (inc : Bool)
  | send
  | declStmt
  | go
  | defer
  | ret
  | branch (kind : BranchKind) (label? : Option String)
  | blockStmt
  | ifElse
  | forLoop
  | rangeLoop (define : Bool)
  | switch
  | typeSwitch (binding? : Option String)
  | select
  | labeled (label : String)
  | empty
  | caseClause
  | commClause
  | typeSpec (name : String) (isAlias : Bool) (comment : Option Comment)
  | valueSpec (names : List String) (comment : Option Comment)
  | imports (group : ImportGroup)
  | func (name : String) (nameSpan : Span)
  | types (grouped : Bool)
  | values (kind : ValueKind) (grouped : Bool)
  | item (doc : List Comment) (comment : Option Comment) (span : Span)
  | file (header : List Comment) (package : String) (packageSpan : Span) (trailing : List Comment) (lines : Lines)

inductive Outline where
  | node (label : Label) (parts : List Outline)

namespace Outline

def label : Outline → Label
  | .node label _ => label

def absent : Outline := .node .absent []

def group (parts : List Outline) : Outline := .node .group parts

mutual

def nodes : Outline → List Outline
  | .node label parts => .node label parts :: nodesOfParts parts

def nodesOfParts : List Outline → List Outline
  | [] => []
  | part :: parts => part.nodes ++ nodesOfParts parts

end

end Outline

mutual

def Expr.outline : Expr → Outline
  | ⟨node, span⟩ => .node (.expr span) [node.outline]

def Expr.Node.outline : Expr.Node → Outline
  | .ident name => .node (.ident name) []
  | .literal text => .node (.literal text) []
  | .composite type? elements braces comments =>
    .node (.composite braces comments) [outlineOfExpr? type?, .group (outlinesOfExprs elements)]
  | .funcLit type body => .node .funcLit [type.outline, body.outline]
  | .paren inner => .node .paren [inner.outline]
  | .selector base field => .node (.selector field) [base.outline]
  | .index base index => .node .index [base.outline, index.outline]
  | .indexList base indices => .node .indexList [base.outline, .group (outlinesOfExprs indices)]
  | .slice base low? high? max? threeIndex =>
    .node (.slice threeIndex) [base.outline, outlineOfExpr? low?, outlineOfExpr? high?, outlineOfExpr? max?]
  | .typeAssert base type? => .node .typeAssert [base.outline, outlineOfExpr? type?]
  | .call func args ellipsis parens =>
    .node (.call ellipsis parens) [func.outline, .group (outlinesOfExprs args)]
  | .star inner => .node .star [inner.outline]
  | .unary op operand => .node (.unary op) [operand.outline]
  | .binary left op right => .node (.binary op) [left.outline, right.outline]
  | .keyValue key value => .node .keyValue [key.outline, value.outline]
  | .arrayType length? elem => .node .arrayType [outlineOfExpr? length?, elem.outline]
  | .ellipsis elem? => .node .ellipsis [outlineOfExpr? elem?]
  | .mapType key value => .node .mapType [key.outline, value.outline]
  | .chanType dir elem => .node (.chanType dir) [elem.outline]
  | .funcType type => .node .funcType [type.outline]
  | .structType fields braces => .node (.structType braces) (outlinesOfFields fields)
  | .interfaceType methods braces => .node (.interfaceType braces) (outlinesOfFields methods)

def outlineOfExpr? : Option Expr → Outline
  | none => .absent
  | some expr => expr.outline

def outlinesOfExprs : List Expr → List Outline
  | [] => []
  | expr :: exprs => expr.outline :: outlinesOfExprs exprs

def Field.outline : Field → Outline
  | ⟨names, type, tag?, comment⟩ => .node (.field names tag? comment) [type.outline]

def outlineOfField? : Option Field → Outline
  | none => .absent
  | some field => field.outline

def outlinesOfFields : List Field → List Outline
  | [] => []
  | field :: fields => field.outline :: outlinesOfFields fields

def FuncType.outline : FuncType → Outline
  | ⟨params, results⟩ => .node .signature [.group (outlinesOfFields params), .group (outlinesOfFields results)]

def Block.outline : Block → Outline
  | ⟨stmts, comments, span⟩ => .node (.block comments span) (outlinesOfStmts stmts)

def outlineOfBlock? : Option Block → Outline
  | none => .absent
  | some block => block.outline

def Stmt.outline : Stmt → Outline
  | ⟨node, span⟩ => .node (.stmt span) [node.outline]

def Stmt.Node.outline : Stmt.Node → Outline
  | .expr expr => .node .exprStmt [expr.outline]
  | .assign targets op values =>
    .node (.assign op) [.group (outlinesOfExprs targets), .group (outlinesOfExprs values)]
  | .incDec expr inc => .node (.incDec inc) [expr.outline]
  | .send channel value => .node .send [channel.outline, value.outline]
  | .decl decl => .node .declStmt [decl.outline]
  | .go call => .node .go [call.outline]
  | .defer call => .node .defer [call.outline]
  | .ret results => .node .ret (outlinesOfExprs results)
  | .branch kind label? => .node (.branch kind label?) []
  | .block block => .node .blockStmt [block.outline]
  | .ifElse init? cond body else? =>
    .node .ifElse [outlineOfStmt? init?, cond.outline, body.outline, outlineOfStmt? else?]
  | .forLoop init? cond? post? body =>
    .node .forLoop [outlineOfStmt? init?, outlineOfExpr? cond?, outlineOfStmt? post?, body.outline]
  | .rangeLoop key? value? define expr body =>
    .node (.rangeLoop define) [outlineOfExpr? key?, outlineOfExpr? value?, expr.outline, body.outline]
  | .switch init? tag? clauses =>
    .node .switch [outlineOfStmt? init?, outlineOfExpr? tag?, .group (outlinesOfCases clauses)]
  | .typeSwitch init? binding? expr clauses =>
    .node (.typeSwitch binding?) [outlineOfStmt? init?, expr.outline, .group (outlinesOfCases clauses)]
  | .select clauses => .node .select (outlinesOfComms clauses)
  | .labeled label stmt => .node (.labeled label) [stmt.outline]
  | .empty => .node .empty []

def outlineOfStmt? : Option Stmt → Outline
  | none => .absent
  | some stmt => stmt.outline

def outlinesOfStmts : List Stmt → List Outline
  | [] => []
  | stmt :: stmts => stmt.outline :: outlinesOfStmts stmts

def outlinesOfCases : List CaseClause → List Outline
  | [] => []
  | ⟨exprs, body⟩ :: clauses =>
    .node .caseClause [.group (outlinesOfExprs exprs), body.outline] :: outlinesOfCases clauses

def outlinesOfComms : List CommClause → List Outline
  | [] => []
  | ⟨comm?, body⟩ :: clauses => .node .commClause [outlineOfStmt? comm?, body.outline] :: outlinesOfComms clauses

def outlinesOfTypeSpecs : List TypeSpec → List Outline
  | [] => []
  | ⟨name, typeParams, isAlias, type, comment⟩ :: specs =>
    .node (.typeSpec name isAlias comment) [.group (outlinesOfFields typeParams), type.outline] ::
      outlinesOfTypeSpecs specs

def outlinesOfValueSpecs : List ValueSpec → List Outline
  | [] => []
  | ⟨names, type?, values, comment⟩ :: specs =>
    .node (.valueSpec names comment) [outlineOfExpr? type?, .group (outlinesOfExprs values)] ::
      outlinesOfValueSpecs specs

def Decl.outline : Decl → Outline
  | .imports group => .node (.imports group) []
  | .func ⟨receiver?, name, nameSpan, typeParams, type, body?⟩ =>
    .node (.func name nameSpan)
      [outlineOfField? receiver?, .group (outlinesOfFields typeParams), type.outline, outlineOfBlock? body?]
  | .types specs grouped => .node (.types grouped) (outlinesOfTypeSpecs specs)
  | .values kind specs grouped => .node (.values kind grouped) (outlinesOfValueSpecs specs)

end

def Item.outline (item : Item) : Outline :=
  .node (.item item.doc item.comment item.span) [item.decl.outline]

def SourceFile.outline (file : SourceFile) : Outline :=
  .node (.file file.header file.package file.packageSpan file.trailing file.lines) (file.items.map (·.outline))

def Label.isVisited : Label → Bool
  | .expr _ => true
  | .field _ _ _ => true
  | _ => false

def Visited.outline : Visited → Outline
  | .expr inner => inner.outline
  | .field inner => inner.outline

namespace Outline

def visited (tree : Outline) : List Outline :=
  tree.nodes.filter (·.label.isVisited)

def visitedOfParts (parts : List Outline) : List Outline :=
  (nodesOfParts parts).filter (·.label.isVisited)

theorem visited_node (label : Label) (parts : List Outline) :
    (node label parts).visited =
      bif label.isVisited then node label parts :: visitedOfParts parts else visitedOfParts parts := by
  cases h : label.isVisited <;> simp [visited, visitedOfParts, nodes, Outline.label, h]

theorem visited_absent : absent.visited = [] := rfl

theorem visited_group (parts : List Outline) : (group parts).visited = visitedOfParts parts :=
  visited_node _ parts

theorem visitedOfParts_nil : visitedOfParts [] = [] := rfl

theorem visitedOfParts_cons (part : Outline) (parts : List Outline) :
    visitedOfParts (part :: parts) = part.visited ++ visitedOfParts parts := by
  simp [visited, visitedOfParts, nodesOfParts]

end Outline

namespace visited_outline

open Outline

attribute [local simp] Block.outline Block.visits Decl.outline Decl.visits Expr.Node.outline Expr.Node.visits
  Expr.outline Expr.visits Field.outline Field.visits FuncType.outline FuncType.visits Item.outline Label.isVisited
  Stmt.Node.outline Stmt.Node.visits Stmt.outline Stmt.visits Visited.outline outlineOfBlock? outlineOfExpr?
  outlineOfField? outlineOfStmt? outlinesOfCases outlinesOfComms outlinesOfExprs outlinesOfFields outlinesOfStmts
  outlinesOfTypeSpecs outlinesOfValueSpecs visitedOfParts_cons visitedOfParts_nil visited_absent visited_group
  visited_node visitsOfBlock? visitsOfCases visitsOfComms visitsOfExpr? visitsOfExprs visitsOfField? visitsOfFields
  visitsOfStmt? visitsOfStmts visitsOfTypeSpecs visitsOfValueSpecs

mutual

theorem expr : (expr : Expr) → expr.outline.visited = expr.visits.map Visited.outline
  | ⟨inner, span⟩ => by simp [exprNode inner]

theorem exprNode : (node : Expr.Node) → node.outline.visited = node.visits.map Visited.outline
  | .ident _ | .literal _ => by simp
  | .composite type? elements _ _ => by simp [optExpr type?, exprs elements]
  | .funcLit type body => by simp [funcType type, block body]
  | .paren inner | .star inner => by simp [expr inner]
  | .selector base _ => by simp [expr base]
  | .index base index => by simp [expr base, expr index]
  | .indexList base indices => by simp [expr base, exprs indices]
  | .slice base low? high? max? _ => by simp [expr base, optExpr low?, optExpr high?, optExpr max?]
  | .typeAssert base type? => by simp [expr base, optExpr type?]
  | .call func args _ _ => by simp [expr func, exprs args]
  | .unary _ operand => by simp [expr operand]
  | .binary left _ right => by simp [expr left, expr right]
  | .keyValue key value | .mapType key value => by simp [expr key, expr value]
  | .arrayType length? elem => by simp [optExpr length?, expr elem]
  | .ellipsis elem? => by simp [optExpr elem?]
  | .chanType _ elem => by simp [expr elem]
  | .funcType type => by simp [funcType type]
  | .structType members _ => by simp [fields members]
  | .interfaceType methods _ => by simp [fields methods]

theorem optExpr : (node? : Option Expr) → (outlineOfExpr? node?).visited = (visitsOfExpr? node?).map Visited.outline
  | none => by simp
  | some one => by simp [expr one]

theorem exprs : (list : List Expr) → visitedOfParts (outlinesOfExprs list) = (visitsOfExprs list).map Visited.outline
  | [] => by simp
  | one :: list => by simp [expr one, exprs list]

theorem field : (field : Field) → field.outline.visited = field.visits.map Visited.outline
  | ⟨names, type, tag?, comment⟩ => by simp [expr type]

theorem optField : (node? : Option Field) → (outlineOfField? node?).visited = (visitsOfField? node?).map Visited.outline
  | none => by simp
  | some one => by simp [field one]

theorem fields : (list : List Field) →
    visitedOfParts (outlinesOfFields list) = (visitsOfFields list).map Visited.outline
  | [] => by simp
  | one :: list => by simp [field one, fields list]

theorem funcType : (type : FuncType) → type.outline.visited = type.visits.map Visited.outline
  | ⟨params, results⟩ => by simp [fields params, fields results]

theorem block : (block : Block) → block.outline.visited = block.visits.map Visited.outline
  | ⟨list, comments, span⟩ => by simp [stmts list]

theorem optBlock : (node? : Option Block) → (outlineOfBlock? node?).visited = (visitsOfBlock? node?).map Visited.outline
  | none => by simp
  | some one => by simp [block one]

theorem stmt : (stmt : Stmt) → stmt.outline.visited = stmt.visits.map Visited.outline
  | ⟨inner, span⟩ => by simp [stmtNode inner]

theorem stmtNode : (node : Stmt.Node) → node.outline.visited = node.visits.map Visited.outline
  | .expr inner | .incDec inner _ => by simp [expr inner]
  | .assign targets _ values => by simp [exprs targets, exprs values]
  | .send channel value => by simp [expr channel, expr value]
  | .decl inner => by simp [decl inner]
  | .go call | .defer call => by simp [expr call]
  | .ret results => by simp [exprs results]
  | .branch _ _ | .empty => by simp
  | .block inner => by simp [block inner]
  | .ifElse init? cond body else? => by simp [optStmt init?, expr cond, block body, optStmt else?]
  | .forLoop init? cond? post? body => by simp [optStmt init?, optExpr cond?, optStmt post?, block body]
  | .rangeLoop key? value? _ inner body => by simp [optExpr key?, optExpr value?, expr inner, block body]
  | .switch init? tag? clauses => by simp [optStmt init?, optExpr tag?, cases clauses]
  | .typeSwitch init? _ inner clauses => by simp [optStmt init?, expr inner, cases clauses]
  | .select clauses => by simp [comms clauses]
  | .labeled _ inner => by simp [stmt inner]

theorem optStmt : (node? : Option Stmt) → (outlineOfStmt? node?).visited = (visitsOfStmt? node?).map Visited.outline
  | none => by simp
  | some one => by simp [stmt one]

theorem stmts : (list : List Stmt) → visitedOfParts (outlinesOfStmts list) = (visitsOfStmts list).map Visited.outline
  | [] => by simp
  | one :: list => by simp [stmt one, stmts list]

theorem cases : (list : List CaseClause) →
    visitedOfParts (outlinesOfCases list) = (visitsOfCases list).map Visited.outline
  | [] => by simp
  | ⟨values, body⟩ :: list => by simp [exprs values, block body, cases list]

theorem comms : (list : List CommClause) →
    visitedOfParts (outlinesOfComms list) = (visitsOfComms list).map Visited.outline
  | [] => by simp
  | ⟨comm?, body⟩ :: list => by simp [optStmt comm?, block body, comms list]

theorem typeSpecs : (list : List TypeSpec) →
    visitedOfParts (outlinesOfTypeSpecs list) = (visitsOfTypeSpecs list).map Visited.outline
  | [] => by simp
  | ⟨name, typeParams, isAlias, type, comment⟩ :: list => by simp [fields typeParams, expr type, typeSpecs list]

theorem valueSpecs : (list : List ValueSpec) →
    visitedOfParts (outlinesOfValueSpecs list) = (visitsOfValueSpecs list).map Visited.outline
  | [] => by simp
  | ⟨names, type?, values, comment⟩ :: list => by simp [optExpr type?, exprs values, valueSpecs list]

theorem decl : (decl : Decl) → decl.outline.visited = decl.visits.map Visited.outline
  | .imports _ => by simp
  | .func ⟨receiver?, name, nameSpan, typeParams, type, body?⟩ => by
    simp [optField receiver?, fields typeParams, funcType type, optBlock body?]
  | .types specs _ => by simp [typeSpecs specs]
  | .values _ specs _ => by simp [valueSpecs specs]

end

theorem items (list : List Item) :
    visitedOfParts (list.map (·.outline)) = (list.flatMap (·.decl.visits)).map Visited.outline := by
  induction list with
  | nil => rfl
  | cons item list ih =>
    have first : item.outline.visited = item.decl.visits.map Visited.outline := by
      simp [decl item.decl]
    rw [List.map_cons, visitedOfParts_cons, first, ih, List.flatMap_cons, List.map_append]

end visited_outline

/-- The walk sees every expression and every field of a file once, in the order in which they stand. -/
theorem SourceFile.visited_outline (file : SourceFile) : file.outline.visited = file.visits.map Visited.outline := by
  rw [SourceFile.outline, Outline.visited_node, SourceFile.visits]
  exact visited_outline.items file.items

theorem Expr.Node.ctorIdx_label (node : Expr.Node) : node.outline.label.ctorIdx = node.ctorIdx + 3 := by
  cases node <;> rfl

theorem Expr.Node.ctorIdx_eq {one other : Expr.Node} (same : one.outline = other.outline) :
    other.ctorIdx = one.ctorIdx := by
  have labels := congrArg (·.label.ctorIdx) same
  simp only [ctorIdx_label] at labels
  omega

theorem Stmt.Node.ctorIdx_label (node : Stmt.Node) : node.outline.label.ctorIdx = node.ctorIdx + 29 := by
  cases node <;> rfl

theorem Stmt.Node.ctorIdx_eq {one other : Stmt.Node} (same : one.outline = other.outline) :
    other.ctorIdx = one.ctorIdx := by
  have labels := congrArg (·.label.ctorIdx) same
  simp only [ctorIdx_label] at labels
  omega

namespace Outline

variable {label label' : Label} {one two three four one' two' three' four' : Outline} {parts parts' : List Outline}

theorem group_inj (same : group parts = group parts') : parts = parts' :=
  (node.inj same).2

theorem part (same : node label [one] = node label' [one']) : label = label' ∧ one = one' := by
  simpa using same

theorem parts₂ (same : node label [one, two] = node label' [one', two']) :
    label = label' ∧ one = one' ∧ two = two' := by
  simpa using same

theorem parts₃ (same : node label [one, two, three] = node label' [one', two', three']) :
    label = label' ∧ one = one' ∧ two = two' ∧ three = three' := by
  simpa using same

theorem parts₄ (same : node label [one, two, three, four] = node label' [one', two', three', four']) :
    label = label' ∧ one = one' ∧ two = two' ∧ three = three' ∧ four = four' := by
  simpa using same

end Outline

namespace outline_inj

mutual

theorem expr : (one other : Expr) → one.outline = other.outline → one = other
  | ⟨node, span⟩, ⟨node', span'⟩, same => by
    simp only [Expr.outline, Outline.node.injEq, Label.expr.injEq, List.cons.injEq, and_true] at same
    obtain ⟨rfl, inner⟩ := same
    rw [exprNode _ _ inner]
termination_by structural one => one

theorem exprNode : (one other : Expr.Node) → one.outline = other.outline → one = other
  | .ident name, other, same => by
    refine Expr.Node.ident.elim other (Expr.Node.ctorIdx_eq same) (fun name' same => ?_) same
    rw [Label.ident.inj (Outline.node.inj same).1]
  | .literal text, other, same => by
    refine Expr.Node.literal.elim other (Expr.Node.ctorIdx_eq same) (fun text' same => ?_) same
    rw [Label.literal.inj (Outline.node.inj same).1]
  | .composite type? elements braces comments, other, same => by
    refine Expr.Node.composite.elim other (Expr.Node.ctorIdx_eq same)
      (fun type?' elements' braces' comments' same => ?_) same
    obtain ⟨label, one, two⟩ := Outline.parts₂ same
    obtain ⟨rfl, rfl⟩ := Label.composite.inj label
    rw [optExpr _ _ one, exprs _ _ (Outline.group_inj two)]
  | .funcLit type body, other, same => by
    refine Expr.Node.funcLit.elim other (Expr.Node.ctorIdx_eq same) (fun type' body' same => ?_) same
    obtain ⟨-, one, two⟩ := Outline.parts₂ same
    rw [funcType _ _ one, block _ _ two]
  | .paren inner, other, same => by
    refine Expr.Node.paren.elim other (Expr.Node.ctorIdx_eq same) (fun inner' same => ?_) same
    obtain ⟨-, one⟩ := Outline.part same
    rw [expr _ _ one]
  | .selector base field, other, same => by
    refine Expr.Node.selector.elim other (Expr.Node.ctorIdx_eq same) (fun base' field' same => ?_) same
    obtain ⟨label, one⟩ := Outline.part same
    rw [Label.selector.inj label, expr _ _ one]
  | .index base index, other, same => by
    refine Expr.Node.index.elim other (Expr.Node.ctorIdx_eq same) (fun base' index' same => ?_) same
    obtain ⟨-, one, two⟩ := Outline.parts₂ same
    rw [expr _ _ one, expr _ _ two]
  | .indexList base indices, other, same => by
    refine Expr.Node.indexList.elim other (Expr.Node.ctorIdx_eq same) (fun base' indices' same => ?_) same
    obtain ⟨-, one, two⟩ := Outline.parts₂ same
    rw [expr _ _ one, exprs _ _ (Outline.group_inj two)]
  | .slice base low? high? max? threeIndex, other, same => by
    refine Expr.Node.slice.elim other (Expr.Node.ctorIdx_eq same)
      (fun base' low?' high?' max?' threeIndex' same => ?_) same
    obtain ⟨label, one, two, three, four⟩ := Outline.parts₄ same
    rw [Label.slice.inj label, expr _ _ one, optExpr _ _ two, optExpr _ _ three, optExpr _ _ four]
  | .typeAssert base type?, other, same => by
    refine Expr.Node.typeAssert.elim other (Expr.Node.ctorIdx_eq same) (fun base' type?' same => ?_) same
    obtain ⟨-, one, two⟩ := Outline.parts₂ same
    rw [expr _ _ one, optExpr _ _ two]
  | .call func args ellipsis parens, other, same => by
    refine Expr.Node.call.elim other (Expr.Node.ctorIdx_eq same) (fun func' args' ellipsis' parens' same => ?_) same
    obtain ⟨label, one, two⟩ := Outline.parts₂ same
    obtain ⟨rfl, rfl⟩ := Label.call.inj label
    rw [expr _ _ one, exprs _ _ (Outline.group_inj two)]
  | .star inner, other, same => by
    refine Expr.Node.star.elim other (Expr.Node.ctorIdx_eq same) (fun inner' same => ?_) same
    obtain ⟨-, one⟩ := Outline.part same
    rw [expr _ _ one]
  | .unary op operand, other, same => by
    refine Expr.Node.unary.elim other (Expr.Node.ctorIdx_eq same) (fun op' operand' same => ?_) same
    obtain ⟨label, one⟩ := Outline.part same
    rw [Label.unary.inj label, expr _ _ one]
  | .binary left op right, other, same => by
    refine Expr.Node.binary.elim other (Expr.Node.ctorIdx_eq same) (fun left' op' right' same => ?_) same
    obtain ⟨label, one, two⟩ := Outline.parts₂ same
    rw [Label.binary.inj label, expr _ _ one, expr _ _ two]
  | .keyValue key value, other, same => by
    refine Expr.Node.keyValue.elim other (Expr.Node.ctorIdx_eq same) (fun key' value' same => ?_) same
    obtain ⟨-, one, two⟩ := Outline.parts₂ same
    rw [expr _ _ one, expr _ _ two]
  | .arrayType length? elem, other, same => by
    refine Expr.Node.arrayType.elim other (Expr.Node.ctorIdx_eq same) (fun length?' elem' same => ?_) same
    obtain ⟨-, one, two⟩ := Outline.parts₂ same
    rw [optExpr _ _ one, expr _ _ two]
  | .ellipsis elem?, other, same => by
    refine Expr.Node.ellipsis.elim other (Expr.Node.ctorIdx_eq same) (fun elem?' same => ?_) same
    obtain ⟨-, one⟩ := Outline.part same
    rw [optExpr _ _ one]
  | .mapType key value, other, same => by
    refine Expr.Node.mapType.elim other (Expr.Node.ctorIdx_eq same) (fun key' value' same => ?_) same
    obtain ⟨-, one, two⟩ := Outline.parts₂ same
    rw [expr _ _ one, expr _ _ two]
  | .chanType dir elem, other, same => by
    refine Expr.Node.chanType.elim other (Expr.Node.ctorIdx_eq same) (fun dir' elem' same => ?_) same
    obtain ⟨label, one⟩ := Outline.part same
    rw [Label.chanType.inj label, expr _ _ one]
  | .funcType type, other, same => by
    refine Expr.Node.funcType.elim other (Expr.Node.ctorIdx_eq same) (fun type' same => ?_) same
    obtain ⟨-, one⟩ := Outline.part same
    rw [funcType _ _ one]
  | .structType members braces, other, same => by
    refine Expr.Node.structType.elim other (Expr.Node.ctorIdx_eq same) (fun members' braces' same => ?_) same
    obtain ⟨label, one⟩ := Outline.node.inj same
    rw [Label.structType.inj label, fields _ _ one]
  | .interfaceType members braces, other, same => by
    refine Expr.Node.interfaceType.elim other (Expr.Node.ctorIdx_eq same) (fun members' braces' same => ?_) same
    obtain ⟨label, one⟩ := Outline.node.inj same
    rw [Label.interfaceType.inj label, fields _ _ one]
termination_by structural one => one

theorem optExpr : (one other : Option Expr) → outlineOfExpr? one = outlineOfExpr? other → one = other
  | none, none, _ => rfl
  | none, some ⟨_, _⟩, same | some ⟨_, _⟩, none, same => by
    simp only [outlineOfExpr?, Expr.outline, Outline.absent, Outline.node.injEq, reduceCtorEq, false_and] at same
  | some one, some other, same => by rw [expr one other same]
termination_by structural one => one

theorem exprs : (one other : List Expr) → outlinesOfExprs one = outlinesOfExprs other → one = other
  | [], [], _ => rfl
  | [], _ :: _, same | _ :: _, [], same => by simp only [outlinesOfExprs, reduceCtorEq] at same
  | first :: rest, first' :: rest', same => by
    simp only [outlinesOfExprs, List.cons.injEq] at same
    rw [expr _ _ same.1, exprs _ _ same.2]
termination_by structural one => one

theorem field : (one other : Field) → one.outline = other.outline → one = other
  | ⟨names, type, tag?, comment⟩, ⟨names', type', tag?', comment'⟩, same => by
    simp only [Field.outline, Outline.node.injEq, Label.field.injEq, List.cons.injEq, and_true] at same
    obtain ⟨⟨rfl, rfl, rfl⟩, inner⟩ := same
    rw [expr _ _ inner]
termination_by structural one => one

theorem optField : (one other : Option Field) → outlineOfField? one = outlineOfField? other → one = other
  | none, none, _ => rfl
  | none, some ⟨_, _, _, _⟩, same | some ⟨_, _, _, _⟩, none, same => by
    simp only [outlineOfField?, Field.outline, Outline.absent, Outline.node.injEq, reduceCtorEq, false_and] at same
  | some one, some other, same => by rw [field one other same]
termination_by structural one => one

theorem fields : (one other : List Field) → outlinesOfFields one = outlinesOfFields other → one = other
  | [], [], _ => rfl
  | [], _ :: _, same | _ :: _, [], same => by simp only [outlinesOfFields, reduceCtorEq] at same
  | first :: rest, first' :: rest', same => by
    simp only [outlinesOfFields, List.cons.injEq] at same
    rw [field _ _ same.1, fields _ _ same.2]
termination_by structural one => one

theorem funcType : (one other : FuncType) → one.outline = other.outline → one = other
  | ⟨params, results⟩, ⟨params', results'⟩, same => by
    simp only [FuncType.outline, Outline.group, Outline.node.injEq, List.cons.injEq, and_true, true_and] at same
    rw [fields _ _ same.1, fields _ _ same.2]
termination_by structural one => one

theorem block : (one other : Block) → one.outline = other.outline → one = other
  | ⟨list, comments, span⟩, ⟨list', comments', span'⟩, same => by
    simp only [Block.outline, Outline.node.injEq, Label.block.injEq] at same
    obtain ⟨⟨rfl, rfl⟩, inner⟩ := same
    rw [stmts _ _ inner]
termination_by structural one => one

theorem optBlock : (one other : Option Block) → outlineOfBlock? one = outlineOfBlock? other → one = other
  | none, none, _ => rfl
  | none, some ⟨_, _, _⟩, same | some ⟨_, _, _⟩, none, same => by
    simp only [outlineOfBlock?, Block.outline, Outline.absent, Outline.node.injEq, reduceCtorEq, false_and] at same
  | some one, some other, same => by rw [block one other same]
termination_by structural one => one

theorem stmt : (one other : Stmt) → one.outline = other.outline → one = other
  | ⟨node, span⟩, ⟨node', span'⟩, same => by
    simp only [Stmt.outline, Outline.node.injEq, Label.stmt.injEq, List.cons.injEq, and_true] at same
    obtain ⟨rfl, inner⟩ := same
    rw [stmtNode _ _ inner]
termination_by structural one => one

theorem stmtNode : (one other : Stmt.Node) → one.outline = other.outline → one = other
  | .expr inner, other, same => by
    refine Stmt.Node.expr.elim other (Stmt.Node.ctorIdx_eq same) (fun inner' same => ?_) same
    obtain ⟨-, one⟩ := Outline.part same
    rw [expr _ _ one]
  | .assign targets op values, other, same => by
    refine Stmt.Node.assign.elim other (Stmt.Node.ctorIdx_eq same) (fun targets' op' values' same => ?_) same
    obtain ⟨label, one, two⟩ := Outline.parts₂ same
    rw [Label.assign.inj label, exprs _ _ (Outline.group_inj one), exprs _ _ (Outline.group_inj two)]
  | .incDec inner inc, other, same => by
    refine Stmt.Node.incDec.elim other (Stmt.Node.ctorIdx_eq same) (fun inner' inc' same => ?_) same
    obtain ⟨label, one⟩ := Outline.part same
    rw [Label.incDec.inj label, expr _ _ one]
  | .send channel value, other, same => by
    refine Stmt.Node.send.elim other (Stmt.Node.ctorIdx_eq same) (fun channel' value' same => ?_) same
    obtain ⟨-, one, two⟩ := Outline.parts₂ same
    rw [expr _ _ one, expr _ _ two]
  | .decl inner, other, same => by
    refine Stmt.Node.decl.elim other (Stmt.Node.ctorIdx_eq same) (fun inner' same => ?_) same
    obtain ⟨-, one⟩ := Outline.part same
    rw [decl _ _ one]
  | .go call, other, same => by
    refine Stmt.Node.go.elim other (Stmt.Node.ctorIdx_eq same) (fun call' same => ?_) same
    obtain ⟨-, one⟩ := Outline.part same
    rw [expr _ _ one]
  | .defer call, other, same => by
    refine Stmt.Node.defer.elim other (Stmt.Node.ctorIdx_eq same) (fun call' same => ?_) same
    obtain ⟨-, one⟩ := Outline.part same
    rw [expr _ _ one]
  | .ret results, other, same => by
    refine Stmt.Node.ret.elim other (Stmt.Node.ctorIdx_eq same) (fun results' same => ?_) same
    obtain ⟨-, one⟩ := Outline.node.inj same
    rw [exprs _ _ one]
  | .block inner, other, same => by
    refine Stmt.Node.block.elim other (Stmt.Node.ctorIdx_eq same) (fun inner' same => ?_) same
    obtain ⟨-, one⟩ := Outline.part same
    rw [block _ _ one]
  | .ifElse init? cond body else?, other, same => by
    refine Stmt.Node.ifElse.elim other (Stmt.Node.ctorIdx_eq same) (fun init?' cond' body' else?' same => ?_) same
    obtain ⟨-, one, two, three, four⟩ := Outline.parts₄ same
    rw [optStmt _ _ one, expr _ _ two, block _ _ three, optStmt _ _ four]
  | .forLoop init? cond? post? body, other, same => by
    refine Stmt.Node.forLoop.elim other (Stmt.Node.ctorIdx_eq same) (fun init?' cond?' post?' body' same => ?_) same
    obtain ⟨-, one, two, three, four⟩ := Outline.parts₄ same
    rw [optStmt _ _ one, optExpr _ _ two, optStmt _ _ three, block _ _ four]
  | .rangeLoop key? value? define inner body, other, same => by
    refine Stmt.Node.rangeLoop.elim other (Stmt.Node.ctorIdx_eq same)
      (fun key?' value?' define' inner' body' same => ?_) same
    obtain ⟨label, one, two, three, four⟩ := Outline.parts₄ same
    rw [Label.rangeLoop.inj label, optExpr _ _ one, optExpr _ _ two, expr _ _ three, block _ _ four]
  | .switch init? tag? clauses, other, same => by
    refine Stmt.Node.switch.elim other (Stmt.Node.ctorIdx_eq same) (fun init?' tag?' clauses' same => ?_) same
    obtain ⟨-, one, two, three⟩ := Outline.parts₃ same
    rw [optStmt _ _ one, optExpr _ _ two, cases _ _ (Outline.group_inj three)]
  | .typeSwitch init? binding? inner clauses, other, same => by
    refine Stmt.Node.typeSwitch.elim other (Stmt.Node.ctorIdx_eq same)
      (fun init?' binding?' inner' clauses' same => ?_) same
    obtain ⟨label, one, two, three⟩ := Outline.parts₃ same
    rw [Label.typeSwitch.inj label, optStmt _ _ one, expr _ _ two, cases _ _ (Outline.group_inj three)]
  | .select clauses, other, same => by
    refine Stmt.Node.select.elim other (Stmt.Node.ctorIdx_eq same) (fun clauses' same => ?_) same
    obtain ⟨-, one⟩ := Outline.node.inj same
    rw [comms _ _ one]
  | .labeled label inner, other, same => by
    refine Stmt.Node.labeled.elim other (Stmt.Node.ctorIdx_eq same) (fun label' inner' same => ?_) same
    obtain ⟨label, one⟩ := Outline.part same
    rw [Label.labeled.inj label, stmt _ _ one]
  | .branch kind label?, other, same => by
    refine Stmt.Node.branch.elim other (Stmt.Node.ctorIdx_eq same) (fun kind' label?' same => ?_) same
    obtain ⟨rfl, rfl⟩ := Label.branch.inj (Outline.node.inj same).1
    rfl
  | .empty, other, same => Stmt.Node.empty.elim other (Stmt.Node.ctorIdx_eq same) rfl
termination_by structural one => one

theorem optStmt : (one other : Option Stmt) → outlineOfStmt? one = outlineOfStmt? other → one = other
  | none, none, _ => rfl
  | none, some ⟨_, _⟩, same | some ⟨_, _⟩, none, same => by
    simp only [outlineOfStmt?, Stmt.outline, Outline.absent, Outline.node.injEq, reduceCtorEq, false_and] at same
  | some one, some other, same => by rw [stmt one other same]
termination_by structural one => one

theorem stmts : (one other : List Stmt) → outlinesOfStmts one = outlinesOfStmts other → one = other
  | [], [], _ => rfl
  | [], _ :: _, same | _ :: _, [], same => by simp only [outlinesOfStmts, reduceCtorEq] at same
  | first :: rest, first' :: rest', same => by
    simp only [outlinesOfStmts, List.cons.injEq] at same
    rw [stmt _ _ same.1, stmts _ _ same.2]
termination_by structural one => one

theorem cases : (one other : List CaseClause) → outlinesOfCases one = outlinesOfCases other → one = other
  | [], [], _ => rfl
  | [], ⟨_, _⟩ :: _, same | ⟨_, _⟩ :: _, [], same => by simp only [outlinesOfCases, reduceCtorEq] at same
  | ⟨list, body⟩ :: rest, ⟨list', body'⟩ :: rest', same => by
    simp only [outlinesOfCases, Outline.group, Outline.node.injEq, List.cons.injEq, and_true, true_and] at same
    obtain ⟨⟨one, two⟩, later⟩ := same
    rw [exprs _ _ one, block _ _ two, cases _ _ later]
termination_by structural one => one

theorem comms : (one other : List CommClause) → outlinesOfComms one = outlinesOfComms other → one = other
  | [], [], _ => rfl
  | [], ⟨_, _⟩ :: _, same | ⟨_, _⟩ :: _, [], same => by simp only [outlinesOfComms, reduceCtorEq] at same
  | ⟨comm?, body⟩ :: rest, ⟨comm?', body'⟩ :: rest', same => by
    simp only [outlinesOfComms, Outline.node.injEq, List.cons.injEq, and_true, true_and] at same
    obtain ⟨⟨one, two⟩, later⟩ := same
    rw [optStmt _ _ one, block _ _ two, comms _ _ later]
termination_by structural one => one

theorem typeSpecs : (one other : List TypeSpec) → outlinesOfTypeSpecs one = outlinesOfTypeSpecs other → one = other
  | [], [], _ => rfl
  | [], ⟨_, _, _, _, _⟩ :: _, same
  | ⟨_, _, _, _, _⟩ :: _, [], same => by simp only [outlinesOfTypeSpecs, reduceCtorEq] at same
  | ⟨name, typeParams, isAlias, type, comment⟩ :: rest,
      ⟨name', typeParams', isAlias', type', comment'⟩ :: rest', same => by
    simp only [outlinesOfTypeSpecs, Outline.group, Outline.node.injEq, Label.typeSpec.injEq, List.cons.injEq, and_true,
      true_and] at same
    obtain ⟨⟨⟨rfl, rfl, rfl⟩, one, two⟩, later⟩ := same
    rw [fields _ _ one, expr _ _ two, typeSpecs _ _ later]
termination_by structural one => one

theorem valueSpecs : (one other : List ValueSpec) →
    outlinesOfValueSpecs one = outlinesOfValueSpecs other → one = other
  | [], [], _ => rfl
  | [], ⟨_, _, _, _⟩ :: _, same
  | ⟨_, _, _, _⟩ :: _, [], same => by simp only [outlinesOfValueSpecs, reduceCtorEq] at same
  | ⟨names, type?, values, comment⟩ :: rest, ⟨names', type?', values', comment'⟩ :: rest', same => by
    simp only [outlinesOfValueSpecs, Outline.group, Outline.node.injEq, Label.valueSpec.injEq, List.cons.injEq,
      and_true, true_and] at same
    obtain ⟨⟨⟨rfl, rfl⟩, one, two⟩, later⟩ := same
    rw [optExpr _ _ one, exprs _ _ two, valueSpecs _ _ later]
termination_by structural one => one

theorem decl : (one other : Decl) → one.outline = other.outline → one = other
  | .imports group, other, same => by
    cases other with
    | imports group' =>
      simp only [Decl.outline, Outline.node.injEq, Label.imports.injEq, and_true] at same
      rw [same]
    | func func =>
      obtain ⟨⟩ := func
      simp only [Decl.outline, Outline.node.injEq, reduceCtorEq, false_and] at same
    | _ => simp only [Decl.outline, Outline.node.injEq, reduceCtorEq, false_and] at same
  | .func ⟨receiver?, name, nameSpan, typeParams, type, body?⟩, other, same => by
    cases other with
    | func func =>
      obtain ⟨receiver?', name', nameSpan', typeParams', type', body?'⟩ := func
      simp only [Decl.outline, Outline.group, Outline.node.injEq, Label.func.injEq, List.cons.injEq, and_true,
        true_and] at same
      obtain ⟨⟨rfl, rfl⟩, one, two, three, four⟩ := same
      rw [optField _ _ one, fields _ _ two, funcType _ _ three, optBlock _ _ four]
    | _ => simp only [Decl.outline, Outline.node.injEq, reduceCtorEq, false_and] at same
  | .types specs grouped, other, same => by
    cases other with
    | types specs' grouped' =>
      simp only [Decl.outline, Outline.node.injEq, Label.types.injEq] at same
      obtain ⟨rfl, inner⟩ := same
      rw [typeSpecs _ _ inner]
    | func func =>
      obtain ⟨⟩ := func
      simp only [Decl.outline, Outline.node.injEq, reduceCtorEq, false_and] at same
    | _ => simp only [Decl.outline, Outline.node.injEq, reduceCtorEq, false_and] at same
  | .values kind specs grouped, other, same => by
    cases other with
    | values kind' specs' grouped' =>
      simp only [Decl.outline, Outline.node.injEq, Label.values.injEq] at same
      obtain ⟨⟨rfl, rfl⟩, inner⟩ := same
      rw [valueSpecs _ _ inner]
    | func func =>
      obtain ⟨⟩ := func
      simp only [Decl.outline, Outline.node.injEq, reduceCtorEq, false_and] at same
    | _ => simp only [Decl.outline, Outline.node.injEq, reduceCtorEq, false_and] at same
termination_by structural one => one

end

theorem items : (one other : List Item) → one.map (·.outline) = other.map (·.outline) → one = other
  | [], [], _ => rfl
  | [], _ :: _, same | _ :: _, [], same => by simp only [List.map_nil, List.map_cons, reduceCtorEq] at same
  | ⟨inner, doc, comment, span⟩ :: rest, ⟨inner', doc', comment', span'⟩ :: rest', same => by
    simp only [List.map_cons, List.cons.injEq] at same
    obtain ⟨label, part⟩ := Outline.part same.1
    obtain ⟨rfl, rfl, rfl⟩ := Label.item.inj label
    rw [decl inner inner' part, items _ _ same.2]

end outline_inj

/-- Files with one outline are one file. -/
theorem SourceFile.outline_inj {one other : SourceFile} (same : one.outline = other.outline) : one = other := by
  obtain ⟨header, package, packageSpan, items, trailing, lines⟩ := one
  obtain ⟨header', package', packageSpan', items', trailing', lines'⟩ := other
  obtain ⟨label, parts⟩ := Outline.node.inj same
  obtain ⟨rfl, rfl, rfl, rfl, rfl⟩ := Label.file.inj label
  rw [outline_inj.items items items' parts]

end GoSpecs
