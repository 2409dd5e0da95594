import GoSpecs.Proofs.Syntax.Extents
import GoSpecs.Proofs.Syntax.Relocate

namespace GoSpecs

def TypeSpec.outline (spec : TypeSpec) : Outline :=
  .node (.typeSpec spec.name spec.isAlias spec.comment) [.group (outlinesOfFields spec.typeParams), spec.type.outline]

def ValueSpec.outline (spec : ValueSpec) : Outline :=
  .node (.valueSpec spec.names spec.comment) [outlineOfExpr? spec.type?, .group (outlinesOfExprs spec.values)]

def CaseClause.outline (clause : CaseClause) : Outline :=
  .node .caseClause [.group (outlinesOfExprs clause.exprs), clause.body.outline]

def CommClause.outline (clause : CommClause) : Outline :=
  .node .commClause [outlineOfStmt? clause.comm?, clause.body.outline]

structure Enclosed (α : Type) where
  inner : α
  span : Span

class Located (α : Type) where
  relocate : (Span → Span) → α → α
  outlines : α → List Outline

namespace Located

variable {α β : Type} [Located α] [Located β] (place : Span → Span)

def extents (part : α) : List Extent :=
  Outline.extentsOf (outlines part)

instance : Located Expr := ⟨Expr.relocate, fun expr => [expr.outline]⟩

instance : Located Expr.Node := ⟨Expr.Node.relocate, fun node => [node.outline]⟩

instance : Located Field := ⟨Field.relocate, fun field => [field.outline]⟩

instance : Located FuncType := ⟨FuncType.relocate, fun type => [type.outline]⟩

instance : Located Block := ⟨Block.relocate, fun block => [block.outline]⟩

instance : Located Stmt := ⟨Stmt.relocate, fun stmt => [stmt.outline]⟩

instance : Located Stmt.Node := ⟨Stmt.Node.relocate, fun node => [node.outline]⟩

instance : Located CaseClause := ⟨CaseClause.relocate, fun clause => [clause.outline]⟩

instance : Located CommClause := ⟨CommClause.relocate, fun clause => [clause.outline]⟩

instance : Located TypeSpec := ⟨TypeSpec.relocate, fun spec => [spec.outline]⟩

instance : Located ValueSpec := ⟨ValueSpec.relocate, fun spec => [spec.outline]⟩

instance : Located Decl := ⟨Decl.relocate, fun decl => [decl.outline]⟩

instance : Located Item := ⟨Item.relocate, fun item => [item.outline]⟩

instance : Located Comment := ⟨Comment.relocate, fun _ => []⟩

instance : Located AnchoredComment := ⟨AnchoredComment.relocate, fun _ => []⟩

instance : Located ElementComment := ⟨ElementComment.relocate, fun _ => []⟩

instance : Located ImportSpec := ⟨ImportSpec.relocate, fun _ => []⟩

instance : Located String := ⟨fun _ => id, fun _ => []⟩

instance : Located Bool := ⟨fun _ => id, fun _ => []⟩

instance : Located (Enclosed α) :=
  ⟨fun place part => ⟨relocate place part.inner, place part.span⟩,
    fun part => [.node (.block [] part.span) (outlines part.inner)]⟩

instance : Located (List α) := ⟨fun place => List.map (relocate place), fun list => list.flatMap outlines⟩

instance : Located (Option α) := ⟨fun place => Option.map (relocate place), fun part? => part?.elim [] outlines⟩

instance : Located (α × β) :=
  ⟨fun place pair => (relocate place pair.1, relocate place pair.2), fun pair => outlines pair.1 ++ outlines pair.2⟩

@[simp] theorem relocate_list (list : List α) : relocate place list = list.map (relocate place) := rfl

@[simp] theorem relocate_option (part? : Option α) : relocate place part? = part?.map (relocate place) := rfl

@[simp] theorem relocate_pair (first : α) (second : β) :
    relocate place (first, second) = (relocate place first, relocate place second) := rfl

@[simp] theorem outlines_cons (part : α) (list : List α) :
    outlines (part :: list) = outlines part ++ outlines list := rfl

@[simp] theorem outlines_append (list list' : List α) : outlines (list ++ list') = outlines list ++ outlines list' :=
  List.flatMap_append

theorem outlines_single (part : α) : outlines [part] = outlines part :=
  List.append_nil _

theorem outlines_pair (first : α) (second : β) : outlines (first, second) = outlines first ++ outlines second := rfl

@[simp] theorem outlines_some (part : α) : outlines (some part) = outlines part := rfl

theorem outlines_eq_map {outline : α → Outline} (single : ∀ part, outlines part = [outline part]) (list : List α) :
    outlines list = list.map outline := by
  induction list with
  | nil => rfl
  | cons part list ih => rw [outlines_cons, single, ih, List.map_cons, List.singleton_append]

theorem extents_cons (part : α) (list : List α) : extents (part :: list) = extents part ++ extents list := by
  simp [extents]

@[simp] theorem flatMap_none {γ : Type} (list : List γ) : (list.flatMap fun _ => ([] : List Outline)) = [] := by
  simp [List.flatMap_eq_nil_iff]

@[simp] theorem elim_none {γ : Type} (part? : Option γ) : (part?.elim [] fun _ => ([] : List Outline)) = [] := by
  cases part? <;> rfl

@[simp] theorem outlinesOfExprs_eq (exprs : List Expr) : outlinesOfExprs exprs = outlines exprs := by
  induction exprs with
  | nil => rfl
  | cons _ _ ih => rw [outlinesOfExprs, ih]; rfl

@[simp] theorem outlinesOfFields_eq (fields : List Field) : outlinesOfFields fields = outlines fields := by
  induction fields with
  | nil => rfl
  | cons _ _ ih => rw [outlinesOfFields, ih]; rfl

@[simp] theorem outlinesOfStmts_eq (stmts : List Stmt) : outlinesOfStmts stmts = outlines stmts := by
  induction stmts with
  | nil => rfl
  | cons _ _ ih => rw [outlinesOfStmts, ih]; rfl

@[simp] theorem outlinesOfCases_eq (clauses : List CaseClause) : outlinesOfCases clauses = outlines clauses := by
  induction clauses with
  | nil => rfl
  | cons one _ ih => cases one; rw [outlinesOfCases, ih]; rfl

@[simp] theorem outlinesOfComms_eq (clauses : List CommClause) : outlinesOfComms clauses = outlines clauses := by
  induction clauses with
  | nil => rfl
  | cons one _ ih => cases one; rw [outlinesOfComms, ih]; rfl

@[simp] theorem outlinesOfTypeSpecs_eq (specs : List TypeSpec) : outlinesOfTypeSpecs specs = outlines specs := by
  induction specs with
  | nil => rfl
  | cons one _ ih => cases one; rw [outlinesOfTypeSpecs, ih]; rfl

@[simp] theorem outlinesOfValueSpecs_eq (specs : List ValueSpec) : outlinesOfValueSpecs specs = outlines specs := by
  induction specs with
  | nil => rfl
  | cons one _ ih => cases one; rw [outlinesOfValueSpecs, ih]; rfl

@[simp] theorem extents_outlineOfExpr? (expr? : Option Expr) :
    (outlineOfExpr? expr?).extents = Outline.extentsOf (outlines expr?) := by
  cases expr? <;> simp [outlineOfExpr?, outlines]

@[simp] theorem extents_outlineOfField? (field? : Option Field) :
    (outlineOfField? field?).extents = Outline.extentsOf (outlines field?) := by
  cases field? <;> simp [outlineOfField?, outlines]

@[simp] theorem extents_outlineOfStmt? (stmt? : Option Stmt) :
    (outlineOfStmt? stmt?).extents = Outline.extentsOf (outlines stmt?) := by
  cases stmt? <;> simp [outlineOfStmt?, outlines]

@[simp] theorem extents_outlineOfBlock? (block? : Option Block) :
    (outlineOfBlock? block?).extents = Outline.extentsOf (outlines block?) := by
  cases block? <;> simp [outlineOfBlock?, outlines]

theorem extents_expr (node : Expr.Node) (span : Span) :
    extents (⟨node, span⟩ : Expr) = [⟨span, node.outline.name?, extents node⟩] := by
  simp [extents, outlines, Expr.outline, Label.enclose]

theorem extents_enclosed (part : Enclosed α) : extents part = [⟨part.span, none, extents part.inner⟩] := by
  simp [extents, outlines, Label.enclose]

/-- A node that has no other places than its parts, and these in their order. -/
structure Clear (build : α → β) : Prop where
  relocates : ∀ place part, relocate place (build part) = build (relocate place part)
  ranges : ∀ part, extents (build part) = extents part

attribute [local simp] relocate outlines extents Label.enclose Expr.Node.outline Stmt.outline Stmt.Node.outline Field.outline FuncType.outline Block.outline Decl.outline
  TypeSpec.outline ValueSpec.outline CaseClause.outline CommClause.outline Item.outline ImportGroup.relocate
  Item.relocate or_imp forall_and

namespace Clear

theorem paren : Clear Expr.Node.paren :=
  ⟨fun _ _ => by simp, fun _ => by simp⟩

theorem star : Clear Expr.Node.star :=
  ⟨fun _ _ => by simp, fun _ => by simp⟩

theorem unary (op : UnaryOp) : Clear (Expr.Node.unary op) :=
  ⟨fun _ _ => by simp, fun _ => by simp⟩

theorem selector (field : String) : Clear fun base => Expr.Node.selector base field :=
  ⟨fun _ _ => by simp, fun _ => by simp⟩

theorem funcType : Clear Expr.Node.funcType :=
  ⟨fun _ _ => by simp, fun _ => by simp⟩

theorem chanType (dir : ChanDir) : Clear (Expr.Node.chanType dir) :=
  ⟨fun _ _ => by simp, fun _ => by simp⟩

theorem ellipsis : Clear Expr.Node.ellipsis :=
  ⟨fun _ _ => by simp, fun _ => by simp⟩

theorem binary (op : BinaryOp) : Clear fun parts : Expr × Expr => Expr.Node.binary parts.1 op parts.2 :=
  ⟨fun _ _ => by simp, fun _ => by simp⟩

theorem keyValue : Clear fun parts : Expr × Expr => Expr.Node.keyValue parts.1 parts.2 :=
  ⟨fun _ _ => by simp, fun _ => by simp⟩

theorem mapType : Clear fun parts : Expr × Expr => Expr.Node.mapType parts.1 parts.2 :=
  ⟨fun _ _ => by simp, fun _ => by simp⟩

theorem index : Clear fun parts : Expr × Expr => Expr.Node.index parts.1 parts.2 :=
  ⟨fun _ _ => by simp, fun _ => by simp⟩

theorem indexList : Clear fun parts : Expr × List Expr => Expr.Node.indexList parts.1 parts.2 :=
  ⟨fun _ _ => by simp, fun _ => by simp⟩

theorem slice (threeIndex : Bool) : Clear fun parts : Expr × Option Expr × Option Expr × Option Expr =>
    Expr.Node.slice parts.1 parts.2.1 parts.2.2.1 parts.2.2.2 threeIndex :=
  ⟨fun _ _ => by simp, fun _ => by simp⟩

theorem typeAssert : Clear fun parts : Expr × Option Expr => Expr.Node.typeAssert parts.1 parts.2 :=
  ⟨fun _ _ => by simp, fun _ => by simp⟩

theorem arrayType : Clear fun parts : Option Expr × Expr => Expr.Node.arrayType parts.1 parts.2 :=
  ⟨fun _ _ => by simp, fun _ => by simp⟩

theorem funcLit : Clear fun parts : FuncType × Block => Expr.Node.funcLit parts.1 parts.2 :=
  ⟨fun _ _ => by simp, fun _ => by simp⟩

theorem call (ellipsis : Bool) : Clear fun parts : Expr × Enclosed (List Expr) =>
    Expr.Node.call parts.1 parts.2.inner ellipsis parts.2.span :=
  ⟨fun _ _ => by simp, fun _ => by simp⟩

theorem structType : Clear fun fields : Enclosed (List Field) => Expr.Node.structType fields.inner fields.span :=
  ⟨fun _ _ => by simp, fun _ => by simp⟩

theorem interfaceType : Clear fun methods : Enclosed (List Field) =>
    Expr.Node.interfaceType methods.inner methods.span :=
  ⟨fun _ _ => by simp, fun _ => by simp⟩

theorem param (names : List String) : Clear fun type => (⟨names, type, none, none⟩ : Field) :=
  ⟨fun _ _ => by simp, fun _ => by simp⟩

theorem signature : Clear fun parts : List Field × List Field => (⟨parts.1, parts.2⟩ : FuncType) :=
  ⟨fun _ _ => by simp, fun _ => by simp⟩

theorem expr : Clear Stmt.Node.expr :=
  ⟨fun _ _ => by simp, fun _ => by simp⟩

theorem assign (op : AssignOp) : Clear fun parts : List Expr × List Expr =>
    Stmt.Node.assign parts.1 op parts.2 :=
  ⟨fun _ _ => by simp, fun _ => by simp⟩

theorem incDec (inc : Bool) : Clear fun expr => Stmt.Node.incDec expr inc :=
  ⟨fun _ _ => by simp, fun _ => by simp⟩

theorem send : Clear fun parts : Expr × Expr => Stmt.Node.send parts.1 parts.2 :=
  ⟨fun _ _ => by simp, fun _ => by simp⟩

theorem decl : Clear Stmt.Node.decl :=
  ⟨fun _ _ => by simp, fun _ => by simp⟩

theorem go : Clear Stmt.Node.go :=
  ⟨fun _ _ => by simp, fun _ => by simp⟩

theorem defer : Clear Stmt.Node.defer :=
  ⟨fun _ _ => by simp, fun _ => by simp⟩

theorem ret : Clear Stmt.Node.ret :=
  ⟨fun _ _ => by simp, fun _ => by simp⟩

theorem blockStmt : Clear Stmt.Node.block :=
  ⟨fun _ _ => by simp, fun _ => by simp⟩

theorem ifElse : Clear fun parts : (Option Stmt × Expr) × Block × Option Stmt =>
    Stmt.Node.ifElse parts.1.1 parts.1.2 parts.2.1 parts.2.2 :=
  ⟨fun _ _ => by simp, fun _ => by simp⟩

theorem forLoop : Clear fun parts : (Option Stmt × Option Expr × Option Stmt) × Block =>
    Stmt.Node.forLoop parts.1.1 parts.1.2.1 parts.1.2.2 parts.2 :=
  ⟨fun _ _ => by simp, fun _ => by simp⟩

theorem rangeLoop (define : Bool) : Clear fun parts : (Option Expr × Option Expr × Expr) × Block =>
    Stmt.Node.rangeLoop parts.1.1 parts.1.2.1 define parts.1.2.2 parts.2 :=
  ⟨fun _ _ => by simp, fun _ => by simp⟩

theorem switch : Clear fun parts : Option Stmt × Option Expr × List CaseClause =>
    Stmt.Node.switch parts.1 parts.2.1 parts.2.2 :=
  ⟨fun _ _ => by simp, fun _ => by simp⟩

theorem typeSwitch (binding? : Option String) : Clear fun parts : Option Stmt × Expr × List CaseClause =>
    Stmt.Node.typeSwitch parts.1 binding? parts.2.1 parts.2.2 :=
  ⟨fun _ _ => by simp, fun _ => by simp⟩

theorem select : Clear Stmt.Node.select :=
  ⟨fun _ _ => by simp, fun _ => by simp⟩

theorem labeled (label : String) : Clear (Stmt.Node.labeled label) :=
  ⟨fun _ _ => by simp, fun _ => by simp⟩

theorem stmt : Clear fun part : Enclosed Stmt.Node => (⟨part.inner, part.span⟩ : Stmt) :=
  ⟨fun _ _ => by simp, fun _ => by simp⟩

theorem imports (grouped : Bool) : Clear fun specs => Decl.imports ⟨specs, grouped⟩ :=
  ⟨fun _ _ => by simp, fun _ => by simp⟩

theorem types (grouped : Bool) : Clear fun specs => Decl.types specs grouped :=
  ⟨fun _ _ => by simp, fun _ => by simp⟩

theorem values (kind : ValueKind) (grouped : Bool) : Clear fun specs => Decl.values kind specs grouped :=
  ⟨fun _ _ => by simp, fun _ => by simp⟩

theorem func : Clear fun parts : Option Field × Enclosed String × List Field × FuncType × Option Block =>
    Decl.func ⟨parts.1, parts.2.1.inner, parts.2.1.span, parts.2.2.1, parts.2.2.2.1, parts.2.2.2.2⟩ :=
  ⟨fun _ _ => by simp, fun _ => by simp⟩

theorem composite : Clear fun parts : (Option Expr × Enclosed (List Expr)) × List ElementComment =>
    Expr.Node.composite parts.1.1 parts.1.2.inner parts.1.2.span parts.2 :=
  ⟨fun _ _ => by simp, fun _ => by simp⟩

theorem field (names : List String) (tag? : Option String) :
    Clear fun parts : Expr × Option Comment => (⟨names, parts.1, tag?, parts.2⟩ : Field) :=
  ⟨fun _ _ => by simp, fun _ => by simp⟩

theorem block : Clear fun parts : Enclosed (List Stmt) × List AnchoredComment =>
    (⟨parts.1.inner, parts.2, parts.1.span⟩ : Block) :=
  ⟨fun _ _ => by simp, fun _ => by simp⟩

theorem caseClause : Clear fun parts : Enclosed (List Expr × List Stmt) × List AnchoredComment =>
    (⟨parts.1.inner.1, parts.1.inner.2, parts.2, parts.1.span⟩ : CaseClause) :=
  ⟨fun _ _ => by simp, fun _ => by simp⟩

theorem commClause : Clear fun parts : Enclosed (Option Stmt × List Stmt) × List AnchoredComment =>
    (⟨parts.1.inner.1, parts.1.inner.2, parts.2, parts.1.span⟩ : CommClause) :=
  ⟨fun _ _ => by simp, fun _ => by simp⟩

theorem typeSpec (name : String) (isAlias : Bool) : Clear fun parts : List Field × Expr × Option Comment =>
    (⟨name, parts.1, isAlias, parts.2.1, parts.2.2⟩ : TypeSpec) :=
  ⟨fun _ _ => by simp, fun _ => by simp⟩

theorem valueSpec (names : List String) : Clear fun parts : Option Expr × List Expr × Option Comment =>
    (⟨names, parts.1, parts.2.1, parts.2.2⟩ : ValueSpec) :=
  ⟨fun _ _ => by simp, fun _ => by simp⟩

theorem importSpec (alias? : Option String) (path : String) :
    Clear fun comment? => (⟨alias?, path, comment?⟩ : ImportSpec) :=
  ⟨fun _ _ => by simp [ImportSpec.relocate], fun _ => by simp⟩

theorem item : Clear fun parts : Enclosed Decl × List Comment × Option Comment =>
    (⟨parts.1.inner, parts.2.1, parts.2.2, parts.1.span⟩ : Item) :=
  ⟨fun _ _ => by simp, fun _ => by simp⟩

end Clear

end Located

end GoSpecs
