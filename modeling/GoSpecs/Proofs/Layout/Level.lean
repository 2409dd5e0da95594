import GoSpecs.Layout.File
import GoSpecs.Proofs.Grammar.Places.Sources

namespace GoSpecs

namespace Layout

variable (place : Span → Span)

@[simp] theorem span_relocate (expr : Expr) : (expr.relocate place).span = place expr.span := by
  cases expr
  simp

@[simp] theorem node_relocate (expr : Expr) : (expr.relocate place).node = expr.node.relocate place := by
  cases expr
  simp

@[simp] theorem commentSpan_relocate (comment : Comment) : (comment.relocate place).span = place comment.span := rfl

@[simp] theorem commentText_relocate (comment : Comment) : (comment.relocate place).text = comment.text := rfl

@[simp] theorem isParen_relocate (expr : Expr) : isParen (expr.relocate place) = isParen expr := by
  obtain ⟨node, span⟩ := expr
  cases node <;> simp [isParen]

@[simp] theorem isBinary_relocate (expr : Expr) : isBinary (expr.relocate place) = isBinary expr := by
  obtain ⟨node, span⟩ := expr
  cases node <;> simp [isBinary]

@[simp] theorem isEmptyStmt_relocate (stmt : Stmt) : isEmptyStmt (stmt.relocate place) = isEmptyStmt stmt := by
  obtain ⟨node, span⟩ := stmt
  cases node <;> simp [isEmptyStmt]

@[simp] theorem binaryPrecedence?_relocate (expr : Expr) :
    binaryPrecedence? (expr.relocate place) = binaryPrecedence? expr := by
  obtain ⟨node, span⟩ := expr
  cases node <;> simp [binaryPrecedence?]

@[simp] theorem ofClash_relocate (op : BinaryOp) (node : Expr.Node) (seen : OperatorUse) :
    OperatorUse.ofClash op (node.relocate place) seen = OperatorUse.ofClash op node seen := by
  cases node with
  | unary inner operand => cases op <;> cases inner <;> simp [OperatorUse.ofClash]
  | _ => cases op <;> simp [OperatorUse.ofClash]

@[simp] theorem operatorUse_relocate (expr : Expr) : operatorUse (expr.relocate place) = operatorUse expr := by
  obtain ⟨node, span⟩ := expr
  cases node with
  | binary left op right =>
    simp [operatorUse, operatorUse_relocate left, operatorUse_relocate right]
  | _ => simp [operatorUse]

@[simp] theorem cutoff_relocate (expr : Expr) (depth : Nat) :
    cutoff (expr.relocate place) depth = cutoff expr depth := by
  simp [cutoff]

@[simp] theorem leftDepth_relocate (left : Expr) (precedence depth : Nat) :
    leftDepth (left.relocate place) precedence depth = leftDepth left precedence depth := by
  simp [leftDepth]

theorem sliceBlanks_relocate (depth : Nat) (bounds : List (Option Expr)) :
    sliceBlanks depth (bounds.map (·.map (·.relocate place))) = sliceBlanks depth bounds := by
  have given : (bounds.map (·.map (·.relocate place))).filterMap id = (bounds.filterMap id).map (·.relocate place) := by
    simp [List.filterMap_map, List.map_filterMap]
  simp only [sliceBlanks, given, List.length_map, List.any_map, Function.comp_def, isBinary_relocate]

@[simp] theorem isShort_relocate (fields : List Field) :
    isShort (fields.map (·.relocate place)) = isShort fields := by
  rcases fields with _ | ⟨⟨names, type, tag?, comment⟩, _ | _⟩ <;> simp [isShort]

@[simp] theorem commentCell_relocate (comment : Option Comment) :
    commentCell (comment.map (·.relocate place)) = commentCell comment := by
  cases comment <;> simp [commentCell]

@[simp] theorem importText_relocate (group : ImportGroup) : importText (group.relocate place) = importText group := by
  have row (spec : ImportSpec) : importRow (spec.relocate place) = importRow spec := by
    simp [importRow, importSpecText, ImportSpec.relocate]
  obtain ⟨specs, parenthesized⟩ := group
  rcases parenthesized with _ | _ <;> rcases specs with _ | ⟨spec, _ | _⟩ <;>
    simp [importText, ImportGroup.relocate, row, Function.comp_def]

theorem toList_relocate (comment : Option Comment) :
    (comment.map (·.relocate place)).toList = comment.toList.map (·.relocate place) := by
  cases comment <;> rfl

@[simp] theorem trailingComments_relocate (comments : List Comment) :
    trailingComments (comments.map (·.relocate place)) = trailingComments comments := by
  simp [trailingComments, Function.comp_def]

@[simp] theorem anchoredAt_relocate (anchor : Anchor) (comments : List AnchoredComment) :
    anchoredAt anchor (comments.map (·.relocate place)) = (anchoredAt anchor comments).map (·.relocate place) := by
  simp [anchoredAt, List.filter_map, AnchoredComment.relocate, Function.comp_def]

@[simp] theorem brokenList_relocate (elements : List Element) (comments : List ElementComment) (closes : Bool)
    (indent : Nat) (suffix : String) :
    brokenList elements (comments.map (·.relocate place)) closes indent suffix =
      brokenList elements comments closes indent suffix := by
  have add : Listing.add (comments.map (·.relocate place)) = Listing.add comments := by
    funext alone listing indexed
    simp [Listing.add, ElementComment.relocate, List.find?_map, Function.comp_def]
  simp only [brokenList, add]

@[simp] theorem type?_relocate (spec : ValueSpec) :
    (spec.relocate place).type? = spec.type?.map (·.relocate place) := by
  cases spec
  simp

@[simp] theorem declKind_relocate (decl : Decl) : declKind (decl.relocate place) = declKind decl := by
  rcases decl with _ | ⟨_, _, _, _, _, _⟩ | _ | ⟨_ | _, _, _⟩ <;> simp [declKind]

/-- The two places of a span are on the same lines of two sources. -/
structure Level (lines lines' : Lines) (place place' : Span → Span) : Prop where
  starts (span : Span) : lines.line? (place span).start? = lines'.line? (place' span).start?
  stops (span : Span) : lines.line? (place span).stop? = lines'.line? (place' span).stop?
  detached (span : Span) : place span = .detached ↔ place' span = .detached
  ends (span : Span) (known : place span ≠ .detached) :
    lines.lineBefore? (place span).stop? = lines'.lineBefore? (place' span).stop?

def StmtLine.Level (lines lines' : Lines) (one other : StmtLine) : Prop :=
  one.text = other.text ∧ lines.line? one.span.start? = lines'.line? other.span.start? ∧
    lines.line? one.span.stop? = lines'.line? other.span.stop?

def ClauseText.Level (lines lines' : Lines) (one other : ClauseText) : Prop :=
  one.header = other.header ∧ one.body = other.body ∧
    lines.line? one.span.start? = lines'.line? other.span.start? ∧
    lines.line? one.span.stop? = lines'.line? other.span.stop?

namespace Level

variable {lines lines' : Lines} {place place' : Span → Span}

section

variable (level : Level lines lines' place place')
include level

theorem oneLine (span : Span) : oneLine lines (place span) = oneLine lines' (place' span) := by
  by_cases known : place span = .detached
  · rw [Layout.oneLine, Layout.oneLine, known, (level.detached span).mp known]
    rfl
  · have known' := mt (level.detached span).mpr known
    simp only [Layout.oneLine, known, known', level.starts, level.ends span known]

theorem commentLines (indent : Nat) (comments : List Comment) {above above' : Option Nat}
    (same : lines.line? above = lines'.line? above') :
    commentLines lines indent above (comments.map (·.relocate place)) =
      commentLines lines' indent above' (comments.map (·.relocate place')) := by
  induction comments generalizing above above' with
  | nil => rfl
  | cons comment comments ih =>
    simp [Layout.commentLines, Lines.blankBetween, Lines.between?, same, level.starts, ih (level.stops comment.span)]

theorem startOfAll (comments : List Comment) {below below' : Option Nat}
    (same : lines.line? below = lines'.line? below') :
    lines.line? (startOfAll (comments.map (·.relocate place)) below) =
      lines'.line? (startOfAll (comments.map (·.relocate place')) below') := by
  cases comments with
  | nil => exact same
  | cons comment comments => exact level.starts comment.span

theorem stopOfAll (comments : List Comment) {above above' : Option Nat}
    (same : lines.line? above = lines'.line? above') :
    lines.line? (stopOfAll (comments.map (·.relocate place)) above) =
      lines'.line? (stopOfAll (comments.map (·.relocate place')) above') := by
  simp only [Layout.stopOfAll, List.getLast?_map]
  cases comments.getLast? with
  | none => exact same
  | some comment => exact level.stops comment.span

theorem leadingComments (indent : Nat) (comments : List Comment) {below below' : Option Nat}
    (same : lines.line? below = lines'.line? below') :
    leadingComments lines indent (comments.map (·.relocate place)) below =
      leadingComments lines' indent (comments.map (·.relocate place')) below' := by
  have start : lines.line? none = lines'.line? none := rfl
  simp only [Layout.leadingComments, Lines.blankBetween, Lines.between?, level.commentLines indent comments start,
    level.stopOfAll comments start, same]

theorem stmtLines (comments : List AnchoredComment) (indent index : Nat) {stmts stmts' : List StmtLine}
    (each : List.Forall₂ (StmtLine.Level lines lines') stmts stmts') {above above' : Option Nat}
    (same : lines.line? above = lines'.line? above') :
    stmtLines lines (comments.map (·.relocate place)) indent index above stmts =
      stmtLines lines' (comments.map (·.relocate place')) indent index above' stmts' := by
  induction each generalizing index above above' with
  | nil =>
    simp only [Layout.stmtLines, anchoredAt_relocate]
    exact level.commentLines indent _ same
  | cons first _ ih =>
    obtain ⟨text, starts, stops⟩ := first
    simp only [Layout.stmtLines, anchoredAt_relocate, trailingComments_relocate, Lines.blankBetween, Lines.between?,
      same, text, level.startOfAll _ starts, level.leadingComments indent _ starts]
    rw [ih (index + 1) (level.stopOfAll (anchoredAt (.after index) comments) stops)]

theorem stmtListText (comments : List AnchoredComment) (indent : Nat) {stmts stmts' : List StmtLine}
    (each : List.Forall₂ (StmtLine.Level lines lines') stmts stmts') :
    stmtListText lines (comments.map (·.relocate place)) indent stmts =
      stmtListText lines' (comments.map (·.relocate place')) indent stmts' :=
  level.stmtLines comments indent 0 each (show lines.line? none = lines'.line? none from rfl)

theorem blockText (indent : Nat) (span : Span) (comments : List AnchoredComment) {stmts stmts' : List StmtLine}
    (each : List.Forall₂ (StmtLine.Level lines lines') stmts stmts') :
    blockText lines indent (place span) (comments.map (·.relocate place)) stmts =
      blockText lines' indent (place' span) (comments.map (·.relocate place')) stmts' := by
  have empty : stmts.isEmpty = stmts'.isEmpty := by cases each <;> rfl
  simp only [Layout.blockText, empty, List.isEmpty_map, level.oneLine, level.stmtListText comments _ each]

omit level in
theorem clausesText (indent : Nat) {clauses clauses' : List ClauseText}
    (each : List.Forall₂ (ClauseText.Level lines lines') clauses clauses') :
    clausesText lines indent clauses = clausesText lines' indent clauses' := by
  have below {above above' : Option Nat} (same : lines.line? above = lines'.line? above') :
      clauseLines lines indent above clauses = clauseLines lines' indent above' clauses' := by
    induction each generalizing above above' with
    | nil => rfl
    | cons first _ ih =>
      obtain ⟨header, text, starts, stops⟩ := first
      simp only [clauseLines, Lines.blankBetween, Lines.between?, same, header, text, starts, ih stops]
  rw [Layout.clausesText, Layout.clausesText, below (show lines.line? none = lines'.line? none from rfl)]

theorem listText (brackets : Span) (list : List Expr) (comments : List ElementComment) (indent : Nat)
    (suffix : String) {flat : Unit → List String} {broken : Unit → List Element} :
    listText lines (place brackets) (list.map (·.relocate place)) (comments.map (·.relocate place)) indent suffix
        flat broken =
      listText lines' (place' brackets) (list.map (·.relocate place')) (comments.map (·.relocate place')) indent suffix
        flat broken := by
  simp only [Layout.listText, List.getLast?_map, brokenList_relocate, level.oneLine]
  cases list.getLast? with
  | none => rfl
  | some last =>
    simp only [Option.map_some, span_relocate, level.stops]
    cases one : Layout.oneLine lines' (place' brackets) with
    | true => rfl
    | false =>
      have known : place brackets ≠ .detached := by
        rw [← level.oneLine] at one
        rintro known
        simp [Layout.oneLine, known] at one
      rw [level.ends brackets known]

theorem oneLineBody? (span : Span) (comments : List AnchoredComment) :
    oneLineBody? lines (place span) (comments.map (·.relocate place)) =
      oneLineBody? lines' (place' span) (comments.map (·.relocate place')) := by
  simp only [Layout.oneLineBody?, bne, beq_eq_decide, level.detached, List.isEmpty_map, level.oneLine]

theorem breaks (left right : Expr) :
    lines.breaks (place left.span).stop? (place right.span).start? =
      lines'.breaks (place' left.span).stop? (place' right.span).start? := by
  simp only [Lines.breaks, level.stops, level.starts]

end

mutual

theorem expr (level : Level lines lines' place place') : (expr : Expr) → (precedence depth indent : Nat) →
    exprText lines precedence depth indent (expr.relocate place) =
      exprText lines' precedence depth indent (expr.relocate place')
  | ⟨.ident _, _⟩, _, _, _ | ⟨.literal _, _⟩, _, _, _ => by simp [exprText]
  | ⟨.binary left op right, span⟩, _, depth, _ => by
    have use (place : Span → Span) := cutoff_relocate place ⟨.binary left op right, span⟩
    simp only [Expr.relocate, Expr.Node.relocate] at use
    simp [exprText, use, level.breaks, expr level left, expr level right]
  | ⟨.unary _ operand, _⟩, _, _, _ => by simp [exprText, expr level operand]
  | ⟨.star inner, _⟩, _, _, _ | ⟨.paren inner, _⟩, _, _, _ => by simp [exprText, expr level inner]
  | ⟨.selector base _, _⟩, _, _, _ | ⟨.typeAssert base none, _⟩, _, _, _ => by simp [exprText, expr level base]
  | ⟨.typeAssert base (some type), _⟩, _, _, _ => by simp [exprText, expr level base, expr level type]
  | ⟨.index base index, _⟩, _, _, _ => by simp [exprText, expr level base, expr level index]
  | ⟨.indexList base indices, _⟩, _, _, _ => by simp [exprText, expr level base, exprs level indices]
  | ⟨.slice base low? high? max? threeIndex, _⟩, _, depth, _ => by
    have two (place : Span → Span) := sliceBlanks_relocate place depth [low?, high?]
    have three (place : Span → Span) := sliceBlanks_relocate place depth [low?, high?, max?]
    simp only [List.map_cons, List.map_nil] at two three
    cases threeIndex <;> simp [exprText, two, three, expr level base, bound level low?, bound level high?,
      bound level max?]
  | ⟨.call func args _ parens, _⟩, _, _, _ => by
    have list := level.listText parens args []
    simp only [List.map_nil] at list
    simp [exprText, expr level func, exprs level args, elements level args, level.starts, list]
  | ⟨.composite none parts braces comments, _⟩, _, _, _ => by
    simp [exprText, exprs level parts, elements level parts, level.starts, level.listText]
  | ⟨.composite (some type) parts braces comments, _⟩, _, _, _ => by
    simp [exprText, expr level type, exprs level parts, elements level parts, level.starts, level.listText]
  | ⟨.funcLit type inner, _⟩, _, _, _ => by simp [exprText, signature level type, body level inner]
  | ⟨.keyValue key value, _⟩, _, _, _ | ⟨.mapType key value, _⟩, _, _, _ => by
    simp [exprText, expr level key, expr level value]
  | ⟨.arrayType length? elem, _⟩, _, _, _ => by simp [exprText, optExpr level length?, expr level elem]
  | ⟨.ellipsis elem?, _⟩, _, _, _ => by simp [exprText, optExpr level elem?]
  | ⟨.chanType _ elem, _⟩, _, _, _ => by simp [exprText, expr level elem]
  | ⟨.funcType type, _⟩, _, _, _ => by simp [exprText, signature level type]
  | ⟨.structType members braces, _⟩, _, _, _ => by simp [exprText, structRows level members, level.oneLine]
  | ⟨.interfaceType methods braces, _⟩, _, _, _ => by simp [exprText, interfaceRows level methods, level.oneLine]

theorem optExpr (level : Level lines lines' place place') : (expr? : Option Expr) → (indent : Nat) →
    optExprText lines indent (expr?.map (·.relocate place)) = optExprText lines' indent (expr?.map (·.relocate place'))
  | none, _ => by simp [optExprText]
  | some one, _ => by simp [optExprText, expr level one]

theorem bound (level : Level lines lines' place place') : (expr? : Option Expr) → (depth indent : Nat) →
    boundText lines depth indent (expr?.map (·.relocate place)) =
      boundText lines' depth indent (expr?.map (·.relocate place'))
  | none, _, _ => by simp [boundText]
  | some one, _, _ => by simp [boundText, expr level one]

theorem exprs (level : Level lines lines' place place') : (list : List Expr) → (depth indent : Nat) →
    exprTexts lines depth indent (list.map (·.relocate place)) =
      exprTexts lines' depth indent (list.map (·.relocate place'))
  | [], _, _ => by simp [exprTexts]
  | one :: list, _, _ => by simp [exprTexts, expr level one, exprs level list]

theorem elements (level : Level lines lines' place place') : (list : List Expr) → (depth indent : Nat) →
    (previous? : Option Nat) → (broken : Bool) →
    elementTexts lines depth indent previous? broken (list.map (·.relocate place)) =
      elementTexts lines' depth indent previous? broken (list.map (·.relocate place'))
  | [], _, _, _, _ => by simp [elementTexts]
  | ⟨node, span⟩ :: list, depth, indent, previous?, broken => by
    have own := expr level ⟨node, span⟩
    cases node with
    | keyValue key value =>
      simp [elementTexts, level.starts, level.stops, expr level key, expr level value, elements level list]
    | _ =>
      simp only [Expr.relocate, Expr.Node.relocate, relocateExpr?_eq_map, relocateExprs_eq_map,
        relocateFields_eq_map] at own
      simp [elementTexts, level.starts, level.stops, own, elements level list]

theorem fields (level : Level lines lines' place place') : (list : List Field) → (indent : Nat) →
    fieldTexts lines indent (list.map (·.relocate place)) = fieldTexts lines' indent (list.map (·.relocate place'))
  | [], _ => by simp [fieldTexts]
  | ⟨_, type, _, _⟩ :: list, _ => by simp [fieldTexts, expr level type, fields level list]

theorem structRows (level : Level lines lines' place place') : (list : List Field) → (indent : Nat) →
    structRows lines indent (list.map (·.relocate place)) = structRows lines' indent (list.map (·.relocate place'))
  | [], _ => by simp [Layout.structRows]
  | ⟨_, type, _, _⟩ :: list, _ => by simp [Layout.structRows, expr level type, structRows level list]

theorem interfaceRows (level : Level lines lines' place place') : (list : List Field) → (indent : Nat) →
    interfaceRows lines indent (list.map (·.relocate place)) =
      interfaceRows lines' indent (list.map (·.relocate place'))
  | [], _ => by simp [Layout.interfaceRows]
  | ⟨names, ⟨node, span⟩, _, _⟩ :: list, _ => by
    have own := expr level ⟨node, span⟩
    cases node with
    | funcType type =>
      rcases names with _ | ⟨name, _ | ⟨second, rest⟩⟩ <;>
        simp [Layout.interfaceRows, exprText, signature level type, interfaceRows level list]
    | _ =>
      simp only [Expr.relocate, Expr.Node.relocate, relocateExpr?_eq_map, relocateExprs_eq_map,
        relocateFields_eq_map] at own
      simp [Layout.interfaceRows, own, interfaceRows level list]

theorem signature (level : Level lines lines' place place') : (type : FuncType) → (indent : Nat) →
    signatureText lines indent (type.relocate place) = signatureText lines' indent (type.relocate place')
  | ⟨params, results⟩, indent => by
    simp only [FuncType.relocate, signatureText, relocateFields_eq_map, fields level params, fields level results]
    rcases results with _ | ⟨⟨_ | ⟨name, names⟩, type, tag?, comment⟩, _ | ⟨second, rest⟩⟩ <;> simp

theorem block (level : Level lines lines' place place') : (block : Block) → (indent : Nat) →
    blockLines lines indent (block.relocate place) = blockLines lines' indent (block.relocate place')
  | ⟨list, comments, span⟩, indent => by
    simp [blockLines, level.blockText indent span comments (rows level list (indent + 1))]

theorem body (level : Level lines lines' place place') : (block : Block) → (indent : Nat) →
    bodyText lines indent (block.relocate place) = bodyText lines' indent (block.relocate place')
  | ⟨list, comments, span⟩, indent => by
    simp [bodyText, stmts level list, level.blockText indent span comments (rows level list (indent + 1)),
      level.oneLineBody?]

theorem stmts (level : Level lines lines' place place') : (list : List Stmt) → (indent : Nat) →
    stmtTexts lines indent (list.map (·.relocate place)) = stmtTexts lines' indent (list.map (·.relocate place'))
  | [], _ => by simp [stmtTexts]
  | one :: list, _ => by simp [stmtTexts, stmt level one, stmts level list]

theorem rows (level : Level lines lines' place place') : (list : List Stmt) → (indent : Nat) →
    List.Forall₂ (StmtLine.Level lines lines') (stmtLineTexts lines indent (list.map (·.relocate place)))
      (stmtLineTexts lines' indent (list.map (·.relocate place')))
  | [], _ => by simp [stmtLineTexts]
  | ⟨node, span⟩ :: list, indent => by
    have own := stmt level ⟨node, span⟩ indent
    have more := rows level list indent
    cases node with
    | labeled label inner =>
      simpa [stmtLineTexts, StmtLine.Level, stmt level inner indent, level.starts, level.stops] using more
    | _ =>
      simpa [stmtLineTexts, StmtLine.Level, level.starts, level.stops, more] using own

theorem stmt (level : Level lines lines' place place') : (stmt : Stmt) → (indent : Nat) →
    stmtText lines indent (stmt.relocate place) = stmtText lines' indent (stmt.relocate place')
  | ⟨.expr inner, _⟩, _ | ⟨.incDec inner _, _⟩, _ => by simp [stmtText, expr level inner]
  | ⟨.assign targets _ values, _⟩, _ => by simp [stmtText, exprs level targets, exprs level values]
  | ⟨.send channel value, _⟩, _ => by simp [stmtText, expr level channel, expr level value]
  | ⟨.decl inner, _⟩, _ => by simp [stmtText, decl level inner]
  | ⟨.go call, _⟩, _ | ⟨.defer call, _⟩, _ => by simp [stmtText, expr level call]
  | ⟨.ret results, _⟩, _ => by simp [stmtText, exprs level results]
  | ⟨.branch _ _, _⟩, _ | ⟨.empty, _⟩, _ => by simp [stmtText]
  | ⟨.block inner, _⟩, _ => by simp [stmtText, block level inner]
  | ⟨.ifElse init? cond inner else?, _⟩, _ => by
    simp [stmtText, init level init?, expr level cond, block level inner, otherwise level else?]
  | ⟨.forLoop init? cond? post? inner, _⟩, _ => by
    simp [stmtText, optStmt level init?, optExpr level cond?, optStmt level post?, block level inner]
  | ⟨.rangeLoop none value? _ inner loop, _⟩, _ => by
    cases value? <;> simp [stmtText, expr level inner, block level loop]
  | ⟨.rangeLoop (some key) none _ inner loop, _⟩, _ => by
    simp [stmtText, expr level key, expr level inner, block level loop]
  | ⟨.rangeLoop (some key) (some value) _ inner loop, _⟩, _ => by
    simp [stmtText, expr level key, expr level value, expr level inner, block level loop]
  | ⟨.switch init? tag? clauses, _⟩, indent => by
    simp [stmtText, init level init?, optExpr level tag?, clausesText indent (cases level clauses indent)]
  | ⟨.typeSwitch init? _ inner clauses, _⟩, indent => by
    simp [stmtText, init level init?, expr level inner, clausesText indent (cases level clauses indent)]
  | ⟨.select clauses, _⟩, indent => by
    simp [stmtText, clausesText indent (comms level clauses indent)]
  | ⟨.labeled _ inner, _⟩, _ => by simp [stmtText, stmt level inner]

theorem optStmt (level : Level lines lines' place place') : (stmt? : Option Stmt) → (indent : Nat) →
    optStmtText lines indent (stmt?.map (·.relocate place)) = optStmtText lines' indent (stmt?.map (·.relocate place'))
  | none, _ => by simp [optStmtText]
  | some one, _ => by simp [optStmtText, stmt level one]

theorem init (level : Level lines lines' place place') : (stmt? : Option Stmt) → (indent : Nat) →
    initText lines indent (stmt?.map (·.relocate place)) = initText lines' indent (stmt?.map (·.relocate place'))
  | none, _ => by simp [initText]
  | some one, _ => by simp [initText, stmt level one]

theorem otherwise (level : Level lines lines' place place') : (stmt? : Option Stmt) → (indent : Nat) →
    elseText lines indent (stmt?.map (·.relocate place)) = elseText lines' indent (stmt?.map (·.relocate place'))
  | none, _ => by simp [elseText]
  | some one, _ => by simp [elseText, stmt level one]

theorem cases (level : Level lines lines' place place') : (list : List CaseClause) → (indent : Nat) →
    List.Forall₂ (ClauseText.Level lines lines') (caseTexts lines indent (list.map (·.relocate place)))
      (caseTexts lines' indent (list.map (·.relocate place')))
  | [], _ => by simp [caseTexts]
  | ⟨values, ⟨inner, comments, span⟩⟩ :: list, indent => by
    simp [caseTexts, ClauseText.Level, exprs level values, level.stmtListText comments _ (rows level inner
      (indent + 1)),
      level.starts, level.stops, cases level list]

theorem comms (level : Level lines lines' place place') : (list : List CommClause) → (indent : Nat) →
    List.Forall₂ (ClauseText.Level lines lines') (commTexts lines indent (list.map (·.relocate place)))
      (commTexts lines' indent (list.map (·.relocate place')))
  | [], _ => by simp [commTexts]
  | ⟨comm?, ⟨inner, comments, span⟩⟩ :: list, indent => by
    simp [commTexts, ClauseText.Level, optStmt level comm?, level.stmtListText comments _ (rows level inner
      (indent + 1)),
      level.starts, level.stops, comms level list]

theorem typeRows (level : Level lines lines' place place') : (list : List TypeSpec) → (indent : Nat) →
    (grouped : Bool) →
    typeRows lines indent grouped (list.map (·.relocate place)) =
      typeRows lines' indent grouped (list.map (·.relocate place'))
  | [], _, _ => by simp [Layout.typeRows]
  | ⟨_, params, _, type, _⟩ :: list, _, _ => by
    simp [Layout.typeRows, fields level params, expr level type, typeRows level list]

theorem valueRows (level : Level lines lines' place place') : (list : List ValueSpec) → (indent : Nat) →
    (keepsTypes : Bool) →
    valueRows lines indent keepsTypes (list.map (·.relocate place)) =
      valueRows lines' indent keepsTypes (list.map (·.relocate place'))
  | [], _, _ => by simp [Layout.valueRows]
  | ⟨_, type?, values, _⟩ :: list, _, _ => by
    simp [Layout.valueRows, bound level type?, exprs level values, valueRows level list]

theorem receiver (level : Level lines lines' place place') : (field? : Option Field) → (indent : Nat) →
    receiverText lines indent (field?.map (·.relocate place)) =
      receiverText lines' indent (field?.map (·.relocate place'))
  | none, _ => by simp [receiverText]
  | some ⟨_, type, _, _⟩, _ => by simp [receiverText, expr level type]

theorem optBody (level : Level lines lines' place place') : (block? : Option Block) → (indent : Nat) →
    optBodyText lines indent (block?.map (·.relocate place)) =
      optBodyText lines' indent (block?.map (·.relocate place'))
  | none, _ => by simp [optBodyText]
  | some one, _ => by simp [optBodyText, body level one]

theorem decl (level : Level lines lines' place place') : (decl : Decl) → (indent : Nat) →
    declText lines indent (decl.relocate place) = declText lines' indent (decl.relocate place')
  | .imports _, _ => by simp [declText]
  | .func ⟨receiver?, _, _, params, type, body?⟩, _ => by
    simp [declText, receiver level receiver?, fields level params, signature level type, optBody level body?]
  | .types specs _, _ => by simp [declText, typeRows level specs]
  | .values _ specs _, _ => by simp [declText, valueRows level specs, Function.comp_def]

end

section

variable (level : Level lines lines' place place')
include level

theorem item (item : Item) : itemText lines (item.relocate place) = itemText lines' (item.relocate place') := by
  simp only [itemText, Item.relocate, toList_relocate, trailingComments_relocate, level.decl,
    level.leadingComments 0 item.doc (level.starts item.span)]

theorem items (trailing : List Comment) (items : List Item) (kind? : Option DeclKind) {above above' : Option Nat}
    (same : lines.line? above = lines'.line? above') :
    itemLines lines (trailing.map (·.relocate place)) above kind? (items.map (·.relocate place)) =
      itemLines lines' (trailing.map (·.relocate place')) above' kind? (items.map (·.relocate place')) := by
  induction items generalizing kind? above above' with
  | nil => exact level.commentLines 0 trailing same
  | cons one items ih =>
    have breaks : itemBreaks lines above kind? (one.relocate place) =
        itemBreaks lines' above' kind? (one.relocate place') := by
      simp only [itemBreaks, Item.relocate, declKind_relocate, List.isEmpty_map, Lines.between?, same,
        level.startOfAll one.doc (level.starts one.span)]
    simp only [List.map_cons, itemLines, breaks, level.item]
    rw [Item.relocate, Item.relocate, toList_relocate, toList_relocate, declKind_relocate, declKind_relocate,
      ih _ (level.stopOfAll one.comment.toList (level.stops one.span))]

theorem render (file : SourceFile) : (file.relocate place lines).render = (file.relocate place' lines').render := by
  simp only [SourceFile.render, SourceFile.relocate,
    level.leadingComments 0 file.header (level.starts file.packageSpan),
    level.items file.trailing file.items none (level.stops file.packageSpan)]

end

end Level

end Layout

namespace Pairing

theorem places (pairing : Pairing) (span : Span) :
    pairing.kept span = .detached ∧ pairing.moved span = .detached ∨
      ∃ first ∈ pairing.solid, ∃ last ∈ pairing.solid, pairing.kept span = .range first.start.first last.stop.first ∧
        pairing.moved span = .range first.start.second last.stop.second := by
  cases found : pairing.locate? span with
  | none => exact .inl ⟨by simp [kept, found], by simp [moved, found]⟩
  | some both =>
    obtain ⟨start?, stop?⟩ := span
    simp only [locate?, Option.bind_eq_bind, Option.bind_eq_some_iff] at found
    obtain ⟨low, rfl, high, rfl, first, starts, last, stops, -⟩ := found
    have here := List.mem_of_find?_eq_some starts
    have there := List.mem_of_find?_eq_some stops
    have low : first.start.first = low := by simpa using List.find?_some starts
    have high : last.stop.first = high := by simpa using List.find?_some stops
    subst low high
    exact .inr ⟨first, here, last, there, kept_range here there, moved_range here there⟩

theorem level (pairing : Pairing) : Layout.Level pairing.lines pairing.lines' pairing.kept pairing.moved where
  starts span := by
    rcases pairing.places span with ⟨one, other⟩ | ⟨first, here, last, there, one, other⟩ <;> rw [one, other]
    · rfl
    · exact pairing.starting first (mem_solid.mp here).1
  stops span := by
    rcases pairing.places span with ⟨one, other⟩ | ⟨first, here, last, there, one, other⟩ <;> rw [one, other]
    · rfl
    · exact (pairing.stopping last (mem_solid.mp there).1 (mem_solid.mp there).2).1
  detached span := by
    rcases pairing.places span with ⟨one, other⟩ | ⟨first, here, last, there, one, other⟩ <;> simp [one, other]
  ends span known := by
    rcases pairing.places span with ⟨one, other⟩ | ⟨first, here, last, there, one, other⟩
    · exact (known one).elim
    · rw [one, other]
      exact (pairing.stopping last (mem_solid.mp there).1 (mem_solid.mp there).2).2

end Pairing

instance (lines lines' : Lines) (lexeme other : Lexeme) : Decidable (lexeme.Level lines lines' other) :=
  decidable_of_iff (lexeme.token.Alike other.token ∧ lines.lineOf lexeme.start = lines'.lineOf other.start)
    ⟨fun both => ⟨both.1, both.2⟩, fun level => ⟨level.alike, level.line⟩⟩

namespace SourceFile

/-- Blanks between the tokens of a line do not matter: the one source is a file if and only if the other one is, and
then both have the same text. -/
theorem render_eq_of_level {source source' : List Char} {lexemes lexemes' : List Lexeme}
    (read : tokenize source = .ok lexemes) (read' : tokenize source' = .ok lexemes')
    (level : List.Forall₂ (Lexeme.Level (.ofSource source) (.ofSource source')) lexemes lexemes') :
    ((∃ file, ofLexemes source lexemes = .ok file) ↔ ∃ file, ofLexemes source' lexemes' = .ok file) ∧
      ∀ file file', ofLexemes source lexemes = .ok file → ofLexemes source' lexemes' = .ok file' →
        file.render = file'.render := by
  obtain ⟨pairing, isOf⟩ := Pairing.exists_isOf read read' level
  rcases ofLexemes_cases isOf with ⟨error, error', failed, failed', -⟩ | ⟨file, file', stop, parsed, parsed', found, -⟩
  · simp [failed, failed']
  · have same := pairing.level.render file
    rw [found.kept, found.moved] at same
    simp [parsed, parsed', same]

def loose : String :=
  "package  p\nvar x = f( a , // c\n\t b+ c )"

def tight : String :=
  "package p\nvar x=f(a,// c\nb+c)"

def looseSample : Sample loose (fun lexemes _ => lexemes.length) 16 :=
  .ofChecked (by decide +kernel)

def tightSample : Sample tight (fun lexemes _ => lexemes.length) 16 :=
  .ofChecked (by decide +kernel)

theorem render_eq_of_level_loose :
    ∃ lexemes lexemes' file file', tokenize loose.toList = .ok lexemes ∧ tokenize tight.toList = .ok lexemes' ∧
      List.Forall₂ (Lexeme.Level (.ofSource loose.toList) (.ofSource tight.toList)) lexemes lexemes' ∧
      ofLexemes loose.toList lexemes = .ok file ∧ ofLexemes tight.toList lexemes' = .ok file' ∧
      file.render = file'.render := by
  have checked : ((tokenize loose.toList).toOption.bind fun lexemes =>
      (tokenize tight.toList).toOption.map fun lexemes' => decide
        (List.Forall₂ (Lexeme.Level (.ofSource loose.toList) (.ofSource tight.toList)) lexemes lexemes')) =
      some true := by
    decide +kernel
  have level : List.Forall₂ (Lexeme.Level (.ofSource loose.toList) (.ofSource tight.toList)) looseSample.lexemes
      tightSample.lexemes := by
    simpa [looseSample.tokens, tightSample.tokens, Except.toOption] using checked
  exact ⟨_, _, _, _, looseSample.tokens, tightSample.tokens, level, looseSample.parsed, tightSample.parsed,
    (render_eq_of_level looseSample.tokens tightSample.tokens level).2 _ _ looseSample.parsed tightSample.parsed⟩

end SourceFile

end GoSpecs
