import GoSpecs.Proofs.Conversion.Capture
import GoSpecs.Proofs.Syntax.Replace
import GoSpecs.Proofs.Syntax.WellFormed

namespace GoSpecs

theorem Field.areUniform_of_names {fields fields' : List Field}
    (same : fields'.map (·.names) = fields.map (·.names)) (uniform : AreUniform fields) : AreUniform fields' := by
  have transfer (test : List String → Prop) (all : ∀ field ∈ fields, test field.names) :
      ∀ field ∈ fields', test field.names := by
    intro field here
    have listed : field.names ∈ fields.map (·.names) := same ▸ List.mem_map_of_mem here
    obtain ⟨other, there, names⟩ := List.mem_map.mp listed
    exact names ▸ all other there
  exact uniform.imp (transfer (· ≠ [])) (transfer (· = []))

theorem isGroup_of_comments {α : Type} {comment : α → Option Comment} {specs specs' : List α} {grouped : Bool}
    (same : specs'.map comment = specs.map comment) (isGroup : IsGroup comment specs grouped) :
    IsGroup comment specs' grouped := by
  intro single
  obtain ⟨spec, rfl, bare⟩ := isGroup single
  obtain ⟨spec', rfl, same'⟩ := List.map_eq_singleton_iff.mp (same.trans List.map_singleton)
  exact ⟨spec', rfl, same'.trans bare⟩

/-- What a field is replaced by is well formed and has the same names. -/
structure KeepsShape (field? : Field → Option Field) : Prop where
  names : ∀ field field', field? field = some field' → field'.names = field.names
  good : ∀ field field', field? field = some field' → field'.WellFormed

section

variable (replacement : Replacement)

theorem length_replaceExprs (exprs : List Expr) : (replaceExprs replacement exprs).length = exprs.length := by
  induction exprs with
  | nil => simp [replaceExprs]
  | cons _ _ ih => simp [replaceExprs, ih]

theorem isSome_replaceExpr? (expr? : Option Expr) : (replaceExpr? replacement expr?).isSome = expr?.isSome := by
  cases expr? <;> simp [replaceExpr?]

theorem length_replaceStmts (stmts : List Stmt) : (replaceStmts replacement stmts).length = stmts.length := by
  induction stmts with
  | nil => simp [replaceStmts]
  | cons _ _ ih => simp [replaceStmts, ih]

theorem isBranch_replaceStmt? {stmt? : Option Stmt} (branches : ∀ stmt ∈ stmt?, stmt.IsBranch) :
    ∀ stmt ∈ replaceStmt? replacement stmt?, stmt.IsBranch := by
  cases stmt? with
  | none => simp [replaceStmt?]
  | some stmt =>
    obtain ⟨node, span⟩ := stmt
    have branch := branches _ rfl
    simp only [replaceStmt?, Option.mem_some, forall_eq', Stmt.replace]
    cases node with
    | ifElse _ _ _ _ => simp [Stmt.Node.replace, Stmt.IsBranch]
    | block _ => simp [Stmt.Node.replace, Stmt.IsBranch]
    | _ => exact branch.elim

theorem comments_replaceTypeSpecs (specs : List TypeSpec) :
    (replaceTypeSpecs replacement specs).map (·.comment) = specs.map (·.comment) := by
  induction specs with
  | nil => simp [replaceTypeSpecs]
  | cons spec _ ih =>
    obtain ⟨_, _, _, _, _⟩ := spec
    simp [replaceTypeSpecs, ih]

theorem comments_replaceValueSpecs (specs : List ValueSpec) :
    (replaceValueSpecs replacement specs).map (·.comment) = specs.map (·.comment) := by
  induction specs with
  | nil => simp [replaceValueSpecs]
  | cons spec _ ih =>
    obtain ⟨_, _, _, _⟩ := spec
    simp [replaceValueSpecs, ih]

end

namespace KeepsShape

variable {field? : Field → Option Field}

section

variable (keeps : KeepsShape field?)
include keeps

theorem fieldNames (field : Field) :
    (field.replace (.ofFields field?)).names = field.names := by
  obtain ⟨names, type, tag?, comment⟩ := field
  cases found : field? ⟨names, type, tag?, comment⟩ with
  | some field' =>
    rw [Field.replace_of_some found]
    exact keeps.names _ _ found
  | none => rw [Field.replace_of_none found]

theorem fieldsNames (fields : List Field) :
    (replaceFields (.ofFields field?) fields).map (·.names) = fields.map (·.names) := by
  induction fields with
  | nil => simp [replaceFields]
  | cons field fields ih => simp [replaceFields, ih, keeps.fieldNames]

theorem areUniform {fields : List Field} (uniform : Field.AreUniform fields) :
    Field.AreUniform (replaceFields (.ofFields field?) fields) :=
  Field.areUniform_of_names (keeps.fieldsNames fields) uniform

end

attribute [local simp] length_replaceExprs isSome_replaceExpr? length_replaceStmts Expr.Node.replace replaceExpr?
  replaceExprs replaceField? replaceFields FuncType.replace Block.replace replaceBlock? Stmt.replace Stmt.Node.replace
  replaceStmt? replaceStmts replaceCases replaceComms replaceTypeSpecs replaceValueSpecs Decl.replace Expr.WellFormed
  Expr.Node.WellFormed WellFormedExpr? WellFormedExprs Field.WellFormed WellFormedField? WellFormedFields
  FuncType.WellFormed Block.WellFormed WellFormedBlock? Stmt.WellFormed Stmt.Node.WellFormed WellFormedStmt?
  WellFormedStmts WellFormedCases CaseClause.WellFormed WellFormedComms CommClause.WellFormed WellFormedTypeSpecs
  TypeSpec.WellFormed WellFormedValueSpecs ValueSpec.WellFormed Decl.WellFormed

mutual

theorem expr (keeps : KeepsShape field?) : (expr : Expr) → expr.WellFormed →
    (expr.replace (.ofFields field?)).WellFormed
  | ⟨node, span⟩, good => by
    rw [Expr.replace_ofFields, Expr.WellFormed]
    exact exprNode keeps node (by simpa only [Expr.WellFormed] using good)

theorem exprNode (keeps : KeepsShape field?) : (node : Expr.Node) → node.WellFormed →
    (node.replace (.ofFields field?)).WellFormed
  | .ident _, _ | .literal _, _ => by simp
  | .composite type? elements braces comments, good => by simp_all [optExpr keeps type?, exprs keeps elements]
  | .funcLit type body, good => by simp_all [funcType keeps type, block keeps body]
  | .paren one, good | .selector one _, good | .star one, good | .unary _ one, good | .chanType _ one, good => by
    simp_all [expr keeps one]
  | .index one two, good | .binary one _ two, good | .keyValue one two, good | .mapType one two, good => by
    simp_all [expr keeps one, expr keeps two]
  | .indexList one list, good | .call one list _ _, good => by simp_all [expr keeps one, exprs keeps list]
  | .slice base low? high? max? threeIndex, good => by
    simp_all [expr keeps base, optExpr keeps low?, optExpr keeps high?, optExpr keeps max?, AreBounds]
  | .typeAssert one one?, good => by simp_all [expr keeps one, optExpr keeps one?]
  | .arrayType one? one, good => by simp_all [optExpr keeps one?, expr keeps one]
  | .ellipsis one?, good => by simp_all [optExpr keeps one?]
  | .funcType type, good => by simp_all [funcType keeps type]
  | .structType list _, good | .interfaceType list _, good => by simp_all [fields keeps list]

theorem optExpr (keeps : KeepsShape field?) : (expr? : Option Expr) → WellFormedExpr? expr? →
    WellFormedExpr? (replaceExpr? (.ofFields field?) expr?)
  | none, _ => by simp
  | some one, good => by simp_all [expr keeps one]

theorem exprs (keeps : KeepsShape field?) : (list : List Expr) → WellFormedExprs list →
    WellFormedExprs (replaceExprs (.ofFields field?) list)
  | [], _ => by simp
  | one :: list, good => by simp_all [expr keeps one, exprs keeps list]

theorem field (keeps : KeepsShape field?) : (field : Field) → field.WellFormed →
    (field.replace (.ofFields field?)).WellFormed
  | ⟨names, type, tag?, comment⟩, good => by
    cases found : field? ⟨names, type, tag?, comment⟩ with
    | some field' =>
      rw [Field.replace_of_some found]
      exact keeps.good _ _ found
    | none =>
      rw [Field.replace_of_none found]
      simp only [Field.WellFormed] at good ⊢
      exact expr keeps type good

theorem optField (keeps : KeepsShape field?) : (field'? : Option Field) → WellFormedField? field'? →
    WellFormedField? (replaceField? (.ofFields field?) field'?)
  | none, _ => by simp
  | some one, good => by simp_all [field keeps one]

theorem fields (keeps : KeepsShape field?) : (list : List Field) → WellFormedFields list →
    WellFormedFields (replaceFields (.ofFields field?) list)
  | [], _ => by simp
  | one :: list, good => by simp_all [field keeps one, fields keeps list]

theorem funcType (keeps : KeepsShape field?) : (type : FuncType) → type.WellFormed →
    (type.replace (.ofFields field?)).WellFormed
  | ⟨params, results⟩, good => by
    simp only [FuncType.replace, FuncType.WellFormed] at good ⊢
    obtain ⟨atParams, atResults, uniform, uniform'⟩ := good
    exact ⟨fields keeps params atParams, fields keeps results atResults, keeps.areUniform uniform,
      keeps.areUniform uniform'⟩

theorem block (keeps : KeepsShape field?) : (block : Block) → block.WellFormed →
    (block.replace (.ofFields field?)).WellFormed
  | ⟨list, comments, span⟩, good => by simp_all [stmts keeps list]

theorem optBlock (keeps : KeepsShape field?) : (block? : Option Block) → WellFormedBlock? block? →
    WellFormedBlock? (replaceBlock? (.ofFields field?) block?)
  | none, _ => by simp
  | some one, good => by simp_all [block keeps one]

theorem stmt (keeps : KeepsShape field?) : (stmt : Stmt) → stmt.WellFormed →
    (stmt.replace (.ofFields field?)).WellFormed
  | ⟨node, span⟩, good => by simp_all [stmtNode keeps node]

theorem stmtNode (keeps : KeepsShape field?) : (node : Stmt.Node) → node.WellFormed →
    (node.replace (.ofFields field?)).WellFormed
  | .expr one, good | .incDec one _, good | .go one, good | .defer one, good => by simp_all [expr keeps one]
  | .assign left _ right, good => by simp_all [exprs keeps left, exprs keeps right]
  | .send channel value, good => by simp_all [expr keeps channel, expr keeps value]
  | .decl one, good => by simp_all [decl keeps one]
  | .ret results, good => by simp_all [exprs keeps results]
  | .branch _ _, _ | .empty, _ => by simp
  | .block one, good => by simp_all [block keeps one]
  | .ifElse init? cond body else?, good => by
    simp only [Stmt.Node.replace, Stmt.Node.WellFormed] at good ⊢
    obtain ⟨init, atCond, atBody, other, branches⟩ := good
    exact ⟨optStmt keeps init? init, expr keeps cond atCond, block keeps body atBody, optStmt keeps else? other,
      isBranch_replaceStmt? _ branches⟩
  | .forLoop init? cond? post? body, good => by
    simp_all [optStmt keeps init?, optExpr keeps cond?, optStmt keeps post?, block keeps body]
  | .rangeLoop key? value? define one body, good => by
    simp_all [optExpr keeps key?, optExpr keeps value?, expr keeps one, block keeps body]
  | .switch init? tag? clauses, good => by simp_all [optStmt keeps init?, optExpr keeps tag?, cases keeps clauses]
  | .typeSwitch init? binding? one clauses, good => by
    simp_all [optStmt keeps init?, expr keeps one, cases keeps clauses]
  | .select clauses, good => by simp_all [comms keeps clauses]
  | .labeled label one, good => by simp_all [stmt keeps one]

theorem optStmt (keeps : KeepsShape field?) : (stmt? : Option Stmt) → WellFormedStmt? stmt? →
    WellFormedStmt? (replaceStmt? (.ofFields field?) stmt?)
  | none, _ => by simp
  | some one, good => by simp_all [stmt keeps one]

theorem stmts (keeps : KeepsShape field?) : (list : List Stmt) → WellFormedStmts list →
    WellFormedStmts (replaceStmts (.ofFields field?) list)
  | [], _ => by simp
  | one :: list, good => by simp_all [stmt keeps one, stmts keeps list]

theorem cases (keeps : KeepsShape field?) : (clauses : List CaseClause) → WellFormedCases clauses →
    WellFormedCases (replaceCases (.ofFields field?) clauses)
  | [], _ => by simp
  | ⟨list, body⟩ :: clauses, good => by simp_all [exprs keeps list, block keeps body, cases keeps clauses]

theorem comms (keeps : KeepsShape field?) : (clauses : List CommClause) → WellFormedComms clauses →
    WellFormedComms (replaceComms (.ofFields field?) clauses)
  | [], _ => by simp
  | ⟨comm?, body⟩ :: clauses, good => by simp_all [optStmt keeps comm?, block keeps body, comms keeps clauses]

theorem typeSpecs (keeps : KeepsShape field?) : (specs : List TypeSpec) → WellFormedTypeSpecs specs →
    WellFormedTypeSpecs (replaceTypeSpecs (.ofFields field?) specs)
  | [], _ => by simp
  | ⟨_, typeParams, _, type, _⟩ :: specs, good => by
    simp only [replaceTypeSpecs, WellFormedTypeSpecs, TypeSpec.WellFormed] at good ⊢
    obtain ⟨⟨params, uniform, atType⟩, rest⟩ := good
    exact ⟨⟨fields keeps typeParams params, keeps.areUniform uniform, expr keeps type atType⟩,
      typeSpecs keeps specs rest⟩

theorem valueSpecs (keeps : KeepsShape field?) : (specs : List ValueSpec) → WellFormedValueSpecs specs →
    WellFormedValueSpecs (replaceValueSpecs (.ofFields field?) specs)
  | [], _ => by simp
  | ⟨_, type?, values, _⟩ :: specs, good => by
    simp_all [optExpr keeps type?, exprs keeps values, valueSpecs keeps specs]

theorem decl (keeps : KeepsShape field?) : (decl : Decl) → decl.WellFormed →
    (decl.replace (.ofFields field?)).WellFormed
  | .imports _, good => by simpa only [Decl.replace] using good
  | .func ⟨receiver?, _, _, typeParams, type, body?⟩, good => by
    simp only [Decl.replace, Decl.WellFormed] at good ⊢
    obtain ⟨receiver, params, uniform, atType, body⟩ := good
    exact ⟨optField keeps receiver? receiver, fields keeps typeParams params, keeps.areUniform uniform,
      funcType keeps type atType, optBlock keeps body? body⟩
  | .types specs _, good => by
    simp only [Decl.replace, Decl.WellFormed] at good ⊢
    exact ⟨typeSpecs keeps specs good.1, isGroup_of_comments (comments_replaceTypeSpecs _ specs) good.2⟩
  | .values _ specs _, good => by
    simp only [Decl.replace, Decl.WellFormed] at good ⊢
    exact ⟨valueSpecs keeps specs good.1, isGroup_of_comments (comments_replaceValueSpecs _ specs) good.2⟩

end

end KeepsShape

theorem Stmt.Node.isBranch_withContext (context : ContextUse) (hidden : Bool) (span : Span) (node : Stmt.Node)
    (count : Nat) (branch : Stmt.IsBranch ⟨node, span⟩) :
    Stmt.IsBranch ⟨((node.withContext context hidden).run count).1.1, span⟩ := by
  cases node with
  | ifElse _ _ _ _ | block _ =>
    rw [Stmt.Node.withContext]
    trivial
  | _ => exact branch.elim

/-- What stands in place of the parameter is well formed. -/
abbrev ContextUse.IsGood (context : ContextUse) : Prop :=
  context.replacement.WellFormed

namespace ContextUse.IsGood

attribute [local simp high] StateM.run_pure StateM.run_bind StateM.run_map

attribute [local simp] Expr.withContext Expr.Node.withContext exprWithContext? exprsWithContext targetWithContext?
  targetsWithContext Field.withContext fieldWithContext? fieldsWithContext FuncType.withContext Block.withContext
  blockWithContext? Stmt.withContext Stmt.Node.withContext stmtWithContext? stmtsWithContext casesWithContext
  commsWithContext typeSpecsWithContext valueSpecsWithContext Decl.withContext AreBounds

variable {context : ContextUse}

theorem name (good : context.IsGood) (hidden : Bool) (name : String) (count : Nat) :
    ((context.name hidden name).run count).1.WellFormed := by
  unfold ContextUse.name
  split
  · exact good
  · simp

mutual

theorem expr (good : context.IsGood) (hidden : Bool) : (expr : Expr) → expr.WellFormed → ∀ count,
    ((expr.withContext context hidden).run count).1.WellFormed
  | ⟨node, span⟩, whole => by
    simp only [Expr.WellFormed] at whole
    simp [exprNode good hidden node whole]

theorem exprNode (good : context.IsGood) (hidden : Bool) : (node : Expr.Node) → node.WellFormed → ∀ count,
    ((node.withContext context hidden).run count).1.WellFormed
  | .ident one, _ => by simp [name good hidden one]
  | .literal _, _ => by simp
  | .composite type? elements _ _, whole => by
    simp only [Expr.Node.WellFormed] at whole
    simp [optExpr good hidden type? whole.1, exprs good hidden elements whole.2.1, whole.2.2]
  | .funcLit ⟨params, results⟩ body, whole => by
    simp only [Expr.Node.WellFormed, FuncType.WellFormed] at whole
    obtain ⟨⟨atParams, atResults, uniform, uniform'⟩, atBody⟩ := whole
    intro count
    simp only [Expr.Node.withContext, StateM.run_bind, StateM.run_pure, Expr.Node.WellFormed, FuncType.WellFormed]
    obtain ⟨one, names⟩ := fields good _ params atParams count
    obtain ⟨two, names'⟩ := fields good _ results atResults _
    exact ⟨⟨one, two, Field.areUniform_of_names names uniform, Field.areUniform_of_names names' uniform'⟩,
      block good _ body atBody _⟩
  | .paren inner, whole | .star inner, whole | .selector inner _, whole | .unary _ inner, whole
  | .chanType _ inner, whole => by
    simp only [Expr.Node.WellFormed] at whole
    simp [expr good hidden inner whole]
  | .index left right, whole | .mapType left right, whole | .binary left _ right, whole => by
    simp only [Expr.Node.WellFormed] at whole
    simp [expr good hidden left whole.1, expr good hidden right whole.2]
  | .keyValue left right, whole => by
    simp only [Expr.Node.WellFormed] at whole
    simp [key good hidden left whole.1, expr good hidden right whole.2]
  | .indexList base list, whole | .call base list _ _, whole => by
    simp only [Expr.Node.WellFormed] at whole
    simp [expr good hidden base whole.1, exprs good hidden list whole.2]
  | .slice base low? high? max? threeIndex, whole => by
    simp only [Expr.Node.WellFormed] at whole
    obtain ⟨atBase, low, high, max, bounds⟩ := whole
    simpa [expr good hidden base atBase, optExpr good hidden low? low, optExpr good hidden high? high,
      optExpr good hidden max? max]
      using bounds
  | .typeAssert base type?, whole => by
    simp only [Expr.Node.WellFormed] at whole
    simp [expr good hidden base whole.1, optExpr good hidden type? whole.2]
  | .arrayType length? elem, whole => by
    simp only [Expr.Node.WellFormed] at whole
    simp [optExpr good hidden length? whole.1, expr good hidden elem whole.2]
  | .ellipsis elem?, whole => by
    simp only [Expr.Node.WellFormed] at whole
    simp [optExpr good hidden elem? whole]
  | .funcType type, whole => by
    simp only [Expr.Node.WellFormed] at whole
    simp [funcType good hidden type whole]
  | .structType members _, whole | .interfaceType members _, whole => by
    simp only [Expr.Node.WellFormed] at whole
    simp [fields good hidden members whole]

theorem key (good : context.IsGood) (hidden : Bool) : (expr : Expr) → expr.WellFormed → ∀ count,
    ((expr.keyWithContext context hidden).run count).1.WellFormed
  | ⟨node, span⟩, whole => by
    have inside := exprNode good hidden node (by simpa only [Expr.WellFormed] using whole)
    rcases node.ident_or_other with ⟨name, rfl⟩ | other
    · simp [Expr.keyWithContext]
    · rw [Expr.keyWithContext]
      · simp [inside]
      · exact other

theorem optExpr (good : context.IsGood) (hidden : Bool) : (expr? : Option Expr) → WellFormedExpr? expr? → ∀ count,
    let found := (exprWithContext? context hidden expr?).run count
    WellFormedExpr? found.1 ∧ found.1.isSome = expr?.isSome
  | none, _ => by simp
  | some one, whole => by
    simp only [WellFormedExpr?] at whole
    simp [expr good hidden one whole]

theorem exprs (good : context.IsGood) (hidden : Bool) : (list : List Expr) → WellFormedExprs list → ∀ count,
    let found := (exprsWithContext context hidden list).run count
    WellFormedExprs found.1 ∧ found.1.length = list.length
  | [], _ => by simp
  | one :: list, whole => by
    simp only [WellFormedExprs] at whole
    simp [expr good hidden one whole.1, exprs good hidden list whole.2]

theorem target (good : context.IsGood) (define hidden : Bool) : (target : Expr) → target.WellFormed → ∀ count,
    ((target.targetWithContext context define hidden).run count).1.1.WellFormed
  | ⟨node, span⟩, whole => by
    have inside := exprNode good hidden node (by simpa only [Expr.WellFormed] using whole)
    rcases node.ident_or_other with ⟨name, rfl⟩ | other
    · simp [Expr.targetWithContext]
    · rw [Expr.targetWithContext]
      · simp [inside]
      · exact other

theorem optTarget (good : context.IsGood) (define hidden : Bool) : (target? : Option Expr) → WellFormedExpr? target? →
    ∀ count,
    WellFormedExpr? ((targetWithContext? context define hidden target?).run count).1.1
  | none, _ => by simp
  | some one, whole => by
    simp only [WellFormedExpr?] at whole
    simp [target good define hidden one whole]

theorem targets (good : context.IsGood) (define hidden : Bool) : (list : List Expr) → WellFormedExprs list → ∀ count,
    WellFormedExprs ((targetsWithContext context define hidden list).run count).1.1
  | [], _ => by simp
  | one :: list, whole => by
    simp only [WellFormedExprs] at whole
    simp [target good define hidden one whole.1, targets good define _ list whole.2]

theorem field (good : context.IsGood) (hidden : Bool) : (field : Field) → field.WellFormed → ∀ count,
    let found := (field.withContext context hidden).run count
    found.1.WellFormed ∧ found.1.names = field.names
  | ⟨names, type, tag?, comment⟩, whole => by
    simp only [Field.WellFormed] at whole
    simp [expr good hidden type whole]

theorem optField (good : context.IsGood) (hidden : Bool) : (field? : Option Field) → WellFormedField? field? → ∀ count,
    WellFormedField? ((fieldWithContext? context hidden field?).run count).1
  | none, _ => by simp
  | some one, whole => by
    simp only [WellFormedField?] at whole
    simp [field good hidden one whole]

theorem fields (good : context.IsGood) (hidden : Bool) : (list : List Field) → WellFormedFields list → ∀ count,
    let found := (fieldsWithContext context hidden list).run count
    WellFormedFields found.1 ∧ found.1.map (·.names) = list.map (·.names)
  | [], _ => by simp
  | one :: list, whole => by
    simp only [WellFormedFields] at whole
    simp [field good hidden one whole.1, fields good hidden list whole.2]

theorem funcType (good : context.IsGood) (hidden : Bool) : (type : FuncType) → type.WellFormed → ∀ count,
    ((type.withContext context hidden).run count).1.WellFormed
  | ⟨params, results⟩, whole => by
    simp only [FuncType.WellFormed] at whole
    obtain ⟨atParams, atResults, uniform, uniform'⟩ := whole
    simp only [FuncType.withContext, StateM.run_bind, StateM.run_pure, FuncType.WellFormed]
    intro count
    obtain ⟨one, names⟩ := fields good hidden params atParams count
    obtain ⟨two, names'⟩ := fields good hidden results atResults _
    exact ⟨one, two, Field.areUniform_of_names names uniform, Field.areUniform_of_names names' uniform'⟩

theorem block (good : context.IsGood) (hidden : Bool) : (block : Block) → block.WellFormed → ∀ count,
    ((block.withContext context hidden).run count).1.WellFormed
  | ⟨list, comments, span⟩, whole => by
    simp only [Block.WellFormed] at whole
    simpa [stmts good hidden list whole.1] using whole.2

theorem optBlock (good : context.IsGood) (hidden : Bool) : (block? : Option Block) → WellFormedBlock? block? → ∀ count,
    WellFormedBlock? ((blockWithContext? context hidden block?).run count).1
  | none, _ => by simp
  | some one, whole => by
    simp only [WellFormedBlock?] at whole
    simp [block good hidden one whole]

theorem stmt (good : context.IsGood) (hidden : Bool) : (stmt : Stmt) → stmt.WellFormed → ∀ count,
    let found := (stmt.withContext context hidden).run count
    found.1.1.WellFormed ∧ (stmt.IsBranch → found.1.1.IsBranch)
  | ⟨node, span⟩, whole => by
    simp only [Stmt.WellFormed] at whole
    simpa [stmtNode good hidden node whole] using node.isBranch_withContext context hidden span

theorem stmtNode (good : context.IsGood) (hidden : Bool) : (node : Stmt.Node) → node.WellFormed → ∀ count,
    ((node.withContext context hidden).run count).1.1.WellFormed
  | .expr one, whole | .go one, whole | .defer one, whole | .incDec one _, whole => by
    simp only [Stmt.Node.WellFormed] at whole
    simp [expr good hidden one whole]
  | .assign list op values, whole => by
    simp only [Stmt.Node.WellFormed] at whole
    simp [targets good (op == .define) hidden list whole.1, exprs good hidden values whole.2]
  | .send channel value, whole => by
    simp only [Stmt.Node.WellFormed] at whole
    simp [expr good hidden channel whole.1, expr good hidden value whole.2]
  | .decl one, whole => by
    simp only [Stmt.Node.WellFormed] at whole
    simp [decl good hidden one whole]
  | .ret results, whole => by
    simp only [Stmt.Node.WellFormed] at whole
    simp [exprs good hidden results whole]
  | .branch _ _, _ | .empty, _ => by simp
  | .block one, whole => by
    simp only [Stmt.Node.WellFormed] at whole
    simp [block good hidden one whole]
  | .ifElse init? cond body else?, whole => by
    simp only [Stmt.Node.WellFormed] at whole
    obtain ⟨init, atCond, atBody, other, branches⟩ := whole
    intro count
    simp only [Stmt.Node.withContext, StateM.run_bind, StateM.run_pure, Stmt.Node.WellFormed]
    exact ⟨(optStmt good hidden init? init _).1, expr good _ cond atCond _, block good _ body atBody _,
      (optStmt good _ else? other _).1, (optStmt good _ else? other _).2 branches⟩
  | .forLoop init? cond? post? body, whole => by
    simp only [Stmt.Node.WellFormed] at whole
    obtain ⟨init, cond, post, atBody⟩ := whole
    simp [optStmt good hidden init? init, optExpr good _ cond? cond, optStmt good _ post? post,
      block good _ body atBody]
  | .rangeLoop key? value? define one body, whole => by
    simp only [Stmt.Node.WellFormed] at whole
    obtain ⟨atKey, value, atExpr, atBody⟩ := whole
    simp [optTarget good define hidden key? atKey, optTarget good define _ value? value, expr good hidden one atExpr,
      block good _ body atBody]
  | .switch init? tag? clauses, whole => by
    simp only [Stmt.Node.WellFormed] at whole
    simp [optStmt good hidden init? whole.1, optExpr good _ tag? whole.2.1, cases good _ [] clauses whole.2.2]
  | .typeSwitch init? binding? one clauses, whole => by
    simp only [Stmt.Node.WellFormed] at whole
    simp [optStmt good hidden init? whole.1, expr good _ one whole.2.1, cases good _ binding?.toList clauses whole.2.2]
  | .select clauses, whole => by
    simp only [Stmt.Node.WellFormed] at whole
    simp [comms good hidden clauses whole]
  | .labeled _ one, whole => by
    simp only [Stmt.Node.WellFormed] at whole
    simp [stmt good hidden one whole]

theorem optStmt (good : context.IsGood) (hidden : Bool) : (stmt? : Option Stmt) → WellFormedStmt? stmt? → ∀ count,
    let found := (stmtWithContext? context hidden stmt?).run count
    WellFormedStmt? found.1.1 ∧ ((∀ stmt ∈ stmt?, stmt.IsBranch) → ∀ stmt ∈ found.1.1, stmt.IsBranch)
  | none, _ => by simp
  | some one, whole => by
    simp only [WellFormedStmt?] at whole
    simpa [stmt good hidden one whole] using fun count => (stmt good hidden one whole count).2

theorem stmts (good : context.IsGood) (hidden : Bool) : (list : List Stmt) → WellFormedStmts list → ∀ count,
    let found := (stmtsWithContext context hidden list).run count
    WellFormedStmts found.1 ∧ found.1.length = list.length
  | [], _ => by simp
  | one :: list, whole => by
    simp only [WellFormedStmts] at whole
    simp [stmt good hidden one whole.1, stmts good _ list whole.2]

theorem cases (good : context.IsGood) (hidden : Bool) (names : List String) : (clauses : List CaseClause) →
    WellFormedCases clauses →
    ∀ count, WellFormedCases ((casesWithContext context hidden names clauses).run count).1
  | [], _ => by simp
  | ⟨list, body⟩ :: clauses, whole => by
    simp only [WellFormedCases, CaseClause.WellFormed] at whole
    simp [exprs good hidden list whole.1.1, block good _ body whole.1.2, cases good hidden names clauses whole.2]

theorem comms (good : context.IsGood) (hidden : Bool) : (clauses : List CommClause) → WellFormedComms clauses → ∀ count,
    WellFormedComms ((commsWithContext context hidden clauses).run count).1
  | [], _ => by simp
  | ⟨comm?, body⟩ :: clauses, whole => by
    simp only [WellFormedComms, CommClause.WellFormed] at whole
    simp [optStmt good hidden comm? whole.1.1, block good _ body whole.1.2, comms good hidden clauses whole.2]

theorem typeSpecs (good : context.IsGood) (hidden : Bool) : (specs : List TypeSpec) → WellFormedTypeSpecs specs →
    ∀ count,
    let found := (typeSpecsWithContext context hidden specs).run count
    WellFormedTypeSpecs found.1.1 ∧ found.1.1.map TypeSpec.comment = specs.map TypeSpec.comment
  | [], _ => by simp
  | ⟨name, typeParams, isAlias, type, comment⟩ :: specs, whole => by
    simp only [WellFormedTypeSpecs, TypeSpec.WellFormed] at whole
    simp [whole.1, expr good _ type whole.1.2.2, typeSpecs good _ specs whole.2]

theorem valueSpecs (good : context.IsGood) (hidden : Bool) : (specs : List ValueSpec) → WellFormedValueSpecs specs →
    ∀ count,
    let found := (valueSpecsWithContext context hidden specs).run count
    WellFormedValueSpecs found.1.1 ∧ found.1.1.map ValueSpec.comment = specs.map ValueSpec.comment
  | [], _ => by simp
  | ⟨names, type?, values, comment⟩ :: specs, whole => by
    simp only [WellFormedValueSpecs, ValueSpec.WellFormed] at whole
    simp [optExpr good hidden type? whole.1.1, exprs good hidden values whole.1.2, valueSpecs good _ specs whole.2]

theorem decl (good : context.IsGood) (hidden : Bool) : (decl : Decl) → decl.WellFormed → ∀ count,
    ((decl.withContext context hidden).run count).1.1.WellFormed
  | .imports _, whole => by simpa using whole
  | .func ⟨receiver?, _, _, typeParams, type, body?⟩, whole => by
    simp only [Decl.WellFormed] at whole
    obtain ⟨receiver, params, uniform, atType, body⟩ := whole
    simp [optField good hidden receiver? receiver, fields good hidden typeParams params,
      funcType good hidden type atType,
      optBlock good hidden body? body]
    exact fun count => Field.areUniform_of_names (fields good hidden typeParams params _).2 uniform
  | .types specs _, whole => by
    simp only [Decl.WellFormed] at whole
    simp [typeSpecs good hidden specs whole.1]
    exact fun count => isGroup_of_comments (typeSpecs good hidden specs whole.1 count).2 whole.2
  | .values _ specs _, whole => by
    simp only [Decl.WellFormed] at whole
    simp [valueSpecs good hidden specs whole.1]
    exact fun count => isGroup_of_comments (valueSpecs good hidden specs whole.1 count).2 whole.2

end

end ContextUse.IsGood

theorem Block.wellFormed_replaceContext {context : ContextUse} (good : context.IsGood) {body : Block}
    (whole : body.WellFormed) : (body.replaceContext context).1.WellFormed := by
  unfold Block.replaceContext
  split
  · exact whole
  · exact good.block false body whole 0

end GoSpecs
