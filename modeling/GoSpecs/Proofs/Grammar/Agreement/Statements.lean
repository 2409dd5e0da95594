import GoSpecs.Proofs.Grammar.Agreement.Expressions
import Mathlib.Tactic.Abel

namespace GoSpecs

namespace Parser.Kind

open GoSpecs.Part

@[simp] def decl : Kind Decl Decl := ⟨Decl.Twins, ofDecl⟩

@[simp] def stmtNode : Kind Stmt.Node Stmt.Node := ⟨Stmt.Node.Twins, ofStmtNode⟩

@[simp] def caseClause : Kind CaseClause CaseClause := ⟨CaseClause.Twins, ofCase⟩

@[simp] def commClause : Kind CommClause CommClause := ⟨CommClause.Twins, ofComm⟩

end Parser.Kind

namespace Rules

open GoSpecs.Parser GoSpecs.Part

attribute [local simp] ofStmt ofDecl ofBlock ofStmtNode ofTypeSpec ofValueSpec ofCase ofComm ofNames_eq ofExprs_eq
  ofFields_eq ofOptExpr_eq ofOptStmt_eq ofStmts_eq ofTypes_eq ofValues_eq ofCases_eq ofComms_eq

variable {bound : Nat} {rules rules' : Rules}

theorem agrees_atTypeParams : Agrees bound 0 .same atTypeParams atTypeParams := by
  refine (agrees_atMark _).given fun bracket => (agrees_peekAfter 1).given fun later? => ?_
  refine agrees_ite (fun _ => ?_) fun _ => agrees_pure rfl (by simp)
  refine (agrees_peekAfter 2).given fun last? => ?_
  split <;> exact agrees_pure rfl (by simp)

theorem agrees_typeSpec (nested : Nested bound rules rules') :
    Agrees (bound + 1) 1 ⟨fun spec spec' => spec.Twins spec' ∧ spec.comment = none, ofTypeSpec⟩ (typeSpec rules)
      (typeSpec rules') := by
  refine agrees_name.last fun name name' same => agrees_atTypeParams.given fun found => ?_
  subst same
  refine agrees_either ParamTwins.kind (agrees_typeParams (agrees_typeExpr nested)).loose
    (agrees_pure ⟨.nil, .inl (by simp)⟩ (by simp)) fun _ _ both => ?_
  refine (agrees_eatMark _).given fun isAlias => (agrees_typeExpr nested).bind fun _ _ type =>
    agrees_pure ⟨?_, rfl⟩ (by simp)
  have params := twins_list both.each
  exact ⟨by simp [params.same, type.same], by simpa using ⟨params.good, both.uniform, type.good⟩⟩

theorem agrees_valueType? (nested : Nested bound rules rules') :
    Agrees (bound + 1) 0 (.option .expr) (valueType? rules) (valueType? rules') := by
  refine agrees_peek fun token? => AgreesFrom.at ?_
  split
  · exact agrees_pure .none (by simp)
  · exact agrees_pure .none (by simp)
  · exact agrees_pure .none (by simp)
  · exact agrees_pure .none (by simp)
  · exact (agrees_typeExpr nested).bind fun _ _ same => agrees_pure (.some same) (by simp)

theorem agrees_valueSpec (nested : Nested bound rules rules') :
    Agrees (bound + 1) 1 ⟨fun spec spec' => spec.Twins spec' ∧ spec.comment = none, ofValueSpec⟩ (valueSpec rules)
      (valueSpec rules') := by
  refine agrees_names.last fun names names' same => (agrees_valueType? nested).bind fun _ _ atType => ?_
  subst same
  refine (agrees_eatMark _).given fun found => ?_
  refine agrees_either (.each .expr) (agrees_exprList nested).loose (agrees_pure .nil (by simp)) fun _ _ each => ?_
  have type := twins_option atType
  have values := twins_list each
  refine agrees_pure ⟨⟨by simp [type.same, values.same], ?_⟩, rfl⟩ (by simp)
  simpa using ⟨type.good, values.good⟩

structure GroupTwins {α : Type} (related : α → α → Prop) (comment : α → Option Comment) (found found' : List α × Bool) :
    Prop where
  each : Each related found.1 found'.1
  parens : found.2 = found'.2
  isGroup : IsGroup comment found.1 found.2

theorem agrees_grouped {α : Type} (kind : Kind α α) {comment : α → Option Comment}
    {withComment : α → Option Comment → α} {spec spec' : Parser α}
    (agrees : Agrees bound 1 ⟨fun spec spec' => kind.related spec spec' ∧ comment spec = none, kind.parts⟩ spec spec')
    (remarked : ∀ spec spec' comment comment', kind.related spec spec' →
      kind.related (withComment spec comment) (withComment spec' comment'))
    (joins : ∀ spec note?, comment spec = none →
      kind.parts (withComment spec note?) = kind.parts spec ++ ofNotes note?.toList) :
    Agrees bound 0 ⟨GroupTwins kind.related comment, fun found => found.1.flatMap kind.parts⟩
      (grouped spec withComment) (grouped spec' withComment) := by
  refine (agrees_eatMark _).given fun paren => agrees_ite (fun _ => ?_) fun _ => ?_
  · have entry : Agrees bound 1 kind
        (do let spec ← spec; return withComment spec (← trailingComment (← lastEnd)))
        (do let spec ← spec'; return withComment spec (← trailingComment (← lastEnd))) := by
      refine agrees.last fun _ _ both => agrees_lastEnd.any fun _ _ => agrees_trailingComment.bind fun _ _ _ => ?_
      exact agrees_pure (remarked _ _ _ _ both.1) (joins _ _ both.2).symm
    refine (agrees_linesUntil _ entry).bind fun specs specs' each => (agrees_expectMark _).any fun _ _ => ?_
    exact agrees_pure ⟨each, rfl, fun ungrouped => by cases ungrouped⟩ (by simp)
  · exact agrees.bind fun spec spec' both => agrees_pure ⟨.cons both.1 .nil, rfl, fun _ =>
      ⟨spec, rfl, both.2⟩⟩ (by simp)

theorem agrees_typeDecl (nested : Nested bound rules rules') {token : Token}
    (plain : token.isWord = false) :
    AgreesAt (some token) [] (bound + 1) 1 .decl (typeDecl rules) (typeDecl rules') := by
  refine AgreesAt.skip ?_ plain
  refine (agrees_grouped ⟨TypeSpec.Twins, ofTypeSpec⟩ (agrees_typeSpec nested).below ?_ ?_).bind fun found found' both => ?_
  · rintro ⟨_, _, _, _, _⟩ ⟨_, _, _, _, _⟩ _ _ same
    exact ⟨same.same, same.good⟩
  · intro spec note? unremarked
    simp [show spec.comment = none from unremarked]
  · obtain ⟨specs, parens⟩ := found
    obtain ⟨specs', parens'⟩ := found'
    obtain ⟨each, rfl, isGroup⟩ := both
    have specs := twins_list each
    exact agrees_pure ⟨by simpa using specs.same, by simpa using ⟨specs.good, isGroup⟩⟩ (by simp)

theorem agrees_valueDecl (nested : Nested bound rules rules') {token : Token} (kind : ValueKind)
    (plain : token.isWord = false) :
    AgreesAt (some token) [] (bound + 1) 1 .decl (valueDecl rules kind) (valueDecl rules' kind) := by
  refine AgreesAt.skip ?_ plain
  refine (agrees_grouped ⟨ValueSpec.Twins, ofValueSpec⟩ (agrees_valueSpec nested).below ?_ ?_).bind fun found found' both => ?_
  · rintro ⟨_, _, _, _⟩ ⟨_, _, _, _⟩ _ _ same
    exact ⟨same.same, same.good⟩
  · intro spec note? unremarked
    simp [show spec.comment = none from unremarked]
  · obtain ⟨specs, parens⟩ := found
    obtain ⟨specs', parens'⟩ := found'
    obtain ⟨each, rfl, isGroup⟩ := both
    have specs := twins_list each
    exact agrees_pure ⟨by simpa using specs.same, by simpa using ⟨specs.good, isGroup⟩⟩ (by simp)

inductive Simple.Twins : Simple → Simple → Prop
  | stmt {stmt stmt'} (same : Stmt.Twins stmt stmt') : Twins (.stmt stmt) (.stmt stmt')
  | range {key? key?' value? value?' define expr expr'} (key : Option.Rel Expr.Twins key? key?')
    (value : Option.Rel Expr.Twins value? value?') (same : Expr.Twins expr expr') :
    Twins (.range key? value? define expr) (.range key?' value?' define expr')

@[simp] def Simple.parts : Simple → List Part
  | .stmt one => ofStmt one
  | .range key? value? _ expr => ofOptExpr key? ++ ofOptExpr value? ++ ofExpr expr

@[simp] def Simple.kind : Kind Simple Simple := ⟨Simple.Twins, Simple.parts⟩

theorem agrees_single {exprs exprs' : List Expr} (each : Each Expr.Twins exprs exprs') {start start' : Nat} :
    AgreesFrom (exprs.flatMap ofExpr) bound 0 .expr (single exprs start) (single exprs' start') := by
  cases each with
  | nil => exact agrees_spanFrom.any fun _ _ => agrees_fail
  | cons same rest =>
    cases rest with
    | nil => exact agrees_pure same (by simp)
    | cons _ _ => exact agrees_spanFrom.any fun _ _ => agrees_fail

theorem agrees_rangeClause (nested : Nested bound rules rules') {targets targets' : List Expr}
    (each : Each Expr.Twins targets targets') (define : Bool) {start start' : Nat} :
    AgreesFrom (targets.flatMap ofExpr) (bound + 1) 1 Simple.kind (rangeClause rules targets define start)
      (rangeClause rules' targets' define start') := by
  refine (agrees_outerExpr nested).last fun _ _ expr => ?_
  match each with
  | .nil => exact agrees_pure (.range .none .none expr) (by simp)
  | .cons key .nil => exact agrees_pure (.range (.some key) .none expr) (by simp)
  | .cons key (.cons value .nil) => exact agrees_pure (.range (.some key) (.some value) expr) (by simp)
  | .cons _ (.cons _ (.cons _ _)) => exact agrees_spanFrom.any fun _ _ => agrees_fail

theorem agrees_andThen (test : Bool) (word : Keyword) :
    Agrees bound 0 .same (pure test <&&> eatKeyword word) (pure test <&&> eatKeyword word) := by
  cases test with
  | false => exact agrees_pure rfl (by simp)
  | true => exact agrees_eatKeyword word

theorem isWord_of_assignOp {token : Token} {op : AssignOp} (isOp : assignOp? token = some op) :
    token.isWord = false := by
  cases token with
  | mark => rfl
  | _ => cases isOp

theorem agrees_assignment (nested : Nested bound rules rules') (rangeAllowed : Bool) {targets targets' : List Expr}
    (each : Each Expr.Twins targets targets') {token : Token} {op : AssignOp} (isOp : assignOp? token = some op)
    {start start' : Nat} :
    AgreesAt (some token) (targets.flatMap ofExpr) (bound + 1) 0 Simple.kind
      (assignment rules rangeAllowed targets op start) (assignment rules' rangeAllowed targets' op start') := by
  refine AgreesAt.loose (AgreesAt.skip ?_ (isWord_of_assignOp isOp))
  refine (agrees_andThen _ _).given fun isRange => agrees_ite (fun _ => ?_) fun _ => ?_
  · exact (agrees_rangeClause nested each _).loose
  · refine (agrees_exprList nested).bind fun _ _ atValues => agrees_spanFrom.any fun _ _ =>
      agrees_pure (.stmt ?_) (by simp)
    have targets := twins_list each
    have values := twins_list atValues
    exact ⟨by simp [targets.same, values.same], by simpa using ⟨targets.good, values.good⟩⟩

theorem agrees_simpleOrRange (nested : Nested bound rules rules') (rangeAllowed : Bool) :
    Agrees (bound + 1) 1 Simple.kind (simpleOrRange rules rangeAllowed) (simpleOrRange rules' rangeAllowed) := by
  refine agrees_start.any fun _ _ => (agrees_andThen _ _).given fun isRange => agrees_ite (fun _ => ?_) fun _ => ?_
  · exact agrees_rangeClause nested .nil _
  · refine (agrees_exprList nested).last fun exprs exprs' each => agrees_peek fun token? => ?_
    split
    · rename_i found
      obtain ⟨token, rfl, isOp⟩ := Option.bind_eq_some_iff.mp found
      exact agrees_assignment nested rangeAllowed each isOp
    · refine AgreesAt.loose (AgreesAt.skip ((agrees_single each).bind fun _ _ expr => ?_) rfl)
      refine agrees_spanFrom.any fun _ _ => agrees_pure (.stmt ?_) (by simp)
      exact ⟨by simp [expr.same], by simpa using expr.good⟩
    · refine AgreesAt.loose (AgreesAt.skip ((agrees_single each).bind fun _ _ expr => ?_) rfl)
      refine agrees_spanFrom.any fun _ _ => agrees_pure (.stmt ?_) (by simp)
      exact ⟨by simp [expr.same], by simpa using expr.good⟩
    · refine AgreesAt.loose (AgreesAt.skip ((agrees_single each).bind fun _ _ channel => ?_) rfl)
      refine (agrees_outerExpr nested).bind fun _ _ value => agrees_spanFrom.any fun _ _ =>
        agrees_pure (.stmt ?_) (by simp)
      exact ⟨by simp [channel.same, value.same], by simpa using ⟨channel.good, value.good⟩⟩
    · refine AgreesFrom.at ((agrees_single each).bind fun _ _ expr => ?_)
      refine agrees_spanFrom.any fun _ _ => agrees_pure (.stmt ?_) (by simp)
      exact ⟨by simp [expr.same], by simpa using expr.good⟩

theorem agrees_simple (nested : Nested bound rules rules') :
    Agrees (bound + 1) 1 .stmt (simple rules) (simple rules') := by
  refine (agrees_simpleOrRange nested false).last fun found found' both => ?_
  cases both with
  | stmt same => exact agrees_pure same (by simp)
  | range _ _ _ => exact agrees_fail

structure ListTwins (found found' : List Stmt × List AnchoredComment) : Prop where
  each : Each Stmt.Twins found.1 found'.1
  below : ∀ comment ∈ found.2, comment.anchor.IsBelow found.1.length

@[simp] def ListTwins.kind : Kind (List Stmt × List AnchoredComment) (List Stmt × List AnchoredComment) :=
  ⟨ListTwins, fun found => found.1.flatMap ofStmt ++ ofNotes (found.2.map (·.comment))⟩

theorem isBelow_anchored (anchor : Anchor) {count : Nat} (below : anchor.IsBelow count) (comments : List Comment) :
    ∀ comment ∈ anchored anchor comments, comment.anchor.IsBelow count := by
  intro comment here
  obtain ⟨_, -, rfl⟩ := List.mem_map.mp here
  exact below

theorem isBelow_succ {anchor : Anchor} {count : Nat} (below : anchor.IsBelow count) : anchor.IsBelow (count + 1) := by
  cases anchor with
  | before index => exact Nat.lt_succ_of_lt below
  | after index => exact Nat.lt_succ_of_lt below
  | atEnd => trivial

@[simp] theorem comments_anchored (anchor : Anchor) (comments : List Comment) :
    (anchored anchor comments).map (·.comment) = comments := by
  rw [anchored, List.map_map]
  exact List.map_id comments

theorem agrees_listed {stmt stmt' : Parser Stmt} (agrees : Agrees bound 1 .stmt stmt stmt') {index index' : Nat} :
    Agrees bound 1
      ⟨fun found found' => found.1.Twins found'.1 ∧ ∀ comment ∈ found.2, comment.anchor.IsBelow (index + 1),
        fun found => ListTwins.kind.parts ([found.1], found.2)⟩
      (listed stmt index) (listed stmt' index') := by
  refine agrees_start.any fun _ _ => agrees_commentsBefore.bind fun _ _ _ => agrees.last fun _ _ same => ?_
  refine agrees_commentsBefore.bind fun _ _ _ => agrees_trailingComment.bind fun _ _ _ => ?_
  refine AgreesFrom.gathered (agrees_pure ⟨same, fun comment here => ?_⟩ rfl) ?_ ?_
  · rcases List.mem_append.mp here with here | here
    · exact isBelow_anchored (.before index) (Nat.lt_succ_self index) _ comment here
    · exact isBelow_anchored (.after index) (Nat.lt_succ_self index) _ comment here
  · simp
  · simp only [ListTwins.kind, Kind.notes, Kind.note, Kind.stmt, List.flatMap_singleton, List.map_append,
      comments_anchored, notes_append, ofNotes_append]
    abel

theorem gather_list {stmts : List Stmt} {comments : List AnchoredComment} {stmt : Stmt} {taken : List AnchoredComment}
    {α β : Type} {kind : Kind α β} {eaten : Nat} {rule : Parser α} {rule' : Parser β}
    (agrees : AgreesFrom (ListTwins.kind.parts (stmts ++ [stmt], comments ++ taken)) bound eaten kind rule rule') :
    AgreesFrom (ListTwins.kind.parts (stmts, comments) ++ ListTwins.kind.parts ([stmt], taken)) bound eaten kind rule
      rule' := by
  refine agrees.gathered ?_ ?_
  · simp
  · simp only [ListTwins.kind, notes_append, List.flatMap_append, List.map_append, ofNotes_append]
    abel

theorem agrees_stmtList (nested : Nested bound rules rules') :
    Agrees bound 0 ListTwins.kind (stmtList rules) (stmtList rules') := by
  refine agrees_phrase ?_
  refine agrees_loop ListTwins.kind (by simp) ⟨.nil, by simp⟩ fun found found' both => ?_
  obtain ⟨stmts, comments⟩ := found
  obtain ⟨stmts', comments'⟩ := found'
  refine agrees_peeked.given fun token? => agrees_ite (fun _ => agrees_pure (.done both) (by simp)) fun _ => ?_
  refine agrees_eatSemicolon.given fun found => agrees_ite (fun _ => agrees_pure (.again both) (by simp)) fun _ => ?_
  refine (agrees_listed nested.stmt).bind fun entry entry' same => ?_
  obtain ⟨stmt, taken⟩ := entry
  obtain ⟨stmt', taken'⟩ := entry'
  refine gather_list (agrees_peeked.given fun token? => ?_)
  have more : ListTwins (stmts ++ [stmt], comments ++ taken) (stmts' ++ [stmt'], comments' ++ taken') := by
    refine ⟨each_concat both.each same.1, fun comment here => ?_⟩
    rw [List.length_append, List.length_singleton]
    rcases List.mem_append.mp here with here | here
    · exact isBelow_succ (both.below comment here)
    · exact same.2 comment here
  exact agrees_ite (fun _ => agrees_pure (.again more) (by simp)) fun _ =>
    agrees_lineEnd.any fun _ _ => agrees_pure (.again more) (by simp)

theorem ListTwins.block {stmts stmts' : List Stmt} {comments comments' : List AnchoredComment}
    (both : ListTwins (stmts, comments) (stmts', comments')) (closing : List Comment) (comments'' : List AnchoredComment)
    {span span' : Span} :
    Block.Twins ⟨stmts, comments ++ anchored .atEnd closing, span⟩ ⟨stmts', comments'', span'⟩ := by
  have atStmts := twins_list both.each
  refine ⟨by simpa using atStmts.same, ?_⟩
  simp only [Block.WellFormed, wellFormedStmts_iff]
  refine ⟨atStmts.good, fun comment here => ?_⟩
  rcases List.mem_append.mp here with here | here
  · exact both.below comment here
  · exact isBelow_anchored .atEnd trivial _ comment here

theorem agrees_blockStmts (nested : Nested bound rules rules') :
    Agrees (bound + 1) 1 .block (blockStmts rules) (blockStmts rules') := by
  refine (agrees_expectMark _).eat fun _ _ _ => (agrees_stmtList nested).bind fun found found' both => ?_
  refine agrees_start.any fun _ _ => agrees_commentsBefore.bind fun _ _ _ => (agrees_expectMark _).any fun _ _ => ?_
  exact agrees_pure (both.block _ _) (by simp)

theorem agrees_clauseBody (nested : Nested bound rules rules') {start start' : Nat} :
    Agrees bound 0 .block (clauseBody rules start) (clauseBody rules' start') := by
  refine (agrees_stmtList nested).bind fun found found' both => (agrees_atMark _).given fun brace => ?_
  refine agrees_ite (fun _ => ?_) fun _ => agrees_spanFrom.any fun _ _ => agrees_pure (both.block [] _) (by simp)
  refine agrees_start.any fun _ _ => agrees_commentsBefore.bind fun _ _ _ => ?_
  exact agrees_spanFrom.any fun _ _ => agrees_pure (both.block _ _) (by simp)

theorem agrees_condition {α : Type} {kind : Kind α α} {next next' : Expr → Parser α} {what : Expectation}
    {first? first?' : Option Stmt} :
    (∀ cond cond', cond.Twins cond' → AgreesFrom (ofExpr cond) bound 0 kind (next cond) (next' cond')) →
    Option.Rel Stmt.Twins first? first?' → AgreesFrom (first?.toList.flatMap ofStmt) bound 0 kind
      (match first? with
        | some ⟨.expr cond, _⟩ => next cond
        | _ => unexpected what)
      (match first?' with
        | some ⟨.expr cond, _⟩ => next' cond
        | _ => unexpected what) := by
  intro then' both
  cases both with
  | none => exact agrees_unexpected
  | @some first first' same =>
    split
    · rename_i cond span isCond
      cases isCond
      obtain ⟨cond', span', rfl, atCond⟩ := Stmt.eq_expr_of_erase same.same.symm
      simpa using then' cond cond' ⟨atCond.symm, by simpa using same.good⟩
    · rename_i noCond
      split
      · rename_i cond' span' isCond
        cases isCond
        obtain ⟨cond, span, rfl, -⟩ := Stmt.eq_expr_of_erase same.same
        exact absurd rfl (noCond cond span)
      · exact agrees_unexpected

theorem agrees_ifHeader (nested : Nested bound rules rules') :
    Agrees (bound + 1) 0
      ⟨fun found found' => Option.Rel Stmt.Twins found.1 found'.1 ∧ found.2.Twins found'.2,
        fun found => ofOptStmt found.1 ++ ofExpr found.2⟩
      (ifHeader rules) (ifHeader rules') := by
  refine agrees_atSemicolon.given fun semicolon => agrees_unless (agrees_simple nested) fun first? first?' both => ?_
  refine agrees_eatSemicolon.given fun found => agrees_ite (fun _ => ?_) fun _ => ?_
  · exact (agrees_outerExpr nested).bind fun _ _ cond => agrees_pure ⟨both, cond⟩ (by simp)
  · exact agrees_condition (fun _ _ cond => agrees_pure ⟨.none, cond⟩ (by simp)) both

theorem agrees_elseBranch (nested : Nested bound rules rules') :
    Agrees bound 1 .branch (elseBranch rules) (elseBranch rules') := by
  refine agrees_peek fun token? => AgreesFrom.at ?_
  split
  · exact nested.ifElse
  · refine agrees_start.any fun _ _ => (agrees_blockStmts nested).below.last fun _ _ block => ?_
    refine agrees_spanFrom.any fun _ _ => agrees_pure ⟨?_, trivial⟩ (by simp)
    exact ⟨by simp [block.same], by simpa using block.good⟩
  · exact agrees_unexpected

theorem agrees_ifStmt (nested : Nested bound rules rules') :
    Agrees (bound + 1) 1 .branch (ifStmt rules) (ifStmt rules') := by
  refine agrees_start.any fun _ _ => (agrees_expectKeyword _).eat fun _ _ _ => ?_
  refine ((agrees_ifHeader nested).below.atLevel (-1)).bind fun header header' both => ?_
  obtain ⟨init?, cond⟩ := header
  obtain ⟨init?', cond'⟩ := header'
  obtain ⟨atInit, cond⟩ := both
  refine (agrees_blockStmts nested).below.bind fun _ _ body => (agrees_eatKeyword _).given fun found => ?_
  refine agrees_when (agrees_elseBranch nested) fun else? else?' atElse => ?_
  refine agrees_spanFrom.any fun _ _ => agrees_pure ⟨?_, trivial⟩ (by simp)
  have init := twins_option atInit
  cases atElse with
  | none =>
    refine ⟨by simpa using ⟨init.same, cond.same, body.same⟩, ?_⟩
    simpa using ⟨init.good, cond.good, body.good⟩
  | some other =>
    refine ⟨by simpa using ⟨init.same, cond.same, body.same, other.1.same⟩, ?_⟩
    simpa using ⟨init.good, cond.good, body.good, other.1.good, other.2⟩

inductive LoopHeader.Twins : LoopHeader → LoopHeader → Prop
  | clauses {init? init?' cond? cond?' post? post?'} (init : Option.Rel Stmt.Twins init? init?')
    (cond : Option.Rel Expr.Twins cond? cond?') (post : Option.Rel Stmt.Twins post? post?') :
    Twins (.clauses init? cond? post?) (.clauses init?' cond?' post?')
  | range {key? key?' value? value?' define expr expr'} (key : Option.Rel Expr.Twins key? key?')
    (value : Option.Rel Expr.Twins value? value?') (same : Expr.Twins expr expr') :
    Twins (.range key? value? define expr) (.range key?' value?' define expr')

@[simp] def LoopHeader.parts : LoopHeader → List Part
  | .clauses init? cond? post? => ofOptStmt init? ++ ofOptExpr cond? ++ ofOptStmt post?
  | .range key? value? _ expr => ofOptExpr key? ++ ofOptExpr value? ++ ofExpr expr

@[simp] def LoopHeader.kind : Kind LoopHeader LoopHeader := ⟨LoopHeader.Twins, LoopHeader.parts⟩

theorem agrees_forClauses (nested : Nested bound rules rules') {first? first?' : Option Stmt}
    (first : Option.Rel Stmt.Twins first? first?') :
    AgreesFrom (first?.toList.flatMap ofStmt) (bound + 1) 0 LoopHeader.kind (forClauses rules first?)
      (forClauses rules' first?') := by
  refine agrees_eatSemicolon.given fun found => agrees_ite (fun _ => ?_) fun _ => ?_
  · refine agrees_atSemicolon.given fun found => agrees_unless (agrees_outerExpr nested) fun _ _ cond => ?_
    refine agrees_expectSemicolon.any fun _ _ => (agrees_atMark _).given fun brace => ?_
    exact agrees_unless (agrees_simple nested) fun _ _ post => agrees_pure (.clauses first cond post) (by simp)
  · exact agrees_condition (fun _ _ cond => agrees_pure (.clauses .none (.some cond) .none) (by simp)) first

theorem agrees_forHeader (nested : Nested bound rules rules') :
    Agrees (bound + 1) 0 LoopHeader.kind (forHeader rules) (forHeader rules') := by
  refine (agrees_atMark _).given fun brace => agrees_ite (fun _ =>
    agrees_pure (.clauses .none .none .none) (by simp)) fun _ => ?_
  refine agrees_atSemicolon.given fun found => agrees_ite (fun _ => agrees_forClauses nested .none) fun _ => ?_
  refine (agrees_simpleOrRange nested true).bind fun found found' both => ?_
  cases both with
  | stmt same => simpa using agrees_forClauses nested (.some same)
  | range key value same => exact agrees_pure (.range key value same) (by simp)

theorem agrees_forStmt (nested : Nested bound rules rules') :
    Agrees (bound + 1) 1 .stmt (forStmt rules) (forStmt rules') := by
  refine agrees_start.any fun _ _ => (agrees_expectKeyword _).eat fun _ _ _ => ?_
  refine ((agrees_forHeader nested).below.atLevel (-1)).bind fun header header' both => ?_
  refine (agrees_blockStmts nested).below.bind fun _ _ body => agrees_spanFrom.any fun _ _ => ?_
  cases both with
  | clauses atInit atCond atPost =>
    have init := twins_option atInit
    have cond := twins_option atCond
    have post := twins_option atPost
    refine agrees_pure ⟨by simpa using ⟨init.same, cond.same, post.same, body.same⟩, ?_⟩ (by simp)
    simpa using ⟨init.good, cond.good, post.good, body.good⟩
  | range atKey atValue expr =>
    have key := twins_option atKey
    have value := twins_option atValue
    refine agrees_pure ⟨by simpa using ⟨key.same, value.same, expr.same, body.same⟩, ?_⟩ (by simp)
    simpa using ⟨key.good, value.good, expr.good, body.good⟩

theorem agrees_switchHeader (nested : Nested bound rules rules') :
    Agrees (bound + 1) 0
      ⟨fun found found' => Option.Rel Stmt.Twins found.1 found'.1 ∧ Option.Rel Stmt.Twins found.2 found'.2,
        fun found => ofOptStmt found.1 ++ ofOptStmt found.2⟩
      (switchHeader rules) (switchHeader rules') := by
  refine (agrees_atMark _).given fun brace => agrees_ite (fun _ => agrees_pure ⟨.none, .none⟩ (by simp)) fun _ => ?_
  refine agrees_atSemicolon.given fun semicolon => agrees_unless (agrees_simple nested) fun _ _ first => ?_
  refine agrees_eatSemicolon.given fun found => agrees_ite (fun _ => ?_) fun _ => agrees_pure ⟨.none, first⟩ (by simp)
  refine (agrees_atMark _).given fun brace => agrees_ite (fun _ => agrees_pure ⟨first, .none⟩ (by simp)) fun _ => ?_
  exact (agrees_simple nested).bind fun _ _ same => agrees_pure ⟨first, .some same⟩ (by simp)

theorem agrees_caseExprs (nested : Nested bound rules rules') :
    Agrees (bound + 1) 1 (.each .expr) (caseExprs rules) (caseExprs rules') := by
  refine agrees_peek fun token? => ?_
  split
  · exact AgreesAt.skip (agrees_exprList nested).below.loose rfl
  · exact AgreesAt.skip (agrees_pure .nil (by simp)) rfl
  · exact agrees_unexpected.at

theorem agrees_caseClause (nested : Nested bound rules rules') :
    Agrees (bound + 1) 1 .caseClause (caseClause rules) (caseClause rules') := by
  refine agrees_start.any fun _ _ => (agrees_caseExprs nested).eat fun _ _ each =>
    (agrees_expectMark _).any fun _ _ => ?_
  refine (agrees_clauseBody nested).bind fun _ _ body => agrees_pure ?_ (by simp)
  have exprs := twins_list each
  exact ⟨by simp [exprs.same, body.same], by simpa using ⟨exprs.good, body.good⟩⟩

theorem agrees_clauses {α : Type} {kind : Kind α α} {clause clause' : Parser α}
    (agrees : Agrees bound 1 kind clause clause') :
    Agrees bound 1 kind.each (clauses clause) (clauses clause') := by
  refine (agrees_expectMark _).past fun _ _ => ?_
  have all : Agrees bound 0 kind.each
      (loop [] fun clauses => do
        if ← atMark .rbrace then return .done clauses else return .again (clauses ++ [← clause]))
      (loop [] fun clauses => do
        if ← atMark .rbrace then return .done clauses else return .again (clauses ++ [← clause'])) := by
    refine agrees_loop kind.each (by simp) .nil fun clauses clauses' each => ?_
    refine (agrees_atMark _).given fun brace => agrees_ite (fun _ => agrees_pure (.done each) (by simp)) fun _ => ?_
    exact agrees.bind fun _ _ same => agrees_pure (.again (each_concat each same)) (by simp)
  exact all.bind fun _ _ each => (agrees_expectMark _).any fun _ _ => agrees_pure each (by simp)

theorem twins_guarded? {expr expr' : Expr} (both : expr.Twins expr') :
    Option.Rel Expr.Twins (guarded? expr) (guarded? expr') := by
  unfold guarded?
  split
  · obtain ⟨base', span', rfl, atBase⟩ := Expr.eq_typeAssert_of_erase both.same.symm
    exact .some ⟨atBase.symm, by simpa using both.good⟩
  · rename_i noGuard
    split
    · obtain ⟨base, span, rfl, -⟩ := Expr.eq_typeAssert_of_erase both.same
      exact absurd rfl (noGuard base span)
    · exact .none

theorem twins_typeSwitch {init? init?' : Option Stmt} (atInit : Option.Rel Stmt.Twins init? init?')
    {expr expr' : Expr} (atExpr : expr.Twins expr') {cases cases' : List CaseClause}
    (each : Each CaseClause.Twins cases cases') (binding? : Option String) :
    Stmt.Node.Twins (.typeSwitch init? binding? expr cases) (.typeSwitch init?' binding? expr' cases') := by
  have init := twins_option atInit
  have clauses := twins_list each
  refine ⟨by simpa using ⟨init.same, atExpr.same, clauses.same⟩, ?_⟩
  simpa using ⟨init.good, atExpr.good, clauses.good⟩

theorem twins_switch {init? init?' : Option Stmt} (atInit : Option.Rel Stmt.Twins init? init?')
    {tag? tag?' : Option Expr} (atTag : Option.Rel Expr.Twins tag? tag?') {cases cases' : List CaseClause}
    (each : Each CaseClause.Twins cases cases') :
    Stmt.Node.Twins (.switch init? tag? cases) (.switch init?' tag?' cases') := by
  have init := twins_option atInit
  have tag := twins_option atTag
  have clauses := twins_list each
  refine ⟨by simpa using ⟨init.same, tag.same, clauses.same⟩, ?_⟩
  simpa using ⟨init.good, tag.good, clauses.good⟩

/-- The guard of a type switch is taken apart, but nothing of it goes away. -/
theorem parts_guarded {guard base : Expr} (isGuard : guarded? guard = some base) : ofExpr guard = ofExpr base := by
  unfold guarded? at isGuard
  split at isGuard
  · cases isGuard
    simp [ofExpr]
  · cases isGuard

theorem agrees_switchNode {init? init?' header? header?' : Option Stmt} (atInit : Option.Rel Stmt.Twins init? init?')
    (atHeader : Option.Rel Stmt.Twins header? header?') {cases cases' : List CaseClause}
    (each : Each CaseClause.Twins cases cases') {start start' : Nat} :
    AgreesFrom (ofOptStmt init? ++ ofOptStmt header? ++ cases.flatMap ofCase) bound 0 .stmtNode
      (switchNode start init? header? cases) (switchNode start' init?' header?' cases') := by
  cases atHeader with
  | none => exact agrees_pure (twins_switch atInit .none each) (by simp)
  | @some header header' same =>
    unfold switchNode
    split
    · contradiction
    · rename_i tag span isTag
      cases isTag
      obtain ⟨tag', span', rfl, atTag⟩ := Stmt.eq_expr_of_erase same.same.symm
      have tags : tag.Twins tag' := ⟨atTag.symm, by simpa using same.good⟩
      have guards := twins_guarded? tags
      simp only
      generalize isGuard : guarded? tag = guard?, guarded? tag' = guard?' at guards ⊢
      cases guards with
      | none => exact agrees_pure (twins_switch atInit (.some tags) each) (by simp)
      | some guard => exact agrees_pure (twins_typeSwitch atInit guard each none) (by simp [parts_guarded isGuard])
    · rename_i target value span isDefine
      cases isDefine
      obtain ⟨target', value', span', rfl, atTarget, atValue⟩ := Stmt.eq_assign_of_erase same.same.symm
      have good := same.good
      have guards := twins_guarded? (⟨atValue.symm, by simpa using good.2⟩ : value.Twins value')
      simp only
      generalize isGuard : guarded? value = guard?, guarded? value' = guard?' at guards ⊢
      cases guards with
      | none => exact agrees_spanFrom.any fun _ _ => agrees_fail
      | some guard =>
        split
        · rename_i found
          cases found
          obtain ⟨span', rfl⟩ := Expr.eq_ident_of_erase atTarget
          exact agrees_pure (twins_typeSwitch atInit guard each _) (by simp [ofExpr, parts_guarded isGuard])
        · rename_i isGuard noName
          split
          · obtain ⟨span, rfl⟩ := Expr.eq_ident_of_erase atTarget.symm
            exact absurd rfl (noName _ span)
          · exact agrees_spanFrom.any fun _ _ => agrees_fail
          · contradiction
        · contradiction
    · rename_i noTag noDefine isHeader
      cases isHeader
      split
      · contradiction
      · rename_i isTag
        cases isTag
        obtain ⟨tag, span, rfl, -⟩ := Stmt.eq_expr_of_erase same.same
        exact absurd rfl (noTag tag span)
      · rename_i isDefine
        cases isDefine
        obtain ⟨target, value, span, rfl, -⟩ := Stmt.eq_assign_of_erase same.same
        exact absurd rfl (noDefine target value span)
      · exact agrees_spanFrom.any fun _ _ => agrees_fail

theorem agrees_switchStmt (nested : Nested bound rules rules') :
    Agrees (bound + 1) 1 .stmt (switchStmt rules) (switchStmt rules') := by
  refine agrees_start.any fun _ _ => (agrees_expectKeyword _).eat fun _ _ _ => ?_
  refine ((agrees_switchHeader nested).below.atLevel (-1)).bind fun header header' both => ?_
  obtain ⟨init?, header?⟩ := header
  obtain ⟨init?', header?'⟩ := header'
  refine (agrees_clauses (agrees_caseClause nested).below).bind fun _ _ each => ?_
  refine (agrees_switchNode both.1 both.2 each).bind fun _ _ node => agrees_spanFrom.any fun _ _ => ?_
  exact agrees_pure ⟨by simp [node.same], by simpa using node.good⟩ (ofStmt_node ..).symm

theorem agrees_comm? (nested : Nested bound rules rules') :
    Agrees (bound + 1) 1 (.option .stmt) (Rules.comm? rules) (Rules.comm? rules') := by
  refine agrees_peek fun token? => ?_
  split
  · exact AgreesAt.skip ((agrees_simple nested).below.bind fun _ _ same => agrees_pure (.some same) (by simp)) rfl
  · exact AgreesAt.skip (agrees_pure .none (by simp)) rfl
  · exact agrees_unexpected.at

theorem agrees_commClause (nested : Nested bound rules rules') :
    Agrees (bound + 1) 1 .commClause (commClause rules) (commClause rules') := by
  refine agrees_start.any fun _ _ => (agrees_comm? nested).eat fun _ _ atComm => (agrees_expectMark _).any fun _ _ => ?_
  refine (agrees_clauseBody nested).bind fun _ _ body => agrees_pure ?_ (by simp)
  have comm := twins_option atComm
  exact ⟨by simp [comm.same, body.same], by simpa using ⟨comm.good, body.good⟩⟩

theorem agrees_selectStmt (nested : Nested bound rules rules') :
    Agrees (bound + 1) 1 .stmt (selectStmt rules) (selectStmt rules') := by
  refine agrees_start.any fun _ _ => (agrees_expectKeyword _).eat fun _ _ _ => ?_
  refine (agrees_clauses (agrees_commClause nested).below).bind fun _ _ each => agrees_spanFrom.any fun _ _ => ?_
  have clauses := twins_list each
  exact agrees_pure ⟨by simp [clauses.same], by simpa using clauses.good⟩ (by simp)

theorem agrees_labeled (nested : Nested bound rules rules') {start start' : Nat} :
    Agrees (bound + 1) 1 .stmtNode (labeled rules start) (labeled rules' start') := by
  refine agrees_name.eat fun label label' same => (agrees_expectMark _).any fun _ _ => ?_
  subst same
  have inner : Agrees bound 0 .stmt (labeledInner rules start) (labeledInner rules' start') := by
    refine (agrees_atMark _).given fun brace => agrees_ite (fun _ => ?_) fun _ => nested.stmt.loose
    exact agrees_spanFrom.any fun _ _ => agrees_pure ⟨by simp, by simp⟩ (by simp)
  exact inner.bind fun _ _ stmt => agrees_pure ⟨by simp [stmt.same], by simpa using stmt.good⟩ (by simp)

theorem agrees_results (nested : Nested bound rules rules') :
    Agrees (bound + 1) 0 (.each .expr) (results rules) (results rules') := by
  refine agrees_peek fun token? => AgreesFrom.at ?_
  split
  · exact agrees_pure .nil (by simp)
  · exact agrees_pure .nil (by simp)
  · exact agrees_pure .nil (by simp)
  · exact (agrees_exprList nested).loose

theorem agrees_branch (kind : BranchKind) {token : Token} (plain : token.isWord = false) :
    AgreesAt (some token) [] (bound + 1) 1 .stmtNode (branch kind) (branch kind) := by
  refine AgreesAt.skip (agrees_atIdent.given fun named => agrees_when agrees_name fun label? label?' both => ?_) plain
  have same : label? = label?' := by
    cases both with
    | none => rfl
    | some same => rw [same]
  subst same
  exact agrees_pure ⟨rfl, by simp⟩ (by simp)

theorem agrees_plainNode? (nested : Nested bound rules rules') (token? : Option Token) :
    Option.Rel (AgreesAt token? [] (bound + 1) 1 .stmtNode) (plainNode? rules token?) (plainNode? rules' token?) := by
  have decl {decl decl' : Decl} (same : decl.Twins decl') : Stmt.Node.Twins (.decl decl) (.decl decl') :=
    ⟨by simp [same.same], by simpa using same.good⟩
  unfold plainNode?
  split
  · exact .some ((agrees_valueDecl nested .var rfl).map (by simp) fun _ _ => decl)
  · exact .some ((agrees_valueDecl nested .const rfl).map (by simp) fun _ _ => decl)
  · exact .some ((agrees_typeDecl nested rfl).map (by simp) fun _ _ => decl)
  · refine .some (AgreesAt.skip ((agrees_outerExpr nested).below.bind fun _ _ call => agrees_pure ?_ (by simp)) rfl)
    exact ⟨by simp [call.same], by simpa using call.good⟩
  · refine .some (AgreesAt.skip ((agrees_outerExpr nested).below.bind fun _ _ call => agrees_pure ?_ (by simp)) rfl)
    exact ⟨by simp [call.same], by simpa using call.good⟩
  · refine .some (AgreesAt.skip ((agrees_results nested).below.bind fun _ _ each => agrees_pure ?_ (by simp)) rfl)
    have results := twins_list each
    exact ⟨by simp [results.same], by simpa using results.good⟩
  · exact .some (agrees_branch .break rfl)
  · exact .some (agrees_branch .continue rfl)
  · exact .some (agrees_branch .goto rfl)
  · exact .some (AgreesAt.skip (agrees_pure ⟨rfl, by simp⟩ (by simp)) rfl)
  · refine .some ((agrees_blockStmts nested).at.map (by simp) fun _ _ block => ?_)
    exact ⟨by simp [block.same], by simpa using block.good⟩
  · exact .none

theorem agrees_stmtRule (nested : Nested bound rules rules') :
    Agrees (bound + 1) 1 .stmt (stmtRule rules) (stmtRule rules') := by
  refine agrees_start.any fun _ _ => agrees_peek fun token? => ?_
  split
  · exact AgreesFrom.at (AgreesFrom.mono (agrees_ifStmt nested) (fun _ _ both => both.1) rfl)
  · exact (agrees_forStmt nested).at
  · exact (agrees_switchStmt nested).at
  · exact (agrees_selectStmt nested).at
  · refine AgreesAt.peekAfter fun later? => ?_
    split
    · refine AgreesFrom.at ((agrees_labeled nested).last fun _ _ node => agrees_spanFrom.any fun _ _ => ?_)
      exact agrees_pure ⟨by simp [node.same], by simpa using node.good⟩ (ofStmt_node ..).symm
    · have plain := agrees_plainNode? nested token?
      generalize plainNode? rules token? = rule?, plainNode? rules' token? = rule?' at plain ⊢
      cases plain with
      | none => exact (agrees_simple nested).at
      | some agrees =>
        refine agrees.last fun _ _ node => agrees_spanFrom.any fun _ _ => ?_
        exact agrees_pure ⟨by simp [node.same], by simpa using node.good⟩ (ofStmt_node ..).symm

end Rules

end GoSpecs
