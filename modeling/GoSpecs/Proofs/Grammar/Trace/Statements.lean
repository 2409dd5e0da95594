import GoSpecs.Proofs.Grammar.Trace.Expressions

namespace GoSpecs.Rules

open GoSpecs.Parser

variable {α : Type} {bound rank : Nat} {spot : Spot} {traced : Rules Traced} {rules : Rules}

theorem follows_atTypeParams : Reads 0 spot atTypeParams atTypeParams := by
  refine (follows_atMark _).bind fun _ => (follows_peekAfter 1).bind fun _ => ?_
  refine follows_ite (fun _ => (follows_peekAfter 2).bind fun _ => ?_) fun _ => follows_pure rfl
  split <;> exact follows_pure rfl

theorem follows_grouped {spec : Traced α} {spec' : Parser α} {withComment : α → Option Comment → α}
    (follows : Reads 1 spot spec spec') : Reads 1 spot (grouped spec withComment) (grouped spec' withComment) := by
  refine (follows_eatMark _).test (fun _ => ?_) (follows.last fun _ => follows_pure rfl)
  refine (follows_linesUntil _ ?_).bind fun _ => (follows_expectMark _).bind fun _ => follows_pure rfl
  refine (Follows.onward follows).last fun _ => follows_lastEnd.bind fun _ => ?_
  exact follows_trailingComment.bind fun _ => follows_pure rfl

section

variable (nested : Followed bound traced rules)

include nested

theorem readable_typeSpec : Readable (bound + 1) .typeSpec (typeSpec traced) (typeSpec rules) := by
  refine readable_plain rfl fun spot opened => follows_name.eat fun some _ => follows_atTypeParams.bind fun _ => ?_
  have opened := opened.onward some
  have type := readable_typeExpr nested
  refine follows_either (readable_typeParams type opened rfl).loose (follows_pure rfl) fun _ => ?_
  exact (follows_eatMark _).bind fun _ => (type opened rfl).bind fun _ => follows_pure rfl

theorem follows_valueType? (opened : spot.Open (bound + 1) Phrase.ranks) :
    Reads 0 spot (valueType? traced) (valueType? rules) := by
  refine follows_peek fun token? => ?_
  split
  · exact follows_pure rfl
  · exact follows_pure rfl
  · exact follows_pure rfl
  · exact follows_pure rfl
  · exact (readable_typeExpr nested opened rfl).when.bind fun _ => follows_pure rfl

theorem readable_valueSpec : Readable (bound + 1) .valueSpec (valueSpec traced) (valueSpec rules) := by
  refine readable_plain rfl fun spot opened => (follows_commaList follows_name).eat fun some _ => ?_
  have opened := opened.onward some
  refine (follows_valueType? nested opened).bind fun _ => (follows_eatMark _).bind fun _ => ?_
  exact follows_either (readable_exprList nested opened rfl).loose (follows_pure rfl) fun _ => follows_pure rfl

variable {token : Token}

theorem follows_typeDecl (opened : spot.Open (bound + 1) rank) (fits : Phrase.genDecl.fits rank) :
    FollowsAt (some token) (fun _ => 1) spot (typeDecl traced) (typeDecl rules) := by
  refine follows_plain opened fits rfl fun inner opened _ => follows_skip.eat fun some _ => ?_
  exact (follows_grouped (readable_typeSpec nested (opened.onward some) rfl)).bind fun _ => follows_pure rfl

theorem follows_valueDecl (opened : spot.Open (bound + 1) rank) {kind : ValueKind}
    (fits : Phrase.genDecl.fits rank) :
    FollowsAt (some token) (fun _ => 1) spot (valueDecl traced kind) (valueDecl rules kind) := by
  refine follows_plain opened fits rfl fun inner opened _ => follows_skip.eat fun some _ => ?_
  exact (follows_grouped (readable_valueSpec nested (opened.onward some) rfl)).bind fun _ => follows_pure rfl

end

theorem follows_single {exprs : List Expr} {start : Nat} : Reads 0 spot (single exprs start) (single exprs start) := by
  unfold single
  split
  · exact follows_pure rfl
  · exact follows_spanFrom.bind fun _ => follows_fail nofun

theorem follows_andThen (test : Bool) (word : Keyword) :
    Follows Bool.toNat spot (pure test <&&> eatKeyword word) (pure test <&&> eatKeyword word) := by
  cases test with
  | false => exact follows_pure rfl
  | true => exact follows_eatKeyword word

section

variable (nested : Followed bound traced rules)

include nested

theorem follows_rangeClause (opened : spot.Open (bound + 1) Phrase.ranks) {targets : List Expr} {define : Bool}
    {start : Nat} :
    Reads 1 spot (rangeClause traced targets define start) (rangeClause rules targets define start) := by
  refine (readable_outerExpr nested opened rfl).last fun _ => ?_
  split
  · exact follows_pure rfl
  · exact follows_pure rfl
  · exact follows_pure rfl
  · exact follows_spanFrom.bind fun _ => follows_fail nofun

theorem follows_assignment (opened : spot.Open (bound + 1) rank) {rangeAllowed : Bool} {targets : List Expr}
    {op : AssignOp} {start : Nat} {token : Token} :
    FollowsAt (some token) (fun _ => 0) spot (assignment traced rangeAllowed targets op start)
      (assignment rules rangeAllowed targets op start) := by
  refine follows_skip.eat fun some _ => ?_
  have opened := opened.onward some
  refine (follows_andThen _ _).test (fun some => (follows_rangeClause nested (opened.onward some)).loose) ?_
  exact (readable_exprList nested opened rfl).bind fun _ => follows_spanFrom.bind fun _ => follows_pure rfl

theorem readable_simpleOrRange {rangeAllowed : Bool} : Readable (bound + 1) .simpleOrRange
    (simpleOrRange traced rangeAllowed) (simpleOrRange rules rangeAllowed) := by
  refine readable_plain rfl fun spot opened => follows_start.bind fun _ => ?_
  refine (follows_andThen _ _).test (fun some => (follows_rangeClause nested (opened.onward some)).loose) ?_
  refine (readable_exprList nested opened rfl).last fun _ => follows_peek fun token? => ?_
  split
  · rename_i found
    obtain ⟨token, rfl, -⟩ := Option.bind_eq_some_iff.mp found
    exact follows_assignment nested opened
  · exact follows_skip.bind fun _ => follows_single.bind fun _ => follows_spanFrom.bind fun _ => follows_pure rfl
  · exact follows_skip.bind fun _ => follows_single.bind fun _ => follows_spanFrom.bind fun _ => follows_pure rfl
  · refine follows_skip.eat fun some _ => follows_single.bind fun _ => ?_
    refine (readable_outerExpr nested (opened.onward some) rfl).bind fun _ => follows_spanFrom.bind fun _ => ?_
    exact follows_pure rfl
  · exact follows_single.when.bind fun _ => follows_spanFrom.bind fun _ => follows_pure rfl

theorem readable_simple : Readable (bound + 1) .simple (simple traced) (simple rules) := by
  refine readable_plain rfl fun spot opened => (readable_simpleOrRange nested opened rfl).last fun _ => ?_
  split
  · exact follows_pure rfl
  · exact follows_fail nofun

end

theorem follows_listed {stmt : Traced Stmt} {stmt' : Parser Stmt} (follows : Reads 1 spot stmt stmt') {index : Nat} :
    Reads 1 spot (listed stmt index) (listed stmt' index) := by
  refine follows_start.bind fun _ => follows_commentsBefore.bind fun _ => follows.last fun _ => ?_
  exact follows_commentsBefore.bind fun _ => follows_trailingComment.bind fun _ => follows_pure rfl

theorem follows_clauses {clause : Traced α} {clause' : Parser α}
    (follows : 0 < spot.ahead → Reads 1 spot.next clause clause') :
    Reads 1 spot (clauses clause) (clauses clause') := by
  refine (follows_expectMark _).eat fun some _ => (follows_loop fun _ => ?_).bind fun _ => ?_
  · refine (follows_atMark _).bind fun _ => follows_ite (fun _ => follows_pure rfl) fun _ => ?_
    exact (follows some).last fun _ => follows_pure rfl
  · exact (follows_expectMark _).bind fun _ => follows_pure rfl

variable (nested : Followed bound traced rules)

include nested

theorem follows_stmtList (opened : spot.Open bound rank) (zero : spot.level = 0)
    (fits : Phrase.stmtList.fits rank) : Reads 0 spot (stmtList traced) (stmtList rules) := by
  refine follows_plain opened fits rfl fun inner opened same => ?_
  refine follows_loop fun _ => follows_peeked.bind fun _ => follows_ite (fun _ => follows_pure rfl) fun _ => ?_
  refine follows_eatSemicolon.test (fun _ => follows_pure rfl) ?_
  refine (follows_listed (nested.stmt opened (same.trans zero) rfl)).last fun _ => follows_peeked.bind fun _ => ?_
  exact follows_ite (fun _ => follows_pure rfl) fun _ => follows_lineEnd.bind fun _ => follows_pure rfl

theorem readable_blockStmts : ReadableFlat (bound + 1) .block (blockStmts traced) (blockStmts rules) := by
  refine readable_flat rfl fun spot opened zero => (follows_expectMark _).eat fun some _ => ?_
  refine (follows_stmtList nested (opened.next some) zero rfl).bind fun _ => follows_start.bind fun _ => ?_
  exact follows_commentsBefore.bind fun _ => (follows_expectMark _).bind fun _ => follows_pure rfl

theorem follows_clauseBody (opened : spot.Open bound Phrase.ranks) (zero : spot.level = 0) {start : Nat} :
    Reads 0 spot (clauseBody traced start) (clauseBody rules start) := by
  refine follows_plain opened rfl rfl fun inner opened same => ?_
  refine (follows_stmtList nested opened (same.trans zero) rfl).bind fun _ => (follows_atMark _).bind fun _ => ?_
  refine follows_ite (fun _ => follows_start.bind fun _ => follows_commentsBefore.bind fun _ => ?_) fun _ =>
    follows_known ?_
  · exact follows_spanFrom.bind fun _ => follows_pure rfl
  · exact follows_spanFrom.bind fun _ => follows_pure rfl

omit nested in
/-- After the word that a statement begins with there is room for all phrases. -/
theorem readable_keyword {phrase : Phrase} {word : Keyword} {rest : Nat → Traced α} {rest' : Nat → Parser α}
    (plain : phrase.isPlain = true)
    (follows : ∀ spot start, spot.Open bound Phrase.ranks → spot.level = 0 → Reads 0 spot (rest start) (rest' start)) :
    ReadableFlat bound phrase
      (MonadParser.phrase phrase do
        let start ← start
        let _ ← expectKeyword word
        rest start)
      (MonadParser.phrase phrase do
        let start ← start
        let _ ← expectKeyword word
        rest' start) := by
  refine readable_flat plain fun spot opened zero => ?_
  refine follows_start.bind fun start => (follows_expectKeyword _).eat fun some _ => ?_
  exact follows spot.next start (opened.onward some) zero

theorem follows_ifHeader (roomy : spot.Roomy (bound + 1) Phrase.ranks) :
    Reads 0 spot (inHeader (ifHeader traced)) (inHeader (ifHeader rules)) := by
  refine follows_header roomy rfl rfl fun inner opened => follows_atSemicolon.bind fun _ => ?_
  refine follows_either (follows_pure rfl) (readable_simple nested opened rfl).loose.map fun _ => ?_
  refine follows_eatSemicolon.test (fun some => ?_) ?_
  · exact (readable_outerExpr nested (opened.onward some) rfl).bind fun _ => follows_pure rfl
  · split
    · exact follows_pure rfl
    · exact follows_unexpected

theorem follows_elseBranch (opened : spot.Open bound Phrase.ranks) (zero : spot.level = 0) :
    Reads 0 spot (elseBranch traced) (elseBranch rules) := by
  refine follows_peek fun token? => ?_
  split
  · exact (nested.ifElse opened zero rfl).when.loose
  · refine follows_start.bind fun _ => (readable_blockStmts nested opened.up zero rfl).bind fun _ => ?_
    exact follows_spanFrom.bind fun _ => follows_pure rfl
  · exact follows_unexpected

theorem readable_ifStmt : ReadableFlat (bound + 1) .ifStmt (ifStmt traced) (ifStmt rules) := by
  refine readable_keyword rfl fun spot start opened zero => ?_
  refine (follows_ifHeader nested opened.toRoomy).bind fun _ => ?_
  refine (readable_blockStmts nested opened zero rfl).bind fun _ => ?_
  refine (follows_eatKeyword _).testEither (fun some => (follows_elseBranch nested (opened.next some) zero).map)
    (follows_pure rfl) fun _ => ?_
  exact follows_spanFrom.bind fun _ => follows_pure rfl

theorem follows_forClauses (opened : spot.Open (bound + 1) rank) {first? : Option Stmt} :
    Reads 0 spot (forClauses traced first?) (forClauses rules first?) := by
  refine follows_eatSemicolon.test (fun some => follows_atSemicolon.bind fun _ => ?_) ?_
  · have opened := opened.onward some
    refine follows_either (follows_pure rfl) (readable_outerExpr nested opened rfl).loose.map fun _ => ?_
    refine follows_expectSemicolon.bind fun _ => (follows_atMark _).bind fun _ => ?_
    exact follows_either (follows_pure rfl) (readable_simple nested opened rfl).loose.map fun _ => follows_pure rfl
  · split
    · exact follows_pure rfl
    · exact follows_unexpected

theorem follows_forHeader (roomy : spot.Roomy (bound + 1) Phrase.ranks) :
    Reads 0 spot (inHeader (forHeader traced)) (inHeader (forHeader rules)) := by
  refine follows_header roomy rfl rfl fun inner opened => (follows_atMark _).bind fun _ => ?_
  refine follows_ite (fun _ => follows_pure rfl) fun _ => follows_atSemicolon.bind fun _ => ?_
  refine follows_ite (fun _ => follows_forClauses nested opened) fun _ => ?_
  refine (readable_simpleOrRange nested opened rfl).bind fun _ => ?_
  split
  · exact follows_pure rfl
  · exact follows_forClauses nested opened

theorem readable_forStmt : ReadableFlat (bound + 1) .forStmt (forStmt traced) (forStmt rules) := by
  refine readable_keyword rfl fun spot start opened zero => ?_
  refine (follows_forHeader nested opened.toRoomy).bind fun _ => ?_
  refine (readable_blockStmts nested opened zero rfl).bind fun _ => follows_spanFrom.bind fun _ => ?_
  split <;> exact follows_pure rfl

theorem follows_switchHeader (roomy : spot.Roomy (bound + 1) Phrase.ranks) :
    Reads 0 spot (inHeader (switchHeader traced)) (inHeader (switchHeader rules)) := by
  refine follows_header roomy rfl rfl fun inner opened => (follows_atMark _).bind fun _ => ?_
  refine follows_ite (fun _ => follows_pure rfl) fun _ => follows_atSemicolon.bind fun _ => ?_
  refine follows_either (follows_pure rfl) (readable_simple nested opened rfl).loose.map fun _ => ?_
  refine follows_eatSemicolon.test (fun some => (follows_atMark _).bind fun _ => ?_) (follows_pure rfl)
  refine follows_ite (fun _ => follows_pure rfl) fun _ => ?_
  exact (readable_simple nested (opened.onward some) rfl).bind fun _ => follows_pure rfl

theorem follows_caseExprs (opened : spot.Open (bound + 1) rank) :
    Reads 1 spot (caseExprs traced) (caseExprs rules) := by
  refine follows_peek fun token? => ?_
  split
  · exact follows_skip.eat fun some _ => (readable_exprList nested (opened.onward some) rfl).loose
  · exact follows_skip.last fun _ => follows_pure rfl
  · exact follows_unexpected

theorem readable_caseClause : ReadableFlat (bound + 1) .caseClause (caseClause traced) (caseClause rules) := by
  intro spot rank opened zero fits
  refine follows_phrase opened.toRoomy fits (fun _ holds => holds.level.trans zero) (fun _ _ _ _ _ kept _ => kept)
    fun cursor holds => ?_
  have opened := opened.plain holds fits rfl rfl
  refine follows_start.bind fun _ => (follows_caseExprs nested opened).eat fun some _ => ?_
  refine (follows_expectMark _).bind fun _ => (follows_clauseBody nested (opened.next some) zero).bind fun _ => ?_
  exact follows_pure rfl

omit nested in
theorem follows_switchNode {start : Nat} {init? header? : Option Stmt} {clauses : List CaseClause} :
    Reads 0 spot (switchNode start init? header? clauses) (switchNode start init? header? clauses) := by
  unfold switchNode
  split
  · exact follows_pure rfl
  · rename_i tag _
    cases guarded? tag with
    | some | none => exact follows_pure rfl
  · rename_i target value _
    cases guarded? value with
    | some =>
      obtain ⟨node, _⟩ := target
      cases node with
      | ident => exact follows_pure rfl
      | _ => exact follows_spanFrom.bind fun _ => follows_fail nofun
    | none => exact follows_spanFrom.bind fun _ => follows_fail nofun
  · exact follows_spanFrom.bind fun _ => follows_fail nofun

theorem readable_switchStmt : ReadableFlat (bound + 1) .switchStmt (switchStmt traced) (switchStmt rules) := by
  refine readable_keyword rfl fun spot start opened zero => ?_
  refine (follows_switchHeader nested opened.toRoomy).bind fun _ => (follows_clauses fun some => ?_).bind fun _ => ?_
  · exact readable_caseClause nested (opened.onward some) zero rfl
  · exact follows_switchNode.bind fun _ => follows_spanFrom.bind fun _ => follows_pure rfl

theorem follows_comm? (opened : spot.Open (bound + 1) rank) :
    Reads 1 spot (Rules.comm? traced) (Rules.comm? rules) := by
  refine follows_peek fun token? => ?_
  split
  · refine follows_skip.eat fun some _ => (readable_simple nested (opened.onward some) rfl).bind fun _ => ?_
    exact follows_pure rfl
  · exact follows_skip.last fun _ => follows_pure rfl
  · exact follows_unexpected

theorem follows_commClause (opened : spot.Open (bound + 1) rank) (zero : spot.level = 0) :
    Reads 1 spot (commClause traced) (commClause rules) := by
  refine follows_start.bind fun _ => (follows_comm? nested opened).eat fun some _ => ?_
  refine (follows_expectMark _).bind fun _ => (follows_clauseBody nested (opened.next some) zero).bind fun _ => ?_
  exact follows_pure rfl

theorem readable_selectStmt : ReadableFlat (bound + 1) .selectStmt (selectStmt traced) (selectStmt rules) := by
  refine readable_keyword rfl fun spot start opened zero => ?_
  refine (follows_clauses fun some => follows_commClause nested (opened.onward some) zero).bind fun _ => ?_
  exact follows_spanFrom.bind fun _ => follows_pure rfl

theorem follows_labeledInner (opened : spot.Open bound Phrase.ranks) (zero : spot.level = 0) {start : Nat} :
    Reads 0 spot (labeledInner traced start) (labeledInner rules start) := by
  refine (follows_atMark _).bind fun _ => follows_ite (fun _ => ?_) fun _ => (nested.stmt opened zero rfl).loose
  exact follows_spanFrom.bind fun _ => follows_pure rfl

theorem follows_labeled (opened : spot.Open (bound + 1) rank) (zero : spot.level = 0) {start : Nat} :
    Reads 1 spot (labeled traced start) (labeled rules start) := by
  refine follows_name.eat fun some _ => (follows_expectMark _).bind fun _ => ?_
  exact (follows_labeledInner nested (opened.next some) zero).bind fun _ => follows_pure rfl

theorem follows_results (opened : spot.Open (bound + 1) Phrase.ranks) :
    Reads 0 spot (results traced) (results rules) := by
  refine follows_peek fun token? => ?_
  split
  · exact follows_pure rfl
  · exact follows_pure rfl
  · exact follows_pure rfl
  · exact (readable_exprList nested opened rfl).when.loose

omit nested in
theorem follows_branch {kind : BranchKind} {token : Token} :
    FollowsAt (some token) (fun _ => 1) spot (branch kind) (branch kind) := by
  refine follows_skip.last fun _ => follows_atIdent.bind fun _ => ?_
  exact follows_either follows_name.loose.map (follows_pure rfl) fun _ => follows_pure rfl

theorem follows_plainNode? (opened : spot.Open (bound + 1) Phrase.stmt.rank) (zero : spot.level = 0)
    (token? : Option Token) :
    Option.Rel (FollowsAt token? (fun _ => 1) spot) (plainNode? traced token?) (plainNode? rules token?) := by
  have expr (some : 0 < spot.ahead) := readable_outerExpr nested (opened.onward some) rfl
  unfold plainNode?
  split
  · exact .some (follows_valueDecl nested opened rfl).map
  · exact .some (follows_valueDecl nested opened rfl).map
  · exact .some (follows_typeDecl nested opened rfl).map
  · exact .some (follows_skip.eat fun some _ => (expr some).bind fun _ => follows_pure rfl)
  · exact .some (follows_skip.eat fun some _ => (expr some).bind fun _ => follows_pure rfl)
  · refine .some (follows_skip.eat fun some _ => ?_)
    exact (follows_results nested (opened.onward some)).bind fun _ => follows_pure rfl
  · exact .some follows_branch
  · exact .some follows_branch
  · exact .some follows_branch
  · exact .some (follows_skip.last fun _ => follows_pure rfl)
  · exact .some (readable_blockStmts nested opened zero rfl).when.map
  · exact .none

theorem readable_stmtRule : ReadableFlat (bound + 1) .stmt (stmtRule traced) (stmtRule rules) := by
  intro spot rank opened zero fits
  refine follows_phrase opened.toRoomy fits (fun _ holds => holds.level.trans zero) (fun _ _ _ _ _ kept _ => kept)
    fun cursor holds => ?_
  have opened := opened.plain holds fits rfl rfl
  refine follows_start.bind fun _ => follows_peek fun token? => ?_
  split
  · exact (readable_ifStmt nested opened zero rfl).when
  · exact (readable_forStmt nested opened zero rfl).when
  · exact (readable_switchStmt nested opened zero rfl).when
  · exact (readable_selectStmt nested opened zero rfl).when
  · refine follows_look (fun cursor => (cursor.rest[1]?).map (·.token)) fun _ => ?_
    refine follows_ite (fun _ => ?_) fun _ => ?_
    · exact (follows_labeled nested opened zero).when.last fun _ => follows_spanFrom.bind fun _ => follows_pure rfl
    · have plain := follows_plainNode? nested opened zero token?
      generalize plainNode? traced token? = rule?, plainNode? rules token? = rule?' at plain ⊢
      cases plain with
      | none => exact (readable_simple nested opened rfl).when
      | some follows => exact follows.last fun _ => follows_spanFrom.bind fun _ => follows_pure rfl

end GoSpecs.Rules
