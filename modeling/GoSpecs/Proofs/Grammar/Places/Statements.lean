import GoSpecs.Proofs.Grammar.Places.Expressions

namespace GoSpecs

open Located

namespace Rules

open GoSpecs.Parser

variable {pairing : Pairing} {joint : Joint pairing} {rules : Rules}

theorem concurs_atTypeParams (joint : Joint pairing) :
    Concurs joint atTypeParams atTypeParams fun found found' _ => found' = found := by
  refine concurs_atMark fun _ => concurs_peekAfter (fun _ _ => rfl) fun _ => ?_
  refine concurs_ite (fun _ => concurs_peekAfter (fun _ _ => rfl) fun later? => ?_) fun _ => concurs_pure rfl
  split <;> exact concurs_pure rfl

/-- The specification was read, and may be given a comment. -/
structure SpecRead {α : Type} [Located α] (pairing : Pairing) (withComment : α → Option Comment → α) (low : Nat)
    (spec spec' : α) (stop : Place) : Prop where
  reads : pairing.Reads low spec spec' stop
  commented : ∀ comment? comment?', pairing.Moves comment? comment?' →
    pairing.Reads low (withComment spec comment?) (withComment spec' comment?') stop

theorem concurs_typeSpec (paired : rules.Paired pairing) (joint : Joint pairing) :
    Concurs joint (typeSpec rules) (typeSpec rules)
      (SpecRead pairing (fun spec comment => { spec with comment }) joint.stop.first) := by
  refine concurs_name.bind ?_
  rintro _ name _ le ⟨rfl, -⟩
  refine (concurs_atTypeParams _).bind ?_
  rintro _ found next le' rfl
  refine concurs_either (pairing.Reads joint.stop.first) (fun _ => ?_) (fun _ => ?_) ?_
  · refine (concurs_typeParams (concurs_typeExpr paired) next).mono fun _ _ _ _ fills => ?_
    exact fills.behind.since (Nat.le_trans le le')
  · exact concurs_pure (.nil (Nat.le_trans le le'))
  intro typeParams typeParams' _ _ params
  refine concurs_eaten.bind ?_
  rintro _ isAlias atType later rfl
  refine (concurs_typeExpr paired atType).bind fun type type' last _ covers => concurs_pure ?_
  have commented (comment? comment?' : Option Comment) (moves : pairing.Moves comment? comment?') :
      pairing.Reads joint.stop.first (⟨name, typeParams, isAlias, type, comment?⟩ : TypeSpec)
        ⟨name, typeParams', isAlias, type', comment?'⟩ last.stop := by
    have parts := params.pair ((covers.behind.since later).pair (.ofMoves moves (elim_none _) (Nat.le_refl _)))
    exact parts.build (.typeSpec name isAlias)
  exact ⟨commented none none .none, commented⟩

theorem concurs_valueType? (paired : rules.Paired pairing) (joint : Joint pairing) :
    Concurs joint (valueType? rules) (valueType? rules) (pairing.Reads joint.stop.first) := by
  refine concurs_peek (fun _ _ => rfl) fun token? _ => ?_
  have absent : Concurs joint (pure none) (pure none) (pairing.Reads joint.stop.first : Option Expr → _) :=
    concurs_pure (.none (Nat.le_refl _))
  split
  · exact absent
  · exact absent
  · exact absent
  · exact absent
  · exact (concurs_typeExpr paired joint).bind fun _ _ _ _ covers => concurs_pure covers.behind.some

theorem specRead_values {names : List String} {type? type?' : Option Expr} {values values' : List Expr} {low : Nat}
    {middle stop : Place} (type : pairing.Reads low type? type?' middle)
    (atValues : pairing.Reads middle.first values values' stop) :
    SpecRead pairing (fun spec comment => { spec with comment }) low (⟨names, type?, values, none⟩ : ValueSpec)
      ⟨names, type?', values', none⟩ stop := by
  have commented (comment? comment?' : Option Comment) (moves : pairing.Moves comment? comment?') :
      pairing.Reads low (⟨names, type?, values, comment?⟩ : ValueSpec) ⟨names, type?', values', comment?'⟩ stop := by
    have parts := type.pair (atValues.pair (.ofMoves moves (elim_none _) (Nat.le_refl _)))
    exact parts.build (.valueSpec names)
  exact ⟨commented none none .none, commented⟩

theorem concurs_valueSpec (paired : rules.Paired pairing) (joint : Joint pairing) :
    Concurs joint (valueSpec rules) (valueSpec rules)
      (SpecRead pairing (fun spec comment => { spec with comment }) joint.stop.first) := by
  refine (concurs_names joint).bind fun names _ next le fills => ?_
  cases fills.reads.moves.names_eq
  refine (concurs_valueType? paired next).bind fun type? type?' later _ type => ?_
  have type := type.since le
  refine concurs_eatMark (fun read le _ => ?_) (concurs_pure (specRead_values type (.nil (Nat.le_refl _))))
  refine (concurs_exprList paired read).bind fun _ _ _ _ fills => concurs_pure ?_
  exact specRead_values type (fills.behind.since le)

theorem concurs_grouped {α : Type} [Located α] {spec : Parser α} {withComment : α → Option Comment → α}
    (reads : ∀ joint : Joint pairing, Concurs joint spec spec (SpecRead pairing withComment joint.stop.first))
    (joint : Joint pairing) :
    Concurs joint (grouped spec withComment) (grouped spec withComment) fun found found' stop =>
      pairing.Reads joint.stop.first found.1 found'.1 stop ∧ found'.2 = found.2 := by
  refine concurs_eatMark (fun read le _ => ?_) ?_
  · refine (concurs_linesUntil .rparen fun joint => ?_).bind fun specs specs' _ _ specs => ?_
    · refine (reads joint).bind fun spec spec' last _ read => concurs_lastEnd ?_
      refine concurs_trailingComment (Pairing.level_joint last) fun comment? comment?' after same moves => ?_
      have commented := read.commented _ _ moves
      rw [← same] at commented
      exact concurs_pure commented
    · exact concurs_expectMark.bind fun _ _ _ later _ => concurs_pure ⟨specs.mono le later, rfl⟩
  · exact (reads joint).bind fun _ _ _ _ read => concurs_pure ⟨read.reads.single, rfl⟩

theorem concurs_typeDecl (paired : rules.Paired pairing) {word : Keyword}
    (peeked : joint.first.peek = some (.keyword word)) :
    Concurs joint (typeDecl rules) (typeDecl rules) (pairing.Fills joint.start) := by
  refine (concurs_skip peeked rfl).bind fun _ _ next _ took => ?_
  refine (concurs_grouped (concurs_typeSpec paired) next).bind ?_
  rintro ⟨specs, _⟩ ⟨specs', isGroup⟩ _ _ ⟨reads, rfl⟩
  exact concurs_pure ((took.spans.fills reads).build (.types isGroup))

theorem concurs_valueDecl (paired : rules.Paired pairing) (kind : ValueKind) {word : Keyword}
    (peeked : joint.first.peek = some (.keyword word)) :
    Concurs joint (valueDecl rules kind) (valueDecl rules kind) (pairing.Fills joint.start) := by
  refine (concurs_skip peeked rfl).bind fun _ _ next _ took => ?_
  refine (concurs_grouped (concurs_valueSpec paired) next).bind ?_
  rintro ⟨specs, _⟩ ⟨specs', isGroup⟩ _ _ ⟨reads, rfl⟩
  exact concurs_pure ((took.spans.fills reads).build (.values kind isGroup))

def SimpleRead (pairing : Pairing) (start : Place) : Simple → Simple → Place → Prop
  | .stmt stmt, .stmt stmt', stop => pairing.Covers start stmt stmt' stop
  | .range key? value? define expr, .range key?' value?' define' expr', stop =>
    define' = define ∧ pairing.Fills start (key?, value?, expr) (key?', value?', expr') stop
  | _, _, _ => False

theorem concurs_single {start : Place} {exprs exprs' : List Expr}
    (fills : pairing.Fills start exprs exprs' joint.stop) :
    Concurs joint (single exprs start.first) (single exprs' start.second) fun expr expr' stop =>
      pairing.Fills start expr expr' stop := by
  rcases exprs with _ | ⟨expr, _ | ⟨second, rest⟩⟩
  · cases fills.reads.moves.nil_inv
    exact concurs_failFrom fills.spans
  · obtain ⟨expr', rfl, alone⟩ := fills.reads.single_inv
    exact concurs_pure ⟨fills.spans, alone⟩
  · obtain ⟨_, _, rfl, -, rest⟩ := fills.reads.moves.cons_inv
    obtain ⟨_, _, rfl, -, -⟩ := rest.cons_inv
    exact concurs_failFrom fills.spans

theorem clear_both : Clear fun parts : (Expr × Expr) × Expr => (some parts.1.1, some parts.1.2, parts.2) where
  relocates _ _ := rfl
  ranges _ := by simp [extents, outlines]

theorem concurs_rangeClause (paired : rules.Paired pairing) {start : Place} {targets targets' : List Expr}
    {define : Bool} (spans : pairing.Spans start joint.stop)
    (reads : pairing.Reads start.first targets targets' joint.stop) :
    Concurs joint (rangeClause rules targets define start.first) (rangeClause rules targets' define start.second)
      (SimpleRead pairing start) := by
  refine (concurs_outerExpr paired joint).bind fun expr expr' after le covers => ?_
  have spans := after.spans spans le
  have expr := covers.behind
  rcases targets with _ | ⟨key, _ | ⟨value, _ | ⟨third, rest⟩⟩⟩
  · cases reads.moves.nil_inv
    refine concurs_pure ⟨rfl, spans, ?_⟩
    exact Pairing.Reads.pair (.none (Nat.le_refl _)) (.pair (.none (Nat.le_refl _)) (expr.since reads.le))
  · obtain ⟨key', rfl, key⟩ := reads.single_inv
    exact concurs_pure ⟨rfl, spans, key.some.pair (.pair (.none (Nat.le_refl _)) expr)⟩
  · obtain ⟨key', value', rfl, both⟩ := reads.double_inv
    exact concurs_pure ⟨rfl, spans, (both.pair expr).build clear_both⟩
  · obtain ⟨_, _, rfl, -, rest⟩ := reads.moves.cons_inv
    obtain ⟨_, _, rfl, -, rest⟩ := rest.cons_inv
    obtain ⟨_, _, rfl, -, -⟩ := rest.cons_inv
    exact concurs_failFrom spans

theorem concurs_range {β : Type} {goal : β → β → Place → Prop} {allowed : Bool} {next next' : Bool → Parser β}
    (yes : ∀ after : Joint pairing, joint.stop.first ≤ after.stop.first →
      pairing.Took (.keyword .range) joint.start after.stop → Concurs after (next true) (next' true) goal)
    (no : Concurs joint (next false) (next' false) goal) :
    Concurs joint ((pure allowed <&&> eatKeyword .range) >>= next) ((pure allowed <&&> eatKeyword .range) >>= next') goal := by
  cases allowed with
  | true => exact concurs_eatKeyword yes no
  | false => exact no

theorem concurs_assignment (paired : rules.Paired pairing) {rangeAllowed : Bool} {targets targets' : List Expr}
    {op : AssignOp} {start : Place} (fills : pairing.Fills start targets targets' joint.stop) :
    Concurs joint (assignment rules rangeAllowed targets op start.first)
      (assignment rules rangeAllowed targets' op start.second) (SimpleRead pairing start) := by
  refine concurs_pass.bind fun _ _ next le _ => concurs_range (fun read later _ => ?_) ?_
  · have fills := fills.upTo (Nat.le_trans le later)
    exact concurs_rangeClause paired fills.spans fills.reads
  · refine (concurs_exprList paired next).bind fun values values' _ _ more => ?_
    have both := (fills.pair (more.behind.since le)).build (.assign op)
    exact concurs_spanFrom both.spans (concurs_pure both.stmt)

theorem concurs_simpleOrRange (paired : rules.Paired pairing) (rangeAllowed : Bool) (joint : Joint pairing) :
    Concurs joint (simpleOrRange rules rangeAllowed) (simpleOrRange rules rangeAllowed) (SimpleRead pairing joint.start) := by
  refine concurs_start (concurs_range (fun read le took => ?_) ?_)
  · exact concurs_rangeClause paired took.spans (.nil (Nat.le_of_lt took.spans.less))
  · refine (concurs_exprList paired joint).bind fun exprs exprs' next _ fills => ?_
    refine concurs_peek (fun _ _ => rfl) fun token? _ => ?_
    split
    · exact concurs_assignment paired fills
    · refine concurs_pass.bind fun _ _ after le _ => (concurs_single (fills.upTo le)).bind fun _ _ _ _ fills => ?_
      exact concurs_spanFrom fills.spans (concurs_pure (fills.build (.incDec true)).stmt)
    · refine concurs_pass.bind fun _ _ after le _ => (concurs_single (fills.upTo le)).bind fun _ _ _ _ fills => ?_
      exact concurs_spanFrom fills.spans (concurs_pure (fills.build (.incDec false)).stmt)
    · refine concurs_pass.bind fun _ _ after le _ => (concurs_single (fills.upTo le)).bind fun _ _ atValue _ fills => ?_
      refine (concurs_outerExpr paired atValue).bind fun _ _ _ _ covers => ?_
      have both := (fills.pair covers.behind).build .send
      exact concurs_spanFrom both.spans (concurs_pure both.stmt)
    · refine (concurs_single fills).bind fun _ _ _ _ fills => ?_
      exact concurs_spanFrom fills.spans (concurs_pure (fills.build .expr).stmt)

theorem concurs_simple (paired : rules.Paired pairing) : Wholes pairing (simple rules) := by
  refine fun joint => (concurs_simpleOrRange paired false joint).bind fun found found' after _ read => ?_
  cases found with
  | stmt stmt =>
    cases found' with
    | stmt stmt' => exact concurs_pure read
    | range _ _ _ _ => cases read
  | range key? value? define expr =>
    cases found' with
    | stmt stmt' => cases read
    | range key?' value?' define' expr' =>
      obtain ⟨node, span⟩ := expr
      have ranges : ⟨span, node.outline.name?, extents node⟩ ∈ extents (key?, value?, (⟨node, span⟩ : Expr)) := by
        have here := extents_expr node span
        rw [extents] at here
        simp [extents, outlines_pair, here]
      obtain ⟨start, stop, range, aligned, bounded⟩ := read.2.reads.nested.range_of_mem ranges
      exact concurs_fail ⟨start, stop, range, Nat.le_of_lt aligned.less, Nat.le_trans bounded after.stop_le_size.1⟩

structure ListRead (pairing : Pairing) (low : Nat) (found found' : List Stmt × List AnchoredComment) (stop : Place) :
    Prop where
  stmts : pairing.Reads low found.1 found'.1 stop
  comments : pairing.Moves found.2 found'.2

theorem moves_anchored {comments comments' : List Comment} (anchor : Anchor) (moves : pairing.Moves comments comments') :
    pairing.Moves (anchored anchor comments) (anchored anchor comments') := by
  have commutes (place : Span → Span) (comments : List Comment) :
      relocate place (anchored anchor comments) = anchored anchor (relocate place comments) := by
    simp [relocate, anchored, AnchoredComment.relocate]
  exact ⟨by rw [commutes, moves.kept], by rw [commutes, moves.moved]⟩

theorem ListRead.closing {low : Nat} {stmts stmts' : List Stmt} {comments comments' : List AnchoredComment}
    {closing closing' : List Comment} {stop : Place}
    (read : ListRead pairing low (stmts, comments) (stmts', comments') stop)
    (moves : pairing.Moves closing closing') :
    ListRead pairing low (stmts, comments ++ anchored .atEnd closing) (stmts', comments' ++ anchored .atEnd closing') stop :=
  ⟨read.stmts, read.comments.append (moves_anchored .atEnd moves)⟩

theorem concurs_listed {stmt : Parser Stmt} {index : Nat} (whole : Wholes pairing stmt) (joint : Joint pairing) :
    Concurs joint (listed stmt index) (listed stmt index) fun found found' stop =>
      pairing.Reads joint.stop.first found.1 found'.1 stop ∧ pairing.Moves found.2 found'.2 := by
  refine concurs_start (concurs_commentsBefore (Pairing.parts_start joint) fun leading leading' next _ same first => ?_)
  refine (whole next).bind fun stmt stmt' last _ covers => ?_
  have ends := covers.stop?_eq
  rw [span_stmt, span_stmt] at ends
  rw [ends.1, ends.2]
  have level := covers.spans.level
  refine concurs_commentsBefore level.parts fun inner inner' after _ same' second => ?_
  refine concurs_trailingComment level fun comment? comment?' final same'' third => concurs_pure ⟨?_, ?_⟩
  · rw [same'', same', ← same]
    exact covers.behind
  · exact (moves_anchored _ (first.append second)).append (moves_anchored _ third.toList)

theorem concurs_stmtList (paired : rules.Paired pairing) (joint : Joint pairing) :
    Concurs joint (stmtList rules) (stmtList rules) (ListRead pairing joint.stop.first) := by
  refine concurs_phrase ?_
  refine concurs_loop (ListRead pairing joint.stop.first) ?_ ⟨.nil (Nat.le_refl _), .nil⟩
  rintro ⟨stmts, comments⟩ ⟨stmts', comments'⟩ after - read
  refine concurs_peek (fun _ _ => rfl) fun _ _ => concurs_ite (fun _ => concurs_pure read) fun _ => ?_
  refine concurs_eatSemicolon (fun next later => concurs_pure ⟨read.stmts.upTo later, read.comments⟩) ?_
  rw [show stmts'.length = stmts.length from read.stmts.moves.length_eq]
  refine (concurs_listed paired.stmt after).bind ?_
  rintro ⟨stmt, taken⟩ ⟨stmt', taken'⟩ next - ⟨reads, moves⟩
  have more : ListRead pairing joint.stop.first (stmts ++ [stmt], comments ++ taken)
      (stmts' ++ [stmt'], comments' ++ taken') next.stop :=
    ⟨read.stmts.append reads.single, read.comments.append moves⟩
  refine concurs_peek (fun _ _ => rfl) fun _ _ => concurs_ite (fun _ => concurs_pure more) fun _ => ?_
  exact concurs_lineEnd.bind fun _ _ _ later _ => concurs_pure ⟨more.stmts.upTo later, more.comments⟩

theorem concurs_blockStmts (paired : rules.Paired pairing) (joint : Joint pairing) :
    Concurs joint (blockStmts rules) (blockStmts rules) (pairing.Fills joint.start) := by
  refine concurs_expectMark.bind ?_
  rintro _ _ next _ ⟨took, rfl, rfl⟩
  refine (concurs_stmtList paired next).bind ?_
  rintro ⟨stmts, comments⟩ ⟨stmts', comments'⟩ atBrace le read
  refine concurs_start (concurs_commentsBefore (Pairing.parts_start atBrace) ?_)
  intro closing closing' after same same' moves
  refine concurs_expectMark.bind ?_
  rintro _ _ last later ⟨brace, rfl, rfl⟩
  rw [same] at brace ⊢
  obtain ⟨merged, merged'⟩ := took.spans.merge brace.spans (Nat.le_trans le atBrace.stop_le_start.1)
  rw [merged, merged']
  obtain ⟨reads, comments⟩ := read.closing moves
  rw [same'] at later
  have fills := (took.spans.fills (reads.upTo later)).enclosed
  have parts := fills.reads.pair (.ofMoves comments (flatMap_none _) (Nat.le_refl _))
  exact concurs_pure ⟨fills.spans, parts.build .block⟩

/-- The head of a clause and its statements, with a range around both. -/
structure ClauseRead {γ : Type} [Located γ] (pairing : Pairing) (start : Place) (head head' : γ) (block block' : Block)
    (stop : Place) : Prop where
  fills : pairing.Fills start (⟨(head, block.stmts), block.span⟩ : Enclosed (γ × List Stmt))
    ⟨(head', block'.stmts), block'.span⟩ stop
  comments : pairing.Moves block.comments block'.comments

theorem concurs_clauseBody (paired : rules.Paired pairing) {γ : Type} [Located γ] {start : Place} {head head' : γ}
    (fills : pairing.Fills start head head' joint.stop) :
    Concurs joint (clauseBody rules start.first) (clauseBody rules start.second) (ClauseRead pairing start head head') := by
  refine (concurs_stmtList paired joint).bind ?_
  rintro ⟨stmts, comments⟩ ⟨stmts', comments'⟩ next _ read
  have whole := (fills.pair read.stmts).enclosed
  have close {closing closing' : List Comment} {after : Joint pairing} (same : after.stop = next.stop)
      (moves : pairing.Moves closing closing') :
      Concurs after (do return (⟨stmts, comments ++ anchored .atEnd closing, ← spanFrom start.first⟩ : Block))
        (do return (⟨stmts', comments' ++ anchored .atEnd closing', ← spanFrom start.second⟩ : Block))
        (ClauseRead pairing start head head') := by
    rw [← same] at whole
    exact concurs_spanFrom whole.spans (concurs_pure ⟨whole, (read.closing moves).comments⟩)
  refine concurs_atMark fun _ => concurs_ite (fun _ => concurs_start ?_) fun _ => close rfl .nil
  exact concurs_commentsBefore (Pairing.parts_start next) fun _ _ _ _ same moves => close same moves

theorem concurs_simple? (paired : rules.Paired pairing) {β : Type} {goal : β → β → Place → Prop} {test : Prop}
    [Decidable test] {next next' : Option Stmt → Parser β} {low : Nat} (le : low ≤ joint.stop.first)
    (then' : ∀ stmt? stmt?' (after : Joint pairing), pairing.Reads low stmt? stmt?' after.stop →
      Concurs after (next stmt?) (next' stmt?') goal) :
    Concurs joint (if test then pure none >>= next else (some <$> simple rules) >>= next)
      (if test then pure none >>= next' else (some <$> simple rules) >>= next') goal :=
  concurs_either (pairing.Reads low) (fun _ => concurs_pure (.none le))
    (fun _ => ((concurs_simple paired joint).mono fun _ _ _ _ covers => (covers.behind.since le).some).map)
    fun _ _ _ _ reads => then' _ _ _ reads

theorem reads_node {low : Nat} {stop : Place} {node : Stmt.Node} {span : Span} {other : Stmt}
    (reads : pairing.Reads low (⟨node, span⟩ : Stmt) other stop) :
    pairing.Reads low node (relocate pairing.moved node) stop := by
  have nested := reads.nested
  rw [Clear.stmt.ranges ⟨node, span⟩, extents_enclosed] at nested
  exact ⟨⟨(Stmt.mk.inj reads.moves.kept).1, rfl⟩, nested.inside⟩

theorem reads_condition {low : Nat} {stop : Place} {cond : Expr} {span : Span} {other : Stmt}
    (reads : pairing.Reads low (⟨.expr cond, span⟩ : Stmt) other stop) :
    pairing.Reads low cond (relocate pairing.moved cond) stop :=
  .unbuild .expr (fun _ _ => Stmt.Node.expr.inj) (reads_node reads)

theorem concurs_ifHeader (paired : rules.Paired pairing) (joint : Joint pairing) :
    Concurs joint (ifHeader rules) (ifHeader rules) (pairing.Reads joint.stop.first) := by
  refine concurs_atSemicolon fun _ => concurs_simple? paired (Nat.le_refl _) fun first? first?' next first => ?_
  refine concurs_eatSemicolon (fun read later => ?_) ?_
  · refine (concurs_outerExpr paired read).bind fun _ _ _ _ covers => concurs_pure ?_
    exact first.pair (covers.behind.since later)
  · cases first? with
    | none =>
      cases first.moves.none_inv
      exact concurs_unexpected
    | some stmt =>
      obtain ⟨_, rfl, reads⟩ := first.some_inv
      cases reads.moves.moved
      obtain ⟨node, span⟩ := stmt
      cases node with
      | expr cond =>
        exact concurs_pure (Pairing.Reads.pair (.none (Nat.le_refl _)) (reads_condition reads))
      | _ => exact concurs_unexpected

theorem concurs_elseBranch (paired : rules.Paired pairing) : Wholes pairing (elseBranch rules) := by
  refine fun joint => concurs_peek (fun _ _ => rfl) fun token? _ => ?_
  split
  · exact paired.ifElse joint
  · refine concurs_start ((concurs_blockStmts paired joint).bind fun _ _ _ _ fills => ?_)
    exact concurs_stmt (fills.build .blockStmt)
  · exact concurs_unexpected

theorem concurs_ifStmt (paired : rules.Paired pairing) : Wholes pairing (ifStmt rules) := by
  refine fun joint => concurs_start (concurs_expectKeyword.bind fun _ _ next _ ⟨took, _⟩ => ?_)
  refine concurs_bind (pairing.Reads next.stop.first) (concurs_atLevel (concurs_ifHeader paired _)) ?_
  rintro ⟨init?, cond⟩ ⟨init?', cond'⟩ atBody _ header
  refine (concurs_blockStmts paired atBody).bind fun body body' after _ fills => ?_
  have close {else? else?' : Option Stmt} {last : Joint pairing}
      (reads : pairing.Reads after.stop.first else? else?' last.stop) :
      Concurs last (do return ⟨.ifElse init? cond body else?, ← spanFrom joint.start.first⟩)
        (do return ⟨.ifElse init?' cond' body' else?', ← spanFrom joint.start.second⟩)
        (pairing.Covers (α := Stmt) joint.start) :=
    concurs_stmt ((took.spans.fills (header.pair (fills.behind.pair reads))).build .ifElse)
  refine concurs_eatKeyword (fun atElse later _ => ?_) (close (.none (Nat.le_refl _)))
  refine concurs_bind (pairing.Reads after.stop.first) (.map ?_) fun _ _ _ _ reads => close reads
  exact (concurs_elseBranch paired atElse).mono fun _ _ _ _ covers => (covers.behind.since later).some

def LoopRead (pairing : Pairing) (low : Nat) : LoopHeader → LoopHeader → Place → Prop
  | .clauses init? cond? post?, .clauses init?' cond?' post?', stop =>
    pairing.Reads low (init?, cond?, post?) (init?', cond?', post?') stop
  | .range key? value? define expr, .range key?' value?' define' expr', stop =>
    define' = define ∧ pairing.Reads low (key?, value?, expr) (key?', value?', expr') stop
  | _, _, _ => False

theorem concurs_forClauses (paired : rules.Paired pairing) {first? first?' : Option Stmt} {before : Place}
    (first : pairing.Reads before.first first? first?' joint.stop) :
    Concurs joint (forClauses rules first?) (forClauses rules first?') (LoopRead pairing before.first) := by
  refine concurs_eatSemicolon (fun read later => concurs_atSemicolon fun _ => ?_) ?_
  · refine concurs_either (pairing.Reads joint.stop.first) (fun _ => concurs_pure (.none later)) (fun _ => .map ?_) ?_
    · exact (concurs_outerExpr paired read).mono fun _ _ _ _ covers => (covers.behind.since later).some
    intro cond? cond?' after _ cond
    refine concurs_expectSemicolon.bind fun _ _ atPost later _ => concurs_atMark fun _ => ?_
    refine concurs_simple? paired later fun post? post?' last post => concurs_pure ?_
    exact first.pair (cond.pair post)
  · cases first? with
    | none =>
      cases first.moves.none_inv
      exact concurs_unexpected
    | some stmt =>
      obtain ⟨_, rfl, reads⟩ := first.some_inv
      cases reads.moves.moved
      obtain ⟨node, span⟩ := stmt
      cases node with
      | expr cond =>
        refine concurs_pure (Pairing.Reads.pair (.none (Nat.le_refl _)) ?_)
        exact (reads_condition reads).some.pair (.none (Nat.le_refl _))
      | _ => exact concurs_unexpected

theorem concurs_forHeader (paired : rules.Paired pairing) (joint : Joint pairing) :
    Concurs joint (forHeader rules) (forHeader rules) (LoopRead pairing joint.stop.first) := by
  refine concurs_atMark fun _ => concurs_ite (fun _ => concurs_pure ?_) fun _ => concurs_atSemicolon fun _ => ?_
  · exact Pairing.Reads.pair (.none (Nat.le_refl _)) (.pair (.none (Nat.le_refl _)) (.none (Nat.le_refl _)))
  refine concurs_ite (fun _ => concurs_forClauses paired (.none (Nat.le_refl _))) fun _ => ?_
  refine (concurs_simpleOrRange paired true joint).bind fun found found' after _ read => ?_
  cases found with
  | stmt first =>
    cases found' with
    | stmt first' => exact concurs_forClauses paired read.behind.some
    | range _ _ _ _ => cases read
  | range key? value? define expr =>
    cases found' with
    | stmt first' => cases read
    | range key?' value?' define' expr' => exact concurs_pure ⟨read.1, read.2.behind⟩

theorem concurs_forStmt (paired : rules.Paired pairing) : Wholes pairing (forStmt rules) := by
  refine fun joint => concurs_start (concurs_expectKeyword.bind fun _ _ next _ ⟨took, _⟩ => ?_)
  refine concurs_bind (LoopRead pairing next.stop.first) (concurs_atLevel (concurs_forHeader paired _)) ?_
  intro header header' atBody later read
  refine (concurs_blockStmts paired atBody).bind fun body body' last later' fills => ?_
  refine concurs_spanFrom (last.spans took.spans (Nat.le_trans later later')) ?_
  cases header with
  | clauses init? cond? post? =>
    cases header' with
    | clauses init?' cond?' post?' =>
      exact concurs_pure ((took.spans.fills (Pairing.Reads.pair read fills.behind)).build .forLoop).stmt
    | range _ _ _ _ => cases read
  | range key? value? define expr =>
    cases header' with
    | clauses _ _ _ => cases read
    | range key?' value?' define' expr' =>
      obtain ⟨rfl, read⟩ := read
      exact concurs_pure ((took.spans.fills (read.pair fills.behind)).build (.rangeLoop _)).stmt

theorem concurs_switchHeader (paired : rules.Paired pairing) (joint : Joint pairing) :
    Concurs joint (switchHeader rules) (switchHeader rules) fun found found' stop =>
      ∃ middle, pairing.Reads joint.stop.first found.1 found'.1 middle ∧
        pairing.Reads middle.first found.2 found'.2 stop := by
  refine concurs_atMark fun _ => concurs_ite (fun _ => ?_) fun _ => concurs_atSemicolon fun _ => ?_
  · exact concurs_pure ⟨joint.stop, .none (Nat.le_refl _), .none (Nat.le_refl _)⟩
  refine concurs_simple? paired (Nat.le_refl _) fun first? first?' next first => ?_
  refine concurs_eatSemicolon (fun read later => concurs_atMark fun _ => ?_) ?_
  · refine concurs_ite (fun _ => concurs_pure ⟨next.stop, first, .none later⟩) fun _ => ?_
    refine (concurs_simple paired read).bind fun _ _ _ _ covers => concurs_pure ?_
    exact ⟨next.stop, first, (covers.behind.since later).some⟩
  · exact concurs_pure ⟨joint.stop, .none (Nat.le_refl _), first⟩

theorem concurs_caseExprs (paired : rules.Paired pairing) (joint : Joint pairing) :
    Concurs joint (caseExprs rules) (caseExprs rules) (pairing.Fills joint.start) := by
  refine concurs_peek (fun _ _ => rfl) fun token? peeked => ?_
  split
  · refine (concurs_skip peeked rfl).bind fun _ _ next _ took => (concurs_exprList paired next).mono ?_
    exact fun _ _ _ _ fills => took.spans.fills fills.behind
  · refine (concurs_skip peeked rfl).bind fun _ _ next _ took => concurs_pure ?_
    exact took.spans.fills (.nil (Nat.le_refl _))
  · exact concurs_unexpected

theorem concurs_caseClause (paired : rules.Paired pairing) : ReadsOn pairing (caseClause rules) := by
  refine fun joint => concurs_start ((concurs_caseExprs paired joint).bind fun exprs exprs' next _ fills => ?_)
  refine concurs_expectMark.bind fun _ _ atBody later _ => ?_
  refine (concurs_clauseBody paired (fills.upTo later)).bind ?_
  rintro ⟨stmts, comments, span⟩ ⟨stmts', comments', span'⟩ last _ read
  have parts := read.fills.behind.pair (.ofMoves read.comments (flatMap_none _) (Nat.le_refl _))
  exact concurs_pure (parts.build .caseClause)

theorem concurs_clauses {α : Type} [Located α] {clause : Parser α} (reads : ReadsOn pairing clause) :
    ReadsOn pairing (clauses clause) := by
  refine fun joint => concurs_expectMark.bind fun _ _ next le _ => ?_
  refine concurs_bind (pairing.Reads joint.stop.first) (concurs_loop (pairing.Reads joint.stop.first) ?_ (.nil le)) ?_
  · intro found found' after _ met
    refine concurs_atMark fun _ => concurs_ite (fun _ => concurs_pure met) fun _ => ?_
    exact (reads after).bind fun _ _ _ _ more => concurs_pure (met.append more.single)
  · exact fun _ _ _ _ reads => concurs_expectMark.bind fun _ _ _ later _ => concurs_pure (reads.upTo later)

theorem reads_assigned {low : Nat} {stop : Place} {target value : Expr} {op : AssignOp} {span : Span} {other : Stmt}
    (reads : pairing.Reads low (⟨.assign [target] op [value], span⟩ : Stmt) other stop) :
    pairing.Reads low value (relocate pairing.moved value) stop := by
  have parts : pairing.Reads low ([target], [value]) _ stop :=
    .unbuild (.assign op) (fun _ _ same => by simpa [Prod.ext_iff] using same) (reads_node reads)
  obtain ⟨_, same, alone⟩ := parts.snd.single_inv
  cases same
  exact alone

theorem reads_guarded {low : Nat} {stop : Place} {tag base : Expr} {other : Expr} (guard : guarded? tag = some base)
    (reads : pairing.Reads low tag other stop) : pairing.Reads low base (relocate pairing.moved base) stop := by
  unfold guarded? at guard
  split at guard
  · rename_i span
    cases guard
    have nested := reads.nested
    rw [extents_expr] at nested
    have node : pairing.Reads low (Expr.Node.typeAssert base none) _ stop :=
      ⟨⟨(Expr.mk.inj reads.moves.kept).1, rfl⟩, nested.inside⟩
    have parts : pairing.Reads low (base, none) _ stop :=
      .unbuild .typeAssert (fun _ _ same => by simpa [Prod.ext_iff] using same) node
    exact parts.fst
  · cases guard

theorem concurs_switchNode {start before middle : Place} {after : Joint pairing} {init? init?' header? header?' : Option Stmt}
    {clauses clauses' : List CaseClause} (spans : pairing.Spans start before)
    (init : pairing.Reads before.first init? init?' middle) (header : pairing.Reads middle.first header? header?' after.stop)
    (reads : pairing.Reads after.stop.first clauses clauses' joint.stop) :
    Concurs joint (switchNode start.first init? header? clauses) (switchNode start.second init?' header?' clauses')
      (pairing.Fills start) := by
  have whole := joint.spans spans (Nat.le_trans (init.pair header).le reads.le)
  cases header? with
  | none =>
    cases header.moves.none_inv
    have tag : pairing.Reads middle.first (none : Option Expr) none after.stop := .none header.le
    exact concurs_pure ((spans.fills (init.pair (tag.pair reads))).build .switch)
  | some stmt =>
    obtain ⟨_, rfl, found⟩ := header.some_inv
    cases found.moves.moved
    obtain ⟨node, span⟩ := stmt
    cases node with
    | expr tag =>
      have tagged := reads_condition found
      simp only [switchNode, relocate, Stmt.relocate, Stmt.Node.relocate, guarded?_relocate]
      cases guard : guarded? tag with
      | none => exact concurs_pure ((spans.fills (init.pair (tagged.some.pair reads))).build .switch)
      | some base =>
        exact concurs_pure ((spans.fills (init.pair ((reads_guarded guard tagged).pair reads))).build (.typeSwitch none))
    | assign targets op values =>
      rcases targets with _ | ⟨⟨target, inner⟩, _ | _⟩
      · exact concurs_failFrom whole
      · cases op with
        | define =>
          rcases values with _ | ⟨value, _ | _⟩
          · exact concurs_failFrom whole
          · have assigned := reads_assigned found
            simp only [switchNode, relocate, Stmt.relocate, Stmt.Node.relocate, relocateExprs, guarded?_relocate]
            cases guard : guarded? value with
            | none => exact concurs_failFrom whole
            | some base =>
              cases target with
              | ident name =>
                have parts := init.pair ((reads_guarded guard assigned).pair reads)
                exact concurs_pure ((spans.fills parts).build (.typeSwitch (some name)))
              | _ => exact concurs_failFrom whole
          · exact concurs_failFrom whole
        | _ => exact concurs_failFrom whole
      · exact concurs_failFrom whole
    | _ => exact concurs_failFrom whole

theorem concurs_switchStmt (paired : rules.Paired pairing) : Wholes pairing (switchStmt rules) := by
  refine fun joint => concurs_start (concurs_expectKeyword.bind fun _ _ next _ ⟨took, _⟩ => ?_)
  refine concurs_bind (fun found found' stop => ∃ middle, pairing.Reads next.stop.first found.1 found'.1 middle ∧
    pairing.Reads middle.first found.2 found'.2 stop) (concurs_atLevel (concurs_switchHeader paired _)) ?_
  rintro ⟨init?, header?⟩ ⟨init?', header?'⟩ atClauses _ ⟨middle, init, header⟩
  refine (concurs_clauses (concurs_caseClause paired) atClauses).bind fun clauses clauses' after _ reads => ?_
  exact (concurs_switchNode took.spans init header reads).bind fun _ _ _ _ fills => concurs_stmt fills

theorem concurs_comm? (paired : rules.Paired pairing) (joint : Joint pairing) :
    Concurs joint (comm? rules) (comm? rules) (pairing.Fills joint.start) := by
  refine concurs_peek (fun _ _ => rfl) fun token? peeked => ?_
  split
  · refine (concurs_skip peeked rfl).bind fun _ _ next _ took => (concurs_simple paired next).bind ?_
    exact fun _ _ _ _ covers => concurs_pure (took.spans.fills covers.behind.some)
  · refine (concurs_skip peeked rfl).bind fun _ _ next _ took => concurs_pure ?_
    exact took.spans.fills (.none (Nat.le_refl _))
  · exact concurs_unexpected

theorem concurs_commClause (paired : rules.Paired pairing) : ReadsOn pairing (commClause rules) := by
  refine fun joint => concurs_start ((concurs_comm? paired joint).bind fun comm? comm?' next _ fills => ?_)
  refine concurs_expectMark.bind fun _ _ atBody later _ => ?_
  refine (concurs_clauseBody paired (fills.upTo later)).bind ?_
  rintro ⟨stmts, comments, span⟩ ⟨stmts', comments', span'⟩ last _ read
  have parts := read.fills.behind.pair (.ofMoves read.comments (flatMap_none _) (Nat.le_refl _))
  exact concurs_pure (parts.build .commClause)

theorem concurs_selectStmt (paired : rules.Paired pairing) : Wholes pairing (selectStmt rules) := by
  refine fun joint => concurs_start (concurs_expectKeyword.bind fun _ _ next _ ⟨took, _⟩ => ?_)
  refine (concurs_clauses (concurs_commClause paired) next).bind fun _ _ _ _ reads => ?_
  exact concurs_stmt ((took.spans.fills reads).build .select)

theorem moves_branch (kind : BranchKind) (label? : Option String) {low : Nat} {stop : Place} (le : low ≤ stop.first) :
    pairing.Reads low (Stmt.Node.branch kind label?) (.branch kind label?) stop :=
  ⟨⟨rfl, rfl⟩, .nil le⟩

theorem moves_empty {low : Nat} {stop : Place} (le : low ≤ stop.first) :
    pairing.Reads low Stmt.Node.empty .empty stop :=
  ⟨⟨rfl, rfl⟩, .nil le⟩

theorem concurs_labeledInner (paired : rules.Paired pairing) {start : Place} (spans : pairing.Spans start joint.stop) :
    Concurs joint (labeledInner rules start.first) (labeledInner rules start.second)
      (pairing.Reads start.first) := by
  refine concurs_atMark fun _ => concurs_ite (fun _ => ?_) fun _ => ?_
  · have empty := Pairing.Fills.stmt ⟨spans, moves_empty (Nat.le_of_lt spans.less)⟩
    exact concurs_spanFrom spans (concurs_pure empty.reads)
  · exact (paired.stmt joint).mono fun _ _ _ _ covers => covers.behind.since (Nat.le_of_lt spans.less)

theorem concurs_labeled (paired : rules.Paired pairing) (joint : Joint pairing) :
    Concurs joint (labeled rules joint.start.first) (labeled rules joint.start.second) (pairing.Fills joint.start) := by
  refine concurs_name.bind ?_
  rintro _ label next _ ⟨rfl, took⟩
  refine concurs_expectMark.bind fun _ _ after later _ => ?_
  have spans := after.spans took.spans later
  refine (concurs_labeledInner paired spans).bind fun _ _ last later reads => concurs_pure ?_
  exact ⟨last.spans spans later, reads.build (.labeled label)⟩

theorem concurs_results (paired : rules.Paired pairing) : ReadsOn pairing (results rules) := by
  refine fun joint => concurs_peek (fun _ _ => rfl) fun token? _ => ?_
  have none : Concurs joint (pure []) (pure []) (pairing.Reads (α := List Expr) joint.stop.first) :=
    concurs_pure (.nil (Nat.le_refl _))
  split
  · exact none
  · exact none
  · exact none
  · exact (concurs_exprList paired joint).mono fun _ _ _ _ fills => fills.behind

theorem concurs_branch (kind : BranchKind) {word : Keyword} (peeked : joint.first.peek = some (.keyword word)) :
    Concurs joint (branch kind) (branch kind) (pairing.Fills joint.start) := by
  refine (concurs_skip peeked rfl).bind fun _ _ next _ took => concurs_atIdent fun _ => ?_
  refine concurs_either (fun label? label?' _ => label?' = label?) (fun _ => ?_) (fun _ => concurs_pure rfl) ?_
  · exact (concurs_name.mono fun _ _ _ _ ⟨same, _⟩ => by rw [same]).map
  · rintro _ label? last later rfl
    exact concurs_pure (took.spans.fills (moves_branch kind label? later))

theorem concurs_plainNode? (paired : rules.Paired pairing) {token? : Option Token} {rule : Parser Stmt.Node}
    (peeked : joint.first.peek = token?) (found : plainNode? rules token? = some rule) :
    Concurs joint rule rule (pairing.Fills joint.start) := by
  unfold plainNode? at found
  split at found
  · cases found
    exact ((concurs_valueDecl paired .var peeked).mono fun _ _ _ _ fills => fills.build .decl).map
  · cases found
    exact ((concurs_valueDecl paired .const peeked).mono fun _ _ _ _ fills => fills.build .decl).map
  · cases found
    exact ((concurs_typeDecl paired peeked).mono fun _ _ _ _ fills => fills.build .decl).map
  · cases found
    refine (concurs_skip peeked rfl).bind fun _ _ next _ took => (concurs_outerExpr paired next).bind ?_
    exact fun _ _ _ _ covers => concurs_pure ((took.spans.fills covers.behind).build .go)
  · cases found
    refine (concurs_skip peeked rfl).bind fun _ _ next _ took => (concurs_outerExpr paired next).bind ?_
    exact fun _ _ _ _ covers => concurs_pure ((took.spans.fills covers.behind).build .defer)
  · cases found
    refine (concurs_skip peeked rfl).bind fun _ _ next _ took => (concurs_results paired next).bind ?_
    exact fun _ _ _ _ reads => concurs_pure ((took.spans.fills reads).build .ret)
  · cases found
    exact concurs_branch _ peeked
  · cases found
    exact concurs_branch _ peeked
  · cases found
    exact concurs_branch _ peeked
  · cases found
    refine (concurs_skip peeked rfl).bind fun _ _ next _ took => concurs_pure ?_
    exact took.spans.fills (moves_branch _ _ (Nat.le_refl _))
  · cases found
    exact ((concurs_blockStmts paired joint).mono fun _ _ _ _ fills => fills.build .blockStmt).map
  · cases found

theorem concurs_stmtRule (paired : rules.Paired pairing) : Wholes pairing (stmtRule rules) := by
  refine fun joint => concurs_start (concurs_peek (fun _ _ => rfl) fun token? peeked => ?_)
  split
  · exact concurs_ifStmt paired joint
  · exact concurs_forStmt paired joint
  · exact concurs_switchStmt paired joint
  · exact concurs_selectStmt paired joint
  · refine concurs_peekAfter (fun _ _ => rfl) fun _ => concurs_ite (fun _ => ?_) fun _ => ?_
    · exact (concurs_labeled paired joint).bind fun _ _ _ _ fills => concurs_stmt fills
    · split
      · rename_i found
        exact (concurs_plainNode? paired peeked found).bind fun _ _ _ _ fills => concurs_stmt fills
      · exact concurs_simple paired joint

end Rules

end GoSpecs
