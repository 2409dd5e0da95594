import GoSpecs.Grammar.File
import GoSpecs.Proofs.Grammar.Places.Statements

namespace GoSpecs

open Located

namespace Rules

open GoSpecs.Parser

variable {pairing : Pairing} {joint : Joint pairing} {rules : Rules}

theorem concurs_importAlias? (joint : Joint pairing) :
    Concurs joint importAlias? importAlias? fun alias? alias?' _ => alias?' = alias? := by
  refine concurs_peek (fun _ _ => rfl) fun token? _ => ?_
  split
  · exact concurs_advance rfl
  · exact concurs_advance rfl
  · exact concurs_pure rfl

theorem concurs_importSpec : ReadsOn pairing importSpec := by
  refine fun joint => (concurs_importAlias? joint).bind ?_
  rintro _ alias? next le rfl
  refine concurs_get ?_
  have failed {goal : ImportSpec → ImportSpec → Place → Prop} :
      Concurs next (unexpected .importPath) (unexpected .importPath) goal := concurs_unexpected
  rcases next.peek_cases with same | ⟨inserted, inserted', one, two⟩
  · rw [same]
    split
    · rename_i quoted peeked
      refine (concurs_skip peeked rfl).bind fun _ _ last later _ => concurs_ite (fun _ => ?_) fun _ => concurs_lastEnd ?_
      · exact concurs_fail next.span_bounds
      · refine concurs_trailingComment (Pairing.level_joint last) fun comment? comment?' after same moves => ?_
        have bare : pairing.Reads joint.stop.first comment? comment?' last.stop :=
          .ofMoves moves (elim_none _) (Nat.le_trans le later)
        rw [← same] at bare
        exact concurs_pure (bare.build (.importSpec alias? (trimQuotes quoted)))
    · exact failed
  · rw [one, two]
    exact failed

theorem concurs_importDecl (joint : Joint pairing) :
    Concurs joint importDecl importDecl (pairing.Fills joint.start) := by
  refine concurs_expectKeyword.bind fun _ _ next _ ⟨took, _⟩ => concurs_eatMark (fun read le _ => ?_) ?_
  · refine (concurs_linesUntil .rparen concurs_importSpec).bind fun specs specs' after _ reads => ?_
    refine concurs_expectMark.bind fun _ _ last later _ => concurs_pure ?_
    exact (took.spans.fills (reads.mono le later)).build (.imports true)
  · refine (concurs_importSpec next).bind fun spec spec' last _ reads => concurs_pure ?_
    exact (took.spans.fills reads.single).build (.imports false)

theorem concurs_receiver? (paired : rules.Paired pairing) : ReadsOn pairing (Rules.receiver? rules) := by
  refine fun joint => concurs_get (concurs_atMark fun _ => concurs_ite (fun _ => ?_) fun _ => ?_)
  · refine (concurs_params (concurs_typeExpr paired) joint).bind fun fields fields' after _ fills => ?_
    rcases fields with _ | ⟨field, _ | ⟨second, rest⟩⟩
    · cases fills.reads.moves.nil_inv
      exact concurs_fail joint.span_bounds
    · obtain ⟨field', rfl, alone⟩ := fills.behind.single_inv
      exact concurs_pure alone.some
    · obtain ⟨_, _, rfl, -, rest⟩ := fills.reads.moves.cons_inv
      obtain ⟨_, _, rfl, -, -⟩ := rest.cons_inv
      exact concurs_fail joint.span_bounds
  · exact concurs_pure (.none (Nat.le_refl _))

theorem concurs_funcDecl (paired : rules.Paired pairing) (joint : Joint pairing) :
    Concurs joint (funcDecl rules) (funcDecl rules) (pairing.Fills joint.start) := by
  refine concurs_expectKeyword.bind fun _ _ next _ ⟨func, _⟩ => ?_
  refine (concurs_receiver? paired next).bind fun receiver? receiver?' atName _ receiver => concurs_ident.bind ?_
  rintro _ _ atParams _ ⟨name, rfl, rfl, took⟩
  have named : pairing.Fills atName.start (⟨name, _⟩ : Enclosed String) ⟨name, _⟩ atParams.stop :=
    Pairing.Fills.enclosed ⟨took.spans, .ofMoves ⟨rfl, rfl⟩ rfl (Nat.le_of_lt took.spans.less)⟩
  refine concurs_atMark fun _ => concurs_either (pairing.Reads atParams.stop.first)
    (fun _ => (concurs_typeParams (concurs_typeExpr paired) atParams).mono fun _ _ _ _ fills => fills.behind)
    (fun _ => concurs_pure (.nil (Nat.le_refl _))) fun typeParams typeParams' atType _ params => ?_
  refine (concurs_signature (concurs_typeExpr paired) atType).bind fun type type' atBody _ type => ?_
  refine concurs_atMark fun _ => concurs_either (pairing.Reads atBody.stop.first)
    (fun _ => ((concurs_body paired atBody).mono fun _ _ _ _ fills => fills.behind.some).map)
    (fun _ => concurs_pure (.none (Nat.le_refl _))) fun body? body?' last _ body => concurs_pure ?_
  have parts := receiver.pair (named.behind.pair (params.pair (type.behind.pair body)))
  exact (func.spans.fills parts).build .func

theorem concurs_topLevel (paired : rules.Paired pairing) (joint : Joint pairing) :
    Concurs joint (topLevel rules) (topLevel rules) (pairing.Fills joint.start) := by
  refine concurs_peek (fun _ _ => rfl) fun token? peeked => ?_
  split
  · exact concurs_importDecl joint
  · exact concurs_funcDecl paired joint
  · exact concurs_typeDecl paired peeked
  · exact concurs_valueDecl paired .var peeked
  · exact concurs_valueDecl paired .const peeked
  · exact concurs_unexpected

theorem concurs_item (paired : rules.Paired pairing) : ReadsOn pairing (item rules) := by
  refine fun joint => concurs_start (concurs_commentsBefore (Pairing.parts_start joint) ?_)
  intro leading leading' next same same' above
  refine (concurs_topLevel paired next).bind fun decl decl' last _ fills => ?_
  rw [same] at fills
  have level := fills.spans.level
  refine concurs_spanFrom fills.spans (concurs_commentsBefore level.parts fun inner inner' after _ atLast within => ?_)
  refine concurs_trailingComment level fun comment? comment?' final atFinal moves => concurs_pure ?_
  have comments : pairing.Moves (leading ++ inner, comment?) (leading' ++ inner', comment?') :=
    (above.append within).pair moves
  have parts := fills.enclosed.behind.pair (.ofMoves comments (by simp [outlines]) (Nat.le_refl _))
  rw [atFinal, atLast]
  exact parts.build .item

theorem concurs_items (paired : rules.Paired pairing) : ReadsOn pairing (items rules) := by
  refine fun joint => concurs_loop (pairing.Reads joint.stop.first) ?_ (.nil (Nat.le_refl _))
  intro items items' after _ reads
  refine concurs_peek (fun _ _ => rfl) fun _ _ => concurs_ite (fun _ => concurs_pure reads) fun _ => ?_
  refine concurs_eatSemicolon (fun next later => concurs_pure (reads.upTo later)) ?_
  refine (concurs_item paired after).bind fun item item' next _ more => ?_
  exact concurs_lineEnd.bind fun _ _ _ later _ => concurs_pure ((reads.append more.single).upTo later)

/-- The same file was read from both sources. -/
structure FileRead (pairing : Pairing) (file file' : SourceFile) (stop : Place) : Prop where
  kept : file.relocate pairing.kept pairing.lines = file
  moved : file.relocate pairing.moved pairing.lines' = file'
  nested : GoSpecs.Nested pairing.lexemes 0 stop.first file.outline.extents

theorem concurs_file (paired : rules.Paired pairing) (joint : Joint pairing) :
    Concurs joint (file rules) (file rules) (FileRead pairing) := by
  refine concurs_start (concurs_commentsBefore (Pairing.parts_start joint) fun header header' next same _ above => ?_)
  refine concurs_expectKeyword.bind fun _ _ atName _ ⟨took, _⟩ => concurs_name.bind ?_
  rintro _ package last later ⟨rfl, _⟩
  rw [same] at took
  have spans := last.spans took.spans later
  refine concurs_spanFrom spans (concurs_lineEnd.bind fun _ _ atItems le _ => ?_)
  refine (concurs_items paired atItems).bind fun items items' after _ reads => ?_
  refine concurs_remainingComments fun trailing trailing' final atEnd below => concurs_get (concurs_pure ?_)
  have trees : items.map (·.outline) = outlines items := (outlines_eq_map (fun _ => rfl) items).symm
  refine ⟨?_, ?_, ?_⟩
  · change SourceFile.mk (relocate _ header) package (pairing.kept _) (relocate _ items) (relocate _ trailing) _ = _
    rw [above.kept, spans.kept_eq, reads.moves.kept, below.kept]
    rfl
  · change SourceFile.mk (relocate _ header) package (pairing.moved _) (relocate _ items) (relocate _ trailing) _ = _
    rw [above.moved, spans.moved_eq, reads.moves.moved, below.moved]
    rfl
  · rw [SourceFile.outline, Outline.extents_node, trees, atEnd]
    refine .cons (Nat.zero_le _) spans.aligned (by simp) (.nil (Nat.le_of_lt spans.less)) ?_
    exact (reads.since le).nested

theorem paired_exhausted : exhausted.Paired pairing where
  type joint := concurs_get (concurs_fail joint.span_bounds)
  binary _ joint := concurs_get (concurs_fail joint.span_bounds)
  unary joint := concurs_get (concurs_fail joint.span_bounds)
  elided joint := concurs_get (concurs_fail joint.span_bounds)
  block joint := concurs_get (concurs_fail joint.span_bounds)
  stmt joint := concurs_get (concurs_fail joint.span_bounds)
  ifElse joint := concurs_get (concurs_fail joint.span_bounds)

theorem Paired.next (paired : rules.Paired pairing) : rules.next.Paired pairing where
  type := concurs_typeExpr paired
  binary := concurs_binaryExpr paired
  unary := concurs_unaryExpr paired
  elided _ := concurs_composite paired rfl rfl fun fills => ⟨fills.spans, .pair (.none (Nat.le_refl _)) fills.reads⟩
  block := concurs_blockStmts paired
  stmt := concurs_stmtRule paired
  ifElse := concurs_ifStmt paired

theorem paired_ofDepth (depth : Nat) : (ofDepth depth).Paired pairing := by
  induction depth with
  | zero => exact paired_exhausted
  | succ depth ih => exact ih.next

end Rules

end GoSpecs
