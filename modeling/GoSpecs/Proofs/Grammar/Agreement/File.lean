import GoSpecs.Proofs.Grammar.Agreement.Statements
import GoSpecs.Proofs.Layout.Glyphs

namespace GoSpecs

abbrev ImportSpec.Twins := GoSpecs.Twins ImportSpec.erase fun _ => True

abbrev Item.Twins := GoSpecs.Twins Item.erase fun item => item.decl.WellFormed

abbrev SourceFile.Twins := GoSpecs.Twins SourceFile.erase SourceFile.WellFormed

namespace Rules

open GoSpecs.Parser GoSpecs.Part

attribute [local simp] ofDecl ofImport ofNames ofReceiver_eq ofOptBlock_eq ofFields_eq ofFile

variable {bound : Nat} {rules rules' : Rules}

theorem read_alias {cursor : Cursor} {text : String} (peeked : cursor.peek = some (.ident text)) :
    Read cursor cursor.advance (ofNames ([text].filter (· != "."))) := by
  have read : Read cursor cursor.advance [.word (.ident text)] := .word peeked rfl rfl fun _ => rfl
  by_cases dot : text = "."
  · subst dot
    exact ⟨fun genuine => (Token.dot_not_genuine (genuine _ (Cursor.mem_words peeked rfl))).elim, read.notes⟩
  · simpa [dot] using read

theorem agrees_importAlias? :
    Agrees bound 0 ⟨Eq, fun alias? => ofNames (alias?.toList.filter (· != "."))⟩ importAlias? importAlias? := by
  refine agrees_peek fun token? => ?_
  split
  · exact AgreesAt.loose (AgreesAt.skip (agrees_pure rfl (by simp)) rfl)
  · exact AgreesAt.loose (AgreesAt.take (fun _ => read_alias) (agrees_pure rfl rfl))
  · exact AgreesFrom.at (agrees_pure rfl (by simp))

theorem agrees_importSpec : Agrees bound 1 ⟨ImportSpec.Twins, ofImport⟩ importSpec importSpec := by
  refine agrees_importAlias?.equal fun alias? => agrees_of_succ fun bound => agrees_get fun cursor cursor' alike => ?_
  simp only [← alike.peek]
  generalize cursor.peek = token?
  split
  · rename_i text
    refine AgreesAt.word (.path (trimQuotes text)) ?_ rfl rfl fun _ => ⟨text, rfl, rfl⟩
    refine agrees_ite (fun _ => agrees_fail) fun _ => agrees_lastEnd.any fun _ _ => ?_
    exact agrees_trailingComment.bind fun _ _ _ => agrees_pure ⟨rfl, trivial⟩ (by simp)
  · exact agrees_unexpected.at

theorem agrees_importDecl : Agrees bound 1 .decl importDecl importDecl := by
  refine (agrees_expectKeyword _).past fun _ _ => (agrees_eatMark _).given fun paren => ?_
  refine agrees_ite (fun _ => ?_) fun _ => ?_
  · refine (agrees_linesUntil _ agrees_importSpec).bind fun specs specs' each => (agrees_expectMark _).any fun _ _ => ?_
    exact agrees_pure ⟨by simp [(twins_list each).same], by simp [ImportGroup.WellFormed]⟩ (by simp)
  · refine agrees_importSpec.bind fun spec spec' both => agrees_pure ⟨?_, fun _ => ⟨spec, rfl⟩⟩ (by simp)
    have same : spec.erase = spec'.erase := both.same
    simpa using same

theorem agrees_receiver? (nested : Nested bound rules rules') :
    Agrees (bound + 1) 0 (.option .field) (Rules.receiver? rules) (Rules.receiver? rules') := by
  refine agrees_get fun cursor cursor' _ => AgreesFrom.at ?_
  refine (agrees_atMark _).given fun paren => agrees_ite (fun _ => ?_) fun _ => agrees_pure .none (by simp)
  refine (agrees_params (agrees_typeExpr nested)).bind fun fields fields' both => ?_
  match both.each with
  | .nil => exact agrees_fail
  | .cons same .nil => exact agrees_pure (.some same) (by simp)
  | .cons _ (.cons _ _) => exact agrees_fail

theorem agrees_funcDecl (nested : Nested bound rules rules') :
    Agrees (bound + 1) 1 .decl (funcDecl rules) (funcDecl rules') := by
  refine (agrees_expectKeyword _).eat fun _ _ _ => (agrees_receiver? nested).below.bind fun _ _ atReceiver => ?_
  refine agrees_ident.bind fun found found' same => (agrees_atMark _).given fun bracket => ?_
  obtain ⟨name, span⟩ := found
  obtain ⟨name', span'⟩ := found'
  change name = name' at same
  subst same
  have type := (agrees_typeExpr nested).below
  refine agrees_either ParamTwins.kind (agrees_typeParams type).loose (agrees_pure ⟨.nil, .inl (by simp)⟩ (by simp))
    fun _ _ both => ?_
  refine (agrees_signature type).bind fun _ _ type => (agrees_atMark _).given fun brace => ?_
  refine agrees_when (agrees_body nested) fun _ _ atBody => agrees_pure ?_ (by simp)
  have receiver := twins_option atReceiver
  have params := twins_list both.each
  have body := twins_option atBody
  refine ⟨by simpa using ⟨receiver.same, params.same, type.same, body.same⟩, ?_⟩
  simpa using ⟨receiver.good, params.good, both.uniform, type.good, body.good⟩

theorem agrees_topLevel (nested : Nested bound rules rules') :
    Agrees (bound + 1) 1 .decl (topLevel rules) (topLevel rules') := by
  refine agrees_peek fun token? => ?_
  split
  · exact agrees_importDecl.at
  · exact (agrees_funcDecl nested).at
  · exact agrees_typeDecl nested rfl
  · exact agrees_valueDecl nested .var rfl
  · exact agrees_valueDecl nested .const rfl
  · exact agrees_unexpected.at

theorem agrees_item (nested : Nested bound rules rules') :
    Agrees (bound + 1) 1 ⟨Item.Twins, ofItem⟩ (item rules) (item rules') := by
  refine agrees_start.any fun _ _ => agrees_commentsBefore.bind fun _ _ _ => ?_
  refine (agrees_topLevel nested).last fun _ _ decl => agrees_spanFrom.any fun _ _ => ?_
  refine agrees_commentsBefore.bind fun _ _ _ => agrees_trailingComment.bind fun _ _ _ => ?_
  refine AgreesFrom.gathered (agrees_pure ⟨by simp [decl.same], decl.good⟩ rfl) ?_ ?_
  · simp [ofItem]
  · simp only [ofItem, Kind.notes, Kind.note, Kind.decl, notes_append, ofNotes_append]
    abel

theorem agrees_items (nested : Nested bound rules rules') :
    Agrees (bound + 1) 0 (.each ⟨Item.Twins, ofItem⟩) (items rules) (items rules') := by
  refine agrees_loop (.each ⟨Item.Twins, ofItem⟩) (by simp) .nil fun items items' each =>
    agrees_peeked.given fun token? => ?_
  refine agrees_ite (fun _ => agrees_pure (.done each) (by simp)) fun _ => ?_
  refine agrees_eatSemicolon.given fun found => agrees_ite (fun _ => agrees_pure (.again each) (by simp)) fun _ => ?_
  refine (agrees_item nested).bind fun _ _ same => agrees_lineEnd.any fun _ _ => ?_
  exact agrees_pure (.again (each_concat each same)) (by simp)

theorem takes_remainingComments : TakesComments ofNotes remainingComments := by
  intro cursor
  simp only [remainingComments, yields_bind, yields_get, yields_set, yields_pure]
  refine ⟨_, rfl, fun _ => ⟨[], rfl, ?_⟩, ?_⟩
  · simp
  · simp

theorem agrees_file (nested : Nested bound rules rules') :
    Agrees (bound + 1) 0 ⟨SourceFile.Twins, ofFile⟩ (file rules) (file rules') := by
  refine agrees_start.any fun _ _ => agrees_commentsBefore.bind fun _ _ _ => (agrees_expectKeyword _).any fun _ _ => ?_
  refine agrees_name.equal fun package => agrees_spanFrom.any fun _ _ => agrees_lineEnd.any fun _ _ => ?_
  refine (agrees_items nested).bind fun items items' each => ?_
  refine (takes_remainingComments.agrees takes_remainingComments).bind fun _ _ _ => ?_
  refine agrees_get fun _ _ _ => AgreesFrom.at (agrees_pure ?_ (by simp))
  have all := twins_list each
  exact ⟨by simp [SourceFile.erase, all.same], all.good⟩

/-- The items of a file are all that is left to read. -/
theorem items_end (rules : Rules) (start : Cursor) : Ensures (items rules) start fun _ after => after.rest = [] := by
  simp only [Ensures, items, yields_loop]
  refine @ensures_iterate _ _ _ _ (fun _ _ => True) ?_ _ _ _ trivial
  intro found cursor _
  simp only [Ensures, yields_bind, yields_peek]
  split
  · rename_i atEnd
    exact yields_pure.mpr (by simpa [Cursor.peek] using atEnd)
  · rw [yields_bind]
    refine ensures_of_all fun eaten cursor => ?_
    split
    · exact yields_pure.mpr trivial
    · simp only [yields_bind, yields_pure]
      exact ensures_of_all fun _ _ => ensures_of_all fun _ _ => trivial

theorem file_end (rules : Rules) (start : Cursor) :
    Ensures (file rules) start fun _ after => after.rest = [] ∧ after.comments = [] := by
  simp only [Ensures, file, remainingComments, yields_phrase, yields_bind, yields_start, yields_spanFrom, yields_get,
    yields_set, yields_pure]
  refine ensures_of_all fun _ _ => ensures_of_all fun _ _ => ensures_of_all fun _ _ => ensures_of_all fun _ _ => ?_
  exact (items_end rules _).mono fun _ _ atEnd => ⟨atEnd, trivial⟩

theorem Nested.next (nested : Nested bound rules rules') : Nested (bound + 1) rules.next rules'.next where
  type := agrees_typeExpr nested
  binary := agrees_binaryExpr nested
  unary := agrees_unaryExpr nested
  elided := agrees_composite nested .none
  block := agrees_blockStmts nested
  stmt := agrees_stmtRule nested
  ifElse := agrees_ifStmt nested

theorem nested_zero (rules rules' : Rules) : Nested 0 rules rules' := by
  constructor <;> intros <;> intro _ _ _ fewer <;> exact absurd fewer (Nat.not_lt_zero _)

/-- As many layers as there are tokens ahead are enough, and more change nothing. -/
theorem nested_ofDepth {depth depth' : Nat} (enough : bound ≤ depth) (enough' : bound ≤ depth') :
    Nested bound (ofDepth depth) (ofDepth depth') := by
  induction bound generalizing depth depth' with
  | zero => exact nested_zero _ _
  | succ bound ih =>
    obtain ⟨depth, rfl⟩ := Nat.exists_eq_succ_of_ne_zero (Nat.ne_of_gt (Nat.lt_of_lt_of_le (Nat.succ_pos bound) enough))
    obtain ⟨depth', rfl⟩ := Nat.exists_eq_succ_of_ne_zero (Nat.ne_of_gt (Nat.lt_of_lt_of_le (Nat.succ_pos bound) enough'))
    exact (ih (Nat.le_of_succ_le_succ enough) (Nat.le_of_succ_le_succ enough')).next

end Rules

namespace SourceFile

open GoSpecs.Parser

/-- Only the tokens that are no comments tell whether there is a file and what its tree is. -/
theorem twins_ofLexemes (source source' : List Char) {lexemes lexemes' : List Lexeme}
    (same : Lexeme.significant lexemes = Lexeme.significant lexemes') :
    Option.Rel SourceFile.Twins (ofLexemes source lexemes).toOption (ofLexemes source' lexemes').toOption := by
  have alike : (Cursor.ofLexemes lexemes source).Alike (Cursor.ofLexemes lexemes' source') := ⟨same, rfl⟩
  have count : (lexemes.filter (!·.token.isComment)).length ≤ lexemes.length := List.length_filter_le _ _
  have count' : (lexemes.filter (!·.token.isComment)).length ≤ lexemes'.length := by
    have sizes : (lexemes.filter (!·.token.isComment)).length = (lexemes'.filter (!·.token.isComment)).length := by
      simpa [Lexeme.significant] using congrArg List.length same
    rw [sizes]
    exact List.length_filter_le _ _
  have nested := Rules.nested_ofDepth (Nat.le_succ_of_le count) (Nat.le_succ_of_le count')
  exact Meet.results (Rules.agrees_file nested _ _ alike (Nat.lt_succ_self _))

end SourceFile

end GoSpecs
