import GoSpecs.Proofs.Grammar.Trace.Statements

namespace GoSpecs

namespace Rules

open GoSpecs.Parser

variable {bound rank : Nat} {spot : Spot} {traced : Rules Traced} {rules : Rules}

theorem Followed.next (nested : Followed bound traced rules) : Followed (bound + 1) traced.next rules.next where
  type := readable_typeExpr nested
  binary := readable_binaryExpr nested
  unary := readable_unaryExpr nested
  elided _ _ := follows_composite nested
  block := readable_blockStmts nested
  stmt := readable_stmtRule nested
  ifElse := readable_ifStmt nested

theorem not_open_zero : ¬spot.Open 0 rank :=
  fun opened => Nat.not_lt_zero _ opened.fewer

theorem followed_zero : Followed 0 traced rules where
  type _ _ opened _ := absurd opened not_open_zero
  binary _ _ _ opened _ := absurd opened not_open_zero
  unary _ _ opened _ := absurd opened not_open_zero
  elided _ _ opened _ _ := absurd opened not_open_zero
  block _ _ opened _ _ := absurd opened not_open_zero
  stmt _ _ opened _ _ := absurd opened not_open_zero
  ifElse _ _ opened _ _ := absurd opened not_open_zero

/-- As many layers as there are tokens are enough, and more make no difference. -/
theorem followed_layered {depth depth' : Nat} (enough : bound ≤ depth) (enough' : bound ≤ depth') :
    Followed bound (layered depth) (layered depth') := by
  induction bound generalizing depth depth' with
  | zero => exact followed_zero
  | succ bound ih =>
    obtain ⟨depth, rfl⟩ := Nat.exists_eq_succ_of_ne_zero (Nat.ne_zero_of_lt enough)
    obtain ⟨depth', rfl⟩ := Nat.exists_eq_succ_of_ne_zero (Nat.ne_zero_of_lt enough')
    exact (ih (Nat.le_of_succ_le_succ enough) (Nat.le_of_succ_le_succ enough')).next

theorem follows_importAlias? : Reads 0 spot importAlias? importAlias? := by
  refine follows_peek fun token? => ?_
  split
  · exact follows_skip.bind fun _ => follows_pure rfl
  · exact follows_skip.bind fun _ => follows_pure rfl
  · exact follows_pure rfl

theorem readable_importSpec : Readable bound .importSpec importSpec importSpec := by
  refine readable_plain rfl fun spot opened => follows_importAlias?.bind fun _ => follows_get fun cursor _ => ?_
  generalize cursor.peek = token?
  split
  · refine follows_skip.last fun _ => follows_ite (fun _ => follows_fail nofun) fun _ => ?_
    exact follows_lastEnd.bind fun _ => follows_trailingComment.bind fun _ => follows_pure rfl
  · exact follows_unexpected

theorem readable_importDecl : Readable bound .importDecl importDecl importDecl := by
  refine readable_plain rfl fun spot opened => (follows_expectKeyword _).eat fun some _ => ?_
  have opened := opened.onward some
  refine (follows_eatMark _).test (fun some => ?_) ((readable_importSpec opened rfl).bind fun _ => follows_pure rfl)
  refine (follows_linesUntil _ (readable_importSpec (opened.onward some) rfl)).bind fun _ => ?_
  exact (follows_expectMark _).bind fun _ => follows_pure rfl

variable (nested : Followed bound traced rules)

include nested

theorem follows_receiver? (opened : spot.Open (bound + 1) Phrase.ranks) :
    Reads 0 spot (Rules.receiver? traced) (Rules.receiver? rules) := by
  refine follows_look id fun _ => (follows_atMark _).bind fun _ => follows_ite (fun _ => ?_) fun _ => follows_pure rfl
  refine (readable_params (readable_typeExpr nested) opened rfl).bind fun _ => ?_
  split
  · exact follows_pure rfl
  · exact follows_fail nofun

theorem readable_funcDecl : Readable (bound + 1) .funcDecl (funcDecl traced) (funcDecl rules) := by
  refine readable_plain rfl fun spot opened => (follows_expectKeyword _).eat fun some _ => ?_
  have type := readable_typeExpr nested
  have fewer := opened.next some
  refine (follows_receiver? nested fewer.up).bind fun _ => follows_ident.bind fun _ => ?_
  refine (follows_atMark _).bind fun _ => ?_
  refine follows_either (readable_typeParams type fewer.up rfl).loose (follows_pure rfl) fun _ => ?_
  refine (readable_signature type fewer.up rfl).bind fun _ => (follows_atMark _).bind fun _ => ?_
  exact follows_either (follows_body nested fewer.toRoomy).loose.map (follows_pure rfl) fun _ => follows_pure rfl

theorem readable_topLevel : ReadableFlat (bound + 1) .declaration (topLevel traced) (topLevel rules) := by
  intro spot rank opened zero fits
  refine follows_phrase opened.toRoomy fits (fun _ holds => holds.level.trans zero) (fun _ _ _ _ _ kept _ => kept)
    fun cursor holds => ?_
  have opened : (spot.inside .declaration cursor).Open (bound + 1) Phrase.declaration.rank :=
    ⟨opened.toRoomy.inside holds fits, zero.trans (Frame.level_outside rfl rfl).symm⟩
  refine follows_peek fun token? => ?_
  split
  · exact (readable_importDecl opened rfl).when
  · exact (readable_funcDecl nested opened rfl).when
  · exact follows_typeDecl nested opened rfl
  · exact follows_valueDecl nested opened rfl
  · exact follows_valueDecl nested opened rfl
  · exact follows_unexpected

theorem follows_item (opened : spot.Open (bound + 1) Phrase.file.rank) (zero : spot.level = 0) :
    Reads 1 spot (item traced) (item rules) := by
  refine follows_start.bind fun _ => follows_commentsBefore.bind fun _ => ?_
  refine (readable_topLevel nested opened zero rfl).last fun _ => follows_spanFrom.bind fun _ => ?_
  exact follows_commentsBefore.bind fun _ => follows_trailingComment.bind fun _ => follows_pure rfl

theorem follows_items (opened : spot.Open (bound + 1) Phrase.file.rank) (zero : spot.level = 0) :
    Reads 0 spot (items traced) (items rules) := by
  refine follows_loop fun _ => follows_peeked.bind fun _ => follows_ite (fun _ => follows_pure rfl) fun _ => ?_
  refine follows_eatSemicolon.test (fun _ => follows_pure rfl) ?_
  exact (follows_item nested opened zero).last fun _ => follows_lineEnd.bind fun _ => follows_pure rfl

theorem follows_file (opened : spot.Open (bound + 1) Phrase.ranks) (zero : spot.level = 0) :
    Reads 0 spot (file traced) (file rules) := by
  refine follows_plain opened rfl rfl fun inner opened same => ?_
  refine follows_start.bind fun _ => follows_commentsBefore.bind fun _ => (follows_expectKeyword _).bind fun _ => ?_
  refine follows_name.bind fun _ => follows_spanFrom.bind fun _ => follows_lineEnd.bind fun _ => ?_
  refine (follows_items nested opened (same.trans zero)).bind fun _ => follows_remainingComments.bind fun _ => ?_
  exact follows_look id fun _ => follows_pure rfl

end Rules

namespace SourceFile

open GoSpecs.Parser

/-- The run that reads a file with at most `depth` layers of nesting, and tells of it. -/
def trace (depth : Nat) (source : List Char) (lexemes : List Lexeme) : Telling SourceFile :=
  (Rules.file (Rules.layered depth) : Traced SourceFile) []
    (.ofLexemes lexemes source)

theorem told_trace (source : List Char) (lexemes : List Lexeme) {depth depth' : Nat} (enough : lexemes.length < depth)
    (enough' : lexemes.length < depth') :
    Told ((lexemes.length + 1) * Phrase.ranks) (fun _ => 0)
      (.ofLexemes lexemes source) (trace depth source lexemes)
      (Rules.file (Rules.ofDepth depth') (.ofLexemes lexemes source)) := by
  unfold trace
  generalize atStart : Cursor.ofLexemes lexemes source = start
  have count : start.rest.length ≤ lexemes.length := atStart ▸ List.length_filter_le _ _
  have zero : start.level = 0 := atStart ▸ rfl
  let spot : Spot := ⟨[], 0, start.rest.length, (lexemes.length + 1) * Phrase.ranks⟩
  have opened : spot.Open (start.rest.length + 1) Phrase.ranks := by
    refine ⟨⟨Nat.lt_succ_self _, (fun _ member => nomatch member), ?_⟩, rfl⟩
    change 0 + (start.rest.length * 12 + 12) ≤ (lexemes.length + 1) * 12
    omega
  have nested : Rules.Followed start.rest.length (Rules.layered depth) (Rules.layered depth') :=
    Rules.followed_layered (by omega) (by omega)
  exact Rules.follows_file nested opened rfl start ⟨zero, Nat.le_refl _⟩ trivial

theorem outcome_trace (source : List Char) (lexemes : List Lexeme) {depth : Nat} (enough : lexemes.length < depth) :
    Prod.fst <$> (trace depth source lexemes).2 = ofLexemes source lexemes := by
  rw [(told_trace source lexemes enough (Nat.lt_succ_self _)).same]
  rfl

/-- The level says how many brackets are open since the innermost function body, declaration or header, less one in a
header. No phrase leaves it changed, and statements begin at zero. So of the braces after a bare type name just those
directly in a header are left unread, and open no literal. -/
theorem level_counts_open_brackets (source : List Char) (lexemes : List Lexeme) :
    let run := trace (lexemes.length + 1) source lexemes
    Prod.fst <$> run.2 = ofLexemes source lexemes ∧
    (∀ phrase stack entry after, .leave phrase stack entry after ∈ run.1 → after.level = entry.level) ∧
    (∀ phrase stack cursor, .enter phrase stack cursor ∈ run.1 →
      (phrase ∈ [.stmt, .caseClause, .declaration] → cursor.level = 0) ∧
      (phrase = .expr → cursor.level = (Frame.openBrackets stack : Int) - if Frame.inHeader stack then 1 else 0)) ∧
    (∀ stack entry after, .leave (.brace true) stack entry after ∈ run.1 →
      (after = entry ↔ Frame.directlyInHeader stack)) ∧
    (∀ stack entry cursor, .enter .composite (⟨.brace true, entry⟩ :: stack) cursor ∈ run.1 →
      ¬Frame.directlyInHeader stack) := by
  intro run
  have told := told_trace source lexemes (Nat.lt_succ_self _) (Nat.lt_succ_self _)
  have leveled (event : Event) (member : event ∈ run.1) : event.Leveled := (told.proper event member).leveled
  refine ⟨outcome_trace source lexemes (Nat.lt_succ_self _), ?_, ?_, ?_, ?_⟩
  · intro phrase stack entry after member
    exact (leveled _ member).kept
  · intro phrase stack cursor member
    have here := leveled _ member
    refine ⟨fun atZero => ?_, fun isExpr => ?_⟩
    · simp only [List.mem_cons, List.not_mem_nil, or_false] at atZero
      rcases atZero with rfl | rfl | rfl <;> exact here
    · subst isExpr
      exact here
  · intro stack entry after member
    exact (leveled _ member).2.trans Frame.level_neg_iff
  · intro stack entry cursor member direct
    exact absurd (leveled _ member) (Int.not_le.mpr (Frame.level_neg_iff.mpr direct))

/-- The tokens of `package p; func f() { if a(T{}) == T {} }`. -/
def headed : List Lexeme :=
  [.keyword .package, .ident "p", .semicolon true, .keyword .func, .ident "f", .mark .lparen, .mark .rparen,
    .mark .lbrace, .keyword .if, .ident "a", .mark .lparen, .ident "T", .mark .lbrace, .mark .rbrace, .mark .rparen,
    .mark .eqEq, .ident "T", .mark .lbrace, .mark .rbrace, .mark .rbrace].map (⟨·, 0, 0⟩)

def isExprInHeader : Event → Bool
  | .enter .expr stack _ => Frame.directlyInHeader stack
  | _ => false

def isBraceInHeader : Event → Bool
  | .leave (.brace true) stack _ _ => Frame.directlyInHeader stack
  | _ => false

def isLiteral : Event → Bool
  | .enter .composite (⟨.brace true, _⟩ :: _) _ => true
  | _ => false

def isInner (outer : Phrase) : Event → Bool
  | .enter phrase stack _ => phrase = outer && stack.any (·.phrase = outer)
  | _ => false

def isAgain (wanted : Course) : Event → Bool
  | .again course _ _ => course = wanted
  | _ => false

theorem exists_mem_trace_headed :
    ∀ test ∈ [isExprInHeader, isBraceInHeader, isLiteral, isInner .expr, isAgain .tokens],
      ∃ event ∈ (trace (headed.length + 1) [] headed).1, test event := by
  decide

theorem level_counts_open_brackets_headed :
    let run := trace (headed.length + 1) [] headed
    (∃ stack cursor, .enter .expr stack cursor ∈ run.1 ∧ cursor.level = -1) ∧
    (∃ stack entry, .leave (.brace true) stack entry entry ∈ run.1 ∧ Frame.directlyInHeader stack) ∧
    (∃ stack entry cursor, .enter .composite (⟨.brace true, entry⟩ :: stack) cursor ∈ run.1 ∧
      ¬Frame.directlyInHeader stack) := by
  intro run
  obtain ⟨-, -, enters, braces, literals⟩ := level_counts_open_brackets [] headed
  refine ⟨?_, ?_, ?_⟩
  · obtain ⟨event, member, here⟩ := exists_mem_trace_headed isExprInHeader (by simp)
    unfold isExprInHeader at here
    split at here
    · rename_i stack cursor
      have direct := of_decide_eq_true here
      have level := (enters _ _ _ member).2 rfl
      rw [direct.1, direct.2] at level
      exact ⟨stack, cursor, member, level⟩
    · cases here
  · obtain ⟨event, member, here⟩ := exists_mem_trace_headed isBraceInHeader (by simp)
    unfold isBraceInHeader at here
    split at here
    · rename_i stack entry after
      have direct := of_decide_eq_true here
      obtain rfl := (braces _ _ _ member).mpr direct
      exact ⟨stack, _, member, direct⟩
    · cases here
  · obtain ⟨event, member, here⟩ := exists_mem_trace_headed isLiteral (by simp)
    unfold isLiteral at here
    split at here
    · exact ⟨_, _, _, member, literals _ _ _ member⟩
    · cases here

def isIdle : Event → Bool
  | .again .entries entry after => after.rest = entry.rest
  | _ => false

end SourceFile

end GoSpecs
