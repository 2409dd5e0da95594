import GoSpecs.Proofs.Grammar.Trace.Steps

namespace GoSpecs.Rules

open GoSpecs.Parser

variable {α : Type} {bound rank : Nat} {spot : Spot}

section

variable {type : Traced Expr} {type' : Parser Expr} (readable : Readable bound .type type type')

include readable

theorem readable_paramType : Readable bound .paramType (paramType type) (paramType type') := by
  refine readable_plain rfl fun spot opened => ?_
  refine follows_start.bind fun _ => (follows_eatMark _).test (fun some => ?_) (readable opened rfl)
  exact (readable (opened.onward some) rfl).bind fun _ => follows_spanFrom.bind fun _ => follows_pure rfl

theorem follows_paramEntry (opened : spot.Open bound Phrase.ranks) :
    Reads 1 spot (paramEntry type) (paramEntry type') := by
  have paramType := readable_paramType readable opened rfl
  refine follows_atIdent.bind fun _ => follows_ite (fun _ => (follows_peekAfter 1).bind fun _ => ?_) fun _ => ?_
  · split
    · exact follows_ident.last fun _ => follows_pure rfl
    · exact follows_ident.last fun _ => follows_pure rfl
    · exact (readable opened rfl).last fun _ => follows_pure rfl
    · exact follows_ident.last fun _ => paramType.bind fun _ => follows_pure rfl
  · exact paramType.last fun _ => follows_pure rfl

omit readable in
theorem follows_namedParams {start : Nat} {entries : List ParamEntry} :
    Reads 0 spot (namedParams start entries) (namedParams start entries) := by
  have mixed {α : Type} : Reads 0 spot (spanFrom start >>= fail .mixedParams : Traced α)
      (spanFrom start >>= fail .mixedParams) :=
    follows_spanFrom.bind fun _ => follows_fail nofun
  refine (follows_visit (fun state entry => ?_) ([], []) entries).bind fun state => ?_
  · obtain ⟨_ | name, _ | type⟩ := entry
    · exact mixed
    · exact mixed
    · exact follows_pure rfl
    · exact follows_pure rfl
  · exact follows_ite (fun _ => follows_pure rfl) fun _ => mixed

theorem readable_params : Readable bound .params (params type) (params type') := by
  refine readable_plain rfl fun spot opened => ?_
  refine follows_start.bind fun _ => (follows_expectMark _).eat fun some _ => ?_
  refine (follows_listUntil _ (follows_paramEntry readable (opened.onward some))).bind fun _ => ?_
  exact (follows_expectMark _).bind fun _ => follows_ite (fun _ => follows_namedParams) fun _ => follows_pure rfl

theorem readable_signature : Readable bound .signature (signature type) (signature type') := by
  refine readable_plain rfl fun spot opened => ?_
  have params := readable_params readable opened rfl
  refine params.last fun _ => (follows_atMark _).bind fun _ => follows_ite (fun _ => ?_) fun _ => ?_
  · exact params.bind fun _ => follows_pure rfl
  · refine follows_peeked.bind fun _ => follows_ite (fun _ => ?_) fun _ => follows_pure rfl
    exact (readable opened rfl).bind fun _ => follows_pure rfl

theorem readable_constraintTerm : Readable bound .constraintTerm (constraintTerm type) (constraintTerm type') := by
  refine readable_plain rfl fun spot opened => ?_
  refine follows_start.bind fun _ => (follows_eatMark _).test (fun some => ?_) (readable opened rfl)
  exact (readable (opened.onward some) rfl).bind fun _ => follows_spanFrom.bind fun _ => follows_pure rfl

theorem readable_constraint : Readable bound .constraint (constraint type) (constraint type') := by
  refine readable_plain rfl fun spot opened => ?_
  refine (readable_constraintTerm readable opened rfl).last fun _ => follows_loop fun _ => ?_
  refine (follows_eatMark _).test (fun some => ?_) (follows_pure rfl)
  exact (readable_constraintTerm readable (opened.onward some) rfl).bind fun _ => follows_pure rfl

theorem readable_typeParams : Readable bound .typeParams (typeParams type) (typeParams type') := by
  refine readable_plain rfl fun spot opened => ?_
  refine follows_start.bind fun _ => (follows_expectMark _).eat fun some _ => ?_
  refine (follows_listUntil _ ?_).bind fun _ => (follows_expectMark _).bind fun _ => ?_
  · refine follows_ident.last fun _ => (follows_atMark _).bind fun _ => (follows_atMark _).bind fun _ => ?_
    refine follows_ite (fun _ => follows_pure rfl) fun _ => ?_
    exact (readable_constraint readable (opened.onward some) rfl).bind fun _ => follows_pure rfl
  · split
    · exact follows_pure rfl
    · exact follows_spanFrom.bind fun _ => follows_fail nofun

omit readable in
theorem follows_atEmbedded : Reads 0 spot atEmbedded atEmbedded := by
  refine follows_peek fun token? => ?_
  split
  · exact follows_pure rfl
  · refine (follows_peekAfter 1).bind fun _ => ?_
    split <;> exact follows_pure rfl
  · exact follows_unexpected

omit readable in
theorem follows_tag? : Reads 0 spot tag? tag? := by
  refine follows_peek fun token? => ?_
  split
  · exact follows_skip.bind fun _ => follows_pure rfl
  · exact follows_pure rfl

theorem follows_structField (opened : spot.Open bound Phrase.ranks) :
    Reads 1 spot (structField type) (structField type') := by
  refine follows_atEmbedded.bind fun _ => ?_
  refine follows_either (follows_pure rfl) (follows_commaList follows_name).loose fun _ => ?_
  refine (readable opened rfl).last fun _ => follows_tag?.bind fun _ => follows_lastEnd.bind fun _ => ?_
  exact follows_trailingComment.bind fun _ => follows_pure rfl

theorem follows_interfaceElem (opened : spot.Open bound Phrase.ranks) :
    Reads 1 spot (interfaceElem type) (interfaceElem type') := by
  refine follows_atIdent.bind fun _ => (follows_peekAfter 1).bind fun _ => follows_ite (fun _ => ?_) fun _ => ?_
  · refine follows_name.last fun _ => follows_start.bind fun _ => ?_
    refine (readable_signature readable opened rfl).bind fun _ => ?_
    refine follows_spanFrom.bind fun _ => follows_lastEnd.bind fun _ => ?_
    exact follows_trailingComment.bind fun _ => follows_pure rfl
  · refine (readable_constraint readable opened rfl).last fun _ => follows_lastEnd.bind fun _ => ?_
    exact follows_trailingComment.bind fun _ => follows_pure rfl

omit readable in
theorem readable_braced {phrase : Phrase} {entry : Traced α} {entry' : Parser α}
    (plain : phrase.isPlain = true) (follows : ∀ spot, spot.Open bound Phrase.ranks → Reads 1 spot entry entry') :
    Readable bound phrase (MonadParser.phrase phrase (braced entry)) (MonadParser.phrase phrase (braced entry')) := by
  refine readable_plain plain fun spot opened => ?_
  refine (follows_expectMark _).eat fun some _ => ?_
  refine (follows_linesUntil _ (follows _ (opened.onward some))).bind fun _ => ?_
  exact (follows_expectMark _).bind fun _ => follows_pure rfl

theorem readable_structFields : Readable bound .structFields
    (MonadParser.phrase .structFields (braced (structField type)))
    (MonadParser.phrase .structFields (braced (structField type'))) :=
  readable_braced rfl fun _ => follows_structField readable

theorem readable_interfaceElems : Readable bound .interfaceElems
    (MonadParser.phrase .interfaceElems (braced (interfaceElem type)))
    (MonadParser.phrase .interfaceElems (braced (interfaceElem type'))) :=
  readable_braced rfl fun _ => follows_interfaceElem readable

theorem readable_typeArgs {base : Expr} {start : Nat} :
    Readable bound .typeArgs (typeArgs type base start) (typeArgs type' base start) := by
  refine readable_plain rfl fun spot opened => (follows_expectMark _).eat fun some _ => ?_
  have opened := opened.onward some
  refine (readable opened rfl).bind fun _ => (follows_loop fun _ => ?_).bind fun _ => ?_
  · refine (follows_eatMark _).test (fun some => (follows_atMark _).bind fun _ => ?_) (follows_pure rfl)
    refine follows_ite (fun _ => follows_pure rfl) fun _ => ?_
    exact (readable (opened.onward some) rfl).bind fun _ => follows_pure rfl
  · refine (follows_expectMark _).bind fun _ => follows_spanFrom.bind fun _ => ?_
    split <;> exact follows_pure rfl

end

theorem follows_typeName {start : Nat} : Reads 1 spot (typeName start) (typeName start) := by
  refine follows_ident.last fun _ => (follows_atMark _).bind fun _ => (follows_peekAfter 1).bind fun _ => ?_
  refine follows_ite (fun _ => follows_pass.bind fun _ => ?_) fun _ => follows_spanFrom.bind fun _ => follows_pure rfl
  exact follows_name.bind fun _ => follows_spanFrom.bind fun _ => follows_pure rfl

theorem readable_exprPhrase {rule : Traced Expr} {rule' : Parser Expr} (readable : Readable bound .binary rule rule') :
    Readable bound .expr (MonadParser.phrase .expr rule) (MonadParser.phrase .expr rule') :=
  fun _ _ opened fits => follows_phrase opened.toRoomy fits (fun _ holds => holds.level.trans opened.level)
    (fun _ _ _ _ _ kept _ => kept) fun _ holds => readable (opened.plain holds fits rfl rfl) rfl

/-- The rules for nested parts read them wherever there is room and fewer tokens than `bound` are ahead. -/
structure Followed (bound : Nat) (traced : Rules Traced) (rules : Rules) : Prop where
  type : Readable bound .type traced.type rules.type
  binary (least : Nat) : Readable bound .binary (traced.binary least) (rules.binary least)
  unary : Readable bound .unary traced.unary rules.unary
  elided ⦃spot : Spot⦄ ⦃rank : Nat⦄ : spot.Open bound rank → Phrase.composite.fits rank →
    (∀ cursor, (Event.enter .composite spot.stack cursor).Leveled) → Reads 1 spot traced.elided rules.elided
  block : ReadableFlat bound .block traced.block rules.block
  stmt : ReadableFlat bound .stmt traced.stmt rules.stmt
  ifElse : ReadableFlat bound .ifStmt traced.ifElse rules.ifElse

variable {traced : Rules Traced} {rules : Rules} (nested : Followed bound traced rules)

include nested

theorem readable_expr : Readable bound .expr traced.expr rules.expr :=
  readable_exprPhrase (nested.binary 1)

theorem follows_arrayLength (opened : spot.Open bound Phrase.ranks) :
    Reads 0 spot (arrayLength traced) (arrayLength rules) := by
  refine follows_bracket opened rfl rfl rfl fun inner opened => follows_get fun cursor _ => ?_
  generalize cursor.peek = token?
  split
  · exact follows_pure rfl
  · exact follows_skip.bind fun _ => follows_pure rfl
  · exact (readable_expr nested opened rfl).deeper.bind fun _ => follows_pure rfl

theorem follows_typeNode (opened : spot.Open (bound + 1) rank) : Reads 1 spot (typeNode traced) (typeNode rules) := by
  have type (some : 0 < spot.ahead) := nested.type (opened.next some) rfl
  refine follows_peek fun token? => ?_
  split
  · exact follows_skip.eat fun some _ => (type some).bind fun _ => follows_pure rfl
  · refine follows_skip.eat fun some _ => (type some).bind fun _ => (follows_expectMark _).bind fun _ => ?_
    exact follows_pure rfl
  · refine follows_skip.eat fun some _ => (follows_arrayLength nested (opened.next some)).bind fun _ => ?_
    exact (follows_expectMark _).bind fun _ => (type some).bind fun _ => follows_pure rfl
  · refine follows_skip.eat fun some _ => (follows_expectMark _).bind fun _ => (type some).bind fun _ => ?_
    exact (follows_expectMark _).bind fun _ => (type some).bind fun _ => follows_pure rfl
  · refine follows_skip.eat fun some _ => (follows_eatMark _).bind fun _ => (type some).bind fun _ => ?_
    exact follows_pure rfl
  · refine follows_skip.eat fun some _ => (follows_expectKeyword _).bind fun _ => (type some).bind fun _ => ?_
    exact follows_pure rfl
  · refine follows_skip.eat fun some _ => (readable_signature nested.type (opened.next some) rfl).bind fun _ => ?_
    exact follows_pure rfl
  · refine follows_skip.eat fun some _ => (readable_structFields nested.type (opened.next some) rfl).bind fun _ => ?_
    exact follows_pure rfl
  · refine follows_skip.eat fun some _ => (readable_interfaceElems nested.type (opened.next some) rfl).bind fun _ => ?_
    exact follows_pure rfl
  · exact follows_unexpected

theorem readable_typeExpr : Readable (bound + 1) .type (typeExpr traced) (typeExpr rules) := by
  refine readable_plain rfl fun spot opened => ?_
  refine follows_start.bind fun _ => follows_atIdent.bind fun _ => follows_ite (fun _ => ?_) fun _ => ?_
  · refine follows_typeName.eat fun some _ => (follows_atMark _).bind fun _ => ?_
    exact follows_ite (fun _ => (readable_typeArgs nested.type (opened.next some) rfl).loose) fun _ => follows_pure rfl
  · exact (follows_typeNode nested opened).last fun _ => follows_spanFrom.bind fun _ => follows_pure rfl

theorem readable_elementValue : Readable bound .elementValue (elementValue traced) (elementValue rules) := by
  intro spot rank opened fits
  refine follows_phrase opened.toRoomy fits (fun _ _ => trivial) (fun _ _ _ _ _ kept _ => kept) fun cursor holds => ?_
  have opened := opened.plain holds fits rfl rfl
  refine (follows_atMark _).bind fun _ => follows_ite (fun _ => ?_) fun _ => readable_expr nested opened rfl
  exact nested.elided opened rfl fun _ => trivial

theorem readable_element : Readable bound .element (element traced) (element rules) := by
  refine readable_plain rfl fun spot opened => (readable_elementValue nested opened rfl).last fun _ => ?_
  refine (follows_eatMark _).test (fun some => ?_) (follows_pure rfl)
  exact (readable_elementValue nested (opened.onward some) rfl).bind fun _ => follows_pure rfl

theorem follows_elements (opened : spot.Open bound Phrase.ranks) : Reads 0 spot (elements traced) (elements rules) := by
  refine follows_loop fun _ => (follows_atMark _).bind fun _ => follows_ite (fun _ => follows_pure rfl) fun _ => ?_
  refine (readable_element nested opened rfl).last fun _ => (follows_eatMark _).test (fun _ => ?_) (follows_pure rfl)
  refine follows_lastEnd.bind fun _ => follows_trailingLineComment.bind fun _ => ?_
  split <;> exact follows_pure rfl

theorem follows_composite {type? : Option Expr} (opened : spot.Open (bound + 1) rank)
    (fits : Phrase.composite.fits rank) (leveled : ∀ cursor, (Event.enter .composite spot.stack cursor).Leveled) :
    Reads 1 spot (composite traced type?) (composite rules type?) := by
  refine follows_phrase opened.toRoomy fits (fun cursor _ => leveled cursor) (fun _ _ _ _ _ kept _ => kept)
    fun cursor holds => ?_
  have opened := opened.bracket holds fits rfl
  refine follows_start.bind fun _ => (follows_expectMark _).eat fun some _ => ?_
  refine (follows_elements nested (opened.nextDeeper some)).deeper.bind fun _ => (follows_expectMark _).bind fun _ => ?_
  exact follows_spanFrom.bind fun _ => follows_pure rfl

theorem follows_arguments (opened : spot.Open bound Phrase.ranks) :
    Reads 0 spot (arguments traced) (arguments rules) := by
  refine (follows_listUntil _ ?_).bind fun _ => follows_pure rfl
  exact (readable_expr nested opened rfl).last fun _ => (follows_eatMark _).bind fun _ => follows_pure rfl

theorem readable_call {func : Expr} : Readable (bound + 1) .call (call traced func) (call rules func) := by
  refine readable_bracket rfl rfl fun spot opened => (follows_expectMark _).eat fun some _ => ?_
  refine (follows_arguments nested (opened.nextDeeper some)).deeper.bind fun _ => ?_
  exact (follows_expectMark _).bind fun _ => follows_spanFrom.bind fun _ => follows_pure rfl

theorem follows_bound (opened : spot.Open bound Phrase.ranks) :
    Reads 0 spot (Rules.bound traced) (Rules.bound rules) := by
  refine (follows_atMark _).bind fun _ => (follows_atMark _).bind fun _ => ?_
  refine follows_ite (fun _ => follows_pure rfl) fun _ => ?_
  exact (readable_expr nested opened rfl).bind fun _ => follows_pure rfl

theorem follows_sliced (opened : spot.Open bound Phrase.ranks) {low? : Option Expr} :
    Reads 0 spot (sliced traced low?) (sliced rules low?) := by
  have bounds : Reads 0 spot (upperBounds traced) (upperBounds rules) := by
    refine follows_loop fun _ => follows_ite (fun _ => ?_) fun _ => follows_pure rfl
    refine (follows_eatMark _).test (fun some => ?_) (follows_pure rfl)
    exact (follows_bound nested (opened.onward some)).bind fun _ => follows_pure rfl
  refine bounds.bind fun _ => ?_
  split
  · split
    · exact follows_pure rfl
    · exact follows_unexpected
  · exact follows_pure rfl
  · exact follows_pure rfl
  · exact follows_unexpected

theorem follows_bracketed (opened : spot.Open bound Phrase.ranks) :
    Reads 0 spot (bracketed traced) (bracketed rules) := by
  refine (follows_atMark _).bind fun _ => follows_ite (fun _ => follows_sliced nested opened) fun _ => ?_
  refine (readable_expr nested opened rfl).bind fun _ => (follows_atMark _).bind fun _ => ?_
  refine follows_ite (fun _ => ?_) fun _ => follows_sliced nested opened
  refine FollowsIf.map (follows_loop fun _ => (follows_eatMark _).test (fun some => ?_) (follows_pure rfl))
  refine (follows_atMark _).bind fun _ => follows_ite (fun _ => follows_pure rfl) fun _ => ?_
  exact (readable_expr nested (opened.onward some) rfl).bind fun _ => follows_pure rfl

theorem readable_indexOrSlice {base : Expr} :
    Readable (bound + 1) .indexOrSlice (indexOrSlice traced base) (indexOrSlice rules base) := by
  refine readable_bracket rfl rfl fun spot opened => (follows_expectMark _).eat fun some _ => ?_
  refine (follows_bracketed nested (opened.nextDeeper some)).deeper.bind fun _ => ?_
  refine (follows_expectMark _).bind fun _ => follows_spanFrom.bind fun _ => ?_
  split
  · exact follows_pure rfl
  · exact follows_pure rfl
  · exact follows_pure rfl
  · exact follows_pure rfl
  · exact follows_fail nofun

theorem follows_afterDot (opened : spot.Open (bound + 1) rank) {base : Expr} :
    Reads 1 spot (afterDot traced base) (afterDot rules base) := by
  refine (follows_expectMark _).eat fun some _ => ?_
  have opened := opened.onward some
  refine (follows_eatMark _).test (fun some => (follows_eatKeyword _).bind fun _ => ?_) ?_
  · refine follows_either (follows_pure rfl) (readable_typeExpr nested (opened.onward some) rfl).loose.map fun _ => ?_
    exact (follows_expectMark _).bind fun _ => follows_spanFrom.bind fun _ => follows_pure rfl
  · exact follows_name.bind fun _ => follows_spanFrom.bind fun _ => follows_pure rfl

section

omit nested

/-- A brace after no more than a type name is read unless the level is negative. -/
def leastAtBrace (bare : Bool) (level : Int) : Step Expr Expr → Nat
  | .again _ => 1
  | .done _ => if bare && decide (0 ≤ level) then 1 else 0

theorem least_le_leastAtBrace (bare : Bool) (level : Int) (step : Step Expr Expr) :
    Course.tokens.least step ≤ leastAtBrace bare level step := by
  cases step with
  | again => exact Nat.le_refl _
  | done => exact Nat.zero_le _

theorem neg_of_leastAtBrace {level : Int} {step : Step Expr Expr} (unread : leastAtBrace true level step = 0) :
    level < 0 := by
  cases step with
  | again => cases unread
  | done => simpa [leastAtBrace] using unread

theorem isLiteralType_of_isTypeName {expr : Expr} (bare : expr.isTypeName = true) : expr.isLiteralType = true := by
  unfold Expr.isLiteralType
  split
  · rfl
  · rfl
  · rfl
  · exact bare

/-- After a bare type name the level alone decides whether a brace opens a literal. -/
theorem opens_iff {expr : Expr} {level : Int} (bare : expr.isTypeName = true) :
    (expr.isLiteralType && (decide (0 ≤ level) || !expr.isTypeName)) = true ↔ 0 ≤ level := by
  simp [bare, isLiteralType_of_isTypeName bare]

theorem follows_brace {literal : Traced Expr} {literal' : Parser Expr} {expr : Expr} (opened : spot.Open bound rank)
    (reads : ∀ cursor, (spot.inside (.brace expr.isTypeName) cursor).Open bound 1 →
      (expr.isTypeName = true → 0 ≤ spot.level) →
        Reads 1 (spot.inside (.brace expr.isTypeName) cursor) literal literal')
    (fits : (Phrase.brace expr.isTypeName).fits rank) :
    Follows Course.tokens.least spot
      (MonadParser.phrase (.brace expr.isTypeName) do
        if expr.isLiteralType && (0 ≤ (← get).level || !expr.isTypeName) then
          return .again (← literal)
        else
          return .done expr)
      (MonadParser.phrase (.brace expr.isTypeName) do
        if expr.isLiteralType && (0 ≤ (← get).level || !expr.isTypeName) then
          return .again (← literal')
        else
          return .done expr) := by
  refine FollowsIf.weaken (follows_phrase opened.toRoomy fits (fun _ _ => trivial) ?_ fun cursor holds => ?_)
    (least_le_leastAtBrace expr.isTypeName spot.level)
  · intro cursor result after holds ran kept fewer
    cases bare : expr.isTypeName with
    | false => exact kept
    | true =>
      rw [bare] at fewer
      refine ⟨kept, fun unread => ?_, fun negative => ?_⟩
      · rw [unread] at fewer
        rw [← opened.level]
        have none : leastAtBrace true spot.level result = 0 := by omega
        exact neg_of_leastAtBrace none
      · change (if (expr.isLiteralType && (decide (0 ≤ cursor.level) || !expr.isTypeName)) = true then _ else
          (pure (Step.done expr) : Parser (Step Expr Expr))) cursor = _ at ran
        rw [if_neg (by rw [opens_iff bare, holds.level, opened.level]; omega)] at ran
        cases ran
        rfl
  · refine follows_get fun here holds' => follows_ite (fun taken => ?_) fun refused => follows_pure ?_
    · refine (reads cursor (opened.plain holds fits rfl rfl) fun bare => ?_).when.last fun _ => follows_pure rfl
      exact holds'.level ▸ (opens_iff bare).mp taken
    · cases bare : expr.isTypeName with
      | false => rfl
      | true =>
        have negative : ¬0 ≤ spot.level := holds'.level ▸ fun taken => refused ((opens_iff bare).mpr taken)
        simp [leastAtBrace, negative]

end

theorem follows_suffixes (opened : spot.Open (bound + 1) Phrase.ranks) {operand : Expr} :
    Reads 0 spot (suffixes traced operand) (suffixes rules operand) := by
  refine follows_plain opened rfl rfl fun inner opened _ => follows_loop fun expr => follows_peek fun token? => ?_
  split
  · exact (follows_afterDot nested opened).when.last fun _ => follows_pure rfl
  · exact (readable_indexOrSlice nested opened rfl).when.last fun _ => follows_pure rfl
  · exact (readable_call nested opened rfl).when.last fun _ => follows_pure rfl
  · refine (follows_brace opened (fun cursor inside taken => ?_) rfl).when
    refine follows_composite nested inside rfl fun _ => ?_
    cases bare : expr.isTypeName with
    | false => trivial
    | true => exact Int.le_trans (taken bare) (Int.le_of_eq opened.level)
  · exact follows_pure rfl

theorem follows_body (roomy : spot.Roomy bound Phrase.ranks) : Reads 1 spot (body traced) (body rules) := by
  refine follows_phrase roomy rfl (fun _ _ => trivial) (fun _ _ _ _ _ kept _ => kept) fun cursor holds => ?_
  exact Follows.atLevel (nested.block (roomy.scope holds rfl (Frame.level_outside rfl rfl)) rfl rfl)

theorem follows_funcOperand (opened : spot.Open (bound + 1) rank) {start : Nat} :
    Reads 1 spot (funcOperand traced start) (funcOperand rules start) := by
  refine (follows_expectKeyword _).eat fun some _ => ?_
  have opened := opened.next some
  refine (readable_signature nested.type opened rfl).bind fun _ => (follows_atMark _).bind fun _ => ?_
  refine follows_ite (fun _ => ?_) fun _ => follows_spanFrom.bind fun _ => follows_pure rfl
  refine (follows_body nested (opened.toRoomy.leveled _)).deeper.bind fun _ => ?_
  exact follows_spanFrom.bind fun _ => follows_pure rfl

theorem readable_parenthesized {start : Nat} :
    Readable (bound + 1) .parens (parenthesized traced start) (parenthesized rules start) := by
  refine readable_bracket rfl rfl fun spot opened => (follows_expectMark _).eat fun some _ => ?_
  refine (readable_expr nested (opened.nextDeeper some) rfl).deeper.bind fun _ => ?_
  exact (follows_expectMark _).bind fun _ => follows_spanFrom.bind fun _ => follows_pure rfl

theorem readable_operand : Readable (bound + 1) .operand (operand traced) (operand rules) := by
  refine readable_plain rfl fun spot opened => follows_get fun cursor _ => ?_
  have type := readable_typeExpr nested opened rfl
  generalize cursor.peek = token?
  split
  · exact follows_skip.last fun _ => follows_pure rfl
  · exact follows_skip.last fun _ => follows_pure rfl
  · exact follows_skip.last fun _ => follows_pure rfl
  · exact follows_skip.last fun _ => follows_pure rfl
  · exact (readable_parenthesized nested opened rfl).when
  · exact (follows_funcOperand nested opened).when
  · exact type.when
  · exact type.when
  · exact type.when
  · exact type.when
  · exact type.when
  · exact follows_unexpected

theorem readable_primary : Readable (bound + 1) .primary (primary traced) (primary rules) :=
  readable_plain rfl fun _ opened => (readable_operand nested opened rfl).eat fun some _ =>
    follows_suffixes nested (opened.onward some)

theorem readable_unaryExpr : Readable (bound + 1) .unary (unaryExpr traced) (unaryExpr rules) := by
  refine readable_plain rfl fun spot opened => follows_get fun cursor _ => ?_
  generalize cursor.peek = token?
  split
  · refine follows_skip.eat fun some _ => (nested.unary (opened.next some) rfl).bind fun _ => ?_
    exact follows_spanFrom.bind fun _ => follows_pure rfl
  · refine follows_look (fun cursor => (cursor.rest[1]?).map (·.token)) fun _ => ?_
    refine follows_ite (fun _ => ?_) fun _ => ?_
    · refine (readable_typeExpr nested opened rfl).when.eat fun some _ => ?_
      exact follows_suffixes nested (opened.onward some)
    · split
      · refine follows_skip.eat fun some _ => (nested.unary (opened.next some) rfl).bind fun _ => ?_
        exact follows_spanFrom.bind fun _ => follows_pure rfl
      · exact (readable_primary nested opened rfl).when
  · exact (readable_primary nested opened rfl).when

theorem readable_binaryExpr (least : Nat) :
    Readable (bound + 1) .binary (binaryExpr traced least) (binaryExpr rules least) := by
  refine readable_plain rfl fun spot opened => (readable_unaryExpr nested opened rfl).last fun _ => ?_
  refine follows_loop fun _ => follows_peek fun token? => ?_
  split
  · rename_i found
    obtain ⟨token, rfl, -⟩ := Option.bind_eq_some_iff.mp found
    refine follows_ite (fun _ => ?_) fun _ => follows_pure rfl
    exact follows_skip.eat fun some _ => (nested.binary _ (opened.next some) rfl).bind fun _ => follows_pure rfl
  · exact follows_pure rfl

theorem readable_outerExpr : Readable (bound + 1) .expr (outerExpr traced) (outerExpr rules) :=
  readable_exprPhrase (readable_binaryExpr nested 1)

theorem readable_exprList : Readable (bound + 1) .exprList (exprList traced) (exprList rules) :=
  readable_plain rfl fun _ opened => follows_commaList (readable_outerExpr nested opened rfl)

end GoSpecs.Rules
