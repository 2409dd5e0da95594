import GoSpecs.Grammar.Types

namespace GoSpecs

namespace Parser

variable {α β σ : Type} {failing : Prop}

/-- What the rule returns here meets the condition. If it returns nothing, `failing` holds. -/
def Yields (failing : Prop) (rule : Parser α) (cursor : Cursor) (condition : α → Cursor → Prop) : Prop :=
  match rule cursor with
  | .ok (result, after) => condition result after
  | .error _ => failing

abbrev Ensures (rule : Parser α) (cursor : Cursor) (condition : α → Cursor → Prop) : Prop :=
  Yields True rule cursor condition

theorem Yields.mono {rule : Parser α} {cursor : Cursor} {condition weaker : α → Cursor → Prop}
    (yields : Yields failing rule cursor condition)
    (imp : ∀ result after, condition result after → weaker result after) :
    Yields failing rule cursor weaker := by
  unfold Yields at yields ⊢
  split at yields
  · exact imp _ _ yields
  · exact yields

theorem ensures_of_all {rule : Parser α} {cursor : Cursor} {condition : α → Cursor → Prop}
    (all : ∀ result after, condition result after) : Ensures rule cursor condition := by
  unfold Ensures Yields
  split
  · exact all _ _
  · trivial

theorem Ensures.of_run {rule : Parser α} {cursor after : Cursor} {condition : α → Cursor → Prop} {result : α}
    (ensures : Ensures rule cursor condition) (run : rule cursor = .ok (result, after)) :
    condition result after := by
  unfold Ensures Yields at ensures
  rw [run] at ensures
  exact ensures

theorem Yields.exists_run {rule : Parser α} {cursor : Cursor} {condition : α → Cursor → Prop}
    (yields : Yields False rule cursor condition) :
    ∃ result after, rule cursor = .ok (result, after) ∧ condition result after := by
  unfold Yields at yields
  split at yields
  · rename_i result after run
    exact ⟨result, after, run, yields⟩
  · exact yields.elim

section

variable {cursor : Cursor} {condition : α → Cursor → Prop}

theorem yields_of_run {rule : Parser α} {result : α} {after : Cursor} (run : rule cursor = .ok (result, after)) :
    Yields failing rule cursor condition ↔ condition result after := by
  unfold Yields
  rw [run]

theorem yields_of_error {rule : Parser α} {error : SyntaxError} (run : rule cursor = .error error) :
    Yields failing rule cursor condition ↔ failing := by
  unfold Yields
  rw [run]

@[simp] theorem yields_pure {result : α} :
    Yields failing (pure result) cursor condition ↔ condition result cursor :=
  yields_of_run rfl

@[simp] theorem yields_bind {first : Parser β} {next : β → Parser α} :
    Yields failing (first >>= next) cursor condition ↔
      Yields failing first cursor fun result after => Yields failing (next result) after condition := by
  have run : (first >>= next) cursor = (first cursor).bind fun (result, after) => next result after := rfl
  unfold Yields
  rw [run]
  cases first cursor with
  | error error => rfl
  | ok pair => rfl

@[simp] theorem yields_map {first : Parser β} {change : β → α} :
    Yields failing (change <$> first) cursor condition ↔
      Yields failing first cursor fun result after => condition (change result) after := by
  rw [map_eq_pure_bind, yields_bind]
  simp only [yields_pure]

@[simp] theorem yields_phrase {phrase : Phrase} {rule : Parser α} :
    Yields failing (MonadParser.phrase phrase rule) cursor condition ↔ Yields failing rule cursor condition :=
  Iff.rfl

@[simp] theorem yields_fail {fault : SyntaxFault} {span : Span} :
    Yields failing (fail fault span) cursor condition ↔ failing :=
  yields_of_error rfl

@[simp] theorem yields_unexpected {what : Expectation} :
    Yields failing (unexpected what) cursor condition ↔ failing :=
  yields_of_error rfl

end

section

variable {cursor : Cursor} {condition : Unit → Cursor → Prop} {given : Bool → Cursor → Prop}
  {found : Option Token → Cursor → Prop} {offset : Nat → Cursor → Prop} {place : Span → Cursor → Prop}

@[simp] theorem yields_get {whole : Cursor → Cursor → Prop} :
    Yields failing get cursor whole ↔ whole cursor cursor :=
  yields_of_run rfl

@[simp] theorem yields_set {next : Cursor} : Yields failing (set next) cursor condition ↔ condition () next :=
  yields_of_run rfl

@[simp] theorem yields_modify {change : Cursor → Cursor} :
    Yields failing (modify change) cursor condition ↔ condition () (change cursor) :=
  yields_of_run rfl

@[simp] theorem yields_skip : Yields failing skip cursor condition ↔ condition () cursor.advance :=
  yields_of_run rfl

@[simp] theorem yields_peek : Yields failing peek cursor found ↔ found cursor.peek cursor :=
  yields_of_run rfl

@[simp] theorem yields_peekAfter {count : Nat} :
    Yields failing (peekAfter count) cursor found ↔ found ((cursor.rest[count]?).map (·.token)) cursor :=
  yields_of_run rfl

@[simp] theorem yields_atMark {sign : Mark} :
    Yields failing (atMark sign) cursor given ↔ given (cursor.peek == some (.mark sign)) cursor :=
  yields_of_run rfl

@[simp] theorem yields_atSemicolon :
    Yields failing atSemicolon cursor given ↔ given (isSemicolon cursor.peek) cursor :=
  yields_of_run rfl

@[simp] theorem yields_start : Yields failing start cursor offset ↔ offset cursor.start cursor :=
  yields_of_run rfl

@[simp] theorem yields_lastEnd : Yields failing lastEnd cursor offset ↔ offset cursor.lastEnd cursor :=
  yields_of_run rfl

@[simp] theorem yields_spanFrom {start : Nat} :
    Yields failing (spanFrom start) cursor place ↔ place (cursor.spanFrom start) cursor :=
  yields_of_run rfl

@[simp] theorem yields_eatMark {sign : Mark} :
    Yields failing (eatMark sign) cursor given ↔
      if cursor.peek = some (.mark sign) then given true cursor.advance else given false cursor := by
  simp only [eatMark, eatIf, yields_bind, yields_atMark, beq_iff_eq]
  split <;> simp

@[simp] theorem yields_eatSemicolon :
    Yields failing eatSemicolon cursor given ↔
      if isSemicolon cursor.peek then given true cursor.advance else given false cursor := by
  simp only [eatSemicolon, eatIf, yields_bind, yields_atSemicolon]
  split <;> simp

@[simp] theorem yields_expect {token : Token} :
    Yields failing (expect token) cursor place ↔
      if cursor.peek = some token then place cursor.span cursor.advance else failing := by
  simp only [expect, yields_bind, yields_get, beq_iff_eq]
  split <;> simp

@[simp] theorem yields_expectMark {sign : Mark} :
    Yields failing (expectMark sign) cursor place ↔
      if cursor.peek = some (.mark sign) then place cursor.span cursor.advance else failing :=
  yields_expect

@[simp] theorem yields_expectKeyword {word : Keyword} :
    Yields failing (expectKeyword word) cursor place ↔
      if cursor.peek = some (.keyword word) then place cursor.span cursor.advance else failing :=
  yields_expect

end

section

variable {cursor : Cursor} {condition : α → Cursor → Prop}

@[simp] theorem yields_deeper {rule : Parser α} :
    Yields failing (deeper rule) cursor condition ↔
      Yields failing rule { cursor with level := cursor.level + 1 } fun result after =>
        condition result { after with level := after.level - 1 } := by
  simp only [deeper, yields_bind, yields_modify, yields_pure]

@[simp] theorem yields_atLevel {level : Int} {rule : Parser α} :
    Yields failing (atLevel level rule) cursor condition ↔
      Yields failing rule { cursor with level } fun result after =>
        condition result { after with level := cursor.level } := by
  simp only [atLevel, yields_bind, yields_get, yields_modify, yields_pure]

theorem yields_iterate {step : σ → Parser (Step σ α)} {fuel : Nat} {state : σ} :
    Yields failing (iterate step (fuel + 1) state) cursor condition ↔
      Yields failing (step state) cursor fun outcome after =>
        match outcome with
        | .again state => Yields failing (iterate step fuel state) after condition
        | .done result => condition result after := by
  rw [iterate, yields_bind]
  refine iff_of_eq (congrArg _ ?_)
  funext outcome after
  cases outcome with
  | again state => rfl
  | done result => exact propext yields_pure

@[simp] theorem yields_loop {step : σ → Parser (Step σ α)} {state : σ} :
    Yields failing (loop state step) cursor condition ↔
      Yields failing (iterate step (cursor.rest.length + 1) state) cursor condition := by
  simp only [loop, yields_bind, yields_get]

/-- What holds before each round holds at the end. -/
theorem ensures_iterate {step : σ → Parser (Step σ α)} {invariant : σ → Cursor → Prop}
    (round : ∀ state cursor, invariant state cursor →
      Ensures (step state) cursor fun outcome after =>
        match outcome with
        | .again state => invariant state after
        | .done result => condition result after)
    (fuel : Nat) {state : σ} {cursor : Cursor} (start : invariant state cursor) :
    Ensures (iterate step fuel state) cursor condition := by
  induction fuel generalizing state cursor with
  | zero =>
    rw [iterate]
    simp
  | succ fuel ih =>
    rw [Ensures, yields_iterate]
    refine (round state cursor start).mono ?_
    intro outcome after holds
    cases outcome with
    | again state => exact ih holds
    | done result => exact holds

end

theorem visit_cons (step : σ → β → Parser σ) (state : σ) (entry : β) (entries : List β) :
    visit step state (entry :: entries) = step state entry >>= fun state => visit step state entries := by
  rw [visit]
  change ((do
    let state ← step state entry
    return if entries.isEmpty then .done state else .again state : Parser (Step σ σ)) >>= _) = _
  rw [bind_assoc]
  congr 1
  funext state
  cases entries with
  | nil => rfl
  | cons => rfl

end Parser

namespace Rules

open GoSpecs.Parser

theorem visit_nameEntry (start : Nat) (fields : List Field) (waiting : List String) (entries : List ParamEntry) :
    (do
      let (fields, waiting) ← visit (nameEntry start) (fields, waiting) entries
      if waiting.isEmpty then return fields else fail .mixedParams (← spanFrom start) : Parser (List Field)) =
    match namedFields? waiting entries with
    | some more => return fields ++ more
    | none => spanFrom start >>= fail .mixedParams := by
  fun_induction namedFields? waiting entries generalizing fields with
  | case1 waiting empty => simp [visit, List.isEmpty_iff.mp empty]
  | case2 waiting filled =>
    rw [List.isEmpty_iff] at filled
    simp [visit, filled]
  | case3 waiting name span entries ih =>
    rw [visit_cons]
    exact ih fields
  | case4 waiting name span type entries ih =>
    rw [visit_cons]
    refine (ih (fields ++ [⟨waiting ++ [name], type, none, none⟩])).trans ?_
    cases namedFields? [] entries <;> simp
  | case5 =>
    rw [visit_cons]
    rfl

theorem namedParams_eq (start : Nat) (entries : List ParamEntry) :
    (namedParams start entries : Parser (List Field)) =
      match namedFields? [] entries with
      | some fields => return fields
      | none => spanFrom start >>= fail .mixedParams :=
  visit_nameEntry start [] [] entries

end Rules

end GoSpecs
