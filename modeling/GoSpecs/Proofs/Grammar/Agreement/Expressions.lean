import GoSpecs.Proofs.Grammar.Agreement.Steps
import GoSpecs.Proofs.Syntax.Twins

namespace GoSpecs

namespace Parser.Kind

open GoSpecs.Part

@[simp] def expr : Kind Expr Expr := ⟨Expr.Twins, ofExpr⟩

@[simp] def node : Kind Expr.Node Expr.Node := ⟨Expr.Node.Twins, ofNode⟩

@[simp] def field : Kind Field Field := ⟨Field.Twins, ofField⟩

@[simp] def funcType : Kind FuncType FuncType := ⟨FuncType.Twins, ofFuncType⟩

@[simp] def block : Kind Block Block := ⟨Block.Twins, ofBlock⟩

@[simp] def stmt : Kind Stmt Stmt := ⟨Stmt.Twins, ofStmt⟩

@[simp] def branch : Kind Stmt Stmt := ⟨fun stmt stmt' => stmt.Twins stmt' ∧ stmt.IsBranch, ofStmt⟩

@[simp] def tag : Kind (Option String) (Option String) := ⟨Eq, ofTag⟩

end Parser.Kind

namespace Rules

open GoSpecs.Parser GoSpecs.Part

attribute [local simp] Token.text ofExpr ofFuncType ofField ofNode ofTag ofNames_eq ofExprs_eq ofFields_eq
  ofOptExpr_eq

/-- The rules for nested parts do alike wherever fewer than `bound` tokens are ahead. -/
structure Nested (bound : Nat) (rules rules' : Rules) : Prop where
  type : Agrees bound 1 .expr rules.type rules'.type
  binary (least : Nat) : Agrees bound 1 .expr (rules.binary least) (rules'.binary least)
  unary : Agrees bound 1 .expr rules.unary rules'.unary
  elided : Agrees bound 1 .expr rules.elided rules'.elided
  block : Agrees bound 1 .block rules.block rules'.block
  stmt : Agrees bound 1 .stmt rules.stmt rules'.stmt
  ifElse : Agrees bound 1 .branch rules.ifElse rules'.ifElse

structure ParamEntry.Twins (entry entry' : ParamEntry) : Prop where
  name : Option.Rel (fun found found' => found.1 = found'.1) entry.name? entry'.name?
  type : Option.Rel Expr.Twins entry.type? entry'.type?

@[simp] def ParamEntry.parts : ParamEntry → List Part
  | ⟨some name, none⟩ => [.word (.ident name.1)]
  | ⟨some name, some type⟩ => .word (.ident name.1) :: ofExpr type
  | ⟨none, some type⟩ => ofExpr type
  | ⟨none, none⟩ => [.word (.ident "_")]

@[simp] def ParamEntry.kind : Kind ParamEntry ParamEntry := ⟨ParamEntry.Twins, ParamEntry.parts⟩

structure ParamTwins (fields fields' : List Field) : Prop where
  each : Each Field.Twins fields fields'
  uniform : Field.AreUniform fields

@[simp] def ParamTwins.kind : Kind (List Field) (List Field) := ⟨ParamTwins, List.flatMap ofField⟩

theorem ParamEntry.Twins.unnamed {entry entry' : ParamEntry} (both : entry.Twins entry') :
    Field.Twins entry.unnamed entry'.unnamed := by
  obtain ⟨name?, type?⟩ := entry
  obtain ⟨name?', type?'⟩ := entry'
  obtain ⟨name, type⟩ := both
  cases type with
  | some same => exact ⟨by simp [ParamEntry.unnamed, same.same], by simpa [ParamEntry.unnamed] using same.good⟩
  | none =>
    cases name with
    | some same => exact ⟨by simp [ParamEntry.unnamed, same], by simp [ParamEntry.unnamed]⟩
    | none => exact ⟨rfl, by simp [ParamEntry.unnamed]⟩

theorem twins_namedFields? {entries entries' : List ParamEntry} (each : Each ParamEntry.Twins entries entries')
    (waiting : List String) :
    Option.Rel (Each Field.Twins) (namedFields? waiting entries) (namedFields? waiting entries') := by
  induction each generalizing waiting with
  | nil =>
    unfold namedFields?
    split
    · exact .some .nil
    · exact .none
  | @cons entry entry' entries entries' both _ ih =>
    obtain ⟨name?, type?⟩ := entry
    obtain ⟨name?', type?'⟩ := entry'
    obtain ⟨name, type⟩ := both
    cases name with
    | none => exact .none
    | @some found found' same =>
      obtain ⟨name, span⟩ := found
      obtain ⟨name', span'⟩ := found'
      cases type with
      | none =>
        change name = name' at same
        subst same
        exact ih (waiting ++ [name])
      | some type =>
        change name = name' at same
        subst same
        have rest := ih []
        simp only [namedFields?]
        generalize namedFields? [] entries = fields?, namedFields? [] entries' = fields?' at rest ⊢
        cases rest with
        | none => exact .none
        | some each => exact .some (.cons ⟨by simp [type.same], by simpa using type.good⟩ each)

theorem names_of_namedFields? {waiting : List String} {entries : List ParamEntry} {fields : List Field}
    (found : namedFields? waiting entries = some fields) : ∀ field ∈ fields, field.names ≠ [] := by
  fun_induction namedFields? waiting entries generalizing fields with
  | case1 => simp_all
  | case2 => cases found
  | case3 _ _ _ _ ih => exact ih found
  | case4 waiting name _ type entries ih =>
    obtain ⟨rest, atRest, atFields⟩ := Option.bind_eq_some_iff.mp found
    cases atFields
    intro field here
    rcases List.mem_cons.mp here with rfl | here
    · simp
    · exact ih atRest field here
  | case5 => cases found

theorem ParamEntry.parts_unnamed (entry : ParamEntry) (alone : (entry.name?.isSome && entry.type?.isSome) = false) :
    ofField entry.unnamed = entry.parts := by
  obtain ⟨name?, type?⟩ := entry
  cases name? with
  | none => cases type? <;> simp [unnamed]
  | some name =>
    cases type? with
    | none => simp [unnamed]
    | some type => simp at alone

/-- Names move to the type that they wait for, which comes after them. -/
theorem parts_namedFields {waiting : List String} {entries : List ParamEntry} {fields : List Field}
    (found : namedFields? waiting entries = some fields) :
    ofNames waiting ++ entries.flatMap ParamEntry.parts = fields.flatMap ofField := by
  fun_induction namedFields? waiting entries generalizing fields with
  | case1 => simp_all
  | case2 => cases found
  | case3 _ _ _ _ ih => simp [← ih found]
  | case4 waiting name _ type entries ih =>
    obtain ⟨rest, atRest, atFields⟩ := Option.bind_eq_some_iff.mp found
    cases atFields
    simp [← ih atRest]
  | case5 => cases found

section

variable {bound : Nat} {type type' : Parser Expr}

theorem agrees_paramType (agrees : Agrees bound 1 .expr type type') :
    Agrees bound 1 .expr (paramType type) (paramType type') := by
  refine agrees_start.any fun _ _ => (agrees_eatMark _).given fun found => agrees_ite (fun _ => ?_) fun _ => agrees
  refine agrees.last fun _ _ elem => agrees_spanFrom.any fun _ _ => agrees_pure ?_ (by simp)
  exact ⟨by simp [elem.same], by simpa using elem.good⟩

theorem agrees_paramEntry (agrees : Agrees bound 1 .expr type type') :
    Agrees bound 1 ParamEntry.kind (paramEntry type) (paramEntry type') := by
  refine agrees_atIdent.given fun found => agrees_ite (fun _ => ?_) fun _ => ?_
  · refine (agrees_peekAfter 1).given fun later? => ?_
    split
    · exact agrees_ident.last fun _ _ same => agrees_pure ⟨.some same, .none⟩ (by simp)
    · exact agrees_ident.last fun _ _ same => agrees_pure ⟨.some same, .none⟩ (by simp)
    · exact agrees.last fun _ _ same => agrees_pure ⟨.none, .some same⟩ (by simp)
    · refine agrees_ident.last fun _ _ same => (agrees_paramType agrees).bind fun _ _ type => ?_
      exact agrees_pure ⟨.some same, .some type⟩ (by simp)
  · exact (agrees_paramType agrees).last fun _ _ same => agrees_pure ⟨.none, .some same⟩ (by simp)

theorem any_twins {test : ParamEntry → Bool} {entries entries' : List ParamEntry}
    (each : Each ParamEntry.Twins entries entries')
    (same : ∀ entry entry', entry.Twins entry' → test entry = test entry') : entries.any test = entries'.any test := by
  induction each with
  | nil => rfl
  | cons both _ ih => rw [List.any_cons, List.any_cons, same _ _ both, ih]

theorem ParamEntry.Twins.isWhole {entry entry' : ParamEntry} (both : entry.Twins entry') :
    (entry.name?.isSome && entry.type?.isSome) = (entry'.name?.isSome && entry'.type?.isSome) := by
  obtain ⟨name?, type?⟩ := entry
  obtain ⟨name?', type?'⟩ := entry'
  obtain ⟨name, type⟩ := both
  cases name <;> cases type <;> rfl

theorem agrees_params (agrees : Agrees bound 1 .expr type type') :
    Agrees bound 1 ParamTwins.kind (params type) (params type') := by
  refine agrees_start.any fun _ _ => (agrees_expectMark _).past fun _ _ => ?_
  refine (agrees_listUntil _ (agrees_paramEntry agrees)).bind fun entries entries' each => ?_
  refine (agrees_expectMark _).any fun _ _ => ?_
  rw [← any_twins each fun _ _ => ParamEntry.Twins.isWhole]
  refine agrees_ite (fun _ => ?_) fun alone => ?_
  · rw [namedParams_eq, namedParams_eq]
    have both := twins_namedFields? each []
    generalize found : namedFields? [] entries = fields?, namedFields? [] entries' = fields?' at both
    cases both with
    | none => exact agrees_spanFrom.any fun _ _ => agrees_fail
    | some each => exact agrees_pure ⟨each, .inl (names_of_namedFields? found)⟩ (by simpa using parts_namedFields found)
  · refine agrees_pure ⟨?_, .inr ?_⟩ ?_
    · exact List.forall₂_map_left_iff.mpr (List.forall₂_map_right_iff.mpr (each.imp fun _ _ =>
        ParamEntry.Twins.unnamed))
    · intro field here
      obtain ⟨entry, -, rfl⟩ := List.mem_map.mp here
      rfl
    · have same : entries.flatMap ParamEntry.parts = (entries.map ParamEntry.unnamed).flatMap ofField := by
        rw [List.flatMap_map]
        refine List.flatMap_congr fun entry member => (entry.parts_unnamed ?_).symm
        exact Bool.eq_false_iff.mpr fun whole => alone (List.any_eq_true.mpr ⟨entry, member, whole⟩)
      exact same

theorem ParamTwins.signature {params params' results results' : List Field} (atParams : ParamTwins params params')
    (atResults : ParamTwins results results') : FuncType.Twins ⟨params, results⟩ ⟨params', results'⟩ := by
  have first := twins_list atParams.each
  have second := twins_list atResults.each
  exact ⟨by simp [first.same, second.same], by simpa using ⟨first.good, second.good, atParams.uniform, atResults.uniform⟩⟩

theorem agrees_signature (agrees : Agrees bound 1 .expr type type') :
    Agrees bound 1 .funcType (signature type) (signature type') := by
  refine (agrees_params agrees).last fun params params' both => ?_
  refine (agrees_atMark _).given fun found => agrees_ite (fun _ => ?_) fun _ => agrees_peeked.given fun token? => ?_
  · exact (agrees_params agrees).bind fun results results' same => agrees_pure (both.signature same) (by simp)
  · refine agrees_ite (fun _ => ?_) fun _ => agrees_pure (both.signature ⟨.nil, .inr (by simp)⟩) (by simp)
    refine agrees.bind fun result result' same => agrees_pure (both.signature ⟨.cons ?_ .nil, .inr (by simp)⟩) (by simp)
    exact ⟨by simp [same.same], by simpa using same.good⟩

theorem agrees_constraintTerm (agrees : Agrees bound 1 .expr type type') :
    Agrees bound 1 .expr (constraintTerm type) (constraintTerm type') := by
  refine agrees_start.any fun _ _ => (agrees_eatMark _).given fun found => agrees_ite (fun _ => ?_) fun _ => agrees
  refine agrees.last fun _ _ operand => agrees_spanFrom.any fun _ _ => agrees_pure ?_ (by simp)
  exact ⟨by simp [operand.same], by simpa using operand.good⟩

theorem agrees_constraint (agrees : Agrees bound 1 .expr type type') :
    Agrees bound 1 .expr (constraint type) (constraint type') := by
  refine (agrees_constraintTerm agrees).last fun first first' both => ?_
  refine agrees_loop .expr (by simp) both fun left left' left => ?_
  refine (agrees_eatMark _).given fun found => agrees_ite (fun _ => ?_) fun _ => agrees_pure (.done left) (by simp)
  refine (agrees_constraintTerm agrees).bind fun right right' right => agrees_pure (.again ?_) (by simp)
  exact ⟨by simp [left.same, right.same], by simpa using ⟨left.good, right.good⟩⟩

theorem agrees_typeParams (agrees : Agrees bound 1 .expr type type') :
    Agrees bound 1 ParamTwins.kind (typeParams type) (typeParams type') := by
  refine agrees_start.any fun _ _ => (agrees_expectMark _).past fun _ _ => ?_
  have entry : Agrees bound 1 ParamEntry.kind
      (do
        let name ← ident
        if (← atMark .comma) || (← atMark .rbracket) then
          return (⟨some name, none⟩ : ParamEntry)
        else
          return ⟨some name, some (← constraint type)⟩)
      (do
        let name ← ident
        if (← atMark .comma) || (← atMark .rbracket) then
          return (⟨some name, none⟩ : ParamEntry)
        else
          return ⟨some name, some (← constraint type')⟩) := by
    refine agrees_ident.last fun name name' same => (agrees_atMark _).given fun comma => ?_
    refine (agrees_atMark _).given fun bracket => agrees_ite (fun _ =>
      agrees_pure ⟨.some same, .none⟩ (by simp)) fun _ => ?_
    exact (agrees_constraint agrees).bind fun _ _ type => agrees_pure ⟨.some same, .some type⟩ (by simp)
  refine (agrees_listUntil _ entry).bind fun entries entries' each => (agrees_expectMark _).any fun _ _ => ?_
  have both := twins_namedFields? each []
  generalize found : namedFields? [] entries = fields?, namedFields? [] entries' = fields?' at both
  cases both with
  | none => exact agrees_spanFrom.any fun _ _ => agrees_fail
  | some each =>
    cases each with
    | nil => exact agrees_spanFrom.any fun _ _ => agrees_fail
    | cons first rest =>
      refine agrees_pure ⟨.cons first rest, .inl (names_of_namedFields? found)⟩ ?_
      simpa using parts_namedFields found

theorem agrees_names : Agrees bound 1 ⟨Eq, ofNames⟩ (commaList name) (commaList name) := by
  refine (agrees_commaList agrees_name).mono (fun _ _ each => ?_) (funext fun names => (ofNames_eq names).symm)
  change Each Eq _ _ at each
  rwa [Each, List.forall₂_eq_eq_eq] at each

theorem agrees_atEmbedded : Agrees bound 0 .same atEmbedded atEmbedded := by
  refine agrees_peek fun token? => AgreesFrom.at ?_
  split
  · exact agrees_pure rfl (by simp)
  · refine (agrees_peekAfter 1).given fun later? => ?_
    split <;> exact agrees_pure rfl (by simp)
  · exact agrees_unexpected

theorem agrees_tag? : Agrees bound 0 .tag tag? tag? := by
  refine agrees_peek fun token? => ?_
  split
  · rename_i text
    exact AgreesAt.loose (AgreesAt.word (.word (.string text)) (agrees_pure rfl (by simp)) rfl rfl fun _ => rfl)
  · exact (agrees_pure rfl (by simp)).at

theorem agrees_structField (agrees : Agrees bound 1 .expr type type') :
    Agrees bound 0 .field (structField type) (structField type') := by
  refine agrees_atEmbedded.given fun found => ?_
  refine agrees_either ⟨Eq, ofNames⟩ (agrees_pure rfl (by simp)) agrees_names.loose fun names names' same => ?_
  subst same
  refine agrees.bind fun type type' same => agrees_tag?.equal fun tag? => ?_
  refine agrees_lastEnd.any fun _ _ => agrees_trailingComment.bind fun _ _ _ => agrees_pure ?_ (by simp)
  exact ⟨by simp [same.same], by simpa using same.good⟩

theorem agrees_interfaceElem (agrees : Agrees bound 1 .expr type type') :
    Agrees bound 0 .field (interfaceElem type) (interfaceElem type') := by
  refine agrees_atIdent.given fun named => (agrees_peekAfter 1).given fun later? => agrees_ite (fun _ => ?_) fun _ => ?_
  · refine agrees_name.equal fun name => agrees_start.any fun _ _ => ?_
    refine (agrees_signature agrees).bind fun _ _ method => agrees_spanFrom.any fun _ _ => ?_
    refine agrees_lastEnd.any fun _ _ => agrees_trailingComment.bind fun _ _ _ => agrees_pure ?_ (by simp)
    exact ⟨by simp [method.same], by simpa using method.good⟩
  · refine (agrees_constraint agrees).bind fun _ _ same => ?_
    refine agrees_lastEnd.any fun _ _ => agrees_trailingComment.bind fun _ _ _ => agrees_pure ?_ (by simp)
    exact ⟨by simp [same.same], by simpa using same.good⟩

theorem agrees_braced {α : Type} {kind : Kind α α} {entry entry' : Parser α}
    (agrees : Agrees bound 0 kind entry entry') :
    Agrees bound 1 ⟨fun found found' => Each kind.related found.1 found'.1, fun found => found.1.flatMap kind.parts⟩
      (braced entry) (braced entry') := by
  refine (agrees_expectMark _).past fun _ _ => (agrees_linesUntil _ agrees).bind fun _ _ each => ?_
  exact (agrees_expectMark _).any fun _ _ => agrees_pure each (by simp)

theorem agrees_moreArgs (agrees : Agrees bound 1 .expr type type') {args args' : List Expr}
    (each : Each Expr.Twins args args') : AgreesFrom (args.flatMap ofExpr) bound 0 (.each .expr)
      (loop args fun args => do
        if ← eatMark .comma then
          if ← atMark .rbracket then return .done args else return .again (args ++ [← type])
        else
          return .done args)
      (loop args' fun args => do
        if ← eatMark .comma then
          if ← atMark .rbracket then return .done args else return .again (args ++ [← type'])
        else
          return .done args) := by
  refine agrees_loop (.each .expr) (by simp) each fun args args' each => ?_
  refine (agrees_eatMark _).given fun comma => agrees_ite (fun _ => ?_) fun _ => agrees_pure (.done each) (by simp)
  refine (agrees_atMark _).given fun bracket => agrees_ite (fun _ => agrees_pure (.done each) (by simp)) fun _ => ?_
  exact agrees.bind fun _ _ same => agrees_pure (.again (each_concat each same)) (by simp)

theorem twins_indexList {base base' : Expr} (atBase : base.Twins base') {args args' : List Expr}
    (each : Each Expr.Twins args args') {span span' : Span} :
    Expr.Twins ⟨.indexList base args, span⟩ ⟨.indexList base' args', span'⟩ := by
  have args := twins_list each
  exact ⟨by simp [atBase.same, args.same], by simpa using ⟨atBase.good, args.good⟩⟩

theorem agrees_typeArgs (agrees : Agrees bound 1 .expr type type') {base base' : Expr} (atBase : base.Twins base')
    {start start' : Nat} :
    AgreesFrom (ofExpr base) bound 1 .expr (typeArgs type base start) (typeArgs type' base' start') := by
  refine (agrees_expectMark _).past fun _ _ => agrees.bind fun first first' atFirst => ?_
  refine (agrees_moreArgs agrees (.cons atFirst .nil)).onward (ofExpr base) (by simp) fun args args' each => ?_
  refine (agrees_expectMark _).any fun _ _ => agrees_spanFrom.any fun _ _ => ?_
  cases each with
  | nil => exact agrees_pure (twins_indexList atBase .nil) (by simp)
  | cons arg rest =>
    cases rest with
    | nil => exact agrees_pure ⟨by simp [atBase.same, arg.same], by simpa using ⟨atBase.good, arg.good⟩⟩ (by simp)
    | cons second rest => exact agrees_pure (twins_indexList atBase (.cons arg (.cons second rest))) (by simp)

theorem agrees_typeName {start start' : Nat} : Agrees bound 1 .expr (typeName start) (typeName start') := by
  refine agrees_ident.last fun found found' same => ?_
  obtain ⟨name, span⟩ := found
  obtain ⟨name', span'⟩ := found'
  change name = name' at same
  subst same
  refine agrees_look _ fun token? => AgreesAt.peekAfter fun later? => ?_
  split
  · rename_i dotted
    obtain rfl : token? = some (.mark .dot) := by simp_all
    refine AgreesAt.loose (AgreesAt.skip (agrees_name.equal fun field =>
      agrees_spanFrom.any fun _ _ => agrees_pure ?_ (by simp)) rfl)
    exact ⟨by simp, by simp⟩
  · exact AgreesFrom.at (agrees_spanFrom.any fun _ _ => agrees_pure ⟨by simp, by simp⟩ (by simp))

end

section

variable {bound : Nat} {rules rules' : Rules}

theorem agrees_arrayLength (nested : Nested bound rules rules') :
    Agrees bound 0 (.option .expr) (arrayLength rules) (arrayLength rules') := by
  refine agrees_get fun cursor cursor' alike => ?_
  simp only [← alike.peek]
  generalize cursor.peek = token?
  split
  · exact AgreesFrom.at (agrees_pure .none (by simp))
  · exact AgreesAt.loose (AgreesAt.skip (agrees_pure (.some ⟨by simp, by simp⟩) (by simp)) rfl)
  · exact AgreesFrom.at ((nested.binary 1).deeper.bind fun _ _ same => agrees_pure (.some same) (by simp))

theorem agrees_typeNode (nested : Nested bound rules rules') :
    Agrees (bound + 1) 1 .node (typeNode rules) (typeNode rules') := by
  refine agrees_peek fun token? => ?_
  split
  · refine AgreesAt.skip (nested.type.bind fun _ _ inner => agrees_pure ?_ (by simp)) rfl
    exact ⟨by simp [inner.same], by simpa using inner.good⟩
  · refine AgreesAt.skip (nested.type.bind fun _ _ inner => (agrees_expectMark _).any fun _ _ =>
      agrees_pure ?_ (by simp)) rfl
    exact ⟨by simp [inner.same], by simpa using inner.good⟩
  · refine AgreesAt.skip ((agrees_arrayLength nested).bind fun _ _ length =>
      (agrees_expectMark _).any fun _ _ => ?_) rfl
    refine nested.type.bind fun _ _ elem => agrees_pure ?_ (by simp)
    have length := twins_option length
    exact ⟨by simp [length.same, elem.same], by simpa using ⟨length.good, elem.good⟩⟩
  · refine AgreesAt.skip ((agrees_expectMark _).any fun _ _ => nested.type.bind fun _ _ key => ?_) rfl
    refine (agrees_expectMark _).any fun _ _ => nested.type.bind fun _ _ value => agrees_pure ?_ (by simp)
    exact ⟨by simp [key.same, value.same], by simpa using ⟨key.good, value.good⟩⟩
  · refine AgreesAt.skip ((agrees_eatMark _).given fun arrow => nested.type.bind fun _ _ elem =>
      agrees_pure ?_ (by simp)) rfl
    exact ⟨by simp [elem.same], by simpa using elem.good⟩
  · refine AgreesAt.skip ((agrees_expectKeyword _).any fun _ _ => nested.type.bind fun _ _ elem =>
      agrees_pure ?_ (by simp)) rfl
    exact ⟨by simp [elem.same], by simpa using elem.good⟩
  · refine AgreesAt.skip ((agrees_signature nested.type).bind fun _ _ type => agrees_pure ?_ (by simp)) rfl
    exact ⟨by simp [type.same], by simpa using type.good⟩
  · refine AgreesAt.skip ((agrees_braced (agrees_structField nested.type)).bind fun _ _ each =>
      agrees_pure ?_ (by simp)) rfl
    have fields := twins_list each
    exact ⟨by simp [fields.same], by simpa using fields.good⟩
  · refine AgreesAt.skip ((agrees_braced (agrees_interfaceElem nested.type)).bind fun _ _ each =>
      agrees_pure ?_ (by simp)) rfl
    have methods := twins_list each
    exact ⟨by simp [methods.same], by simpa using methods.good⟩
  · exact agrees_unexpected.at

theorem agrees_typeExpr (nested : Nested bound rules rules') :
    Agrees (bound + 1) 1 .expr (typeExpr rules) (typeExpr rules') := by
  refine agrees_start.any fun _ _ => agrees_atIdent.given fun named => agrees_ite (fun _ => ?_) fun _ => ?_
  · refine agrees_typeName.eat fun base base' same => ?_
    refine (agrees_atMark _).given fun bracket => agrees_ite (fun _ => ?_) fun _ => agrees_pure same (by simp)
    exact (agrees_typeArgs nested.type same).loose
  · refine (agrees_typeNode nested).last fun node node' same => agrees_spanFrom.any fun _ _ => agrees_pure ?_ ?_
    · exact ⟨by simp [same.same], by simpa using same.good⟩
    · exact (ofExpr_node ..).symm

theorem agrees_elementValue (nested : Nested bound rules rules') :
    Agrees bound 1 .expr (elementValue rules) (elementValue rules') :=
  (agrees_atMark _).given fun _ => agrees_ite (fun _ => nested.elided) fun _ => nested.binary 1

theorem agrees_element (nested : Nested bound rules rules') :
    Agrees bound 1 .expr (element rules) (element rules') := by
  refine (agrees_elementValue nested).last fun _ _ key => ?_
  refine (agrees_eatMark _).given fun colon => agrees_ite (fun _ => ?_) fun _ => agrees_pure key (by simp)
  refine (agrees_elementValue nested).bind fun _ _ value => agrees_pure ?_ (by simp)
  exact ⟨by simp [key.same, value.same], by simpa using ⟨key.good, value.good⟩⟩

structure ElementTwins (found found' : List Expr × List ElementComment) : Prop where
  each : Each Expr.Twins found.1 found'.1
  ordered : ElementComment.AreOrdered found.1.length found.2

@[simp] def ElementTwins.kind : Kind (List Expr × List ElementComment) (List Expr × List ElementComment) :=
  ⟨ElementTwins, fun found => found.1.flatMap ofExpr ++ ofNotes (found.2.map (·.comment))⟩

theorem areOrdered_succ {count : Nat} {comments : List ElementComment}
    (ordered : ElementComment.AreOrdered count comments) : ElementComment.AreOrdered (count + 1) comments :=
  ⟨ordered.increasing, fun comment here => Nat.lt_succ_of_lt (ordered.bounded comment here)⟩

theorem areOrdered_concat {count : Nat} {comments : List ElementComment}
    (ordered : ElementComment.AreOrdered count comments) (comment : Comment) :
    ElementComment.AreOrdered (count + 1) (comments ++ [⟨count, comment⟩]) := by
  refine ⟨List.pairwise_append.mpr ⟨ordered.increasing, List.pairwise_singleton _ _, ?_⟩, ?_⟩
  · intro earlier here last isLast
    rw [List.mem_singleton.mp isLast]
    exact ordered.bounded earlier here
  · intro each here
    rcases List.mem_append.mp here with here | isLast
    · exact Nat.lt_succ_of_lt (ordered.bounded each here)
    · rw [List.mem_singleton.mp isLast]
      exact Nat.lt_succ_self count

theorem ElementTwins.concat {elements elements' : List Expr} {comments comments' : List ElementComment}
    (both : ElementTwins (elements, comments) (elements', comments')) {element element' : Expr}
    (same : element.Twins element') (comment? : Option Comment) (later : List ElementComment) :
    ElementTwins (elements ++ [element], comments ++ comment?.toList.map (⟨elements.length, ·⟩))
      (elements' ++ [element'], later) := by
  refine ⟨each_concat both.each same, ?_⟩
  simp only [List.length_append, List.length_singleton]
  cases comment? with
  | none => simpa using areOrdered_succ both.ordered
  | some comment => exact areOrdered_concat both.ordered comment

theorem gather_elements {elements : List Expr} {comments : List ElementComment} {element : Expr} {α β : Type}
    {kind : Kind α β} {eaten : Nat} {rule : Parser α} {rule' : Parser β}
    (agrees : AgreesFrom (ElementTwins.kind.parts (elements ++ [element], comments)) bound eaten kind rule rule') :
    AgreesFrom (ElementTwins.kind.parts (elements, comments) ++ ofExpr element) bound eaten kind rule rule' := by
  refine agrees.gathered ?_ ?_
  · simp only [ElementTwins.kind, words_append, words_ofNotes, List.flatMap_append, List.flatMap_singleton,
      List.append_nil]
  · simp only [ElementTwins.kind, notes_append, List.flatMap_append, List.flatMap_singleton]
    exact add_right_comm ..

theorem agrees_elements (nested : Nested bound rules rules') :
    Agrees bound 0 ElementTwins.kind (elements rules) (elements rules') := by
  refine agrees_loop ElementTwins.kind (by simp) ⟨.nil, .nil, by simp⟩ fun found found' both => ?_
  obtain ⟨elements, comments⟩ := found
  obtain ⟨elements', comments'⟩ := found'
  refine (agrees_atMark _).given fun brace => agrees_ite (fun _ => agrees_pure (.done both) (by simp)) fun _ => ?_
  refine (agrees_element nested).bind fun element element' same => ?_
  have plain : ElementTwins (elements ++ [element], comments) (elements' ++ [element'], comments') := by
    simpa using both.concat same none comments'
  refine gather_elements ?_
  refine (agrees_eatMark _).given fun comma => agrees_ite (fun _ => ?_) fun _ => agrees_pure (.done plain) (by simp)
  refine agrees_lastEnd.any fun _ _ => agrees_trailingLineComment.bind fun comment? comment?' _ => ?_
  cases comment? with
  | none =>
    cases comment?' with
    | none => exact agrees_pure (.again plain) (by simp)
    | some _ => exact agrees_pure (.again ⟨plain.each, plain.ordered⟩) (by simp)
  | some comment =>
    have remarked := fun later => both.concat same (some comment) later
    cases comment?' with
    | none => exact agrees_pure (.again (remarked _)) (by simp)
    | some _ => exact agrees_pure (.again (remarked _)) (by simp)

theorem agrees_composite (nested : Nested bound rules rules') {type? type?' : Option Expr}
    (atType : Option.Rel Expr.Twins type? type?') :
    AgreesFrom (ofOptExpr type?) (bound + 1) 1 .expr (composite rules type?) (composite rules' type?') := by
  refine agrees_start.any fun _ _ => (agrees_expectMark _).eat fun _ _ _ => ?_
  refine (agrees_elements nested).deeper.bind fun found found' both => ?_
  obtain ⟨elements, comments⟩ := found
  obtain ⟨elements', comments'⟩ := found'
  refine (agrees_expectMark _).any fun _ _ => agrees_spanFrom.any fun _ _ => agrees_pure ?_ (by simp)
  have type := twins_option atType
  have elements := twins_list both.each
  exact ⟨by simpa using ⟨type.same, elements.same⟩, by simpa using ⟨type.good, elements.good, both.ordered⟩⟩

theorem agrees_arguments (nested : Nested bound rules rules') :
    Agrees bound 0
      ⟨fun found found' => Each Expr.Twins found.1 found'.1 ∧ found.2 = found'.2, fun found => ofExprs found.1⟩
      (arguments rules) (arguments rules') := by
  have entry : Agrees bound 1 ⟨fun arg arg' => arg.1.Twins arg'.1 ∧ arg.2 = arg'.2, fun arg => ofExpr arg.1⟩
      (do let arg ← rules.expr; return (arg, ← eatMark .ellipsis))
      (do let arg ← rules'.expr; return (arg, ← eatMark .ellipsis)) :=
    (nested.binary 1).last fun _ _ same => (agrees_eatMark _).given fun _ => agrees_pure ⟨same, rfl⟩ (by simp)
  refine (agrees_listUntil _ entry).bind fun args args' each => ?_
  have spread : (args.any (·.2)) = args'.any (·.2) := by
    induction each with
    | nil => rfl
    | cons both _ ih => simp only [List.any_cons, both.2, ih]
  refine agrees_pure ⟨?_, spread⟩ (by simp [List.flatMap_map])
  exact List.forall₂_map_left_iff.mpr (List.forall₂_map_right_iff.mpr (each.imp fun _ _ both => both.1))

theorem agrees_call (nested : Nested bound rules rules') {func func' : Expr} (atFunc : func.Twins func') :
    AgreesFrom (ofExpr func) (bound + 1) 1 .expr (call rules func) (call rules' func') := by
  refine (agrees_expectMark _).eat fun _ _ _ => (agrees_arguments nested).deeper.bind fun found found' both => ?_
  obtain ⟨args, ellipsis⟩ := found
  obtain ⟨args', ellipsis'⟩ := found'
  refine (agrees_expectMark _).any fun _ _ => agrees_spanFrom.any fun _ _ => agrees_pure ?_ (by simp)
  have args := twins_list both.1
  have spread : ellipsis = ellipsis' := both.2
  exact ⟨by simpa using ⟨atFunc.same, args.same, spread⟩, by simpa using ⟨atFunc.good, args.good⟩⟩

theorem agrees_bound (nested : Nested bound rules rules') :
    Agrees bound 0 (.option .expr) (Rules.bound rules) (Rules.bound rules') := by
  refine (agrees_atMark _).given fun colon => (agrees_atMark _).given fun bracket => ?_
  refine agrees_ite (fun _ => agrees_pure .none (by simp)) fun _ => ?_
  exact (nested.binary 1).bind fun _ _ same => agrees_pure (.some same) (by simp)

inductive Bracketed.Twins : Bracketed → Bracketed → Prop
  | index {index index'} (same : Expr.Twins index index') : Twins (.index index) (.index index')
  | list {indices indices'} (each : Each Expr.Twins indices indices') : Twins (.list indices) (.list indices')
  | slice {low? low?' high? high?'} (low : Option.Rel Expr.Twins low? low?') (high : Option.Rel Expr.Twins high? high?') :
    Twins (.slice low? high?) (.slice low?' high?')
  | fullSlice {low? low?' high? high?' max? max?'} (low : Option.Rel Expr.Twins low? low?')
    (high : Option.Rel Expr.Twins high? high?') (max : Option.Rel Expr.Twins max? max?') :
    Twins (.fullSlice low? high? max?) (.fullSlice low?' high?' max?')

@[simp] def Bracketed.parts : Bracketed → List Part
  | .index one => ofExpr one
  | .list indices => ofExprs indices
  | .slice low? high? => ofOptExpr low? ++ ofOptExpr high?
  | .fullSlice low? high? max? => ofOptExpr low? ++ ofOptExpr high? ++ ofOptExpr max?

@[simp] def Bracketed.kind : Kind Bracketed Bracketed := ⟨Bracketed.Twins, Bracketed.parts⟩

theorem agrees_upperBounds (nested : Nested bound rules rules') :
    Agrees bound 0 (Kind.option .expr).each (upperBounds rules) (upperBounds rules') := by
  refine agrees_loop (Kind.option .expr).each (by simp) .nil fun bounds bounds' each => ?_
  rw [← List.Forall₂.length_eq each]
  refine agrees_ite (fun _ => ?_) fun _ => agrees_pure (.done each) (by simp)
  refine (agrees_eatMark _).given fun colon => agrees_ite (fun _ => ?_) fun _ => agrees_pure (.done each) (by simp)
  exact (agrees_bound nested).bind fun _ _ same => agrees_pure (.again (each_concat each same)) (by simp)

theorem agrees_sliced (nested : Nested bound rules rules') {low? low?' : Option Expr}
    (low : Option.Rel Expr.Twins low? low?') {front : List Part} (made : front = low?.toList.flatMap ofExpr) :
    AgreesFrom front bound 0 Bracketed.kind (sliced rules low?) (sliced rules' low?') := by
  subst made
  refine (agrees_upperBounds nested).bind fun bounds bounds' each => ?_
  cases each with
  | nil =>
    cases low with
    | none => exact agrees_unexpected
    | some first => exact agrees_pure (.index first) (by simp)
  | cons high rest =>
    cases rest with
    | nil => exact agrees_pure (.slice low high) (by simp)
    | cons max rest =>
      cases rest with
      | nil => exact agrees_pure (.fullSlice low high max) (by simp)
      | cons => exact agrees_unexpected

theorem agrees_bracketed (nested : Nested bound rules rules') :
    Agrees bound 0 Bracketed.kind (bracketed rules) (bracketed rules') := by
  refine (agrees_atMark _).given fun colon => agrees_ite (fun _ => agrees_sliced nested .none rfl) fun _ => ?_
  refine (nested.binary 1).loose.bind fun _ _ first => (agrees_atMark _).given fun comma => ?_
  refine agrees_ite (fun _ => ?_) fun _ => agrees_sliced nested (.some first) (by simp)
  rw [map_eq_pure_bind, map_eq_pure_bind]
  exact (agrees_moreArgs (nested.binary 1) (.cons first .nil)).onward [] (by simp) fun _ _ each =>
    agrees_pure (.list each) (by simp)

theorem twins_slice {base base' : Expr} (atBase : base.Twins base') {low? low?' high? high?' max? max?' : Option Expr}
    {threeIndex : Bool} (atLow : Option.Rel Expr.Twins low? low?') (atHigh : Option.Rel Expr.Twins high? high?')
    (atMax : Option.Rel Expr.Twins max? max?') (bounds : AreBounds high? max? threeIndex) {span span' : Span} :
    Expr.Twins ⟨.slice base low? high? max? threeIndex, span⟩ ⟨.slice base' low?' high?' max?' threeIndex, span'⟩ := by
  have low := twins_option atLow
  have high := twins_option atHigh
  have max := twins_option atMax
  refine ⟨by simp [atBase.same, low.same, high.same, max.same], ?_⟩
  simpa using ⟨atBase.good, low.good, high.good, max.good, bounds⟩

theorem agrees_indexOrSlice (nested : Nested bound rules rules') {base base' : Expr} (atBase : base.Twins base') :
    AgreesFrom (ofExpr base) (bound + 1) 1 .expr (indexOrSlice rules base) (indexOrSlice rules' base') := by
  refine (agrees_expectMark _).eat fun _ _ _ => (agrees_bracketed nested).deeper.bind fun inner inner' both => ?_
  refine (agrees_expectMark _).any fun _ _ => agrees_spanFrom.any fun _ _ => ?_
  cases both with
  | index index =>
    exact agrees_pure ⟨by simp [atBase.same, index.same], by simpa using ⟨atBase.good, index.good⟩⟩ (by simp)
  | list each => exact agrees_pure (twins_indexList atBase each) (by simp)
  | slice low high => exact agrees_pure (twins_slice atBase low high .none ⟨rfl, by simp⟩) (by simp)
  | fullSlice low high max =>
    cases high with
    | none => exact agrees_fail
    | some high =>
      cases max with
      | none => exact agrees_fail
      | some max => exact agrees_pure (twins_slice atBase low (.some high) (.some max) ⟨rfl, fun _ => rfl⟩) (by simp)

theorem agrees_afterDot (nested : Nested bound rules rules') {base base' : Expr} (atBase : base.Twins base') :
    AgreesFrom (ofExpr base) (bound + 1) 1 .expr (afterDot rules base) (afterDot rules' base') := by
  refine (agrees_expectMark _).eat fun _ _ _ => (agrees_eatMark _).given fun paren => ?_
  refine agrees_ite (fun _ => ?_) fun _ => ?_
  · refine (agrees_eatKeyword _).given fun guard => agrees_unless (agrees_typeExpr nested).below fun _ _ both => ?_
    refine (agrees_expectMark _).any fun _ _ => agrees_spanFrom.any fun _ _ => agrees_pure ?_ (by simp)
    have type := twins_option both
    exact ⟨by simp [atBase.same, type.same], by simpa using ⟨atBase.good, type.good⟩⟩
  · refine agrees_name.equal fun field => agrees_spanFrom.any fun _ _ => agrees_pure ?_ (by simp)
    exact ⟨by simp [atBase.same], by simpa using atBase.good⟩

theorem agrees_suffixes (nested : Nested bound rules rules') {operand operand' : Expr}
    (same : operand.Twins operand') :
    AgreesFrom (ofExpr operand) bound 0 .expr (suffixes rules operand) (suffixes rules' operand') := by
  refine agrees_phrase ?_
  refine agrees_loop .expr (by simp) same fun expr expr' both => agrees_peek fun token? => AgreesFrom.at ?_
  split
  · exact (agrees_afterDot nested both).below.bind fun _ _ same => agrees_pure (.again same) (by simp)
  · exact (agrees_indexOrSlice nested both).below.bind fun _ _ same => agrees_pure (.again same) (by simp)
  · exact (agrees_call nested both).below.bind fun _ _ same => agrees_pure (.again same) (by simp)
  · refine agrees_get fun cursor cursor' alike => AgreesFrom.at ?_
    -- Whether the brace opens a literal is asked of the tree and the level alone.
    have literal : expr.isLiteralType = expr'.isLiteralType := by
      rw [← Expr.isLiteralType_erase, both.same, Expr.isLiteralType_erase]
    have named : expr.isTypeName = expr'.isTypeName := by
      rw [← Expr.isTypeName_erase, both.same, Expr.isTypeName_erase]
    rw [literal, named, alike.level]
    refine agrees_ite (fun _ => ?_) fun _ => agrees_pure (.done both) (by simp)
    exact (agrees_composite nested (.some both)).below.bind fun _ _ same => agrees_pure (.again same) (by simp)
  · exact agrees_pure (.done both) (by simp)

theorem agrees_body (nested : Nested bound rules rules') : Agrees bound 1 .block (body rules) (body rules') :=
  nested.block.atLevel 0

theorem agrees_funcOperand (nested : Nested bound rules rules') {start start' : Nat} :
    Agrees (bound + 1) 1 .expr (funcOperand rules start) (funcOperand rules' start') := by
  refine (agrees_expectKeyword _).eat fun _ _ _ => (agrees_signature nested.type).bind fun _ _ type => ?_
  refine (agrees_atMark _).given fun brace => agrees_ite (fun _ => ?_) fun _ => agrees_spanFrom.any fun _ _ => ?_
  · refine (agrees_body nested).deeper.bind fun _ _ body => agrees_spanFrom.any fun _ _ => agrees_pure ?_ (by simp)
    exact ⟨by simp [type.same, body.same], by simpa using ⟨type.good, body.good⟩⟩
  · exact agrees_pure ⟨by simp [type.same], by simpa using type.good⟩ (by simp)

theorem agrees_parenthesized (nested : Nested bound rules rules') {start start' : Nat} :
    Agrees (bound + 1) 1 .expr (parenthesized rules start) (parenthesized rules' start') := by
  refine (agrees_expectMark _).eat fun _ _ _ => (nested.binary 1).deeper.bind fun _ _ inner => ?_
  refine (agrees_expectMark _).any fun _ _ => agrees_spanFrom.any fun _ _ => agrees_pure ?_ (by simp)
  exact ⟨by simp [inner.same], by simpa using inner.good⟩

theorem agreesAt_literal {token : Token} {front : List Part} {kind : Kind Expr Expr} {next next' : Unit → Parser Expr}
    (then' : AgreesFrom (front ++ [.word (.ofLiteral token.text)]) bound 0 kind (next ()) (next' ()))
    (isLiteral : token.isLiteral = true) :
    AgreesAt (some token) front (bound + 1) 1 kind (skip >>= next) (skip >>= next') := by
  refine .word _ then' ?_ rfl fun genuine => genuine.literal isLiteral
  cases token with
  | number | string | rune => rfl
  | _ => cases isLiteral

theorem agrees_operand (nested : Nested bound rules rules') :
    Agrees (bound + 1) 1 .expr (operand rules) (operand rules') := by
  refine agrees_get fun cursor cursor' alike => ?_
  simp only [← alike.peek]
  generalize cursor.peek = token?
  split
  · rename_i name
    exact AgreesAt.word (.word (.ident name)) (agrees_pure ⟨by simp, by simp⟩ (by simp)) rfl rfl fun _ => rfl
  · exact agreesAt_literal (agrees_pure ⟨by simp, by simp⟩ (by simp)) rfl
  · exact agreesAt_literal (agrees_pure ⟨by simp, by simp⟩ (by simp)) rfl
  · exact agreesAt_literal (agrees_pure ⟨by simp, by simp⟩ (by simp)) rfl
  · exact (agrees_parenthesized nested).at
  · exact (agrees_funcOperand nested).at
  · exact (agrees_typeExpr nested).at
  · exact (agrees_typeExpr nested).at
  · exact (agrees_typeExpr nested).at
  · exact (agrees_typeExpr nested).at
  · exact (agrees_typeExpr nested).at
  · exact agrees_unexpected.at

theorem agrees_primary (nested : Nested bound rules rules') :
    Agrees (bound + 1) 1 .expr (primary rules) (primary rules') :=
  (agrees_operand nested).eat fun _ _ same => agrees_suffixes nested same

theorem isWord_of_unaryOp {token : Token} {op : UnaryOp} (isOp : unaryOp? token = some op) : token.isWord = false := by
  cases token with
  | mark => rfl
  | _ => cases isOp

theorem isWord_of_binaryOp {token : Token} {op : BinaryOp} (isOp : binaryOp? token = some op) :
    token.isWord = false := by
  cases token with
  | mark => rfl
  | _ => cases isOp

theorem agrees_unaryExpr (nested : Nested bound rules rules') :
    Agrees (bound + 1) 1 .expr (unaryExpr rules) (unaryExpr rules') := by
  refine agrees_get fun cursor cursor' alike => ?_
  simp only [← alike.peek]
  generalize cursor.peek = token?
  split
  · refine AgreesAt.skip (nested.unary.bind fun _ _ operand => agrees_spanFrom.any fun _ _ =>
      agrees_pure ?_ (by simp)) rfl
    exact ⟨by simp [operand.same], by simpa using operand.good⟩
  · refine AgreesAt.peekAfter fun later? => ?_
    split
    · exact ((agrees_typeExpr nested).eat fun _ _ same => agrees_suffixes nested same).at
    · split
      · rename_i isOp
        refine AgreesAt.skip (nested.unary.bind fun _ _ operand => agrees_spanFrom.any fun _ _ =>
          agrees_pure ?_ (by simp)) (isWord_of_unaryOp isOp)
        exact ⟨by simp [operand.same], by simpa using operand.good⟩
      · exact (agrees_primary nested).at
  · exact (agrees_primary nested).at

theorem agrees_binaryExpr (nested : Nested bound rules rules') (least : Nat) :
    Agrees (bound + 1) 1 .expr (binaryExpr rules least) (binaryExpr rules' least) := by
  refine (agrees_unaryExpr nested).eat fun first first' both => ?_
  refine agrees_loop .expr (by simp) both fun left left' left => agrees_peek fun token? => ?_
  split
  · rename_i found
    obtain ⟨token, rfl, isOp⟩ := Option.bind_eq_some_iff.mp found
    split
    · refine AgreesAt.loose (AgreesAt.skip ?_ (isWord_of_binaryOp isOp))
      refine (nested.binary _).bind fun _ _ right => agrees_pure (.again ?_) (by simp)
      exact ⟨by simp [left.same, right.same], by simpa using ⟨left.good, right.good⟩⟩
    · exact AgreesFrom.at (agrees_pure (.done left) (by simp))
  · exact AgreesFrom.at (agrees_pure (.done left) (by simp))

theorem agrees_outerExpr (nested : Nested bound rules rules') :
    Agrees (bound + 1) 1 .expr (outerExpr rules) (outerExpr rules') :=
  agrees_binaryExpr nested 1

theorem agrees_exprList (nested : Nested bound rules rules') :
    Agrees (bound + 1) 1 (.each .expr) (exprList rules) (exprList rules') :=
  agrees_commaList (agrees_outerExpr nested)

end

end Rules

end GoSpecs
