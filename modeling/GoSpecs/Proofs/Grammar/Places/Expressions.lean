import GoSpecs.Proofs.Grammar.Outcome
import GoSpecs.Proofs.Grammar.Places.Steps

namespace GoSpecs

open Located

namespace Rules

open GoSpecs.Parser

variable {pairing : Pairing} {joint : Joint pairing} {rules : Rules}

/-- The rule reads the same whole piece of syntax from both sources. -/
abbrev Wholes {α : Type} [Spanned α] (pairing : Pairing) (rule : Parser α) : Prop :=
  ∀ joint : Joint pairing, Concurs joint rule rule (pairing.Covers joint.start)

structure Paired (pairing : Pairing) (rules : Rules) : Prop where
  type : Wholes pairing rules.type
  binary : ∀ least, Wholes pairing (rules.binary least)
  unary : Wholes pairing rules.unary
  elided : Wholes pairing rules.elided
  block : ∀ joint : Joint pairing, Concurs joint rules.block rules.block (pairing.Fills joint.start)
  stmt : Wholes pairing rules.stmt
  ifElse : Wholes pairing rules.ifElse

def ParamEntry.nameExpr? (entry : ParamEntry) : Option Expr :=
  entry.name?.map fun found => ⟨.ident found.1, found.2⟩

/-- A name comes before the type, unless it is the type. -/
instance : Located ParamEntry where
  relocate place entry := ⟨entry.name?.map fun found => (found.1, place found.2), relocate place entry.type?⟩
  outlines entry := outlines (entry.type?.bind fun _ => entry.nameExpr?) ++ outlines entry.unnamed.type

theorem outlines_entry (entry : ParamEntry) : outlines entry =
    outlines (entry.type?.bind fun _ => entry.nameExpr?) ++ outlines entry.unnamed.type := rfl

section

variable {type : Parser Expr}

theorem concurs_paramType (whole : Wholes pairing type) : Wholes pairing (paramType type) := by
  refine fun joint => concurs_start (concurs_eatMark (fun next _ took => ?_) (whole joint))
  refine (whole next).bind fun elem elem' after _ covers => ?_
  exact concurs_expr ((took.spans.fills covers.behind.some).build .ellipsis) rfl

theorem clear_entry : Clear fun type => (⟨none, some type⟩ : ParamEntry) :=
  ⟨fun _ _ => rfl, fun _ => rfl⟩

theorem reads_entry {name : String} {start stop : Place} (took : pairing.Took (.ident name) start stop) :
    pairing.Reads start.first (⟨some (name, .range start.first stop.first), none⟩ : ParamEntry)
      ⟨some (name, .range start.second stop.second), none⟩ stop := by
  refine ⟨⟨?_, ?_⟩, took.name.reads.nested⟩
  · simp [relocate, took.spans.kept_eq]
  · simp [relocate, took.spans.moved_eq]

theorem reads_typedEntry {name : String} {start middle stop : Place} {type type' : Expr}
    (took : pairing.Took (.ident name) start middle) (reads : pairing.Reads middle.first type type' stop) :
    pairing.Reads start.first (⟨some (name, .range start.first middle.first), some type⟩ : ParamEntry)
      ⟨some (name, .range start.second middle.second), some type'⟩ stop := by
  have both := took.name.reads.pair reads
  refine ⟨⟨?_, ?_⟩, both.nested⟩
  · have kept := reads.moves.kept
    simp only [relocate] at kept
    simp [relocate, took.spans.kept_eq, kept]
  · have moved := reads.moves.moved
    simp only [relocate] at moved
    simp [relocate, took.spans.moved_eq, moved]

theorem concurs_paramEntry (whole : Wholes pairing type) : ReadsOn pairing (paramEntry type) := by
  intro joint
  refine concurs_atIdent fun _ => concurs_ite (fun _ => concurs_peekAfter (fun _ _ => rfl) fun later? => ?_) fun _ => ?_
  · split
    · refine concurs_ident.bind ?_
      rintro _ _ after _ ⟨name, rfl, rfl, took⟩
      exact concurs_pure ((reads_entry took).since joint.stop_le_start.1)
    · refine concurs_ident.bind ?_
      rintro _ _ after _ ⟨name, rfl, rfl, took⟩
      exact concurs_pure ((reads_entry took).since joint.stop_le_start.1)
    · exact (whole joint).bind fun _ _ _ _ covers => concurs_pure (covers.behind.build clear_entry)
    · refine concurs_ident.bind ?_
      rintro _ _ next _ ⟨name, rfl, rfl, took⟩
      refine (concurs_paramType whole next).bind fun _ _ after _ covers => concurs_pure ?_
      exact (reads_typedEntry took covers.behind).since joint.stop_le_start.1
  · exact (concurs_paramType whole joint).bind fun _ _ _ _ covers => concurs_pure (covers.behind.build clear_entry)

theorem relocate_unnamed {place : Span → Span} (fixed : place .detached = .detached) (entry : ParamEntry) :
    relocate place entry.unnamed = (relocate place entry).unnamed := by
  rcases entry with ⟨_ | ⟨_, _⟩, _ | _⟩ <;> simp [relocate, ParamEntry.unnamed, fixed]

theorem namedFields?_relocate (place : Span → Span) (waiting : List String) (entries : List ParamEntry) :
    namedFields? waiting (relocate place entries) = (namedFields? waiting entries).map (relocate place) := by
  fun_induction namedFields? waiting entries with
  | case1 waiting empty => simp [relocate, namedFields?, empty]
  | case2 waiting filled => simp [relocate, namedFields?, filled]
  | case3 waiting name span entries ih => exact ih
  | case4 waiting name span type entries ih =>
    change (do
      let fields ← namedFields? [] (relocate place entries)
      return (⟨waiting ++ [name], relocate place type, none, none⟩ : Field) :: fields) = _
    rw [ih]
    cases namedFields? [] entries <;> simp [relocate]
  | case5 => rfl

/-- The second is made of parts of the first. -/
def Picks {α β : Type} [Located α] [Located β] (one : α) (two : β) : Prop :=
  (extents two).Sublist (extents one)

theorem Picks.reads {α β : Type} [Located α] [Located β] {one other : α} {two other' : β} {low : Nat} {stop : Place}
    (picks : Picks one two) (reads : pairing.Reads low one other stop) (moves : pairing.Moves two other') :
    pairing.Reads low two other' stop :=
  ⟨moves, reads.nested.sublist picks⟩

theorem Picks.nil {α β : Type} [Located α] [Located β] {one : α} : Picks one ([] : List β) :=
  List.nil_sublist _

theorem Picks.cons {entry : ParamEntry} {entries : List ParamEntry} {fields : List Field} (names : List String)
    (picks : Picks entries fields) :
    Picks (entry :: entries) ((⟨names, entry.unnamed.type, none, none⟩ : Field) :: fields) := by
  unfold Picks
  rw [extents_cons, extents_cons, (Clear.param names).ranges]
  refine .append ?_ picks
  rw [extents, extents, outlines_entry, Outline.extentsOf_append]
  exact List.sublist_append_right _ _

theorem picks_namedFields? {waiting : List String} {entries : List ParamEntry} {fields : List Field}
    (found : namedFields? waiting entries = some fields) : Picks entries fields := by
  fun_induction namedFields? waiting entries generalizing fields with
  | case1 =>
    cases found
    exact .nil
  | case2 => cases found
  | case3 waiting name span entries ih =>
    unfold Picks
    rw [extents_cons]
    exact List.sublist_append_of_sublist_right (ih found)
  | case4 waiting name span type entries ih =>
    obtain ⟨rest, atRest, atFields⟩ := Option.bind_eq_some_iff.mp found
    cases atFields
    exact (ih atRest).cons _
  | case5 => cases found

theorem picks_unnamed (entries : List ParamEntry) : Picks entries (entries.map ParamEntry.unnamed) := by
  induction entries with
  | nil => exact .nil
  | cons entry entries ih => exact ih.cons []

theorem moves_unnamed {entries entries' : List ParamEntry} (moves : pairing.Moves entries entries') :
    pairing.Moves (entries.map ParamEntry.unnamed) (entries'.map ParamEntry.unnamed) := by
  have commutes (place : Span → Span) (fixed : place .detached = .detached) :
      relocate place (entries.map ParamEntry.unnamed) = (relocate place entries).map ParamEntry.unnamed := by
    simp [relocate_unnamed fixed]
  exact ⟨by rw [commutes _ rfl, moves.kept], by rw [commutes _ rfl, moves.moved]⟩

theorem Pairing.Reads.namedFields? {low : Nat} {stop : Place} {entries entries' : List ParamEntry}
    (reads : pairing.Reads low entries entries' stop) (waiting : List String) :
    (Rules.namedFields? waiting entries = none ∧ Rules.namedFields? waiting entries' = none) ∨
      ∃ fields fields', Rules.namedFields? waiting entries = some fields ∧
        Rules.namedFields? waiting entries' = some fields' ∧ pairing.Reads low fields fields' stop := by
  have kept := namedFields?_relocate pairing.kept waiting entries
  have moved := namedFields?_relocate pairing.moved waiting entries
  rw [reads.moves.kept] at kept
  rw [reads.moves.moved] at moved
  cases found : Rules.namedFields? waiting entries with
  | none => exact .inl ⟨rfl, by rw [moved, found]; rfl⟩
  | some fields =>
    rw [found] at kept moved
    exact .inr ⟨fields, _, rfl, moved, (picks_namedFields? found).reads reads ⟨(Option.some.inj kept).symm, rfl⟩⟩

theorem any_relocate (place : Span → Span) (entries : List ParamEntry) :
    (relocate place entries).any (fun entry => entry.name?.isSome && entry.type?.isSome) =
      entries.any fun entry => entry.name?.isSome && entry.type?.isSome := by
  simp [relocate, List.any_map, Function.comp_def]

theorem concurs_params (whole : Wholes pairing type) (joint : Joint pairing) :
    Concurs joint (params type) (params type) (pairing.Fills joint.start) := by
  refine concurs_start (concurs_expectMark.bind fun _ _ next _ ⟨took, _⟩ => ?_)
  refine (concurs_listUntil .rparen (concurs_paramEntry whole)).bind fun entries entries' after _ reads => ?_
  refine concurs_expectMark.bind fun _ _ last later _ => ?_
  have reads := reads.upTo later
  have same : entries'.any (fun entry => entry.name?.isSome && entry.type?.isSome) = _ :=
    reads.moves.moved ▸ any_relocate pairing.moved entries
  rw [same]
  refine concurs_ite (fun _ => ?_) fun _ => ?_
  · rw [namedParams_eq, namedParams_eq]
    rcases Pairing.Reads.namedFields? reads [] with ⟨one, two⟩ | ⟨fields, fields', one, two, reads⟩
    · rw [one, two]
      exact concurs_failFrom (took.spans.fills reads).spans
    · rw [one, two]
      exact concurs_pure (took.spans.fills reads)
  · exact concurs_pure (took.spans.fills ((picks_unnamed entries).reads reads (moves_unnamed reads.moves)))

theorem concurs_signature (whole : Wholes pairing type) (joint : Joint pairing) :
    Concurs joint (signature type) (signature type) (pairing.Fills joint.start) := by
  refine (concurs_params whole joint).bind fun params params' next _ fills => ?_
  refine concurs_atMark fun _ => concurs_ite (fun _ => ?_) fun _ => concurs_peek (fun _ _ => rfl) fun _ _ => ?_
  · exact (concurs_params whole next).bind fun _ _ after _ more => concurs_pure ((fills.pair more.behind).build .signature)
  · refine concurs_ite (fun _ => ?_) fun _ => ?_
    · refine (whole next).bind fun _ _ after _ covers => concurs_pure ?_
      exact (fills.pair (covers.behind.build (.param [])).single).build .signature
    · exact concurs_pure ((fills.pair (.nil (Nat.le_refl _))).build .signature)

theorem concurs_constraintTerm (whole : Wholes pairing type) : Wholes pairing (constraintTerm type) := by
  refine fun joint => concurs_start (concurs_eatMark (fun next _ took => ?_) (whole joint))
  refine (whole next).bind fun operand operand' after _ covers => ?_
  exact concurs_expr ((took.spans.fills covers.behind).build (.unary .tilde)) rfl

theorem concurs_constraint (whole : Wholes pairing type) : Wholes pairing (constraint type) := by
  refine fun joint => (concurs_constraintTerm whole joint).bind fun first first' next _ covers => ?_
  refine concurs_loop (pairing.Covers joint.start) (fun left left' after _ covers => ?_) covers
  refine concurs_eatMark (fun read later _ => ?_) (concurs_pure covers)
  refine (concurs_constraintTerm whole read).bind fun right right' last _ more => concurs_pure ?_
  exact covers.join more later (.binary .or) rfl

theorem concurs_typeParams (whole : Wholes pairing type) (joint : Joint pairing) :
    Concurs joint (typeParams type) (typeParams type) (pairing.Fills joint.start) := by
  refine concurs_start (concurs_expectMark.bind fun _ _ next _ ⟨took, _⟩ => ?_)
  refine (concurs_listUntil .rbracket fun joint => ?_).bind fun entries entries' after _ reads => ?_
  · refine concurs_ident.bind ?_
    rintro _ _ next _ ⟨name, rfl, rfl, took⟩
    refine concurs_atMark fun _ => concurs_atMark fun _ => concurs_ite (fun _ => ?_) fun _ => ?_
    · exact concurs_pure ((reads_entry took).since joint.stop_le_start.1)
    · refine (concurs_constraint whole next).bind fun _ _ after _ covers => concurs_pure ?_
      exact (reads_typedEntry took covers.behind).since joint.stop_le_start.1
  · refine concurs_expectMark.bind fun _ _ last later _ => ?_
    have reads := reads.upTo later
    have spans := (took.spans.fills reads).spans
    rcases Pairing.Reads.namedFields? reads [] with ⟨one, two⟩ | ⟨fields, fields', one, two, reads⟩
    · rw [one, two]
      exact concurs_failFrom spans
    · rw [one, two]
      cases fields with
      | nil =>
        cases reads.moves.moved
        exact concurs_failFrom spans
      | cons field fields =>
        have moved := reads.moves.moved
        cases fields' with
        | nil => cases moved
        | cons field' fields' => exact concurs_pure (took.spans.fills reads)

theorem concurs_tag? (joint : Joint pairing) : Concurs joint tag? tag? fun tag? tag?' _ => tag?' = tag? := by
  refine concurs_peek (fun _ _ => rfl) fun token? peeked => ?_
  split
  · exact (concurs_skip peeked rfl).bind fun _ _ _ _ _ => concurs_pure rfl
  · exact concurs_pure rfl

theorem concurs_atEmbedded (joint : Joint pairing) :
    Concurs joint atEmbedded atEmbedded fun found found' _ => found' = found := by
  refine concurs_peek (fun _ _ => rfl) fun token? _ => ?_
  split
  · exact concurs_pure rfl
  · refine concurs_peekAfter (fun _ _ => rfl) fun later? => ?_
    split <;> exact concurs_pure rfl
  · exact concurs_unexpected

theorem concurs_names (joint : Joint pairing) :
    Concurs joint (commaList name) (commaList name) (pairing.Fills joint.start) := by
  refine concurs_commaList fun joint => concurs_name.mono ?_
  rintro _ name after _ ⟨rfl, took⟩
  exact ⟨took.spans, .ofMoves ⟨rfl, rfl⟩ rfl (Nat.le_of_lt took.spans.less)⟩

theorem concurs_structField (whole : Wholes pairing type) : ReadsOn pairing (structField type) := by
  refine fun joint => (concurs_atEmbedded joint).bind ?_
  rintro found _ next le rfl
  refine concurs_either (fun names names' _ => names' = names) (fun _ => concurs_pure rfl) (fun _ => ?_) ?_
  · exact (concurs_names next).mono fun _ _ _ _ fills => fills.reads.moves.names_eq
  · rintro _ names atType le' rfl
    refine (whole atType).bind fun type type' atTag _ covers => (concurs_tag? atTag).bind ?_
    rintro _ written? last later rfl
    refine concurs_lastEnd (concurs_trailingComment (Pairing.level_joint last) ?_)
    intro comment? comment?' after same moves
    have reads : pairing.Reads joint.stop.first (type, comment?) (type', comment?') last.stop :=
      (covers.behind.since (Nat.le_trans le le')).pair (.ofMoves moves (elim_none _) later)
    rw [← same] at reads
    exact concurs_pure (reads.build (.field names written?))

theorem concurs_interfaceElem (whole : Wholes pairing type) : ReadsOn pairing (interfaceElem type) := by
  -- Both kinds of elements are a type with a comment behind it.
  have close {start : Place} {low : Nat} {names : List String} {last : Joint pairing} {type type' : Expr}
      (covers : pairing.Covers start type type' last.stop) (le : low ≤ start.first) :
      Concurs last (do return (⟨names, type, none, ← trailingComment (← lastEnd)⟩ : Field))
        (do return (⟨names, type', none, ← trailingComment (← lastEnd)⟩ : Field)) (pairing.Reads low) := by
    refine concurs_lastEnd (concurs_trailingComment (Pairing.level_joint last) ?_)
    intro comment? comment?' after same moves
    have reads := (covers.reads.since le).pair (.ofMoves moves (elim_none _) (Nat.le_refl _))
    rw [← same] at reads
    exact concurs_pure (reads.build (.field names none))
  refine fun joint => concurs_atIdent fun _ => concurs_peekAfter (fun _ _ => rfl) fun _ => ?_
  refine concurs_ite (fun _ => concurs_name.bind ?_) fun _ => ?_
  · rintro _ name next le ⟨rfl, _⟩
    refine concurs_start ((concurs_signature whole next).bind fun method method' last _ fills => ?_)
    have covers := (fills.build .funcType).expr rfl
    exact concurs_spanFrom fills.spans (close covers (Nat.le_trans le next.stop_le_start.1))
  · exact (concurs_constraint whole joint).bind fun _ _ last _ covers => close covers joint.stop_le_start.1

theorem concurs_braced {α : Type} [Located α] {entry : Parser α} (reads : ReadsOn pairing entry) (joint : Joint pairing) :
    Concurs joint (braced entry) (braced entry) fun found found' stop =>
      pairing.Fills joint.start (⟨found.1, found.2⟩ : Enclosed (List α)) ⟨found'.1, found'.2⟩ stop := by
  refine concurs_expectMark.bind ?_
  rintro _ _ next _ ⟨took, rfl, rfl⟩
  refine (concurs_linesUntil .rbrace reads).bind fun entries entries' atBrace le reads => concurs_expectMark.bind ?_
  rintro _ _ last later ⟨closing, rfl, rfl⟩
  obtain ⟨merged, merged'⟩ := took.spans.merge closing.spans (Nat.le_trans le atBrace.stop_le_start.1)
  rw [merged, merged']
  exact concurs_pure (took.spans.fills (reads.upTo later)).enclosed

theorem concurs_typeArgs (whole : Wholes pairing type) {start : Place} {base base' : Expr}
    (covers : pairing.Covers start base base' joint.stop) :
    Concurs joint (typeArgs type base start.first) (typeArgs type base' start.second) (pairing.Covers start) := by
  refine concurs_expectMark.bind fun _ _ next le _ => (whole next).bind fun first first' after _ fills => ?_
  refine concurs_bind (pairing.Reads joint.stop.first) (concurs_loop _ (fun args args' after later reads => ?_)
    (fills.behind.since le).single) fun args args' atBracket _ reads => ?_
  · refine concurs_eatMark (fun read later _ => ?_) (concurs_pure reads)
    refine concurs_atMark fun _ => concurs_ite (fun _ => concurs_pure (reads.upTo later)) fun _ => ?_
    refine (whole read).bind fun _ _ _ _ more => concurs_pure ?_
    exact reads.append (more.behind.since later).single
  · refine concurs_expectMark.bind fun _ _ last later _ => ?_
    have reads := reads.upTo later
    have fills := covers.pair reads
    refine concurs_spanFrom fills.spans ?_
    rcases args with _ | ⟨arg, _ | ⟨second, rest⟩⟩
    · cases reads.moves.nil_inv
      exact concurs_pure ((fills.build .indexList).expr rfl)
    · obtain ⟨arg', rfl, alone⟩ := reads.single_inv
      exact concurs_pure (((covers.pair alone).build .index).expr rfl)
    · obtain ⟨_, _, rfl, -, rest⟩ := reads.moves.cons_inv
      obtain ⟨_, _, rfl, -, -⟩ := rest.cons_inv
      exact concurs_pure ((fills.build .indexList).expr rfl)

theorem concurs_typeName (joint : Joint pairing) :
    Concurs joint (typeName joint.start.first) (typeName joint.start.second) (pairing.Covers joint.start) := by
  refine concurs_ident.bind ?_
  rintro _ _ next _ ⟨name, rfl, rfl, took⟩
  refine concurs_atMark fun _ => concurs_peekAfter (fun _ _ => rfl) fun _ => concurs_ite (fun _ => ?_) fun _ => ?_
  · refine concurs_pass.bind fun _ _ atName le _ => concurs_name.bind ?_
    rintro _ field last later ⟨rfl, _⟩
    exact concurs_expr ((took.name.upTo (Nat.le_trans le later)).build (.selector field)) rfl
  · exact concurs_spanFrom took.spans (concurs_pure took.name)

end

theorem Paired.expr (paired : rules.Paired pairing) : Wholes pairing rules.expr :=
  paired.binary 1

theorem Paired.deeper (paired : rules.Paired pairing) (joint : Joint pairing) :
    Concurs joint (deeper rules.expr) (deeper rules.expr) (pairing.Covers joint.start) :=
  concurs_deeper fun _ => paired.expr _

theorem concurs_arrayLength (paired : rules.Paired pairing) : ReadsOn pairing (arrayLength rules) := by
  intro joint
  have length : Concurs joint (do return some (← Parser.deeper rules.expr)) (do return some (← Parser.deeper rules.expr))
      (pairing.Reads joint.stop.first) :=
    (paired.deeper joint).bind fun _ _ _ _ covers => concurs_pure covers.behind.some
  refine concurs_get ?_
  rcases joint.peek_cases with same | ⟨inserted, inserted', one, two⟩
  · rw [same]
    split
    · exact concurs_pure (.none (Nat.le_refl _))
    · rename_i peeked
      rw [Joint.span_first peeked rfl, Joint.span_second peeked rfl]
      have fills := (joint.took peeked rfl).spans.fills (Pairing.Reads.none (α := Expr) (Nat.le_refl _))
      exact concurs_advance ((fills.build .ellipsis).expr rfl).behind.some
    · exact length
  · rw [one, two]
    exact length

theorem concurs_typeNode (paired : rules.Paired pairing) (joint : Joint pairing) :
    Concurs joint (typeNode rules) (typeNode rules) fun node node' stop =>
      pairing.Fills joint.start node node' stop ∧ node.outline.name? = none := by
  refine concurs_peek (fun _ _ => rfl) fun token? peeked => ?_
  split
  · refine (concurs_skip peeked rfl).bind fun _ _ next _ took => (paired.type next).bind fun _ _ _ _ covers => ?_
    exact concurs_pure ⟨(took.spans.fills covers.behind).build .star, rfl⟩
  · refine (concurs_skip peeked rfl).bind fun _ _ next _ took => (paired.type next).bind fun _ _ _ _ covers => ?_
    refine concurs_expectMark.bind fun _ _ last later _ => concurs_pure ⟨?_, rfl⟩
    exact ((took.spans.fills covers.behind).upTo later).build .paren
  · refine (concurs_skip peeked rfl).bind fun _ _ next _ took => (concurs_arrayLength paired next).bind ?_
    refine fun length length' _ _ reads => concurs_expectMark.bind fun _ _ atElem later _ => ?_
    refine (paired.type atElem).bind fun _ _ _ _ covers => concurs_pure ⟨?_, rfl⟩
    exact (took.spans.fills (reads.pair (covers.behind.since later))).build .arrayType
  · refine (concurs_skip peeked rfl).bind fun _ _ _ _ took => concurs_expectMark.bind fun _ _ atKey later _ => ?_
    refine (paired.type atKey).bind fun _ _ _ _ key => concurs_expectMark.bind fun _ _ atValue later' _ => ?_
    refine (paired.type atValue).bind fun _ _ _ _ value => concurs_pure ⟨?_, rfl⟩
    have parts := (key.behind.since later).pair (value.behind.since later')
    exact (took.spans.fills parts).build .mapType
  · refine (concurs_skip peeked rfl).bind fun _ _ next _ took => concurs_eatMark (fun read later _ => ?_) ?_
    · refine (paired.type read).bind fun _ _ _ _ covers => concurs_pure ⟨?_, rfl⟩
      exact (took.spans.fills (covers.behind.since later)).build (.chanType .send)
    · refine (paired.type next).bind fun _ _ _ _ covers => concurs_pure ⟨?_, rfl⟩
      exact (took.spans.fills covers.behind).build (.chanType .both)
  · refine (concurs_skip peeked rfl).bind fun _ _ _ _ took => concurs_expectKeyword.bind fun _ _ next later _ => ?_
    refine (paired.type next).bind fun _ _ _ _ covers => concurs_pure ⟨?_, rfl⟩
    exact (took.spans.fills (covers.behind.since later)).build (.chanType .recv)
  · refine (concurs_skip peeked rfl).bind fun _ _ next _ took => ?_
    refine (concurs_signature paired.type next).bind fun _ _ _ _ fills => concurs_pure ⟨?_, rfl⟩
    exact (took.spans.fills fills.behind).build .funcType
  · refine (concurs_skip peeked rfl).bind fun _ _ next _ took => ?_
    refine (concurs_braced (concurs_structField paired.type) next).bind fun _ _ _ _ fills => concurs_pure ⟨?_, rfl⟩
    exact (took.spans.fills fills.behind).build .structType
  · refine (concurs_skip peeked rfl).bind fun _ _ next _ took => ?_
    refine (concurs_braced (concurs_interfaceElem paired.type) next).bind fun _ _ _ _ fills => concurs_pure ⟨?_, rfl⟩
    exact (took.spans.fills fills.behind).build .interfaceType
  · exact concurs_unexpected

theorem concurs_typeExpr (paired : rules.Paired pairing) : Wholes pairing (typeExpr rules) := by
  refine fun joint => concurs_start (concurs_atIdent fun _ => concurs_ite (fun _ => ?_) fun _ => ?_)
  · refine (concurs_typeName joint).bind fun base base' next _ covers => ?_
    refine concurs_atMark fun _ => concurs_ite (fun _ => ?_) fun _ => concurs_pure covers
    exact concurs_typeArgs paired.type covers
  · refine (concurs_typeNode paired joint).bind fun node node' next _ ⟨fills, other⟩ => ?_
    exact concurs_expr fills other

theorem concurs_elementValue (paired : rules.Paired pairing) : Wholes pairing (elementValue rules) :=
  fun joint => concurs_atMark fun _ => concurs_ite (fun _ => paired.elided joint) fun _ => paired.expr joint

theorem concurs_element (paired : rules.Paired pairing) : Wholes pairing (element rules) := by
  refine fun joint => (concurs_elementValue paired joint).bind fun key key' next _ covers => ?_
  refine concurs_eatMark (fun read later _ => ?_) (concurs_pure covers)
  refine (concurs_elementValue paired read).bind fun value value' last _ more => concurs_pure ?_
  exact covers.join more later .keyValue rfl

structure ElementsRead (pairing : Pairing) (low : Nat) (found found' : List Expr × List ElementComment) (stop : Place) :
    Prop where
  elements : pairing.Reads low found.1 found'.1 stop
  comments : pairing.Moves found.2 found'.2

theorem concurs_elements (paired : rules.Paired pairing) (joint : Joint pairing) :
    Concurs joint (elements rules) (elements rules) (ElementsRead pairing joint.stop.first) := by
  refine concurs_loop (ElementsRead pairing joint.stop.first) ?_ ⟨.nil (Nat.le_refl _), .nil⟩
  rintro ⟨elements, comments⟩ ⟨elements', comments'⟩ after - ⟨reads, moves⟩
  refine concurs_atMark fun _ => concurs_ite (fun _ => concurs_pure ⟨reads, moves⟩) fun _ => ?_
  refine (concurs_element paired after).bind fun element element' next _ covers => ?_
  have more := reads.append covers.behind.single
  refine concurs_eatMark (fun read later _ => ?_) (concurs_pure ⟨more, moves⟩)
  refine concurs_lastEnd (concurs_trailingLineComment (Pairing.level_joint read) ?_)
  intro comment? comment?' last same noted
  have more := more.upTo (same ▸ later)
  cases comment? with
  | none =>
    cases noted.moved
    exact concurs_pure ⟨more, moves⟩
  | some comment =>
    cases noted.moved
    have kept : comment.relocate pairing.kept = comment := Option.some.inj noted.kept
    exact concurs_pure ⟨more, moves.append ⟨by simp [relocate, ElementComment.relocate, kept],
      by simp [relocate, ElementComment.relocate, reads.moves.length_eq]⟩⟩

theorem concurs_composite (paired : rules.Paired pairing) {type? type?' : Option Expr} {start : Place}
    (begins : (type?.map startOf).getD joint.start.first = start.first)
    (begins' : (type?'.map startOf).getD joint.start.second = start.second)
    (enclosed : ∀ {inner inner' : Enclosed (List Expr)} {after : Joint pairing},
      pairing.Fills joint.start inner inner' after.stop → pairing.Fills start (type?, inner) (type?', inner') after.stop) :
    Concurs joint (composite rules type?) (composite rules type?') (pairing.Covers start) := by
  refine concurs_start ?_
  rw [begins, begins']
  refine concurs_expectMark.bind ?_
  rintro _ _ next _ ⟨took, rfl, rfl⟩
  refine concurs_bind (ElementsRead pairing next.stop.first) (concurs_deeper fun _ => concurs_elements paired _) ?_
  rintro ⟨elements, comments⟩ ⟨elements', comments'⟩ atBrace le ⟨reads, moves⟩
  refine concurs_expectMark.bind ?_
  rintro _ _ last later ⟨closing, rfl, rfl⟩
  obtain ⟨merged, merged'⟩ := took.spans.merge closing.spans (Nat.le_trans le atBrace.stop_le_start.1)
  rw [merged, merged']
  have fills := enclosed (took.spans.fills (reads.upTo later)).enclosed
  have parts := fills.reads.pair (.ofMoves moves (flatMap_none _) (Nat.le_refl _))
  exact concurs_expr ⟨fills.spans, parts.build .composite⟩ rfl

theorem clear_firsts : Clear fun args : List (Expr × Bool) => args.map (·.1) where
  relocates _ _ := by simp [relocate]
  ranges _ := by simp [extents, outlines, List.flatMap_map]

def ArgumentsRead (pairing : Pairing) (low : Nat) (found found' : List Expr × Bool) (stop : Place) : Prop :=
  pairing.Reads low found.1 found'.1 stop ∧ found'.2 = found.2

theorem concurs_arguments (paired : rules.Paired pairing) (joint : Joint pairing) :
    Concurs joint (arguments rules) (arguments rules) (ArgumentsRead pairing joint.stop.first) := by
  refine (concurs_listUntil .rparen fun joint => ?_).bind fun args args' _ _ reads => concurs_pure ⟨?_, ?_⟩
  · refine (paired.expr joint).bind fun arg arg' next _ covers => ?_
    refine concurs_eatMark (fun read later _ => concurs_pure ?_) (concurs_pure ?_)
    · exact (covers.behind.upTo later).pair (.ofMoves ⟨rfl, rfl⟩ rfl (Nat.le_refl _))
    · exact covers.behind.pair (.ofMoves ⟨rfl, rfl⟩ rfl (Nat.le_refl _))
  · exact reads.build clear_firsts
  · rw [← reads.moves.moved]
    simp [relocate, List.any_map, Function.comp_def]

theorem concurs_call (paired : rules.Paired pairing) {func func' : Expr} {start : Place}
    (covers : pairing.Covers start func func' joint.stop) :
    Concurs joint (call rules func) (call rules func') (pairing.Covers start) := by
  refine concurs_expectMark.bind ?_
  rintro _ _ next _ ⟨took, rfl, rfl⟩
  refine concurs_bind (ArgumentsRead pairing next.stop.first) (concurs_deeper fun _ => concurs_arguments paired _) ?_
  rintro ⟨args, _⟩ ⟨args', ellipsis⟩ atParen le ⟨reads, rfl⟩
  refine concurs_expectMark.bind ?_
  rintro _ _ last later ⟨closing, rfl, rfl⟩
  obtain ⟨merged, merged'⟩ := took.spans.merge closing.spans (Nat.le_trans le atParen.stop_le_start.1)
  rw [merged, merged', covers.startOf.1, covers.startOf.2]
  have args := (took.spans.fills (reads.upTo later)).enclosed
  exact concurs_expr ((covers.pair args.behind).build (.call ellipsis)) rfl

theorem concurs_bound (paired : rules.Paired pairing) : ReadsOn pairing (bound rules) := by
  refine fun joint => concurs_atMark fun _ => concurs_atMark fun _ => concurs_ite (fun _ => ?_) fun _ => ?_
  · exact concurs_pure (.none (Nat.le_refl _))
  · exact (paired.expr joint).bind fun _ _ _ _ covers => concurs_pure covers.behind.some

def BracketsRead (pairing : Pairing) (low : Nat) : Bracketed → Bracketed → Place → Prop
  | .index index, .index index', stop => pairing.Reads low index index' stop
  | .list indices, .list indices', stop => pairing.Reads low indices indices' stop
  | .slice low? high?, .slice low?' high?', stop =>
    pairing.Reads low (low?, high?, (none : Option Expr)) (low?', high?', none) stop
  | .fullSlice low? high? max?, .fullSlice low?' high?' max?', stop =>
    pairing.Reads low (low?, high?, max?) (low?', high?', max?') stop
  | _, _, _ => False

theorem concurs_upperBounds (paired : rules.Paired pairing) : ReadsOn pairing (upperBounds rules) := by
  refine fun joint => concurs_loop (pairing.Reads joint.stop.first) (fun bounds bounds' after _ reads => ?_)
    (.nil (Nat.le_refl _))
  rw [reads.moves.length_eq]
  refine concurs_ite (fun _ => ?_) fun _ => concurs_pure reads
  refine concurs_eatMark (fun read later _ => ?_) (concurs_pure reads)
  refine (concurs_bound paired read).bind fun _ _ _ _ more => concurs_pure ?_
  exact reads.append (more.since later).single

theorem concurs_sliced (paired : rules.Paired pairing) {low : Nat} {low? low?' : Option Expr}
    (reads : pairing.Reads low low? low?' joint.stop) :
    Concurs joint (sliced rules low?) (sliced rules low?') (BracketsRead pairing low) := by
  refine (concurs_upperBounds paired joint).bind fun bounds bounds' next le more => ?_
  rcases bounds with _ | ⟨high?, _ | ⟨max?, _ | ⟨third?, rest⟩⟩⟩
  · cases more.moves.nil_inv
    cases low? with
    | none =>
      cases reads.moves.none_inv
      exact concurs_unexpected
    | some index =>
      obtain ⟨index', rfl, index⟩ := reads.some_inv
      exact concurs_pure (index.upTo le)
  · obtain ⟨high?', rfl, high⟩ := more.single_inv
    exact concurs_pure (reads.pair (high.pair (.none (Nat.le_refl _))))
  · obtain ⟨high?', max?', rfl, both⟩ := more.double_inv
    exact concurs_pure (reads.pair both)
  · obtain ⟨_, _, rfl, -, rest⟩ := more.moves.cons_inv
    obtain ⟨_, _, rfl, -, rest⟩ := rest.cons_inv
    obtain ⟨_, _, rfl, -, -⟩ := rest.cons_inv
    exact concurs_unexpected

theorem concurs_bracketed (paired : rules.Paired pairing) (joint : Joint pairing) :
    Concurs joint (bracketed rules) (bracketed rules) (BracketsRead pairing joint.stop.first) := by
  refine concurs_atMark fun _ => concurs_ite (fun _ => concurs_sliced paired (.none (Nat.le_refl _))) fun _ => ?_
  refine (paired.expr joint).bind fun first first' next _ covers => concurs_atMark fun _ => ?_
  have index := covers.behind
  refine concurs_ite (fun _ => ?_) fun _ => concurs_sliced paired index.some
  refine Concurs.map (concurs_loop (pairing.Reads joint.stop.first) (fun _ _ after _ reads => ?_) index.single)
  refine concurs_eatMark (fun read later _ => ?_) (concurs_pure reads)
  refine concurs_atMark fun _ => concurs_ite (fun _ => concurs_pure (reads.upTo later)) fun _ => ?_
  refine (paired.expr read).bind fun _ _ _ _ more => concurs_pure ?_
  exact reads.append (more.behind.since later).single

theorem concurs_indexOrSlice (paired : rules.Paired pairing) {base base' : Expr} {start : Place}
    (covers : pairing.Covers start base base' joint.stop) :
    Concurs joint (indexOrSlice rules base) (indexOrSlice rules base') (pairing.Covers start) := by
  refine concurs_expectMark.bind fun _ _ next le _ => ?_
  refine concurs_bind (BracketsRead pairing next.stop.first) (concurs_deeper fun _ => concurs_bracketed paired _) ?_
  intro inner inner' atBracket le' read
  refine concurs_expectMark.bind fun _ _ last later _ => ?_
  rw [covers.startOf.1, covers.startOf.2]
  have spans := last.spans covers.spans (Nat.le_trans le (Nat.le_trans le' later))
  refine concurs_spanFrom spans ?_
  cases inner with
  | index index =>
    cases inner' with
    | index index' => exact concurs_pure (((covers.pair (Pairing.Reads.mono read le later)).build .index).expr rfl)
    | _ => cases read
  | list indices =>
    cases inner' with
    | list indices' => exact concurs_pure (((covers.pair (Pairing.Reads.mono read le later)).build .indexList).expr rfl)
    | _ => cases read
  | slice low? high? =>
    cases inner' with
    | slice low?' high?' => exact concurs_pure (((covers.pair (Pairing.Reads.mono read le later)).build (.slice false)).expr rfl)
    | _ => cases read
  | fullSlice low? high? max? =>
    cases inner' with
    | fullSlice low?' high?' max?' =>
      have fills := (covers.pair (Pairing.Reads.mono read le later)).build (.slice true)
      cases read.moves.moved
      cases high? with
      | none => exact concurs_failAt spans
      | some high =>
        cases max? with
        | none => exact concurs_failAt spans
        | some max => exact concurs_pure (fills.expr rfl)
    | _ => cases read

theorem concurs_afterDot (paired : rules.Paired pairing) {base base' : Expr} {start : Place}
    (covers : pairing.Covers start base base' joint.stop) :
    Concurs joint (afterDot rules base) (afterDot rules base') (pairing.Covers start) := by
  refine concurs_expectMark.bind fun _ _ next le _ => ?_
  rw [covers.startOf.1, covers.startOf.2]
  refine concurs_eatMark (fun read later _ => ?_) ?_
  · have close {type? type?' : Option Expr} {last : Joint pairing} (reads : pairing.Reads joint.stop.first type? type?' last.stop) :
        Concurs last (do let _ ← expectMark .rparen; return ⟨.typeAssert base type?, ← spanFrom start.first⟩)
          (do let _ ← expectMark .rparen; return ⟨.typeAssert base' type?', ← spanFrom start.second⟩)
          (pairing.Covers (α := Expr) start) :=
      concurs_expectMark.bind fun _ _ final later _ =>
        concurs_expr ((covers.pair (reads.upTo later)).build .typeAssert) rfl
    refine concurs_eatKeyword (fun last later' _ => ?_) ?_
    · exact close (.none (Nat.le_trans le (Nat.le_trans later later')))
    · refine Concurs.bind ((concurs_typeExpr paired read).mono fun _ _ _ _ covers => ?_).map fun _ _ _ _ reads => close reads
      exact (covers.behind.since (Nat.le_trans le later)).some
  · refine concurs_name.bind ?_
    rintro _ field last later ⟨rfl, _⟩
    exact concurs_expr ((covers.upTo (Nat.le_trans le later)).build (.selector field)) rfl

theorem concurs_suffixes (paired : rules.Paired pairing) {operand operand' : Expr} {start : Place}
    (covers : pairing.Covers start operand operand' joint.stop) :
    Concurs joint (suffixes rules operand) (suffixes rules operand') (pairing.Covers start) := by
  refine concurs_phrase ?_
  refine concurs_loop (pairing.Covers start) (fun expr expr' after _ covers => ?_) covers
  refine concurs_peek (fun _ _ => rfl) fun token? _ => ?_
  split
  · exact (concurs_afterDot paired covers).bind fun _ _ _ _ covers => concurs_pure covers
  · exact (concurs_indexOrSlice paired covers).bind fun _ _ _ _ covers => concurs_pure covers
  · exact (concurs_call paired covers).bind fun _ _ _ _ covers => concurs_pure covers
  · have isType : expr'.isTypeName = expr.isTypeName := by
      rw [← covers.reads.moves.moved]
      exact expr.isTypeName_relocate _
    have isLiteral : expr'.isLiteralType = expr.isLiteralType := by
      rw [← covers.reads.moves.moved]
      exact expr.isLiteralType_relocate _
    rw [isType, isLiteral]
    have literal : Concurs after (composite rules (some expr)) (composite rules (some expr')) (pairing.Covers start) :=
      concurs_composite paired covers.startOf.1 covers.startOf.2 fun fills =>
        Pairing.Fills.pair ⟨covers.spans, covers.reads.some⟩ fills.behind
    refine concurs_get (concurs_ite (fun _ => ?_) fun _ => concurs_pure covers)
    exact literal.bind fun _ _ _ _ covers => concurs_pure covers
  · exact concurs_pure covers

theorem concurs_body (paired : rules.Paired pairing) (joint : Joint pairing) :
    Concurs joint (body rules) (body rules) (pairing.Fills joint.start) :=
  concurs_atLevel (paired.block _)

theorem concurs_funcOperand (paired : rules.Paired pairing) (joint : Joint pairing) :
    Concurs joint (funcOperand rules joint.start.first) (funcOperand rules joint.start.second)
      (pairing.Covers joint.start) := by
  refine concurs_expectKeyword.bind fun _ _ next _ ⟨took, _⟩ => ?_
  refine (concurs_signature paired.type next).bind fun type type' after _ fills => ?_
  have type := took.spans.fills fills.behind
  refine concurs_atMark fun _ => concurs_ite (fun _ => ?_) fun _ => concurs_expr (type.build .funcType) rfl
  refine concurs_bind (pairing.Fills after.start) (concurs_deeper fun _ => concurs_body paired _) fun _ _ last _ body => ?_
  exact concurs_expr ((type.pair body.behind).build .funcLit) rfl

theorem concurs_parenthesized (paired : rules.Paired pairing) (joint : Joint pairing) :
    Concurs joint (parenthesized rules joint.start.first) (parenthesized rules joint.start.second)
      (pairing.Covers joint.start) := by
  refine concurs_expectMark.bind fun _ _ next _ ⟨took, _⟩ => (paired.deeper next).bind fun _ _ _ _ covers => ?_
  refine concurs_expectMark.bind fun _ _ last later _ => ?_
  exact concurs_expr (((took.spans.fills covers.behind).upTo later).build .paren) rfl

theorem concurs_operand (paired : rules.Paired pairing) : Wholes pairing (operand rules) := by
  refine fun joint => concurs_get ?_
  rcases joint.peek_cases with same | ⟨inserted, inserted', one, two⟩
  · have literal {token : Token} (text : String) (peeked : joint.first.peek = some token)
        (plain : token.isSemicolon = false) :
        Concurs joint (do skip; return ⟨.literal text, joint.first.span⟩)
          (do skip; return ⟨.literal text, joint.second.span⟩) (pairing.Covers (α := Expr) joint.start) := by
      rw [Joint.span_first peeked plain, Joint.span_second peeked plain]
      exact concurs_advance ((joint.took peeked plain).fills_literal.expr rfl)
    rw [same, Joint.start_first, Joint.start_second]
    split
    · rename_i name peeked
      rw [Joint.span_first peeked rfl, Joint.span_second peeked rfl]
      exact concurs_advance (joint.took peeked rfl).name
    · exact literal _ ‹_› rfl
    · exact literal _ ‹_› rfl
    · exact literal _ ‹_› rfl
    · exact concurs_parenthesized paired joint
    · exact concurs_funcOperand paired joint
    · exact concurs_typeExpr paired joint
    · exact concurs_typeExpr paired joint
    · exact concurs_typeExpr paired joint
    · exact concurs_typeExpr paired joint
    · exact concurs_typeExpr paired joint
    · exact concurs_unexpected
  · rw [one, two]
    exact concurs_unexpected

theorem concurs_primary (paired : rules.Paired pairing) : Wholes pairing (primary rules) :=
  fun joint => (concurs_operand paired joint).bind fun _ _ _ _ covers => concurs_suffixes paired covers

theorem concurs_unaryExpr (paired : rules.Paired pairing) : Wholes pairing (unaryExpr rules) := by
  refine fun joint => concurs_get ?_
  rcases joint.peek_cases with same | ⟨inserted, inserted', one, two⟩
  · rw [same, Joint.start_first, Joint.start_second]
    split
    · rename_i peeked
      refine (concurs_skip peeked rfl).bind fun _ _ next _ took => (paired.unary next).bind fun _ _ _ _ covers => ?_
      exact concurs_expr ((took.spans.fills covers.behind).build .star) rfl
    · rename_i token _ peeked
      refine concurs_peekAfter (fun _ _ => rfl) fun _ => concurs_ite (fun _ => ?_) fun _ => ?_
      · exact (concurs_typeExpr paired joint).bind fun _ _ _ _ covers => concurs_suffixes paired covers
      · split
        · rename_i op isOp
          refine (concurs_skip peeked ?_).bind fun _ _ next _ took => (paired.unary next).bind fun _ _ _ _ covers => ?_
          · cases token <;> first | rfl | cases isOp
          · exact concurs_expr ((took.spans.fills covers.behind).build (.unary op)) rfl
        · exact concurs_primary paired joint
    · exact concurs_primary paired joint
  · rw [one, two]
    exact concurs_peekAfter (fun _ _ => rfl) fun _ => concurs_primary paired joint

theorem concurs_binaryExpr (paired : rules.Paired pairing) (least : Nat) : Wholes pairing (binaryExpr rules least) := by
  refine fun joint => (concurs_unaryExpr paired joint).bind fun first first' next _ covers => ?_
  refine concurs_loop (pairing.Covers joint.start) (fun left left' after _ covers => ?_) covers
  refine concurs_peek (fun _ _ => rfl) fun token? _ => ?_
  split
  · rename_i op _
    refine concurs_ite (fun _ => ?_) fun _ => concurs_pure covers
    refine concurs_pass.bind fun _ _ atRight later _ => (paired.binary _ atRight).bind fun _ _ _ _ more => ?_
    exact concurs_pure (covers.join more later (.binary op) rfl)
  · exact concurs_pure covers

theorem concurs_outerExpr (paired : rules.Paired pairing) : Wholes pairing (outerExpr rules) :=
  concurs_binaryExpr paired 1

theorem concurs_exprList (paired : rules.Paired pairing) (joint : Joint pairing) :
    Concurs joint (exprList rules) (exprList rules) (pairing.Fills joint.start) :=
  concurs_commaList fun joint => (concurs_outerExpr paired joint).mono fun _ _ _ _ covers => covers.toFills

end Rules

end GoSpecs
