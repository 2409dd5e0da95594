import GoSpecs.Proofs.Grammar.Places.Pairing

namespace GoSpecs

open Located

namespace Pairing

variable {α β γ : Type} [Located α] [Located β] [Located γ] {pairing : Pairing}

/-- All places of the one are those of tokens, and the other has the places of the same tokens in the second source. -/
structure Moves (pairing : Pairing) (one other : α) : Prop where
  kept : relocate pairing.kept one = one
  moved : relocate pairing.moved one = other

/-- The same syntax was read from both sources. In the first it lies between two offsets. -/
structure Reads (pairing : Pairing) (low : Nat) (one other : α) (stop : Place) : Prop where
  moves : pairing.Moves one other
  nested : Nested pairing.lexemes low stop.first (extents one)

namespace Moves

variable {one other : α} {two other' : β}

theorem pair (first : pairing.Moves one other) (second : pairing.Moves two other') :
    pairing.Moves (one, two) (other, other') :=
  ⟨by simp [first.kept, second.kept], by simp [first.moved, second.moved]⟩

theorem build {build : α → γ} (first : pairing.Moves one other) (clear : Clear build) :
    pairing.Moves (build one) (build other) :=
  ⟨by rw [clear.relocates, first.kept], by rw [clear.relocates, first.moved]⟩

theorem nil : pairing.Moves ([] : List α) [] :=
  ⟨rfl, rfl⟩

theorem none : pairing.Moves (none : Option α) none :=
  ⟨rfl, rfl⟩

theorem some (first : pairing.Moves one other) : pairing.Moves (some one) (some other) :=
  ⟨by simp [first.kept], by simp [first.moved]⟩

theorem append {list list' more more' : List α} (first : pairing.Moves list list') (second : pairing.Moves more more') :
    pairing.Moves (list ++ more) (list' ++ more') := by
  have kept := first.kept
  have moved := first.moved
  have kept' := second.kept
  have moved' := second.moved
  simp only [relocate_list] at kept moved kept' moved'
  exact ⟨by simp [kept, kept'], by simp [moved, moved']⟩

theorem single (first : pairing.Moves one other) : pairing.Moves [one] [other] :=
  ⟨by simp [first.kept], by simp [first.moved]⟩

theorem none_inv {part?' : Option α} (moves : pairing.Moves .none part?') : part?' = .none :=
  moves.moved.symm

theorem nil_inv {list' : List α} (moves : pairing.Moves [] list') : list' = [] :=
  moves.moved.symm

theorem cons_inv {list list' : List α} (moves : pairing.Moves (one :: list) list') :
    ∃ other rest', list' = other :: rest' ∧ pairing.Moves one other ∧ pairing.Moves list rest' := by
  have kept := moves.kept
  rw [relocate_list, List.map_cons, List.cons.injEq] at kept
  exact ⟨_, _, moves.moved.symm, ⟨kept.1, rfl⟩, ⟨kept.2, rfl⟩⟩

theorem toList {part? part?' : Option α} (moves : pairing.Moves part? part?') :
    pairing.Moves part?.toList part?'.toList := by
  cases part? with
  | none =>
    cases moves.none_inv
    exact .nil
  | some part =>
    cases moves.moved
    exact .single ⟨Option.some.inj moves.kept, rfl⟩

theorem names_eq {names names' : List String} (moves : pairing.Moves names names') : names' = names := by
  have moved := moves.moved
  simp only [relocate] at moved
  rw [← moved, List.map_id]

theorem length_eq {list list' : List α} (moves : pairing.Moves list list') : list'.length = list.length := by
  rw [← moves.moved, relocate_list, List.length_map]

end Moves

namespace Reads

variable {one other : α} {two other' : β} {low low' : Nat} {middle stop : Place}

theorem mono (reads : pairing.Reads low one other middle) (below : low' ≤ low) (above : middle.first ≤ stop.first) :
    pairing.Reads low' one other stop :=
  ⟨reads.moves, reads.nested.mono below above⟩

theorem since (reads : pairing.Reads low one other stop) (below : low' ≤ low) : pairing.Reads low' one other stop :=
  reads.mono below (Nat.le_refl _)

theorem upTo (reads : pairing.Reads low one other middle) (above : middle.first ≤ stop.first) :
    pairing.Reads low one other stop :=
  reads.mono (Nat.le_refl _) above

theorem le (reads : pairing.Reads low one other stop) : low ≤ stop.first :=
  reads.nested.le

theorem pair (first : pairing.Reads low one other middle) (second : pairing.Reads middle.first two other' stop) :
    pairing.Reads low (one, two) (other, other') stop where
  moves := first.moves.pair second.moves
  nested := by
    rw [extents, outlines_pair, Outline.extentsOf_append]
    exact first.nested.append second.nested

theorem build {build : α → γ} (reads : pairing.Reads low one other stop) (clear : Clear build) :
    pairing.Reads low (build one) (build other) stop :=
  ⟨reads.moves.build clear, clear.ranges one ▸ reads.nested⟩

theorem unbuild {build : α → γ} {node : γ} (clear : Clear build)
    (injective : ∀ first second, build first = build second → first = second)
    (reads : pairing.Reads low (build one) node stop) :
    pairing.Reads low one (relocate pairing.moved one) stop where
  moves := ⟨injective _ _ (by rw [← clear.relocates, reads.moves.kept]), rfl⟩
  nested := clear.ranges one ▸ reads.nested

theorem fst (reads : pairing.Reads low (one, two) (other, other') stop) : pairing.Reads low one other stop := by
  obtain ⟨⟨kept, moved⟩, nested⟩ := reads
  rw [relocate_pair, Prod.mk.injEq] at kept moved
  rw [extents, outlines_pair, Outline.extentsOf_append] at nested
  exact ⟨⟨kept.1, moved.1⟩, nested.sublist (List.sublist_append_left _ _)⟩

theorem snd (reads : pairing.Reads low (one, two) (other, other') stop) : pairing.Reads low two other' stop := by
  obtain ⟨⟨kept, moved⟩, nested⟩ := reads
  rw [relocate_pair, Prod.mk.injEq] at kept moved
  rw [extents, outlines_pair, Outline.extentsOf_append] at nested
  exact ⟨⟨kept.2, moved.2⟩, nested.sublist (List.sublist_append_right _ _)⟩

theorem ofMoves (moves : pairing.Moves one other) (bare : outlines one = []) (le : low ≤ stop.first) :
    pairing.Reads low one other stop :=
  ⟨moves, by rw [extents, bare]; exact .nil le⟩

theorem nil (le : low ≤ stop.first) : pairing.Reads low ([] : List α) [] stop :=
  .ofMoves .nil rfl le

theorem none (le : low ≤ stop.first) : pairing.Reads low (none : Option α) none stop :=
  .ofMoves .none rfl le

theorem some (first : pairing.Reads low one other stop) : pairing.Reads low (some one) (some other) stop :=
  ⟨first.moves.some, first.nested⟩

theorem append {list list' more more' : List α} (first : pairing.Reads low list list' middle)
    (second : pairing.Reads middle.first more more' stop) :
    pairing.Reads low (list ++ more) (list' ++ more') stop where
  moves := first.moves.append second.moves
  nested := by
    rw [extents, outlines_append, Outline.extentsOf_append]
    exact first.nested.append second.nested

theorem single (first : pairing.Reads low one other stop) : pairing.Reads low [one] [other] stop :=
  ⟨first.moves.single, by rw [extents, outlines_single]; exact first.nested⟩

theorem some_inv {part?' : Option α} (reads : pairing.Reads low (Option.some one) part?' stop) :
    ∃ other, part?' = .some other ∧ pairing.Reads low one other stop :=
  ⟨_, reads.moves.moved.symm, ⟨Option.some.inj reads.moves.kept, rfl⟩, reads.nested⟩

theorem single_inv {list' : List α} (reads : pairing.Reads low [one] list' stop) :
    ∃ other, list' = [other] ∧ pairing.Reads low one other stop := by
  obtain ⟨moves, nested⟩ := reads
  obtain ⟨other, rest', rfl, first, rest⟩ := moves.cons_inv
  cases rest.nil_inv
  rw [extents, outlines_single] at nested
  exact ⟨other, rfl, first, nested⟩

theorem double_inv {two : α} {list' : List α} (reads : pairing.Reads low [one, two] list' stop) :
    ∃ other other', list' = [other, other'] ∧ pairing.Reads low (one, two) (other, other') stop := by
  obtain ⟨moves, nested⟩ := reads
  obtain ⟨other, rest', rfl, first, rest⟩ := moves.cons_inv
  obtain ⟨other', rest', rfl, second, rest⟩ := rest.cons_inv
  cases rest.nil_inv
  rw [extents, outlines_cons, outlines_single] at nested
  exact ⟨other, other', rfl, first.pair second, nested⟩

end Reads

end Pairing

class Spanned (α : Type) extends Located α where
  span : α → Span

instance : Spanned Expr := ⟨Expr.span⟩

instance : Spanned Stmt := ⟨Stmt.span⟩

@[simp] theorem span_expr (expr : Expr) : Spanned.span expr = expr.span := rfl

@[simp] theorem span_stmt (stmt : Stmt) : Spanned.span stmt = stmt.span := rfl

namespace Pairing

/-- The same syntax was read from both sources, and it starts at the place. -/
structure Fills {α : Type} [Located α] (pairing : Pairing) (start : Place) (one other : α) (stop : Place) : Prop where
  spans : pairing.Spans start stop
  reads : pairing.Reads start.first one other stop

structure Covers {α : Type} [Spanned α] (pairing : Pairing) (start : Place) (one other : α) (stop : Place) : Prop
    extends pairing.Fills start one other stop where
  span : Spanned.span one = .range start.first stop.first
  span' : Spanned.span other = .range start.second stop.second

variable {pairing : Pairing} {start middle stop : Place}

section

variable {α β γ : Type} [Located α] [Located β] [Located γ] {one other : α} {two other' : β}

theorem Fills.behind {joint : Joint pairing} (fills : pairing.Fills joint.start one other stop) :
    pairing.Reads joint.stop.first one other stop :=
  fills.reads.since joint.stop_le_start.1

theorem Spans.fills {after : Joint pairing} (spans : pairing.Spans start middle)
    (reads : pairing.Reads middle.first one other after.stop) : pairing.Fills start one other after.stop :=
  ⟨after.spans spans reads.le, reads.since (Nat.le_of_lt spans.less)⟩

theorem Fills.pair {after : Joint pairing} (fills : pairing.Fills start one other middle)
    (reads : pairing.Reads middle.first two other' after.stop) :
    pairing.Fills start (one, two) (other, other') after.stop :=
  ⟨after.spans fills.spans reads.le, fills.reads.pair reads⟩

theorem Fills.append {after : Joint pairing} {list list' more more' : List α}
    (fills : pairing.Fills start list list' middle) (reads : pairing.Reads middle.first more more' after.stop) :
    pairing.Fills start (list ++ more) (list' ++ more') after.stop :=
  ⟨after.spans fills.spans reads.le, fills.reads.append reads⟩

theorem Fills.upTo {after : Joint pairing} (fills : pairing.Fills start one other middle)
    (later : middle.first ≤ after.stop.first) : pairing.Fills start one other after.stop :=
  ⟨after.spans fills.spans later, fills.reads.upTo later⟩

theorem Fills.build {build : α → γ} (fills : pairing.Fills start one other stop) (clear : Clear build) :
    pairing.Fills start (build one) (build other) stop :=
  ⟨fills.spans, fills.reads.build clear⟩

theorem Spans.enclose {ranges : List Extent} {name? : Option String} (spans : pairing.Spans start stop)
    (nested : Nested pairing.lexemes start.first stop.first ranges)
    (spelled : ∀ name ∈ name?, ⟨.ident name, start.first, stop.first⟩ ∈ pairing.lexemes) :
    Nested pairing.lexemes start.first stop.first [⟨.range start.first stop.first, name?, ranges⟩] :=
  .cons (Nat.le_refl _) spans.aligned spelled nested (.nil (Nat.le_refl _))

theorem Fills.enclosed (fills : pairing.Fills start one other stop) :
    pairing.Fills start (⟨one, .range start.first stop.first⟩ : Enclosed α)
      ⟨other, .range start.second stop.second⟩ stop where
  spans := fills.spans
  reads := {
    moves := ⟨congrArg₂ Enclosed.mk fills.reads.moves.kept fills.spans.kept_eq,
      congrArg₂ Enclosed.mk fills.reads.moves.moved fills.spans.moved_eq⟩
    nested := by
      rw [extents_enclosed]
      exact fills.spans.enclose fills.reads.nested (by simp) }

end

theorem Fills.named {node node' : Expr.Node} (fills : pairing.Fills start node node' stop)
    (spelled : ∀ name ∈ node.outline.name?, ⟨.ident name, start.first, stop.first⟩ ∈ pairing.lexemes) :
    pairing.Covers start (⟨node, .range start.first stop.first⟩ : Expr) ⟨node', .range start.second stop.second⟩ stop
    where
  spans := fills.spans
  span := rfl
  span' := rfl
  reads := {
    moves := ⟨congrArg₂ Expr.mk fills.reads.moves.kept fills.spans.kept_eq,
      congrArg₂ Expr.mk fills.reads.moves.moved fills.spans.moved_eq⟩
    nested := by
      rw [extents_expr]
      exact fills.spans.enclose fills.reads.nested spelled }

theorem Fills.expr {node node' : Expr.Node} (fills : pairing.Fills start node node' stop)
    (other : node.outline.name? = none) :
    pairing.Covers start (⟨node, .range start.first stop.first⟩ : Expr) ⟨node', .range start.second stop.second⟩ stop :=
  fills.named (by simp [other])

theorem Fills.stmt {node node' : Stmt.Node} (fills : pairing.Fills start node node' stop) :
    pairing.Covers start (⟨node, .range start.first stop.first⟩ : Stmt) ⟨node', .range start.second stop.second⟩ stop :=
  ⟨fills.enclosed.build .stmt, rfl, rfl⟩

theorem Took.fills_literal {token : Token} {text : String} (took : pairing.Took token start stop) :
    pairing.Fills start (Expr.Node.literal text) (.literal text) stop :=
  ⟨took.spans, ⟨rfl, rfl⟩, .nil (Nat.le_of_lt took.spans.less)⟩

theorem Took.name {name : String} (took : pairing.Took (.ident name) start stop) :
    pairing.Covers start (⟨.ident name, .range start.first stop.first⟩ : Expr)
      ⟨.ident name, .range start.second stop.second⟩ stop :=
  Fills.named ⟨took.spans, ⟨rfl, rfl⟩, .nil (Nat.le_of_lt took.spans.less)⟩
    fun other same => by cases same; exact took.mem_lexemes

theorem Covers.startOf {one other : Expr} (covers : pairing.Covers start one other stop) :
    Rules.startOf one = start.first ∧ Rules.startOf other = start.second := by
  have span := covers.span
  have span' := covers.span'
  rw [span_expr] at span span'
  simp [Rules.startOf, span, span', Span.range]

theorem Covers.stop?_eq {α : Type} [Spanned α] {one other : α} (covers : pairing.Covers start one other stop) :
    (Spanned.span one).stop? = some stop.first ∧ (Spanned.span other).stop? = some stop.second := by
  rw [covers.span, covers.span']
  exact ⟨rfl, rfl⟩

theorem Covers.join {build : Expr × Expr → Expr.Node} {left left' right right' : Expr} {joint next after : Joint pairing}
    (first : pairing.Covers start left left' joint.stop) (second : pairing.Covers next.start right right' after.stop)
    (le : joint.stop.first ≤ next.stop.first) (clear : Clear build)
    (other : (build (left, right)).outline.name? = none) :
    pairing.Covers start (⟨build (left, right), left.span.merge right.span⟩ : Expr)
      ⟨build (left', right'), left'.span.merge right'.span⟩ after.stop := by
  have before := Nat.le_trans le next.stop_le_start.1
  obtain ⟨merged, merged'⟩ := first.spans.merge second.spans before
  have span := first.span
  have span' := first.span'
  have stop := second.span
  have stop' := second.span'
  rw [span_expr] at span span' stop stop'
  rw [span, span', stop, stop', merged, merged']
  exact ((first.pair (second.behind.since le)).build clear).expr other

end Pairing

namespace Pairing

/-- In both sources the same comments start before the place. -/
def Parts (pairing : Pairing) (place : Place) : Prop :=
  ∀ pair ∈ pairing.pairs, pair.isComment = true → (pair.start.first < place.first ↔ pair.start.second < place.second)

/-- In both sources the place is on the same line and among the same comments, and not inside a character. -/
structure Level (pairing : Pairing) (place : Place) : Prop where
  line : pairing.lines.lineOf place.first = pairing.lines'.lineOf place.second
  parts : pairing.Parts place
  cuts : Text.Cuts pairing.source place.first ∧ Text.Cuts pairing.source' place.second

variable {pairing : Pairing} {pair comment : TokenPair} {place start stop : Place}

theorem isSemicolon_of_isComment (isComment : pair.isComment = true) : pair.isSemicolon = false := by
  cases token : pair.first.token <;>
    simp_all [TokenPair.isSemicolon, TokenPair.isComment, Token.isSemicolon, Token.isComment]

theorem comment_cases (here : pair ∈ pairing.tokens) (there : comment ∈ pairing.pairs)
    (isComment : comment.isComment = true) :
    comment.start < comment.stop ∧ (pair.stop ≤ comment.start ∨ comment.stop ≤ pair.start) := by
  obtain ⟨here, plain⟩ := mem_tokens.mp here
  refine ⟨pairing.filled comment there (isSemicolon_of_isComment isComment), ?_⟩
  rcases eq_or_apart here there with rfl | apart
  · rw [isComment] at plain
    cases plain
  · exact apart

theorem parts_start (joint : Joint pairing) : pairing.Parts joint.start := by
  intro comment there isComment
  obtain ⟨rest, comments, last?, level, ahead, known, behind⟩ := joint
  cases rest with
  | nil =>
    have filled := pairing.filled comment there (isSemicolon_of_isComment isComment)
    have bounded := (pairing.bounded comment there).2
    exact ⟨fun _ => Nat.lt_of_lt_of_le filled.2 bounded.2, fun _ => Nat.lt_of_lt_of_le filled.1 bounded.1⟩
  | cons pair rest =>
    have here := ahead.subset List.mem_cons_self
    have proper := (pairing.bounded pair (mem_tokens.mp here).1).1
    obtain ⟨⟨filled, filled'⟩, before | before⟩ := comment_cases here there isComment
    · have first := Nat.le_trans proper.1 before.1
      have second := Nat.le_trans proper.2 before.2
      exact ⟨fun less => absurd less (Nat.not_lt.mpr first), fun less => absurd less (Nat.not_lt.mpr second)⟩
    · exact ⟨fun _ => Nat.lt_of_lt_of_le filled' before.2, fun _ => Nat.lt_of_lt_of_le filled before.1⟩

theorem level_stop (here : pair ∈ pairing.tokens) (plain : pair.isSemicolon = false) : pairing.Level pair.stop := by
  have mem := (mem_tokens.mp here).1
  refine ⟨(pairing.stopping pair mem plain).1, fun comment there isComment => ?_, (pairing.whole pair mem plain).2⟩
  have proper := (pairing.bounded pair mem).1
  obtain ⟨⟨filled, filled'⟩, before | before⟩ := comment_cases here there isComment
  · exact ⟨fun less => absurd less (Nat.not_lt.mpr before.1), fun less => absurd less (Nat.not_lt.mpr before.2)⟩
  · have first := Nat.le_trans before.1 proper.1
    have second := Nat.le_trans before.2 proper.2
    exact ⟨fun _ => Nat.lt_of_lt_of_le filled' second, fun _ => Nat.lt_of_lt_of_le filled first⟩

theorem Spans.level (spans : pairing.Spans start stop) : pairing.Level stop := by
  obtain ⟨-, -, pair, here, plain, rfl⟩ := spans
  exact level_stop here plain

theorem level_joint (joint : Joint pairing) : pairing.Level joint.stop := by
  unfold Joint.stop
  split
  · rename_i last found
    obtain ⟨here, plain, -⟩ := joint.behind last found
    exact level_stop here plain
  · refine ⟨?_, fun _ _ _ => by simp, ⟨[], _, rfl, rfl⟩, ⟨[], _, rfl, rfl⟩⟩
    simp [Pairing.lines, Pairing.lines', Lines.lineOf_ofSource]

theorem moves_comment (there : comment ∈ pairing.pairs) (isComment : comment.isComment = true) :
    pairing.Moves comment.first.comment comment.second.comment := by
  have solid := mem_solid.mpr ⟨there, isSemicolon_of_isComment isComment⟩
  have token := comment.alike.eq (isSemicolon_of_isComment isComment)
  refine ⟨congrArg (Comment.mk _) (kept_range solid solid), ?_⟩
  rw [Lexeme.comment, Lexeme.comment, token]
  exact congrArg (Comment.mk _) (moved_range solid solid)

theorem moves_comments {comments : List TokenPair}
    (known : ∀ pair ∈ comments, pair ∈ pairing.pairs ∧ pair.isComment = true) :
    pairing.Moves (comments.map (·.first.comment)) (comments.map (·.second.comment)) := by
  induction comments with
  | nil => exact .nil
  | cons comment comments ih =>
    rw [List.forall_mem_cons] at known
    exact (moves_comment known.1.1 known.1.2).single.append (ih known.2)

theorem startsBefore_second (parts : pairing.Parts place) (there : comment ∈ pairing.pairs)
    (isComment : comment.isComment = true) :
    Parser.startsBefore place.second comment.second.comment =
      Parser.startsBefore place.first comment.first.comment :=
  decide_eq_decide.mpr (parts comment there isComment).symm

end Pairing

namespace Parser

variable {α β σ : Type} {pairing : Pairing} {joint : Joint pairing}

def Meets (pairing : Pairing) (low : Nat) (goal : α → α → Place → Prop) :
    Except SyntaxError (α × Cursor) → Except SyntaxError (α × Cursor) → Prop
  | .ok (result, cursor), .ok (result', cursor') =>
    ∃ after : Joint pairing, cursor = after.first ∧ cursor' = after.second ∧ low ≤ after.stop.first ∧
      goal result result' after.stop
  | .error error, .error _ => ∃ start stop, error.span = .range start stop ∧ start ≤ stop ∧ stop ≤ pairing.size.first
  | _, _ => False

/-- The rules do the same in both sources, and what they return meets the condition at the end of the last token. -/
def Concurs (joint : Joint pairing) (rule rule' : Parser α) (goal : α → α → Place → Prop) : Prop :=
  Meets pairing joint.stop.first goal (rule joint.first) (rule' joint.second)

section

variable {rule rule' : Parser α} {next next' : α → Parser β} {goal : β → β → Place → Prop}
  {middle weaker : α → α → Place → Prop}

theorem Meets.inv {low : Nat} {run run' : Except SyntaxError (α × Cursor)} (meets : Meets pairing low middle run run') :
    (∃ error error', run = .error error ∧ run' = .error error' ∧
      ∃ start stop, error.span = .range start stop ∧ start ≤ stop ∧ stop ≤ pairing.size.first) ∨
    ∃ result result', ∃ after : Joint pairing, run = .ok (result, after.first) ∧ run' = .ok (result', after.second) ∧
      low ≤ after.stop.first ∧ middle result result' after.stop := by
  cases run with
  | error error =>
    cases run' with
    | error error' => exact .inl ⟨error, error', rfl, rfl, meets⟩
    | ok pair' => cases meets
  | ok pair =>
    cases run' with
    | error error' => cases meets
    | ok pair' =>
      obtain ⟨after, same, same', le, met⟩ := meets
      exact .inr ⟨pair.1, pair'.1, after, by rw [← same], by rw [← same'], le, met⟩

theorem Meets.mono {low low' : Nat} {run run' : Except SyntaxError (α × Cursor)} (meets : Meets pairing low middle run run')
    (below : low' ≤ low) (imp : ∀ result result' (after : Joint pairing), low ≤ after.stop.first →
      middle result result' after.stop → weaker result result' after.stop) :
    Meets pairing low' weaker run run' := by
  rcases meets.inv with ⟨error, error', rfl, rfl, bounds⟩ | ⟨result, result', last, rfl, rfl, le, met⟩
  · exact bounds
  · exact ⟨last, rfl, rfl, Nat.le_trans below le, imp result result' last le met⟩

theorem Concurs.mono (concurs : Concurs joint rule rule' middle)
    (imp : ∀ result result' (after : Joint pairing), joint.stop.first ≤ after.stop.first →
      middle result result' after.stop → weaker result result' after.stop) :
    Concurs joint rule rule' weaker :=
  Meets.mono concurs (Nat.le_refl _) imp

theorem Concurs.onward {after : Joint pairing} {rule rule' later later' : Parser β}
    (concurs : Concurs after later later' goal) (run : rule joint.first = later after.first)
    (run' : rule' joint.second = later' after.second) (le : joint.stop.first ≤ after.stop.first) :
    Concurs joint rule rule' goal := by
  rw [Concurs, run, run']
  exact Meets.mono concurs le fun _ _ _ _ met => met

theorem Concurs.bind (first : Concurs joint rule rule' middle)
    (then' : ∀ result result' (after : Joint pairing), joint.stop.first ≤ after.stop.first →
      middle result result' after.stop → Concurs after (next result) (next' result') goal) :
    Concurs joint (rule >>= next) (rule' >>= next') goal := by
  have run : (rule >>= next) joint.first = (rule joint.first).bind fun pair => next pair.1 pair.2 := rfl
  have run' : (rule' >>= next') joint.second = (rule' joint.second).bind fun pair => next' pair.1 pair.2 := rfl
  rcases Meets.inv first with ⟨error, error', failed, failed', bounds⟩ | ⟨result, result', after, ran, ran', le, met⟩
  · rw [Concurs, run, run', failed, failed']
    exact bounds
  · rw [ran] at run
    rw [ran'] at run'
    exact (then' result result' after le met).onward run run' le

theorem concurs_bind (middle : α → α → Place → Prop) (first : Concurs joint rule rule' middle)
    (then' : ∀ result result' (after : Joint pairing), joint.stop.first ≤ after.stop.first →
      middle result result' after.stop → Concurs after (next result) (next' result') goal) :
    Concurs joint (rule >>= next) (rule' >>= next') goal :=
  first.bind then'

theorem concurs_phrase {phrase : Phrase} (concurs : Concurs joint rule rule' middle) :
    Concurs joint (MonadParser.phrase phrase rule) (MonadParser.phrase phrase rule') middle :=
  concurs

theorem concurs_pure {result result' : β} (met : goal result result' joint.stop) :
    Concurs joint (pure result) (pure result') goal :=
  ⟨joint, rfl, rfl, Nat.le_refl _, met⟩

theorem Concurs.map {change change' : α → β}
    (concurs : Concurs joint rule rule' fun result result' stop => goal (change result) (change' result') stop) :
    Concurs joint (change <$> rule) (change' <$> rule') goal := by
  rw [map_eq_pure_bind, map_eq_pure_bind]
  exact concurs.bind fun _ _ _ _ met => concurs_pure met

theorem concurs_ite {test : Prop} [Decidable test] {yes no yes' no' : Parser β}
    (whenTrue : test → Concurs joint yes yes' goal) (whenFalse : ¬test → Concurs joint no no' goal) :
    Concurs joint (if test then yes else no) (if test then yes' else no') goal := by
  by_cases holds : test
  · rw [if_pos holds, if_pos holds]
    exact whenTrue holds
  · rw [if_neg holds, if_neg holds]
    exact whenFalse holds

theorem concurs_either (middle : α → α → Place → Prop) {test : Prop} [Decidable test] {yes no yes' no' : Parser α}
    (whenTrue : test → Concurs joint yes yes' middle) (whenFalse : ¬test → Concurs joint no no' middle)
    (then' : ∀ result result' (after : Joint pairing), joint.stop.first ≤ after.stop.first →
      middle result result' after.stop → Concurs after (next result) (next' result') goal) :
    Concurs joint (if test then yes >>= next else no >>= next) (if test then yes' >>= next' else no' >>= next') goal :=
  concurs_ite (fun holds => (whenTrue holds).bind then') fun fails => (whenFalse fails).bind then'

end

section

variable {goal : β → β → Place → Prop}

theorem concurs_fail {fault fault' : SyntaxFault} {span span' : Span}
    (bounds : ∃ start stop, span = .range start stop ∧ start ≤ stop ∧ stop ≤ pairing.size.first) :
    Concurs joint (fail fault span) (fail fault' span') goal :=
  bounds

theorem concurs_failAt {fault fault' : SyntaxFault} {start : Place} {span' : Span}
    (spans : pairing.Spans start joint.stop) :
    Concurs joint (fail fault (.range start.first joint.stop.first)) (fail fault' span') goal :=
  concurs_fail ⟨_, _, rfl, Nat.le_of_lt spans.less, joint.stop_le_size.1⟩

theorem concurs_unexpected {what what' : Expectation} :
    Concurs joint (unexpected what) (unexpected what') goal :=
  joint.span_bounds

theorem concurs_get {next next' : Cursor → Parser β}
    (concurs : Concurs joint (next joint.first) (next' joint.second) goal) :
    Concurs joint (get >>= next) (get >>= next') goal :=
  concurs

theorem concurs_start {next next' : Nat → Parser β}
    (concurs : Concurs joint (next joint.start.first) (next' joint.start.second) goal) :
    Concurs joint (start >>= next) (start >>= next') goal := by
  rw [← joint.start_first, ← joint.start_second] at concurs
  exact concurs

theorem concurs_lastEnd {next next' : Nat → Parser β}
    (concurs : Concurs joint (next joint.stop.first) (next' joint.stop.second) goal) :
    Concurs joint (lastEnd >>= next) (lastEnd >>= next') goal :=
  concurs

/-- The rest of a rule makes no difference between semicolons. -/
abbrev Blind (next : Option Token → α) : Prop :=
  ∀ inserted inserted', next (some (.semicolon inserted)) = next (some (.semicolon inserted'))

theorem concurs_peek {next next' : Option Token → Parser β} (blind : Blind next')
    (then' : ∀ token?, joint.first.peek = token? → Concurs joint (next token?) (next' token?) goal) :
    Concurs joint (peek >>= next) (peek >>= next') goal := by
  have concurs := then' joint.first.peek rfl
  change Concurs joint (next joint.first.peek) (next' joint.second.peek) goal
  rcases joint.peek_cases with same | ⟨inserted, inserted', one, two⟩
  · rw [same]
    exact concurs
  · rw [one] at concurs ⊢
    rw [two, blind inserted' inserted]
    exact concurs

theorem concurs_peekAfter {count : Nat} {next next' : Option Token → Parser β} (blind : Blind next')
    (then' : ∀ token?, Concurs joint (next token?) (next' token?) goal) :
    Concurs joint (peekAfter count >>= next) (peekAfter count >>= next') goal := by
  have concurs := then' ((joint.first.rest[count]?).map (·.token))
  change Concurs joint (next ((joint.first.rest[count]?).map (·.token)))
    (next' ((joint.second.rest[count]?).map (·.token))) goal
  rcases joint.ahead_cases count with same | ⟨inserted, inserted', one, two⟩
  · rw [same]
    exact concurs
  · rw [one] at concurs ⊢
    rw [two, blind inserted' inserted]
    exact concurs

theorem concurs_test {test : Option Token → Bool} {next next' : Bool → Parser β} (blind : Blind test)
    (concurs : ∀ found, Concurs joint (next found) (next' found) goal) :
    Concurs joint ((do return test (← peek)) >>= next) ((do return test (← peek)) >>= next') goal := by
  have run (next : Bool → Parser β) : (do return test (← peek)) >>= next = peek >>= fun token? => next (test token?) := rfl
  rw [run, run]
  exact concurs_peek (fun _ _ => by rw [blind]) fun _ _ => concurs _

theorem concurs_atMark {sign : Mark} {next next' : Bool → Parser β}
    (concurs : ∀ found, Concurs joint (next found) (next' found) goal) :
    Concurs joint (atMark sign >>= next) (atMark sign >>= next') goal :=
  concurs_test (fun _ _ => rfl) concurs

theorem concurs_atIdent {next next' : Bool → Parser β}
    (concurs : ∀ found, Concurs joint (next found) (next' found) goal) :
    Concurs joint (atIdent >>= next) (atIdent >>= next') goal :=
  concurs_test (fun _ _ => rfl) concurs

theorem concurs_atSemicolon {next next' : Bool → Parser β}
    (concurs : ∀ found, Concurs joint (next found) (next' found) goal) :
    Concurs joint (atSemicolon >>= next) (atSemicolon >>= next') goal :=
  concurs_test (fun _ _ => rfl) concurs

theorem concurs_spanFrom {start : Place} {next next' : Span → Parser β} (spans : pairing.Spans start joint.stop)
    (concurs : Concurs joint (next (.range start.first joint.stop.first))
      (next' (.range start.second joint.stop.second)) goal) :
    Concurs joint (spanFrom start.first >>= next) (spanFrom start.second >>= next') goal := by
  have first : joint.first.spanFrom start.first = .range start.first joint.stop.first :=
    congrArg (Span.range _) (Nat.max_eq_left (Nat.le_of_lt spans.less))
  have second : joint.second.spanFrom start.second = .range start.second joint.stop.second :=
    congrArg (Span.range _) (Nat.max_eq_left spans.le_second)
  rw [← first, ← second] at concurs
  exact concurs

theorem concurs_failFrom {start : Place} {fault fault' : SyntaxFault} (spans : pairing.Spans start joint.stop) :
    Concurs joint (spanFrom start.first >>= fail fault) (spanFrom start.second >>= fail fault') goal :=
  concurs_spanFrom spans (concurs_failAt spans)

theorem concurs_expr {start : Place} {node node' : Expr.Node} (fills : pairing.Fills start node node' joint.stop)
    (other : node.outline.name? = none) :
    Concurs joint (do return ⟨node, ← spanFrom start.first⟩) (do return ⟨node', ← spanFrom start.second⟩)
      (pairing.Covers (α := Expr) start) :=
  concurs_spanFrom fills.spans (concurs_pure (fills.expr other))

theorem concurs_stmt {start : Place} {node node' : Stmt.Node} (fills : pairing.Fills start node node' joint.stop) :
    Concurs joint (do return ⟨node, ← spanFrom start.first⟩) (do return ⟨node', ← spanFrom start.second⟩)
      (pairing.Covers (α := Stmt) start) :=
  concurs_spanFrom fills.spans (concurs_pure fills.stmt)

end

section

variable {token : Token} {goal : β → β → Place → Prop}

theorem concurs_skip (peeked : joint.first.peek = some token) (plain : token.isSemicolon = false) :
    Concurs joint skip skip fun _ _ stop => pairing.Took token joint.start stop :=
  ⟨joint.advance, joint.first_advance, joint.second_advance, joint.stop_le_advance, joint.took peeked plain⟩

theorem concurs_pass : Concurs joint skip skip fun _ _ _ => True :=
  ⟨joint.advance, joint.first_advance, joint.second_advance, joint.stop_le_advance, trivial⟩

theorem concurs_advance {result result' : β} (met : goal result result' joint.advance.stop) :
    Concurs joint (do skip; return result) (do skip; return result') goal :=
  ⟨joint.advance, joint.first_advance, joint.second_advance, joint.stop_le_advance, met⟩

theorem concurs_expect (plain : token.isSemicolon = false) :
    Concurs joint (expect token) (expect token) fun span span' stop => pairing.Took token joint.start stop ∧
      span = .range joint.start.first stop.first ∧ span' = .range joint.start.second stop.second := by
  refine concurs_get ?_
  by_cases peeked : joint.first.peek = some token
  · have peeked' := joint.peek_second peeked plain
    simp only [peeked, peeked', beq_self_eq_true, if_true]
    exact ⟨joint.advance, joint.first_advance, joint.second_advance, joint.stop_le_advance, joint.took peeked plain,
      Joint.span_first peeked plain, Joint.span_second peeked plain⟩
  · have peeked' : joint.second.peek ≠ some token := by
      rcases joint.peek_cases with same | ⟨inserted, inserted', one, two⟩
      · rwa [same]
      · rintro same
        rw [two] at same
        cases same
        cases plain
    rw [if_neg (by simpa using peeked), if_neg (by simpa using peeked')]
    exact concurs_unexpected

theorem concurs_expectMark {sign : Mark} :
    Concurs joint (expectMark sign) (expectMark sign) fun span span' stop =>
      pairing.Took (.mark sign) joint.start stop ∧ span = .range joint.start.first stop.first ∧
        span' = .range joint.start.second stop.second :=
  concurs_expect rfl

theorem concurs_expectKeyword {word : Keyword} :
    Concurs joint (expectKeyword word) (expectKeyword word) fun span span' stop =>
      pairing.Took (.keyword word) joint.start stop ∧ span = .range joint.start.first stop.first ∧
        span' = .range joint.start.second stop.second :=
  concurs_expect rfl

theorem concurs_eatIf {test : Option Token → Bool} {next next' : Bool → Parser β} (blind : Blind test)
    (yes : test joint.first.peek = true → Concurs joint.advance (next true) (next' true) goal)
    (no : Concurs joint (next false) (next' false) goal) :
    Concurs joint (eatIf (do return test (← peek)) >>= next) (eatIf (do return test (← peek)) >>= next') goal := by
  have same : test joint.second.peek = test joint.first.peek := by
    rcases joint.peek_cases with same | ⟨inserted, inserted', one, two⟩
    · rw [same]
    · rw [one, two, blind inserted' inserted]
  have run (cursor : Cursor) (next : Bool → Parser β) : (eatIf (do return test (← peek)) >>= next) cursor =
      if test cursor.peek then next true cursor.advance else next false cursor := by
    change ((if test cursor.peek then _ else _ : Parser Bool) >>= next) cursor = _
    split <;> rfl
  cases read : test joint.first.peek with
  | true =>
    refine (yes read).onward ?_ ?_ joint.stop_le_advance
    · rw [run, if_pos read, Joint.first_advance]
    · rw [run, same, if_pos read, Joint.second_advance]
  | false =>
    refine no.onward ?_ ?_ (Nat.le_refl _)
    · rw [run, if_neg (by simp [read])]
    · rw [run, same, if_neg (by simp [read])]

theorem concurs_eatMark {sign : Mark} {next next' : Bool → Parser β}
    (yes : ∀ after : Joint pairing, joint.stop.first ≤ after.stop.first →
      pairing.Took (.mark sign) joint.start after.stop → Concurs after (next true) (next' true) goal)
    (no : Concurs joint (next false) (next' false) goal) :
    Concurs joint (eatMark sign >>= next) (eatMark sign >>= next') goal :=
  concurs_eatIf (fun _ _ => rfl)
    (fun read => yes _ joint.stop_le_advance (joint.took (eq_of_beq read) rfl)) no

theorem concurs_eaten {sign : Mark} : Concurs joint (eatMark sign) (eatMark sign) fun read read' _ => read' = read := by
  rw [← bind_pure (eatMark sign)]
  exact concurs_eatMark (fun _ _ _ => concurs_pure rfl) (concurs_pure rfl)

theorem concurs_eatKeyword {word : Keyword} {next next' : Bool → Parser β}
    (yes : ∀ after : Joint pairing, joint.stop.first ≤ after.stop.first →
      pairing.Took (.keyword word) joint.start after.stop → Concurs after (next true) (next' true) goal)
    (no : Concurs joint (next false) (next' false) goal) :
    Concurs joint (eatKeyword word >>= next) (eatKeyword word >>= next') goal :=
  concurs_eatIf (fun _ _ => rfl)
    (fun read => yes _ joint.stop_le_advance (joint.took (eq_of_beq read) rfl)) no

theorem concurs_eatSemicolon {next next' : Bool → Parser β}
    (yes : ∀ after : Joint pairing, joint.stop.first ≤ after.stop.first → Concurs after (next true) (next' true) goal)
    (no : Concurs joint (next false) (next' false) goal) :
    Concurs joint (eatSemicolon >>= next) (eatSemicolon >>= next') goal :=
  concurs_eatIf (fun _ _ => rfl) (fun _ => yes _ joint.stop_le_advance) no

theorem concurs_expectSemicolon : Concurs joint expectSemicolon expectSemicolon fun _ _ _ => True :=
  concurs_eatSemicolon (fun _ _ => concurs_pure trivial) concurs_unexpected

theorem concurs_ident : Concurs joint ident ident fun found found' stop =>
    ∃ name, found = (name, .range joint.start.first stop.first) ∧
      found' = (name, .range joint.start.second stop.second) ∧ pairing.Took (.ident name) joint.start stop := by
  refine concurs_get ?_
  split
  · rename_i name peeked
    rw [joint.peek_second peeked rfl, Joint.span_first peeked rfl, Joint.span_second peeked rfl]
    exact ⟨joint.advance, joint.first_advance, joint.second_advance, joint.stop_le_advance, name, rfl, rfl,
      joint.took peeked rfl⟩
  · rename_i other
    split
    · rename_i name peeked
      rcases joint.peek_cases with same | ⟨inserted, inserted', one, two⟩
      · exact absurd (same ▸ peeked) (other name)
      · rw [two] at peeked
        cases peeked
    · exact concurs_unexpected

theorem concurs_name : Concurs joint name name fun found found' stop =>
    found' = found ∧ pairing.Took (.ident found) joint.start stop := by
  refine concurs_ident.bind ?_
  rintro _ _ after le ⟨name, rfl, rfl, took⟩
  exact concurs_pure ⟨rfl, took⟩

theorem concurs_lineEnd : Concurs joint lineEnd lineEnd fun _ _ _ => True := by
  refine concurs_peek (fun _ _ => rfl) fun token? _ => ?_
  split
  · exact concurs_pure trivial
  · exact concurs_pure trivial
  · exact concurs_pure trivial
  · exact concurs_pass
  · exact concurs_unexpected

end

section

variable {rule rule' : Parser α} {goal : α → α → Place → Prop}

theorem concurs_deeper (concurs : ∀ level, Concurs (joint.withLevel level) rule rule' goal) :
    Concurs joint (deeper rule) (deeper rule') goal := by
  have leave (rule rule' : Parser α) (concurs : Concurs (joint.withLevel (joint.level + 1)) rule rule' goal) :
      Concurs (joint.withLevel (joint.level + 1))
        (do let result ← rule; modify fun cursor => { cursor with level := cursor.level - 1 }; return result)
        (do let result ← rule'; modify fun cursor => { cursor with level := cursor.level - 1 }; return result) goal :=
    concurs.bind fun _ _ after _ met => ⟨after.withLevel (after.level - 1), rfl, rfl, Nat.le_refl _, met⟩
  exact leave rule rule' (concurs _)

theorem concurs_atLevel {level : Int} (concurs : Concurs (joint.withLevel level) rule rule' goal) :
    Concurs joint (atLevel level rule) (atLevel level rule') goal := by
  have leave : Concurs (joint.withLevel level)
      (do let result ← rule; modify fun cursor => { cursor with level := joint.level }; return result)
      (do let result ← rule'; modify fun cursor => { cursor with level := joint.level }; return result) goal :=
    concurs.bind fun _ _ after _ met => ⟨after.withLevel joint.level, rfl, rfl, Nat.le_refl _, met⟩
  exact leave

end

section

open Pairing

variable {goal : β → β → Place → Prop} {place : Place}

theorem split_comments (parts : pairing.Parts place) {comments : List TokenPair}
    (known : ∀ pair ∈ comments, pair ∈ pairing.pairs ∧ pair.isComment = true) :
    ∃ taken rest, taken ++ rest = comments ∧
      (comments.map (·.first.comment)).takeWhile (startsBefore place.first) = taken.map (·.first.comment) ∧
      (comments.map (·.first.comment)).dropWhile (startsBefore place.first) = rest.map (·.first.comment) ∧
      (comments.map (·.second.comment)).takeWhile (startsBefore place.second) = taken.map (·.second.comment) ∧
      (comments.map (·.second.comment)).dropWhile (startsBefore place.second) = rest.map (·.second.comment) := by
  induction comments with
  | nil => exact ⟨[], [], rfl, rfl, rfl, rfl, rfl⟩
  | cons comment comments ih =>
    obtain ⟨here, known⟩ := List.forall_mem_cons.mp known
    have same := startsBefore_second parts here.1 here.2
    simp only [List.map_cons, List.takeWhile_cons, List.dropWhile_cons, same]
    cases startsBefore place.first comment.first.comment with
    | false => exact ⟨[], comment :: comments, rfl, rfl, rfl, rfl, rfl⟩
    | true =>
      obtain ⟨taken, rest, whole, one, two, three, four⟩ := ih known
      refine ⟨comment :: taken, rest, congrArg _ whole, ?_, two, ?_, four⟩
      · simp [one]
      · simp [three]

theorem concurs_commentsBefore (parts : pairing.Parts place) {next next' : List Comment → Parser β}
    (then' : ∀ comments comments' (after : Joint pairing), after.start = joint.start → after.stop = joint.stop →
      pairing.Moves comments comments' → Concurs after (next comments) (next' comments') goal) :
    Concurs joint (commentsBefore place.first >>= next) (commentsBefore place.second >>= next') goal := by
  obtain ⟨taken, rest, whole, one, two, three, four⟩ := split_comments parts joint.known
  have known : ∀ pair ∈ taken, pair ∈ pairing.pairs ∧ pair.isComment = true :=
    fun pair here => joint.known pair (whole ▸ List.mem_append_left _ here)
  have fewer : ∀ pair ∈ rest, pair ∈ joint.comments := fun pair here => whole ▸ List.mem_append_right _ here
  exact (then' _ _ (joint.withComments rest fewer) rfl rfl (moves_comments known)).onward
    (congrArg₂ (fun taken rest => next taken { joint.first with comments := rest }) one two)
    (congrArg₂ (fun taken rest => next' taken { joint.second with comments := rest }) three four) (Nat.le_refl _)

theorem isTrailing_second (joint : Joint pairing) (level : pairing.Level place) {comment : TokenPair}
    (here : comment ∈ pairing.pairs) (isComment : comment.isComment = true) : joint.second.isTrailing place.second comment.second.comment =
      joint.first.isTrailing place.first comment.first.comment := by
  have whole := (pairing.whole comment here (isSemicolon_of_isComment isComment)).1
  have one : joint.first.isTrailing place.first comment.first.comment = _ := Lines.slice?_any level.cuts.1 whole.1
  have two : joint.second.isTrailing place.second comment.second.comment = _ := Lines.slice?_any level.cuts.2 whole.2
  have order : place.second ≤ comment.start.second ↔ place.first ≤ comment.start.first := by
    rw [← Nat.not_lt, ← Nat.not_lt]
    exact not_congr (level.parts comment here isComment).symm
  have lines : pairing.lines.sameLine (some place.first) (some comment.start.first) =
      pairing.lines'.sameLine (some place.second) (some comment.start.second) := by
    have starts : pairing.lines.lineOf comment.start.first = pairing.lines'.lineOf comment.start.second :=
      pairing.starting comment here
    simp only [Lines.sameLine, Lines.line?, Option.bind_some, level.line, starts]
  rw [one, two]
  exact congrArg₂ _ (decide_eq_decide.mpr order) lines.symm

theorem concurs_trailingComment (level : pairing.Level place) {next next' : Option Comment → Parser β}
    (then' : ∀ comment? comment?' (after : Joint pairing), after.stop = joint.stop →
      pairing.Moves comment? comment?' → Concurs after (next comment?) (next' comment?') goal) :
    Concurs joint (trailingComment place.first >>= next) (trailingComment place.second >>= next') goal := by
  have empty : Concurs joint (next none) (next' none) goal := then' _ _ joint rfl .none
  have same {comment : TokenPair} (here : comment ∈ pairing.pairs) (isComment : comment.isComment = true) :=
    isTrailing_second joint level here isComment
  obtain ⟨rest, comments, last?, depth, ahead, known, behind⟩ := joint
  cases comments with
  | nil => exact empty
  | cons comment comments =>
    obtain ⟨⟨here, isComment⟩, others⟩ := List.forall_mem_cons.mp known
    have run (cursor : Cursor) (offset : Nat) (next : Option Comment → Parser β) {first : Comment}
        {more : List Comment} (split : cursor.comments = first :: more) : (trailingComment offset >>= next) cursor =
          if cursor.isTrailing offset first then next (some first) { cursor with comments := more }
          else next none cursor := by
      obtain ⟨rest, _, lastEnd, level, source⟩ := cursor
      cases split
      change ((if _ then _ else pure none : Parser _) >>= next) _ = _
      split
      · rfl
      · rfl
    rw [Concurs, run _ _ next rfl, run _ _ next' rfl, same here isComment]
    split
    · exact then' _ _ ⟨rest, comments, last?, depth, ahead, others, behind⟩ rfl (moves_comment here isComment).some
    · exact empty

theorem concurs_trailingLineComment (level : pairing.Level place) {next next' : Option Comment → Parser β}
    (then' : ∀ comment? comment?' (after : Joint pairing), after.stop = joint.stop →
      pairing.Moves comment? comment?' → Concurs after (next comment?) (next' comment?') goal) :
    Concurs joint (trailingLineComment place.first >>= next) (trailingLineComment place.second >>= next') goal := by
  have empty : Concurs joint (next none) (next' none) goal := then' _ _ joint rfl .none
  have taken := concurs_trailingComment level then'
  obtain ⟨rest, comments, last?, depth, ahead, known, behind⟩ := joint
  cases comments with
  | nil => exact empty
  | cons comment comments =>
    have isComment := (known comment List.mem_cons_self).2
    have text : comment.second.comment.text = comment.first.comment.text :=
      congrArg Token.text (comment.alike.eq (isSemicolon_of_isComment isComment))
    have run (cursor : Cursor) (offset : Nat) (next : Option Comment → Parser β) {first : Comment}
        {more : List Comment} (split : cursor.comments = first :: more) : (trailingLineComment offset >>= next) cursor =
          if "//".toList.isPrefixOf first.text.toList then (trailingComment offset >>= next) cursor
          else next none cursor := by
      obtain ⟨rest, _, lastEnd, level, source⟩ := cursor
      cases split
      change ((if _ then trailingComment offset else pure none : Parser _) >>= next) _ = _
      split
      · rfl
      · rfl
    rw [Concurs, run _ _ next rfl, run _ _ next' rfl, text]
    by_cases isLine : "//".toList.isPrefixOf comment.first.comment.text.toList = true
    · rw [if_pos isLine, if_pos isLine]
      exact taken
    · rw [if_neg isLine, if_neg isLine]
      exact empty

theorem concurs_remainingComments {next next' : List Comment → Parser β}
    (then' : ∀ comments comments' (after : Joint pairing), after.stop = joint.stop → pairing.Moves comments comments' →
      Concurs after (next comments) (next' comments') goal) :
    Concurs joint (remainingComments >>= next) (remainingComments >>= next') goal :=
  (then' _ _ (joint.withComments [] (by simp)) rfl (moves_comments joint.known)).onward rfl rfl (Nat.le_refl _)

end

section

variable {goal : α → α → Place → Prop}

def Rounds (invariant : σ → σ → Place → Prop) (goal : α → α → Place → Prop) : Step σ α → Step σ α → Place → Prop
  | .again state, .again state', stop => invariant state state' stop
  | .done result, .done result', stop => goal result result' stop
  | _, _, _ => False

theorem concurs_iterate {step step' : σ → Parser (Step σ α)} {invariant : σ → σ → Place → Prop} {low : Nat}
    (round : ∀ state state' (after : Joint pairing), low ≤ after.stop.first → invariant state state' after.stop →
      Concurs after (step state) (step' state') (Rounds invariant goal))
    (fuel : Nat) {state state' : σ} {joint : Joint pairing} (le : low ≤ joint.stop.first)
    (start : invariant state state' joint.stop) :
    Concurs joint (iterate step fuel state) (iterate step' fuel state') goal := by
  induction fuel generalizing state state' joint with
  | zero => exact joint.span_bounds
  | succ fuel ih =>
    refine (round state state' joint le start).bind fun outcome outcome' after later met => ?_
    cases outcome with
    | again state =>
      cases outcome' with
      | again state' => exact ih (Nat.le_trans le later) met
      | done result' => cases met
    | done result =>
      cases outcome' with
      | again state' => cases met
      | done result' => exact concurs_pure met

/-- What holds before each round holds at the end. -/
theorem concurs_loop {step step' : σ → Parser (Step σ α)} (invariant : σ → σ → Place → Prop)
    (round : ∀ state state' (after : Joint pairing), joint.stop.first ≤ after.stop.first →
      invariant state state' after.stop → Concurs after (step state) (step' state') (Rounds invariant goal))
    {state state' : σ} (start : invariant state state' joint.stop) :
    Concurs joint (loop state step) (loop state' step') goal := by
  refine concurs_get ?_
  simp only [Joint.first, Joint.second, List.length_map]
  exact concurs_iterate round _ (Nat.le_refl _) start

variable [Located α] {entry : Parser α}

abbrev ReadsOn (pairing : Pairing) (entry : Parser α) : Prop :=
  ∀ joint : Joint pairing, Concurs joint entry entry (pairing.Reads joint.stop.first)

theorem concurs_listUntil (close : Mark) (reads : ReadsOn pairing entry) :
    Concurs joint (listUntil close entry) (listUntil close entry) (pairing.Reads joint.stop.first) := by
  refine concurs_loop (pairing.Reads joint.stop.first) (fun list list' after le met => ?_) (.nil (Nat.le_refl _))
  refine concurs_atMark fun _ => concurs_ite (fun _ => concurs_pure met) fun _ => ?_
  refine (reads after).bind fun result result' next _ more => ?_
  have both := met.append more.single
  exact concurs_eatMark (fun last later _ => concurs_pure (both.upTo later)) (concurs_pure both)

theorem concurs_linesUntil (close : Mark) (reads : ReadsOn pairing entry) :
    Concurs joint (linesUntil close entry) (linesUntil close entry) (pairing.Reads joint.stop.first) := by
  refine concurs_loop (pairing.Reads joint.stop.first) (fun list list' after le met => ?_) (.nil (Nat.le_refl _))
  refine concurs_eatSemicolon (fun _ later => concurs_pure (met.upTo later)) ?_
  refine concurs_atMark fun _ => concurs_ite (fun _ => concurs_pure met) fun _ => ?_
  refine (reads after).bind fun result result' next _ more => concurs_lineEnd.bind fun _ _ last later _ => ?_
  exact concurs_pure ((met.append more.single).upTo later)

theorem concurs_commaList (fills : ∀ joint : Joint pairing, Concurs joint entry entry (pairing.Fills joint.start)) :
    Concurs joint (commaList entry) (commaList entry) (pairing.Fills joint.start) := by
  refine (fills joint).bind fun first first' next _ whole => ?_
  refine concurs_loop (pairing.Fills joint.start) (fun list list' after _ met => ?_) ⟨whole.spans, whole.reads.single⟩
  refine concurs_eatMark (fun read later _ => (fills read).bind fun one other last _ more => ?_) (concurs_pure met)
  exact concurs_pure (met.append (more.behind.since later).single)

end

end Parser

end GoSpecs
