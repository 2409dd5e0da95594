import GoSpecs.Proofs.Grammar.Agreement.Steps
import GoSpecs.Proofs.Syntax.Erase
import GoSpecs.Proofs.Syntax.Operation

namespace GoSpecs

def Cursor.Ahead (cursor : Cursor) (tokens : List Token) (follow : List Lexeme) : Prop :=
  ∃ lexemes, cursor.rest = lexemes ++ follow ∧ lexemes.map (·.token) = tokens

namespace Cursor.Ahead

variable {cursor : Cursor} {token : Token} {tokens more : List Token} {follow : List Lexeme}

theorem rest_of_nil (ahead : cursor.Ahead [] follow) : cursor.rest = follow := by
  obtain ⟨lexemes, rest, none⟩ := ahead
  rw [rest, List.map_eq_nil_iff.mp none, List.nil_append]

theorem peek (ahead : cursor.Ahead (token :: tokens) follow) : cursor.peek = some token := by
  obtain ⟨lexemes, rest, all⟩ := ahead
  obtain ⟨lexeme, lexemes, rfl, rfl, _⟩ := List.map_eq_cons_iff.mp all
  rw [Cursor.peek, rest]
  rfl

theorem advance (ahead : cursor.Ahead (token :: tokens) follow) : cursor.advance.Ahead tokens follow := by
  obtain ⟨lexemes, rest, all⟩ := ahead
  obtain ⟨lexeme, lexemes, rfl, _, same⟩ := List.map_eq_cons_iff.mp all
  exact ⟨lexemes, by rw [Cursor.Alike.rest_advance, rest]; rfl, same⟩

theorem length (ahead : cursor.Ahead tokens follow) : cursor.rest.length = tokens.length + follow.length := by
  obtain ⟨lexemes, rest, rfl⟩ := ahead
  rw [rest, List.length_append, List.length_map]

theorem level (ahead : cursor.Ahead tokens follow) (level : Int) :
    Cursor.Ahead { cursor with level } tokens follow :=
  ahead

theorem split (ahead : cursor.Ahead (tokens ++ more) follow) :
    ∃ middle, cursor.Ahead tokens middle ∧ ∀ after : Cursor, after.rest = middle → after.Ahead more follow := by
  obtain ⟨lexemes, rest, all⟩ := ahead
  obtain ⟨first, second, rfl, same, others⟩ := List.map_eq_append_iff.mp all
  refine ⟨second ++ follow, ⟨first, by rw [rest, List.append_assoc], same⟩, ?_⟩
  intro after place
  exact ⟨second, place, others⟩

end Cursor.Ahead

namespace Rules

open GoSpecs.Parser

theorem binaryOp?_mark (op : BinaryOp) : binaryOp? (.mark op.mark) = some op := by
  cases op <;> rfl

theorem unaryOp?_mark (op : UnaryOp) : unaryOp? (.mark op.mark) = some op := by
  cases op <;> rfl

/-- A token that goes on with the operand before it. Directly in a header a brace does not. -/
def isSuffix (level : Int) : Token → Bool
  | .mark .dot => true
  | .mark .lbracket => true
  | .mark .lparen => true
  | .mark .lbrace => 0 ≤ level
  | _ => false

def atSuffix (level : Int) (lexemes : List Lexeme) : Bool :=
  (lexemes.head?.map (·.token)).any (isSuffix level)

def nextOp? (lexemes : List Lexeme) : Option BinaryOp :=
  (lexemes.head?.map (·.token)).bind binaryOp?

section

variable {rules : Rules} {cursor : Cursor} {least : Nat} {condition : Expr → Cursor → Prop}

theorem yields_suffixes {operand : Expr} (next : atSuffix cursor.level cursor.rest = false)
    (named : operand.isLiteralType = true → operand.isTypeName = true) :
    Yields False (suffixes rules operand) cursor condition ↔ condition operand cursor := by
  change cursor.peek.any (isSuffix cursor.level) = false at next
  simp only [suffixes, yields_phrase, yields_loop, yields_iterate, yields_bind, yields_peek]
  split
  · rename_i peeked
    simp [peeked, isSuffix] at next
  · rename_i peeked
    simp [peeked, isSuffix] at next
  · rename_i peeked
    simp [peeked, isSuffix] at next
  · rename_i peeked
    have header : ¬0 ≤ cursor.level := by simpa [peeked, isSuffix] using next
    have closed : ¬(operand.isLiteralType && (decide (0 ≤ cursor.level) || !operand.isTypeName)) = true := by
      simpa [header] using named
    rw [yields_phrase, yields_bind, yields_get, if_neg closed, yields_pure]
  · simp

theorem yields_unaryExpr_primary {token : Token} (peeked : cursor.peek = some token)
    (operand : unaryOp? token = none) (notStar : token ≠ .mark .star) :
    Yields False (unaryExpr rules) cursor condition ↔ Yields False (primary rules) cursor condition := by
  have notArrow : token ≠ .mark .arrow := by
    rintro rfl
    cases operand
  simp [unaryExpr, peeked, notArrow, operand]

theorem yields_unaryExpr_op {op : UnaryOp} (peeked : cursor.peek = some (.mark op.mark))
    (value : (cursor.rest[1]?).map (·.token) ≠ some (.keyword .chan)) :
    Yields False (unaryExpr rules) cursor condition ↔
      Yields False rules.unary cursor.advance fun operand after =>
        condition ⟨.unary op operand, after.spanFrom cursor.start⟩ after := by
  have notStar : op.mark ≠ .star := by cases op <;> decide
  simp [unaryExpr, peeked, notStar, value, unaryOp?_mark]

def climb (rules : Rules) (least : Nat) (left : Expr) : Parser (Step Expr Expr) := do
  match (← peek).bind binaryOp? with
  | some op =>
    if least ≤ op.precedence then
      skip
      let right ← rules.binary (op.precedence + 1)
      return .again ⟨.binary left op right, left.span.merge right.span⟩
    else
      return .done left
  | none => return .done left

theorem binaryExpr_eq (rules : Rules) (least : Nat) :
    binaryExpr rules least = unaryExpr rules >>= fun first => loop first (climb rules least) :=
  rfl

theorem yields_climb_op {left : Expr} {op : BinaryOp} {outcome : Step Expr Expr → Cursor → Prop}
    (next : nextOp? cursor.rest = some op) (tight : least ≤ op.precedence) :
    Yields False (climb rules least left) cursor outcome ↔
      Yields False (rules.binary (op.precedence + 1)) cursor.advance fun right after =>
        outcome (.again ⟨.binary left op right, left.span.merge right.span⟩) after := by
  have next : cursor.peek.bind binaryOp? = some op := next
  simp [climb, next, tight]

theorem yields_climb_done {left : Expr} {outcome : Step Expr Expr → Cursor → Prop}
    (next : ∀ op ∈ nextOp? cursor.rest, op.precedence < least) :
    Yields False (climb rules least left) cursor outcome ↔ outcome (.done left) cursor := by
  have next : ∀ op ∈ cursor.peek.bind binaryOp?, op.precedence < least := next
  simp only [climb, yields_bind, yields_peek]
  split
  · rename_i op found
    simp [Nat.not_le.mpr (next op found)]
  · simp

end

structure Reads (tree : Operation) (follow : List Lexeme) (level : Int) (result : Expr) (after : Cursor) :
    Prop where
  same : result.erase = tree.expr
  rest : after.rest = follow
  level : after.level = level

def ReadsOperand (tree : Operation) : Prop :=
  ∀ ⦃depth : Nat⦄ ⦃cursor : Cursor⦄ ⦃follow : List Lexeme⦄,
    tree.tokens.length ≤ depth + 1 → cursor.Ahead tree.tokens follow → atSuffix cursor.level follow = false →
      Yields False (unaryExpr (ofDepth depth)) cursor (Reads tree follow cursor.level)

/-- Joining operands comes to a round that has the whole tree, if its operators are tight enough and the
operator after it takes no part of it away. What holds from that round on holds from the start. -/
def Climbs (tree : Operation) : Prop :=
  ∀ ⦃depth least : Nat⦄ ⦃cursor : Cursor⦄ ⦃follow : List Lexeme⦄ ⦃condition : Expr → Cursor → Prop⦄,
    tree.tokens.length ≤ depth + 1 → cursor.Ahead tree.tokens follow → atSuffix cursor.level follow = false →
      (∀ inner ∈ tree.precedence?, least ≤ inner) →
      (∀ op ∈ nextOp? follow, ∀ inner ∈ tree.precedence?, op.precedence ≤ inner) →
      (∀ result after fuel, Reads tree follow cursor.level result after → follow.length < fuel →
        Yields False (iterate (climb (ofDepth depth) least) fuel result) after condition) →
      Yields False (binaryExpr (ofDepth depth) least) cursor condition

variable {tree : Operation}

theorem ReadsOperand.climbs (reads : ReadsOperand tree) : Climbs tree := by
  intro depth least cursor follow condition enough ahead ends _ _ goes
  rw [binaryExpr_eq, yields_bind]
  refine (reads enough ahead ends).mono ?_
  intro result after read
  rw [yields_loop]
  exact goes result after _ read (by rw [read.rest]; omega)

theorem Climbs.reads (climbs : Climbs tree) {depth least : Nat} {cursor : Cursor} {follow : List Lexeme}
    (enough : tree.tokens.length ≤ depth + 1) (ahead : cursor.Ahead tree.tokens follow)
    (ends : atSuffix cursor.level follow = false) (tight : ∀ inner ∈ tree.precedence?, least ≤ inner)
    (loose : ∀ op ∈ nextOp? follow, op.precedence < least) :
    Yields False (binaryExpr (ofDepth depth) least) cursor (Reads tree follow cursor.level) := by
  refine climbs enough ahead ends tight ?_ ?_
  · intro op next inner root
    have below := loose op next
    have above := tight inner root
    omega
  · intro result after fuel read more
    obtain ⟨fuel, rfl⟩ := Nat.exists_eq_add_one_of_ne_zero (by omega : fuel ≠ 0)
    rw [yields_iterate, yields_climb_done (by rw [read.rest]; exact loose)]
    exact read

theorem readsOperand_name (text : String) : ReadsOperand (.name text) := by
  intro depth cursor follow _ ahead ends
  have peeked := ahead.peek
  have rest := ahead.advance.rest_of_nil
  have level := Cursor.Alike.level_advance cursor
  rw [yields_unaryExpr_primary peeked rfl (by simp), primary, yields_phrase, yields_bind]
  simp only [operand, yields_phrase, yields_bind, yields_get, peeked, yields_skip, yields_pure]
  rw [yields_suffixes (by rw [rest, level]; exact ends) (fun _ => rfl)]
  exact ⟨rfl, rest, level⟩

theorem readsOperand_paren {inner : Operation} (climbs : Climbs inner) : ReadsOperand (.paren inner) := by
  intro depth cursor follow enough ahead ends
  have enough : inner.tokens.length + 2 ≤ depth + 1 := by simpa [Operation.tokens] using enough
  obtain ⟨depth, rfl⟩ := Nat.exists_eq_add_one_of_ne_zero (by omega : depth ≠ 0)
  have peeked := ahead.peek
  obtain ⟨closing, inside, closes⟩ := ahead.advance.split
  have next : closing.head?.map (·.token) = some (.mark .rparen) :=
    (closes { cursor with rest := closing } rfl).peek
  rw [yields_unaryExpr_primary peeked rfl (by simp), primary, yields_phrase, yields_bind]
  simp only [operand, parenthesized, yields_phrase, yields_bind, yields_get, peeked, yields_expectMark, if_true,
    yields_deeper]
  refine Yields.mono (climbs.reads (by omega) (inside.level _) (by simp [atSuffix, next, isSuffix])
    (fun _ root => (Operation.precedence?_bounds root).1) (by simp [nextOp?, next, binaryOp?])) ?_
  intro result after read
  have closed := (closes after read.rest).level (after.level - 1)
  have rest := closed.advance.rest_of_nil
  have level : Cursor.level (Cursor.advance { after with level := after.level - 1 }) = cursor.level := by
    simp [Cursor.Alike.level_advance, read.level]
  rw [if_pos closed.peek, yields_spanFrom, yields_pure,
    yields_suffixes (by rw [rest, level]; exact ends) (by simp [Expr.isLiteralType, Expr.isTypeName])]
  exact ⟨by simp [Operation.expr, Expr.built, read.same], rest, level⟩

theorem readsOperand_unary {operand : Operation} (op : UnaryOp) (reads : ReadsOperand operand) :
    ReadsOperand (.unary op operand) := by
  intro depth cursor follow enough ahead ends
  have enough : operand.tokens.length + 1 ≤ depth + 1 := by simpa [Operation.tokens] using enough
  have filled := operand.length_tokens_pos
  obtain ⟨depth, rfl⟩ := Nat.exists_eq_add_one_of_ne_zero (by omega : depth ≠ 0)
  have level := Cursor.Alike.level_advance cursor
  have value : (cursor.rest[1]?).map (·.token) ≠ some (.keyword .chan) := by
    obtain ⟨token, tokens, shape⟩ := List.exists_cons_of_ne_nil operand.tokens_ne_nil
    have next : cursor.advance.peek = some token := (shape ▸ ahead.advance).peek
    rw [Cursor.peek, Cursor.Alike.rest_advance, List.head?_tail] at next
    rw [next]
    intro same
    cases same
    exact operand.keyword_notMem_tokens .chan (shape ▸ List.mem_cons_self)
  rw [yields_unaryExpr_op ahead.peek value]
  refine Yields.mono (reads (by omega) ahead.advance (by rw [level]; exact ends)) ?_
  intro result after read
  refine ⟨?_, read.rest, by rw [read.level, level]⟩
  simp [Operation.expr, Expr.built, read.same]

theorem climbs_binary {left right : Operation} {op : BinaryOp} (first : Climbs left) (second : Climbs right)
    (loose : ∀ inner ∈ left.precedence?, op.precedence ≤ inner)
    (tight : ∀ inner ∈ right.precedence?, op.precedence < inner) : Climbs (.binary left op right) := by
  intro depth least cursor follow condition enough ahead ends root next goes
  have enough : left.tokens.length + (right.tokens.length + 1) ≤ depth + 1 := by
    simpa [Operation.tokens] using enough
  have filled := left.length_tokens_pos
  obtain ⟨depth, rfl⟩ := Nat.exists_eq_add_one_of_ne_zero (by omega : depth ≠ 0)
  have least_le : least ≤ op.precedence := root _ rfl
  obtain ⟨middle, before, continues⟩ := ahead.split
  have peeked : middle.head?.map (·.token) = some (.mark op.mark) :=
    (continues { cursor with rest := middle } rfl).peek
  have found : nextOp? middle = some op := by rw [nextOp?, peeked, Option.bind_some, binaryOp?_mark]
  -- some round has the left operand, and that round takes the operator and the right one
  refine first (by omega) before ?_ ?_ ?_ ?_
  · rw [atSuffix, peeked]
    cases op <;> rfl
  · intro inner member
    exact Nat.le_trans least_le (loose inner member)
  · intro other same inner member
    rw [found] at same
    cases same
    exact loose inner member
  · intro result after fuel read more
    obtain ⟨fuel, rfl⟩ := Nat.exists_eq_add_one_of_ne_zero (by omega : fuel ≠ 0)
    have rightAhead := (continues after read.rest).advance
    have level : after.advance.level = cursor.level := by rw [Cursor.Alike.level_advance, read.level]
    rw [yields_iterate, yields_climb_op (by rw [read.rest]; exact found) least_le]
    refine Yields.mono (second.reads (by omega) rightAhead (by rw [level]; exact ends) tight ?_) ?_
    · intro other same
      exact Nat.lt_succ_of_le (next other same _ rfl)
    · intro operand last readRight
      refine goes _ _ fuel ⟨?_, readRight.rest, by rw [readRight.level, level]⟩ ?_
      · simp [Operation.expr, Expr.built, read.same, readRight.same]
      · -- the rounds that are left outnumber the tokens that are left, since this one read some
        have length := (continues after read.rest).length
        rw [read.rest, List.length_cons] at length
        omega

/-- Every operand of a grouped tree is read, and joining operands comes to every part of it. -/
theorem climbs_of_grouped (tree : Operation) (grouped : tree.Grouped) :
    (tree.precedence? = none → ReadsOperand tree) ∧ Climbs tree := by
  induction tree with
  | name text => exact ⟨fun _ => readsOperand_name text, (readsOperand_name text).climbs⟩
  | paren inner ih =>
    have reads := readsOperand_paren (ih grouped).2
    exact ⟨fun _ => reads, reads.climbs⟩
  | unary op operand ih =>
    have reads := readsOperand_unary op ((ih grouped.1).1 grouped.2)
    exact ⟨fun _ => reads, reads.climbs⟩
  | binary left op right ihLeft ihRight =>
    obtain ⟨groupedLeft, groupedRight, loose, tight⟩ := grouped
    refine ⟨?_, climbs_binary (ihLeft groupedLeft).2 (ihRight groupedRight).2 loose tight⟩
    intro none
    cases none

theorem yields_expr {depth : Nat} {cursor : Cursor} {follow : List Lexeme} (grouped : tree.Grouped)
    (enough : tree.tokens.length ≤ depth) (ahead : cursor.Ahead tree.tokens follow)
    (ends : atSuffix cursor.level follow = false) (noOp : nextOp? follow = none) :
    Yields False (ofDepth depth).expr cursor (Reads tree follow cursor.level) := by
  have filled := tree.length_tokens_pos
  obtain ⟨depth, rfl⟩ := Nat.exists_eq_add_one_of_ne_zero (by omega : depth ≠ 0)
  exact (climbs_of_grouped tree grouped).2.reads enough ahead ends
    (fun _ root => (Operation.precedence?_bounds root).1) (by simp [noOp])

/-- Names with binary operators between them are read up to their end, as the one tree that groups them. -/
theorem expr_groups (first : String) (chain : List (BinaryOp × String)) {depth : Nat} {cursor : Cursor}
    {follow : List Lexeme} (ahead : cursor.Ahead (Operation.chainTokens first chain) follow)
    (ends : atSuffix cursor.level follow = false) (noOp : nextOp? follow = none)
    (enough : (Operation.chainTokens first chain).length ≤ depth) :
    ∃ (result : Expr) (after : Cursor) (tree : Operation),
      (ofDepth depth).expr cursor = .ok (result, after) ∧ after.rest = follow ∧
      after.level = cursor.level ∧ result.erase = tree.expr ∧ tree.Grouped ∧
      tree.tokens = Operation.chainTokens first chain ∧
      ∀ other : Operation, other.Grouped → other.tokens = Operation.chainTokens first chain → other = tree := by
  obtain ⟨tree, grouped, tokens⟩ := Operation.exists_grouped first chain
  have reads : ∀ other : Operation, other.Grouped → other.tokens = Operation.chainTokens first chain →
      Yields False (ofDepth depth).expr cursor (Reads other follow cursor.level) := by
    intro other grouped tokens
    rw [← tokens] at ahead enough
    exact yields_expr grouped enough ahead ends noOp
  obtain ⟨result, after, run, same, rest, level⟩ := (reads tree grouped tokens).exists_run
  refine ⟨result, after, tree, run, rest, level, same, grouped, tokens, ?_⟩
  intro other otherGrouped otherTokens
  have read := (yields_of_run run).mp (reads other otherGrouped otherTokens)
  exact Operation.expr_injective (read.same.symm.trans same)

def sumOfProduct : Cursor where
  rest := [⟨.ident "a", 0, 1⟩, ⟨.mark .plus, 2, 3⟩, ⟨.ident "b", 4, 5⟩, ⟨.mark .star, 6, 7⟩,
    ⟨.ident "c", 8, 9⟩, ⟨.mark .minus, 10, 11⟩, ⟨.ident "d", 12, 13⟩, ⟨.semicolon true, 13, 14⟩]
  comments := []
  lastEnd := 0
  level := 0
  source := "a + b * c - d\n".toList

theorem expr_sumOfProduct :
    ∃ result after, (ofDepth 7).expr sumOfProduct = .ok (result, after) ∧
      after.rest = [⟨.semicolon true, 13, 14⟩] ∧
      result.erase = (Operation.binary
        (.binary (.name "a") .add (.binary (.name "b") .mul (.name "c"))) .sub (.name "d")).expr := by
  have ahead : sumOfProduct.Ahead (Operation.chainTokens "a" [(.add, "b"), (.mul, "c"), (.sub, "d")])
      [⟨.semicolon true, 13, 14⟩] := ⟨sumOfProduct.rest.take 7, rfl, rfl⟩
  obtain ⟨result, after, tree, run, rest, _, same, _, _, unique⟩ :=
    expr_groups "a" [(.add, "b"), (.mul, "c"), (.sub, "d")] ahead rfl rfl (Nat.le_refl 7)
  exact ⟨result, after, run, rest, same.trans (congrArg _ (unique _ (by decide) rfl).symm)⟩

end Rules

end GoSpecs
