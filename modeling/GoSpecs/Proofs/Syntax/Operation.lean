import GoSpecs.Syntax.Build
import GoSpecs.Token.Basic

namespace GoSpecs

def UnaryOp.mark : UnaryOp → Mark
  | .pos => .plus
  | .neg => .minus
  | .not => .bang
  | .xor => .caret
  | .addr => .amp
  | .recv => .arrow
  | .tilde => .tilde

def BinaryOp.mark : BinaryOp → Mark
  | .orOr => .orOr
  | .andAnd => .andAnd
  | .eq => .eqEq
  | .ne => .notEq
  | .lt => .lt
  | .le => .ltEq
  | .gt => .gt
  | .ge => .gtEq
  | .add => .plus
  | .sub => .minus
  | .or => .pipe
  | .xor => .caret
  | .mul => .star
  | .div => .slash
  | .rem => .percent
  | .shl => .shl
  | .shr => .shr
  | .and => .amp
  | .andNot => .ampCaret

theorem UnaryOp.text_mark (op : UnaryOp) : op.mark.text = op.text := by
  cases op <;> rfl

theorem BinaryOp.text_mark (op : BinaryOp) : op.mark.text = op.text := by
  cases op <;> rfl

theorem BinaryOp.precedence_bounds (op : BinaryOp) : 1 ≤ op.precedence ∧ op.precedence ≤ 5 := by
  cases op <;> decide

inductive Operation where
  | name (text : String)
  | paren (inner : Operation)
  | unary (op : UnaryOp) (operand : Operation)
  | binary (left : Operation) (op : BinaryOp) (right : Operation)
deriving DecidableEq

namespace Operation

def expr : Operation → Expr
  | .name text => .built (.ident text)
  | .paren inner => .built (.paren inner.expr)
  | .unary op operand => .built (.unary op operand.expr)
  | .binary left op right => .built (.binary left.expr op right.expr)

def tokens : Operation → List Token
  | .name text => [.ident text]
  | .paren inner => .mark .lparen :: inner.tokens ++ [.mark .rparen]
  | .unary op operand => .mark op.mark :: operand.tokens
  | .binary left op right => left.tokens ++ .mark op.mark :: right.tokens

def precedence? : Operation → Option Nat
  | .binary _ op _ => some op.precedence
  | _ => none

/-- Every binary operator has tighter ones inside it, and on its left maybe ones of its own precedence. -/
def Grouped : Operation → Prop
  | .name _ => True
  | .paren inner => inner.Grouped
  | .unary _ operand => operand.Grouped ∧ operand.precedence? = none
  | .binary left op right =>
    left.Grouped ∧ right.Grouped ∧ (∀ inner ∈ left.precedence?, op.precedence ≤ inner) ∧
      ∀ inner ∈ right.precedence?, op.precedence < inner

instance decidableGrouped : (tree : Operation) → Decidable tree.Grouped
  | .name _ => .isTrue trivial
  | .paren inner => decidableGrouped inner
  | .unary _ operand =>
    have := decidableGrouped operand
    inferInstanceAs (Decidable (_ ∧ _))
  | .binary left _ right =>
    have := decidableGrouped left
    have := decidableGrouped right
    inferInstanceAs (Decidable (_ ∧ _ ∧ _ ∧ _))

def bare : Operation → Operation
  | .name text => .name text
  | .paren inner => inner.bare
  | .unary op operand => .unary op operand.bare
  | .binary left op right => .binary left.bare op right.bare

theorem tokens_ne_nil (tree : Operation) : tree.tokens ≠ [] := by
  cases tree <;> simp [tokens]

theorem length_tokens_pos (tree : Operation) : 0 < tree.tokens.length :=
  List.length_pos_iff.mpr tree.tokens_ne_nil

theorem precedence?_bounds {tree : Operation} {root : Nat} (here : root ∈ tree.precedence?) :
    1 ≤ root ∧ root ≤ 5 := by
  cases tree with
  | binary left op right =>
    cases here
    exact op.precedence_bounds
  | _ => cases here

theorem keyword_notMem_tokens (tree : Operation) (word : Keyword) : Token.keyword word ∉ tree.tokens := by
  induction tree with
  | name text => simp [tokens]
  | paren inner ih => simp [tokens, ih]
  | unary op operand ih => simp [tokens, ih]
  | binary left op right ihLeft ihRight => simp [tokens, ihLeft, ihRight]

theorem expr_injective {tree other : Operation} (same : tree.expr = other.expr) : tree = other := by
  induction tree generalizing other with
  | name text =>
    cases other <;> simp [expr, Expr.built] at same
    rw [same]
  | paren inner ih =>
    cases other <;> simp [expr, Expr.built] at same
    rw [ih same]
  | unary op operand ih =>
    cases other <;> simp [expr, Expr.built] at same
    rw [same.1, ih same.2]
  | binary left op right ihLeft ihRight =>
    cases other <;> simp [expr, Expr.built] at same
    rw [ihLeft same.1, same.2.1, ihRight same.2.2]

/-- The tree goes on with an operator and a name. The operator takes the right operand of every looser
one. -/
def extend (op : BinaryOp) (text : String) : Operation → Operation
  | .binary left inner right =>
    if inner.precedence < op.precedence then .binary left inner (right.extend op text)
    else .binary (.binary left inner right) op (.name text)
  | tree => .binary tree op (.name text)

def chainTokens (first : String) (chain : List (BinaryOp × String)) : List Token :=
  .ident first :: chain.flatMap fun (op, text) => [.mark op.mark, .ident text]

variable (tree : Operation) (op : BinaryOp) (text : String)

theorem tokens_extend : (tree.extend op text).tokens = tree.tokens ++ [.mark op.mark, .ident text] := by
  fun_induction extend op text tree with
  | case1 left inner right looser ih => simp [tokens, ih]
  | case2 left inner right tighter => simp [tokens]
  | case3 tree other => simp [tokens]

theorem precedence?_extend :
    ∀ root ∈ (tree.extend op text).precedence?, root = op.precedence ∨ root ∈ tree.precedence? := by
  fun_cases extend op text tree with
  | case1 left inner right looser => simp [precedence?]
  | case2 left inner right tighter => simp [precedence?]
  | case3 other => simp [precedence?]

variable {tree}

theorem Grouped.extend (grouped : tree.Grouped) : (tree.extend op text).Grouped := by
  fun_induction Operation.extend op text tree with
  | case1 left inner right looser ih =>
    obtain ⟨groupedLeft, groupedRight, loose, tight⟩ := grouped
    refine ⟨groupedLeft, ih groupedRight, loose, ?_⟩
    intro root member
    rcases precedence?_extend right op text root member with rfl | old
    · exact looser
    · exact tight root old
  | case2 left inner right tighter =>
    refine ⟨grouped, trivial, ?_, by simp [precedence?]⟩
    intro root member
    cases member
    exact Nat.not_lt.mp tighter
  | case3 tree other =>
    refine ⟨grouped, trivial, ?_, by simp [precedence?]⟩
    intro root member
    cases tree with
    | binary left inner right => exact absurd rfl (other left inner right)
    | _ => cases member

theorem Grouped.exists_append (grouped : tree.Grouped) (chain : List (BinaryOp × String)) :
    ∃ longer : Operation, longer.Grouped ∧
      longer.tokens = tree.tokens ++ chain.flatMap fun (op, text) => [.mark op.mark, .ident text] := by
  induction chain generalizing tree with
  | nil => exact ⟨tree, grouped, by simp⟩
  | cons link chain ih =>
    obtain ⟨op, text⟩ := link
    obtain ⟨longer, again, tokens⟩ := ih (grouped.extend op text)
    refine ⟨longer, again, ?_⟩
    rw [tokens, tokens_extend, List.flatMap_cons, List.append_assoc]

theorem exists_grouped (first : String) (chain : List (BinaryOp × String)) :
    ∃ tree : Operation, tree.Grouped ∧ tree.tokens = chainTokens first chain := by
  have single : (name first).Grouped := trivial
  exact single.exists_append chain

end Operation

end GoSpecs
