import GoSpecs.Proofs.Syntax.Outline
import GoSpecs.Token.Basic

namespace GoSpecs

structure Extent where
  span : Span
  name? : Option String
  parts : List Extent

/-- The ranges that a node adds to those of its parts. Parentheses enclose the arguments of a call, and braces the
elements of a literal. The name of a function stands after its receiver, and the head of a clause inside the range
that the body has. -/
def Label.enclose (label : Label) (name? : Option String) (parts : List (List Extent)) : List Extent :=
  match label with
  | .expr span => [⟨span, name?, parts.flatten⟩]
  | .stmt span => [⟨span, none, parts.flatten⟩]
  | .block _ span => [⟨span, none, parts.flatten⟩]
  | .item _ _ span => [⟨span, none, parts.flatten⟩]
  | .structType braces => [⟨braces, none, parts.flatten⟩]
  | .interfaceType braces => [⟨braces, none, parts.flatten⟩]
  | .composite braces _ => parts.headD [] ++ [⟨braces, none, parts.tail.flatten⟩]
  | .call _ parens => parts.headD [] ++ [⟨parens, none, parts.tail.flatten⟩]
  | .func _ nameSpan => parts.headD [] ++ ⟨nameSpan, none, []⟩ :: parts.tail.flatten
  | .file _ _ packageSpan _ _ => ⟨packageSpan, none, []⟩ :: parts.flatten
  | .caseClause | .commClause =>
    match parts with
    | [head, [⟨span, name?, stmts⟩]] => [⟨span, name?, head ++ stmts⟩]
    | _ => parts.flatten
  | _ => parts.flatten

namespace Outline

def name? : Outline → Option String
  | .node (.ident name) _ => some name
  | _ => none

mutual

def extents : Outline → List Extent
  | .node label parts => label.enclose (parts.head?.bind name?) (extentsOfParts parts)

def extentsOfParts : List Outline → List (List Extent)
  | [] => []
  | part :: parts => part.extents :: extentsOfParts parts

end

theorem extentsOfParts_eq_map (parts : List Outline) : extentsOfParts parts = parts.map extents := by
  induction parts with
  | nil => rfl
  | cons part parts ih => rw [extentsOfParts, ih, List.map_cons]

def extentsOf (parts : List Outline) : List Extent :=
  parts.flatMap extents

@[simp] theorem extentsOf_nil : extentsOf [] = [] := rfl

@[simp] theorem extentsOf_cons (part : Outline) (parts : List Outline) :
    extentsOf (part :: parts) = part.extents ++ extentsOf parts := rfl

@[simp] theorem extentsOf_append (parts parts' : List Outline) :
    extentsOf (parts ++ parts') = extentsOf parts ++ extentsOf parts' :=
  List.flatMap_append

@[simp] theorem extents_node (label : Label) (parts : List Outline) :
    (node label parts).extents = label.enclose (parts.head?.bind name?) (parts.map extents) := by
  rw [extents, extentsOfParts_eq_map]

@[simp] theorem flatten_extents (parts : List Outline) : (parts.map extents).flatten = extentsOf parts := rfl

@[simp] theorem extents_absent : absent.extents = [] := rfl

@[simp] theorem extents_group (parts : List Outline) : (group parts).extents = extentsOf parts := by
  simp [group, Label.enclose]

end Outline

def Lexeme.IsPlain (lexeme : Lexeme) : Prop :=
  lexeme.token.isComment = false ∧ lexeme.token.isSemicolon = false

structure Aligned (lexemes : List Lexeme) (start stop : Nat) : Prop where
  less : start < stop
  starts : ∃ lexeme ∈ lexemes, lexeme.IsPlain ∧ lexeme.start = start
  stops : ∃ lexeme ∈ lexemes, lexeme.IsPlain ∧ lexeme.stop = stop

/-- The ranges lie between two offsets, one after the other, and so do in each of them the ranges inside it. All are
those of tokens, and a name is written where its range is. -/
inductive Nested (lexemes : List Lexeme) : (low high : Nat) → List Extent → Prop where
  | nil {low high : Nat} (le : low ≤ high) : Nested lexemes low high []
  | cons {low start stop high : Nat} {name? : Option String} {parts rest : List Extent} (after : low ≤ start)
      (aligned : Aligned lexemes start stop)
      (spelled : ∀ name ∈ name?, ⟨.ident name, start, stop⟩ ∈ lexemes)
      (inside : Nested lexemes start stop parts) (more : Nested lexemes stop high rest) :
      Nested lexemes low high (⟨.range start stop, name?, parts⟩ :: rest)

namespace Nested

variable {lexemes : List Lexeme} {low middle high low' high' : Nat} {span : Span} {name? : Option String}
  {extents extents' parts rest : List Extent}

theorem le (nested : Nested lexemes low high extents) : low ≤ high := by
  induction nested with
  | nil le => exact le
  | cons after aligned _ _ _ _ more =>
    have less := aligned.less
    omega

theorem mono (nested : Nested lexemes low high extents) (below : low' ≤ low) (above : high ≤ high') :
    Nested lexemes low' high' extents := by
  induction nested generalizing low' with
  | nil le => exact .nil (Nat.le_trans below (Nat.le_trans le above))
  | cons after aligned spelled inside _ _ more =>
    exact .cons (Nat.le_trans below after) aligned spelled inside (more (Nat.le_refl _) above)

theorem append (nested : Nested lexemes low middle extents) (more : Nested lexemes middle high extents') :
    Nested lexemes low high (extents ++ extents') := by
  induction nested with
  | nil le => exact more.mono le (Nat.le_refl _)
  | cons after aligned spelled inside _ _ ih => exact .cons after aligned spelled inside (ih more)

theorem sublist (nested : Nested lexemes low high extents) (fewer : extents'.Sublist extents) :
    Nested lexemes low high extents' := by
  induction nested generalizing extents' with
  | nil le =>
    rw [List.sublist_nil.mp fewer]
    exact .nil le
  | @cons low start stop high name? parts rest after aligned spelled inside more _ ih =>
    have less := aligned.less
    cases fewer with
    | cons _ fewer => exact (ih fewer).mono (by omega) (Nat.le_refl _)
    | cons_cons _ fewer => exact .cons after aligned spelled inside (ih fewer)

theorem inside (nested : Nested lexemes low high (⟨span, name?, parts⟩ :: rest)) :
    Nested lexemes low high parts := by
  cases nested with
  | cons after aligned _ inside more => exact inside.mono after more.le

theorem range_of_mem {extent : Extent} (nested : Nested lexemes low high extents) (here : extent ∈ extents) :
    ∃ start stop, extent.span = .range start stop ∧ Aligned lexemes start stop ∧ stop ≤ high := by
  induction nested with
  | nil le => cases here
  | @cons low start stop high name? parts rest after aligned spelled inside more _ ih =>
    rcases List.mem_cons.mp here with rfl | here
    · exact ⟨start, stop, rfl, aligned, more.le⟩
    · exact ih here

theorem tail {extent : Extent} (nested : Nested lexemes low high (extent :: rest)) : Nested lexemes low high rest :=
  nested.sublist (List.sublist_cons_self _ _)

theorem of_clause {head stmts part : List Extent} (nested : Nested lexemes low high [⟨span, name?, head ++ stmts⟩])
    (here : part ∈ [head, [⟨span, name?, stmts⟩]]) : Nested lexemes low high part := by
  rcases List.mem_cons.mp here with rfl | here
  · exact nested.inside.sublist (List.sublist_append_left _ _)
  · rw [List.mem_singleton.mp here]
    cases nested with
    | cons after aligned spelled inside more =>
      exact .cons after aligned spelled (inside.sublist (List.sublist_append_right _ _)) more

theorem of_enclose {label : Label} {parts : List (List Extent)} {part : List Extent}
    (nested : Nested lexemes low high (label.enclose name? parts)) (here : part ∈ parts) :
    Nested lexemes low high part := by
  have flat (nested : Nested lexemes low high parts.flatten) : Nested lexemes low high part :=
    nested.sublist (List.sublist_flatten_of_mem here)
  have split {own : List Extent} (nested : Nested lexemes low high (parts.headD [] ++ own))
      (within : Nested lexemes low high own → Nested lexemes low high parts.tail.flatten) :
      Nested lexemes low high part := by
    cases parts with
    | nil => cases here
    | cons first others =>
      rcases List.mem_cons.mp here with rfl | here
      · exact nested.sublist (List.sublist_append_left _ _)
      · exact (within (nested.sublist (List.sublist_append_right _ _))).sublist (List.sublist_flatten_of_mem here)
  unfold Label.enclose at nested
  split at nested
  · exact flat nested.inside
  · exact flat nested.inside
  · exact flat nested.inside
  · exact flat nested.inside
  · exact flat nested.inside
  · exact flat nested.inside
  · exact split nested inside
  · exact split nested inside
  · exact split nested tail
  · exact flat nested.tail
  · split at nested
    · exact of_clause nested here
    · exact flat nested
  · split at nested
    · exact of_clause nested here
    · exact flat nested
  · exact flat nested

end Nested

def Label.spans : Label → List Span
  | .expr span => [span]
  | .stmt span => [span]
  | .block _ span => [span]
  | .item _ _ span => [span]
  | .structType braces => [braces]
  | .interfaceType braces => [braces]
  | .composite braces _ => [braces]
  | .call _ parens => [parens]
  | .func _ nameSpan => [nameSpan]
  | .file _ _ packageSpan _ _ => [packageSpan]
  | _ => []

theorem Label.mem_enclose {label : Label} {span : Span} (name? : Option String) (parts : List (List Extent))
    (own : span ∈ label.spans) : span ∈ (label.enclose name? parts).map (·.span) := by
  unfold spans at own
  split at own <;> simp_all [enclose]

mutual

theorem Outline.range_of_nested {lexemes : List Lexeme} {low high : Nat} : (tree : Outline) →
    Nested lexemes low high tree.extents → ∀ inner ∈ tree.nodes, ∀ span ∈ inner.label.spans,
      ∃ start stop, span = .range start stop ∧ Aligned lexemes start stop ∧ stop ≤ high
  | .node label parts, nested, inner, here, span, own => by
    rw [extents_node] at nested
    rcases List.mem_cons.mp here with rfl | here
    · obtain ⟨extent, among, rfl⟩ := List.mem_map.mp (Label.mem_enclose _ _ own)
      exact nested.range_of_mem among
    · exact range_of_nestedParts parts (fun part here => nested.of_enclose (List.mem_map_of_mem here)) inner here span own

theorem Outline.range_of_nestedParts {lexemes : List Lexeme} {low high : Nat} : (parts : List Outline) →
    (∀ part ∈ parts, Nested lexemes low high part.extents) → ∀ inner ∈ nodesOfParts parts, ∀ span ∈ inner.label.spans,
      ∃ start stop, span = .range start stop ∧ Aligned lexemes start stop ∧ stop ≤ high
  | [], _, _, here, _, _ => nomatch here
  | part :: parts, nested, inner, here, span, own => by
    rw [List.forall_mem_cons] at nested
    rcases List.mem_append.mp here with here | here
    · exact range_of_nested part nested.1 inner here span own
    · exact range_of_nestedParts parts nested.2 inner here span own

end

end GoSpecs
