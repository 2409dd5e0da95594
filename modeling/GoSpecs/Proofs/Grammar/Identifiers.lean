import GoSpecs.Proofs.Grammar.Spans
import GoSpecs.Proofs.Syntax.Rewrite

namespace GoSpecs

open Text

def Replacement.ofNames (rename : String → String) : Replacement where
  expr?
    | ⟨.ident name, span⟩ => some ⟨.ident (rename name), span⟩
    | _ => none
  field? := fun _ => none

def Visited.ident? : Visited → Option (String × Span)
  | .expr ⟨.ident name, span⟩ => some (name, span)
  | _ => none

def SourceFile.idents (file : SourceFile) : List (String × Span) :=
  file.visits.filterMap Visited.ident?

theorem SourceFile.map_fst_idents (file : SourceFile) : file.idents.map Prod.fst = file.identNames := by
  rw [idents, identNames, List.map_filterMap]
  refine List.filterMap_congr fun visited _ => ?_
  unfold Visited.ident?
  split <;> simp_all

namespace Outline

def ident? : Outline → Option (String × Span)
  | .node (.expr span) [.node (.ident name) []] => some (name, span)
  | _ => none

def idents (tree : Outline) : List (String × Span) :=
  tree.nodes.filterMap ident?

def identsOf (parts : List Outline) : List (String × Span) :=
  (nodesOfParts parts).filterMap ident?

theorem idents_node (label : Label) (parts : List Outline) :
    (node label parts).idents = (node label parts).ident?.toList ++ identsOf parts := by
  rw [idents, nodes, identsOf, List.filterMap_cons]
  cases (node label parts).ident? <;> rfl

@[simp] theorem identsOf_nil : identsOf [] = [] := rfl

@[simp] theorem identsOf_cons (part : Outline) (parts : List Outline) :
    identsOf (part :: parts) = part.idents ++ identsOf parts := by
  rw [identsOf, nodesOfParts, List.filterMap_append, idents, identsOf]

mutual

def renamed (rename : String → String) : Outline → Outline
  | .node (.expr span) [.node (.ident name) []] => .node (.expr span) [.node (.ident (rename name)) []]
  | .node label parts => .node label (renamedParts rename parts)

def renamedParts (rename : String → String) : List Outline → List Outline
  | [] => []
  | part :: parts => part.renamed rename :: renamedParts rename parts

end

variable (rename : String → String)

theorem renamedParts_eq_map (parts : List Outline) : renamedParts rename parts = parts.map (renamed rename) := by
  induction parts with
  | nil => rfl
  | cons part parts ih => rw [renamedParts, ih, List.map_cons]

theorem ident?_eq_some {tree : Outline} {name : String} {span : Span} :
    tree.ident? = some (name, span) ↔ tree = .node (.expr span) [.node (.ident name) []] := by
  fun_cases ident? tree <;> simp_all [and_comm]

theorem renamed_of_not_ident {label : Label} {parts : List Outline} (other : (node label parts).ident? = none) :
    (node label parts).renamed rename = .node label (parts.map (renamed rename)) := by
  rw [← renamedParts_eq_map, renamed]
  rintro span name rfl rfl
  cases other

theorem renamed_eq_ident {tree : Outline} {name : String} (same : tree.renamed rename = .node (.ident name) []) :
    tree = .node (.ident name) [] := by
  unfold renamed at same
  split at same
  · cases same
  · rw [renamedParts_eq_map] at same
    simpa using same

theorem ident?_renamed_of_none {tree : Outline} (other : tree.ident? = none) : (tree.renamed rename).ident? = none := by
  obtain ⟨label, parts⟩ := tree
  rw [Option.eq_none_iff_forall_ne_some]
  rintro ⟨name, span⟩ found
  rw [ident?_eq_some, renamed_of_not_ident rename other, node.injEq, List.map_eq_singleton_iff] at found
  obtain ⟨rfl, part, rfl, same⟩ := found
  rw [renamed_eq_ident rename same] at other
  cases other

mutual

theorem idents_renamed : (tree : Outline) → (tree.renamed rename).idents = tree.idents.map (Prod.map rename id)
  | .node label parts => by
    cases found : (node label parts).ident? with
    | some ident =>
      rw [ident?_eq_some.mp found]
      rfl
    | none =>
      have after := ident?_renamed_of_none rename found
      rw [renamed_of_not_ident rename found] at after ⊢
      rw [idents_node, idents_node, after, found]
      exact identsOf_renamed parts

theorem identsOf_renamed : (parts : List Outline) →
    identsOf (parts.map (renamed rename)) = (identsOf parts).map (Prod.map rename id)
  | [] => rfl
  | part :: parts => by
    rw [List.map_cons, identsOf_cons, identsOf_cons, idents_renamed part, identsOf_renamed parts, List.map_append]

end

end Outline

theorem Replacement.rewrites_renamed (rename : String → String) :
    Replacement.Rewrites (.ofNames rename) (Outline.renamed rename) where
  kept label parts plain := by
    refine Outline.renamed_of_not_ident rename ?_
    cases label <;> first | rfl | cases plain
  ofExpr expr := by
    obtain ⟨node, span⟩ := expr
    cases node <;> rfl
  ofField field := by
    obtain ⟨names, type, tag?, comment⟩ := field
    rfl

theorem Visited.ident?_outline (visited : Visited) : visited.outline.ident? = visited.ident? := by
  unfold Visited.outline
  split
  · rename_i inner
    obtain ⟨node, span⟩ := inner
    cases node <;> rfl
  · rename_i inner
    obtain ⟨names, type, tag?, comment⟩ := inner
    rfl

theorem SourceFile.idents_outline (file : SourceFile) : file.outline.idents = file.idents := by
  have kept (tree : Outline) : (if tree.label.isVisited = true then tree.ident? else none) = tree.ident? := by
    cases found : tree.ident? with
    | none => exact ite_self none
    | some ident => rw [Outline.ident?_eq_some.mp found, Outline.label, Label.isVisited, if_pos rfl]
  have same := congrArg (List.filterMap Outline.ident?) file.visited_outline
  rw [Outline.visited, List.filterMap_filter, funext kept, List.filterMap_map] at same
  rw [Outline.idents, same, SourceFile.idents]
  exact List.filterMap_congr fun visited _ => visited.ident?_outline

mutual

def Extent.idents : Extent → List (String × Span)
  | ⟨span, some name, _⟩ => [(name, span)]
  | ⟨_, none, parts⟩ => identsOfExtents parts

def identsOfExtents : List Extent → List (String × Span)
  | [] => []
  | extent :: extents => extent.idents ++ identsOfExtents extents

end

@[simp] theorem identsOfExtents_eq_flatMap (extents : List Extent) :
    identsOfExtents extents = extents.flatMap Extent.idents := by
  induction extents with
  | nil => rfl
  | cons extent extents ih => rw [identsOfExtents, ih, List.flatMap_cons]

@[simp] theorem Extent.idents_plain (span : Span) (parts : List Extent) :
    Extent.idents ⟨span, none, parts⟩ = parts.flatMap Extent.idents := by
  rw [Extent.idents, identsOfExtents_eq_flatMap]

/-- The ranges inside of a node of this label are those of its parts in their order. -/
def Label.isFlat : Label → Bool
  | .expr _ | .caseClause | .commClause => false
  | _ => true

theorem Label.idents_enclose {label : Label} (flat : label.isFlat = true) (name? : Option String)
    (parts : List (List Extent)) :
    (label.enclose name? parts).flatMap Extent.idents = parts.flatten.flatMap Extent.idents := by
  have split : parts.headD [] ++ parts.tail.flatten = parts.flatten := by cases parts <;> rfl
  cases label <;> first | simp [enclose, ← split]; done | cases flat

namespace Outline

/-- The ranges of the tree have its identifiers in their order. -/
def Placed (tree : Outline) : Prop :=
  tree.extents.flatMap Extent.idents = tree.idents

namespace Placed

variable {label : Label} {parts : List Outline}

theorem flatMap_parts (placed : ∀ part ∈ parts, part.Placed) :
    (parts.map extents).flatten.flatMap Extent.idents = identsOf parts := by
  induction parts with
  | nil => rfl
  | cons part parts ih =>
    rw [List.forall_mem_cons] at placed
    have first : part.extents.flatMap Extent.idents = part.idents := placed.1
    rw [List.map_cons, List.flatten_cons, List.flatMap_append, first, ih placed.2, identsOf_cons]

theorem node (flat : label.isFlat = true) (placed : ∀ part ∈ parts, part.Placed) :
    (Outline.node label parts).Placed := by
  have other : (Outline.node label parts).ident? = none := by cases label <;> first | rfl | cases flat
  rw [Placed, extents_node, Label.idents_enclose flat, flatMap_parts placed, idents_node, other]
  rfl

theorem nil : ∀ part ∈ ([] : List Outline), part.Placed :=
  List.forall_mem_nil _

theorem cons {part : Outline} (first : part.Placed) (more : ∀ part ∈ parts, part.Placed) :
    ∀ other ∈ part :: parts, other.Placed :=
  List.forall_mem_cons.mpr ⟨first, more⟩

theorem ofExpr (node : Expr.Node) (span : Span) (placed : node.outline.Placed) :
    (Expr.outline ⟨node, span⟩).Placed := by
  have inside : node.outline.extents.flatMap Extent.idents = node.outline.idents := placed
  have own : (Expr.outline ⟨node, span⟩).extents = [⟨span, node.outline.name?, node.outline.extents⟩] := by
    simp [Expr.outline, Label.enclose]
  rw [Placed, own, List.flatMap_singleton]
  cases node
  case ident name => rfl
  all_goals
    refine (Extent.idents_plain _ _).trans (inside.trans ?_)
    rw [Expr.outline, idents_node, identsOf_cons, identsOf_nil, List.append_nil]
    rfl

theorem ofClause {head : Outline} {body : Block} (isClause : label = .caseClause ∨ label = .commClause)
    (first : head.Placed) (second : body.outline.Placed) : (Outline.node label [head, body.outline]).Placed := by
  obtain ⟨stmts, comments, span⟩ := body
  have before : head.extents.flatMap Extent.idents = head.idents := first
  have inside : (Block.outline ⟨stmts, comments, span⟩).extents.flatMap Extent.idents =
      (Block.outline ⟨stmts, comments, span⟩).idents := second
  rw [Block.outline] at inside ⊢
  generalize outlinesOfStmts stmts = parts at inside
  rcases isClause with rfl | rfl <;>
    simpa [Placed, Label.enclose, idents_node, ident?, before] using inside

mutual

theorem expr : (expr : Expr) → expr.outline.Placed
  | ⟨node, span⟩ => .ofExpr node span (exprNode node)

theorem exprNode : (node : Expr.Node) → node.outline.Placed
  | .ident _ => .node rfl nil
  | .literal _ => .node rfl nil
  | .composite type? elements _ _ => .node rfl (cons (optExpr type?) (cons (.node rfl (exprs elements)) nil))
  | .funcLit type body => .node rfl (cons (funcType type) (cons (block body) nil))
  | .paren inner => .node rfl (cons (expr inner) nil)
  | .selector base _ => .node rfl (cons (expr base) nil)
  | .index base index => .node rfl (cons (expr base) (cons (expr index) nil))
  | .indexList base indices => .node rfl (cons (expr base) (cons (.node rfl (exprs indices)) nil))
  | .slice base low? high? max? _ =>
    .node rfl (cons (expr base) (cons (optExpr low?) (cons (optExpr high?) (cons (optExpr max?) nil))))
  | .typeAssert base type? => .node rfl (cons (expr base) (cons (optExpr type?) nil))
  | .call func args _ _ => .node rfl (cons (expr func) (cons (.node rfl (exprs args)) nil))
  | .star inner => .node rfl (cons (expr inner) nil)
  | .unary _ operand => .node rfl (cons (expr operand) nil)
  | .binary left _ right => .node rfl (cons (expr left) (cons (expr right) nil))
  | .keyValue key value => .node rfl (cons (expr key) (cons (expr value) nil))
  | .arrayType length? elem => .node rfl (cons (optExpr length?) (cons (expr elem) nil))
  | .ellipsis elem? => .node rfl (cons (optExpr elem?) nil)
  | .mapType key value => .node rfl (cons (expr key) (cons (expr value) nil))
  | .chanType _ elem => .node rfl (cons (expr elem) nil)
  | .funcType type => .node rfl (cons (funcType type) nil)
  | .structType members _ => .node rfl (fields members)
  | .interfaceType methods _ => .node rfl (fields methods)

theorem optExpr : (node? : Option Expr) → (outlineOfExpr? node?).Placed
  | none => .node rfl nil
  | some one => expr one

theorem exprs : (list : List Expr) → ∀ part ∈ outlinesOfExprs list, part.Placed
  | [] => nil
  | one :: list => cons (expr one) (exprs list)

theorem field : (field : Field) → field.outline.Placed
  | ⟨_, type, _, _⟩ => .node rfl (cons (expr type) nil)

theorem optField : (node? : Option Field) → (outlineOfField? node?).Placed
  | none => .node rfl nil
  | some one => field one

theorem fields : (list : List Field) → ∀ part ∈ outlinesOfFields list, part.Placed
  | [] => nil
  | one :: list => cons (field one) (fields list)

theorem funcType : (type : FuncType) → type.outline.Placed
  | ⟨params, results⟩ => .node rfl (cons (.node rfl (fields params)) (cons (.node rfl (fields results)) nil))

theorem block : (block : Block) → block.outline.Placed
  | ⟨list, _, _⟩ => .node rfl (stmts list)

theorem optBlock : (node? : Option Block) → (outlineOfBlock? node?).Placed
  | none => .node rfl nil
  | some one => block one

theorem stmt : (stmt : Stmt) → stmt.outline.Placed
  | ⟨node, _⟩ => .node rfl (cons (stmtNode node) nil)

theorem stmtNode : (node : Stmt.Node) → node.outline.Placed
  | .expr inner => .node rfl (cons (expr inner) nil)
  | .assign targets _ values => .node rfl (cons (.node rfl (exprs targets)) (cons (.node rfl (exprs values)) nil))
  | .incDec inner _ => .node rfl (cons (expr inner) nil)
  | .send channel value => .node rfl (cons (expr channel) (cons (expr value) nil))
  | .decl inner => .node rfl (cons (decl inner) nil)
  | .go call => .node rfl (cons (expr call) nil)
  | .defer call => .node rfl (cons (expr call) nil)
  | .ret results => .node rfl (exprs results)
  | .branch _ _ => .node rfl nil
  | .block inner => .node rfl (cons (block inner) nil)
  | .ifElse init? cond body else? =>
    .node rfl (cons (optStmt init?) (cons (expr cond) (cons (block body) (cons (optStmt else?) nil))))
  | .forLoop init? cond? post? body =>
    .node rfl (cons (optStmt init?) (cons (optExpr cond?) (cons (optStmt post?) (cons (block body) nil))))
  | .rangeLoop key? value? _ inner body =>
    .node rfl (cons (optExpr key?) (cons (optExpr value?) (cons (expr inner) (cons (block body) nil))))
  | .switch init? tag? clauses =>
    .node rfl (cons (optStmt init?) (cons (optExpr tag?) (cons (.node rfl (cases clauses)) nil)))
  | .typeSwitch init? _ inner clauses =>
    .node rfl (cons (optStmt init?) (cons (expr inner) (cons (.node rfl (cases clauses)) nil)))
  | .select clauses => .node rfl (comms clauses)
  | .labeled _ inner => .node rfl (cons (stmt inner) nil)
  | .empty => .node rfl nil

theorem optStmt : (node? : Option Stmt) → (outlineOfStmt? node?).Placed
  | none => .node rfl nil
  | some one => stmt one

theorem stmts : (list : List Stmt) → ∀ part ∈ outlinesOfStmts list, part.Placed
  | [] => nil
  | one :: list => cons (stmt one) (stmts list)

theorem cases : (list : List CaseClause) → ∀ part ∈ outlinesOfCases list, part.Placed
  | [] => nil
  | ⟨values, body⟩ :: list => cons (.ofClause (.inl rfl) (.node rfl (exprs values)) (block body)) (cases list)

theorem comms : (list : List CommClause) → ∀ part ∈ outlinesOfComms list, part.Placed
  | [] => nil
  | ⟨comm?, body⟩ :: list => cons (.ofClause (.inr rfl) (optStmt comm?) (block body)) (comms list)

theorem typeSpecs : (list : List TypeSpec) → ∀ part ∈ outlinesOfTypeSpecs list, part.Placed
  | [] => nil
  | ⟨_, typeParams, _, type, _⟩ :: list =>
    cons (.node rfl (cons (.node rfl (fields typeParams)) (cons (expr type) nil))) (typeSpecs list)

theorem valueSpecs : (list : List ValueSpec) → ∀ part ∈ outlinesOfValueSpecs list, part.Placed
  | [] => nil
  | ⟨_, type?, values, _⟩ :: list =>
    cons (.node rfl (cons (optExpr type?) (cons (.node rfl (exprs values)) nil))) (valueSpecs list)

theorem decl : (decl : Decl) → decl.outline.Placed
  | .imports _ => .node rfl nil
  | .func ⟨receiver?, _, _, typeParams, type, body?⟩ =>
    .node rfl (cons (optField receiver?) (cons (.node rfl (fields typeParams))
      (cons (funcType type) (cons (optBlock body?) nil))))
  | .types specs _ => .node rfl (typeSpecs specs)
  | .values _ specs _ => .node rfl (valueSpecs specs)

end

end Placed

end Outline

theorem SourceFile.placed (file : SourceFile) : file.outline.Placed :=
  .node rfl (by
    rintro part here
    obtain ⟨item, -, rfl⟩ := List.mem_map.mp here
    exact .node rfl (.cons (.decl item.decl) .nil))

def Span.Before (one other : Span) : Prop :=
  ∃ start stop start' stop', one = .range start stop ∧ other = .range start' stop' ∧ start < stop ∧ stop ≤ start' ∧
    start' < stop'

/-- The identifiers stand in a part of the source, one after the other. -/
structure Lined (lexemes : List Lexeme) (low high : Nat) (idents : List (String × Span)) : Prop where
  apart : idents.Pairwise fun one other => one.2.Before other.2
  spelled : ∀ ident ∈ idents, ∃ start stop, ident.2 = .range start stop ∧ low ≤ start ∧ start < stop ∧ stop ≤ high ∧
    ⟨.ident ident.1, start, stop⟩ ∈ lexemes

namespace Lined

variable {lexemes : List Lexeme} {low middle high low' high' : Nat} {idents idents' : List (String × Span)}

theorem mono (lined : Lined lexemes low high idents) (below : low' ≤ low) (above : high ≤ high') :
    Lined lexemes low' high' idents where
  apart := lined.apart
  spelled ident here := by
    obtain ⟨start, stop, place, after, less, before, here⟩ := lined.spelled ident here
    exact ⟨start, stop, place, by omega, less, by omega, here⟩

theorem append (first : Lined lexemes low middle idents) (second : Lined lexemes middle high idents')
    (le : low ≤ middle) (le' : middle ≤ high) : Lined lexemes low high (idents ++ idents') where
  apart := by
    refine List.pairwise_append.mpr ⟨first.apart, second.apart, fun one here other there => ?_⟩
    obtain ⟨start, stop, same, _, less, _, _⟩ := first.spelled one here
    obtain ⟨start', stop', same', _, less', _, _⟩ := second.spelled other there
    exact ⟨start, stop, start', stop', same, same', less, by omega, less'⟩
  spelled ident here := by
    rcases List.mem_append.mp here with here | here
    · exact (first.mono (Nat.le_refl _) le').spelled ident here
    · exact (second.mono le (Nat.le_refl _)).spelled ident here

end Lined

theorem Nested.lined {lexemes : List Lexeme} {low high : Nat} {extents : List Extent}
    (nested : Nested lexemes low high extents) : Lined lexemes low high (extents.flatMap Extent.idents) := by
  induction nested with
  | nil le => exact ⟨.nil, by simp⟩
  | @cons low start stop high name? parts rest after aligned spelled inside more within ih =>
    have first : Lined lexemes start stop (Extent.idents ⟨.range start stop, name?, parts⟩) := by
      cases name? with
      | some name =>
        refine ⟨List.pairwise_singleton _ _, fun ident here => ?_⟩
        rw [List.mem_singleton.mp here]
        exact ⟨start, stop, rfl, Nat.le_refl _, aligned.less, Nat.le_refl _, spelled name rfl⟩
      | none =>
        rw [Extent.idents_plain]
        exact within
    exact (first.append ih (Nat.le_of_lt aligned.less) more.le).mono after (Nat.le_refl _)

namespace SourceFile

/-- The walk and the replacement see the same identifiers: renaming them all before the walk is renaming what it finds.
In a file that was read they stand one after the other, and each is written at its place. -/
theorem identNames_renamed_and_in_order (rename : String → String) (file : SourceFile) :
    (file.replace (.ofNames rename)).identNames = file.identNames.map rename ∧
    ∀ source : String, ofText source = .ok file →
      file.idents.map Prod.fst = file.identNames ∧ file.idents.Pairwise (fun one other => one.2.Before other.2) ∧
      ∀ ident ∈ file.idents, ∃ start stop, ident.2 = .range start stop ∧
        (bytes source.toList).extract start stop = bytes ident.1.toList := by
  refine ⟨?_, fun source parsed => ⟨file.map_fst_idents, ?_⟩⟩
  · rw [← map_fst_idents, ← map_fst_idents, ← idents_outline, ← idents_outline,
      (Replacement.rewrites_renamed rename).outline_replace, Outline.idents_renamed, List.map_map, List.map_map]
    rfl
  · obtain ⟨lexemes, read, parsed⟩ := ofText_eq_ok.mp parsed
    have lined := (nested_ofLexemes read parsed).lined
    rw [file.placed, idents_outline] at lined
    refine ⟨lined.apart, fun ident here => ?_⟩
    obtain ⟨start, stop, place, -, -, -, written⟩ := lined.spelled ident here
    exact ⟨start, stop, place, (lossless_of_tokenize read).text _ written (by simp)⟩

def renamedSample : Sample labelled (fun _ file => file.identNames) ["R", "a", "b", "g", "c"] :=
  .ofChecked (by decide +kernel)

theorem identNames_renamed_and_in_order_labelled :
    ∃ file, ofText labelled = .ok file ∧ file.identNames = ["R", "a", "b", "g", "c"] ∧
      (file.replace (.ofNames String.capitalize)).identNames = ["R", "A", "B", "G", "C"] ∧
      file.idents.map Prod.fst = file.identNames ∧ file.idents.Pairwise (fun one other => one.2.Before other.2) ∧
      ∀ ident ∈ file.idents, ∃ start stop, ident.2 = .range start stop ∧
        (bytes labelled.toList).extract start stop = bytes ident.1.toList := by
  obtain ⟨renamed, places⟩ := identNames_renamed_and_in_order String.capitalize renamedSample.file
  refine ⟨renamedSample.file, renamedSample.ofText_eq, renamedSample.shows, ?_, places labelled renamedSample.ofText_eq⟩
  rw [renamed, renamedSample.shows]
  decide +kernel

end SourceFile

end GoSpecs
