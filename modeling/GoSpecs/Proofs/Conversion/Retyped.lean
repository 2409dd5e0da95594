import GoSpecs.Proofs.Syntax.Retype
import GoSpecs.Proofs.Syntax.Rewrite
import GoSpecs.Spec.Native

namespace GoSpecs

def Label.isField : Label → Bool
  | .field _ _ _ => true
  | _ => false

namespace Outline

def pointer (package name : String) (outer inner base : Span) : Outline :=
  .node (.expr outer) [.node .star [.node (.expr inner) [.node (.selector name)
    [.node (.expr base) [.node (.ident package) []]]]]]

variable (native : NativeType) (type : Expr.Node)

def isNative : Outline → Bool
  | .node (.expr _) [.node .star [.node (.expr _) [.node (.selector name)
      [.node (.expr _) [.node (.ident package) []]]]]] => name == native.name && package == native.package
  | _ => false

/-- A receiver, a parameter, a result, a type parameter or a field that has the native type. -/
def isNativeField : Outline → Bool
  | .node label parts => label.isField && parts.any (·.isNative native)

def withType : Outline → Outline
  | .node label _ => .node label [type.outline]

mutual

def retyped : Outline → Outline
  | .node label parts =>
    if label.isField && parts.any (·.isNative native) then .node label (parts.map (·.withType type))
    else .node label (retypedParts parts)

def retypedParts : List Outline → List Outline
  | [] => []
  | part :: parts => part.retyped :: retypedParts parts

end

/-- Neither native nor around anything native, whatever it stands in. -/
structure IsForeign : Prop where
  alone : type.outline.isNative native = false
  within : ∀ label, (node label [type.outline]).isNative native = false
  nodes : ∀ inner ∈ type.outline.nodes, inner.isNativeField native = false

variable {native type} {tree : Outline} {label : Label} {parts : List Outline}

theorem isNative_iff : tree.isNative native = true ↔
    ∃ outer inner base, tree = pointer native.package native.name outer inner base := by
  constructor
  · intro h
    unfold isNative at h
    split at h
    · simp only [Bool.and_eq_true, beq_iff_eq] at h
      obtain ⟨rfl, rfl⟩ := h
      exact ⟨_, _, _, rfl⟩
    · cases h
  · rintro ⟨outer, inner, base, rfl⟩
    simp [pointer, isNative]

theorem retypedParts_eq_singleton {part : Outline} (h : retypedParts native type parts = [part]) :
    ∃ before, parts = [before] ∧ before.retyped native type = part := by
  match parts, h with
  | [before], h => exact ⟨before, rfl, List.singleton_inj.mp h⟩
  | [], h => cases h
  | _ :: _ :: _, h => simp [retypedParts] at h

theorem of_retyped_eq_node (h : tree.retyped native type = node label parts) (plain : label.isField = false) :
    ∃ before, tree = node label before ∧ retypedParts native type before = parts := by
  obtain ⟨label', before⟩ := tree
  rw [retyped] at h
  split at h
  · rename_i field
    obtain ⟨rfl, -⟩ := node.inj h
    simp [plain] at field
  · obtain ⟨rfl, rfl⟩ := node.inj h
    exact ⟨before, rfl, rfl⟩

theorem of_retyped_eq_single {part : Outline} (h : tree.retyped native type = node label [part])
    (plain : label.isField = false) : ∃ before, tree = node label [before] ∧ before.retyped native type = part := by
  obtain ⟨parts, rfl, single⟩ := of_retyped_eq_node h plain
  obtain ⟨before, rfl, inner⟩ := retypedParts_eq_singleton single
  exact ⟨before, rfl, inner⟩

theorem retyped_pointer (package name : String) (outer inner base : Span) :
    (pointer package name outer inner base).retyped native type = pointer package name outer inner base := by
  simp [pointer, retyped, retypedParts, Label.isField]

/-- There are no fields inside a pointer to a name, so it is not rewritten and does not come to be. -/
theorem isNative_retyped : (tree.retyped native type).isNative native = tree.isNative native := by
  rw [Bool.eq_iff_iff, isNative_iff, isNative_iff]
  constructor
  · rintro ⟨outer, inner, base, after⟩
    obtain ⟨star, rfl, afterStar⟩ := of_retyped_eq_single after rfl
    obtain ⟨named, rfl, afterNamed⟩ := of_retyped_eq_single afterStar rfl
    obtain ⟨selector, rfl, afterSelector⟩ := of_retyped_eq_single afterNamed rfl
    obtain ⟨package, rfl, afterPackage⟩ := of_retyped_eq_single afterSelector rfl
    obtain ⟨ident, rfl, afterIdent⟩ := of_retyped_eq_single afterPackage rfl
    obtain ⟨parts, rfl, empty⟩ := of_retyped_eq_node afterIdent rfl
    cases parts with
    | nil => exact ⟨outer, inner, base, rfl⟩
    | cons => simp [retypedParts] at empty
  · rintro ⟨outer, inner, base, rfl⟩
    exact ⟨outer, inner, base, retyped_pointer ..⟩

theorem any_isNative_retypedParts :
    (retypedParts native type parts).any (·.isNative native) = parts.any (·.isNative native) := by
  induction parts with
  | nil => rfl
  | cons part parts ih => rw [retypedParts, List.any_cons, List.any_cons, ih, isNative_retyped]

theorem isNativeField_retyped (foreign : IsForeign native type) :
    (tree.retyped native type).isNativeField native = false := by
  obtain ⟨label, parts⟩ := tree
  rw [retyped]
  split
  · have others : (parts.map (·.withType type)).any (·.isNative native) = false := by
      simp only [List.any_map, List.any_eq_false, Function.comp_apply, Bool.not_eq_true]
      rintro ⟨label', _⟩ -
      exact foreign.within label'
    rw [isNativeField, others, Bool.and_false]
  · rename_i other
    rw [isNativeField, any_isNative_retypedParts]
    exact Bool.eq_false_iff.mpr other

theorem nodesOfParts_withType {inner : Outline} (foreign : IsForeign native type)
    (member : inner ∈ nodesOfParts (parts.map (·.withType type))) : inner.isNativeField native = false := by
  induction parts with
  | nil => cases member
  | cons part parts ih =>
    obtain ⟨label, _⟩ := part
    simp only [List.map_cons, nodesOfParts, withType, nodes, List.append_nil, List.cons_append, List.mem_cons,
      List.mem_append] at member
    rcases member with rfl | member | member
    · rw [isNativeField, List.any_cons, foreign.alone, List.any_nil, Bool.or_false, Bool.and_false]
    · exact foreign.nodes inner member
    · exact ih member

mutual

theorem nodes_retyped (foreign : IsForeign native type) : (tree : Outline) →
    ∀ inner ∈ (tree.retyped native type).nodes, inner.isNativeField native = false
  | node label parts => by
    intro inner member
    have here : ((node label parts).retyped native type).isNativeField native = false := isNativeField_retyped foreign
    rw [retyped] at member here
    split at member
    · rename_i native
      rw [if_pos native] at here
      rcases List.mem_cons.mp member with rfl | member
      · exact here
      · exact nodesOfParts_withType foreign member
    · rename_i other
      rw [if_neg other] at here
      rcases List.mem_cons.mp member with rfl | member
      · exact here
      · exact nodes_retypedParts foreign parts inner member

theorem nodes_retypedParts (foreign : IsForeign native type) : (parts : List Outline) →
    ∀ inner ∈ nodesOfParts (retypedParts native type parts), inner.isNativeField native = false
  | [] => by simp [retypedParts, nodesOfParts]
  | part :: parts => by
    intro inner member
    rw [retypedParts, nodesOfParts, List.mem_append] at member
    rcases member with member | member
    · exact nodes_retyped foreign part inner member
    · exact nodes_retypedParts foreign parts inner member

end

mutual

theorem retyped_of_none : (tree : Outline) → (∀ inner ∈ tree.nodes, inner.isNativeField native = false) →
    tree.retyped native type = tree
  | node label parts, free => by
    have here := free (node label parts) (by simp [nodes])
    rw [isNativeField, Bool.eq_false_iff] at here
    rw [retyped, if_neg here, retypedParts_of_none parts fun inner member => free inner (by simp [nodes, member])]

theorem retypedParts_of_none : (parts : List Outline) →
    (∀ inner ∈ nodesOfParts parts, inner.isNativeField native = false) → retypedParts native type parts = parts
  | [], _ => rfl
  | part :: parts, free => by
    simp only [nodesOfParts, List.mem_append] at free
    rw [retypedParts, retyped_of_none part fun inner member => free inner (.inl member),
      retypedParts_of_none parts fun inner member => free inner (.inr member)]

end

end Outline

theorem Expr.isNative_outline (native : NativeType) (type : Expr) :
    type.outline.isNative native = native.isTypeOf type := by
  obtain ⟨node, span⟩ := type
  cases node with
  | star inner =>
    obtain ⟨node, span⟩ := inner
    cases node with
    | selector base field =>
      obtain ⟨node, span⟩ := base
      cases node <;>
        simp [Expr.outline, Expr.Node.outline, Outline.isNative, NativeType.isTypeOf, Expr.Node.isQualified]
    | _ => simp [Expr.outline, Expr.Node.outline, Outline.isNative, NativeType.isTypeOf, Expr.Node.isQualified]
  | _ => simp [Expr.outline, Expr.Node.outline, Outline.isNative, NativeType.isTypeOf]

theorem Field.isNativeField_outline (native : NativeType) (field : Field) :
    field.outline.isNativeField native = native.isTypeOf field.type := by
  obtain ⟨names, type, tag?, comment⟩ := field
  simp [Field.outline, Outline.isNativeField, Label.isField, Expr.isNative_outline]

def Expr.Node.isName : Expr.Node → Bool
  | .ident _ => true
  | .selector ⟨.ident _, _⟩ _ => true
  | _ => false

theorem Expr.Node.isForeign_of_isName (native : NativeType) {type : Expr.Node} (h : type.isName = true) :
    Outline.IsForeign native type := by
  unfold isName at h
  split at h
  · refine ⟨rfl, fun label => by cases label <;> rfl, fun inner member => ?_⟩
    simp only [Expr.Node.outline, Outline.nodes, Outline.nodesOfParts, List.mem_singleton] at member
    rw [member]
    rfl
  · refine ⟨rfl, fun label => by cases label <;> rfl, fun inner member => ?_⟩
    simp only [Expr.outline, Expr.Node.outline, Outline.nodes, Outline.nodesOfParts, List.append_nil, List.mem_cons,
      List.not_mem_nil, or_false] at member
    rcases member with rfl | rfl | rfl <;> rfl
  · cases h

theorem Outline.retypedParts_eq_map (native : NativeType) (type : Expr.Node) (parts : List Outline) :
    retypedParts native type parts = parts.map (retyped native type) := by
  induction parts with
  | nil => rfl
  | cons part parts ih => rw [retypedParts, ih, List.map_cons]

namespace NativeType

variable (native : NativeType)

theorem rewrites_retyped (type : Expr.Node) :
    Replacement.Rewrites (.ofFields (native.substitute? type)) (Outline.retyped native type) where
  kept label parts plain := by
    have other : label.isField = false := by cases label <;> first | rfl | cases plain
    rw [Outline.retyped, other, Bool.false_and, if_neg Bool.false_ne_true, Outline.retypedParts_eq_map]
  ofExpr expr := by
    obtain ⟨node, span⟩ := expr
    simp [Expr.outline, Outline.retyped, Outline.retypedParts, Label.isField, Replacement.ofFields]
  ofField field := by
    obtain ⟨names, inner, tag?, comment⟩ := field
    have test := Field.isNativeField_outline native ⟨names, inner, tag?, comment⟩
    simp only [Field.outline, Outline.isNativeField] at test
    obtain ⟨node, span⟩ := inner
    rw [Field.outline, Outline.retyped, test]
    cases is : native.isTypeOf ⟨node, span⟩ with
    | true => simp [Replacement.ofFields, substitute?, is, Field.outline, Expr.outline, Outline.withType]
    | false => simp [Replacement.ofFields, substitute?, is, Outline.retypedParts]

theorem isSome_substitute? (type : Expr.Node) (field : Field) :
    (native.substitute? type field).isSome = native.isTypeOf field.type := by
  cases is : native.isTypeOf field.type <;> simp [substitute?, is]

variable {native} in
theorem eq_of_isTypeOf {type : Expr} (is : native.isTypeOf type = true) : ∃ outer inner base : Span,
    type = ⟨.star ⟨.selector ⟨.ident native.package, base⟩ native.name, inner⟩, outer⟩ := by
  unfold isTypeOf Expr.Node.isQualified at is
  split at is
  · rename_i inner outer
    obtain ⟨node, span⟩ := inner
    split at is
    · rename_i base place field isSelector
      obtain ⟨isName, isPackage⟩ := Bool.and_eq_true_iff.mp is
      simp only at isSelector
      exact ⟨outer, span, place, by rw [isSelector, eq_of_beq isName, eq_of_beq isPackage]⟩
    · cases is
  · cases is

theorem replacesFlat_substitute? (type : Expr.Node) : ReplacesFlat (native.substitute? type) := by
  rintro ⟨names, type, tag?, comment⟩ is
  rw [isSome_substitute?] at is
  obtain ⟨outer, inner, base, rfl⟩ := eq_of_isTypeOf is
  rfl

theorem substitute_eq (type : Expr.Node) (file : SourceFile) : native.substitute type file =
    (file.replace (.ofFields (native.substitute? type)), replaced (native.substitute? type) file.visits) := by
  rw [substitute, (native.replacesFlat_substitute? type).run_retype, Nat.zero_add]

theorem outline_substitute (type : Expr.Node) (file : SourceFile) :
    (native.substitute type file).1.outline = file.outline.retyped native type := by
  rw [substitute_eq]
  exact (native.rewrites_retyped type).outline_replace file

theorem replace_substituted {type : Expr.Node} (name : type.isName = true) (again : Expr.Node) (decl : Decl) :
    (decl.replace (.ofFields (native.substitute? type))).replace (.ofFields (native.substitute? again)) =
      decl.replace (.ofFields (native.substitute? type)) := by
  apply outline_inj.decl
  rw [(native.rewrites_retyped again).decl, (native.rewrites_retyped type).decl]
  exact Outline.retyped_of_none _ (Outline.nodes_retyped (Expr.Node.isForeign_of_isName native name) decl.outline)

theorem isNativeField_visited (visited : Visited) : visited.outline.isNativeField native =
    match visited with
    | .expr _ => false
    | .field field => native.isTypeOf field.type := by
  cases visited with
  | expr expr =>
    obtain ⟨node, span⟩ := expr
    simp [Visited.outline, Expr.outline, Outline.isNativeField, Label.isField]
  | field field => exact field.isNativeField_outline native

theorem replaced_visits (type : Expr.Node) (file : SourceFile) : replaced (native.substitute? type) file.visits =
    file.outline.nodes.countP (·.isNativeField native) := by
  have onlyVisited (node : Outline) :
      (node.isNativeField native && node.label.isVisited) = node.isNativeField native := by
    obtain ⟨label, parts⟩ := node
    cases label <;> simp [Outline.isNativeField, Outline.label, Label.isField, Label.isVisited]
  calc replaced (native.substitute? type) file.visits
    _ = file.visits.countP (·.outline.isNativeField native) := by
      rw [replaced]
      congr 1
      funext visited
      rw [isNativeField_visited]
      cases visited with
      | expr _ => rfl
      | field field => exact native.isSome_substitute? type field
    _ = file.outline.visited.countP (·.isNativeField native) := by
      rw [file.visited_outline, List.countP_map]
      rfl
    _ = file.outline.nodes.countP (·.isNativeField native) := by
      rw [Outline.visited, List.countP_filter]
      simp only [onlyVisited]

/-- Another type takes the place of the native one in every receiver, parameter, result, type parameter and field that
has it and nowhere else: in the file that comes out, all other nodes are as they were. -/
theorem substitute_complete_and_precise (type : Expr.Node) (name : type.isName = true) (file : SourceFile) :
    (∀ node ∈ (native.substitute type file).1.outline.nodes, node.isNativeField native = false) ∧
      (native.substitute type file).2 = file.outline.nodes.countP (·.isNativeField native) ∧
      (∀ other : SourceFile,
        other = (native.substitute type file).1 ↔ other.outline = file.outline.retyped native type) ∧
      ∀ again, native.substitute again (native.substitute type file).1 = ((native.substitute type file).1, 0) := by
  have none : ∀ node ∈ (native.substitute type file).1.outline.nodes, node.isNativeField native = false := by
    rw [outline_substitute]
    exact Outline.nodes_retyped (Expr.Node.isForeign_of_isName native name) file.outline
  have counted (type : Expr.Node) (file : SourceFile) :
      (native.substitute type file).2 = file.outline.nodes.countP (·.isNativeField native) := by
    rw [substitute_eq, replaced_visits]
  refine ⟨none, counted type file, fun other => ⟨?_, fun same => ?_⟩, fun again => ?_⟩
  · rintro rfl
    exact native.outline_substitute type file
  · exact SourceFile.outline_inj (same.trans (native.outline_substitute type file).symm)
  · apply Prod.ext
    · apply SourceFile.outline_inj
      rw [outline_substitute, Outline.retyped_of_none _ none]
    · refine (counted again _).trans (List.countP_eq_zero.mpr fun node member => ?_)
      rw [none node member]
      exact Bool.false_ne_true

end NativeType

def SourceFile.partlyNative : SourceFile :=
  let pointer : Expr := .built (.star (.built (.qualified (some "testing") "T")))
  let method : Field := ⟨["Context"], .built (.funcType ⟨[], [⟨[], pointer, none, none⟩]⟩), none, none⟩
  let params : List Field := [⟨["t"], pointer, none, none⟩, ⟨["all"], .built (.arrayType none pointer), none, none⟩,
    ⟨["source"], .built (.interfaceType [method] .detached), none, none⟩]
  let items : List Decl := [.func ⟨none, "helper", .detached, [], ⟨params, []⟩, none⟩,
    .values .var [⟨["held"], some pointer, [], none⟩] false]
  ⟨[], "p", .detached, items.map fun decl => ⟨decl, [], none, .detached⟩, [], ⟨[]⟩⟩

theorem NativeType.substitute_partlyNative :
    (Expr.Node.qualified (some "mr") "TestingT").isName = true ∧
    ∃ after, NativeType.substitute ⟨"testing", "T"⟩ (.qualified (some "mr") "TestingT") .partlyNative = (after, 2) ∧
      NativeType.substitute ⟨"testing", "T"⟩ (.qualified (some "mr") "TestingT") after = (after, 0) := by
  have count : SourceFile.partlyNative.outline.nodes.countP (·.isNativeField ⟨"testing", "T"⟩) = 2 := by decide
  obtain ⟨-, replaced, -, again⟩ := NativeType.substitute_complete_and_precise ⟨"testing", "T"⟩
    (.qualified (some "mr") "TestingT") rfl .partlyNative
  exact ⟨rfl, _, Prod.ext rfl (replaced.trans count), again _⟩

end GoSpecs
