import GoSpecs.Proofs.Conversion.Declarations
import GoSpecs.Proofs.Conversion.KeptShape
import GoSpecs.Proofs.Grammar.Reading

namespace GoSpecs

namespace ImportGroup

theorem length_withContext (conventions : Conventions) (specs : List ImportSpec) :
    specs.length ≤ (withContext conventions specs).1.length := by
  induction specs with
  | nil => simp
  | cons spec specs ih =>
    unfold withContext
    split_ifs <;> simp_all

theorem length_withBdd (conventions : Conventions) (specs : List ImportSpec) :
    specs.length ≤ (withBdd conventions specs).length := by
  unfold withBdd
  split_ifs <;> simp

/-- Parentheses are left out around one spec only, and a group that had one still has. -/
theorem wellFormed_ensure (conventions : Conventions) {group : ImportGroup} (filled : group.specs ≠ []) :
    (group.ensure conventions).1.WellFormed := by
  intro bare
  have grown := (length_withBdd conventions group.specs).trans (length_withContext conventions _)
  have some : 0 < group.specs.length := List.length_pos_iff.mpr filled
  simp only [ensure, Bool.or_eq_false_iff, decide_eq_false_iff_not] at bare
  apply List.length_eq_one_iff.mp
  simp only [ensure, sortByPath, List.length_mergeSort]
  omega

theorem wellFormed_remove {path : String} {group : ImportGroup} (good : group.WellFormed)
    (filled : (group.remove path).specs ≠ []) : (group.remove path).WellFormed := by
  intro bare
  obtain ⟨spec, one⟩ := good bare
  simp only [remove, one, List.filter_cons, List.filter_nil] at filled ⊢
  split_ifs at filled ⊢
  · exact ⟨spec, rfl⟩
  · exact (filled rfl).elim

end ImportGroup

theorem Expr.Node.wellFormed_qualified (qualifier? : Option String) (name : String) :
    (Expr.Node.qualified qualifier? name).WellFormed := by
  cases qualifier? <;> simp [Expr.Node.qualified, Expr.built]

theorem Leaf.wellFormed_labeledCall (func label : String) {body : Block} (good : body.WellFormed) :
    (labeledCall func label body).WellFormed := by
  simp [labeledCall, Expr.built, Expr.Node.stringLit, Field.AreUniform, good]

theorem Block.wellFormed_ofLeaves (conventions : Conventions) {leaves : List Leaf}
    (good : ∀ leaf ∈ leaves, leaf.body.WellFormed) : (Block.ofLeaves conventions leaves).WellFormed := by
  simp only [Block.ofLeaves, Block.built, Block.WellFormed, wellFormedStmts_iff, List.length_map]
  refine ⟨?_, ?_⟩
  · intro stmt here
    obtain ⟨leaf, there, rfl⟩ := List.mem_map.mp here
    simp only [Leaf.stmt, Stmt.built, Expr.built, Stmt.WellFormed, Stmt.Node.WellFormed, Expr.WellFormed]
    exact Leaf.wellFormed_labeledCall _ _ (good leaf there)
  · intro comment here
    obtain ⟨place, below, anchor⟩ := @anchor_of_mem_ofLeaves conventions _ _ here
    obtain anchor | anchor := anchor
    all_goals
      rw [anchor]
      exact below

theorem Item.wellFormed_ofLeaves (conventions : Conventions) {leaves : List Leaf}
    (good : ∀ leaf ∈ leaves, leaf.body.WellFormed) : (Item.ofLeaves conventions leaves).decl.WellFormed := by
  have inner := Leaf.wellFormed_labeledCall conventions.containerFunc conventions.containerLabel
    (Block.wellFormed_ofLeaves conventions good)
  simp [Item.ofLeaves, FuncDecl.ofLeaves, Block.built, Stmt.built, Expr.built, Field.AreUniform, inner]

namespace NativeType

theorem keepsShape_substitute? (native : NativeType) {type : Expr.Node} (good : type.WellFormed) :
    KeepsShape (native.substitute? type) := by
  refine ⟨?_, ?_⟩
  all_goals
    intro field field' found
    unfold substitute? at found
    split at found
    · cases found
      simp [good]
    · cases found

theorem wellFormed_leaf? {native : NativeType} {accessor : Expr.Node} (good : accessor.WellFormed) {item : Item}
    (whole : item.decl.WellFormed) {leaf : Leaf} (found : native.leaf? accessor item = some leaf) :
    leaf.body.WellFormed := by
  unfold leaf? at found
  cases decl : item.decl with
  | func func =>
    obtain ⟨param, -, found⟩ := Option.bind_eq_some_iff.mp (by simpa [decl, Decl.func?] using found)
    obtain ⟨body, has, made⟩ := Option.bind_eq_some_iff.mp found
    cases made
    obtain ⟨receiver?, name, nameSpan, typeParams, type, body?⟩ := func
    cases has
    rw [decl] at whole
    simp only [Decl.WellFormed, WellFormedBlock?] at whole
    exact Block.wellFormed_replaceContext good whole.2.2.2.2
  | _ => simp [decl, Decl.func?] at found

end NativeType

namespace SourceFile

theorem wellFormed_of_ofText {source : String} {file : SourceFile} (parsed : ofText source = .ok file) :
    file.WellFormed := by
  obtain ⟨lexemes, tokens, parsed⟩ := ofText_eq_ok.mp parsed
  have twins := twins_ofLexemes source.toList source.toList (rfl : Lexeme.significant lexemes = _)
  rw [parsed] at twins
  cases twins with
  | some twins => exact twins.good

theorem wellFormed_ensureImports {conventions : Conventions} {file imported : SourceFile} {provider : ContextProvider}
    (good : file.WellFormed) (added : file.ensureImports conventions = .ok (imported, provider)) :
    imported.WellFormed := by
  obtain ⟨front, item, group, back, items, decl, filled, -, same, -⟩ :=
    Item.ensureImports_ok (ensureImports_ok added).1
  unfold WellFormed at good ⊢
  rw [items] at good
  rw [same]
  simp only [List.mem_append, List.mem_cons] at good ⊢
  rintro other (here | rfl | here)
  · exact good other (.inl here)
  · rw [Decl.WellFormed]
    exact ImportGroup.wellFormed_ensure conventions filled
  · exact good other (.inr (.inr here))

theorem wellFormed_removeImport {file : SourceFile} (good : file.WellFormed) (path : String) :
    (file.removeImport path).WellFormed := by
  intro item here
  obtain ⟨before, there, kept⟩ := List.mem_filterMap.mp here
  have whole := good before there
  unfold Item.removeImport? at kept
  split at kept
  · rename_i group decl
    dsimp only at kept
    split at kept
    · cases kept
    · rename_i filled
      cases kept
      rw [decl, Decl.WellFormed] at whole
      rw [Decl.WellFormed]
      exact ImportGroup.wellFormed_remove whole (by simpa using filled)
  · cases kept
    exact whole

theorem wellFormed_dropUnused {file : SourceFile} (good : file.WellFormed) (name path : String) :
    (file.dropUnused name path).WellFormed := by
  unfold dropUnused
  split
  · exact good
  · exact wellFormed_removeImport good path

theorem wellFormed_moveTests {file : SourceFile} (good : file.WellFormed) (conventions : Conventions)
    (native? : Option NativeType) {accessor : Expr.Node} (whole : accessor.WellFormed) :
    (file.moveTests conventions native? accessor).WellFormed := by
  simp only [WellFormed, moveTests, List.mem_append, List.mem_singleton]
  rintro item (here | rfl)
  · exact good item (List.mem_filter.mp here).1
  · apply Item.wellFormed_ofLeaves
    intro leaf here
    obtain ⟨item, there, found⟩ := List.mem_filterMap.mp here
    obtain ⟨native, -, found⟩ := Option.bind_eq_some_iff.mp found
    exact NativeType.wellFormed_leaf? whole (good item there) found

theorem wellFormed_dropNative {file : SourceFile} (good : file.WellFormed) (conventions : Conventions)
    (native? : Option NativeType) {capability : Expr.Node} (whole : capability.WellFormed) :
    (file.dropNative conventions native? capability).WellFormed := by
  cases native? with
  | none => exact good
  | some native =>
    apply wellFormed_dropUnused
    rw [NativeType.fst_substitute]
    intro item here
    obtain ⟨before, there, rfl⟩ := List.mem_map.mp here
    exact (native.keepsShape_substitute? whole).decl _ (good before there)

theorem wellFormed_dropProvider {file : SourceFile} (good : file.WellFormed) (conventions : Conventions)
    (provider : ContextProvider) : (file.dropProvider conventions provider).WellFormed := by
  unfold dropProvider
  split
  · exact wellFormed_dropUnused good _ _
  · exact good

theorem wellFormed_convert {conventions : Conventions} {file out : SourceFile} {count : Nat}
    (good : file.WellFormed) (converted : file.convert conventions = .ok (out, count)) : out.WellFormed := by
  obtain ⟨imported, provider, native?, added, -, -, rfl, -⟩ := convert_ok converted
  have capability := Expr.Node.wellFormed_qualified provider.qualifier? conventions.capabilityType
  have accessor : (provider.accessorCall conventions).WellFormed := by
    have func := Expr.Node.wellFormed_qualified provider.qualifier? conventions.contextAccessor
    simp [ContextProvider.accessorCall, Expr.Node.callNoArgs, Expr.built, func]
  apply wellFormed_dropProvider
  apply wellFormed_dropNative _ _ _ capability
  exact wellFormed_moveTests (wellFormed_ensureImports good added) _ _ accessor

/-- Reading gives well-formed files alone, and conversion takes them to well-formed files. -/
theorem wellFormed_read_and_converted :
    (∀ (source : String) (file : SourceFile), ofText source = .ok file → file.WellFormed) ∧
      ∀ (conventions : Conventions) (file out : SourceFile) (count : Nat), file.WellFormed →
        file.convert conventions = .ok (out, count) → out.WellFormed :=
  ⟨fun _ _ parsed => wellFormed_of_ofText parsed,
    fun _ _ _ _ good converted => wellFormed_convert good converted⟩

def branching : String :=
  "package p;import \"testing\"\nfunc TestA(t *testing.T)\x7bif a\x7b\n//b\nc()\x7delse\x7bs[:1:2]\x7d\x7d"

def branchingSample : Sample branching (fun _ file => (file.convert .ginkgo).toOption.map (·.2)) (some 1) :=
  .ofChecked (by decide +kernel)

theorem wellFormed_branching : ∃ file out, ofText branching = .ok file ∧ file.convert .ginkgo = .ok (out, 1) ∧
    file.WellFormed ∧ out.WellFormed := by
  have parsed := branchingSample.ofText_eq
  obtain ⟨⟨out, count⟩, converted, rfl⟩ := Option.map_eq_some_iff.mp branchingSample.shows
  have converted := eq_ok_of_toOption converted
  have good := wellFormed_read_and_converted.1 _ _ parsed
  exact ⟨_, out, parsed, converted, good, wellFormed_read_and_converted.2 _ _ _ _ good converted⟩

end SourceFile

end GoSpecs
