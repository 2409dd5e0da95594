import GoSpecs.Proofs.Conversion.Twice
import GoSpecs.Proofs.Syntax.Outline

namespace GoSpecs

namespace SourceFile

/--
Only the first import declaration changes: it has its old entries and one for each path that was missing, sorted. A
second time nothing changes, and specs refer to the provider as before.
-/
theorem ensureImports_settles {conventions : Conventions} {file result : SourceFile} {provider : ContextProvider}
    (apart : conventions.contextAlias ≠ ".") (h : file.ensureImports conventions = .ok (result, provider)) :
    (∃ front item back before after, file.items = front ++ item :: back ∧ item.decl = .imports before ∧
      (∀ other ∈ front, other.isImport = false) ∧ before.Completes conventions after ∧
      result = { file with items := front ++ { item with decl := .imports after } :: back }) ∧
    result.ensureImports conventions = .ok (result, ⟨provider.qualifier?, false⟩) := by
  obtain ⟨changed, frame⟩ := ensureImports_ok h
  obtain ⟨front, item, group, back, items, decl, filled, none, same, isProvider⟩ := Item.ensureImports_ok changed
  have completes := group.completes_ensure conventions
  refine ⟨⟨front, item, back, group, _, items, decl, none, completes, frame.trans (by rw [same])⟩, ?_⟩
  obtain ⟨spec, member, _⟩ := ImportGroup.bddPath_mem_ensure conventions group
  have again := @Item.ensureImports_of_first conventions front back
    { item with decl := .imports (group.ensure conventions).1 } _ none rfl (List.ne_nil_of_mem member)
  rw [group.ensure_ensure apart, ← same, ← isProvider] at again
  rw [ensureImports, again]
  rfl

def blankProvider : SourceFile :=
  ⟨[], "p", .detached,
    [contextFunc "helper" [], ⟨.imports ⟨[⟨none, "testing", none⟩, ⟨some "_", "github.com/tjarratt/mr_t", none⟩,
      ⟨some "m", "github.com/tjarratt/mr_t", none⟩], true⟩, [], none, .detached⟩], [], .unknown⟩

theorem ensureImports_blankProvider : ∃ result, Conventions.ginkgo.contextAlias ≠ "." ∧
    blankProvider.ensureImports .ginkgo = .ok (result, ⟨some "mr", false⟩) ∧
    result.ensureImports .ginkgo = .ok (result, ⟨some "mr", false⟩) := by
  have apart : Conventions.ginkgo.contextAlias ≠ "." := by decide
  obtain ⟨result, ensured⟩ : ∃ result, blankProvider.ensureImports .ginkgo = .ok (result, ⟨some "mr", false⟩) :=
    ⟨_, rfl⟩
  exact ⟨result, apart, ensured, (ensureImports_settles apart ensured).2⟩

/-- Some expression of the file selects a member of what goes by the name. -/
def HasSelector (file : SourceFile) (name : String) : Prop :=
  ∃ member place span, (⟨.selector ⟨.ident name, place⟩ member, span⟩ : Expr).outline ∈ file.outline.nodes

theorem refersTo_iff (file : SourceFile) (name : String) : file.refersTo name = true ↔ file.HasSelector name := by
  constructor
  · intro refers
    obtain ⟨visited, member, test⟩ := List.any_eq_true.mp refers
    split at test
    · rename_i base place field span
      have here : (⟨.selector ⟨.ident base, place⟩ field, span⟩ : Expr).outline ∈ file.outline.visited := by
        rw [file.visited_outline]
        exact List.mem_map.mpr ⟨_, member, rfl⟩
      rw [eq_of_beq test] at here
      exact ⟨field, place, span, (List.mem_filter.mp here).1⟩
    · cases test
  · rintro ⟨field, place, span, node⟩
    have here : (⟨.selector ⟨.ident name, place⟩ field, span⟩ : Expr).outline ∈ file.outline.visited :=
      List.mem_filter.mpr ⟨node, by simp [Expr.outline, Outline.label, Label.isVisited]⟩
    rw [file.visited_outline] at here
    obtain ⟨visited, member, same⟩ := List.mem_map.mp here
    cases visited with
    | expr expr =>
      have found : expr = ⟨.selector ⟨.ident name, place⟩ field, span⟩ := outline_inj.expr _ _ same
      subst found
      exact List.any_eq_true.mpr ⟨_, member, by simp⟩
    | field inner =>
      obtain ⟨names, type, tag?, comment⟩ := inner
      simp [Visited.outline, Field.outline, Expr.outline] at same

def importGroups (file : SourceFile) : List ImportGroup :=
  file.items.filterMap (·.decl.imports?)

theorem importSpecs_eq_flatMap (file : SourceFile) : file.importSpecs = file.importGroups.flatMap (·.specs) := by
  rw [importSpecs, importGroups]
  induction file.items with
  | nil => rfl
  | cons item items ih =>
    rw [List.flatMap_cons, ih]
    cases found : item.decl.imports? <;> simp [Item.importSpecs, found]

theorem length_importGroups (file : SourceFile) : file.importGroups.length = file.items.countP (·.isImport) := by
  rw [importGroups, List.length_filterMap_eq_countP]
  rfl

theorem importGroups_removeImport_le (path : String) (file : SourceFile) :
    (file.removeImport path).importGroups.length ≤ file.importGroups.length := by
  rw [length_importGroups, length_importGroups, removeImport, List.countP_filterMap]
  apply List.countP_mono_left
  intro item _ still
  cases removed : Item.removeImport? path item with
  | none => simp [removed] at still
  | some result =>
    rw [← Item.removeImport?_isImport removed]
    simpa [removed] using still

theorem importGroups_dropUnused_le (file : SourceFile) (name path : String) :
    (file.dropUnused name path).importGroups.length ≤ file.importGroups.length := by
  unfold dropUnused
  split
  · exact Nat.le_refl _
  · exact importGroups_removeImport_le path file

theorem importGroups_moveTests_le (file : SourceFile) (conventions : Conventions) (native? : Option NativeType)
    (accessor : Expr.Node) :
    (file.moveTests conventions native? accessor).importGroups.length ≤ file.importGroups.length := by
  rw [length_importGroups, length_importGroups, moveTests, List.countP_append]
  have container : ∀ leaves, [Item.ofLeaves conventions leaves].countP (·.isImport) = 0 := fun _ => rfl
  rw [container, Nat.add_zero]
  exact List.filter_sublist.countP_le

theorem importGroups_dropNative_le (file : SourceFile) (conventions : Conventions) (native? : Option NativeType)
    (type : Expr.Node) :
    (file.dropNative conventions native? type).importGroups.length ≤ file.importGroups.length := by
  cases native? with
  | none => exact Nat.le_refl _
  | some native =>
    have same : (native.substitute type file).1.importGroups = file.importGroups := by
      simp only [importGroups, NativeType.substitute_eq, SourceFile.replace, List.filterMap_map]
      apply List.filterMap_congr
      intro item _
      exact item.imports?_substituted (some native) type
    rw [← same]
    exact importGroups_dropUnused_le ..

theorem importGroups_dropProvider_le (file : SourceFile) (conventions : Conventions) (provider : ContextProvider) :
    (file.dropProvider conventions provider).importGroups.length ≤ file.importGroups.length := by
  unfold dropProvider
  split
  · exact importGroups_dropUnused_le ..
  · exact Nat.le_refl _

theorem importGroups_convert_le {conventions : Conventions} {file out imported : SourceFile} {count : Nat}
    {provider : ContextProvider} (h : file.convert conventions = .ok (out, count))
    (imports : file.ensureImports conventions = .ok (imported, provider)) :
    out.importGroups.length ≤ imported.importGroups.length := by
  rw [convert_of_ensureImports imports] at h
  cases h
  calc _ ≤ _ := importGroups_dropProvider_le ..
    _ ≤ _ := importGroups_dropNative_le ..
    _ ≤ _ := importGroups_moveTests_le ..

theorem ensureImports_of_one {conventions : Conventions} {file : SourceFile} {group : ImportGroup}
    (one : file.importGroups = [group]) (filled : group.specs ≠ []) :
    ∃ imported, file.ensureImports conventions = .ok (imported, (group.ensure conventions).2) ∧
      imported.importGroups = [(group.ensure conventions).1] := by
  have first : file.imports? = some group := by
    rw [imports?, ← List.head?_filterMap]
    exact congrArg List.head? one
  obtain ⟨front, item, back, items, decl, none⟩ := imports?_eq_some.mp first
  have here : item.decl.imports? = some group := Decl.imports?_eq_some.mpr decl
  have before : front.filterMap (·.decl.imports?) = [] :=
    List.filterMap_eq_nil_iff.mpr fun other member => Item.imports?_eq_none.mpr (none other member)
  have after : back.filterMap (·.decl.imports?) = [] := by
    simpa [importGroups, items, List.filterMap_append, before, here] using one
  refine ⟨_, by rw [ensureImports, items, Item.ensureImports_of_first none decl filled]; rfl, ?_⟩
  rw [importGroups, List.filterMap_append, List.filterMap_cons, before, after]
  rfl

end SourceFile

namespace ImportGroup

variable {conventions : Conventions} {group : ImportGroup}

theorem nameContext_of_nodup {specs : List ImportSpec} (distinct : (specs.map (·.path)).Nodup) :
    nameContext conventions specs = specs.map (·.named conventions) := by
  induction specs with
  | nil => rfl
  | cons spec specs ih =>
    obtain ⟨alone, distinct⟩ := List.nodup_cons.mp distinct
    by_cases context : spec.path = conventions.contextPath
    · have others : specs.map (·.named conventions) = specs := by
        rw [List.map_congr_left (g := id), List.map_id]
        intro other member
        apply other.named_of_other
        intro same
        exact alone (List.mem_map.mpr ⟨other, member, same.trans context.symm⟩)
      rw [nameContext_cons_of_path context, List.map_cons, others]
    · rw [nameContext_cons_of_other context, ih distinct, List.map_cons, spec.named_of_other conventions context]

theorem nodup_missing (conventions : Conventions) (specs : List ImportSpec) : (missing conventions specs).Nodup :=
  (List.nodup_dedup _).filter _

theorem mem_missing {specs : List ImportSpec} {path : String} :
    path ∈ missing conventions specs ↔
      (path = conventions.bddPath ∨ path = conventions.contextPath) ∧ path ∉ specs.map (·.path) := by
  simp [missing]

theorem path_mem_ensure {path : String} :
    path ∈ (group.ensure conventions).1.specs.map (·.path) ↔
      path ∈ group.specs.map (·.path) ∨ path = conventions.bddPath ∨ path = conventions.contextPath := by
  have same := (completes_ensure conventions group).entries.map (·.path)
  rw [same.mem_iff, map_path_completed, List.mem_append, mem_missing]
  tauto

theorem pairwise_lt_ensure (distinct : (group.specs.map (·.path)).Nodup) :
    (group.ensure conventions).1.specs.Pairwise (·.path < ·.path) := by
  have completes := completes_ensure conventions group
  have still : ((group.ensure conventions).1.specs.map (·.path)).Nodup := by
    rw [(completes.entries.map _).nodup_iff, map_path_completed, List.nodup_append']
    refine ⟨distinct, nodup_missing .., ?_⟩
    intro path before new
    exact (mem_missing.mp new).2 before
  have both := completes.sorted.and (List.pairwise_map.mp still)
  apply both.imp
  rintro a b ⟨le, ne⟩
  exact String.not_le.mp fun back => ne (String.le_antisymm le back)

theorem mem_ensure (distinct : (group.specs.map (·.path)).Nodup) {spec : ImportSpec}
    (member : spec ∈ (group.ensure conventions).1.specs) :
    (∃ old ∈ group.specs, old.path = spec.path ∧ spec = old.named conventions) ∨
      spec.path ∉ group.specs.map (·.path) ∧ spec = newEntry conventions spec.path := by
  rw [(completes_ensure conventions group).entries.mem_iff, completed, nameContext_of_nodup distinct,
    List.mem_append] at member
  rcases member with member | member
  · obtain ⟨old, before, rfl⟩ := List.mem_map.mp member
    exact .inl ⟨old, before, (old.path_named conventions).symm, rfl⟩
  · obtain ⟨path, new, rfl⟩ := List.mem_map.mp member
    rw [path_newEntry]
    exact .inr ⟨(mem_missing.mp new).2, rfl⟩

theorem find?_path_eq_some_iff {specs : List ImportSpec} (distinct : (specs.map (·.path)).Nodup) {path : String}
    {spec : ImportSpec} : specs.find? (·.path == path) = some spec ↔ spec ∈ specs ∧ spec.path = path := by
  constructor
  · intro found
    exact ⟨List.mem_of_find?_eq_some found, by simpa using List.find?_some found⟩
  · rintro ⟨member, rfl⟩
    obtain ⟨first, found⟩ : ∃ first, specs.find? (·.path == spec.path) = some first := by
      apply Option.isSome_iff_exists.mp
      rw [List.isSome_find?, List.any_eq_true]
      exact ⟨spec, member, by simp⟩
    have same : first.path = spec.path := by simpa using List.find?_some found
    rw [found, List.inj_on_of_nodup_map distinct (List.mem_of_find?_eq_some found) member same]

theorem added_ensure (apart : conventions.bddPath ≠ conventions.contextPath) :
    (group.ensure conventions).2.added = true ↔ conventions.contextPath ∉ group.specs.map (·.path) := by
  have same := congrArg List.head? (@filter_path_withBdd conventions group.specs _ apart.symm)
  rw [List.head?_filter, List.head?_filter] at same
  have provider : (group.ensure conventions).2 = (withContext conventions (withBdd conventions group.specs)).2 := rfl
  rw [provider]
  cases found : group.specs.find? (·.path == conventions.contextPath) with
  | some spec =>
    rw [withContext_of_found (same.trans found)]
    have present : conventions.contextPath ∈ group.specs.map (·.path) :=
      List.mem_map.mpr ⟨spec, List.mem_of_find?_eq_some found, by simpa using List.find?_some found⟩
    simp [present]
  | none =>
    rw [withContext_of_absent (same.trans found)]
    simpa using found

end ImportGroup

namespace SourceFile

variable {file : SourceFile} {group : ImportGroup}

theorem ofFile?_all (distinct : (file.importSpecs.map (·.path)).Nodup) (conventions : Conventions)
    (test : String → Bool) :
    (NativeType.ofFile? conventions file).all (fun native => test native.package) = true ↔
      ∀ spec ∈ file.importSpecs, spec.path = conventions.testingPath → spec.localName ≠ "_" →
        spec.localName ≠ "." → test spec.localName = true := by
  have entry := @ImportGroup.find?_path_eq_some_iff _ distinct conventions.testingPath
  rw [ofFile?_eq, List.head?_filter]
  cases found : file.importSpecs.find? (·.path == conventions.testingPath) with
  | none =>
    have absent : ∀ spec ∈ file.importSpecs, spec.path ≠ conventions.testingPath := by
      intro spec member here
      have same := entry.mpr ⟨member, here⟩
      rw [found] at same
      cases same
    constructor
    · intro _ spec member here
      exact (absent spec member here).elim
    · intro _
      rfl
  | some spec =>
    obtain ⟨member, here⟩ := entry.mp found
    constructor
    · intro all other among at' notBlank notDot
      have same := entry.mpr ⟨among, at'⟩
      rw [found] at same
      cases same
      simpa [notBlank, notDot] using all
    · intro all
      have own := all spec member here
      by_cases notBlank : spec.localName = "_"
      · simp [notBlank]
      · by_cases notDot : spec.localName = "."
        · simp [notDot]
        · simp [notBlank, notDot, own notBlank notDot]

theorem keepsPath_iff (one : file.importGroups = [group]) (distinct : (group.specs.map (·.path)).Nodup)
    {conventions : Conventions} (apart : conventions.bddPath ≠ conventions.contextPath) (out : SourceFile)
    (path : String) :
    out.keepsPath conventions (NativeType.ofFile? conventions file) (group.ensure conventions).2 path = true ↔
      (path = conventions.testingPath → ∀ spec ∈ group.specs, spec.path = path → spec.localName ≠ "_" →
        spec.localName ≠ "." → out.HasSelector spec.localName) ∧
      (path = conventions.contextPath → path ∉ group.specs.map (·.path) →
        out.HasSelector conventions.contextAlias) := by
  have specs : file.importSpecs = group.specs := by
    rw [importSpecs_eq_flatMap, one, List.flatMap_singleton]
  have native := ofFile?_all (specs ▸ distinct) conventions out.refersTo
  simp only [specs, refersTo_iff] at native
  rw [keepsPath, Bool.and_eq_true, Bool.or_eq_true, Bool.or_eq_true, Bool.or_eq_true, native]
  apply and_congr
  · by_cases here : path = conventions.testingPath <;> simp [here]
  · by_cases here : path = conventions.contextPath
    · subst here
      rw [← ImportGroup.added_ensure apart]
      by_cases added : (group.ensure conventions).2.added = true
      · have provided := @ImportGroup.withContext_added conventions _ (group.ensure conventions).2 rfl added
        simp [added, provided, refersTo_iff]
      · simp [added]
    · simp [here]

/--
A converted file has one import declaration, sorted by path. It has the paths that were there, that of the framework of
specs, and the provider's if something refers to it. The native framework goes away exactly if it had a name and
nothing refers to that. Old entries are as they were, but for a name of the provider.
-/
theorem imports_convert (one : file.importGroups = [group]) (filled : group.specs ≠ [])
    (distinct : (group.specs.map (·.path)).Nodup) :
    ∃ out count final, file.convert .ginkgo = .ok (out, count) ∧ out.importGroups = [final] ∧
      final.specs.Pairwise (·.path < ·.path) ∧
      (∀ path, path ∈ final.specs.map (·.path) ↔
        (path ∈ group.specs.map (·.path) ∨ path = Conventions.ginkgo.bddPath ∨
          path = Conventions.ginkgo.contextPath ∧ out.HasSelector Conventions.ginkgo.contextAlias) ∧
        ¬ (path = Conventions.ginkgo.testingPath ∧ ∃ spec ∈ group.specs, spec.path = path ∧ spec.localName ≠ "_" ∧
          spec.localName ≠ "." ∧ ¬ out.HasSelector spec.localName)) ∧
      ∀ spec ∈ final.specs, (∃ old ∈ group.specs, old.path = spec.path ∧ spec = old.named .ginkgo) ∨
        spec.path ∉ group.specs.map (·.path) ∧ spec = ImportGroup.newEntry .ginkgo spec.path := by
  obtain ⟨imported, imports, ensured⟩ := ensureImports_of_one one filled
  obtain ⟨out, count, converted⟩ : ∃ out count, file.convert .ginkgo = .ok (out, count) :=
    ⟨_, _, convert_of_ensureImports imports⟩
  have specs := importSpecs_convert converted imports
  rw [importSpecs_eq_flatMap, importSpecs_eq_flatMap, ensured, List.flatMap_singleton] at specs
  have apart : Conventions.ginkgo.bddPath ≠ Conventions.ginkgo.contextPath := by decide
  have stays := keepsPath_iff one distinct apart out
  -- The framework of specs stays, and the declaration with it.
  obtain ⟨final, isFinal⟩ : ∃ final, out.importGroups = [final] := by
    have few := importGroups_convert_le converted imports
    obtain ⟨bdd, member, isBdd⟩ := ImportGroup.bddPath_mem_ensure .ginkgo group
    have kept : bdd ∈ out.importGroups.flatMap (·.specs) := by
      rw [specs, List.mem_filter, isBdd, stays]
      exact ⟨member, fun same => absurd same (by decide), fun same => absurd same apart⟩
    rw [ensured] at few
    match groups : out.importGroups with
    | [] => simp [groups] at kept
    | [final] => exact ⟨final, rfl⟩
    | _ :: _ :: _ => simp [groups] at few
  rw [isFinal, List.flatMap_singleton] at specs
  refine ⟨out, count, final, converted, isFinal, ?_, ?_, ?_⟩
  · rw [specs]
    exact (ImportGroup.pairwise_lt_ensure distinct).filter _
  · intro path
    have paths : final.specs.map (·.path) = ((group.ensure .ginkgo).1.specs.map (·.path)).filter
        (out.keepsPath .ginkgo (NativeType.ofFile? .ginkgo file) (group.ensure .ginkgo).2) := by
      rw [specs, List.filter_map]
      rfl
    rw [paths, List.mem_filter, ImportGroup.path_mem_ensure, stays]
    simp only [not_and, not_exists, not_not]
    constructor
    · rintro ⟨before | rfl | rfl, native, provider⟩
      · exact ⟨.inl before, native⟩
      · exact ⟨.inr (.inl rfl), native⟩
      · by_cases before : Conventions.ginkgo.contextPath ∈ group.specs.map (·.path)
        · exact ⟨.inl before, native⟩
        · exact ⟨.inr (.inr ⟨rfl, provider rfl before⟩), native⟩
    · rintro ⟨before | rfl | ⟨rfl, used⟩, native⟩
      · exact ⟨.inl before, native, fun _ absent => absurd before absent⟩
      · exact ⟨.inr (.inl rfl), native, fun same => absurd same apart⟩
      · exact ⟨.inr (.inr rfl), native, fun _ _ => used⟩
  · intro spec member
    rw [specs] at member
    exact ImportGroup.mem_ensure distinct (List.mem_filter.mp member).1

def unordered : SourceFile :=
  ⟨[], "p", .detached,
    [⟨.imports ⟨[⟨none, "testing", none⟩, ⟨some "_", "github.com/tjarratt/mr_t", none⟩, ⟨none, "fmt", none⟩], true⟩, [],
      none, .detached⟩, contextFunc "TestAdd" []], [], .unknown⟩

theorem imports_unordered : ∃ out count final, unordered.convert .ginkgo = .ok (out, count) ∧
    out.importGroups = [final] ∧ "fmt" ∈ final.specs.map (·.path) ∧ "testing" ∉ final.specs.map (·.path) := by
  have checked : ((unordered.ensureImports .ginkgo).toOption.map fun ensured =>
      (ensured.1.rewritten .ginkgo (NativeType.ofFile? .ginkgo unordered) ensured.2).refersTo "testing") =
        some false := by decide
  have one : unordered.importGroups = [_] := rfl
  obtain ⟨out, count, final, converted, isFinal, _, paths, _⟩ := imports_convert one (by simp) (by decide)
  have unused : ¬ out.HasSelector "testing" := by
    obtain ⟨imported, imports, _⟩ := @ensureImports_of_one .ginkgo _ _ one (by simp)
    rw [← refersTo_iff, refersTo_convert converted imports]
    simpa [imports, Except.toOption] using checked
  refine ⟨out, count, final, converted, isFinal, (paths _).mpr ⟨by simp, ?_⟩, ?_⟩
  · intro native
    exact absurd native.1 (by decide)
  · intro present
    exact ((paths _).mp present).2 ⟨rfl, ⟨none, "testing", none⟩, by simp, rfl, by decide, by decide, unused⟩

end SourceFile

end GoSpecs
