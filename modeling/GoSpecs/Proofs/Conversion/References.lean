import GoSpecs.Fault
import GoSpecs.Proofs.Conversion.Declarations

namespace GoSpecs

def Item.importSpecs (item : Item) : List ImportSpec :=
  (item.decl.imports?.map (·.specs)).getD []

theorem Item.importSpecs_of_not_import {item : Item} (h : item.isImport = false) :
    item.importSpecs = [] := by
  cases decl : item.decl with
  | imports group => simp [isImport, decl, Decl.imports?] at h
  | _ => simp [importSpecs, decl, Decl.imports?]

theorem Item.importSpecs_substituted (native? : Option NativeType) (type : Expr.Node) (item : Item) :
    (item.substituted native? type).importSpecs = item.importSpecs := by
  cases native? with
  | none => rfl
  | some native =>
    cases decl : item.decl with
    | func func =>
      obtain ⟨⟩ := func
      simp [Item.substituted, importSpecs, decl, Decl.imports?, Decl.replace]
    | _ => simp [Item.substituted, importSpecs, decl, Decl.imports?, Decl.replace]

namespace SourceFile

def importSpecs (file : SourceFile) : List ImportSpec :=
  file.items.flatMap (·.importSpecs)

theorem importSpecs_removeImport (path : String) (file : SourceFile) :
    (file.removeImport path).importSpecs = file.importSpecs.filter (·.path != path) := by
  simp only [importSpecs, removeImport]
  induction file.items with
  | nil => rfl
  | cons item items ih =>
    rw [List.flatMap_cons, List.filter_append, ← ih]
    cases decl : item.decl with
    | imports group =>
      by_cases empty : (group.remove path).specs.isEmpty = true
      · have gone : Item.removeImport? path item = none := by simp [Item.removeImport?, decl, empty]
        have none : item.importSpecs.filter (·.path != path) = [] := by
          simpa [Item.importSpecs, decl, Decl.imports?, ImportGroup.remove] using empty
        simp only [List.filterMap_cons, gone, none, List.nil_append]
      · have kept : Item.removeImport? path item =
            some { item with decl := .imports (group.remove path) } := by
          simp [Item.removeImport?, decl, empty]
        simp [kept, Item.importSpecs, decl, Decl.imports?, ImportGroup.remove]
    | _ => simp [Item.removeImport?, decl, Item.importSpecs, Decl.imports?]

theorem visits_eq_declarations (file : SourceFile) :
    file.visits = file.declarations.flatMap (·.decl.visits) := by
  simp only [visits, declarations]
  induction file.items with
  | nil => rfl
  | cons item items ih =>
    cases hi : item.isImport with
    | false => simp [hi, ih]
    | true =>
      obtain ⟨group, decl⟩ := item.isImport_iff.mp hi
      simp [hi, ih, decl, Decl.visits]

theorem AgreesBesideImports.refersTo {before after : SourceFile}
    (agrees : AgreesBesideImports before after) (name : String) :
    after.refersTo name = before.refersTo name := by
  rw [SourceFile.refersTo, SourceFile.refersTo, visits_eq_declarations, visits_eq_declarations,
    agrees.declarations]

theorem importSpecs_dropUnused (file : SourceFile) (name path : String) :
    (file.dropUnused name path).importSpecs =
      file.importSpecs.filter fun spec => file.refersTo name || spec.path != path := by
  unfold dropUnused
  cases used : file.refersTo name with
  | true => exact (List.filter_eq_self.mpr (by simp)).symm
  | false => simpa using importSpecs_removeImport path file

/-- No import of the path goes away: it is not the framework's or that is still in use, and it is
not the provider's or that was there before or is in use. -/
def keepsPath (out : SourceFile) (conventions : Conventions) (native? : Option NativeType)
    (provider : ContextProvider) (path : String) : Bool :=
  (path != conventions.testingPath || native?.all fun native => out.refersTo native.package) &&
    (path != conventions.contextPath || !provider.added ||
      provider.qualifier?.all fun qualifier => out.refersTo qualifier)

theorem importSpecs_moveTests (file : SourceFile) (conventions : Conventions)
    (native? : Option NativeType) (accessor : Expr.Node) :
    (file.moveTests conventions native? accessor).importSpecs = file.importSpecs := by
  have container : (Item.ofLeaves conventions
      (file.items.filterMap fun item => native?.bind (·.leaf? accessor item))).importSpecs = [] := rfl
  simp only [importSpecs, moveTests, List.flatMap_append, List.flatMap_singleton, container,
    List.append_nil]
  induction file.items with
  | nil => rfl
  | cons item items ih =>
    rw [List.filter_cons]
    cases hi : item.isImport with
    | false =>
      have none := Item.importSpecs_of_not_import hi
      split <;> simp [none, ih]
    | true =>
      obtain ⟨group, decl⟩ := item.isImport_iff.mp hi
      have stays : (native?.bind (·.leaf? accessor item)).isNone = true := by
        simp [NativeType.leaf?, decl, Decl.func?]
      simp [stays, ih]

theorem importSpecs_dropNative (file : SourceFile) (conventions : Conventions)
    (native? : Option NativeType) (type : Expr.Node) :
    (file.dropNative conventions native? type).importSpecs = file.importSpecs.filter fun spec =>
      spec.path != conventions.testingPath || native?.all fun native =>
        (file.dropNative conventions native? type).refersTo native.package := by
  cases native? with
  | none => exact (List.filter_eq_self.mpr (by simp)).symm
  | some native =>
    have agrees := agrees_dropUnused (native.substitute type file).1 native.package
      conventions.testingPath
    have same : (native.substitute type file).1.importSpecs = file.importSpecs := by
      simp only [importSpecs, NativeType.substitute_eq, SourceFile.replace, List.flatMap_map]
      exact congrArg file.items.flatMap
        (funext fun item => item.importSpecs_substituted (some native) type)
    simp only [dropNative, importSpecs_dropUnused, same, Option.all_some, agrees.refersTo]
    exact List.filter_congr fun spec _ => Bool.or_comm ..

theorem importSpecs_dropProvider (file : SourceFile) (conventions : Conventions)
    (provider : ContextProvider) :
    (file.dropProvider conventions provider).importSpecs = file.importSpecs.filter fun spec =>
      spec.path != conventions.contextPath || !provider.added || provider.qualifier?.all fun qualifier =>
        (file.dropProvider conventions provider).refersTo qualifier := by
  have agrees := file.agrees_dropProvider conventions provider
  simp only [agrees.refersTo]
  unfold dropProvider
  split
  · rw [importSpecs_dropUnused]
    refine List.filter_congr fun spec _ => ?_
    simp [Bool.or_comm]
  · rename_i different
    obtain ⟨qualifier?, added⟩ := provider
    cases qualifier? with
    | none => exact (List.filter_eq_self.mpr (by simp)).symm
    | some qualifier =>
      cases added with
      | false => exact (List.filter_eq_self.mpr (by simp)).symm
      | true => exact (different qualifier rfl).elim

theorem importSpecs_convert {conventions : Conventions} {file out : SourceFile} {count : Nat}
    (h : file.convert conventions = .ok (out, count)) {imported : SourceFile}
    {provider : ContextProvider} (imports : file.ensureImports conventions = .ok (imported, provider)) :
    out.importSpecs = imported.importSpecs.filter fun spec =>
      out.keepsPath conventions (NativeType.ofFile? conventions file) provider spec.path := by
  rw [convert_of_ensureImports imports] at h
  cases h
  generalize NativeType.ofFile? conventions file = native?
  rw [importSpecs_dropProvider, importSpecs_dropNative, importSpecs_moveTests, List.filter_filter]
  refine List.filter_congr fun spec _ => ?_
  simp only [keepsPath, (agrees_dropProvider _ conventions provider).refersTo]
  rw [Bool.and_comm]

theorem refersTo_convert {conventions : Conventions} {file out : SourceFile} {count : Nat}
    (h : file.convert conventions = .ok (out, count)) {imported : SourceFile}
    {provider : ContextProvider} (imports : file.ensureImports conventions = .ok (imported, provider))
    (name : String) : out.refersTo name =
      (imported.rewritten conventions (NativeType.ofFile? conventions file) provider).refersTo name := by
  obtain ⟨_, _, _, same, rfl, _, _, agrees⟩ := convert_ok h
  rw [imports] at same
  cases same
  exact agrees.refersTo name

end SourceFile

namespace ImportGroup

theorem mem_withContext {conventions : Conventions} {specs : List ImportSpec} {spec : ImportSpec}
    (h : spec ∈ (withContext conventions specs).1) :
    spec ∈ specs ∨ spec.path = conventions.contextPath ∧
      (withContext conventions specs).2.qualifier? = some spec.localName := by
  induction specs with
  | nil =>
    rw [withContext, List.mem_singleton] at h
    subst h
    exact .inr ⟨rfl, rfl⟩
  | cons first specs ih =>
    unfold withContext at h ⊢
    split at h
    · rename_i atPath
      rw [if_pos atPath]
      split at h
      · exact .inl h
      · rename_i notDot
        rw [if_neg notDot]
        split at h
        · rename_i blank
          rw [if_pos blank]
          rcases List.mem_cons.mp h with rfl | h
          · exact .inr ⟨by simpa using atPath, rfl⟩
          · exact .inl (List.mem_cons_of_mem _ h)
        · exact .inl h
    · rename_i elsewhere
      rw [if_neg elsewhere]
      rcases List.mem_cons.mp h with rfl | h
      · exact .inl List.mem_cons_self
      · exact (ih h).imp_left (List.mem_cons_of_mem _)

theorem mem_withContext_of_named {conventions : Conventions} {specs : List ImportSpec}
    {spec : ImportSpec} (h : spec ∈ specs) (named : spec.localName ≠ "_") :
    spec ∈ (withContext conventions specs).1 := by
  induction specs with
  | nil => cases h
  | cons first specs ih =>
    unfold withContext
    split
    · split
      · exact h
      · split
        · rename_i blank
          rcases List.mem_cons.mp h with rfl | h
          · have blank : spec.alias? = some "_" := by simpa using blank
            exact (named (by rw [ImportSpec.localName, blank])).elim
          · exact List.mem_cons_of_mem _ h
        · exact h
    · rcases List.mem_cons.mp h with rfl | h
      · exact List.mem_cons_self
      · exact List.mem_cons_of_mem _ (ih h)

theorem withContext_qualifier {conventions : Conventions} {specs : List ImportSpec} {name : String}
    (h : (withContext conventions specs).2.qualifier? = some name) :
    ∃ spec ∈ (withContext conventions specs).1,
      spec.path = conventions.contextPath ∧ spec.localName = name := by
  induction specs with
  | nil =>
    rw [withContext] at h
    cases h
    exact ⟨_, List.mem_singleton.mpr rfl, rfl, rfl⟩
  | cons first specs ih =>
    unfold withContext at h ⊢
    split
    · rename_i atPath
      rw [if_pos atPath] at h
      have path : first.path = conventions.contextPath := by simpa using atPath
      split
      · rename_i dot
        rw [if_pos dot] at h
        cases h
      · rename_i notDot
        rw [if_neg notDot] at h
        split
        · rename_i blank
          rw [if_pos blank] at h
          cases h
          exact ⟨_, List.mem_cons_self, path, rfl⟩
        · rename_i notBlank
          rw [if_neg notBlank] at h
          cases h
          exact ⟨_, List.mem_cons_self, path, rfl⟩
    · rename_i elsewhere
      rw [if_neg elsewhere] at h
      obtain ⟨spec, member, path, same⟩ := ih h
      exact ⟨spec, List.mem_cons_of_mem _ member, path, same⟩

theorem named_ensure (conventions : Conventions) (group : ImportGroup) {name : String}
    (notBlank : name ≠ "_") (notBdd : name ≠ conventions.bddAlias) (path : String) :
    (∃ spec ∈ (group.ensure conventions).1.specs, spec.localName = name ∧ spec.path = path) ↔
      (∃ spec ∈ group.specs, spec.localName = name ∧ spec.path = path) ∨
        (group.ensure conventions).2.qualifier? = some name ∧ path = conventions.contextPath := by
  have sorted : ∀ spec, spec ∈ (group.ensure conventions).1.specs ↔
      spec ∈ (withContext conventions (withBdd conventions group.specs)).1 := by
    intro spec
    simp [ensure, sortByPath]
  have bdd : ∀ spec : ImportSpec, spec.localName = name →
      (spec ∈ withBdd conventions group.specs ↔ spec ∈ group.specs) := by
    intro spec same
    unfold withBdd
    split
    · rfl
    · rw [List.mem_append, List.mem_singleton]
      refine or_iff_left ?_
      rintro rfl
      exact notBdd same.symm
  constructor
  · rintro ⟨spec, member, rfl, rfl⟩
    rcases mem_withContext ((sorted spec).mp member) with member | ⟨atPath, provided⟩
    · exact .inl ⟨spec, (bdd spec rfl).mp member, rfl, rfl⟩
    · exact .inr ⟨provided, atPath⟩
  · rintro (⟨spec, member, rfl, rfl⟩ | ⟨provided, rfl⟩)
    · have stays := (sorted spec).mpr (mem_withContext_of_named ((bdd spec rfl).mpr member) notBlank)
      exact ⟨spec, stays, rfl, rfl⟩
    · obtain ⟨spec, member, atPath, same⟩ := withContext_qualifier provided
      exact ⟨spec, (sorted spec).mpr member, same, atPath⟩

end ImportGroup

namespace SourceFile

def importsAs (file : SourceFile) (name path : String) : Prop :=
  ∃ spec ∈ file.importSpecs, spec.localName = name ∧ spec.path = path

theorem importsAs_ensureImports {conventions : Conventions} {file imported : SourceFile}
    {provider : ContextProvider} (h : file.ensureImports conventions = .ok (imported, provider))
    {name : String} (notBlank : name ≠ "_") (notBdd : name ≠ conventions.bddAlias) (path : String) :
    imported.importsAs name path ↔ file.importsAs name path ∨
      provider.qualifier? = some name ∧ path = conventions.contextPath := by
  obtain ⟨hi, _⟩ := ensureImports_ok h
  obtain ⟨front, item, group, back, items, decl, _, _, same, rfl⟩ := Item.ensureImports_ok hi
  have changed := group.named_ensure conventions notBlank notBdd path
  simp only [importsAs, importSpecs, items, same, List.flatMap_append, List.flatMap_cons,
    List.mem_append, or_and_right, exists_or, Item.importSpecs, decl, Decl.imports?, Option.map_some,
    Option.getD_some, changed, or_assoc]
  rw [or_comm (a := _ ∧ _)]

theorem importsAs_convert {conventions : Conventions} {file out : SourceFile} {count : Nat}
    (h : file.convert conventions = .ok (out, count)) {imported : SourceFile}
    {provider : ContextProvider} (imports : file.ensureImports conventions = .ok (imported, provider))
    {name : String} (notBlank : name ≠ "_") (notBdd : name ≠ conventions.bddAlias) (path : String) :
    out.importsAs name path ↔
      (file.importsAs name path ∨ provider.qualifier? = some name ∧ path = conventions.contextPath) ∧
        out.keepsPath conventions (NativeType.ofFile? conventions file) provider path = true := by
  rw [← importsAs_ensureImports imports notBlank notBdd]
  simp only [importsAs, importSpecs_convert h imports, List.mem_filter]
  constructor
  · rintro ⟨spec, ⟨member, stays⟩, same, rfl⟩
    exact ⟨⟨spec, member, same, rfl⟩, stays⟩
  · rintro ⟨⟨spec, member, same, rfl⟩, stays⟩
    exact ⟨spec, ⟨member, stays⟩, same, rfl⟩

/-- A name that the converted file uses has an import exactly if it had one of a path that stays or
it is the provider's. Otherwise it dangles. -/
theorem import_of_used_name {file out : SourceFile} {count : Nat}
    (h : file.convert .ginkgo = .ok (out, count)) {name : String} (notBlank : name ≠ "_")
    (notDot : name ≠ ".") (used : out.refersTo name = true) :
    ∃ imported provider, file.ensureImports .ginkgo = .ok (imported, provider) ∧
      ((∃ path, out.importsAs name path) ↔
        provider.qualifier? = some name ∨ ∃ path, file.importsAs name path ∧
          out.keepsPath .ginkgo (NativeType.ofFile? .ginkgo file) provider path = true) := by
  obtain ⟨imported, provider, _, imports, _⟩ := convert_ok h
  refine ⟨imported, provider, imports, ?_⟩
  simp only [importsAs_convert h imports notBlank notDot]
  constructor
  · rintro ⟨path, before | ⟨provided, _⟩, stays⟩
    · exact .inr ⟨path, before, stays⟩
    · exact .inl provided
  · rintro (provided | ⟨path, before, stays⟩)
    · have other : (Conventions.ginkgo.contextPath != Conventions.ginkgo.testingPath) = true := by decide
      exact ⟨_, .inr ⟨provided, rfl⟩, by simp [keepsPath, other, provided, used]⟩
    · exact ⟨path, .inl before, stays⟩

def oneUse : SourceFile :=
  let use : Expr := .built (.qualified (some "fmt") "Print")
  ⟨[], "p", .detached,
    [⟨.imports ⟨[⟨none, "fmt", none⟩], false⟩, [], none, .detached⟩,
      ⟨.values .var [⟨["x"], none, [use], none⟩] false, [], none, .detached⟩], [], .unknown⟩

theorem import_of_fmt : ∃ out count, oneUse.convert .ginkgo = .ok (out, count) ∧
    out.refersTo "fmt" = true ∧ ∃ path, out.importsAs "fmt" path := by
  have checked : ((oneUse.ensureImports .ginkgo).toOption.map fun ensured =>
      (ensured.1.rewritten .ginkgo (NativeType.ofFile? .ginkgo oneUse) ensured.2).refersTo "fmt") =
        some true := by decide
  cases imports : oneUse.ensureImports .ginkgo with
  | error fault => simp [imports, Except.toOption] at checked
  | ok pair =>
    obtain ⟨out, count, converted⟩ : ∃ out count, oneUse.convert .ginkgo = .ok (out, count) :=
      ⟨_, _, convert_of_ensureImports imports⟩
    have used : out.refersTo "fmt" = true := by
      rw [refersTo_convert converted imports]
      simpa [imports, Except.toOption] using checked
    obtain ⟨_, _, _, iff⟩ :=
      import_of_used_name converted (show "fmt" ≠ "_" by decide) (by decide) used
    refine ⟨out, count, converted, used, iff.mpr (.inr ⟨"fmt", ?_, ?_⟩)⟩
    · exact ⟨⟨none, "fmt", none⟩, by decide, by decide, rfl⟩
    · simp [keepsPath, Conventions.ginkgo]

def twoNames : String :=
  "package p;import(a\"testing\";b\"testing\");var x=b.X"

theorem twoNames_dangles : ∃ file out count, ofText twoNames = .ok file ∧
    file.convert .ginkgo = .ok (out, count) ∧ (∃ path, file.importsAs "b" path) ∧
      out.refersTo "b" = true ∧ ¬ ∃ path, out.importsAs "b" path := by
  have checked : ((ofText twoNames).toOption.bind fun file =>
      (file.ensureImports .ginkgo).toOption.map fun ensured =>
        (file.importSpecs.map fun spec => (spec.localName, spec.path),
          ensured.1.rewritten .ginkgo (NativeType.ofFile? .ginkgo file) ensured.2 |>.refersTo "a",
          ensured.1.rewritten .ginkgo (NativeType.ofFile? .ginkgo file) ensured.2 |>.refersTo "b",
          NativeType.ofFile? .ginkgo file, ensured.2)) =
      some ([("a", "testing"), ("b", "testing")], false, true, some ⟨"a", "T"⟩, ⟨some "mr", true⟩) := by
    decide +kernel
  cases parsed : ofText twoNames with
  | error fault => simp [parsed, Except.toOption] at checked
  | ok file =>
    cases imports : file.ensureImports .ginkgo with
    | error fault => simp [parsed, imports, Except.toOption] at checked
    | ok pair =>
      obtain ⟨imported, provider⟩ := pair
      obtain ⟨out, count, converted⟩ : ∃ out count, file.convert .ginkgo = .ok (out, count) :=
        ⟨_, _, convert_of_ensureImports imports⟩
      simp only [parsed, imports, Except.toOption, Option.bind_some, Option.map_some,
        Option.some.injEq, Prod.mk.injEq, ← refersTo_convert converted imports] at checked
      obtain ⟨specs, unused, used, native, rfl⟩ := checked
      have named : ∀ path, file.importsAs "b" path ↔ path = "testing" := by
        intro path
        have pairs : file.importsAs "b" path ↔
            ("b", path) ∈ file.importSpecs.map fun spec => (spec.localName, spec.path) := by
          simp [importsAs]
        simp [pairs, specs]
      refine ⟨file, out, count, rfl, converted, ⟨"testing", (named _).mpr rfl⟩, used, ?_⟩
      rintro ⟨path, present⟩
      obtain ⟨before | ⟨provided, _⟩, stays⟩ :=
        (importsAs_convert converted imports (by decide) (by decide) path).mp present
      · rw [(named path).mp before, keepsPath, native] at stays
        simp [unused, Conventions.ginkgo] at stays
      · simp at provided

end SourceFile

end GoSpecs
