import GoSpecs.Proofs.Conversion.Groups
import GoSpecs.Proofs.Conversion.References
import GoSpecs.Proofs.Conversion.Retyped
import GoSpecs.Proofs.Syntax.Replace
import Mathlib.Data.List.Basic

namespace GoSpecs

theorem Expr.Node.isName_qualified (qualifier? : Option String) (name : String) :
    (Expr.Node.qualified qualifier? name).isName = true := by
  cases qualifier? <;> rfl

namespace NativeType

variable (native : NativeType)

theorem isTypeOf_replace (field? : Field → Option Field) (type : Expr) :
    native.isTypeOf (type.replace (.ofFields field?)) = native.isTypeOf type := by
  obtain ⟨node, span⟩ := type
  rw [Expr.replace_ofFields]
  cases node with
  | star inner =>
    obtain ⟨node, span⟩ := inner
    cases node with
    | selector base field =>
      obtain ⟨node, span⟩ := base
      cases node <;> simp [isTypeOf, Expr.replace_ofFields, Expr.Node.replace, Expr.Node.isQualified]
    | _ => simp [isTypeOf, Expr.replace_ofFields, Expr.Node.replace, Expr.Node.isQualified]
  | _ => simp [isTypeOf, Expr.Node.replace]

theorem isTypeOf_qualified (qualifier? : Option String) (name : String) (span : Span) :
    native.isTypeOf ⟨.qualified qualifier? name, span⟩ = false := by
  cases qualifier? <;> rfl

theorem substitute?_eq_none (type : Expr.Node) (field : Field) :
    native.substitute? type field = none ↔ native.isTypeOf field.type = false := by
  simp [substitute?]

theorem isTypeOf_substituted (qualifier? : Option String) (name : String) (field : Field) :
    native.isTypeOf (field.replace (.ofFields (native.substitute? (.qualified qualifier? name)))).type = false := by
  obtain ⟨names, type, tag?, comment⟩ := field
  cases found : native.substitute? (.qualified qualifier? name) ⟨names, type, tag?, comment⟩ with
  | none =>
    rw [Field.replace_of_none found, isTypeOf_replace]
    exact (native.substitute?_eq_none _ _).mp found
  | some field' =>
    rw [Field.replace_of_some found]
    unfold substitute? at found
    split at found
    · cases found
      exact native.isTypeOf_qualified ..
    · cases found

/-- A conversion leaves the item where and as it is. -/
structure Ignores (item : Item) : Prop where
  noTest : ∀ accessor, native.leaf? accessor item = none
  noField : ∀ type, item.substituted (some native) type = item

theorem isTypeOf_replaceFields (qualifier? : Option String) (name : String) (fields : List Field) :
    ∀ field ∈ replaceFields (.ofFields (native.substitute? (.qualified qualifier? name))) fields,
      native.isTypeOf field.type = false := by
  induction fields with
  | nil => simp [replaceFields]
  | cons field fields ih =>
    rw [replaceFields, List.forall_mem_cons]
    exact ⟨native.isTypeOf_substituted qualifier? name field, ih⟩

theorem contextParam?_eq_none {func : FuncDecl}
    (others : ∀ field ∈ func.type.params, native.isTypeOf field.type = false) :
    native.contextParam? func = none := by
  unfold contextParam?
  split
  · rename_i params
    have other := others _ (params ▸ List.mem_singleton.mpr rfl)
    simp [other]
  · rfl

theorem ignores_of_import {item : Item} (h : item.isImport = true) : native.Ignores item := by
  obtain ⟨group, decl⟩ := item.isImport_iff.mp h
  refine ⟨fun accessor => ?_, fun type => ?_⟩
  · simp [leaf?, decl, Decl.func?]
  · obtain ⟨_, doc, comment, span⟩ := item
    cases decl
    simp [Item.substituted, Decl.replace]

theorem ignores_substituted (qualifier? : Option String) (name : String) (item : Item) :
    native.Ignores (item.substituted (some native) (.qualified qualifier? name)) := by
  refine ⟨fun accessor => ?_, fun type => ?_⟩
  · simp only [leaf?, Item.substituted]
    cases item.decl with
    | func func =>
      obtain ⟨receiver?, text, nameSpan, typeParams, ⟨params, results⟩, body?⟩ := func
      simp only [Decl.replace, FuncType.replace, Decl.func?, Option.bind_eq_bind, Option.bind_some]
      rw [native.contextParam?_eq_none]
      · rfl
      · exact native.isTypeOf_replaceFields qualifier? name params
    | _ => simp [Decl.replace, Decl.func?]
  · simp only [Item.substituted]
    rw [native.replace_substituted (Expr.Node.isName_qualified qualifier? name)]

end NativeType

theorem Item.imports?_substituted (native? : Option NativeType) (type : Expr.Node) (item : Item) :
    (item.substituted native? type).decl.imports? = item.decl.imports? := by
  cases hi : item.isImport with
  | false => rw [imports?_eq_none.mpr hi, imports?_eq_none.mpr ((substituted_isImport ..).trans hi)]
  | true =>
    cases native? with
    | none => rfl
    | some native => rw [(native.ignores_of_import hi).noField]

theorem Item.filterMap_removeImport {path : String} {items : List Item}
    (stay : ∀ item ∈ items, removeImport? path item = some item) : items.filterMap (removeImport? path) = items := by
  rw [List.filterMap_congr stay, List.filterMap_some]

theorem Item.ensureImports_of_first {conventions : Conventions} {front back : List Item} {item : Item}
    {group : ImportGroup} (none : ∀ other ∈ front, other.isImport = false) (decl : item.decl = .imports group)
    (filled : group.specs ≠ []) :
    Item.ensureImports conventions (front ++ item :: back) = .ok
      (front ++ { item with decl := .imports (group.ensure conventions).1 } :: back,
        (group.ensure conventions).2) := by
  induction front with
  | nil => simp [Item.ensureImports, decl, filled]
  | cons other front ih =>
    have here := none other List.mem_cons_self
    have later := ih fun other member => none other (List.mem_cons_of_mem _ member)
    rw [List.cons_append, Item.ensureImports, later]
    split
    · rename_i same
      simp [Item.isImport, same, Decl.imports?] at here
    · rfl

namespace SourceFile

variable {conventions : Conventions} {file : SourceFile} {group : ImportGroup}

theorem imports?_ensureImports {imported : SourceFile} {provider : ContextProvider}
    (h : file.ensureImports conventions = .ok (imported, provider)) :
    ∃ group : ImportGroup, imported.imports? = some (group.ensure conventions).1 ∧
      provider = (group.ensure conventions).2 := by
  obtain ⟨hi, _⟩ := ensureImports_ok h
  obtain ⟨front, item, group, back, _, _, _, none, same, isProvider⟩ := Item.ensureImports_ok hi
  exact ⟨group, imports?_eq_some.mpr ⟨front, _, back, same, rfl, none⟩, isProvider⟩

theorem imports?_moveTests (file : SourceFile) (conventions : Conventions) (native? : Option NativeType)
    (accessor : Expr.Node) :
    (file.moveTests conventions native? accessor).imports? = file.imports? := by
  have container : (Item.ofLeaves conventions
      (file.items.filterMap fun item => native?.bind (·.leaf? accessor item))).decl.imports? = none := rfl
  simp only [imports?, moveTests, List.findSome?_append, List.findSome?_singleton, container, Option.or_none]
  induction file.items with
  | nil => rfl
  | cons item items ih =>
    rw [List.filter_cons]
    cases hi : item.isImport with
    | false =>
      have none := Item.imports?_eq_none.mpr hi
      split <;> simp [none, ih]
    | true =>
      have stays : (native?.bind (·.leaf? accessor item)).isNone = true := by
        cases native? with
        | none => rfl
        | some native => simp [(native.ignores_of_import hi).noTest]
      obtain ⟨group, decl⟩ := item.isImport_iff.mp hi
      simp [stays, decl, Decl.imports?]

theorem imports?_map_substituted (file : SourceFile) (native? : Option NativeType) (type : Expr.Node) :
    ({ file with items := file.items.map (·.substituted native? type) } : SourceFile).imports? = file.imports? := by
  simp [imports?, List.findSome?_map, Function.comp_def, Item.imports?_substituted]

theorem imports?_removeImport (found : file.imports? = some group) {path : String}
    (filled : (group.remove path).specs ≠ []) : (file.removeImport path).imports? = some (group.remove path) := by
  obtain ⟨front, item, back, items, decl, none⟩ := imports?_eq_some.mp found
  have same : front.filterMap (Item.removeImport? path) = front :=
    Item.filterMap_removeImport fun other member => Item.removeImport?_of_not_import path (none other member)
  refine imports?_eq_some.mpr ⟨front, { item with decl := .imports (group.remove path) },
    back.filterMap (Item.removeImport? path), ?_, rfl, none⟩
  simp [removeImport, items, same, Item.removeImport?, decl, filled]

theorem isComplete_dropUnused (found : file.imports? = some group) (complete : group.IsComplete conventions)
    (name : String) {path : String} (other : path ≠ conventions.bddPath) :
    ∃ smaller, (file.dropUnused name path).imports? = some smaller ∧ smaller.IsComplete conventions ∧
      (smaller = group ∨ file.refersTo name = false ∧ smaller = group.remove path) := by
  unfold dropUnused
  split
  · exact ⟨group, found, complete, .inl rfl⟩
  · rename_i unused
    have still := complete.remove other
    obtain ⟨spec, member, _⟩ := still.bdd
    exact ⟨group.remove path, imports?_removeImport found (List.ne_nil_of_mem member), still,
      .inr ⟨by simpa using unused, rfl⟩⟩

/-- The imports are complete, no item has to change, and no import has to go away but one that a conversion
adds. -/
structure IsSettled (conventions : Conventions) (file : SourceFile) : Prop where
  imports : ∃ group, file.imports? = some group ∧ group.IsComplete conventions ∧
    (group.contains conventions.contextPath = true ∨
      file.refersTo conventions.contextAlias = false ∧
        ∀ item ∈ file.items, item.removeImport? conventions.contextPath = some item)
  native : ∀ native, NativeType.ofFile? conventions file = some native →
    file.refersTo native.package = true ∧ ∀ item ∈ file.items, native.Ignores item

def withContainer (conventions : Conventions) (file : SourceFile) : SourceFile :=
  { file with items := file.items ++ [containerItem conventions (.built [] [])] }

theorem visits_withContainer :
    (file.withContainer conventions).visits =
      file.visits ++ (containerItem conventions (.built [] [])).decl.visits := by
  simp [withContainer, visits]

theorem refersTo_withContainer (name : String) :
    (file.withContainer conventions).refersTo name = file.refersTo name := by
  have container : (containerItem conventions (.built [] [])).decl.visits =
      [.expr (.built (.call (.built (.ident conventions.containerFunc))
          [.built (.stringLit conventions.containerLabel), .built (.funcLit ⟨[], []⟩ (.built [] []))] false .detached)),
        .expr (.built (.ident conventions.containerFunc)), .expr (.built (.stringLit conventions.containerLabel)),
        .expr (.built (.funcLit ⟨[], []⟩ (.built [] [])))] := by
    simp [containerItem, callbackStmt, Decl.visits, visitsOfField?, visitsOfFields, FuncType.visits,
      visitsOfBlock?, Block.visits, Block.built, visitsOfStmts, Stmt.visits, Stmt.built, Stmt.Node.visits,
      Expr.visits, Expr.built, Expr.Node.visits, visitsOfExprs, Expr.Node.stringLit]
  rw [refersTo, visits_withContainer, List.any_append, container]
  simp [refersTo, Expr.built, Expr.Node.stringLit]

theorem ignores_container (native : NativeType) : native.Ignores (containerItem conventions (.built [] [])) := by
  refine ⟨fun accessor => rfl, fun type => ?_⟩
  exact Item.substituted_ofLeaves conventions (some native) type []

theorem leaves_of_ignored {native? : Option NativeType}
    (ignored : ∀ native ∈ native?, ∀ item ∈ file.items, native.Ignores item) (accessor : Expr.Node) :
    ∀ item ∈ file.items, native?.bind (·.leaf? accessor item) = none := by
  intro item member
  cases native? with
  | none => rfl
  | some native => exact (ignored native rfl item member).noTest accessor

theorem moveTests_of_ignored {native? : Option NativeType}
    (ignored : ∀ native ∈ native?, ∀ item ∈ file.items, native.Ignores item) (accessor : Expr.Node) :
    file.moveTests conventions native? accessor = file.withContainer conventions := by
  have none := leaves_of_ignored ignored accessor
  have noLeaf : file.items.filterMap (fun item => native?.bind (·.leaf? accessor item)) = [] :=
    List.filterMap_eq_nil_iff.mpr none
  have all : file.items.filter (fun item => (native?.bind (·.leaf? accessor item)).isNone) = file.items := by
    rw [List.filter_eq_self]
    intro item member
    rw [none item member]
    rfl
  simp only [moveTests, withContainer, noLeaf, all]
  rfl

theorem dropNative_of_ignored {native? : Option NativeType}
    (ignored : ∀ native ∈ native?, ∀ item ∈ file.items, native.Ignores item)
    (used : ∀ native ∈ native?, file.refersTo native.package = true) (type : Expr.Node) :
    file.dropNative conventions native? type = file := by
  cases native? with
  | none => rfl
  | some native =>
    have items : file.items.map (·.substituted (some native) type) = file.items := by
      rw [List.map_congr_left fun item member => (ignored native rfl item member).noField type, List.map_id']
    have same : (native.substitute type file).1 = file := by
      rw [NativeType.fst_substitute, items]
    simp only [dropNative, same, dropUnused, used native rfl, if_true]

theorem mem_ensureImports {imported : SourceFile} {provider : ContextProvider}
    (h : file.ensureImports conventions = .ok (imported, provider)) {item : Item} (member : item ∈ imported.items) :
    item ∈ file.items ∨ item.isImport = true := by
  obtain ⟨hi, _⟩ := ensureImports_ok h
  obtain ⟨front, first, group, back, items, _, _, _, same, _⟩ := Item.ensureImports_ok hi
  rw [same, List.mem_append, List.mem_cons] at member
  rw [items, List.mem_append, List.mem_cons]
  rcases member with member | rfl | member
  · exact .inl (.inl member)
  · exact .inr rfl
  · exact .inl (.inr (.inr member))

theorem refersTo_ensureImports {imported : SourceFile} {provider : ContextProvider}
    (h : file.ensureImports conventions = .ok (imported, provider)) (name : String) :
    imported.refersTo name = file.refersTo name := by
  obtain ⟨hi, _⟩ := ensureImports_ok h
  obtain ⟨front, first, group, back, items, decl, _, _, same, _⟩ := Item.ensureImports_ok hi
  simp [refersTo, visits, items, same, decl, Decl.visits]

theorem convert_of_ignored {imported : SourceFile} {provider : ContextProvider}
    (imports : file.ensureImports conventions = .ok (imported, provider))
    (ignored : ∀ native ∈ NativeType.ofFile? conventions file, ∀ item ∈ file.items, native.Ignores item)
    (used : ∀ native ∈ NativeType.ofFile? conventions file, file.refersTo native.package = true) :
    file.convert conventions =
      .ok ((imported.withContainer conventions).dropProvider conventions provider, 0) := by
  have stillIgnored : ∀ native ∈ NativeType.ofFile? conventions file, ∀ item ∈ imported.items,
      native.Ignores item := by
    intro native isNative item member
    rcases mem_ensureImports imports member with member | isImport
    · exact ignored native isNative item member
    · exact native.ignores_of_import isImport
  have none : (testsOf (NativeType.ofFile? conventions file) imported).length = 0 := by
    rw [← imported.length_leaves _ (provider.accessorCall conventions),
      List.filterMap_eq_nil_iff.mpr (leaves_of_ignored stillIgnored _)]
    rfl
  have kept : (imported.withContainer conventions).dropNative conventions (NativeType.ofFile? conventions file)
      (provider.capabilityType conventions) = imported.withContainer conventions := by
    apply dropNative_of_ignored
    · intro native isNative item member
      rcases List.mem_append.mp member with member | member
      · exact stillIgnored native isNative item member
      · rw [List.mem_singleton.mp member]
        exact ignores_container native
    · intro native isNative
      rw [refersTo_withContainer, refersTo_ensureImports imports]
      exact used native isNative
  rw [convert_of_ensureImports imports, moveTests_of_ignored stillIgnored, kept, none]

theorem IsSettled.convert (settled : file.IsSettled conventions) :
    file.convert conventions = .ok (file.withContainer conventions, 0) := by
  obtain ⟨group, found, complete, provided⟩ := settled.imports
  obtain ⟨front, item, back, items, decl, none⟩ := imports?_eq_some.mp found
  have filled : group.specs ≠ [] := by
    obtain ⟨spec, member, _⟩ := complete.bdd
    exact List.ne_nil_of_mem member
  have ensured : file.ensureImports conventions = .ok
      ({ file with items := front ++ { item with decl := .imports (group.ensure conventions).1 } :: back },
        (group.ensure conventions).2) := by
    rw [ensureImports, items, Item.ensureImports_of_first none decl filled]
    rfl
  have converted := convert_of_ignored ensured (fun native isNative => (settled.native native isNative).2)
    (fun native isNative => (settled.native native isNative).1)
  have itself : ({ item with decl := .imports group } : Item) = item := by rw [← decl]
  cases present : group.contains conventions.contextPath with
  | true =>
    obtain ⟨qualifier?, same⟩ := complete.ensure_of_present present
    rw [converted, same]
    simp only [itself, ← items]
    cases qualifier? <;> rfl
  | false =>
    obtain ⟨unused, others⟩ := provided.resolve_left (by simp [present])
    obtain ⟨larger, same, restored⟩ := complete.ensure_of_absent present
    rw [same] at ensured converted
    rw [items, List.forall_mem_append, List.forall_mem_cons] at others
    have restoredItem : Item.removeImport? conventions.contextPath { item with decl := .imports larger } =
        some item := by
      simp [Item.removeImport?, restored, filled, itself]
    have container : Item.removeImport? conventions.contextPath (containerItem conventions (.built [] [])) =
        some (containerItem conventions (.built [] [])) := rfl
    rw [converted, dropProvider, dropUnused, refersTo_withContainer, refersTo_ensureImports ensured, unused]
    simp [removeImport, withContainer, items, restoredItem, container, Item.filterMap_removeImport others.1,
      Item.filterMap_removeImport others.2.2]

theorem ofFile?_eq :
    NativeType.ofFile? conventions file =
      (file.importSpecs.filter (·.path == conventions.testingPath)).head?.bind fun spec =>
        if spec.localName == "_" || spec.localName == "." then none
        else some ⟨spec.localName, conventions.testingType⟩ := by
  have first : (file.items.findSome? fun item => item.decl.imports?.bind (·.find? conventions.testingPath)) =
      (file.importSpecs.filter (·.path == conventions.testingPath)).head? := by
    rw [List.head?_filter, importSpecs, List.find?_flatMap]
    congr 1
    funext item
    cases found : item.decl.imports? <;> simp [Item.importSpecs, found, ImportGroup.find?]
  rw [← first]
  rfl

theorem filter_path_ensureImports {imported : SourceFile} {provider : ContextProvider}
    (h : file.ensureImports conventions = .ok (imported, provider)) {path : String}
    (notBdd : path ≠ conventions.bddPath) (notContext : path ≠ conventions.contextPath) :
    imported.importSpecs.filter (·.path == path) = file.importSpecs.filter (·.path == path) := by
  obtain ⟨hi, _⟩ := ensureImports_ok h
  obtain ⟨front, item, group, back, items, decl, _, _, same, _⟩ := Item.ensureImports_ok hi
  have here := ImportGroup.filter_path_ensure notBdd notContext group
  simp [importSpecs, items, same, Item.importSpecs, decl, Decl.imports?, List.filter_append, here]

theorem ofFile?_convert {out : SourceFile} {count : Nat} (h : file.convert .ginkgo = .ok (out, count))
    {native : NativeType} (isNative : NativeType.ofFile? .ginkgo out = some native) :
    NativeType.ofFile? .ginkgo file = some native ∧ out.refersTo native.package = true := by
  obtain ⟨imported, provider, _, imports, _⟩ := convert_ok h
  have entries : out.importSpecs.filter (·.path == Conventions.ginkgo.testingPath) =
      if out.keepsPath .ginkgo (NativeType.ofFile? .ginkgo file) provider Conventions.ginkgo.testingPath then
        file.importSpecs.filter (·.path == Conventions.ginkgo.testingPath) else [] := by
    rw [← filter_path_ensureImports imports (by decide) (by decide), importSpecs_convert h imports,
      List.filter_filter]
    split
    · rename_i keeps
      refine List.filter_congr fun spec _ => ?_
      by_cases here : spec.path = Conventions.ginkgo.testingPath
      · simp [here, keeps]
      · simp [here]
    · rename_i drops
      rw [List.filter_eq_nil_iff]
      intro spec _ both
      obtain ⟨here, keeps⟩ := Bool.and_eq_true_iff.mp both
      rw [eq_of_beq here] at keeps
      exact drops keeps
  rw [ofFile?_eq, entries] at isNative
  split at isNative
  · rename_i keeps
    rw [← ofFile?_eq] at isNative
    refine ⟨isNative, ?_⟩
    simp only [keepsPath, isNative, bne_self_eq_false, Bool.false_or, Option.all_some, Bool.and_eq_true] at keeps
    exact keeps.1
  · cases isNative

theorem removeImport?_of_mem {path : String} {item : Item} (member : item ∈ (file.removeImport path).items) :
    Item.removeImport? path item = some item := by
  obtain ⟨before, _, removed⟩ := List.mem_filterMap.mp member
  unfold Item.removeImport? at removed
  split at removed
  · rename_i group decl
    dsimp only at removed
    split at removed
    · cases removed
    · rename_i filled
      cases removed
      have again : (group.remove path).remove path = group.remove path := by simp [ImportGroup.remove]
      simp [Item.removeImport?, again, filled]
  · rename_i never
    cases removed
    unfold Item.removeImport?
    split
    · rename_i group decl
      exact (never group decl).elim
    · rfl

theorem isComplete_dropNative (found : file.imports? = some group) (complete : group.IsComplete .ginkgo)
    (native? : Option NativeType) (type : Expr.Node) :
    ∃ smaller, (file.dropNative .ginkgo native? type).imports? = some smaller ∧ smaller.IsComplete .ginkgo ∧
      smaller.contains Conventions.ginkgo.contextPath = group.contains Conventions.ginkgo.contextPath := by
  cases native? with
  | none => exact ⟨group, found, complete, rfl⟩
  | some native =>
    have substituted : (native.substitute type file).1.imports? = some group := by
      rw [NativeType.fst_substitute]
      exact (file.imports?_map_substituted (some native) type).trans found
    have other : Conventions.ginkgo.testingPath ≠ Conventions.ginkgo.bddPath := by decide
    obtain ⟨smaller, same, still, isGroup | ⟨_, isGroup⟩⟩ :=
      isComplete_dropUnused substituted complete native.package other
    · exact ⟨smaller, same, still, by rw [isGroup]⟩
    · refine ⟨smaller, same, still, ?_⟩
      rw [isGroup, ImportGroup.contains, ImportGroup.find?_remove, if_neg (by decide), ImportGroup.contains]

theorem isComplete_dropProvider (found : file.imports? = some group) (complete : group.IsComplete .ginkgo)
    (present : group.contains Conventions.ginkgo.contextPath = true) {provider : ContextProvider}
    (named : provider.added = true → provider.qualifier? = some Conventions.ginkgo.contextAlias) :
    ∃ smaller, (file.dropProvider .ginkgo provider).imports? = some smaller ∧ smaller.IsComplete .ginkgo ∧
      (smaller.contains Conventions.ginkgo.contextPath = true ∨
        (file.dropProvider .ginkgo provider).refersTo Conventions.ginkgo.contextAlias = false ∧
          ∀ item ∈ (file.dropProvider .ginkgo provider).items,
            item.removeImport? Conventions.ginkgo.contextPath = some item) := by
  unfold dropProvider
  split
  · rename_i qualifier
    have same : qualifier = Conventions.ginkgo.contextAlias := Option.some.inj (named rfl)
    have other : Conventions.ginkgo.contextPath ≠ Conventions.ginkgo.bddPath := by decide
    obtain ⟨smaller, isFirst, still, isGroup | ⟨unused, _⟩⟩ := isComplete_dropUnused found complete qualifier other
    · exact ⟨smaller, isFirst, still, .inl (isGroup ▸ present)⟩
    · refine ⟨smaller, isFirst, still, .inr ⟨?_, ?_⟩⟩
      · rw [(agrees_dropUnused ..).refersTo, ← same]
        exact unused
      · rw [dropUnused, if_neg (by simp [unused])]
        exact fun item member => removeImport?_of_mem member
  · exact ⟨group, found, complete, .inl present⟩

theorem isSettled_convert {out : SourceFile} {count : Nat} (h : file.convert .ginkgo = .ok (out, count)) :
    out.IsSettled .ginkgo := by
  obtain ⟨imported, provider, native?, imports, native, _, same, agrees⟩ := convert_ok h
  refine ⟨?_, ?_⟩
  · obtain ⟨first, found, isProvider⟩ := imports?_ensureImports imports
    have complete := ImportGroup.isComplete_ensure .ginkgo first (by decide) (by decide)
    obtain ⟨context, isContext, _⟩ := ImportGroup.find?_ensure .ginkgo first (by decide)
    have moved := (imported.imports?_moveTests .ginkgo native? (provider.accessorCall .ginkgo)).trans found
    obtain ⟨group, dropped, still, contains⟩ :=
      isComplete_dropNative moved complete native? (provider.capabilityType .ginkgo)
    have present : group.contains Conventions.ginkgo.contextPath = true := by
      rw [contains, ImportGroup.contains, isContext]
      rfl
    rw [same]
    exact isComplete_dropProvider dropped still present (ImportGroup.withContext_added isProvider.symm)
  · intro other isNative
    obtain ⟨before, used⟩ := ofFile?_convert h isNative
    rw [before] at native
    subst native
    refine ⟨used, fun item member => ?_⟩
    cases hi : item.isImport with
    | true => exact other.ignores_of_import hi
    | false =>
      have declared : item ∈ out.declarations := List.mem_filter.mpr ⟨member, by simp [hi]⟩
      rw [agrees.declarations] at declared
      obtain ⟨source, _, rfl⟩ := List.mem_map.mp (List.mem_filter.mp declared).1
      exact other.ignores_substituted ..

/-- A second conversion adds an empty container and changes nothing else. -/
theorem convert_twice {out : SourceFile} {count : Nat} (h : file.convert .ginkgo = .ok (out, count)) :
    out.convert .ginkgo = .ok
      ({ out with items := out.items ++ [containerItem .ginkgo (.built [] [])] }, 0) :=
  (isSettled_convert h).convert

theorem convert_twice_mixedFile : ∃ out, mixedFile.convert .ginkgo = .ok (out, 1) ∧
    out.convert .ginkgo = .ok
      ({ out with items := out.items ++ [containerItem .ginkgo (.built [] [])] }, 0) := by
  have counted : (mixedFile.convert .ginkgo).toOption.map (·.2) = some 1 := by decide
  cases converted : mixedFile.convert .ginkgo with
  | error fault => simp [converted, Except.toOption] at counted
  | ok result =>
    obtain ⟨out, count⟩ := result
    obtain rfl : count = 1 := by simpa [converted, Except.toOption] using counted
    exact ⟨out, rfl, convert_twice converted⟩

end SourceFile

end GoSpecs
