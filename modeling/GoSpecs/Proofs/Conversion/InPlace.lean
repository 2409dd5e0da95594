import GoSpecs.Proofs.Conversion.ImportSection

namespace GoSpecs

def testsOf (native? : Option NativeType) (file : SourceFile) : List Candidate :=
  (native?.map (·.candidates file)).getD []

def NativeType.leaf? (native : NativeType) (accessor : Expr.Node) (item : Item) : Option Leaf := do
  let func ← item.decl.func?
  let param ← native.contextParam? func
  let body ← func.body?
  return ⟨func.name, item.doc, item.comment, (body.replaceContext ⟨param, accessor⟩).1⟩

def SourceFile.moveTests (file : SourceFile) (conventions : Conventions) (native? : Option NativeType)
    (accessor : Expr.Node) : SourceFile :=
  let leaf? (item : Item) := native?.bind (·.leaf? accessor item)
  { file with
    items := file.items.filter (fun item => (leaf? item).isNone) ++
      [.ofLeaves conventions (file.items.filterMap leaf?)] }

namespace NativeType

theorem contextParam?_body {native : NativeType} {func : FuncDecl} {param : String}
    (h : native.contextParam? func = some param) : ∃ body, func.body? = some body := by
  unfold contextParam? at h
  split at h
  · rename_i body _ _ _ _ hb _
    exact ⟨_, hb⟩
  · cases h

theorem candidateAt?_eq_some {native : NativeType} {item : Item} {index : Nat} {test : Candidate}
    (h : native.candidateAt? item index = some test) :
    ∃ func body, item.decl = .func func ∧ func.body? = some body ∧
      native.contextParam? func = some test.param ∧ func.name = test.name ∧ index = test.index := by
  unfold candidateAt? at h
  cases decl : item.decl with
  | func func =>
    cases found : native.contextParam? func with
    | none => simp [decl, Decl.func?, found] at h
    | some param =>
      simp only [decl, Decl.func?, found, Option.bind_eq_bind, Option.bind_some, Option.pure_def,
        Option.some.injEq] at h
      subst h
      obtain ⟨body, hasBody⟩ := contextParam?_body found
      exact ⟨func, body, rfl, hasBody, found, rfl, rfl⟩
  | _ => simp [decl, Decl.func?] at h

theorem leaf?_isSome (native : NativeType) (accessor : Expr.Node) (item : Item) (index : Nat) :
    (native.candidateAt? item index).isSome = (native.leaf? accessor item).isSome := by
  unfold candidateAt? leaf?
  cases item.decl with
  | func func =>
    cases found : native.contextParam? func with
    | none => simp [Decl.func?, found]
    | some param =>
      obtain ⟨body, hasBody⟩ := contextParam?_body found
      simp [Decl.func?, found, hasBody]
  | _ => rfl

theorem leaf?_of_candidate {native : NativeType} (accessor : Expr.Node) {item : Item}
    {func : FuncDecl} {body : Block} {test : Candidate} (decl : item.decl = .func func)
    (hasBody : func.body? = some body) (param : native.contextParam? func = some test.param)
    (name : func.name = test.name) :
    native.leaf? accessor item = some
      ⟨test.name, item.doc, item.comment, (body.replaceContext ⟨test.param, accessor⟩).1⟩ := by
  simp [leaf?, decl, Decl.func?, param, hasBody, name]

end NativeType

namespace Candidate

variable {native : NativeType} (accessor : Expr.Node)

theorem take_at_place {item : Item} {test : Candidate} (front back : List (Option Item))
    (found : native.candidateAt? item front.length = some test) :
    ∃ leaf, native.leaf? accessor item = some leaf ∧
      test.take accessor (front ++ some item :: back) = .ok (leaf, front ++ none :: back) := by
  obtain ⟨func, body, decl, hasBody, param, name, place⟩ := NativeType.candidateAt?_eq_some found
  refine ⟨_, NativeType.leaf?_of_candidate accessor decl hasBody param name, ?_⟩
  have there : (front ++ some item :: back)[test.index]? = some (some item) := by simp [← place]
  have emptied : (front ++ some item :: back).set test.index none = front ++ none :: back := by simp [← place]
  simp only [take, there, decl, hasBody, emptied]

/-- The tests of a list of items are taken out of it; what stands before them has no part in this. -/
theorem takeAll_candidates (front : List (Option Item)) (items : List Item) :
    takeAll accessor ((items.zipIdx front.length).filterMap fun p => native.candidateAt? p.1 p.2)
        (front ++ items.map some) =
      .ok (items.filterMap (native.leaf? accessor),
        front ++ items.map (Option.guard fun item => (native.leaf? accessor item).isNone)) := by
  induction items generalizing front with
  | nil => rfl
  | cons item items ih =>
    cases found : native.candidateAt? item front.length with
    | none =>
      have kept : native.leaf? accessor item = none := by
        simpa [found] using native.leaf?_isSome accessor item front.length
      have rest := ih (front ++ [some item])
      rw [List.length_append, List.length_singleton] at rest
      simpa [List.zipIdx_cons, found, kept, Option.guard] using rest
    | some test =>
      obtain ⟨leaf, isLeaf, taken⟩ := take_at_place accessor front (items.map some) found
      have rest := ih (front ++ [none])
      rw [List.length_append, List.length_singleton, List.append_assoc, List.append_assoc] at rest
      simp only [List.singleton_append] at rest
      simp only [List.zipIdx_cons, List.filterMap_cons, found, List.map_cons, takeAll, taken, isLeaf, Option.guard]
      simp only [rest, bind, Except.bind, pure, Except.pure]
      rfl

end Candidate

namespace Conversion

variable {α β : Type} {first : Conversion α} {next : α → Conversion β} {file changed : SourceFile}

theorem run_bind_eq :
    (first >>= next).run.run file =
      (ExceptT.bindCont next (first.run.run file).1).run (first.run.run file).2 := rfl

theorem run_bind_of_ok {value : α} {outcome : Except ConversionError β × SourceFile}
    (one : first.run.run file = (.ok value, changed)) (two : (next value).run.run changed = outcome) :
    (first >>= next).run.run file = outcome := by
  rw [run_bind_eq, one]
  exact two

theorem run_bind_of_error {error : ConversionError} (one : first.run.run file = (.error error, changed)) :
    (first >>= next).run.run file = (.error error, changed) := by
  rw [run_bind_eq, one]
  rfl

theorem run_lift {result : Except ConversionError α} {outcome : Except ConversionError α}
    (same : result = outcome) : (liftM result : Conversion α).run.run file = (outcome, file) := by
  rw [same]
  rfl

end Conversion

namespace SourceFile

variable {conventions : Conventions} {file imported : SourceFile} {provider : ContextProvider}

theorem takeAll_testsOf (native? : Option NativeType) (accessor : Expr.Node) (file : SourceFile) :
    Candidate.takeAll accessor (testsOf native? file) (file.items.map some) =
      .ok (file.items.filterMap fun item => native?.bind (·.leaf? accessor item),
        file.items.map (Option.guard fun item => (native?.bind (·.leaf? accessor item)).isNone)) := by
  cases native? with
  | none =>
    have none : (file.items.filterMap fun _ => (none : Option Leaf)) = [] := by simp
    have all : file.items.map (Option.guard fun _ => true) = file.items.map some := by simp
    simp only [Option.bind_none, Option.isNone_none, none, all]
    rfl
  | some native => exact Candidate.takeAll_candidates accessor [] file.items

theorem run_moveTests (conventions : Conventions) (native? : Option NativeType) (accessor : Expr.Node)
    (file : SourceFile) :
    (Conversion.moveTests conventions accessor (testsOf native? file)).run.run file =
      (.ok (), file.moveTests conventions native? accessor) := by
  have kept : (file.items.map
        (Option.guard fun item => (native?.bind (·.leaf? accessor item)).isNone)).filterMap id =
      file.items.filter fun item => (native?.bind (·.leaf? accessor item)).isNone := by
    rw [List.filterMap_map, Function.id_comp, List.filterMap_eq_filter]
  rw [SourceFile.moveTests, ← kept]
  refine Conversion.run_bind_of_ok rfl ?_
  refine Conversion.run_bind_of_ok rfl ?_
  exact Conversion.run_bind_of_ok (Conversion.run_lift (takeAll_testsOf native? accessor file)) rfl

theorem convertInPlace_of_ok (h : file.ensureImports conventions = .ok (imported, provider)) :
    file.convertInPlace conventions =
      (.ok (testsOf (NativeType.ofFile? conventions file) imported).length,
        ((imported.moveTests conventions (NativeType.ofFile? conventions file)
          (provider.accessorCall conventions)).dropNative conventions
            (NativeType.ofFile? conventions file)
            (provider.capabilityType conventions)).dropProvider conventions provider) := by
  have ensured : (Conversion.ensureImports conventions).run.run file = (.ok provider, imported) := by
    refine Conversion.run_bind_of_ok rfl ?_
    exact Conversion.run_bind_of_ok (Conversion.run_lift h) rfl
  refine Conversion.run_bind_of_ok rfl ?_
  refine Conversion.run_bind_of_ok ensured ?_
  refine Conversion.run_bind_of_ok rfl ?_
  exact Conversion.run_bind_of_ok (run_moveTests ..) rfl

theorem convertInPlace_of_error {error : ConversionError} (h : file.ensureImports conventions = .error error) :
    file.convertInPlace conventions = (.error error, file) := by
  have failed : (Conversion.ensureImports conventions).run.run file = (.error error, file) := by
    refine Conversion.run_bind_of_ok rfl ?_
    exact Conversion.run_bind_of_error (Conversion.run_lift h)
  refine Conversion.run_bind_of_ok rfl ?_
  exact Conversion.run_bind_of_error failed

/-- A conversion fails only for want of imports. -/
theorem convert_of_ensureImports (h : file.ensureImports conventions = .ok (imported, provider)) :
    file.convert conventions = .ok
      (((imported.moveTests conventions (NativeType.ofFile? conventions file)
        (provider.accessorCall conventions)).dropNative conventions
          (NativeType.ofFile? conventions file)
          (provider.capabilityType conventions)).dropProvider conventions provider,
        (testsOf (NativeType.ofFile? conventions file) imported).length) := by
  rw [convert, convertInPlace_of_ok h]

theorem convert_of_error {error : ConversionError} (h : file.ensureImports conventions = .error error) :
    file.convert conventions = .error error := by
  rw [convert, convertInPlace_of_error h]

end SourceFile

theorem Item.ensureImports_outcome (conventions : Conventions) (items : List Item) :
    (items.findSome? (·.decl.imports?) = none ∧ ensureImports conventions items = .error .missingImports) ∨
    ∃ group, items.findSome? (·.decl.imports?) = some group ∧
      ((group.specs = [] ∧ ensureImports conventions items = .error .emptyImports) ∨
        (group.specs ≠ [] ∧ ∃ result, ensureImports conventions items = .ok result)) := by
  induction items with
  | nil => exact .inl ⟨rfl, rfl⟩
  | cons item items ih =>
    cases decl : item.decl with
    | imports group =>
      refine .inr ⟨group, by simp [decl, Decl.imports?], ?_⟩
      by_cases none : group.specs = []
      · exact .inl ⟨none, by simp [ensureImports, decl, none]⟩
      · exact .inr ⟨none, by simp [ensureImports, decl, none]⟩
    | _ =>
      simp only [List.findSome?_cons, ensureImports, decl]
      rcases ih with ⟨missing, failed⟩ | ⟨group, first, ⟨none, failed⟩ | ⟨filled, result, done⟩⟩
      · exact .inl ⟨missing, by rw [failed]; rfl⟩
      · exact .inr ⟨group, first, .inl ⟨none, by rw [failed]; rfl⟩⟩
      · exact .inr ⟨group, first, .inr ⟨filled, _, by rw [done]; rfl⟩⟩

namespace SourceFile

theorem convertInPlace_outcome (file : SourceFile) (conventions : Conventions) :
    (file.imports? = none ∧ file.convertInPlace conventions = (.error .missingImports, file)) ∨
    ∃ group, file.imports? = some group ∧
      ((group.specs = [] ∧ file.convertInPlace conventions = (.error .emptyImports, file)) ∨
        (group.specs ≠ [] ∧ ∃ tests converted, file.convertInPlace conventions = (.ok tests, converted))) := by
  rcases Item.ensureImports_outcome conventions file.items with
    ⟨missing, failed⟩ | ⟨group, first, ⟨none, failed⟩ | ⟨filled, result, done⟩⟩
  · exact .inl ⟨missing, convertInPlace_of_error (by rw [ensureImports, failed]; rfl)⟩
  · exact .inr ⟨group, first, .inl ⟨none, convertInPlace_of_error (by rw [ensureImports, failed]; rfl)⟩⟩
  · exact .inr ⟨group, first, .inr ⟨filled, _, _, convertInPlace_of_ok (by rw [ensureImports, done]; rfl)⟩⟩

theorem imports?_eq_none {file : SourceFile} :
    file.imports? = none ↔ ∀ item ∈ file.items, ∀ group, item.decl ≠ .imports group := by
  simp only [imports?, List.findSome?_eq_none_iff]
  refine forall_congr' fun item => forall_congr' fun _ => ?_
  rw [Option.eq_none_iff_forall_ne_some]
  exact forall_congr' fun group => not_congr Decl.imports?_eq_some

/--
A conversion fails for want of an import declaration, or because the first one has no entry, and for no other reason.
A file whose conversion fails is the file as it was.
-/
theorem convertInPlace_all_or_nothing (file : SourceFile) (conventions : Conventions) :
    ((file.convertInPlace conventions).1 = .error .missingImports ↔
      ∀ item ∈ file.items, ∀ group, item.decl ≠ .imports group) ∧
    ((file.convertInPlace conventions).1 = .error .emptyImports ↔
      ∃ group, file.imports? = some group ∧ group.specs = []) ∧
    ((∃ tests, (file.convertInPlace conventions).1 = .ok tests) ↔
      ∃ group, file.imports? = some group ∧ group.specs ≠ []) ∧
    ∀ error, (file.convertInPlace conventions).1 = .error error →
      (error = .missingImports ∨ error = .emptyImports) ∧ (file.convertInPlace conventions).2 = file := by
  rw [← imports?_eq_none]
  rcases file.convertInPlace_outcome conventions with
    ⟨missing, outcome⟩ | ⟨group, first, ⟨none, outcome⟩ | ⟨filled, tests, converted, outcome⟩⟩
  · simp [missing, outcome, eq_comm]
  · simp [first, none, outcome, eq_comm]
  · simp [first, filled, outcome]

end SourceFile

end GoSpecs
