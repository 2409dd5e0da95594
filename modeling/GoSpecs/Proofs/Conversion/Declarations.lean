import GoSpecs.Layout.Blocks
import GoSpecs.Proofs.Conversion.ImportSection
import GoSpecs.Proofs.Conversion.InPlace
import GoSpecs.Proofs.Conversion.Retyped

namespace GoSpecs

def Block.substituted (native? : Option NativeType) (type : Expr.Node) (block : Block) : Block :=
  match native? with
  | some native => block.replace (.ofFields (native.substitute? type))
  | none => block

def Item.substituted (native? : Option NativeType) (type : Expr.Node) (item : Item) : Item :=
  match native? with
  | some native => { item with decl := item.decl.replace (.ofFields (native.substitute? type)) }
  | none => item

theorem NativeType.fst_substitute (native : NativeType) (type : Expr.Node) (file : SourceFile) :
    (native.substitute type file).1 = { file with items := file.items.map (·.substituted (some native) type) } := by
  rw [substitute_eq]
  rfl

def callbackStmt (func label : String) (body : Block) : Stmt :=
  .built (.expr (.built (.call (.built (.ident func))
    [.built (.stringLit label), .built (.funcLit ⟨[], []⟩ body)] false .detached)))

/-- A function without parameters whose only statement is the container call around `body`. -/
def containerItem (conventions : Conventions) (body : Block) : Item :=
  ⟨.func ⟨none, conventions.initFunc, .detached, [], ⟨[], []⟩,
    some (.built [callbackStmt conventions.containerFunc conventions.containerLabel body] [])⟩,
    [], none, .detached⟩

theorem Item.ofLeaves_eq (conventions : Conventions) (leaves : List Leaf) :
    Item.ofLeaves conventions leaves = containerItem conventions (.ofLeaves conventions leaves) :=
  rfl

theorem filterMap_zipIdx_get {α β γ : Type} (f : α → Nat → Option β) (g : α → Option γ)
    (same : ∀ a i, (f a i).isSome = (g a).isSome) (list : List α) (start place : Nat) (b : β)
    (found : ((list.zipIdx start).filterMap fun p => f p.1 p.2)[place]? = some b) :
    ∃ i a, list[i]? = some a ∧ f a (start + i) = some b ∧ (list.filterMap g)[place]? = g a := by
  induction list generalizing start place with
  | nil => simp at found
  | cons a list ih =>
    have agree := same a start
    cases hf : f a start with
    | none =>
      have hg : g a = none := by simpa [hf] using agree.symm
      simp only [List.zipIdx_cons, List.filterMap_cons, hf] at found
      obtain ⟨i, x, atI, selected, placed⟩ := ih (start + 1) place found
      refine ⟨i + 1, x, by simpa using atI, ?_, by simpa [hg] using placed⟩
      rw [← selected]
      congr 1
      omega
    | some c =>
      obtain ⟨d, hg⟩ : ∃ d, g a = some d := Option.isSome_iff_exists.mp (by simpa [hf] using agree.symm)
      simp only [List.zipIdx_cons, List.filterMap_cons, hf] at found
      cases place with
      | zero =>
        simp only [List.getElem?_cons_zero, Option.some.injEq] at found
        exact ⟨0, a, by simp, by simpa [found] using hf, by simp [hg]⟩
      | succ place =>
        simp only [List.getElem?_cons_succ] at found
        obtain ⟨i, x, atI, selected, placed⟩ := ih (start + 1) place found
        refine ⟨i + 1, x, by simpa using atI, ?_, by simpa [hg] using placed⟩
        rw [← selected]
        congr 1
        omega

namespace NativeType

theorem candidateAt?_of_import {native : NativeType} {item : Item} (h : item.isImport = true)
    (index : Nat) : native.candidateAt? item index = none := by
  obtain ⟨group, decl⟩ := item.isImport_iff.mp h
  simp [candidateAt?, decl, Decl.func?]

end NativeType

theorem Item.substituted_isImport (native? : Option NativeType) (type : Expr.Node) (item : Item) :
    (item.substituted native? type).isImport = item.isImport := by
  cases native? with
  | none => rfl
  | some native =>
    cases decl : item.decl with
    | func func =>
      obtain ⟨⟩ := func
      simp [Item.substituted, isImport, decl, Decl.imports?, Decl.replace]
    | _ => simp [Item.substituted, isImport, decl, Decl.imports?, Decl.replace]

theorem replaceStmts_eq_map (replacement : Replacement) (stmts : List Stmt) :
    replaceStmts replacement stmts = stmts.map (·.replace replacement) := by
  induction stmts with
  | nil => simp [replaceStmts]
  | cons stmt stmts ih => simp [replaceStmts, ih]

theorem callbackStmt_replace (field? : Field → Option Field) (func label : String) (body : Block) :
    (callbackStmt func label body).replace (.ofFields field?) =
      callbackStmt func label (body.replace (.ofFields field?)) := by
  simp [callbackStmt, Stmt.built, Expr.built, Stmt.replace, Stmt.Node.replace, Expr.replace,
    Expr.Node.replace, Expr.Node.stringLit, replaceExprs, FuncType.replace, replaceFields,
    Replacement.ofFields]

theorem Item.substituted_ofLeaves (conventions : Conventions) (native? : Option NativeType)
    (type : Expr.Node) (leaves : List Leaf) :
    (Item.ofLeaves conventions leaves).substituted native? type =
      Item.ofLeaves conventions
        (leaves.map fun leaf => { leaf with body := leaf.body.substituted native? type }) := by
  cases native? with
  | none => simp [Item.substituted, Block.substituted]
  | some native =>
    have inner : (Block.ofLeaves conventions leaves).replace (.ofFields (native.substitute? type)) =
        Block.ofLeaves conventions
          (leaves.map fun leaf => { leaf with body := leaf.body.substituted (some native) type }) := by
      have stmts : ∀ leaf : Leaf, (leaf.stmt conventions).replace (.ofFields (native.substitute? type)) =
          ({ leaf with body := leaf.body.substituted (some native) type } : Leaf).stmt conventions :=
        fun leaf => callbackStmt_replace (native.substitute? type) conventions.leafFunc leaf.name leaf.body
      simp [Block.ofLeaves, Block.built, Block.replace, replaceStmts_eq_map, stmts, Leaf.comments,
        List.zipIdx_map, List.flatMap_map]
    simp [Item.ofLeaves_eq, containerItem, Item.substituted, Decl.replace, replaceField?,
      replaceFields, FuncType.replace, replaceBlock?, Block.built, Block.replace, replaceStmts,
      callbackStmt_replace, inner]

theorem flatMap_zipIdx_at {α β : Type} (f : α → List β) (list : List α) (start place : Nat) :
    ((list.zipIdx start).flatMap fun p => if start + place = p.2 then f p.1 else []) =
      (list[place]?.map f).getD [] := by
  induction list generalizing start place with
  | nil => simp
  | cons a list ih =>
    cases place with
    | zero =>
      have later : ((list.zipIdx (start + 1)).flatMap fun p => if start = p.2 then f p.1 else []) = [] := by
        rw [List.flatMap_eq_nil_iff]
        intro p member
        have bound := (List.mem_zipIdx member).1
        rw [if_neg (by omega)]
      simp [List.zipIdx_cons, later]
    | succ place =>
      have next := ih (start + 1) place
      rw [Nat.add_right_comm, Nat.add_assoc] at next
      simp [List.zipIdx_cons, next]

theorem Layout.anchoredAt_map (anchor other : Anchor) (comments : List Comment) :
    anchoredAt anchor (comments.map (⟨other, ·⟩)) = if anchor = other then comments else [] := by
  induction comments with
  | nil => simp [anchoredAt]
  | cons comment comments ih =>
    by_cases h : anchor = other
    · simp only [anchoredAt, h, if_true] at ih
      simp [anchoredAt, h, ih]
    · simp only [anchoredAt, h, if_false] at ih
      simp [anchoredAt, h, Ne.symm h, ih]

theorem Layout.anchoredAt_append (anchor : Anchor) (left right : List AnchoredComment) :
    anchoredAt anchor (left ++ right) = anchoredAt anchor left ++ anchoredAt anchor right := by
  simp [anchoredAt]

theorem Layout.anchoredAt_flatMap {α : Type} (anchor : Anchor) (f : α → List AnchoredComment)
    (list : List α) :
    anchoredAt anchor (list.flatMap f) = list.flatMap fun a => anchoredAt anchor (f a) := by
  simp [anchoredAt, List.filter_flatMap, List.map_flatMap]

namespace Leaf

open Layout

theorem anchoredAt_before (leaf : Leaf) (index place : Nat) :
    anchoredAt (.before place) (leaf.comments index) = if place = index then leaf.doc else [] := by
  simp [comments, anchoredAt_append, anchoredAt_map]

theorem anchoredAt_after (leaf : Leaf) (index place : Nat) :
    anchoredAt (.after place) (leaf.comments index) =
      if place = index then leaf.trailing.toList else [] := by
  simp [comments, anchoredAt_append, anchoredAt_map]

end Leaf

namespace Block

open Layout

theorem anchoredAt_before_ofLeaves {conventions : Conventions} {leaves : List Leaf} {place : Nat}
    {leaf : Leaf} (h : leaves[place]? = some leaf) :
    anchoredAt (.before place) (Block.ofLeaves conventions leaves).comments = leaf.doc := by
  have placed := flatMap_zipIdx_at Leaf.doc leaves 0 place
  simp only [Nat.zero_add, h, Option.map_some, Option.getD_some] at placed
  simp only [Block.ofLeaves, Block.built, anchoredAt_flatMap, Leaf.anchoredAt_before]
  exact placed

theorem anchoredAt_after_ofLeaves {conventions : Conventions} {leaves : List Leaf} {place : Nat}
    {leaf : Leaf} (h : leaves[place]? = some leaf) :
    anchoredAt (.after place) (Block.ofLeaves conventions leaves).comments = leaf.trailing.toList := by
  have placed := flatMap_zipIdx_at (fun leaf : Leaf => leaf.trailing.toList) leaves 0 place
  simp only [Nat.zero_add, h, Option.map_some, Option.getD_some] at placed
  simp only [Block.ofLeaves, Block.built, anchoredAt_flatMap, Leaf.anchoredAt_after]
  exact placed

theorem anchor_of_mem_ofLeaves {conventions : Conventions} {leaves : List Leaf}
    {comment : AnchoredComment} (h : comment ∈ (Block.ofLeaves conventions leaves).comments) :
    ∃ place < leaves.length, comment.anchor = .before place ∨ comment.anchor = .after place := by
  simp only [Block.ofLeaves, Block.built, List.mem_flatMap] at h
  obtain ⟨⟨leaf, place⟩, member, h⟩ := h
  refine ⟨place, ?_, ?_⟩
  · have bound := List.mem_zipIdx member
    omega
  · simp only [Leaf.comments, List.mem_append, List.mem_map] at h
    rcases h with ⟨_, _, rfl⟩ | ⟨_, _, rfl⟩
    · exact .inl rfl
    · exact .inr rfl

end Block

namespace SourceFile

theorem candidates_ensureImports {conventions : Conventions} {file imported : SourceFile}
    {provider : ContextProvider} (h : file.ensureImports conventions = .ok (imported, provider))
    (native : NativeType) : native.candidates imported = native.candidates file := by
  obtain ⟨hi, _⟩ := ensureImports_ok h
  obtain ⟨front, item, group, back, items, decl, _, _, same, _⟩ := Item.ensureImports_ok hi
  have before : item.isImport = true := item.isImport_iff.mpr ⟨group, decl⟩
  have after : ({ item with decl := .imports (group.ensure conventions).1 } : Item).isImport = true :=
    (Item.isImport_iff _).mpr ⟨_, rfl⟩
  unfold NativeType.candidates
  rw [items, same]
  simp [List.zipIdx_append, NativeType.candidateAt?_of_import before,
    NativeType.candidateAt?_of_import after]

def others (file : SourceFile) (tests : List Candidate) : List Item :=
  (file.items.zipIdx.filter fun p => !p.1.isImport && !tests.any (·.index == p.2)).map (·.1)

theorem others_ensureImports {conventions : Conventions} {file imported : SourceFile}
    {provider : ContextProvider} (h : file.ensureImports conventions = .ok (imported, provider))
    (tests : List Candidate) : imported.others tests = file.others tests := by
  obtain ⟨hi, _⟩ := ensureImports_ok h
  obtain ⟨front, item, group, back, items, decl, _, _, same, _⟩ := Item.ensureImports_ok hi
  have before : item.isImport = true := item.isImport_iff.mpr ⟨group, decl⟩
  have after : ({ item with decl := .imports (group.ensure conventions).1 } : Item).isImport = true :=
    (Item.isImport_iff _).mpr ⟨_, rfl⟩
  unfold others
  rw [items, same]
  simp [List.zipIdx_append, before, after]

/-- An item becomes a leaf exactly if its place is that of a test. -/
theorem any_testsOf (file : SourceFile) (native? : Option NativeType) (accessor : Expr.Node)
    {item : Item} {place : Nat} (placed : file.items[place]? = some item) :
    (testsOf native? file).any (·.index == place) = (native?.bind (·.leaf? accessor item)).isSome := by
  cases native? with
  | none => rfl
  | some native =>
    rw [Bool.eq_iff_iff, Option.bind_some, ← native.leaf?_isSome accessor item place]
    simp only [testsOf, Option.map_some, Option.getD_some, List.any_eq_true, beq_iff_eq,
      NativeType.candidates, List.mem_filterMap, Prod.exists]
    constructor
    · rintro ⟨test, ⟨other, index, member, found⟩, rfl⟩
      obtain ⟨_, _, _, _, _, _, rfl⟩ := NativeType.candidateAt?_eq_some found
      rw [List.mk_mem_zipIdx_iff_getElem?, placed] at member
      cases member
      simp [found]
    · intro found
      obtain ⟨test, found⟩ := Option.isSome_iff_exists.mp found
      obtain ⟨_, _, _, _, _, _, same⟩ := NativeType.candidateAt?_eq_some found
      exact ⟨test, ⟨item, place, List.mk_mem_zipIdx_iff_getElem?.mpr placed, found⟩, same.symm⟩

theorem declarations_moveTests (file : SourceFile) (conventions : Conventions)
    (native? : Option NativeType) (accessor : Expr.Node) :
    (file.moveTests conventions native? accessor).declarations =
      file.others (testsOf native? file) ++ [Item.ofLeaves conventions
        (file.items.filterMap fun item => native?.bind (·.leaf? accessor item))] := by
  have selected : file.others (testsOf native? file) =
      (file.items.filter fun item => (native?.bind (·.leaf? accessor item)).isNone).filter
        (!·.isImport) := by
    have same : ∀ p ∈ file.items.zipIdx,
        (!p.1.isImport && !(testsOf native? file).any (·.index == p.2)) =
          (!p.1.isImport && (native?.bind (·.leaf? accessor p.1)).isNone) := by
      intro p member
      rw [file.any_testsOf native? accessor (List.mem_zipIdx_iff_getElem?.mp member)]
      cases native?.bind (·.leaf? accessor p.1) <;> rfl
    rw [others, List.filter_congr same, List.filter_filter]
    conv => rhs; rw [← List.zipIdx_map_fst 0 file.items, List.filter_map]
    rfl
  have container : (Item.ofLeaves conventions
      (file.items.filterMap fun item => native?.bind (·.leaf? accessor item))).isImport = false := rfl
  simp [declarations, moveTests, List.filter_append, selected, container]

theorem agrees_dropNative (file : SourceFile) (conventions : Conventions)
    (native? : Option NativeType) (type : Expr.Node) :
    AgreesBesideImports { file with items := file.items.map (·.substituted native? type) }
      (file.dropNative conventions native? type) := by
  cases native? with
  | none =>
    have same : file.items.map (·.substituted none type) = file.items := List.map_id file.items
    rw [same]
    exact .refl file
  | some native =>
    rw [dropNative, NativeType.fst_substitute]
    exact agrees_dropUnused ..

theorem declarations_map_substituted (file : SourceFile) (native? : Option NativeType)
    (type : Expr.Node) :
    ({ file with items := file.items.map (·.substituted native? type) } : SourceFile).declarations =
      file.declarations.map (·.substituted native? type) := by
  have same : (fun item : Item => !(item.substituted native? type).isImport) = (!·.isImport) := by
    funext item
    rw [Item.substituted_isImport]
  rw [declarations, declarations, List.filter_map]
  simp only [Function.comp_def, same]

def rewritten (file : SourceFile) (conventions : Conventions) (native? : Option NativeType)
    (provider : ContextProvider) : SourceFile :=
  let moved := file.moveTests conventions native? (provider.accessorCall conventions)
  { moved with
    items := moved.items.map (·.substituted native? (provider.capabilityType conventions)) }

theorem convert_ok {conventions : Conventions} {file out : SourceFile} {count : Nat}
    (h : file.convert conventions = .ok (out, count)) :
    ∃ imported provider native?, file.ensureImports conventions = .ok (imported, provider) ∧
      native? = NativeType.ofFile? conventions file ∧
      count = (testsOf native? imported).length ∧
      out = ((imported.moveTests conventions native? (provider.accessorCall conventions)).dropNative
        conventions native? (provider.capabilityType conventions)).dropProvider conventions provider ∧
      AgreesBesideImports (imported.rewritten conventions native? provider) out := by
  cases hi : file.ensureImports conventions with
  | error e => rw [convert_of_error hi] at h; cases h
  | ok pair =>
    rw [convert_of_ensureImports hi] at h
    cases h
    exact ⟨pair.1, pair.2, _, rfl, rfl, rfl, rfl,
      (agrees_dropNative ..).trans (agrees_dropProvider ..)⟩

theorem testsOf_ensureImports {conventions : Conventions} {file imported : SourceFile}
    {provider : ContextProvider} (h : file.ensureImports conventions = .ok (imported, provider))
    (native? : Option NativeType) : testsOf native? imported = testsOf native? file := by
  cases native? with
  | none => rfl
  | some native => simp [testsOf, candidates_ensureImports h native]

theorem leaves_ensureImports {conventions : Conventions} {file imported : SourceFile}
    {provider : ContextProvider} (h : file.ensureImports conventions = .ok (imported, provider))
    (native? : Option NativeType) (accessor : Expr.Node) :
    (imported.items.filterMap fun item => native?.bind (·.leaf? accessor item)) =
      file.items.filterMap fun item => native?.bind (·.leaf? accessor item) := by
  obtain ⟨hi, _⟩ := ensureImports_ok h
  obtain ⟨front, item, group, back, items, decl, _, _, same, _⟩ := Item.ensureImports_ok hi
  rw [items, same]
  simp [NativeType.leaf?, decl, Decl.func?]

theorem leaf_at_test {file : SourceFile} {native? : Option NativeType} (accessor : Expr.Node)
    {place : Nat} {test : Candidate} (h : (testsOf native? file)[place]? = some test) :
    ∃ item func body, file.items[test.index]? = some item ∧ item.decl = .func func ∧
      func.name = test.name ∧ func.body? = some body ∧
      (file.items.filterMap fun item => native?.bind (·.leaf? accessor item))[place]? = some
        ⟨test.name, item.doc, item.comment, (body.replaceContext ⟨test.param, accessor⟩).1⟩ := by
  cases native? with
  | none => simp [testsOf] at h
  | some native =>
    obtain ⟨index, item, atIndex, selected, placed⟩ :=
      filterMap_zipIdx_get native.candidateAt? (native.leaf? accessor) (native.leaf?_isSome accessor)
        file.items 0 place test h
    obtain ⟨func, body, decl, hasBody, param, name, same⟩ := NativeType.candidateAt?_eq_some selected
    rw [Nat.zero_add] at same
    subst same
    refine ⟨item, func, body, atIndex, decl, name, hasBody, ?_⟩
    rw [← NativeType.leaf?_of_candidate accessor decl hasBody param name]
    exact placed

theorem length_leaves (file : SourceFile) (native? : Option NativeType) (accessor : Expr.Node) :
    (file.items.filterMap fun item => native?.bind (·.leaf? accessor item)).length =
      (testsOf native? file).length := by
  cases native? with
  | none => simp [testsOf]
  | some native =>
    have counted : ∀ start, ((file.items.zipIdx start).filterMap fun p => native.candidateAt? p.1 p.2).length =
        (file.items.filterMap (native.leaf? accessor)).length := by
      induction file.items with
      | nil => simp
      | cons item items ih =>
        intro start
        have agree := native.leaf?_isSome accessor item start
        cases hc : native.candidateAt? item start <;> cases hl : native.leaf? accessor item <;>
          simp_all
    exact (counted 0).symm

end SourceFile

/-- The statements of the block are the leaves of the tests, place by place. -/
structure HoldsTests (conventions : Conventions) (provider : ContextProvider)
    (native? : Option NativeType) (file : SourceFile) (tests : List Candidate) (block : Block) :
    Prop where
  length : block.stmts.length = tests.length
  leaf : ∀ place test, tests[place]? = some test →
    ∃ item func body, file.items[test.index]? = some item ∧ item.decl = .func func ∧
      func.name = test.name ∧ func.body? = some body ∧
      block.stmts[place]? = some (callbackStmt conventions.leafFunc test.name
        ((body.replaceContext ⟨test.param, provider.accessorCall conventions⟩).1.substituted native?
          (provider.capabilityType conventions))) ∧
      Layout.anchoredAt (.before place) block.comments = item.doc ∧
      Layout.anchoredAt (.after place) block.comments = item.comment.toList
  anchored : ∀ comment ∈ block.comments,
    ∃ place < tests.length, comment.anchor = .before place ∨ comment.anchor = .after place

theorem holdsTests_ofLeaves (conventions : Conventions) (provider : ContextProvider)
    (native? : Option NativeType) (file : SourceFile) :
    HoldsTests conventions provider native? file (testsOf native? file) (Block.ofLeaves conventions
      ((file.items.filterMap fun item => native?.bind (·.leaf? (provider.accessorCall conventions) item)).map
        fun leaf => { leaf with
          body := leaf.body.substituted native? (provider.capabilityType conventions) })) := by
  have counted := file.length_leaves native? (provider.accessorCall conventions)
  refine ⟨by simp [Block.ofLeaves, Block.built, counted], ?_, ?_⟩
  · intro place test member
    obtain ⟨item, func, body, atIndex, decl, name, hasBody, placed⟩ :=
      file.leaf_at_test (provider.accessorCall conventions) member
    have moved := congrArg (Option.map fun leaf : Leaf => { leaf with
      body := leaf.body.substituted native? (provider.capabilityType conventions) }) placed
    rw [← List.getElem?_map] at moved
    refine ⟨item, func, body, atIndex, decl, name, hasBody, ?_,
      Block.anchoredAt_before_ofLeaves moved, Block.anchoredAt_after_ofLeaves moved⟩
    simp only [Block.ofLeaves, Block.built, List.getElem?_map (f := Leaf.stmt conventions), moved]
    rfl
  · intro comment member
    obtain ⟨place, bound, anchor⟩ := Block.anchor_of_mem_ofLeaves member
    rw [List.length_map, counted] at bound
    exact ⟨place, bound, anchor⟩

/-- A conversion counts the tests, and each becomes the leaf of its place in the container at the
end of the file. The declarations that are no tests keep their order and change in the native type
alone. -/
theorem convert_moves_tests {conventions : Conventions} {file out : SourceFile} {count : Nat}
    (h : file.convert conventions = .ok (out, count)) :
    ∃ imported provider block native? tests,
      file.ensureImports conventions = .ok (imported, provider) ∧
      native? = NativeType.ofFile? conventions file ∧ tests = testsOf native? imported ∧
      count = tests.length ∧
      out.declarations =
        (file.others tests).map (·.substituted native? (provider.capabilityType conventions)) ++
          [containerItem conventions block] ∧
      out.items.getLast? = some (containerItem conventions block) ∧
      HoldsTests conventions provider native? file tests block ∧
      out = { file with items := out.items } := by
  obtain ⟨imported, provider, native?, imports, native, counted, _, agrees⟩ :=
    SourceFile.convert_ok h
  have container := Item.substituted_ofLeaves conventions native? (provider.capabilityType conventions)
    (imported.items.filterMap fun item =>
      native?.bind (·.leaf? (provider.accessorCall conventions) item))
  have held := holdsTests_ofLeaves conventions provider native? file
  rw [← SourceFile.leaves_ensureImports imports, ← SourceFile.testsOf_ensureImports imports] at held
  refine ⟨imported, provider, _, native?, _, imports, native, rfl, counted, ?_, ?_, held, ?_⟩
  · rw [agrees.declarations, SourceFile.rewritten, SourceFile.declarations_map_substituted,
      SourceFile.declarations_moveTests, List.map_append, List.map_singleton, container,
      SourceFile.others_ensureImports imports, Item.ofLeaves_eq]
  · refine agrees.last _ ?_ rfl
    simp only [SourceFile.rewritten, SourceFile.moveTests, List.map_append, List.map_singleton,
      List.getLast?_concat]
    rw [container, Item.ofLeaves_eq]
  · rw [agrees.frame, (SourceFile.ensureImports_ok imports).2]
    rfl

def contextFunc (name : String) (doc : List Comment) : Item :=
  let type : Expr := .built (.star (.built (.qualified (some "testing") "T")))
  ⟨.func ⟨none, name, .detached, [], ⟨[⟨["t"], type, none, none⟩], []⟩, some (.built [] [])⟩,
    doc, none, .detached⟩

def mixedFile : SourceFile :=
  ⟨[], "p", .detached,
    [⟨.imports ⟨[⟨none, "testing", none⟩], false⟩, [], none, .detached⟩,
      contextFunc "helper" [], contextFunc "TestAdd" [⟨"// Adds.", .detached⟩], contextFunc "Testable" []],
    [], .unknown⟩

theorem convert_mixedFile : ∃ out block, mixedFile.convert .ginkgo = .ok (out, 1) ∧
    out.items.getLast? = some (containerItem .ginkgo block) ∧ block.stmts.length = 1 := by
  have counted : (mixedFile.convert .ginkgo).toOption.map (·.2) = some 1 := by decide
  cases converted : mixedFile.convert .ginkgo with
  | error fault => simp [converted, Except.toOption] at counted
  | ok result =>
    obtain ⟨out, count⟩ := result
    have one : count = 1 := by simpa [converted, Except.toOption] using counted
    subst one
    obtain ⟨_, _, block, _, _, _, _, _, length, _, last, held, _⟩ := convert_moves_tests converted
    exact ⟨out, block, rfl, last, held.length.trans length.symm⟩

end GoSpecs
