import GoSpecs.Spec.Conversion

namespace GoSpecs

def Item.isImport (item : Item) : Bool :=
  item.decl.imports?.isSome

theorem Decl.imports?_eq_some {decl : Decl} {group : ImportGroup} :
    decl.imports? = some group ↔ decl = .imports group := by
  cases decl <;> simp [Decl.imports?]

namespace Item

theorem imports?_eq_none {item : Item} : item.decl.imports? = none ↔ item.isImport = false := by
  simp [isImport]

theorem isImport_iff (item : Item) : item.isImport = true ↔ ∃ group, item.decl = .imports group := by
  unfold isImport
  cases item.decl <;> simp [Decl.imports?]

/-- The first import declaration gets the imports of specs, and everything else stays. -/
theorem ensureImports_ok {conventions : Conventions} {items result : List Item}
    {provider : ContextProvider} (h : ensureImports conventions items = .ok (result, provider)) :
    ∃ front item group back, items = front ++ item :: back ∧ item.decl = .imports group ∧
      group.specs ≠ [] ∧ (∀ other ∈ front, other.isImport = false) ∧
      result = front ++ { item with decl := .imports (group.ensure conventions).1 } :: back ∧
      provider = (group.ensure conventions).2 := by
  induction items generalizing result with
  | nil => cases h
  | cons item items ih =>
    unfold ensureImports at h
    split at h
    · rename_i group decl
      split at h
      · cases h
      · rename_i filled
        cases h
        refine ⟨[], item, group, items, rfl, decl, ?_, by simp, rfl, rfl⟩
        intro none
        simp [none] at filled
    · rename_i never
      cases hr : ensureImports conventions items with
      | error e => rw [hr] at h; cases h
      | ok pair =>
        rw [hr] at h
        cases h
        obtain ⟨front, first, group, back, rfl, decl, filled, none, same, sameProvider⟩ := ih hr
        refine ⟨item :: front, first, group, back, rfl, decl, filled, ?_, by rw [same]; rfl,
          sameProvider⟩
        intro other member
        rcases List.mem_cons.mp member with rfl | member
        · cases hd : other.decl with
          | imports group => exact (never group hd).elim
          | _ => simp [isImport, hd, Decl.imports?]
        · exact none _ member

theorem removeImport?_of_not_import (path : String) {item : Item} (h : item.isImport = false) :
    removeImport? path item = some item := by
  unfold removeImport?
  split
  · rename_i decl
    simp [isImport, decl, Decl.imports?] at h
  · rfl

theorem removeImport?_isImport {path : String} {item result : Item}
    (h : removeImport? path item = some result) : result.isImport = item.isImport := by
  unfold removeImport? at h
  split at h
  · rename_i group decl
    dsimp only at h
    split at h
    · cases h
    · cases h
      simp [isImport, decl, Decl.imports?]
  · cases h
    rfl

end Item

namespace SourceFile

def declarations (file : SourceFile) : List Item :=
  file.items.filter (!·.isImport)

theorem imports?_eq_some {file : SourceFile} {group : ImportGroup} :
    file.imports? = some group ↔ ∃ front item back, file.items = front ++ item :: back ∧
      item.decl = .imports group ∧ ∀ other ∈ front, other.isImport = false := by
  simp only [imports?, List.findSome?_eq_some_iff, Decl.imports?_eq_some, Item.imports?_eq_none]

theorem ensureImports_ok {conventions : Conventions} {file result : SourceFile}
    {provider : ContextProvider} (h : file.ensureImports conventions = .ok (result, provider)) :
    Item.ensureImports conventions file.items = .ok (result.items, provider) ∧
      result = { file with items := result.items } := by
  unfold ensureImports at h
  cases hr : Item.ensureImports conventions file.items with
  | error e => rw [hr] at h; cases h
  | ok pair => rw [hr] at h; cases h; exact ⟨rfl, rfl⟩

/-- The files differ in their imports only, and what ends the one ends the other unless it is an
import. -/
structure AgreesBesideImports (before after : SourceFile) : Prop where
  frame : after = { before with items := after.items }
  declarations : after.declarations = before.declarations
  last : ∀ item, before.items.getLast? = some item → item.isImport = false →
    after.items.getLast? = some item

theorem AgreesBesideImports.refl (file : SourceFile) : AgreesBesideImports file file :=
  ⟨rfl, rfl, fun _ last _ => last⟩

theorem AgreesBesideImports.trans {first second third : SourceFile}
    (left : AgreesBesideImports first second) (right : AgreesBesideImports second third) :
    AgreesBesideImports first third := by
  refine ⟨?_, right.declarations.trans left.declarations, ?_⟩
  · rw [right.frame, left.frame]
  · intro item last h
    exact right.last item (left.last item last h) h

theorem declarations_removeImport (path : String) (file : SourceFile) :
    (file.removeImport path).declarations = file.declarations := by
  simp only [declarations, removeImport]
  induction file.items with
  | nil => rfl
  | cons item items ih =>
    cases hi : item.isImport with
    | false => simp [Item.removeImport?_of_not_import path hi, hi, ih]
    | true =>
      cases hr : Item.removeImport? path item with
      | none => simp [hr, hi, ih]
      | some result => simp [hr, hi, Item.removeImport?_isImport hr, ih]

theorem agrees_removeImport (path : String) (file : SourceFile) :
    AgreesBesideImports file (file.removeImport path) := by
  refine ⟨rfl, declarations_removeImport path file, ?_⟩
  intro item last h
  obtain ⟨front, split⟩ := List.getLast?_eq_some_iff.mp last
  simp [removeImport, split, Item.removeImport?_of_not_import path h]

theorem agrees_dropUnused (file : SourceFile) (name path : String) :
    AgreesBesideImports file (file.dropUnused name path) := by
  unfold dropUnused
  split
  · exact .refl file
  · exact agrees_removeImport path file

theorem agrees_dropProvider (file : SourceFile) (conventions : Conventions)
    (provider : ContextProvider) :
    AgreesBesideImports file (file.dropProvider conventions provider) := by
  unfold dropProvider
  split
  · exact agrees_dropUnused ..
  · exact .refl file

end SourceFile

end GoSpecs
