import GoSpecs.Proofs.Grammar.Clauses
import GoSpecs.Proofs.Text.Lossy
import GoSpecs.Proofs.Workspace.Disks
import GoSpecs.Workspace.Run

namespace GoSpecs

namespace Conventions

theorem hasSuffix_iff {text suffix : String} : hasSuffix text suffix = true ↔ ∃ stem, text = stem ++ suffix := by
  rw [hasSuffix, List.isSuffixOf_iff_suffix]
  constructor
  · rintro ⟨stem, shape⟩
    refine ⟨String.ofList stem, ?_⟩
    rw [← String.toList_inj, ← shape]
    simp
  · rintro ⟨stem, rfl⟩
    exact ⟨stem.toList, by simp⟩

theorem dropSuffix?_append (stem suffix : String) : dropSuffix? (stem ++ suffix) suffix = some stem := by
  simp [dropSuffix?, List.isSuffixOf_iff_suffix]

theorem dropSuffix?_eq_some {text suffix stem : String} (found : dropSuffix? text suffix = some stem) :
    text = stem ++ suffix := by
  by_cases has : hasSuffix text suffix = true
  · obtain ⟨front, rfl⟩ := hasSuffix_iff.mp has
    rw [dropSuffix?_append] at found
    cases found
    rfl
  · have none : dropSuffix? text suffix = none := if_neg has
    rw [none] at found
    cases found

abbrev suiteName (package : String) : Bytes :=
  Text.utf8 (ginkgo.suiteFileName package)

/-- The name of what is written for a file with tests. -/
abbrev specsName (name : Bytes) : Bytes :=
  Text.utf8 (ginkgo.convertedFileName (Text.lossy name))

end Conventions

def Package.named (clause : String) : String :=
  (Conventions.dropSuffix? clause "_test").getD clause

theorem Package.named_test (package : String) : Package.named (package ++ "_test") = package := by
  rw [Package.named, Conventions.dropSuffix?_append, Option.getD_some]

theorem Package.isIdentifier_named {clause : String} (isName : IsIdentifier clause) :
    IsIdentifier (Package.named clause ++ "_test") := by
  cases found : Conventions.dropSuffix? clause "_test" with
  | none =>
    rw [Package.named, found, Option.getD_none]
    exact isName.suffixed
  | some stem =>
    rw [Package.named, found, Option.getD_some, ← Conventions.dropSuffix?_eq_some found]
    exact isName

theorem Path.IsSegment.not_mem_lossy {name : Bytes} (one : Path.IsSegment name) : '/' ∉ (Text.lossy name).toList :=
  fun here => one (Text.mem_of_mem_lossy (by decide) (by decide) here)

theorem isName_utf8 {text : String} (plain : '/' ∉ text.toList) (long : 2 < text.length) :
    Path.IsName (Text.utf8 text) := by
  have differs {other : String} (short : other.length ≤ 2) : Text.utf8 text ≠ Text.utf8 other := by
    intro same
    obtain rfl := Text.utf8_inj.mp same
    omega
  exact ⟨fun here => plain (Text.mem_utf8 (by decide) here), @differs "" (by decide), @differs "." (by decide),
    @differs ".." (by decide)⟩

theorem isName_append {front back : String} (one : '/' ∉ front.toList) (two : '/' ∉ back.toList)
    (long : 2 < back.length) : Path.IsName (Text.utf8 (front ++ back)) := by
  refine isName_utf8 (by simp [one, two]) ?_
  rw [String.length_append]
  omega

theorem fromUTF8?_toUTF8 (text : String) : String.fromUTF8? text.toUTF8 = some text := by
  simp only [String.fromUTF8?, String.toUTF8_eq_toByteArray, dif_pos text.isValidUTF8]
  rfl

abbrev isGo (name : Bytes) : Bool :=
  Conventions.hasSuffix (Text.lossy name) ".go"

namespace Disk

def Clause (disk : Disk) (place : Location) (clause : String) : Prop :=
  ∃ bytes text, disk.at? place = some (.file bytes) ∧ String.fromUTF8? bytes = some text ∧
    packageNameOf text = .ok clause

/-- The directory is the root of a walk or below it, and no directory on the way is left out. -/
def InTree (root dir : Location) : Prop :=
  ∃ way, dir = root ++ way ∧ ∀ name ∈ way, Package.isIgnored (Text.lossy name) = false

/-- In each directory that a walk from the root comes to, the Go files are of one package. One `_test` is left
out at the end of each clause. -/
structure ClausesAgree (disk : Disk) (root : Location) : Prop where
  readable : ∀ dir name bytes, InTree root dir → isGo name → disk.at? (dir ++ [name]) = some (.file bytes) →
    ∃ clause, disk.Clause (dir ++ [name]) clause
  same : ∀ dir name name' clause clause', InTree root dir → isGo name → isGo name' →
    disk.Clause (dir ++ [name]) clause → disk.Clause (dir ++ [name']) clause' →
    Package.named clause' = Package.named clause

def HasSource (disk : Disk) (dir : Location) : Prop :=
  ∃ name clause, isGo name ∧ disk.Clause (dir ++ [name]) clause

/-- The root of a walk, and the name of the package in each directory. -/
structure Tree where
  root : Location
  name : Location → String

namespace Tree

def Has (tree : Tree) (dir : Location) : Prop :=
  InTree tree.root dir

theorem Has.down {tree : Tree} {dir : Location} (has : tree.Has dir) {name : Bytes}
    (searched : Package.isIgnored (Text.lossy name) = false) : tree.Has (dir ++ [name]) := by
  obtain ⟨way, rfl, all⟩ := has
  refine ⟨way ++ [name], List.append_assoc .., fun other here => ?_⟩
  obtain here | here := List.mem_append.mp here
  · exact all other here
  · exact List.mem_singleton.mp here ▸ searched

end Tree

def IsGenerated (tree : Tree) (dir : Location) (name : Bytes) : Prop :=
  Conventions.hasSuffix (Text.lossy name) Conventions.ginkgo.convertedSuffix = true ∨
    name = Conventions.suiteName (tree.name dir)

/-- The disk is what runs make of another one: it has the same directories, and files are written under the
names of specs and suites alone, in directories that have sources, with the clause of their package. -/
structure Grows (base : Disk) (tree : Tree) (disk : Disk) : Prop where
  proper : disk.Proper
  dirs : ∀ place, disk.at? place = some .dir ↔ base.at? place = some .dir
  stays : ∀ place, (base.at? place).isSome = true → (disk.at? place).isSome = true
  kept : ∀ dir name, ¬IsGenerated tree dir name → disk.at? (dir ++ [name]) = base.at? (dir ++ [name])
  sourced : ∀ dir name bytes, tree.Has dir → isGo name → disk.at? (dir ++ [name]) = some (.file bytes) →
    base.HasSource dir
  named : ∀ dir name clause, tree.Has dir → isGo name → disk.Clause (dir ++ [name]) clause →
    Package.named clause = tree.name dir

theorem exists_tree {disk : Disk} {root : Location} (agree : disk.ClausesAgree root) :
    ∃ tree : Tree, tree.root = root ∧ ∀ dir name clause, tree.Has dir → isGo name →
      disk.Clause (dir ++ [name]) clause → Package.named clause = tree.name dir := by
  have each (dir : Location) : ∃ package, ∀ name clause, InTree root dir → isGo name →
      disk.Clause (dir ++ [name]) clause → Package.named clause = package := by
    by_cases some : disk.HasSource dir
    · obtain ⟨name, clause, go, here⟩ := some
      exact ⟨Package.named clause, fun name' clause' has go' here' =>
        agree.same dir name name' clause clause' has go go' here here'⟩
    · exact ⟨"", fun name clause _ go here => (some ⟨name, clause, go, here⟩).elim⟩
  choose names same using each
  exact ⟨⟨root, names⟩, rfl, same⟩

namespace Grows

variable {base disk : Disk} {tree : Tree}

theorem refl (proper : base.Proper) (agree : base.ClausesAgree tree.root)
    (named : ∀ dir name clause, tree.Has dir → isGo name → base.Clause (dir ++ [name]) clause →
      Package.named clause = tree.name dir) : Grows base tree base where
  proper := proper
  dirs _ := Iff.rfl
  stays _ some := some
  kept _ _ _ := rfl
  sourced dir name bytes has go here := by
    obtain ⟨clause, found⟩ := agree.readable dir name bytes has go here
    exact ⟨name, clause, go, found⟩
  named := named

theorem leads (grows : Grows base tree disk) {cwd place : Location} {path : Bytes} (leads : base.Leads cwd path place) :
    disk.Leads cwd path place :=
  leads.of_dirs fun place => (grows.dirs place).mpr

theorem file_of_base (grows : Grows base tree disk) {place : Location} {bytes : ByteArray}
    (here : base.at? place = some (.file bytes)) : ∃ bytes', disk.at? place = some (.file bytes') := by
  obtain ⟨node, found⟩ := Option.isSome_iff_exists.mp (grows.stays place (by simp [here]))
  cases node with
  | dir =>
    have isDir := (grows.dirs place).mp found
    rw [here] at isDir
    cases isDir
  | file bytes' => exact ⟨bytes', found⟩

theorem put (grows : Grows base tree disk) {dir : Location} {name : Bytes} {text : String}
    (isName : Path.IsName name) (isDir : disk.at? dir = some .dir) (generated : IsGenerated tree dir name)
    (source : base.HasSource dir)
    (free : disk.at? (dir ++ [name]) ≠ some .dir)
    (named : ∀ clause, packageNameOf text = .ok clause → Package.named clause = tree.name dir) :
    Grows base tree (disk.put (dir ++ [name]) (.file text.toUTF8)) := by
  have below : dir ++ [name] ≠ [] := by simp
  have at? (place : Location) := @at?_put disk (dir ++ [name]) below (.file text.toUTF8) place
  refine ⟨?_, ?_, ?_, ?_, ?_, ?_⟩
  · refine grows.proper.put below (fun part here => ?_) _
    obtain here | here := List.mem_append.mp here
    · exact grows.proper.names isDir part here
    · exact List.mem_singleton.mp here ▸ isName
  · intro place
    rw [at?, ← grows.dirs]
    split
    · rename_i same
      simp [same, free]
    · rfl
  · intro place some
    rw [at?]
    split
    · rfl
    · exact grows.stays place some
  · intro dir' name' other
    rw [at?, if_neg, grows.kept dir' name' other]
    intro same
    obtain ⟨rfl, last⟩ := List.append_inj' same rfl
    exact other (List.head_eq_of_cons_eq last ▸ generated)
  · intro dir' name' bytes has go here
    rw [at?] at here
    split at here
    · rename_i same
      exact (List.append_inj' same rfl).1 ▸ source
    · exact grows.sourced dir' name' bytes has go here
  · rintro dir' name' clause has go ⟨bytes, text', here, decoded, clause'⟩
    rw [at?] at here
    split at here
    · rename_i same
      cases here
      obtain rfl : text = text' := Option.some.inj ((fromUTF8?_toUTF8 text).symm.trans decoded)
      rw [(List.append_inj' same rfl).1]
      exact named clause clause'
    · exact grows.named dir' name' clause has go ⟨bytes, text', here, decoded, clause'⟩

end Grows

end Disk

end GoSpecs
