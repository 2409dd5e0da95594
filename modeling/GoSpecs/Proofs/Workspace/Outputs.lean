import GoSpecs.Proofs.Workspace.Walked
import Mathlib.Data.List.Nodup

namespace GoSpecs

open Disk Job

namespace Conventions

theorem hasSuffix_append (stem suffix : String) : hasSuffix (stem ++ suffix) suffix = true :=
  hasSuffix_iff.mpr ⟨stem, rfl⟩

theorem hasSuffix_suiteFileName (package : String) :
    hasSuffix (ginkgo.suiteFileName package) ginkgo.convertedSuffix = false := by
  rw [Bool.eq_false_iff]
  intro specs
  obtain ⟨stem, same⟩ := hasSuffix_iff.mp specs
  -- Compared are as many characters at the end as the shorter suffix has.
  have chars : package.toList ++ "_suite_test.go".toList = (stem.toList ++ ['_']) ++ "ginkgo_test.go".toList := by
    have chars := congrArg String.toList same
    simpa [suiteFileName, ginkgo] using chars
  have ends := (List.append_inj' chars (by decide)).2
  revert ends
  decide

/-- Specs and a file that is not named like specs are at different places. -/
theorem specs_ne {above above' : Location} {stem : String} {name : Bytes}
    (plain : hasSuffix (Text.lossy name) ginkgo.convertedSuffix = false) :
    above ++ [Text.utf8 (stem ++ ginkgo.convertedSuffix)] ≠ above' ++ [name] := by
  intro same
  have names := List.head_eq_of_cons_eq (List.append_inj' same (by simp)).2
  rw [← names, Text.lossy_utf8, hasSuffix_append] at plain
  cases plain

theorem specs_ne_suite {above above' : Location} {stem package : String} :
    above ++ [Text.utf8 (stem ++ ginkgo.convertedSuffix)] ≠ above' ++ [suiteName package] :=
  specs_ne (by rw [suiteName, Text.lossy_utf8, hasSuffix_suiteFileName])

theorem eq_of_specsName {name name' : Bytes} {package package' : String}
    (input : ginkgo.isConvertible (Text.lossy name) package = true)
    (input' : ginkgo.isConvertible (Text.lossy name') package' = true) (same : specsName name = specsName name') :
    Text.lossy name = Text.lossy name' := by
  obtain ⟨-, stem, shape, specs⟩ := convertedFileName_of_isConvertible input
  obtain ⟨-, stem', shape', specs'⟩ := convertedFileName_of_isConvertible input'
  have stems := Text.utf8_inj.mp same
  rw [specs, specs', ← String.toList_inj, String.toList_append, String.toList_append] at stems
  rw [shape, shape', String.toList_inj.mp (List.append_cancel_right stems)]

end Conventions

namespace Disk

def IsTest (disk : Disk) (cwd : Location) (path : Bytes) : Prop :=
  ∃ dir name above package bytes, path = Path.join dir name ∧ disk.Leads cwd dir above ∧ Path.IsName name ∧
    Conventions.ginkgo.isConvertible (Text.lossy name) package = true ∧ disk.at? (above ++ [name]) = some (.file bytes)

namespace IsTest

variable {disk : Disk} {cwd : Location} {path other : Bytes} {settings : Settings}

theorem reaches (test : disk.IsTest cwd path) : disk.Reaches cwd path := by
  obtain ⟨dir, name, above, package, bytes, same, leads, isName, -⟩ := test
  exact ⟨dir, name, above, same, leads, isName⟩

theorem isFile (test : disk.IsTest cwd path) : ∃ bytes, disk.at? (lead cwd path) = some (.file bytes) := by
  obtain ⟨dir, name, above, package, bytes, rfl, leads, isName, -, here⟩ := test
  exact ⟨bytes, by rw [leads.lead_join isName, here]⟩

theorem lead_input (test : disk.IsTest cwd path) :
    ∃ above name, lead cwd path = above ++ [name] ∧
      Conventions.hasSuffix (Text.lossy name) Conventions.ginkgo.convertedSuffix = false := by
  obtain ⟨dir, name, above, package, bytes, rfl, leads, isName, input, -⟩ := test
  refine ⟨above, name, leads.lead_join isName, ?_⟩
  simp only [Conventions.isConvertible, Bool.and_eq_true, Bool.not_eq_true'] at input
  exact input.1.1.1.2

section

variable (conventions : settings.conventions = .ginkgo)
include conventions

theorem lead_output (keeps : settings.destructive = false) (test : disk.IsTest cwd path) :
    disk.Reaches cwd (settings.outputPath path) ∧ ∃ above stem,
      lead cwd (settings.outputPath path) = above ++ [Text.utf8 (stem ++ Conventions.ginkgo.convertedSuffix)] := by
  obtain ⟨dir, name, above, package, bytes, rfl, leads, isName, input, -⟩ := test
  obtain ⟨beside, output, leads', isSpecs⟩ := Host.outputPath_of_leads keeps conventions leads isName input
  obtain ⟨-, stem, -, specs⟩ := Conventions.convertedFileName_of_isConvertible input
  rw [output]
  refine ⟨⟨_, _, above, rfl, leads', isSpecs⟩, above, stem, ?_⟩
  rw [leads'.lead_join isSpecs, Conventions.specsName, specs]
  rfl

theorem reaches_output (test : disk.IsTest cwd path) : disk.Reaches cwd (settings.outputPath path) := by
  cases mode : settings.destructive with
  | false => exact (test.lead_output conventions mode).1
  | true =>
    rw [Settings.outputPath, mode, if_pos rfl]
    exact test.reaches

/-- The specs of a file are not written to another test file. -/
theorem lead_output_ne (test : disk.IsTest cwd path) (test' : disk.IsTest cwd other)
    (apart : lead cwd path ≠ lead cwd other) : lead cwd (settings.outputPath path) ≠ lead cwd other := by
  cases mode : settings.destructive with
  | true =>
    rw [Settings.outputPath, mode, if_pos rfl]
    exact apart
  | false =>
    obtain ⟨-, above, stem, output⟩ := test.lead_output conventions mode
    obtain ⟨above', name, input, plain⟩ := test'.lead_input
    rw [output, input]
    exact Conventions.specs_ne plain

end

end IsTest

/-- A test of a package, by its name in the package's directory. -/
structure Holds.Test (disk : Disk) (cwd place : Location) (package : Package) (name : Bytes) : Prop where
  leads : disk.Leads cwd package.dir place
  isName : Path.IsName name
  input : Conventions.ginkgo.isConvertible (Text.lossy name) package.name = true
  isFile : ∃ bytes, disk.at? (place ++ [name]) = some (.file bytes)

theorem Holds.Test.lead_output {disk : Disk} {cwd place : Location} {package : Package} {name : Bytes}
    {settings : Settings} (conventions : settings.conventions = .ginkgo) (keeps : settings.destructive = false)
    (test : Test disk cwd place package name) :
    lead cwd (settings.outputPath (Path.join package.dir name)) = place ++ [Conventions.specsName name] := by
  obtain ⟨beside, output, leads, isSpecs⟩ :=
    Host.outputPath_of_leads keeps conventions test.leads test.isName test.input
  rw [output]
  exact leads.lead_join isSpecs

theorem Holds.test {disk : Disk} {cwd place : Location} {package : Package} (holds : disk.Holds cwd place package)
    {path : Bytes} (here : path ∈ package.testFiles) :
    ∃ name, path = Path.join package.dir name ∧ Test disk cwd place package name := by
  obtain ⟨names, -, listed, each⟩ := holds.tests
  rw [listed] at here
  obtain ⟨name, there, rfl⟩ := List.mem_map.mp here
  obtain ⟨isName, input, isFile⟩ := each name there
  exact ⟨name, rfl, holds.leads, isName, input, isFile⟩

namespace Finds

variable {disk : Disk} {cwd : Location} {area : Location → Prop} {packages : List Package} {first second : Bytes}

theorem test (finds : disk.Finds cwd area packages) (here : first ∈ packages.flatMap (·.testFiles)) :
    disk.IsTest cwd first := by
  obtain ⟨spots, rfl, -, holds⟩ := finds
  obtain ⟨package, there, listed⟩ := List.mem_flatMap.mp here
  obtain ⟨spot, member, rfl⟩ := List.mem_map.mp there
  obtain ⟨name, rfl, test⟩ := (holds spot member).2.test listed
  obtain ⟨bytes, isFile⟩ := test.isFile
  exact ⟨_, name, spot.1, spot.2.name, bytes, rfl, test.leads, test.isName, test.input, isFile⟩

theorem apart (finds : disk.Finds cwd area packages) :
    (packages.flatMap (·.testFiles)).Pairwise fun first second => lead cwd first ≠ lead cwd second := by
  obtain ⟨spots, rfl, distinct, holds⟩ := finds
  refine List.pairwise_flatMap.mpr ⟨fun package here => ?_, ?_⟩
  · obtain ⟨spot, member, rfl⟩ := List.mem_map.mp here
    have holds := (holds spot member).2
    obtain ⟨names, once, listed, each⟩ := holds.tests
    rw [listed]
    refine List.pairwise_map.mpr (once.imp_of_mem fun here there differ => ?_)
    rw [holds.leads.lead_join (each _ here).1, holds.leads.lead_join (each _ there).1]
    simpa using differ
  · refine List.pairwise_map.mpr ((List.pairwise_map.mp distinct).imp_of_mem ?_)
    intro first second here there differ path inFirst other inSecond same
    obtain ⟨name, rfl, test⟩ := (holds first here).2.test inFirst
    obtain ⟨name', rfl, test'⟩ := (holds second there).2.test inSecond
    rw [test.leads.lead_join test.isName, test'.leads.lead_join test'.isName] at same
    exact differ (List.append_inj' same rfl).1

variable {settings : Settings} (conventions : settings.conventions = .ginkgo)
include conventions

/-- The specs of two files go to one place only if the files are of one directory and their names are the same text. -/
theorem eq_of_lead_output (keeps : settings.destructive = false) (finds : disk.Finds cwd area packages)
    (here : first ∈ packages.flatMap (·.testFiles)) (there : second ∈ packages.flatMap (·.testFiles))
    (same : lead cwd (settings.outputPath first) = lead cwd (settings.outputPath second)) :
    Path.parent first = Path.parent second ∧ Package.nameOf first = Package.nameOf second := by
  obtain ⟨spots, rfl, distinct, holds⟩ := finds
  obtain ⟨package, found, listed⟩ := List.mem_flatMap.mp here
  obtain ⟨package', found', listed'⟩ := List.mem_flatMap.mp there
  obtain ⟨spot, member, rfl⟩ := List.mem_map.mp found
  obtain ⟨spot', member', rfl⟩ := List.mem_map.mp found'
  obtain ⟨name, rfl, test⟩ := (holds spot member).2.test listed
  obtain ⟨name', rfl, test'⟩ := (holds spot' member').2.test listed'
  rw [test.lead_output conventions keeps, test'.lead_output conventions keeps] at same
  obtain ⟨places, names⟩ := List.append_inj' same (by simp)
  have one : spot = spot' := List.inj_on_of_nodup_map distinct member member' places
  subst one
  obtain ⟨beside, -, -, parent⟩ := Path.parent_join test.leads.filled
  refine ⟨(parent name test.isName).trans (parent name' test'.isName).symm, ?_⟩
  rw [Package.nameOf_join test.leads.filled test.isName, Package.nameOf_join test'.leads.filled test'.isName]
  exact Conventions.eq_of_specsName test.input test'.input (List.head_eq_of_cons_eq names)

theorem outputPath_congr (finds : disk.Finds cwd area packages) (here : first ∈ packages.flatMap (·.testFiles))
    (there : second ∈ packages.flatMap (·.testFiles)) (keeps : settings.destructive = false)
    (same : Path.parent first = Path.parent second ∧ Package.nameOf first = Package.nameOf second) :
    settings.outputPath first = settings.outputPath second := by
  obtain ⟨dir, name, above, package, bytes, rfl, leads, isName, -⟩ := finds.test here
  obtain ⟨dir', name', above', package', bytes', rfl, leads', isName', -⟩ := finds.test there
  rw [Host.outputPath_join keeps conventions leads.filled isName,
    Host.outputPath_join keeps conventions leads'.filled isName', same.1]
  have texts := same.2
  rw [Package.nameOf_join leads.filled isName, Package.nameOf_join leads'.filled isName'] at texts
  rw [Conventions.specsName, Conventions.specsName, texts]

theorem lead_output_inj (finds : disk.Finds cwd area packages) (here : first ∈ packages.flatMap (·.testFiles))
    (there : second ∈ packages.flatMap (·.testFiles))
    (same : lead cwd (settings.outputPath first) = lead cwd (settings.outputPath second)) :
    settings.outputPath first = settings.outputPath second := by
  cases mode : settings.destructive with
  | true =>
    simp only [Settings.outputPath, mode, if_true] at same ⊢
    exact List.inj_on_of_nodup_map (List.pairwise_map.mpr finds.apart) here there same
  | false =>
    exact finds.outputPath_congr conventions here there mode (finds.eq_of_lead_output conventions mode here there same)

end Finds

end Disk

theorem Disk.at?_putAll {writes : List (Location × DiskNode)} (below : ∀ write ∈ writes, write.1 ≠ []) (disk : Disk)
    (place : Location) : (putAll writes disk).at? place = disk.at? place ∨
      ∃ write ∈ writes, write.1 = place ∧ (putAll writes disk).at? place = some write.2 := by
  induction writes generalizing disk with
  | nil => exact .inl rfl
  | cons write writes ih =>
    have first := below write List.mem_cons_self
    have rest := ih (fun write here => below write (List.mem_cons_of_mem _ here)) (disk.put write.1 write.2)
    change (putAll writes (disk.put write.1 write.2)).at? place = _ ∨ _
    rcases rest with kept | ⟨other, here, same, last⟩
    · rw [at?_put first] at kept
      split at kept
      · rename_i same
        exact .inr ⟨write, List.mem_cons_self, same.symm, kept⟩
      · exact .inl kept
    · exact .inr ⟨other, List.mem_cons_of_mem _ here, same, last⟩

theorem Disk.at?_putAll_of_mem {writes : List (Location × DiskNode)} (distinct : (writes.map (·.1)).Nodup)
    {write : Location × DiskNode} (here : write ∈ writes) (below : write.1 ≠ []) (disk : Disk) :
    (putAll writes disk).at? write.1 = some write.2 := by
  have found : writes.reverse.lookup write.1 = some write.2 := by
    refine (lookup_eq_some_iff ?_).mpr (List.mem_reverse.mpr here)
    rwa [List.map_reverse, List.nodup_reverse]
  rw [at?, if_neg (by simpa using below), lookup_putAll, found, Option.some_or]

namespace Host

def Converts (host : Host) (settings : Settings) (disk : Disk) (path : Bytes) (write : Location × DiskNode) : Prop :=
  disk.target host.cwd (settings.outputPath path) = .ok write.1 ∧ disk.at? write.1 ≠ some .dir ∧
    ∃ written bytes, write.2 = .file bytes ∧
      Ends (host.convertFile settings path) disk (.ok written) (disk.put write.1 write.2)

def Leaves (host : Host) (settings : Settings) (disk : Disk) : Except Error (List Written) → List Bytes → Prop
  | .ok _, rest => rest = []
  | .error error, rest => ∃ path more, rest = path :: more ∧
    Ends (host.convertFile settings path) disk (.error error) disk

variable {host : Host} {settings : Settings} {base disk after : Disk} {files : List Bytes}

/-- Files are converted as each would be alone, up to the first that fails. -/
theorem ends_mapM_convertFile (conventions : settings.conventions = .ginkgo)
    (tests : ∀ path ∈ files, base.IsTest host.cwd path)
    (apart : files.Pairwise fun first second => lead host.cwd first ≠ lead host.cwd second)
    (dirs : SameDirs base disk)
    (same : ∀ path ∈ files, disk.at? (lead host.cwd path) = base.at? (lead host.cwd path))
    {outcome : Except Error (List Written)} (ends : Ends (files.mapM (host.convertFile settings)) disk outcome after) :
    ∃ done rest writes, files = done ++ rest ∧ List.Forall₂ (host.Converts settings base) done writes ∧
      after = putAll writes disk ∧ host.Leaves settings base outcome rest := by
  induction files generalizing disk outcome with
  | nil =>
    obtain ⟨rfl, rfl⟩ := ends_pure.mp ends
    exact ⟨[], [], [], rfl, .nil, rfl, rfl⟩
  | cons path files ih =>
    have test := tests path List.mem_cons_self
    have output := test.reaches_output conventions
    rw [List.pairwise_cons] at apart
    rw [List.mapM_cons] at ends
    rcases convertFile_alike test.reaches output dirs (same path List.mem_cons_self) with
      ⟨error, alone, here⟩ | ⟨written, bytes, target, free, alone, here⟩
    · have failed : Ends ((host.convertFile settings path) >>= fun written => do
          let others ← files.mapM (host.convertFile settings)
          return written :: others) disk (.error error) disk := ends_bind.mpr (.inl ⟨error, rfl, here⟩)
      obtain ⟨rfl, rfl⟩ := Prod.mk.inj (failed.symm.trans ends)
      exact ⟨[], path :: files, [], rfl, .nil, rfl, path, files, rfl, alone⟩
    · rcases ends_bind.mp ends with ⟨error, -, failed⟩ | ⟨written', between, found, rest⟩
      · cases failed.symm.trans here
      · obtain ⟨-, rfl⟩ := Prod.mk.inj (found.symm.trans here)
        have dirs' := dirs.put output.lead_ne_nil free bytes
        -- The specs lie beside all files that are still to come.
        have same' : ∀ other ∈ files, (disk.put (lead host.cwd (settings.outputPath path)) (.file bytes)).at?
            (lead host.cwd other) = base.at? (lead host.cwd other) := by
          intro other there
          have test' := tests other (List.mem_cons_of_mem _ there)
          have beside := test.lead_output_ne conventions test' (apart.1 other there)
          rw [at?_put output.lead_ne_nil, if_neg beside.symm, same other (List.mem_cons_of_mem _ there)]
        have first : host.Converts settings base path (lead host.cwd (settings.outputPath path), .file bytes) :=
          ⟨target, free, written, bytes, rfl, alone⟩
        have later : ∃ outcome', Ends (files.mapM (host.convertFile settings))
            (disk.put (lead host.cwd (settings.outputPath path)) (.file bytes)) outcome' after ∧
            ∀ rest, host.Leaves settings base outcome' rest → host.Leaves settings base outcome rest := by
          rcases ends_bind.mp rest with ⟨error, rfl, failed⟩ | ⟨others, _, more, ended⟩
          · exact ⟨_, failed, fun _ left => left⟩
          · obtain ⟨rfl, rfl⟩ := ends_pure.mp ended
            exact ⟨_, more, fun _ left => left⟩
        obtain ⟨outcome', ends', leaves⟩ := later
        obtain ⟨done, left, writes, rfl, converted, rfl, stop⟩ :=
          ih (fun other there => tests other (List.mem_cons_of_mem _ there)) apart.2 dirs' same' ends'
        exact ⟨path :: done, left, _ :: writes, rfl, .cons first converted, rfl, leaves left stop⟩

theorem exists_of_mem_writes {done : List Bytes} {writes : List (Location × DiskNode)}
    (converted : List.Forall₂ (host.Converts settings disk) done writes) {write : Location × DiskNode}
    (here : write ∈ writes) : ∃ path ∈ done, host.Converts settings disk path write := by
  induction converted with
  | nil => cases here
  | @cons path _ done _ first _ ih =>
    rcases List.mem_cons.mp here with rfl | here
    · exact ⟨path, List.mem_cons_self, first⟩
    · obtain ⟨other, there, converts⟩ := ih here
      exact ⟨other, List.mem_cons_of_mem _ there, converts⟩

end Host

end GoSpecs
