import GoSpecs.Proofs.Workspace.Outputs

namespace GoSpecs

open Disk Job

namespace Host

def Untouched (host : Host) (settings : Settings) (before after : Disk) (path : Bytes) : Prop :=
  after.locate host.cwd path = before.locate host.cwd path ∧
    after.locate host.cwd (settings.outputPath path) = before.locate host.cwd (settings.outputPath path)

variable {host : Host} {settings : Settings} {base disk after : Disk} {path : Bytes}
  {packages : List Package}

theorem lead_suite {area : Location → Prop} (finds : base.Finds host.cwd area packages) {package : Package}
    (here : package ∈ packages) : base.Reaches host.cwd (Suite.path .ginkgo package.dir package.name) ∧
      ∃ above, lead host.cwd (Suite.path .ginkgo package.dir package.name) =
        above ++ [Conventions.suiteName package.name] := by
  obtain ⟨spots, rfl, -, holds⟩ := finds
  obtain ⟨spot, member, rfl⟩ := List.mem_map.mp here
  obtain ⟨-, holds⟩ := holds spot member
  exact ⟨⟨_, _, spot.1, rfl, holds.leads, holds.suite⟩, spot.1, holds.leads.lead_join holds.suite⟩

theorem at?_of_specs {area : Location → Prop} (finds : base.Finds host.cwd area packages)
    (gains : Gains host.cwd packages base disk) (above : Location) (stem : String) :
    disk.at? (above ++ [Text.utf8 (stem ++ Conventions.ginkgo.convertedSuffix)]) =
      base.at? (above ++ [Text.utf8 (stem ++ Conventions.ginkgo.convertedSuffix)]) := by
  cases found : base.at? (above ++ [Text.utf8 (stem ++ Conventions.ginkgo.convertedSuffix)]) with
  | some node => rw [gains.kept _ (by rw [found]; rfl), found]
  | none =>
    rcases gains.added _ found with none | ⟨package, here, target, -⟩
    · exact none
    · obtain ⟨reaches, above', place⟩ := lead_suite finds here
      have same := reaches.eq_lead target
      rw [place] at same
      exact (Conventions.specs_ne_suite same).elim

theorem at?_of_gains (conventions : settings.conventions = .ginkgo) {area : Location → Prop}
    (finds : base.Finds host.cwd area packages) (gains : Gains host.cwd packages base disk)
    (test : base.IsTest host.cwd path) :
    disk.at? (lead host.cwd path) = base.at? (lead host.cwd path) ∧
      disk.at? (lead host.cwd (settings.outputPath path)) = base.at? (lead host.cwd (settings.outputPath path)) := by
  obtain ⟨bytes, here⟩ := test.isFile
  have input : disk.at? (lead host.cwd path) = base.at? (lead host.cwd path) := gains.kept _ (by rw [here]; rfl)
  refine ⟨input, ?_⟩
  cases mode : settings.destructive with
  | true =>
    rw [Settings.outputPath, mode, if_pos rfl]
    exact input
  | false =>
    obtain ⟨-, above, stem, output⟩ := test.lead_output conventions mode
    rw [output]
    exact at?_of_specs finds gains above stem

theorem untouched_of_at? (conventions : settings.conventions = .ginkgo) (dirs : SameDirs base disk)
    (test : base.IsTest host.cwd path)
    (same : disk.at? (lead host.cwd path) = base.at? (lead host.cwd path) ∧
      disk.at? (lead host.cwd (settings.outputPath path)) = base.at? (lead host.cwd (settings.outputPath path))) :
    host.Untouched settings base disk path :=
  ⟨test.reaches.locate_eq dirs same.1, (test.reaches_output conventions).locate_eq dirs same.2⟩

section

variable {done : List Bytes} {writes : List (Location × DiskNode)}
  (conventions : settings.conventions = .ginkgo) (tests : ∀ path ∈ done, base.IsTest host.cwd path)
  (converted : List.Forall₂ (host.Converts settings base) done writes)
include conventions tests converted

theorem place_of_mem_writes {write : Location × DiskNode} (here : write ∈ writes) :
    ∃ path ∈ done, write.1 = lead host.cwd (settings.outputPath path) ∧ host.Converts settings base path write := by
  obtain ⟨path, there, converts⟩ := exists_of_mem_writes converted here
  exact ⟨path, there, ((tests path there).reaches_output conventions).eq_lead converts.1, converts⟩

theorem at?_after_writes (disk : Disk) (place : Location) :
    (putAll writes disk).at? place = disk.at? place ∨ ∃ path ∈ done,
      place = lead host.cwd (settings.outputPath path) ∧
        base.target host.cwd (settings.outputPath path) = .ok place ∧ base.at? place ≠ some .dir ∧
        ∃ bytes, (putAll writes disk).at? place = some (.file bytes) := by
  have below : ∀ write ∈ writes, write.1 ≠ [] := by
    intro write here
    obtain ⟨path, there, same, -⟩ := place_of_mem_writes conventions tests converted here
    rw [same]
    exact ((tests path there).reaches_output conventions).lead_ne_nil
  rcases at?_putAll below disk place with kept | ⟨write, here, rfl, last⟩
  · exact .inl kept
  · obtain ⟨path, there, same, target, free, -, bytes, isFile, -⟩ :=
      place_of_mem_writes conventions tests converted here
    exact .inr ⟨path, there, same, target, free, bytes, by rw [last, isFile]⟩

theorem sameDirs_of_writes (dirs : SameDirs base disk) : SameDirs base (putAll writes disk) := by
  intro place
  rcases at?_after_writes conventions tests converted disk place with kept | ⟨path, -, -, -, free, bytes, isFile⟩
  · rw [kept]
    exact dirs place
  · rw [isFile]
    simp [free]

theorem at?_of_left (disk : Disk) {place : Location}
    (apart : ∀ path ∈ done, lead host.cwd (settings.outputPath path) ≠ place) :
    (putAll writes disk).at? place = disk.at? place := by
  rcases at?_after_writes conventions tests converted disk place with kept | ⟨path, there, same, -⟩
  · exact kept
  · exact (apart path there same.symm).elim

theorem places_of_writes :
    writes.map (·.1) = done.map fun path => lead host.cwd (settings.outputPath path) := by
  induction converted with
  | nil => rfl
  | @cons path write done writes first _ ih =>
    have place := ((tests path List.mem_cons_self).reaches_output conventions).eq_lead first.1
    rw [List.map_cons, List.map_cons, place, ih fun path here => tests path (List.mem_cons_of_mem _ here)]

end

section

variable {id : String} {outcome : Except Error (List Written)} (maker : settings.maker = .template)
  (conventions : settings.conventions = .ginkgo) (proper : disk.Proper)
include maker conventions proper

theorem ends_convertPackage (ends : Ends (host.convertPackage settings id) disk outcome after) :
    (∃ error, outcome = .error error ∧ Ends (Package.search host settings id) disk (.error error) after) ∨
      ∃ done rest between writes, Yields (Package.search host settings id) disk (done ++ rest) between ∧
        List.Forall₂ (host.Converts settings disk) done writes ∧ after = putAll writes between ∧
        host.Leaves settings disk outcome rest := by
  rw [Package.convertPackage_eq_search] at ends
  rcases ends_bind.mp ends with ⟨error, failed, search⟩ | ⟨files, between, found, converting⟩
  · exact .inl ⟨error, failed, search⟩
  · have toured := Package.toured_search maker conventions proper found
    have tests : ∀ path ∈ files, disk.IsTest host.cwd path := fun path here =>
      toured.finds.test (Package.files_eq_walked found ▸ here)
    have apart := toured.finds.apart
    rw [← Package.files_eq_walked found] at apart
    have same : ∀ path ∈ files, between.at? (lead host.cwd path) = disk.at? (lead host.cwd path) := fun path here =>
      (at?_of_gains conventions toured.finds toured.gains (tests path here)).1
    obtain ⟨done, rest, writes, rfl, converted, written, leaves⟩ :=
      ends_mapM_convertFile conventions tests apart toured.gains.sameDirs same converting
    exact .inr ⟨done, rest, between, writes, found, converted, written, leaves⟩

end

/-- A run that fails stops between two files. If it fails while it searches, no file has been converted. If it fails
on a file, those before it have been converted as each is alone, and neither that file nor a later one is touched. If
no two files have one output path, all that was written is still there, and no output of that file or a later one is
touched. A file that cannot be converted leaves no trace itself. -/
theorem convertPackage_stops_between_files (maker : settings.maker = .template)
    (conventions : settings.conventions = .ginkgo) (proper : disk.Proper) :
    (∀ path error after, (host.convertFile settings path).run.run disk = (.error error, after) → after = disk) ∧
    ∀ id error after, (host.convertPackage settings id).run.run disk = (.error error, after) →
      ((Package.search host settings id).run.run disk = (.error error, after) ∧
        Gains host.cwd (Package.walked host settings id disk) disk after ∧
        ∀ path ∈ (Package.walked host settings id disk).flatMap (·.testFiles),
          host.Untouched settings disk after path) ∨
      ∃ done path rest between writes,
        (Package.search host settings id).run.run disk = (.ok (done ++ path :: rest), between) ∧
        Gains host.cwd (Package.walked host settings id disk) disk between ∧
        List.Forall₂ (host.Converts settings disk) done writes ∧ after = putAll writes between ∧
        (host.convertFile settings path).run.run disk = (.error error, disk) ∧
        (∀ later ∈ path :: rest, after.locate host.cwd later = disk.locate host.cwd later) ∧
        (((done ++ path :: rest).map settings.outputPath).Nodup →
          (∀ write ∈ writes, after.at? write.1 = some write.2) ∧
          ∀ later ∈ path :: rest, host.Untouched settings disk after later) := by
  refine ⟨fun path error after failed => eq_of_convertFile_error failed, ?_⟩
  intro id error after failed
  rcases ends_convertPackage maker conventions proper failed with
    ⟨error', same, search⟩ | ⟨done, rest, between, writes, found, converted, rfl, leaves⟩
  · cases same
    have toured := Package.toured_search maker conventions proper search
    refine .inl ⟨search, toured.gains, fun path here => ?_⟩
    have test := toured.finds.test here
    exact untouched_of_at? conventions toured.gains.sameDirs test
      (at?_of_gains conventions toured.finds toured.gains test)
  · obtain ⟨path, more, rfl, alone⟩ := leaves
    have toured := Package.toured_search maker conventions proper found
    have walked := Package.files_eq_walked found
    have tests : ∀ file ∈ done ++ path :: more, disk.IsTest host.cwd file := fun file here =>
      toured.finds.test (walked ▸ here)
    have apart := toured.finds.apart
    rw [← walked] at apart
    have before : ∀ path ∈ done, disk.IsTest host.cwd path := fun path here => tests path (List.mem_append_left _ here)
    have dirs := sameDirs_of_writes conventions before converted toured.gains.sameDirs
    have input : ∀ later ∈ path :: more,
        (putAll writes between).at? (lead host.cwd later) = disk.at? (lead host.cwd later) := by
      intro later here
      have test := tests later (List.mem_append_right _ here)
      rw [at?_of_left conventions before converted between fun other there =>
        (before other there).lead_output_ne conventions test
          ((List.pairwise_append.mp apart).2.2 other there later here)]
      exact (at?_of_gains conventions toured.finds toured.gains test).1
    refine .inr ⟨done, path, more, between, writes, found, toured.gains, converted, rfl, alone, ?_, ?_⟩
    · intro later here
      exact (tests later (List.mem_append_right _ here)).reaches.locate_eq dirs (input later here)
    · intro distinct
      have outputs : ((done ++ path :: more).map fun file => lead host.cwd (settings.outputPath file)).Nodup := by
        refine List.pairwise_map.mpr ((List.pairwise_map.mp distinct).imp_of_mem fun here there differ same => ?_)
        rw [walked] at here there
        exact differ (toured.finds.lead_output_inj conventions here there same)
      rw [List.map_append, List.nodup_append] at outputs
      refine ⟨fun write here => ?_, fun later here => ?_⟩
      · obtain ⟨file, there, place, -⟩ := place_of_mem_writes conventions before converted here
        refine at?_putAll_of_mem ?_ here ?_ between
        · rw [places_of_writes conventions before converted]
          exact outputs.1
        · rw [place]
          exact ((before file there).reaches_output conventions).lead_ne_nil
      · have test := tests later (List.mem_append_right _ here)
        refine untouched_of_at? conventions dirs test ⟨input later here, ?_⟩
        rw [at?_of_left conventions before converted between fun other there =>
          outputs.2.2 _ (List.mem_map_of_mem there) _ (List.mem_map_of_mem here)]
        exact (at?_of_gains conventions toured.finds toured.gains test).2

/-- What a run that keeps the tests may do to the disk: it writes specs and suites, to paths beside its inputs. The
specs of two files have one path if the files are of one directory and their names are the same text. -/
structure KeepsInputs (host : Host) (settings : Settings) (before after : Disk) (packages : List Package) : Prop where
  files : ∀ dir name bytes, before.at? (dir ++ [name]) = some (.file bytes) →
    ¬Text.utf8 Conventions.ginkgo.convertedSuffix <:+ name → after.at? (dir ++ [name]) = some (.file bytes)
  changes : ∀ place, after.at? place ≠ before.at? place → (∃ bytes, after.at? place = some (.file bytes)) ∧
    ((∃ path ∈ packages.flatMap (·.testFiles), before.target host.cwd (settings.outputPath path) = .ok place) ∨
      ∃ package ∈ packages, before.target host.cwd (Suite.path .ginkgo package.dir package.name) = .ok place ∧
        before.exists? host.cwd (Suite.path .ginkgo package.dir package.name) = false)
  outputs : ∀ first ∈ packages.flatMap (·.testFiles), ∀ second ∈ packages.flatMap (·.testFiles),
    Path.components (settings.outputPath first) = Path.components (settings.outputPath second) ↔
      Path.parent first = Path.parent second ∧ Package.nameOf first = Package.nameOf second
  beside : ∀ path ∈ packages.flatMap (·.testFiles),
    (∀ other ∈ packages.flatMap (·.testFiles), Path.components (settings.outputPath path) ≠ Path.components other) ∧
      ∀ package ∈ packages, Path.components (settings.outputPath path) ≠
        Path.components (Suite.path .ginkgo package.dir package.name)

section

variable (conventions : settings.conventions = .ginkgo) {area : Location → Prop}
  (finds : base.Finds host.cwd area packages) (keeps : settings.destructive = false)
include conventions finds keeps

theorem components_output_ne_input {first second : Bytes} (here : first ∈ packages.flatMap (·.testFiles))
    (there : second ∈ packages.flatMap (·.testFiles)) :
    Path.components (settings.outputPath first) ≠ Path.components second := by
  obtain ⟨-, above, stem, output⟩ := (finds.test here).lead_output conventions keeps
  obtain ⟨above', name, input, plain⟩ := (finds.test there).lead_input
  intro same
  have places := lead_of_components host.cwd same
  rw [output, input] at places
  exact Conventions.specs_ne plain places

theorem components_output_ne_suite {path : Bytes} (here : path ∈ packages.flatMap (·.testFiles)) {package : Package}
    (there : package ∈ packages) :
    Path.components (settings.outputPath path) ≠ Path.components (Suite.path .ginkgo package.dir package.name) := by
  obtain ⟨-, above, stem, output⟩ := (finds.test here).lead_output conventions keeps
  obtain ⟨-, above', place⟩ := lead_suite finds there
  intro same
  have places := lead_of_components host.cwd same
  rw [output, place] at places
  exact Conventions.specs_ne_suite places

end

/-- Runs that keep the tests touch no input, whether they succeed or fail. -/
theorem convertPackage_keeps_inputs {id : String} {outcome : Except Error (List Written)}
    (keeps : settings.destructive = false) (maker : settings.maker = .template)
    (conventions : settings.conventions = .ginkgo) (proper : disk.Proper)
    (run : (host.convertPackage settings id).run.run disk = (outcome, after)) :
    host.KeepsInputs settings disk after (Package.walked host settings id disk) := by
  -- Both ways a run can end are a search and some writes, none where the search fails.
  have parts : ∃ done between writes, Toured host.cwd disk disk between (fun _ => True) []
      (Package.walked host settings id disk) ∧ done ⊆ (Package.walked host settings id disk).flatMap (·.testFiles) ∧
      List.Forall₂ (host.Converts settings disk) done writes ∧ after = putAll writes between := by
    rcases ends_convertPackage maker conventions proper run with
      ⟨error, -, search⟩ | ⟨done, rest, between, writes, found, converted, written, -⟩
    · exact ⟨[], after, [], Package.toured_search maker conventions proper search, List.nil_subset _, .nil, rfl⟩
    · refine ⟨done, between, writes, Package.toured_search maker conventions proper found, ?_, converted, written⟩
      rw [← Package.files_eq_walked found]
      exact List.subset_append_left done rest
  obtain ⟨done, between, writes, toured, walked, converted, rfl⟩ := parts
  have finds := toured.finds
  have gains := toured.gains
  rw [List.nil_append] at gains
  have tests : ∀ path ∈ done, disk.IsTest host.cwd path := fun path here => finds.test (walked here)
  have written := at?_after_writes conventions tests converted between
  refine ⟨?files, ?changes, ?outputs, ?beside⟩
  case files =>
    intro dir name bytes here plain
    have kept := gains.kept _ (by rw [here]; rfl)
    rcases written (dir ++ [name]) with same | ⟨path, there, place, -⟩
    · rw [same, kept, here]
    · obtain ⟨-, above, stem, output⟩ := (tests path there).lead_output conventions keeps
      rw [output] at place
      have names := List.head_eq_of_cons_eq (List.append_inj' place (by simp)).2
      rw [names, Text.utf8_append] at plain
      exact (plain (List.suffix_append _ _)).elim
  case changes =>
    intro place changed
    rcases written place with same | ⟨path, there, -, target, -, isFile⟩
    · rw [same] at changed ⊢
      cases before : disk.at? place with
      | some node => exact (changed (gains.kept place (by rw [before]; rfl))).elim
      | none =>
        rcases gains.added place before with none | ⟨package, here, target, suite⟩
        · exact (changed (none.trans before.symm)).elim
        · have absent := (lead_suite finds here).1.exists?_eq_false target before
          exact ⟨⟨_, suite⟩, .inr ⟨package, here, target, absent⟩⟩
    · exact ⟨isFile, .inl ⟨path, walked there, target⟩⟩
  case outputs =>
    intro first here second there
    constructor
    · intro same
      exact finds.eq_of_lead_output conventions keeps here there (lead_of_components host.cwd same)
    · intro same
      rw [finds.outputPath_congr conventions here there keeps same]
  case beside =>
    intro path here
    exact ⟨fun other there => components_output_ne_input conventions finds keeps here there,
      fun package there => components_output_ne_suite conventions finds keeps here there⟩

end Host

open OneDir

theorem OneDir.yields_search {files : List (Bytes × String)} {settings : Settings} {package : Package}
    (conventions : settings.conventions = .ginkgo) (quiet : settings.createSuite = false)
    (surveyed : Yields (Package.survey host .ginkgo dir) (disk files) (some package, []) (disk files)) :
    Yields (Package.search host settings "p") (disk files) package.testFiles (disk files) := by
  have provided : Yields (Package.provide host settings (some package)) (disk files) () (disk files) := by
    rw [Package.provide, quiet]
    exact yields_pure.mpr ⟨rfl, rfl⟩
  refine yields_bind.mpr ⟨_, _, yields_resolve files, ?_⟩
  rw [Package.walk, Package.walkTo_succ, conventions]
  refine yields_bind.mpr ⟨_, _, surveyed, yields_bind.mpr ⟨[], _, yields_pure.mpr ⟨rfl, rfl⟩, ?_⟩⟩
  exact yields_bind.mpr ⟨(), _, provided, yields_pure.mpr ⟨by simp, rfl⟩⟩

theorem OneDir.walked_eq {files : List (Bytes × String)} {settings : Settings} {package : Package}
    (conventions : settings.conventions = .ginkgo)
    (surveyed : Yields (Package.survey host .ginkgo dir) (disk files) (some package, []) (disk files)) :
    Package.walked host settings "p" (disk files) = [package] := by
  rw [← conventions] at surveyed
  rw [Package.walked, yields_resolve]
  dsimp only
  rw [Package.walkedTo_of_ok surveyed]
  rfl

theorem OneTest.convertPackage_keeps_test : ∃ after,
    (host.convertPackage settings "p").run.run (disk (files source false)) =
        (.ok [⟨path (Text.utf8 "b_ginkgo_test.go"), 1⟩], after) ∧
      host.KeepsInputs settings (disk (files source false)) after
        [⟨dir, "p", [path (Text.utf8 "b_test.go")]⟩] := by
  obtain ⟨file, out, parsed, converted⟩ := convert_test
  have once := yields_convertPackage source false parsed converted
  have kept := Host.convertPackage_keeps_inputs rfl rfl rfl (proper_disk (listed_files source false)) once
  rw [walked_eq rfl (yields_survey source false)] at kept
  exact ⟨_, once, kept⟩

namespace SameText

def first : Bytes :=
  [0x61, 0xfe] ++ Text.utf8 "_test.go"

def second : Bytes :=
  [0x61, 0xff] ++ Text.utf8 "_test.go"

def specs : Bytes :=
  Text.utf8 "a\ufffd_ginkgo_test.go"

def files : List (Bytes × String) :=
  [(first, OneTest.test), (second, OneTest.test)]

def settings : Settings :=
  ⟨false, false, .template, .ginkgo⟩

theorem yields_survey : Yields (Package.survey host .ginkgo dir) (disk files)
    (some ⟨dir, "p", [path first, path second]⟩, []) (disk files) :=
  OneDir.yields_survey (by decide) (by decide : _ = some (path first)) rfl OneTest.packageNameOf_texts.2 (by decide)

theorem outputPath_eq :
    settings.outputPath (path first) = path specs ∧ settings.outputPath (path second) = path specs := by
  decide

/-- Two files whose names are the same text are both converted, and the specs of the second replace those of the
first. -/
theorem convertPackage_overwrites : ∃ after,
    Package.walked host settings "p" (disk files) = [⟨dir, "p", [path first, path second]⟩] ∧
      path first ≠ path second ∧ settings.outputPath (path first) = settings.outputPath (path second) ∧
      (host.convertPackage settings "p").run.run (disk files) = (.ok [⟨path specs, 1⟩, ⟨path specs, 1⟩], after) := by
  obtain ⟨file, out, parsed, converted⟩ := OneTest.convert_test
  have one : Yields (host.convertFile settings (path first)) (disk files) ⟨path specs, 1⟩
      (disk (write specs out.render files)) :=
    OneTest.yields_convertFile rfl (by decide) rfl outputPath_eq.1 parsed converted
  have two : Yields (host.convertFile settings (path second)) (disk (write specs out.render files)) ⟨path specs, 1⟩
      (disk (write specs out.render (write specs out.render files))) :=
    OneTest.yields_convertFile rfl (by decide) rfl outputPath_eq.2 parsed converted
  refine ⟨disk (write specs out.render (write specs out.render files)), walked_eq rfl yields_survey, by decide,
    outputPath_eq.1.trans outputPath_eq.2.symm, ?_⟩
  rw [Package.convertPackage_eq_search]
  exact yields_bind.mpr ⟨_, _, yields_search rfl rfl yields_survey, yields_mapM_cons.mpr ⟨_, _, _, one,
    yields_mapM_cons.mpr ⟨_, _, [], two, yields_pure.mpr ⟨rfl, rfl⟩, rfl⟩, rfl⟩⟩

end SameText

namespace BrokenTest

def broken : String :=
  "package p\n\nfunc\n"

theorem ends_convertFile {settings : Settings} {others : List (Bytes × String)} {name : Bytes}
    (isName : isName name = true) (here : others.lookup name = some broken) :
    ∃ error, Ends (host.convertFile settings (path name)) (disk others) (.error error) (disk others) := by
  cases run : (host.convertFile settings (path name)).run.run (disk others) with
  | mk outcome after =>
    cases outcome with
    | error error => exact ⟨error, run.trans (by rw [Host.eq_of_convertFile_error run])⟩
    | ok written =>
      obtain ⟨text, file, out, read, parsed, -⟩ := Host.yields_convertFile.mp run
      obtain rfl : broken = text := Except.ok.inj ((readText_disk isName here).symm.trans read)
      have refused : (SourceFile.ofText broken).toOption.isNone = true := by decide +kernel
      rw [parsed] at refused
      cases refused

theorem ends_convertPackage {settings : Settings} {others : List (Bytes × String)} {first second : Bytes}
    {rest : List Bytes} {written : Written} {between : Disk} {error : Error}
    (found : Yields (Package.search host settings "p") (disk others) (first :: second :: rest) (disk others))
    (one : Yields (host.convertFile settings first) (disk others) written between)
    (two : Ends (host.convertFile settings second) between (.error error) between) :
    Ends (host.convertPackage settings "p") (disk others) (.error error) between := by
  rw [Package.convertPackage_eq_search]
  refine ends_bind.mpr (.inr ⟨_, _, found, ?_⟩)
  simp only [List.mapM_cons]
  exact ends_bind.mpr (.inr ⟨_, _, one, ends_bind.mpr (.inl ⟨error, rfl, ends_bind.mpr (.inl ⟨error, rfl, two⟩)⟩)⟩)

def files : List (Bytes × String) :=
  [(Text.utf8 "a_test.go", OneTest.test), (Text.utf8 "b_test.go", broken)]

def settings : Settings :=
  ⟨true, false, .template, .ginkgo⟩

theorem yields_search : Yields (Package.search host settings "p") (disk files)
    [path (Text.utf8 "a_test.go"), path (Text.utf8 "b_test.go")] (disk files) := by
  have isPackage : package files "p" = ⟨dir, "p", [path (Text.utf8 "a_test.go"), path (Text.utf8 "b_test.go")]⟩ := by
    decide
  have naming : Package.namingFile? .ginkgo (sources files) = some (path (Text.utf8 "a_test.go")) := by decide
  exact OneDir.yields_search rfl rfl
    (OneDir.yields_survey (by decide) naming rfl OneTest.packageNameOf_texts.2 isPackage)

theorem convertPackage_stops : ∃ error after writes,
    (host.convertPackage settings "p").run.run (disk files) = (.error error, after) ∧
      List.Forall₂ (host.Converts settings (disk files)) [path (Text.utf8 "a_test.go")] writes ∧
      after = putAll writes (disk files) ∧ (∀ write ∈ writes, after.at? write.1 = some write.2) ∧
      host.Untouched settings (disk files) after (path (Text.utf8 "b_test.go")) := by
  obtain ⟨file, out, parsed, converted⟩ := OneTest.convert_test
  have one : Yields (host.convertFile settings (path (Text.utf8 "a_test.go"))) (disk files)
      ⟨path (Text.utf8 "a_test.go"), 1⟩ (disk (write (Text.utf8 "a_test.go") out.render files)) :=
    OneTest.yields_convertFile rfl (by decide) rfl (by decide) parsed converted
  obtain ⟨error, two⟩ := @ends_convertFile settings (write (Text.utf8 "a_test.go") out.render files)
    (Text.utf8 "b_test.go") (by decide) rfl
  have run := ends_convertPackage yields_search one two
  have proper := proper_disk (by decide : areListed (files.map (·.1)) = true)
  rcases (Host.convertPackage_stops_between_files rfl rfl proper).2 "p" error _ run with
    ⟨impossible, -⟩ | ⟨done, path, rest, between, writes, found, -, converted, after, alone, -, clear⟩
  · cases impossible.symm.trans yields_search
  · obtain ⟨same, rfl⟩ := Prod.mk.inj (found.symm.trans yields_search)
    have files := Except.ok.inj same
    -- The first file can be converted, so it is the second one that fails.
    cases done with
    | nil =>
      obtain rfl := (List.cons.inj files).1
      cases alone.symm.trans one
    | cons first done =>
      obtain ⟨rfl, others⟩ := List.cons.inj files
      cases done with
      | nil =>
        obtain ⟨rfl, rfl⟩ := List.cons.inj others
        obtain ⟨stays, untouched⟩ := clear (by decide)
        exact ⟨error, _, writes, run, converted, after, stays, untouched _ List.mem_cons_self⟩
      | cons second done => simp at others

end BrokenTest

namespace BrokenBetween

open BrokenTest

def first : Bytes :=
  [0x78, 0xfe] ++ Text.utf8 "_test.go"

def second : Bytes :=
  [0x78, 0xfe] ++ Text.utf8 "~_test.go"

def third : Bytes :=
  [0x78, 0xff] ++ Text.utf8 "_test.go"

def specs : Bytes :=
  Text.utf8 "x\ufffd_ginkgo_test.go"

def files : List (Bytes × String) :=
  [(first, OneTest.test), (second, broken), (third, OneTest.test)]

theorem yields_search : Yields (Package.search host SameText.settings "p") (disk files)
    [path first, path second, path third] (disk files) := by
  have isPackage : package files "p" = ⟨dir, "p", [path first, path second, path third]⟩ := by decide
  exact OneDir.yields_search rfl rfl (OneDir.yields_survey (by decide) (by decide : _ = some (path first)) rfl
    OneTest.packageNameOf_texts.2 isPackage)

/-- A run that fails on the second file has written to the output path of the third. -/
theorem convertPackage_touches_later : ∃ error error' after,
    (Package.search host SameText.settings "p").run.run (disk files) =
        (.ok [path first, path second, path third], disk files) ∧
      (host.convertFile SameText.settings (path second)).run.run (disk files) = (.error error, disk files) ∧
      (host.convertPackage SameText.settings "p").run.run (disk files) = (.error error', after) ∧
      ¬host.Untouched SameText.settings (disk files) after (path third) := by
  obtain ⟨file, out, parsed, converted⟩ := OneTest.convert_test
  obtain ⟨error, alone⟩ := @ends_convertFile SameText.settings files second (by decide) rfl
  have one : Yields (host.convertFile SameText.settings (path first)) (disk files) ⟨path specs, 1⟩
      (disk (write specs out.render files)) :=
    OneTest.yields_convertFile rfl (by decide) rfl (by decide) parsed converted
  obtain ⟨error', two⟩ := @ends_convertFile SameText.settings (write specs out.render files) second (by decide) rfl
  refine ⟨error, error', _, yields_search, alone, ends_convertPackage yields_search one two, ?_⟩
  rintro ⟨-, same⟩
  have output : SameText.settings.outputPath (path third) = path specs := by decide
  have same : (disk (write specs out.render files)).locate [] (path specs) = (disk files).locate [] (path specs) :=
    output ▸ same
  have present := @exists?_disk (write specs out.render files) specs (by decide)
  rw [Disk.exists?, same, ← Disk.exists?, exists?_disk (by decide)] at present
  cases present

end BrokenBetween

end GoSpecs
