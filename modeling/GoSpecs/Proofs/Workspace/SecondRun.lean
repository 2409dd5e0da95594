import GoSpecs.Proofs.Workspace.OneDir

namespace GoSpecs

open Disk Job

namespace Conventions

theorem convertedFileName_of_isConvertible {name package : String} (input : ginkgo.isConvertible name package = true) :
    hasSuffix name ".go" = true ∧
      ∃ stem, name = stem ++ "_test.go" ∧ ginkgo.convertedFileName name = stem ++ "_ginkgo_test.go" := by
  have test : hasSuffix name "_test.go" = true := by
    simp only [isConvertible, Bool.and_eq_true] at input
    exact input.1.1.1.1
  obtain ⟨stem, rfl⟩ := hasSuffix_iff.mp test
  refine ⟨hasSuffix_iff.mpr ⟨stem ++ "_test", by rw [String.append_assoc]; rfl⟩, stem, rfl, ?_⟩
  have dropped : dropSuffix? (stem ++ "_test.go") ginkgo.testSuffix = some stem := dropSuffix?_append stem "_test.go"
  rw [convertedFileName, dropped]
  rfl

theorem isName_specsName {name : Bytes} {package : String} (isName : Path.IsName name)
    (input : ginkgo.isConvertible (Text.lossy name) package = true) : Path.IsName (specsName name) := by
  obtain ⟨-, stem, shape, specs⟩ := convertedFileName_of_isConvertible input
  rw [specsName, specs]
  refine isName_append ?_ (by simp) (by decide)
  intro here
  exact isName.segment.not_mem_lossy (by simp [shape, here])

end Conventions

theorem SourceFile.convert_clause {conventions : Conventions} {file out : SourceFile} {count : Nat}
    (converted : file.convert conventions = .ok (out, count)) :
    out.header = file.header ∧ out.package = file.package := by
  obtain ⟨imported, provider, native?, imports, -, -, -, agrees⟩ := convert_ok converted
  have same : out = { file with items := out.items } := by
    rw [agrees.frame, (ensureImports_ok imports).2]
    rfl
  rw [same]
  exact ⟨rfl, rfl⟩

theorem SourceFile.converted_eq_ok {conventions : Conventions} {file : SourceFile} {result : SourceFile × Nat} :
    file.converted conventions = .ok result ↔ file.convert conventions = .ok result := by
  rw [converted]
  cases file.convert conventions <;> simp [Except.mapError]

theorem SourceFile.packageNameOf_converted {source name clause : String} {file out : SourceFile} {count : Nat}
    (parsed : ofText source = .ok file) (converted : file.convert .ginkgo = .ok (out, count))
    (named : packageNameOf source = .ok name) (found : packageNameOf out.render = .ok clause) : clause = name := by
  obtain ⟨header, package⟩ := convert_clause converted
  rw [package_of_ofText parsed named] at package
  rw [← package]
  refine packageNameOf_render ?_ ?_ found
  · rw [header]
    exact header_of_ofText parsed
  · rw [package]
    exact (genuine_of_packageNameOf named).proper

namespace Host

variable {host : Host} {settings : Settings} {base disk after : Disk} {tree : Tree} {written : Written}

theorem yields_convertFile {path : Bytes} :
    Yields (host.convertFile settings path) disk written after ↔
      ∃ text file out, disk.readText host.cwd path = .ok text ∧ SourceFile.ofText text = .ok file ∧
        file.converted settings.conventions = .ok (out, written.tests) ∧
        disk.writeText host.cwd (settings.outputPath path) out.render = .ok after ∧
        written.path = settings.outputPath path := by
  simp only [convertFile, loadFile, yields_bind, yields_readText, yields_ofFault, yields_writeText, yields_pure,
    Prod.exists]
  constructor
  · rintro ⟨file, _, ⟨text, _, ⟨read, rfl⟩, parsed, rfl⟩, out, count, _, ⟨converted, rfl⟩, _, _, output, rfl, rfl⟩
    exact ⟨text, file, out, read, parsed, converted, output, rfl⟩
  · rintro ⟨text, file, out, read, parsed, converted, output, path⟩
    refine ⟨file, disk, ⟨text, disk, ⟨read, rfl⟩, parsed, rfl⟩, out, written.tests, disk, ⟨converted, rfl⟩, (), after,
      output, ?_, rfl⟩
    rw [← path]

section

variable (keeps : settings.destructive = false) (conventions : settings.conventions = .ginkgo)
include keeps conventions

theorem outputPath_join {dir name : Bytes} (filled : dir ≠ []) (isName : Path.IsName name) :
    settings.outputPath (Path.join dir name) =
      Path.join (Path.parent (Path.join dir name)) (Conventions.specsName name) := by
  have found := Path.fileName?_join filled isName
  rw [Settings.outputPath, keeps, conventions, if_neg (by simp), Path.withFileName, Package.nameOf, found]
  rfl

/-- The specs of a test are beside it, by a path that leads to the same directory. -/
theorem outputPath_of_leads {cwd : Location} {dir name : Bytes} {place : Location} {package : String}
    (leads : base.Leads cwd dir place) (isName : Path.IsName name)
    (input : Conventions.ginkgo.isConvertible (Text.lossy name) package = true) :
    ∃ beside, settings.outputPath (Path.join dir name) = Path.join beside (Conventions.specsName name) ∧
      base.Leads cwd beside place ∧ Path.IsName (Conventions.specsName name) := by
  obtain ⟨beside, filled, alike, parent⟩ := Path.parent_join leads.filled
  refine ⟨beside, ?_, leads.alike filled alike, Conventions.isName_specsName isName input⟩
  rw [outputPath_join keeps conventions leads.filled isName, parent name isName]

theorem convertFile_of_isConvertible (grows : Grows base tree disk) {dir name : Bytes} {place : Location}
    {bytes : ByteArray} (leads : base.Leads host.cwd dir place) (isName : Path.IsName name)
    (input : Conventions.ginkgo.isConvertible (Text.lossy name) (tree.name place) = true)
    (here : base.at? (place ++ [name]) = some (.file bytes))
    (yields : Yields (host.convertFile settings (Path.join dir name)) disk written after) :
    ∃ text file out, String.fromUTF8? bytes = some text ∧ SourceFile.ofText text = .ok file ∧
      file.convert .ginkgo = .ok (out, written.tests) ∧ written.path = settings.outputPath (Path.join dir name) ∧
      disk.at? (place ++ [Conventions.specsName name]) ≠ some .dir ∧
      after = disk.put (place ++ [Conventions.specsName name]) (.file out.render.toUTF8) := by
  have leads' := grows.leads leads
  obtain ⟨text, file, out, read, parsed, converted, output, path⟩ := yields_convertFile.mp yields
  obtain ⟨-, -, bytes', found, decoded⟩ := (leads'.readText_join isName).mp read
  rw [grows.kept place name (not_isGenerated input), here] at found
  cases found
  obtain ⟨beside, specs, leadsBeside, isSpecs⟩ := outputPath_of_leads keeps conventions leads' isName input
  rw [specs] at output
  obtain ⟨-, -, free, put⟩ := (leadsBeside.writeText_join isSpecs).mp output
  rw [conventions, SourceFile.converted_eq_ok] at converted
  exact ⟨text, file, out, decoded, parsed, converted, path, free, put⟩

variable (agree : base.ClausesAgree tree.root) (start : Grows base tree base) (grows : Grows base tree disk)
include agree start grows

theorem convertFile_again {path : Bytes}
    (input : base.IsInput tree host.cwd path) (yields : Yields (host.convertFile settings path) disk written after) :
    ∃ file : Location × DiskNode, after = disk.put file.1 file.2 ∧ Grows base tree after ∧ disk.Within after ∧
      ∀ later again final, Grows base tree later → Yields (host.convertFile settings path) later again final →
        again = written ∧ final = later.put file.1 file.2 := by
  obtain ⟨dir, name, place, bytes, rfl, leads, has, isName, input, here⟩ := input
  obtain ⟨text, file, out, decoded, parsed, converted, output, free, rfl⟩ :=
    convertFile_of_isConvertible keeps conventions grows leads isName input here yields
  obtain ⟨go, stem, -, specs⟩ := Conventions.convertedFileName_of_isConvertible input
  obtain ⟨clause, bytes', text', there, decoded', named⟩ := agree.readable place name bytes has go here
  obtain rfl : bytes = bytes' := by simpa using here.symm.trans there
  obtain rfl : text = text' := Option.some.inj (decoded.symm.trans decoded')
  refine ⟨(place ++ [Conventions.specsName name], .file out.render.toUTF8), rfl, ?_, ?_, ?_⟩
  · refine grows.put (Conventions.isName_specsName isName input) ((grows.dirs place).mpr leads.isDir)
      (.inl ?_) (start.sourced place name bytes has go here) free ?_
    · rw [Conventions.specsName, Text.lossy_utf8]
      exact Conventions.hasSuffix_iff.mpr ⟨stem, specs⟩
    intro clause' found
    rw [SourceFile.packageNameOf_converted parsed converted named found]
    exact start.named place name clause has go ⟨bytes, text, here, decoded, named⟩
  · exact within_put disk (by simp) _
  · intro later again final grown yields'
    obtain ⟨text', file', out', decoded'', parsed', converted', output', -, rfl⟩ :=
      convertFile_of_isConvertible keeps conventions grown leads isName input here yields'
    obtain rfl : text = text' := Option.some.inj (decoded.symm.trans decoded'')
    obtain rfl : file = file' := Except.ok.inj (parsed.symm.trans parsed')
    obtain ⟨rfl, tests⟩ := Prod.mk.inj (Except.ok.inj (converted.symm.trans converted'))
    obtain ⟨path, count⟩ := again
    obtain ⟨path', count'⟩ := written
    subst output output' tests
    exact ⟨rfl, rfl⟩

theorem mapM_convertFile_again {paths : List Bytes}
    (inputs : ∀ path ∈ paths, base.IsInput tree host.cwd path) {summary : List Written}
    (yields : Yields (paths.mapM (host.convertFile settings)) disk summary after) :
    ∃ files, after = putAll files disk ∧ Grows base tree after ∧ disk.Within after ∧
      ∀ later again final, Grows base tree later →
        Yields (paths.mapM (host.convertFile settings)) later again final →
        again = summary ∧ final = putAll files later := by
  induction paths generalizing disk summary with
  | nil =>
    obtain ⟨rfl, rfl⟩ := yields_pure.mp yields
    exact ⟨[], rfl, grows, fun _ some => some, fun _ _ _ _ yields' => yields_pure.mp yields'⟩
  | cons path paths ih =>
    obtain ⟨written, between, others, one, more, rfl⟩ := yields_mapM_cons.mp yields
    obtain ⟨file, rfl, grown, within, again⟩ :=
      convertFile_again keeps conventions agree start grows (inputs path List.mem_cons_self) one
    obtain ⟨files, rfl, grown', within', again'⟩ :=
      ih grown (fun path here => inputs path (List.mem_cons_of_mem _ here)) more
    refine ⟨file :: files, rfl, grown', within.trans within', ?_⟩
    intro later summary' final grows' yields'
    obtain ⟨written', between', others', one', more', rfl⟩ := yields_mapM_cons.mp yields'
    -- A later disk does not hold the specs of this run, so that it grows has to be shown again.
    obtain ⟨-, -, grown'', -, -⟩ :=
      convertFile_again keeps conventions agree start grows' (inputs path List.mem_cons_self) one'
    obtain ⟨rfl, rfl⟩ := again later written' between' grows' one'
    obtain ⟨rfl, rfl⟩ := again' _ others' final grown'' more'
    exact ⟨rfl, rfl⟩

end

/-- Runs that keep the tests are stable: a second run reports what the first did, and changes nothing. -/
theorem convertPackage_twice {id : String} {dir : Bytes} {root : Location} {first second : Disk}
    {summary summary' : List Written} (keeps : settings.destructive = false) (maker : settings.maker = .template)
    (conventions : settings.conventions = .ginkgo) (proper : disk.Proper)
    (resolved : (Package.resolve host id).run.run disk = (.ok dir, disk))
    (located : disk.locate host.cwd dir = .ok (root, .dir)) (agree : disk.ClausesAgree root)
    (once : (host.convertPackage settings id).run.run disk = (.ok summary, first))
    (again : (host.convertPackage settings id).run.run first = (.ok summary', second)) :
    summary' = summary ∧ second = first := by
  obtain ⟨tree, rfl, named⟩ := exists_tree agree
  have start : Grows disk tree disk := .refl proper agree named
  have inside : disk.Inside tree host.cwd dir := by
    intro place found
    obtain rfl : tree.root = place := by simpa using located.symm.trans found
    exact ⟨[], (List.append_nil _).symm, by simp⟩
  have search : Steady disk tree (fun files => ∀ path ∈ files, disk.IsInput tree host.cwd path)
      (Package.resolve host id >>= Package.walk host settings) :=
    (Package.steady_resolve start resolved).bind fun dir same =>
      Package.steady_walkTo start maker conventions _ (same ▸ inside)
  have parts : host.convertPackage settings id =
      (Package.resolve host id >>= Package.walk host settings) >>= fun files =>
        files.mapM (host.convertFile settings) := by
    rw [convertPackage, bind_assoc]
  rw [parts] at once again
  obtain ⟨files, between, found, written⟩ := yields_bind.mp once
  obtain ⟨grows, -, inputs, foundAgain⟩ := search disk files between start found
  obtain ⟨outputs, rfl, grows', within, writtenAgain⟩ :=
    mapM_convertFile_again keeps conventions agree start grows inputs written
  obtain ⟨files', between', found', written'⟩ := yields_bind.mp again
  -- Nothing is left to write for the walk, so the specs go to the disk of the first run's end.
  obtain ⟨rfl, rfl⟩ := foundAgain _ files' between' grows' within found'
  obtain ⟨rfl, rfl⟩ := writtenAgain _ summary' second grows' written'
  exact ⟨rfl, putAll_putAll grows'.proper⟩

end Host

namespace OneTest

open OneDir

def source : String :=
  "package p\n"

def test : String :=
  "package p\n\nimport \"testing\"\n\nfunc TestA(t *testing.T) \x7b\x7d\n"

def names (hasSuite : Bool) : List String :=
  ["a.go", "b_ginkgo_test.go", "b_test.go"] ++ if hasSuite then ["p_suite_test.go"] else []

def files (specs : String) (hasSuite : Bool) : List (Bytes × String) :=
  ((names hasSuite).map Text.utf8).zip [source, specs, test, Suite.source .ginkgo "p"]

def settings : Settings :=
  ⟨false, true, .template, .ginkgo⟩

theorem packageNameOf_texts : packageNameOf source = .ok "p" ∧ packageNameOf test = .ok "p" := by
  have clauses : (packageNameOf source).toOption = some "p" ∧ (packageNameOf test).toOption = some "p" := by
    decide +kernel
  exact ⟨SourceFile.eq_ok_of_toOption clauses.1, SourceFile.eq_ok_of_toOption clauses.2⟩

variable (specs : String) (hasSuite : Bool)

theorem names_files : (files specs hasSuite).map (·.1) = (names hasSuite).map Text.utf8 := by
  cases hasSuite <;> rfl

theorem listed_files : areListed ((files specs hasSuite).map (·.1)) = true := by
  rw [names_files]
  cases hasSuite <;> decide

theorem yields_survey : Yields (Package.survey host .ginkgo dir) (disk (files specs hasSuite))
    (some ⟨dir, "p", [path (Text.utf8 "b_test.go")]⟩, []) (disk (files specs hasSuite)) := by
  have naming : Package.namingFile? .ginkgo (sources (files specs hasSuite)) = some (path (Text.utf8 "a.go")) := by
    rw [OneDir.sources, names_files]
    cases hasSuite <;> decide
  have package : package (files specs hasSuite) "p" = ⟨dir, "p", [path (Text.utf8 "b_test.go")]⟩ := by
    rw [package, OneDir.sources, names_files]
    cases hasSuite <;> decide
  have found : (files specs hasSuite).lookup (Text.utf8 "a.go") = some source := by
    cases hasSuite <;> simp [files, names]
  exact OneDir.yields_survey (listed_files specs hasSuite) naming found packageNameOf_texts.1 package

theorem yields_ensure : Yields (Suite.ensure host .template .ginkgo dir "p") (disk (files specs hasSuite)) (!hasSuite)
    (disk (files specs true)) := by
  have isName : isName (Text.utf8 "p_suite_test.go") = true := by decide
  have present : (disk (files specs hasSuite)).exists? [] (Suite.path .ginkgo dir "p") = hasSuite := by
    refine (exists?_disk isName).trans ?_
    cases hasSuite <;> simp [files, names, List.lookup_cons]
  refine yields_bind.mpr ⟨hasSuite, _, yields_isPresent.mpr ⟨present.symm, rfl⟩, ?_⟩
  cases hasSuite with
  | false =>
    have added : write (Text.utf8 "p_suite_test.go") (Suite.source .ginkgo "p") (files specs false) =
        files specs true := by
      simp [files, names, write]
    have written : (disk (files specs false)).writeText [] (Suite.path .ginkgo dir "p") (Suite.source .ginkgo "p") =
        .ok (disk (files specs true)) := added ▸ writeText_disk isName
    refine yields_bind.mpr ⟨(), disk (files specs true), ?_, yields_pure.mpr ⟨rfl, rfl⟩⟩
    rw [Suite.make, Suite.writeTemplate, yields_get_bind]
    rw [show host.cwd = [] from rfl, written]
    exact yields_set.mpr rfl
  | true => exact yields_pure.mpr ⟨rfl, rfl⟩

theorem yields_walk : Yields (Package.walk host settings dir) (disk (files specs hasSuite))
    [path (Text.utf8 "b_test.go")] (disk (files specs true)) := by
  rw [Package.walk, Package.walkTo_succ]
  refine yields_bind.mpr ⟨_, _, yields_survey specs hasSuite, yields_bind.mpr ⟨[], _, yields_pure.mpr ⟨rfl, rfl⟩, ?_⟩⟩
  refine yields_bind.mpr ⟨(), disk (files specs true), ?_, yields_pure.mpr ⟨rfl, rfl⟩⟩
  exact yields_bind.mpr ⟨_, _, yields_ensure specs hasSuite, yields_pure.mpr ⟨rfl, rfl⟩⟩

theorem yields_convertFile {settings : Settings} (conventions : settings.conventions = .ginkgo)
    {others : List (Bytes × String)} {name specs : Bytes} (areNames : isName name = true ∧ isName specs = true)
    (here : others.lookup name = some test) (output : settings.outputPath (path name) = path specs)
    {file out : SourceFile} (parsed : SourceFile.ofText test = .ok file)
    (converted : file.convert .ginkgo = .ok (out, 1)) :
    Yields (host.convertFile settings (path name)) (disk others) ⟨path specs, 1⟩
      (disk (write specs out.render others)) := by
  refine Host.yields_convertFile.mpr ⟨test, file, out, readText_disk areNames.1 here, parsed, ?_, ?_, output.symm⟩
  · rw [conventions]
    exact SourceFile.converted_eq_ok.mpr converted
  · rw [output]
    exact writeText_disk areNames.2

theorem yields_convertPackage {file out : SourceFile} (parsed : SourceFile.ofText test = .ok file)
    (converted : file.convert .ginkgo = .ok (out, 1)) :
    Yields (host.convertPackage settings "p") (disk (files specs hasSuite))
      [⟨path (Text.utf8 "b_ginkgo_test.go"), 1⟩] (disk (files out.render true)) := by
  have changed : write (Text.utf8 "b_ginkgo_test.go") out.render (files specs true) = files out.render true := by
    simp [files, names, write]
  have single : Yields (host.convertFile settings (path (Text.utf8 "b_test.go"))) (disk (files specs true))
      ⟨path (Text.utf8 "b_ginkgo_test.go"), 1⟩ (disk (files out.render true)) :=
    changed ▸ yields_convertFile rfl (by decide) (by simp [files, names, List.lookup_cons]) (by decide) parsed converted
  exact yields_bind.mpr ⟨_, _, yields_resolve _, yields_bind.mpr ⟨_, _,
    yields_walk specs hasSuite, yields_mapM_cons.mpr ⟨_, _, [], single, yields_pure.mpr ⟨rfl, rfl⟩, rfl⟩⟩⟩

theorem convert_test : ∃ file out, SourceFile.ofText test = .ok file ∧ file.convert .ginkgo = .ok (out, 1) := by
  have checked : ((SourceFile.ofText test).toOption.bind fun file =>
      (file.convert .ginkgo).toOption.map (·.2)) = some 1 := by decide +kernel
  obtain ⟨file, parsed, converted⟩ := Option.bind_eq_some_iff.mp checked
  obtain ⟨⟨out, count⟩, converted, rfl⟩ := Option.map_eq_some_iff.mp converted
  exact ⟨file, out, SourceFile.eq_ok_of_toOption parsed, SourceFile.eq_ok_of_toOption converted⟩

theorem clausesAgree_disk : (disk (files source false)).ClausesAgree [dir] := by
  have each (place : Location) (bytes : ByteArray) (below : place ≠ [])
      (here : (disk (files source false)).at? place = some (.file bytes)) :
      ∃ text, String.fromUTF8? bytes = some text ∧ packageNameOf text = .ok "p" := by
    have proper := proper_disk (listed_files source false)
    obtain dir | member := List.mem_cons.mp ((proper.at?_eq_some_iff below).mp here)
    · cases dir
    · obtain ⟨file, found, same⟩ := List.mem_map.mp member
      cases same
      refine ⟨file.2, fromUTF8?_toUTF8 file.2, ?_⟩
      simp only [files, names, List.map_cons, List.zip_cons_cons, List.mem_cons, Bool.false_eq_true, if_false,
        List.append_nil, List.map_nil, List.zip_nil_left, List.not_mem_nil, or_false] at found
      obtain rfl | rfl | rfl := found
      · exact packageNameOf_texts.1
      · exact packageNameOf_texts.1
      · exact packageNameOf_texts.2
  have only (place : Location) (clause : String) (below : place ≠ [])
      (here : (disk (files source false)).Clause place clause) : clause = "p" := by
    obtain ⟨bytes, text, found, decoded, named⟩ := here
    obtain ⟨text', decoded', named'⟩ := each place bytes below found
    obtain rfl : text = text' := Option.some.inj (decoded.symm.trans decoded')
    exact Except.ok.inj (named.symm.trans named')
  refine ⟨fun dir name bytes _ _ here => ?_, fun dir name name' clause clause' _ _ _ here here' => ?_⟩
  · obtain ⟨text, decoded, named⟩ := each _ bytes (by simp) here
    exact ⟨"p", bytes, text, here, decoded, named⟩
  · rw [only _ clause (by simp) here, only _ clause' (by simp) here']

theorem convertPackage_again : ∃ first second summary,
    (host.convertPackage settings "p").run.run (disk (files source false)) =
        (.ok [⟨path (Text.utf8 "b_ginkgo_test.go"), 1⟩], first) ∧
      (host.convertPackage settings "p").run.run first = (.ok summary, second) ∧
      summary = [⟨path (Text.utf8 "b_ginkgo_test.go"), 1⟩] ∧ second = first := by
  obtain ⟨file, out, parsed, converted⟩ := convert_test
  have once := yields_convertPackage source false parsed converted
  have again := yields_convertPackage out.render true parsed converted
  exact ⟨_, _, _, once, again, Host.convertPackage_twice rfl rfl rfl (proper_disk (listed_files source false))
    (yields_resolve _) (locate_dir _) clausesAgree_disk once again⟩

end OneTest

end GoSpecs
