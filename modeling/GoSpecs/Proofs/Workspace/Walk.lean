import GoSpecs.Proofs.Workspace.Jobs

namespace GoSpecs

/-- No place loses what it holds, though the text of a file may change. -/
def Disk.Within (disk other : Disk) : Prop :=
  ∀ place, (disk.at? place).isSome = true → (other.at? place).isSome = true

theorem Disk.Within.trans {first second third : Disk} (one : first.Within second) (two : second.Within third) :
    first.Within third :=
  fun place some => two place (one place some)

theorem Disk.within_put (disk : Disk) {place : Location} (below : place ≠ []) (node : DiskNode) :
    disk.Within (disk.put place node) := by
  intro there some
  rw [at?_put below]
  split
  · rfl
  · exact some

namespace Job

/-- The job grows the disk to one on which, however it grows further, the job gives the same and writes nothing. -/
def Steady {α : Type} (base : Disk) (tree : Disk.Tree) (good : α → Prop) (job : Job α) : Prop :=
  ∀ before value after, Disk.Grows base tree before → Yields job before value after →
    Disk.Grows base tree after ∧ before.Within after ∧ good value ∧
      ∀ later again final, Disk.Grows base tree later → after.Within later → Yields job later again final →
        again = value ∧ final = later

section

variable {α β : Type} {base : Disk} {tree : Disk.Tree} {good : α → Prop} {fine : β → Prop}

theorem Steady.of_reads {job : Job α} (value : α) (isGood : good value)
    (reads : ∀ disk found after, Disk.Grows base tree disk → Yields job disk found after →
      found = value ∧ after = disk) : Steady base tree good job := by
  intro before found after grows yields
  obtain ⟨rfl, rfl⟩ := reads before found after grows yields
  exact ⟨grows, fun _ some => some, isGood,
    fun later again final grows' _ yields' => reads later again final grows' yields'⟩

theorem Steady.pure {value : α} (isGood : good value) : Steady base tree good (pure value) :=
  .of_reads value isGood fun _ _ _ _ yields => yields_pure.mp yields

theorem Steady.bind {job : Job α} {next : α → Job β} (first : Steady base tree good job)
    (second : ∀ value, good value → Steady base tree fine (next value)) : Steady base tree fine (job >>= next) := by
  intro before result after grows yields
  obtain ⟨value, between, one, two⟩ := yields_bind.mp yields
  obtain ⟨grows', within, isGood, again⟩ := first before value between grows one
  obtain ⟨grows'', within', isFine, again'⟩ := second value isGood between result after grows' two
  refine ⟨grows'', within.trans within', isFine, ?_⟩
  intro later result' final grown more yields'
  obtain ⟨value', between', one', two'⟩ := yields_bind.mp yields'
  obtain ⟨rfl, rfl⟩ := again later value' between' grown (within'.trans more) one'
  exact again' _ result' final grown more two'

theorem Steady.mapM {job : β → Job α} {items : List β} (each : ∀ item ∈ items, Steady base tree good (job item)) :
    Steady base tree (fun values => ∀ value ∈ values, good value) (items.mapM job) := by
  induction items with
  | nil => exact .pure (by simp)
  | cons item items ih =>
    rw [List.mapM_cons]
    refine (each item List.mem_cons_self).bind fun value isGood => ?_
    refine (ih fun item here => each item (List.mem_cons_of_mem _ here)).bind fun values areGood => .pure ?_
    simpa using ⟨isGood, areGood⟩

end

end Job

namespace Disk

def IsInput (base : Disk) (tree : Tree) (cwd : Location) (path : Bytes) : Prop :=
  ∃ dir name place bytes, path = Path.join dir name ∧ base.Leads cwd dir place ∧ tree.Has place ∧ Path.IsName name ∧
    Conventions.ginkgo.isConvertible (Text.lossy name) (tree.name place) = true ∧
    base.at? (place ++ [name]) = some (.file bytes)

def HasPackage (base : Disk) (tree : Tree) (cwd : Location) (package : Package) : Prop :=
  ∃ place, base.Leads cwd package.dir place ∧ tree.Has place ∧ base.HasSource place ∧ package.name = tree.name place ∧
    ∀ path ∈ package.testFiles, base.IsInput tree cwd path

/-- If the path leads to a directory, it is one of the tree. -/
def Inside (base : Disk) (tree : Tree) (cwd : Location) (path : Bytes) : Prop :=
  ∀ place, base.locate cwd path = .ok (place, .dir) → tree.Has place

def isSource (entry : Bytes × DiskNode) : Bool :=
  !entry.2.isDir && Conventions.hasSuffix (Text.lossy entry.1) ".go"

theorem isSource_iff {name : Bytes} {node : DiskNode} :
    isSource (name, node) = true ↔ (∃ bytes, node = .file bytes) ∧ isGo name = true := by
  cases node <;> simp [isSource, DiskNode.isDir]

def subdirs (disk : Disk) (dir : Bytes) (place : Location) : List Bytes :=
  ((disk.children place).filter fun entry => entry.2.isDir && !Package.isIgnored (Text.lossy entry.1)).map
    (Path.join dir ·.1)

def sources (disk : Disk) (dir : Bytes) (place : Location) : List Bytes :=
  ((disk.children place).filter isSource).map (Path.join dir ·.1)

def inputs (disk : Disk) (tree : Tree) (dir : Bytes) (place : Location) : List Bytes :=
  ((disk.children place).filter fun entry =>
    Conventions.ginkgo.isConvertible (Text.lossy entry.1) (tree.name place) && isSource entry).map (Path.join dir ·.1)

theorem not_isGenerated {tree : Tree} {place : Location} {name : Bytes}
    (input : Conventions.ginkgo.isConvertible (Text.lossy name) (tree.name place) = true) :
    ¬IsGenerated tree place name := by
  rintro (specs | suite)
  · simp [Conventions.isConvertible, specs] at input
  · simp [Conventions.isConvertible, suite] at input

namespace Grows

variable {base disk : Disk} {tree : Tree} {cwd place : Location} {dir : Bytes}

theorem subdirs_eq (grows : Grows base tree disk) (proper : base.Proper) :
    disk.subdirs dir place = base.subdirs dir place := by
  unfold subdirs
  rw [children_filter_eq grows.proper proper]
  intro name node isDir
  cases node with
  | dir => exact grows.dirs _
  | file bytes => simp [DiskNode.isDir] at isDir

theorem inputs_eq (grows : Grows base tree disk) (proper : base.Proper) :
    disk.inputs tree dir place = base.inputs tree dir place := by
  unfold inputs
  rw [children_filter_eq grows.proper proper]
  intro name node input
  rw [grows.kept place name (not_isGenerated (Bool.and_eq_true_iff.mp input).1)]

theorem mem_sources (grows : Grows base tree disk) {path : Bytes} :
    path ∈ disk.sources dir place ↔ ∃ name bytes, path = Path.join dir name ∧ Path.IsName name ∧ isGo name = true ∧
      disk.at? (place ++ [name]) = some (.file bytes) := by
  simp only [sources, List.mem_map, List.mem_filter, Prod.exists, mem_children grows.proper, isSource_iff]
  constructor
  · rintro ⟨name, node, ⟨here, ⟨bytes, rfl⟩, go⟩, rfl⟩
    exact ⟨name, bytes, rfl, grows.proper.names here name (by simp), go, here⟩
  · rintro ⟨name, bytes, rfl, -, go, here⟩
    exact ⟨name, .file bytes, ⟨here, ⟨bytes, rfl⟩, go⟩, rfl⟩

theorem sources_eq_nil (grows : Grows base tree disk) (has : tree.Has place) :
    disk.sources dir place = [] ↔ ¬base.HasSource place := by
  constructor
  · rintro none ⟨name, clause, go, bytes, text, here, -⟩
    obtain ⟨bytes', there⟩ := grows.file_of_base here
    have found : Path.join dir name ∈ disk.sources dir place :=
      grows.mem_sources.mpr ⟨name, bytes', rfl, grows.proper.names there name (by simp), go, there⟩
    simp [none] at found
  · intro none
    refine List.eq_nil_iff_forall_not_mem.mpr fun path here => none ?_
    obtain ⟨name, bytes, -, -, go, found⟩ := grows.mem_sources.mp here
    exact grows.sourced place name bytes has go found

theorem filter_sources (grows : Grows base tree disk) (filled : dir ≠ []) :
    (disk.sources dir place).filter (fun path =>
      Conventions.ginkgo.isConvertible (Package.nameOf path) (tree.name place)) = disk.inputs tree dir place := by
  unfold sources inputs
  rw [List.filter_map, List.filter_filter]
  refine congrArg (List.map _) (List.filter_congr fun entry here => ?_)
  obtain ⟨name, node⟩ := entry
  have isName := grows.proper.names ((mem_children grows.proper).mp here) name (by simp)
  simp [Package.nameOf, Path.fileName?_join filled isName]

theorem isDir_eq (grows : Grows base tree disk) {path : Bytes} : disk.isDir cwd path = base.isDir cwd path := by
  have iff (disk : Disk) : disk.isDir cwd path = true ↔ ∃ place, disk.locate cwd path = .ok (place, .dir) := by
    unfold Disk.isDir
    split
    · rename_i place node found
      cases node <;> simp [found, DiskNode.isDir]
    · simp_all
  rw [Bool.eq_iff_iff, iff, iff]
  constructor
  · rintro ⟨place, found⟩
    exact ⟨place, locate_of_dirs (fun place => (grows.dirs place).mp) found⟩
  · rintro ⟨place, found⟩
    exact ⟨place, locate_of_dirs (fun place => (grows.dirs place).mpr) found⟩

end Grows

theorem isInput_of_mem {base : Disk} {tree : Tree} {cwd place : Location} {dir path : Bytes}
    (proper : base.Proper) (leads : base.Leads cwd dir place) (has : tree.Has place)
    (here : path ∈ base.inputs tree dir place) : base.IsInput tree cwd path := by
  simp only [inputs, List.mem_map, List.mem_filter, Prod.exists, mem_children proper, Bool.and_eq_true,
    isSource_iff] at here
  obtain ⟨name, node, ⟨there, input, ⟨bytes, rfl⟩, -⟩, rfl⟩ := here
  exact ⟨dir, name, place, bytes, rfl, leads, has, proper.names there name (by simp), input, there⟩

theorem inside_of_mem {base : Disk} {tree : Tree} {cwd place : Location} {dir path : Bytes} (proper : base.Proper)
    (leads : base.Leads cwd dir place) (has : tree.Has place) (here : path ∈ base.subdirs dir place) :
    base.Inside tree cwd path := by
  simp only [subdirs, List.mem_map, List.mem_filter, Prod.exists, mem_children proper, Bool.and_eq_true,
    Bool.not_eq_true'] at here
  obtain ⟨name, node, ⟨there, -, searched⟩, rfl⟩ := here
  intro place' located
  obtain ⟨-, -, rfl, -⟩ := (leads.locate_join (proper.names there name (by simp))).mp located
  exact has.down searched

end Disk

namespace Package

open Disk Job

def survey (host : Host) (conventions : Conventions) (dir : Bytes) : Job (Option Package × List Bytes) := do
  let (files, dirs) ← contents host dir
  let package? ← ofFiles host conventions dir files
  return (package?, dirs)

theorem walkTo_succ (host : Host) (settings : Settings) (depth : Nat) (dir : Bytes) :
    walkTo host settings (depth + 1) dir = survey host settings.conventions dir >>= fun found => do
      let below ← found.2.mapM (walkTo host settings depth)
      provide host settings found.1
      return (found.1.map (·.testFiles)).getD [] ++ below.flatten := by
  simp [walkTo, survey]

section

variable {host : Host} {base disk after : Disk} {tree : Tree} {dir : Bytes} {place : Location}
  {files dirs : List Bytes} {package? : Option Package}

theorem yields_contents : Yields (contents host dir) disk (files, dirs) after ↔
    after = disk ∧ ∃ entries, disk.list host.cwd dir = .ok entries ∧
      files = (entries.filter isSource).map (Path.join dir ·.1) ∧
      dirs = (entries.filter fun entry => entry.2.isDir && !isIgnored (Text.lossy entry.1)).map
        (Path.join dir ·.1) := by
  simp only [contents, yields_bind, yields_list, yields_pure, Prod.mk.injEq]
  constructor
  · rintro ⟨entries, _, ⟨listed, rfl⟩, ⟨rfl, rfl⟩, rfl⟩
    exact ⟨rfl, entries, listed, rfl, rfl⟩
  · rintro ⟨rfl, entries, listed, rfl, rfl⟩
    exact ⟨entries, _, ⟨listed, rfl⟩, ⟨rfl, rfl⟩, rfl⟩

theorem nameOf_join {name : Bytes} (filled : dir ≠ []) (isName : Path.IsName name) :
    nameOf (Path.join dir name) = Text.lossy name := by
  rw [nameOf, Path.fileName?_join filled isName, Option.map_some, Option.getD_some]

theorem mem_of_namingFile? {conventions : Conventions} {path : Bytes}
    (found : namingFile? conventions files = some path) : path ∈ files := by
  unfold namingFile? at found
  obtain found | ⟨-, found⟩ := Option.or_eq_some_iff.mp found
  · exact List.mem_of_find?_eq_some found
  · exact List.mem_of_mem_head? found

theorem namingFile?_eq_none {conventions : Conventions} : namingFile? conventions files = none ↔ files = [] := by
  cases files <;> simp [namingFile?]

theorem yields_ofFiles (grows : Grows base tree disk) (leads : disk.Leads host.cwd dir place) (has : tree.Has place)
    (yields : Yields (ofFiles host .ginkgo dir (disk.sources dir place)) disk package? after) :
    after = disk ∧ (base.HasSource place ∧ package? = some ⟨dir, tree.name place, disk.inputs tree dir place⟩ ∨
      ¬base.HasSource place ∧ package? = none) := by
  unfold ofFiles at yields
  cases found : namingFile? .ginkgo (disk.sources dir place) with
  | none =>
    rw [found] at yields
    obtain ⟨rfl, rfl⟩ := yields_pure.mp yields
    exact ⟨rfl, .inr ⟨(grows.sources_eq_nil has).mp (namingFile?_eq_none.mp found), rfl⟩⟩
  | some path =>
    obtain ⟨name, bytes, rfl, isName, go, here⟩ := grows.mem_sources.mp (mem_of_namingFile? found)
    rw [found] at yields
    simp only [yields_bind, yields_readText, yields_ofFault, yields_pure] at yields
    obtain ⟨text, _, ⟨read, rfl⟩, clause, _, ⟨named, rfl⟩, rfl, rfl⟩ := yields
    obtain ⟨-, -, bytes', there, decoded⟩ := (leads.readText_join isName).mp read
    have same : Package.named clause = tree.name place :=
      grows.named place name clause has go ⟨bytes', text, there, decoded, named⟩
    refine ⟨rfl, .inl ⟨grows.sourced place name bytes has go here, ?_⟩⟩
    rw [← grows.filter_sources leads.filled, ← same]
    rfl

theorem yields_survey (grows : Grows base tree disk) (proper : base.Proper) (has : tree.Has place)
    (located : base.locate host.cwd dir = .ok (place, .dir))
    (yields : Yields (survey host .ginkgo dir) disk (package?, dirs) after) :
    after = disk ∧ dirs = base.subdirs dir place ∧
      (base.HasSource place ∧ package? = some ⟨dir, tree.name place, base.inputs tree dir place⟩ ∨
        ¬base.HasSource place ∧ package? = none) := by
  have there := locate_of_dirs (fun place => (grows.dirs place).mpr) located
  simp only [survey, yields_bind, yields_pure, Prod.exists, Prod.mk.injEq] at yields
  obtain ⟨files, _, _, seen, _, _, made, ⟨rfl, rfl⟩, rfl⟩ := yields
  obtain ⟨rfl, entries, listed, rfl, rfl⟩ := yields_contents.mp seen
  obtain ⟨place', located', rfl⟩ | ⟨none, -⟩ := list_eq_ok listed
  · obtain rfl : place' = place := by simpa using located'.symm.trans there
    obtain ⟨rfl, package⟩ := yields_ofFiles grows (leads_of_locate there) has made
    rw [grows.inputs_eq proper] at package
    exact ⟨rfl, grows.subdirs_eq proper, package⟩
  · exact (none place there).elim

theorem yields_survey_of_not_dir (grows : Grows base tree disk)
    (notDir : ∀ place, base.locate host.cwd dir ≠ .ok (place, .dir))
    (yields : Yields (survey host .ginkgo dir) disk (package?, dirs) after) :
    after = disk ∧ dirs = [] ∧ package? = none := by
  simp only [survey, yields_bind, yields_pure, Prod.exists, Prod.mk.injEq] at yields
  obtain ⟨files, _, _, seen, _, _, made, ⟨rfl, rfl⟩, rfl⟩ := yields
  obtain ⟨rfl, entries, listed, rfl, rfl⟩ := yields_contents.mp seen
  obtain ⟨place, located, -⟩ | ⟨-, rfl⟩ := list_eq_ok listed
  · exact (notDir place (locate_of_dirs (fun place => (grows.dirs place).mp) located)).elim
  · obtain ⟨rfl, rfl⟩ := yields_pure.mp made
    exact ⟨rfl, rfl, rfl⟩

theorem steady_survey (proper : base.Proper) {dir : Bytes} (inside : base.Inside tree host.cwd dir) :
    Steady base tree (fun found => (∀ package ∈ found.1, base.HasPackage tree host.cwd package) ∧
      ∀ below ∈ found.2, base.Inside tree host.cwd below) (survey host .ginkgo dir) := by
  -- What is found depends on the base alone, whose directory may have been listed with more files.
  by_cases located : ∃ place, base.locate host.cwd dir = .ok (place, .dir)
  · obtain ⟨place, located⟩ := located
    have has := inside place located
    have leads := leads_of_locate located
    have dirs : ∀ below ∈ base.subdirs dir place, base.Inside tree host.cwd below :=
      fun below here => inside_of_mem proper leads has here
    by_cases source : base.HasSource place
    · refine .of_reads (some ⟨dir, tree.name place, base.inputs tree dir place⟩, base.subdirs dir place) ⟨?_, dirs⟩ ?_
      · rintro package ⟨⟩
        exact ⟨place, leads, has, source, rfl, fun path here => isInput_of_mem proper leads has here⟩
      · rintro disk ⟨package?, dirs⟩ after grows yields
        obtain ⟨rfl, rfl, ⟨-, rfl⟩ | ⟨none, -⟩⟩ := yields_survey grows proper has located yields
        · exact ⟨rfl, rfl⟩
        · exact (none source).elim
    · refine .of_reads (none, base.subdirs dir place) ⟨by simp, dirs⟩ ?_
      rintro disk ⟨package?, dirs⟩ after grows yields
      obtain ⟨rfl, rfl, ⟨some, -⟩ | ⟨-, rfl⟩⟩ := yields_survey grows proper has located yields
      · exact (source some).elim
      · exact ⟨rfl, rfl⟩
  · refine .of_reads (none, []) (by simp) ?_
    rintro disk ⟨package?, dirs⟩ after grows yields
    obtain ⟨rfl, rfl, rfl⟩ := yields_survey_of_not_dir grows (not_exists.mp located) yields
    exact ⟨rfl, rfl⟩

theorem yields_ensure {package : String} {made : Bool}
    (yields : Yields (Suite.ensure host .template .ginkgo dir package) disk made after) :
    if disk.exists? host.cwd (Suite.path .ginkgo dir package) then after = disk
    else disk.writeText host.cwd (Suite.path .ginkgo dir package) (Suite.source .ginkgo package) = .ok after := by
  obtain ⟨present, between, one, two⟩ := yields_bind.mp yields
  obtain ⟨rfl, rfl⟩ := yields_isPresent.mp one
  split at two
  · rename_i present
    rw [if_pos present]
    exact (yields_pure.mp two).2
  · rename_i absent
    rw [if_neg absent]
    obtain ⟨_, between, written, rest⟩ := yields_bind.mp two
    obtain ⟨-, rfl⟩ := yields_pure.mp rest
    change Yields (Suite.writeTemplate host .ginkgo dir package) _ _ _ at written
    rw [Suite.writeTemplate, yields_get_bind] at written
    split at written
    · rename_i found
      rw [yields_set.mp written]
      exact found
    · exact (yields_throw written).elim

theorem isName_suiteFileName {name : String} (isName : IsIdentifier (name ++ "_test")) :
    Path.IsName (Conventions.suiteName name) := by
  have slash : Piece.continuesName '/' = false := by
    rw [Piece.continuesName_of_ascii (by decide)]
    decide
  refine isName_append ?_ (by simp [Conventions.ginkgo]) (by decide)
  intro here
  have goesOn := isName.continues '/' (by simp [here])
  rw [slash] at goesOn
  cases goesOn

theorem isIdentifier_names (grows : Grows base tree base) (has : tree.Has place) (source : base.HasSource place) :
    IsIdentifier (tree.name place ++ "_test") := by
  obtain ⟨name, clause, go, here⟩ := source
  obtain ⟨bytes, text, -, -, named⟩ := id here
  rw [← grows.named place name clause has go here]
  exact isIdentifier_named (Token.isIdentifier_of_genuine (genuine_of_packageNameOf named))

theorem grows_ensure (start : Grows base tree base) (grows : Grows base tree disk)
    (leads : base.Leads host.cwd dir place) (has : tree.Has place) (source : base.HasSource place) {made : Bool}
    (yields : Yields (Suite.ensure host .template .ginkgo dir (tree.name place)) disk made after) :
    Grows base tree after ∧ disk.Within after ∧
      after.exists? host.cwd (Suite.path .ginkgo dir (tree.name place)) = true := by
  have isName := isName_suiteFileName (isIdentifier_names start has source)
  have leads' := grows.leads leads
  have ensured := yields_ensure yields
  split at ensured
  · rename_i present
    exact ⟨ensured ▸ grows, ensured ▸ fun _ some => some, ensured ▸ present⟩
  · obtain ⟨checked, short, free, rfl⟩ := (leads'.writeText_join isName).mp ensured
    have below : place ++ [Conventions.suiteName (tree.name place)] ≠ [] := by simp
    have named (clause : String) (found : packageNameOf (Suite.source .ginkgo (tree.name place)) = .ok clause) :
        Package.named clause = tree.name place := by
      rw [Suite.packageNameOf_source (isIdentifier_names start has source) found, named_test]
    have grown := grows.put isName leads'.isDir (.inr rfl) source free named
    refine ⟨grown, within_put disk below _, ?_⟩
    refine ((grown.leads leads).exists?_join isName).mpr ⟨checked, short, ?_⟩
    rw [at?_put below, if_pos rfl, Option.isSome_some]

theorem steady_provide (start : Grows base tree base) {settings : Settings} (maker : settings.maker = .template)
    (conventions : settings.conventions = .ginkgo)
    (sourced : ∀ package ∈ package?, base.HasPackage tree host.cwd package) :
    Steady base tree (fun _ => True) (provide host settings package?) := by
  cases package? with
  | none => exact .pure trivial
  | some package =>
    obtain ⟨place, leads, has, source, name, -⟩ := sourced package rfl
    rw [provide, maker, conventions, name]
    split
    · intro before result after grows yields
      obtain ⟨made, between, ensured, done⟩ := yields_bind.mp yields
      obtain ⟨-, rfl⟩ := yields_pure.mp done
      obtain ⟨grown, within, present⟩ := grows_ensure start grows leads has source ensured
      refine ⟨grown, within, trivial, ?_⟩
      -- The path was short enough for the suite, so it is found where it has been written.
      intro later again final grown' more yields'
      obtain ⟨made', between', ensured', done'⟩ := yields_bind.mp yields'
      obtain ⟨-, rfl⟩ := yields_pure.mp done'
      have isName := isName_suiteFileName (isIdentifier_names start has source)
      obtain ⟨checked, short, some⟩ := ((grown.leads leads).exists?_join isName).mp present
      have present' := ((grown'.leads leads).exists?_join isName).mpr ⟨checked, short, more _ some⟩
      have kept := yields_ensure ensured'
      rw [Suite.path, if_pos present'] at kept
      exact ⟨rfl, kept⟩
    · exact .pure trivial

theorem steady_walkTo (start : Grows base tree base) {settings : Settings} (maker : settings.maker = .template)
    (conventions : settings.conventions = .ginkgo) (depth : Nat) {dir : Bytes}
    (inside : base.Inside tree host.cwd dir) :
    Steady base tree (fun files => ∀ path ∈ files, base.IsInput tree host.cwd path)
      (walkTo host settings depth dir) := by
  induction depth generalizing dir with
  | zero => exact .pure (by simp)
  | succ depth ih =>
    rw [walkTo_succ, conventions]
    refine (steady_survey start.proper inside).bind fun found ⟨sourced, dirs⟩ => ?_
    refine (Steady.mapM fun below here => ih (dirs below here)).bind fun below areInputs => ?_
    refine (steady_provide start maker conventions sourced).bind fun _ _ => .pure ?_
    intro path here
    obtain here | here := List.mem_append.mp here
    · cases shape : found.1 with
      | none => simp [shape] at here
      | some package =>
        obtain ⟨place, -, -, -, -, inputs⟩ := sourced package shape
        exact inputs path (by simpa [shape] using here)
    · obtain ⟨files, listed, here⟩ := List.mem_flatten.mp here
      exact areInputs files listed path here

theorem yields_resolve {id : String} (grows : Grows base tree disk) (yields : Yields (resolve host id) disk dir after) :
    dir = (if base.isDir host.cwd (Text.utf8 id) then Text.utf8 id
      else (firstDir? host base (host.roots.map fun root =>
        Path.join (Path.join root (Text.utf8 "src")) (Text.utf8 id))).getD []) ∧ after = disk := by
  have dirs : disk.isDir host.cwd = base.isDir host.cwd := funext fun path => grows.isDir_eq
  have first : firstDir? host disk = firstDir? host base := by
    unfold firstDir?
    rw [dirs]
  obtain ⟨isDir, between, one, two⟩ := yields_bind.mp yields
  obtain ⟨rfl, rfl⟩ := yields_isDir.mp one
  rw [dirs] at two
  split at two
  · rename_i here
    rw [if_pos here]
    exact yields_pure.mp two
  · rename_i other
    rw [if_neg other]
    rw [yields_get_bind, first] at two
    split at two
    · rename_i found
      rw [found, Option.getD_some]
      exact yields_pure.mp two
    · exact (yields_throw two).elim

theorem steady_resolve (start : Grows base tree base) {id : String}
    (resolved : Yields (resolve host id) base dir after) : Steady base tree (· = dir) (resolve host id) := by
  refine .of_reads dir rfl fun disk found after grows yields => ?_
  rw [(yields_resolve start resolved).1]
  exact yields_resolve grows yields

end

end Package

end GoSpecs
