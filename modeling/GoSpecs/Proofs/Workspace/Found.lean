import GoSpecs.Proofs.Workspace.Walked

namespace GoSpecs

open Disk Job

namespace Disk

def goFiles (disk : Disk) (place : Location) : List Bytes :=
  ((disk.children place).filter isSource).map (·.1)

def searched (disk : Disk) (place : Location) : List Bytes :=
  ((disk.children place).filter fun entry => entry.2.isDir && !Package.isIgnored (Text.lossy entry.1)).map (·.1)

/-- The package of a directory has the name: its first Go file that holds no tests says so, or else its first. -/
def Names (disk : Disk) (place : Location) (package : String) : Prop :=
  ∃ name clause, ((disk.goFiles place).find? fun name => !Conventions.hasSuffix (Text.lossy name) "_test.go").or
      (disk.goFiles place).head? = some name ∧
    disk.Clause (place ++ [name]) clause ∧ package = Package.named clause

/-- A walk comes from a directory to another one by the names on the way. -/
inductive Visits (disk : Disk) : Location → List Bytes → Prop where
  | here {place : Location} (isDir : disk.at? place = some .dir) : Visits disk place []
  | down {place : Location} {name : Bytes} {way : List Bytes} (isDir : disk.at? place = some .dir)
      (searched : Package.isIgnored (Text.lossy name) = false) (rest : Visits disk (place ++ [name]) way) :
      Visits disk place (name :: way)

def HasTest (disk : Disk) (place : Location) (name : Bytes) : Prop :=
  (∃ bytes, disk.at? (place ++ [name]) = some (.file bytes)) ∧
    ∃ package, disk.Names place package ∧ Conventions.ginkgo.isConvertible (Text.lossy name) package = true

section

variable {disk : Disk} {place : Location} {name : Bytes} {package : String} {way : List Bytes}

theorem mem_goFiles (proper : disk.Proper) :
    name ∈ disk.goFiles place ↔ isGo name = true ∧ ∃ bytes, disk.at? (place ++ [name]) = some (.file bytes) := by
  simp only [goFiles, List.mem_map, List.mem_filter, Prod.exists, mem_children proper, isSource_iff]
  constructor
  · rintro ⟨_, node, ⟨here, ⟨bytes, rfl⟩, go⟩, rfl⟩
    exact ⟨go, bytes, here⟩
  · rintro ⟨go, bytes, here⟩
    exact ⟨name, _, ⟨here, ⟨bytes, rfl⟩, go⟩, rfl⟩

theorem mem_searched (proper : disk.Proper) :
    name ∈ disk.searched place ↔
      disk.at? (place ++ [name]) = some .dir ∧ Package.isIgnored (Text.lossy name) = false := by
  simp only [searched, List.mem_map, List.mem_filter, Prod.exists, mem_children proper]
  constructor
  · rintro ⟨_, node, ⟨here, test⟩, rfl⟩
    cases node with
    | dir => exact ⟨here, by simpa [DiskNode.isDir] using test⟩
    | file bytes => simp [DiskNode.isDir] at test
  · rintro ⟨here, kept⟩
    exact ⟨name, .dir, ⟨here, by simp [DiskNode.isDir, kept]⟩, rfl⟩

theorem sorted_names (proper : disk.Proper) (place : Location) (test : Bytes × DiskNode → Bool) :
    (((disk.children place).filter test).map (·.1)).Pairwise Bytes.Precedes :=
  List.pairwise_map.mpr ((sorted_children proper place).filter test)

theorem visits_iff (proper : disk.Proper) (isDir : disk.at? place = some .dir) :
    disk.Visits place way ↔
      way = [] ∨ ∃ name ∈ disk.searched place, ∃ rest, way = name :: rest ∧ disk.Visits (place ++ [name]) rest := by
  constructor
  · intro visits
    cases visits with
    | here isDir => exact .inl rfl
    | @down _ name rest _ kept further =>
      have isDir : disk.at? (place ++ [name]) = some .dir := by cases further <;> assumption
      exact .inr ⟨name, (mem_searched proper).mpr ⟨isDir, kept⟩, rest, rfl, further⟩
  · rintro (rfl | ⟨name, here, rest, rfl, further⟩)
    · exact .here isDir
    · exact .down isDir ((mem_searched proper).mp here).2 further

theorem Names.goFiles_ne_nil (names : disk.Names place package) : disk.goFiles place ≠ [] := by
  obtain ⟨name, clause, found, -⟩ := names
  intro none
  simp [none] at found

theorem Names.isName_suite (names : disk.Names place package) :
    Path.IsName (Conventions.suiteName package) := by
  obtain ⟨name, clause, -, ⟨bytes, text, -, -, named⟩, rfl⟩ := names
  exact Package.isName_suiteFileName
    (Package.isIdentifier_named (Token.isIdentifier_of_genuine (genuine_of_packageNameOf named)))

theorem Names.eq {package' : String} (names : disk.Names place package) (names' : disk.Names place package') :
    package' = package := by
  obtain ⟨name, clause, found, ⟨bytes, text, here, decoded, named⟩, rfl⟩ := names
  obtain ⟨name', clause', found', ⟨bytes', text', here', decoded', named'⟩, rfl⟩ := names'
  obtain rfl := Option.some.inj (found.symm.trans found')
  obtain rfl : bytes = bytes' := by simpa using here.symm.trans here'
  obtain rfl := Option.some.inj (decoded.symm.trans decoded')
  rw [Except.ok.inj (named.symm.trans named')]

theorem hasTest_iff (proper : disk.Proper) (names : disk.Names place package) :
    disk.HasTest place name ↔
      name ∈ (disk.goFiles place).filter fun name => Conventions.ginkgo.isConvertible (Text.lossy name) package := by
  rw [List.mem_filter, mem_goFiles proper]
  constructor
  · rintro ⟨file, package', names', input⟩
    rw [names.eq names'] at input
    exact ⟨⟨(Conventions.convertedFileName_of_isConvertible input).1, file⟩, input⟩
  · rintro ⟨⟨-, file⟩, input⟩
    exact ⟨file, package, names, input⟩

theorem lead_join {cwd : Location} {dir : Bytes} (filled : dir ≠ []) (isName : Path.IsName name) :
    lead cwd (Path.join dir name) = lead cwd dir ++ [name] := by
  obtain ⟨front, -, dirs, shape⟩ := Path.segments_join filled
  unfold lead origin
  rw [shape name isName.segment, Path.isAbsolute_join filled isName.segment, List.foldl_append]
  rcases dirs with dirs | dirs
  · rw [dirs]
    exact enter_of_isName isName _
  · rw [dirs, List.foldl_append]
    exact enter_of_isName isName _

end

end Disk

structure Finding where
  way : List Bytes
  name : Bytes

namespace Finding

def path (dir : Bytes) (file : Finding) : Bytes :=
  Path.join (file.way.foldl Path.join dir) file.name

/-- In the order of names, a directory's own files before those of the directories in it. -/
def Precedes (first second : Finding) : Prop :=
  List.Lex Bytes.Precedes first.way second.way ∨ first.way = second.way ∧ first.name.Precedes second.name

def under (dir : Bytes) (file : Finding) : Finding :=
  ⟨dir :: file.way, file.name⟩

variable {cwd : Location} {dir : Bytes}

theorem Precedes.under {first second : Finding} (precedes : first.Precedes second) (dir : Bytes) :
    (first.under dir).Precedes (second.under dir) := by
  rcases precedes with less | ⟨same, less⟩
  · exact .inl (.cons less)
  · exact .inr ⟨by rw [Finding.under, Finding.under, same], less⟩

theorem lead_path (file : Finding) (filled : dir ≠ []) (areNames : ∀ name ∈ file.way ++ [file.name], Path.IsName name) :
    lead cwd (file.path dir) = lead cwd dir ++ (file.way ++ [file.name]) := by
  obtain ⟨way, name⟩ := file
  unfold path
  induction way generalizing dir with
  | nil => exact lead_join filled (areNames name (by simp))
  | cons first way ih =>
    have isName := areNames first (by simp)
    have rest := @ih (Path.join dir first) (Path.join_ne_empty filled isName.segment) fun name here =>
      areNames name (List.mem_cons_of_mem _ here)
    rw [lead_join filled isName, List.append_assoc] at rest
    exact rest

end Finding

/-- The files are the tests of the directories on some ways, each once and in order. -/
def Disk.Lists (disk : Disk) (place : Location) (dir : Bytes) (ways : List Bytes → Prop) (files : List Bytes) :
    Prop :=
  ∃ found : List Finding, files = found.map (Finding.path dir) ∧
    (∀ file, file ∈ found ↔ ways file.way ∧ disk.HasTest (place ++ file.way) file.name) ∧
    found.Pairwise Finding.Precedes

namespace Disk.Lists

variable {disk : Disk} {place : Location} {dir name : Bytes} {package : String} {ways ways' : List Bytes → Prop}
  {files files' : List Bytes}

theorem nil (none : ∀ way, ¬ways way) : disk.Lists place dir ways [] :=
  ⟨[], rfl, fun file => by simp [none], .nil⟩

theorem append (one : disk.Lists place dir ways files) (two : disk.Lists place dir ways' files')
    (less : ∀ way way', ways way → ways' way' → List.Lex Bytes.Precedes way way') :
    disk.Lists place dir (fun way => ways way ∨ ways' way) (files ++ files') := by
  obtain ⟨found, rfl, members, sorted⟩ := one
  obtain ⟨found', rfl, members', sorted'⟩ := two
  refine ⟨found ++ found', by rw [List.map_append], ?_, ?_⟩
  · intro file
    rw [List.mem_append, members, members', or_and_right]
  · rw [List.pairwise_append]
    refine ⟨sorted, sorted', fun file here file' here' => .inl (less _ _ ?_ ?_)⟩
    · exact ((members file).mp here).1
    · exact ((members' file').mp here').1

theorem congr (lists : disk.Lists place dir ways files) (same : ∀ way, ways way ↔ ways' way) :
    disk.Lists place dir ways' files := by
  obtain ⟨found, shape, members, sorted⟩ := lists
  exact ⟨found, shape, fun file => by rw [members, same], sorted⟩

theorem under (lists : disk.Lists (place ++ [name]) (Path.join dir name) ways files) :
    disk.Lists place dir (fun way => ∃ rest, way = name :: rest ∧ ways rest) files := by
  obtain ⟨found, rfl, members, sorted⟩ := lists
  refine ⟨found.map (Finding.under name), ?_, ?_, ?_⟩
  · rw [List.map_map]
    rfl
  · intro file
    rw [List.mem_map]
    constructor
    · rintro ⟨inner, here, rfl⟩
      obtain ⟨covered, test⟩ := (members inner).mp here
      refine ⟨⟨inner.way, rfl, covered⟩, ?_⟩
      rwa [List.append_assoc] at test
    · obtain ⟨way, last⟩ := file
      rintro ⟨⟨rest, rfl, covered⟩, test⟩
      refine ⟨⟨rest, last⟩, (members _).mpr ⟨covered, ?_⟩, rfl⟩
      rwa [List.append_assoc]
  · exact List.pairwise_map.mpr (sorted.imp fun precedes => precedes.under name)

theorem own (proper : disk.Proper) (names : disk.Names place package) :
    disk.Lists place dir (· = []) (((disk.goFiles place).filter
      fun name => Conventions.ginkgo.isConvertible (Text.lossy name) package).map (Path.join dir)) := by
  refine ⟨((disk.goFiles place).filter fun name => Conventions.ginkgo.isConvertible (Text.lossy name) package).map
    (Finding.mk []), ?_, ?_, ?_⟩
  · rw [List.map_map]
    rfl
  · rintro ⟨way, name⟩
    simp only [List.mem_map, Finding.mk.injEq]
    constructor
    · rintro ⟨_, here, rfl, rfl⟩
      refine ⟨rfl, ?_⟩
      rw [List.append_nil]
      exact (hasTest_iff proper names).mpr here
    · rintro ⟨rfl, test⟩
      rw [List.append_nil] at test
      exact ⟨name, (hasTest_iff proper names).mp test, rfl, rfl⟩
  · refine List.pairwise_map.mpr (((sorted_names proper place isSource).filter _).imp fun less => ?_)
    exact .inr ⟨rfl, less⟩

theorem nodup (lists : disk.Lists place dir ways files) (proper : disk.Proper) (filled : dir ≠ []) : files.Nodup := by
  obtain ⟨found, rfl, members, sorted⟩ := lists
  refine List.pairwise_map.mpr (sorted.imp_of_mem fun {first second} here here' precedes same => ?_)
  have lead (file : Finding) (member : file ∈ found) :
      lead [] (file.path dir) = lead [] dir ++ (file.way ++ [file.name]) := by
    obtain ⟨-, ⟨bytes, there⟩, -⟩ := (members file).mp member
    refine file.lead_path filled fun name here => proper.names there name ?_
    rw [List.append_assoc]
    exact List.mem_append_right _ here
  have ends : first.way ++ [first.name] = second.way ++ [second.name] := by
    rw [← List.append_cancel_left_eq (Disk.lead [] dir), ← lead first here, ← lead second here', same]
  obtain ⟨way, name⟩ := List.append_inj' ends rfl
  rcases precedes with less | ⟨-, less⟩
  · rw [way] at less
    exact List.lex_irrefl (fun _ same => same.2 rfl) _ less
  · rw [List.cons.inj name |>.1] at less
    exact less.2 rfl

theorem own_nil (none : disk.goFiles place = []) : disk.Lists place dir (· = []) [] := by
  refine ⟨[], rfl, ?_, .nil⟩
  rintro ⟨way, name⟩
  constructor
  · intro impossible
    cases impossible
  · rintro ⟨rfl, -, package, names, -⟩
    rw [List.append_nil] at names
    exact (names.goFiles_ne_nil none).elim

end Disk.Lists

/-- What is on the disk after the directories on some ways were given their suites, if suites are asked for. -/
structure Disk.Leaves (base : Disk) (cwd : Location) (createSuite : Bool) (place : Location) (dir : Bytes)
    (ways : List Bytes → Prop) (before after : Disk) : Prop where
  proper : after.Proper
  dirs : SameDirs base after
  suites : createSuite = true → ∀ way, ways way → base.goFiles (place ++ way) ≠ [] →
    ∃ package, base.Names (place ++ way) package ∧
      base.Leads cwd (way.foldl Path.join dir) (place ++ way) ∧
      after.exists? cwd (Suite.path .ginkgo (way.foldl Path.join dir) package) = true
  changes : ∀ there, after.at? there ≠ before.at? there → createSuite = true ∧ before.at? there = none ∧
    ∃ way package, ways way ∧ base.Names (place ++ way) package ∧
      there = place ++ way ++ [Conventions.suiteName package] ∧
      after.at? there = some (.file (Suite.source .ginkgo package).toUTF8)

namespace Disk.Leaves

variable {base before between after : Disk} {cwd place : Location} {createSuite : Bool} {dir name : Bytes}
  {package : String}
  {ways ways' : List Bytes → Prop}

theorem refl (proper : before.Proper) (dirs : SameDirs base before)
    (none : ∀ way, ways way → base.goFiles (place ++ way) = []) :
    base.Leaves cwd createSuite place dir ways before before :=
  ⟨proper, dirs, fun _ way here some => (some (none way here)).elim, fun _ differ => (differ rfl).elim⟩

theorem at?_eq (leaves : base.Leaves cwd createSuite place dir ways before after) {there : Location}
    (outside : ∀ way, ways way → ∀ suite, there ≠ place ++ way ++ [suite]) : after.at? there = before.at? there := by
  by_contra differ
  obtain ⟨-, -, way, package, here, -, rfl, -⟩ := leaves.changes there differ
  exact outside way here _ rfl

theorem within (leaves : base.Leaves cwd createSuite place dir ways before after) : before.Within after := by
  intro there some
  by_cases differ : after.at? there = before.at? there
  · rwa [differ]
  · rw [(leaves.changes there differ).2.1] at some
    cases some

theorem exists?_of_within (leads : base.Leads cwd dir place) (isName : Path.IsName name) (dirs : SameDirs base before)
    (dirs' : SameDirs base after) (within : before.Within after)
    (present : before.exists? cwd (Path.join dir name) = true) : after.exists? cwd (Path.join dir name) = true := by
  have leads' := leads.of_dirs fun place => (dirs place).mpr
  obtain ⟨checked, short, some⟩ := (leads'.exists?_join isName).mp present
  have leads'' := leads.of_dirs fun place => (dirs' place).mpr
  exact (leads''.exists?_join isName).mpr ⟨checked, short, within _ some⟩

theorem trans (one : base.Leaves cwd createSuite place dir ways before between)
    (two : base.Leaves cwd createSuite place dir ways' between after) :
    base.Leaves cwd createSuite place dir (fun way => ways way ∨ ways' way) before after := by
  refine ⟨two.proper, two.dirs, ?suites, ?changes⟩
  case suites =>
    rintro asked way (here | here) some
    · obtain ⟨package, names, leads, present⟩ := one.suites asked way here some
      exact ⟨package, names, leads, exists?_of_within leads names.isName_suite one.dirs two.dirs two.within present⟩
    · exact two.suites asked way here some
  case changes =>
    intro there differ
    by_cases later : after.at? there = between.at? there
    · rw [later] at differ ⊢
      obtain ⟨asked, none, way, package, here, suite⟩ := one.changes there differ
      exact ⟨asked, none, way, package, .inl here, suite⟩
    · obtain ⟨asked, none, way, package, here, suite⟩ := two.changes there later
      refine ⟨asked, ?_, way, package, .inr here, suite⟩
      -- What is missing in between was missing before.
      by_contra some
      have kept := one.within there (Option.ne_none_iff_isSome.mp some)
      rw [none] at kept
      cases kept

theorem congr (leaves : base.Leaves cwd createSuite place dir ways before after) (same : ∀ way, ways way ↔ ways' way) :
    base.Leaves cwd createSuite place dir ways' before after := by
  obtain rfl : ways = ways' := funext fun way => propext (same way)
  exact leaves

theorem under (leaves : base.Leaves cwd createSuite (place ++ [name]) (Path.join dir name) ways before after) :
    base.Leaves cwd createSuite place dir (fun way => ∃ rest, way = name :: rest ∧ ways rest) before after := by
  refine ⟨leaves.proper, leaves.dirs, ?suites, ?changes⟩
  case suites =>
    rintro asked _ ⟨rest, rfl, here⟩ some
    have inside := leaves.suites asked rest here
    rw [List.append_assoc] at inside
    exact inside some
  case changes =>
    intro there differ
    obtain ⟨asked, none, rest, package, here, suite⟩ := leaves.changes there differ
    rw [List.append_assoc place] at suite
    exact ⟨asked, none, name :: rest, package, ⟨rest, rfl, here⟩, suite⟩

end Disk.Leaves

namespace Package

variable {host : Host} {settings : Settings} {base disk after : Disk} {dir : Bytes} {package : String}
  {place : Location}

theorem leaves_provide (maker : settings.maker = .template) (conventions : settings.conventions = .ginkgo)
    (proper : disk.Proper) (dirs : SameDirs base disk) (leads : base.Leads host.cwd dir place)
    (names : base.Names place package) {tests : List Bytes} {done : Unit}
    (provided : Yields (provide host settings (some ⟨dir, package, tests⟩)) disk done after) :
    base.Leaves host.cwd settings.createSuite place dir (· = []) disk after := by
  rw [provide, maker, conventions] at provided
  cases asked : settings.createSuite with
  | false =>
    rw [asked] at provided
    obtain ⟨-, rfl⟩ := yields_pure.mp provided
    exact ⟨proper, dirs, fun asked => (Bool.false_ne_true asked).elim, fun _ differ => (differ rfl).elim⟩
  | true =>
    rw [asked] at provided
    obtain ⟨made, between, ensured, done⟩ := yields_bind.mp provided
    obtain ⟨-, rfl⟩ := yields_pure.mp done
    have isName := names.isName_suite
    have leads' := leads.of_dirs fun place => (dirs place).mpr
    have found := yields_ensure ensured
    split at found
    · rename_i present
      subst found
      refine ⟨proper, dirs, ?_, fun _ differ => (differ rfl).elim⟩
      rintro - _ rfl -
      rw [List.append_nil]
      exact ⟨package, names, leads, present⟩
    · rename_i absent
      obtain ⟨checked, short, -, rfl⟩ := (leads'.writeText_join isName).mp found
      have below : place ++ [Conventions.suiteName package] ≠ [] := by simp
      have free : disk.at? (place ++ [Conventions.suiteName package]) = none := by
        by_contra some
        exact absent ((leads'.exists?_join isName).mpr ⟨checked, short, Option.ne_none_iff_isSome.mp some⟩)
      have dirs' : SameDirs base (disk.put (place ++ [Conventions.suiteName package])
          (.file (Suite.source .ginkgo package).toUTF8)) := by
        refine dirs.put below (fun isDir => ?_) _
        rw [(dirs _).mpr isDir] at free
        cases free
      refine ⟨?proper, dirs', ?suites, ?changes⟩
      case proper =>
        refine proper.put below (fun name there => ?_) _
        rcases List.mem_append.mp there with there | there
        · exact proper.names leads'.isDir name there
        · rw [List.mem_singleton.mp there]
          exact isName
      case suites =>
        rintro - _ rfl -
        rw [List.append_nil]
        have leads'' := leads.of_dirs fun place => (dirs' place).mpr
        refine ⟨package, names, leads, (leads''.exists?_join isName).mpr ⟨checked, short, ?_⟩⟩
        rw [at?_put below, if_pos rfl, Option.isSome_some]
      case changes =>
        intro there differ
        rw [at?_put below] at differ ⊢
        split at differ
        · rename_i same
          subst same
          refine ⟨rfl, free, [], package, rfl, ?_, ?_, if_pos rfl⟩ <;> rw [List.append_nil]
          exact names
        · exact (differ rfl).elim

theorem namingFile?_join {names : List Bytes} (filled : dir ≠ []) (areNames : ∀ name ∈ names, Path.IsName name) :
    namingFile? .ginkgo (names.map (Path.join dir)) =
      ((names.find? fun name => !Conventions.hasSuffix (Text.lossy name) "_test.go").or names.head?).map
        (Path.join dir) := by
  have kept : (names.map (Path.join dir)).filter (fun path => !Conventions.hasSuffix (nameOf path) "_test.go") =
      (names.filter fun name => !Conventions.hasSuffix (Text.lossy name) "_test.go").map (Path.join dir) := by
    rw [List.filter_map, List.filter_congr fun name here => ?_]
    rw [Function.comp, nameOf_join filled (areNames name here)]
  unfold namingFile?
  rw [← List.head?_filter, ← List.head?_filter, show Conventions.ginkgo.testSuffix = "_test.go" from rfl, kept,
    List.head?_map, List.head?_map]
  cases (names.filter fun name => !Conventions.hasSuffix (Text.lossy name) "_test.go").head? <;> rfl

theorem size_of_list {entries : List (Bytes × DiskNode)} (listed : disk.list host.cwd dir = .ok entries) :
    dir.length ≤ maxPathSize := by
  unfold Disk.list locate check at listed
  split_ifs at listed with nul empty long
  · cases listed
  · cases listed
  · cases listed
  · omega

section

variable (proper : base.Proper) (proper' : disk.Proper)
  (same : ∀ name, disk.at? (place ++ [name]) = base.at? (place ++ [name]))
include proper proper' same

theorem children_eq_of_same : disk.children place = base.children place := by
  have all : (disk.children place).filter (fun _ => true) = (base.children place).filter fun _ => true :=
    children_filter_eq proper' proper fun name node _ => by rw [same name]
  rwa [List.filter_true, List.filter_true] at all

theorem yields_ofFiles_goFiles {package? : Option Package} (leads : disk.Leads host.cwd dir place)
    (found : Yields (ofFiles host .ginkgo dir ((base.goFiles place).map (Path.join dir))) disk package? after) :
    after = disk ∧ (base.goFiles place = [] ∧ package? = none ∨ ∃ package, base.Names place package ∧
      package? = some ⟨dir, package, ((base.goFiles place).filter
        fun name => Conventions.ginkgo.isConvertible (Text.lossy name) package).map (Path.join dir)⟩) := by
  have areNames : ∀ name ∈ base.goFiles place, Path.IsName name := by
    intro name here
    obtain ⟨-, bytes, there⟩ := (mem_goFiles proper).mp here
    exact proper.names there name (by simp)
  have naming := namingFile?_join leads.filled areNames
  unfold ofFiles at found
  rw [naming] at found
  cases first : ((base.goFiles place).find? fun name => !Conventions.hasSuffix (Text.lossy name) "_test.go").or
      (base.goFiles place).head? with
  | none =>
    rw [first] at found naming
    obtain ⟨rfl, rfl⟩ := yields_pure.mp found
    exact ⟨rfl, .inl ⟨by simpa using namingFile?_eq_none.mp naming, rfl⟩⟩
  | some name =>
    rw [first] at found
    simp only [Option.map_some, yields_bind, yields_readText, yields_ofFault, yields_pure] at found
    obtain ⟨text, _, ⟨read, rfl⟩, clause, _, ⟨named, rfl⟩, rfl, rfl⟩ := found
    have isName : Path.IsName name := by
      refine areNames name ?_
      obtain early | ⟨-, early⟩ := Option.or_eq_some_iff.mp first
      · exact List.mem_of_find?_eq_some early
      · exact List.mem_of_mem_head? early
    obtain ⟨-, -, bytes, there, decoded⟩ := (leads.readText_join isName).mp read
    rw [same] at there
    refine ⟨rfl, .inr ⟨Package.named clause, ⟨name, clause, first, ⟨bytes, text, there, decoded, named⟩, rfl⟩, ?_⟩⟩
    rw [List.filter_map, List.filter_congr fun name here => ?_]
    · rfl
    · rw [Function.comp, nameOf_join leads.filled (areNames name here)]
      rfl

theorem surveyed {package? : Option Package} {dirs : List Bytes} (aims : base.Aims host.cwd dir place)
    (dirs' : SameDirs base disk) (found : Yields (survey host .ginkgo dir) disk (package?, dirs) after) :
    after = disk ∧ base.Leads host.cwd dir place ∧ dir.length ≤ maxPathSize ∧
      dirs = (base.searched place).map (Path.join dir) ∧
      (base.goFiles place = [] ∧ package? = none ∨ ∃ package, base.Names place package ∧
        package? = some ⟨dir, package, ((base.goFiles place).filter
          fun name => Conventions.ginkgo.isConvertible (Text.lossy name) package).map (Path.join dir)⟩) := by
  simp only [survey, yields_bind, yields_pure, Prod.exists, Prod.mk.injEq] at found
  obtain ⟨files, _, _, seen, _, _, made, ⟨rfl, rfl⟩, rfl⟩ := found
  obtain ⟨rfl, entries, listed, rfl, rfl⟩ := yields_contents.mp seen
  obtain ⟨leads, rfl⟩ := aims.list_eq dirs' listed
  have short := size_of_list listed
  rw [children_eq_of_same proper proper' same] at made
  have leads' := leads.of_dirs fun place => (dirs' place).mpr
  obtain ⟨rfl, package⟩ := yields_ofFiles_goFiles proper proper' same leads' (by rwa [goFiles, List.map_map])
  refine ⟨rfl, leads, short, ?_, package⟩
  rw [children_eq_of_same proper proper' same, searched, List.map_map]
  rfl

end

theorem ends_ofFiles_of_same {conventions : Conventions} {files : List Bytes}
    (same : ∀ path ∈ files, disk.readText host.cwd path = base.readText host.cwd path)
    {outcome : Except Error (Option Package)} (ends : Ends (ofFiles host conventions dir files) disk outcome after) :
    Ends (ofFiles host conventions dir files) base outcome base := by
  unfold ofFiles at ends ⊢
  cases naming : namingFile? conventions files with
  | none =>
    rw [naming] at ends
    exact ends_pure.mpr ⟨(ends_pure.mp ends).1, rfl⟩
  | some path =>
    rw [naming] at ends
    let made (clause : String) : Except Error (Option Package) :=
      let name := (Conventions.dropSuffix? clause "_test").getD clause
      .ok (some ⟨dir, name, files.filter fun path => conventions.isConvertible (nameOf path) name⟩)
    have run (disk : Disk) := (ends_readText host path disk).bind fun text =>
      (ends_ofFault path (packageNameOf text) disk).bind fun clause =>
        (ends_pure.mpr ⟨rfl, rfl⟩ : Ends (pure _) disk (made clause) disk)
    rw [(Prod.mk.inj (ends.symm.trans (run disk))).1, same path (mem_of_namingFile? naming)]
    exact run base

end Package

namespace Disk

structure Untouched (base disk : Disk) (place : Location) : Prop where
  proper : disk.Proper
  dirs : SameDirs base disk
  fresh : ∀ there, place <+: there → disk.at? there = base.at? there

def Fixed (base : Disk) (cwd : Location) (path : Bytes) : Prop :=
  ∀ disk, SameDirs base disk → disk.locate cwd path = base.locate cwd path

variable {base disk before after : Disk} {cwd place : Location} {dir name name' : Bytes} {createSuite : Bool}

theorem Untouched.listed (untouched : base.Untouched disk place) (name : Bytes) :
    disk.at? (place ++ [name]) = base.at? (place ++ [name]) :=
  untouched.fresh _ (List.prefix_append _ _)

theorem Untouched.below (untouched : base.Untouched disk place) (name : Bytes) :
    base.Untouched disk (place ++ [name]) :=
  ⟨untouched.proper, untouched.dirs, fun there within => untouched.fresh there ((List.prefix_append _ _).trans within)⟩

theorem Leaves.untouched {ways : List Bytes → Prop}
    (leaves : base.Leaves cwd createSuite (place ++ [name]) (Path.join dir name) ways before after)
    (untouched : base.Untouched before (place ++ [name'])) (differ : name' ≠ name) :
    base.Untouched after (place ++ [name']) := by
  refine ⟨leaves.proper, leaves.dirs, fun there within => ?_⟩
  rw [← untouched.fresh there within]
  refine leaves.at?_eq fun way _ suite same => differ (Package.eq_of_below within ?_)
  rw [same, List.append_assoc]
  exact List.prefix_append _ _

theorem fixed_of_locate (located : base.locate cwd dir = .ok (place, .dir)) : base.Fixed cwd dir :=
  fun _ dirs => (locate_of_dirs (fun place => (dirs place).mpr) located).trans located.symm

theorem Leads.fixed_join (leads : base.Leads cwd dir place) (isName : Path.IsName name)
    (isDir : base.at? (place ++ [name]) = some .dir) : base.Fixed cwd (Path.join dir name) := by
  intro disk dirs
  have reaches : base.Reaches cwd (Path.join dir name) := ⟨dir, name, place, rfl, leads, isName⟩
  refine reaches.locate_eq dirs ?_
  rw [leads.lead_join isName, isDir, (dirs _).mpr isDir]

end Disk

namespace Package

variable {host : Host} {settings : Settings} {base disk after : Disk} {dir : Bytes} {place : Location}

theorem list_of_untouched (proper : base.Proper) (aims : base.Aims host.cwd dir place)
    (fixed : base.Fixed host.cwd dir) (untouched : base.Untouched disk place) :
    disk.list host.cwd dir = base.list host.cwd dir := by
  unfold Disk.list
  rw [fixed disk untouched.dirs]
  cases located : base.locate host.cwd dir with
  | error refusal => rfl
  | ok found =>
    obtain ⟨there, node⟩ := found
    cases node with
    | file bytes => rfl
    | dir =>
      obtain rfl := aims.only there (leads_of_locate located).found
      simp only [bind, Except.bind, children_eq_of_same proper untouched.proper untouched.listed]

theorem ends_survey_of_list {conventions : Conventions} {refusal : Refusal}
    (refused : disk.list host.cwd dir = .error refusal) :
    Ends (survey host conventions dir) disk (.error (.file dir (.listing dir refusal))) disk := by
  have listed : Ends (host.list dir) disk (.error (.file dir (.listing dir refusal))) disk := by
    rw [Host.list, ends_get_bind, refused]
    rfl
  exact ends_bind.mpr (.inl ⟨_, rfl, ends_bind.mpr (.inl ⟨_, rfl, listed⟩)⟩)

theorem ends_survey_of_untouched (proper : base.Proper) (aims : base.Aims host.cwd dir place)
    (fixed : base.Fixed host.cwd dir) (untouched : base.Untouched disk place)
    {outcome : Except Error (Option Package × List Bytes)}
    (ends : Ends (survey host .ginkgo dir) disk outcome after) : Ends (survey host .ginkgo dir) base outcome base := by
  have same := list_of_untouched proper aims fixed untouched
  cases listed : base.list host.cwd dir with
  | error refusal =>
    rw [listed] at same
    rw [(Prod.mk.inj (ends.symm.trans (ends_survey_of_list same))).1]
    exact ends_survey_of_list listed
  | ok entries =>
    rw [listed] at same
    obtain ⟨leads, shape⟩ := aims.list_eq (.refl base) listed
    have read : ∀ path ∈ (entries.filter isSource).map (Path.join dir ·.1),
        disk.readText host.cwd path = base.readText host.cwd path := by
      intro path here
      obtain ⟨⟨name, node⟩, member, rfl⟩ := List.mem_map.mp here
      rw [shape] at member
      have there := (mem_children proper).mp (List.mem_of_mem_filter member)
      have isName := proper.names there name (by simp)
      have reaches : base.Reaches host.cwd (Path.join dir name) := ⟨dir, name, place, rfl, leads, isName⟩
      refine reaches.readText_eq untouched.dirs ?_
      rw [leads.lead_join isName]
      exact untouched.listed name
    have seen (disk : Disk) (listed : disk.list host.cwd dir = .ok entries) :=
      yields_contents.mpr ⟨rfl, entries, listed, rfl, rfl⟩
    rcases ends_bind.mp ends with ⟨error, -, failed⟩ | ⟨value, between, found, rest⟩
    · cases failed.symm.trans (seen disk same)
    · cases found.symm.trans (seen disk same)
      refine ends_bind.mpr (.inr ⟨_, base, seen base listed, ?_⟩)
      rcases ends_bind.mp rest with ⟨error, rfl, failed⟩ | ⟨package?, between, made, done⟩
      · exact ends_bind.mpr (.inl ⟨error, rfl, ends_ofFiles_of_same read failed⟩)
      · obtain ⟨rfl, -⟩ := ends_pure.mp done
        exact ends_bind.mpr (.inr ⟨package?, base, ends_ofFiles_of_same read made, ends_pure.mpr ⟨rfl, rfl⟩⟩)

theorem suite_of_provide_error (maker : settings.maker = .template) {package? : Option Package} {error : Error}
    (failed : Ends (provide host settings package?) disk (.error error) after) : ∃ fault, error = .suite fault := by
  cases package? with
  | none => cases (ends_pure.mp failed).1
  | some package =>
    rw [provide, maker] at failed
    split at failed
    · rcases ends_bind.mp failed with ⟨error', same, refused⟩ | ⟨_, _, -, done⟩
      · cases same
        rcases ends_bind.mp refused with ⟨error', same, impossible⟩ | ⟨present, between, one, two⟩
        · cases same
          cases impossible
        · split at two
          · cases (ends_pure.mp two).1
          · rcases ends_bind.mp two with ⟨error', same, written⟩ | ⟨_, _, -, done⟩
            · cases same
              change Ends (Suite.writeTemplate host settings.conventions package.dir package.name) _ _ _ at written
              rw [Suite.writeTemplate, ends_get_bind] at written
              split at written
              · cases written
              · cases (ends_throw.mp written).1
                exact ⟨_, rfl⟩
            · cases (ends_pure.mp done).1
      · cases (ends_pure.mp done).1
    · cases (ends_pure.mp failed).1

/-- What there is to find on some ways is found, suites are left there, and without suites the base gives the
same. -/
structure Explores {α : Type} (base : Disk) (cwd : Location) (createSuite : Bool) (place : Location) (dir : Bytes)
    (ways : List Bytes → Prop) (files : α → List Bytes) (walk quiet : Job α) (disk : Disk) : Prop where
  lists {result : α} {after : Disk} : Yields walk disk result after → base.Lists place dir ways (files result)
  leaves {result : α} {after : Disk} : Yields walk disk result after →
    base.Leaves cwd createSuite place dir ways disk after
  quiet {outcome : Except Error α} {after : Disk} : Ends walk disk outcome after →
    (∃ fault, outcome = .error (.suite fault)) ∨ Ends quiet base outcome base

theorem explores_mapM {walk quiet : Bytes → Job (List Bytes)} {createSuite : Bool} {names : List Bytes}
    (sorted : names.Pairwise Bytes.Precedes)
    (each : ∀ name ∈ names, ∀ disk, base.Untouched disk (place ++ [name]) →
      Explores base host.cwd createSuite (place ++ [name]) (Path.join dir name) (base.Visits (place ++ [name])) id
        (walk (Path.join dir name)) (quiet (Path.join dir name)) disk)
    (proper : disk.Proper) (dirs : SameDirs base disk)
    (untouched : ∀ name ∈ names, base.Untouched disk (place ++ [name])) :
    Explores base host.cwd createSuite place dir
      (fun way => ∃ name ∈ names, ∃ rest, way = name :: rest ∧ base.Visits (place ++ [name]) rest) List.flatten
      ((names.map (Path.join dir)).mapM walk) ((names.map (Path.join dir)).mapM quiet) disk := by
  induction names generalizing disk with
  | nil =>
    refine ⟨fun {result after} found => ?_, fun {result after} found => ?_, fun {outcome after} ends => ?_⟩
    · rw [(yields_pure.mp found).1]
      exact .nil (by simp)
    · rw [(yields_pure.mp found).2]
      exact .refl proper dirs (by simp)
    · exact .inr (ends_pure.mpr ⟨(ends_pure.mp ends).1, rfl⟩)
  | cons name names ih =>
    rw [List.pairwise_cons] at sorted
    have first := each name List.mem_cons_self disk (untouched name List.mem_cons_self)
    have later {files : List Bytes} {between : Disk} (found : Yields (walk (Path.join dir name)) disk files between) :=
      ih sorted.2 (fun name' here => each name' (List.mem_cons_of_mem _ here)) (first.leaves found).proper
        (first.leaves found).dirs fun name' here =>
          (first.leaves found).untouched (untouched name' (List.mem_cons_of_mem _ here)) fun same =>
            (sorted.1 name' here).2 same.symm
    have split (way : List Bytes) :
        ((∃ rest, way = name :: rest ∧ base.Visits (place ++ [name]) rest) ∨
          ∃ name' ∈ names, ∃ rest, way = name' :: rest ∧ base.Visits (place ++ [name']) rest) ↔
        ∃ name' ∈ name :: names, ∃ rest, way = name' :: rest ∧ base.Visits (place ++ [name']) rest := by
      simp
    rw [List.map_cons]
    refine ⟨fun {result after} found => ?_, fun {result after} found => ?_, fun {outcome after} ends => ?_⟩
    · obtain ⟨files, between, others, one, more, rfl⟩ := yields_mapM_cons.mp found
      rw [List.flatten_cons]
      refine ((first.lists one).under.append ((later one).lists more) ?_).congr split
      rintro _ _ ⟨rest, rfl, -⟩ ⟨name', here, rest', rfl, -⟩
      exact .rel (sorted.1 name' here)
    · obtain ⟨files, between, others, one, more, rfl⟩ := yields_mapM_cons.mp found
      exact ((first.leaves one).under.trans ((later one).leaves more)).congr split
    · rw [List.mapM_cons] at ends ⊢
      rcases ends_bind.mp ends with ⟨error, rfl, failed⟩ | ⟨files, between, one, rest⟩
      · refine (first.quiet failed).imp ?_ fun failed' => ends_bind.mpr (.inl ⟨error, rfl, failed'⟩)
        rintro ⟨fault, ⟨⟩⟩
        exact ⟨fault, rfl⟩
      · have one' := (first.quiet one).resolve_left (by simp)
        rcases ends_bind.mp rest with ⟨error, rfl, failed⟩ | ⟨others, final, more, done⟩
        · refine ((later one).quiet failed).imp ?_ fun failed' =>
            ends_bind.mpr (.inr ⟨files, base, one', ends_bind.mpr (.inl ⟨error, rfl, failed'⟩)⟩)
          rintro ⟨fault, ⟨⟩⟩
          exact ⟨fault, rfl⟩
        · have more' := ((later one).quiet more).resolve_left (by simp)
          refine .inr (ends_bind.mpr (.inr ⟨files, base, one', ends_bind.mpr (.inr ⟨others, base, more', ?_⟩)⟩))
          exact ends_pure.mpr ⟨(ends_pure.mp done).1, rfl⟩

theorem size_join {name : Bytes} (isName : Path.IsName name) :
    dir.length + 1 ≤ (Path.join dir name).length := by
  have size := List.length_pos_of_ne_nil isName.filled
  unfold Path.join
  rw [if_neg (by simp [Path.isAbsolute_of_isSegment isName.segment])]
  split <;> simp only [List.length_append, List.length_cons] <;> omega

section

variable (maker : settings.maker = .template) (conventions : settings.conventions = .ginkgo) (proper : base.Proper)
  (aims : base.Aims host.cwd dir place) (fixed : base.Fixed host.cwd dir) (untouched : base.Untouched disk place)
include maker conventions proper aims fixed untouched

theorem explores_succ {depth : Nat}
    (below : base.Leads host.cwd dir place → dir.length ≤ maxPathSize →
      Explores base host.cwd settings.createSuite place dir
        (fun way => ∃ name ∈ base.searched place, ∃ rest, way = name :: rest ∧ base.Visits (place ++ [name]) rest)
        List.flatten (((base.searched place).map (Path.join dir)).mapM (walkTo host settings depth))
        (((base.searched place).map (Path.join dir)).mapM
          (walkTo host { settings with createSuite := false } depth)) disk) :
    Explores base host.cwd settings.createSuite place dir (base.Visits place) id
      (walkTo host settings (depth + 1) dir) (walkTo host { settings with createSuite := false } (depth + 1) dir)
      disk := by
  have visits (way : List Bytes) := @visits_iff base place way proper aims.isDir
  rw [walkTo_succ, walkTo_succ, conventions]
  rw [conventions] at below
  refine ⟨fun {result after} found => ?lists, fun {result after} found => ?leaves, fun {outcome after} ends => ?quiet⟩
  case lists =>
    obtain ⟨⟨package?, dirs⟩, _, seen, rest⟩ := yields_bind.mp found
    obtain ⟨rfl, leads, short, rfl, package⟩ :=
      surveyed proper untouched.proper untouched.listed aims untouched.dirs seen
    obtain ⟨lists, between, walked, rest⟩ := yields_bind.mp rest
    obtain ⟨_, _, -, done⟩ := yields_bind.mp rest
    obtain ⟨rfl, -⟩ := yields_pure.mp done
    have others := (below leads short).lists walked
    have own : base.Lists place dir (· = []) ((package?.map (·.testFiles)).getD []) := by
      rcases package with ⟨none, rfl⟩ | ⟨package, names, rfl⟩
      · exact .own_nil none
      · exact .own proper names
    refine (own.append others ?_).congr fun way => (visits way).symm
    rintro _ _ rfl ⟨name, -, rest, rfl, -⟩
    exact .nil
  case leaves =>
    obtain ⟨⟨package?, dirs⟩, _, seen, rest⟩ := yields_bind.mp found
    obtain ⟨rfl, leads, short, rfl, package⟩ :=
      surveyed proper untouched.proper untouched.listed aims untouched.dirs seen
    obtain ⟨lists, between, walked, rest⟩ := yields_bind.mp rest
    obtain ⟨_, _, provided, done⟩ := yields_bind.mp rest
    obtain ⟨-, rfl⟩ := yields_pure.mp done
    have others := (below leads short).leaves walked
    refine (others.trans (?own : base.Leaves host.cwd settings.createSuite place dir (· = []) between after)).congr
      fun way => by rw [visits, or_comm]
    rcases package with ⟨none, rfl⟩ | ⟨package, names, rfl⟩
    · rw [(yields_pure.mp provided).2]
      refine .refl others.proper others.dirs ?_
      rintro _ rfl
      rwa [List.append_nil]
    · exact leaves_provide maker conventions others.proper others.dirs leads names provided
  case quiet =>
    rcases ends_bind.mp ends with ⟨error, rfl, failed⟩ | ⟨⟨package?, dirs⟩, _, seen, rest⟩
    · exact .inr (ends_bind.mpr (.inl ⟨error, rfl, ends_survey_of_untouched proper aims fixed untouched failed⟩))
    · have seen' := ends_survey_of_untouched proper aims fixed untouched seen
      obtain ⟨rfl, leads, short, rfl, -⟩ :=
        surveyed proper untouched.proper untouched.listed aims untouched.dirs seen
      rcases ends_bind.mp rest with ⟨error, rfl, failed⟩ | ⟨lists, between, walked, rest⟩
      · refine ((below leads short).quiet failed).imp ?_ fun failed' =>
          ends_bind.mpr (.inr ⟨_, base, seen', ends_bind.mpr (.inl ⟨error, rfl, failed'⟩)⟩)
        rintro ⟨fault, ⟨⟩⟩
        exact ⟨fault, rfl⟩
      · have walked' := ((below leads short).quiet walked).resolve_left (by simp)
        rcases ends_bind.mp rest with ⟨error, rfl, failed⟩ | ⟨_, _, -, done⟩
        · obtain ⟨fault, rfl⟩ := suite_of_provide_error maker failed
          exact .inl ⟨fault, rfl⟩
        · obtain ⟨rfl, -⟩ := ends_pure.mp done
          -- Without suites there is nothing to provide.
          have provided : Ends (provide host ⟨settings.destructive, false, settings.maker, .ginkgo⟩ package?)
              base (.ok ())
              base := by
            cases package? <;> rfl
          exact .inr (ends_bind.mpr (.inr ⟨_, base, seen', ends_bind.mpr (.inr ⟨lists, base, walked',
            ends_bind.mpr (.inr ⟨(), base, provided, ends_pure.mpr ⟨rfl, rfl⟩⟩)⟩)⟩))

/-- Walks explore the directories below. No path that can be listed is as long as the depth allows, so that they come
to all of them. -/
theorem explores_walkTo (depth : Nat) (positive : 0 < depth) (deep : maxPathSize + 2 ≤ depth + dir.length) :
    Explores base host.cwd settings.createSuite place dir (base.Visits place) id (walkTo host settings depth dir)
      (walkTo host { settings with createSuite := false } depth dir) disk := by
  induction depth generalizing dir place disk with
  | zero => omega
  | succ depth ih =>
    refine explores_succ maker conventions proper aims fixed untouched fun leads short => ?_
    refine explores_mapM (sorted_names proper place _) (fun name here disk untouched => ?_) untouched.proper
      untouched.dirs fun name _ => untouched.below name
    obtain ⟨isDir, -⟩ := (mem_searched proper).mp here
    have isName := proper.names isDir name (by simp)
    have longer := @size_join dir name isName
    exact ih (leads.aims_join isName isDir) (leads.fixed_join isName isDir) untouched (by omega) (by omega)

end

/-- A walk that succeeds lists the tests to convert of every directory it comes to, each once and in order, and it
would without suites. Suites are what it adds to the disk: every package has one after a walk that is asked for
them. -/
theorem walk_finds_every_test {files : List Bytes} (maker : settings.maker = .template)
    (conventions : settings.conventions = .ginkgo) (proper : disk.Proper)
    (located : disk.locate host.cwd dir = .ok (place, .dir))
    (walked : (walk host settings dir).run.run disk = (.ok files, after)) :
    (∃ found : List Finding, files = found.map (Finding.path dir) ∧
      (∀ file, file ∈ found ↔ disk.Visits place file.way ∧ disk.HasTest (place ++ file.way) file.name) ∧
      found.Pairwise Finding.Precedes) ∧
    files.Nodup ∧
    (∀ createSuite outcome after', (walk host { settings with createSuite } dir).run.run disk = (outcome, after') →
      outcome = .ok files ∨ createSuite = true ∧ ∃ fault, outcome = .error (.suite fault)) ∧
    (settings.createSuite = true → ∀ way, disk.Visits place way → disk.goFiles (place ++ way) ≠ [] →
      ∃ package, disk.Names (place ++ way) package ∧
        after.exists? host.cwd (Suite.path .ginkgo (way.foldl Path.join dir) package) = true) ∧
    (∀ there, after.at? there ≠ disk.at? there → disk.at? there = none ∧
      ∃ way package, disk.Visits place way ∧ disk.Names (place ++ way) package ∧
        there = place ++ way ++ [Conventions.suiteName package] ∧
        after.at? there = some (.file (Suite.source .ginkgo package).toUTF8)) ∧
    (settings.createSuite = false → after = disk) := by
  have leads := leads_of_locate located
  have filled := List.length_pos_of_ne_nil leads.filled
  have explores (settings : Settings) (maker : settings.maker = .template)
      (conventions : settings.conventions = .ginkgo) :=
    explores_walkTo maker conventions proper leads.aims (fixed_of_locate located) ⟨proper, .refl disk, fun _ _ => rfl⟩
      (maxPathSize + 1) (by omega) (by omega)
  have quiet := ((explores settings maker conventions).quiet walked).resolve_left (by simp)
  have leaves := (explores settings maker conventions).leaves walked
  have lists := (explores settings maker conventions).lists walked
  refine ⟨lists, lists.nodup proper leads.filled, ?same, ?suites, ?changes, ?none⟩
  case same =>
    intro createSuite outcome after' ends
    cases createSuite with
    | false => exact .inl (Prod.mk.inj (ends.symm.trans quiet)).1
    | true =>
      rcases (explores { settings with createSuite := true } maker conventions).quiet ends with suite | quiet'
      · exact .inr ⟨rfl, suite⟩
      · exact .inl (Prod.mk.inj (quiet'.symm.trans quiet)).1
  case suites =>
    intro asked way visits some
    obtain ⟨package, names, -, present⟩ := leaves.suites asked way visits some
    exact ⟨package, names, present⟩
  case changes => exact fun there differ => (leaves.changes there differ).2
  case none =>
    intro asked
    obtain ⟨destructive, createSuite, maker', conventions'⟩ := settings
    obtain rfl : createSuite = false := asked
    exact (Prod.mk.inj (walked.symm.trans quiet)).2

end Package

open OneDir

theorem OneTest.walk_finds_test :
    (Package.walk host settings dir).run.run (disk (files source false)) =
        (.ok [path (Text.utf8 "b_test.go")], disk (files source true)) ∧
      (∀ file : Finding, (disk (files source false)).Visits [dir] file.way →
        (disk (files source false)).HasTest ([dir] ++ file.way) file.name →
          file.path dir = path (Text.utf8 "b_test.go")) ∧
      ∀ way, (disk (files source false)).Visits [dir] way → (disk (files source false)).goFiles ([dir] ++ way) ≠ [] →
        ∃ package, (disk (files source false)).Names ([dir] ++ way) package ∧
          (disk (files source true)).exists? [] (Suite.path .ginkgo (way.foldl Path.join dir) package) = true := by
  have walked := yields_walk source false
  obtain ⟨⟨found, shape, members, -⟩, -, -, suites, -⟩ :=
    Package.walk_finds_every_test rfl rfl (proper_disk (listed_files source false)) (locate_dir _) walked
  refine ⟨walked, fun file visits test => ?_, suites rfl⟩
  have here : file.path dir ∈ found.map (Finding.path dir) := List.mem_map_of_mem ((members file).mpr ⟨visits, test⟩)
  rw [← shape] at here
  exact List.mem_singleton.mp here

end GoSpecs
