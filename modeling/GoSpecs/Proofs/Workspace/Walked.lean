import GoSpecs.Proofs.Workspace.Runs

namespace GoSpecs

open Disk Job

namespace Package

def walkedIn (walk : Bytes → Job (List Bytes)) (log : Bytes → Disk → List Package) :
    List Bytes → Disk → List Package
  | [], _ => []
  | dir :: dirs, disk =>
    log dir disk ++
      match (walk dir).run.run disk with
      | (.ok _, disk) => walkedIn walk log dirs disk
      | (.error _, _) => []

def walkedTo (host : Host) (settings : Settings) : (depth : Nat) → (dir : Bytes) → Disk → List Package
  | 0, _, _ => []
  | depth + 1, dir, disk =>
    match (survey host settings.conventions dir).run.run disk with
    | (.ok (package?, dirs), disk) =>
      package?.toList ++ walkedIn (walkTo host settings depth) (walkedTo host settings depth) dirs disk
    | (.error _, _) => []

def search (host : Host) (settings : Settings) (id : String) : Job (List Bytes) :=
  resolve host id >>= walk host settings

theorem convertPackage_eq_search (host : Host) (settings : Settings) (id : String) :
    host.convertPackage settings id =
      search host settings id >>= fun files => files.mapM (host.convertFile settings) := by
  rw [Host.convertPackage, search, bind_assoc]

def walked (host : Host) (settings : Settings) (id : String) (disk : Disk) : List Package :=
  match (resolve host id).run.run disk with
  | (.ok dir, disk) => walkedTo host settings (maxPathSize + 1) dir disk
  | (.error _, _) => []

section

variable {host : Host} {settings : Settings} {depth : Nat} {dir : Bytes} {disk between after : Disk}

theorem walkedTo_of_error {error : Error}
    (failed : Ends (survey host settings.conventions dir) disk (.error error) after) :
    walkedTo host settings (depth + 1) dir disk = [] := by
  rw [walkedTo, failed]

theorem walkedTo_of_ok {package? : Option Package} {dirs : List Bytes}
    (found : Yields (survey host settings.conventions dir) disk (package?, dirs) disk) :
    walkedTo host settings (depth + 1) dir disk = package?.toList ++
      walkedIn (walkTo host settings depth) (walkedTo host settings depth) dirs disk := by
  rw [walkedTo, found]

section

variable {walk : Bytes → Job (List Bytes)} {log : Bytes → Disk → List Package} {dirs : List Bytes}

theorem walkedIn_of_error {error : Error} (failed : Ends (walk dir) disk (.error error) after) :
    walkedIn walk log (dir :: dirs) disk = log dir disk := by
  rw [walkedIn, failed, List.append_nil]

theorem walkedIn_of_ok {files : List Bytes} (found : Yields (walk dir) disk files between) :
    walkedIn walk log (dir :: dirs) disk = log dir disk ++ walkedIn walk log dirs between := by
  rw [walkedIn, found]

theorem flatten_eq_walkedIn
    (each : ∀ dir disk files after, Yields (walk dir) disk files after → files = (log dir disk).flatMap (·.testFiles))
    {lists : List (List Bytes)} (found : Yields (dirs.mapM walk) disk lists after) :
    lists.flatten = (walkedIn walk log dirs disk).flatMap (·.testFiles) := by
  induction dirs generalizing disk lists with
  | nil =>
    rw [(yields_pure.mp found).1]
    rfl
  | cons dir dirs ih =>
    obtain ⟨files, between, others, one, more, rfl⟩ := yields_mapM_cons.mp found
    rw [walkedIn_of_ok one, List.flatMap_append, List.flatten_cons, ih more, each dir disk files between one]

end

theorem files_eq_walkedTo {files : List Bytes} (found : Yields (walkTo host settings depth dir) disk files after) :
    files = (walkedTo host settings depth dir disk).flatMap (·.testFiles) := by
  induction depth generalizing dir disk files after with
  | zero =>
    rw [(yields_pure.mp found).1]
    rfl
  | succ depth ih =>
    rw [walkTo_succ] at found
    obtain ⟨⟨package?, dirs⟩, same, surveyed, rest⟩ := yields_bind.mp found
    obtain rfl := Reads.survey host dir settings.conventions _ _ _ surveyed
    obtain ⟨below, between, walked, rest⟩ := yields_bind.mp rest
    obtain ⟨_, _, -, done⟩ := yields_bind.mp rest
    obtain ⟨rfl, -⟩ := yields_pure.mp done
    rw [walkedTo_of_ok surveyed, List.flatMap_append, flatten_eq_walkedIn (fun _ _ _ _ => ih) walked]
    cases package? <;> simp

theorem files_eq_walked {id : String} {files : List Bytes}
    (found : Yields (search host settings id) disk files after) :
    files = (walked host settings id disk).flatMap (·.testFiles) := by
  obtain ⟨dir, between, resolved, walked'⟩ := yields_bind.mp found
  rw [walked, resolved]
  exact files_eq_walkedTo walked'

end

end Package

namespace Disk

/-- The path leads to a directory, or cannot be followed for the length of its names. -/
structure Aims (disk : Disk) (cwd : Location) (path : Bytes) (place : Location) : Prop where
  filled : path ≠ []
  isDir : disk.at? place = some .dir
  only : ∀ there, disk.follow (origin cwd path) (Path.segments path) = .ok there → there = place

structure Holds (disk : Disk) (cwd : Location) (place : Location) (package : Package) : Prop where
  leads : disk.Leads cwd package.dir place
  suite : Path.IsName (Conventions.suiteName package.name)
  tests : ∃ names : List Bytes, names.Nodup ∧ package.testFiles = names.map (Path.join package.dir) ∧
    ∀ name ∈ names, Path.IsName name ∧ Conventions.ginkgo.isConvertible (Text.lossy name) package.name = true ∧
      ∃ bytes, disk.at? (place ++ [name]) = some (.file bytes)

variable {base disk after : Disk} {cwd place : Location} {dir name : Bytes}

theorem Leads.aims (leads : base.Leads cwd dir place) : base.Aims cwd dir place :=
  ⟨leads.filled, leads.isDir, fun _ found => Except.ok.inj (found.symm.trans leads.found)⟩

theorem Leads.aims_join (leads : base.Leads cwd dir place) (isName : Path.IsName name)
    (isDir : base.at? (place ++ [name]) = some .dir) : base.Aims cwd (Path.join dir name) (place ++ [name]) := by
  refine ⟨Path.join_ne_empty leads.filled isName.segment, isDir, fun there found => ?_⟩
  rw [eq_of_follow found]
  exact leads.lead_join isName

theorem Aims.list_eq (aims : base.Aims cwd dir place) (dirs : SameDirs base disk)
    {entries : List (Bytes × DiskNode)} (listed : disk.list cwd dir = .ok entries) :
    base.Leads cwd dir place ∧ entries = disk.children place := by
  unfold Disk.list at listed
  cases located : disk.locate cwd dir with
  | error refusal =>
    rw [located] at listed
    cases listed
  | ok result =>
    obtain ⟨there, node⟩ := result
    have way : disk.follow (origin cwd dir) (Path.segments dir) = .ok there ∧ disk.at? there = some node := by
      unfold locate at located
      cases checked : check dir with
      | error refusal =>
        rw [checked] at located
        cases located
      | ok _ =>
        rw [checked] at located
        cases found : disk.follow (origin cwd dir) (Path.segments dir) with
        | error refusal =>
          rw [found] at located
          cases located
        | ok there' =>
          rw [found] at located
          simp only [bind, Except.bind] at located
          split at located
          · rename_i node' here
            cases located
            exact ⟨rfl, here⟩
          · cases located
    have found := follow_of_dirs (fun place => (dirs place).mp) way.1
    obtain rfl := aims.only there found
    obtain rfl : node = .dir := Option.some.inj (way.2.symm.trans ((dirs there).mpr aims.isDir))
    rw [located] at listed
    cases listed
    exact ⟨⟨aims.filled, found, aims.isDir⟩, rfl⟩

theorem nodup_names (proper : disk.Proper) (place : Location) (test : Bytes × DiskNode → Bool) :
    (((disk.children place).filter test).map (·.1)).Nodup :=
  List.pairwise_map.mpr (((sorted_children proper place).filter test).imp And.right)

end Disk

namespace Package

variable {host : Host} {settings : Settings} {base disk after : Disk} {dir : Bytes} {place : Location}
  {package? : Option Package} {dirs : List Bytes}

theorem holds_of_ofFiles (proper : disk.Proper) (leads : base.Leads host.cwd dir place)
    (same : ∀ name, disk.at? (place ++ [name]) = base.at? (place ++ [name]))
    (found : Yields (ofFiles host .ginkgo dir (disk.sources dir place)) disk package? after) :
    ∀ package ∈ package?, base.Holds host.cwd place package := by
  unfold ofFiles at found
  split at found
  · rw [(yields_pure.mp found).1]
    simp
  · simp only [yields_bind, yields_readText, yields_ofFault, yields_pure] at found
    obtain ⟨text, _, ⟨-, rfl⟩, clause, _, ⟨named, rfl⟩, rfl, rfl⟩ := found
    rintro package ⟨⟩
    have isName := isIdentifier_named (Token.isIdentifier_of_genuine (genuine_of_packageNameOf named))
    refine ⟨leads, isName_suiteFileName isName, ?_⟩
    let names := ((after.children place).filter isSource).map (·.1)
    have listed : after.sources dir place = names.map (Path.join dir) := by
      rw [Disk.sources, List.map_map]
      rfl
    refine ⟨names.filter ((fun path => Conventions.ginkgo.isConvertible (nameOf path) (Package.named clause)) ∘
      Path.join dir), (nodup_names proper place isSource).filter _, ?_, ?_⟩
    · rw [← List.filter_map, ← listed]
      rfl
    · intro name here
      obtain ⟨here, input⟩ := List.mem_filter.mp here
      obtain ⟨⟨name', node⟩, member, rfl⟩ := List.mem_map.mp here
      obtain ⟨member, source⟩ := List.mem_filter.mp member
      obtain ⟨⟨bytes, rfl⟩, -⟩ := isSource_iff.mp source
      have there := (mem_children proper).mp member
      have isName := proper.names there name' (by simp)
      rw [Function.comp, nameOf, Path.fileName?_join leads.filled isName] at input
      rw [same] at there
      exact ⟨isName, input, bytes, there⟩

theorem holds_of_survey (proper : disk.Proper) (aims : base.Aims host.cwd dir place) (dirs' : SameDirs base disk)
    (same : ∀ name, disk.at? (place ++ [name]) = base.at? (place ++ [name]))
    (found : Yields (survey host .ginkgo dir) disk (package?, dirs) after) :
    base.Leads host.cwd dir place ∧ (∀ package ∈ package?, base.Holds host.cwd place package) ∧
      ∃ names : List Bytes, names.Nodup ∧ dirs = names.map (Path.join dir) ∧
        ∀ name ∈ names, Path.IsName name ∧ base.at? (place ++ [name]) = some .dir := by
  simp only [survey, yields_bind, yields_pure, Prod.exists, Prod.mk.injEq] at found
  obtain ⟨files, _, _, seen, _, _, made, ⟨rfl, rfl⟩, rfl⟩ := found
  obtain ⟨rfl, entries, listed, rfl, rfl⟩ := yields_contents.mp seen
  obtain ⟨leads, rfl⟩ := aims.list_eq dirs' listed
  refine ⟨leads, holds_of_ofFiles proper leads same made, ?_⟩
  refine ⟨_, nodup_names proper place fun entry => entry.2.isDir && !isIgnored (Text.lossy entry.1),
    by rw [List.map_map]; rfl, ?_⟩
  intro name here
  obtain ⟨⟨name', node⟩, member, rfl⟩ := List.mem_map.mp here
  obtain ⟨member, test⟩ := List.mem_filter.mp member
  have there := (mem_children proper).mp member
  have isName := proper.names there name' (by simp)
  cases node with
  | dir => exact ⟨isName, (same name').symm.trans there⟩
  | file bytes => simp [DiskNode.isDir] at test

end Package

namespace Disk

/-- All that was on the disk is as it was, and beside it there are suites of packages that had none. -/
structure Gains (cwd : Location) (packages : List Package) (base disk : Disk) : Prop where
  proper : disk.Proper
  kept : ∀ place, (base.at? place).isSome = true → disk.at? place = base.at? place
  added : ∀ place, base.at? place = none → disk.at? place = none ∨
    ∃ package ∈ packages, base.target cwd (Suite.path .ginkgo package.dir package.name) = .ok place ∧
      disk.at? place = some (.file (Suite.source .ginkgo package.name).toUTF8)

namespace Gains

variable {base disk : Disk} {cwd place : Location} {packages packages' : List Package} {package : Package}

theorem refl (proper : base.Proper) : Gains cwd packages base base :=
  ⟨proper, fun _ _ => rfl, fun _ none => .inl none⟩

theorem mono (gains : Gains cwd packages base disk) (more : packages ⊆ packages') : Gains cwd packages' base disk := by
  refine ⟨gains.proper, gains.kept, fun place none => ?_⟩
  rcases gains.added place none with none | ⟨package, here, suite⟩
  · exact .inl none
  · exact .inr ⟨package, more here, suite⟩

theorem sameDirs (gains : Gains cwd packages base disk) : SameDirs base disk := by
  intro place
  constructor
  · intro isDir
    cases found : base.at? place with
    | none =>
      rcases gains.added place found with none | ⟨package, -, -, file⟩
      · rw [none] at isDir
        cases isDir
      · rw [file] at isDir
        cases isDir
    | some node => rw [← found, ← gains.kept place (by rw [found]; rfl), isDir]
  · intro isDir
    rw [gains.kept place (by rw [isDir]; rfl), isDir]

theorem put (gains : Gains cwd packages base disk) (here : package ∈ packages) (holds : base.Holds cwd place package)
    (target : disk.target cwd (Suite.path .ginkgo package.dir package.name) =
      .ok (place ++ [Conventions.suiteName package.name]))
    (free : disk.at? (place ++ [Conventions.suiteName package.name]) = none) :
    Gains cwd packages base (disk.put (place ++ [Conventions.suiteName package.name])
      (.file (Suite.source .ginkgo package.name).toUTF8)) := by
  have below : place ++ [Conventions.suiteName package.name] ≠ [] := by simp
  have reaches : base.Reaches cwd (Suite.path .ginkgo package.dir package.name) :=
    ⟨package.dir, _, place, rfl, holds.leads, holds.suite⟩
  rw [reaches.target_eq gains.sameDirs] at target
  refine ⟨?proper, ?kept, ?added⟩
  case proper =>
    refine gains.proper.put below (fun name there => ?_) _
    rcases List.mem_append.mp there with there | there
    · exact gains.proper.names ((gains.sameDirs place).mpr holds.leads.isDir) name there
    · rw [List.mem_singleton.mp there]
      exact holds.suite
  case kept =>
    intro there some
    rw [at?_put below, if_neg, gains.kept there some]
    rintro rfl
    rw [gains.kept _ some] at free
    rw [free] at some
    cases some
  case added =>
    intro there none
    rw [at?_put below]
    split
    · rename_i same
      subst same
      exact .inr ⟨package, here, target, rfl⟩
    · exact gains.added there none

end Gains

def Finds (base : Disk) (cwd : Location) (area : Location → Prop) (packages : List Package) : Prop :=
  ∃ spots : List (Location × Package), packages = spots.map (·.2) ∧ (spots.map (·.1)).Nodup ∧
    ∀ spot ∈ spots, area spot.1 ∧ base.Holds cwd spot.1 spot.2

/-- How a walk through an area of the disk can end that came to some packages. -/
structure Toured (cwd : Location) (base before after : Disk) (area : Location → Prop)
    (earlier walked : List Package) : Prop where
  gains : Gains cwd (earlier ++ walked) base after
  frame : ∀ place, ¬area place → after.at? place = before.at? place
  finds : base.Finds cwd area walked

namespace Toured

variable {cwd place : Location} {base before between after : Disk} {area area' : Location → Prop}
  {earlier walked walked' : List Package}

theorem refl (gains : Gains cwd earlier base before) : Toured cwd base before before area earlier [] := by
  refine ⟨?_, fun _ _ => rfl, [], rfl, .nil, by simp⟩
  rwa [List.append_nil]

theorem trans (one : Toured cwd base before between area earlier walked)
    (two : Toured cwd base between after area' (earlier ++ walked) walked')
    (apart : ∀ place, area place → ¬area' place) :
    Toured cwd base before after (fun place => area place ∨ area' place) earlier (walked ++ walked') := by
  refine ⟨?gains, ?frame, ?finds⟩
  case gains =>
    rw [← List.append_assoc]
    exact two.gains
  case frame =>
    intro place outside
    rw [not_or] at outside
    rw [two.frame place outside.2, one.frame place outside.1]
  case finds =>
    obtain ⟨spots, rfl, distinct, holds⟩ := one.finds
    obtain ⟨spots', rfl, distinct', holds'⟩ := two.finds
    refine ⟨spots ++ spots', by rw [List.map_append], ?_, ?_⟩
    · rw [List.map_append, List.nodup_append]
      refine ⟨distinct, distinct', ?_⟩
      intro place here place' there same
      obtain ⟨spot, first, rfl⟩ := List.mem_map.mp here
      obtain ⟨spot', second, rfl⟩ := List.mem_map.mp there
      have outside := apart spot.1 (holds spot first).1
      rw [same] at outside
      exact outside (holds' spot' second).1
    · intro spot here
      rcases List.mem_append.mp here with here | here
      · exact (holds spot here).imp .inl id
      · exact (holds' spot here).imp .inr id

theorem mono (toured : Toured cwd base before after area earlier walked) (wider : ∀ place, area place → area' place) :
    Toured cwd base before after area' earlier walked := by
  refine ⟨toured.gains, fun place outside => toured.frame place fun inside => outside (wider place inside), ?_⟩
  obtain ⟨spots, same, distinct, holds⟩ := toured.finds
  exact ⟨spots, same, distinct, fun spot here => (holds spot here).imp (wider spot.1) id⟩

theorem found (gains : Gains cwd earlier base before) {package? : Option Package}
    (holds : ∀ package ∈ package?, base.Holds cwd place package) :
    Toured cwd base before before (· = place) earlier package?.toList := by
  refine ⟨gains.mono (List.subset_append_left _ _), fun _ _ => rfl, ?_⟩
  cases package? with
  | none => exact ⟨[], rfl, .nil, by simp⟩
  | some package => exact ⟨[(place, package)], rfl, by simp, by simpa using holds package rfl⟩

end Toured

end Disk

namespace Package

variable {host : Host} {settings : Settings} {base disk before after : Disk} {dir : Bytes} {place : Location}
  {area : Location → Prop} {earlier walked : List Package}

theorem toured_provide (maker : settings.maker = .template) (conventions : settings.conventions = .ginkgo)
    (toured : Toured host.cwd base before disk area earlier walked) {package? : Option Package}
    (holds : ∀ package ∈ package?, package ∈ walked ∧ base.Holds host.cwd place package)
    (inside : ∀ name, area (place ++ [name])) {outcome : Except Error Unit}
    (ends : Ends (provide host settings package?) disk outcome after) :
    Toured host.cwd base before after area earlier walked := by
  cases package? with
  | none =>
    rw [(ends_pure.mp ends).2]
    exact toured
  | some package =>
    obtain ⟨here, holds⟩ := holds package rfl
    have leads := holds.leads.of_dirs fun place => (toured.gains.sameDirs place).mpr
    rcases ends_provide maker conventions ends with rfl | ⟨outcome', ensured⟩
    · exact toured
    · rcases Suite.ends_ensure leads holds.suite ensured with rfl | ⟨target, free, rfl⟩
      · exact toured
      · refine ⟨toured.gains.put (List.mem_append_right _ here) holds target free, ?_, toured.finds⟩
        intro there outside
        rw [at?_put (by simp), if_neg, toured.frame there outside]
        rintro rfl
        exact outside (inside _)

theorem eq_of_below {name name' : Bytes} {there : Location} (one : (place ++ [name]) <+: there)
    (two : (place ++ [name']) <+: there) : name = name' := by
  have within := List.prefix_of_prefix_length_le one two (by simp)
  have same := within.eq_of_length (by simp)
  simpa using same

theorem toured_mapM {walk : Bytes → Job (List Bytes)} {log : Bytes → Disk → List Package} {names : List Bytes}
    (distinct : names.Nodup)
    (each : ∀ name ∈ names, ∀ disk earlier outcome after, Gains host.cwd earlier base disk →
      (∀ there, (place ++ [name]) <+: there → disk.at? there = base.at? there) →
      Ends (walk (Path.join dir name)) disk outcome after →
      Toured host.cwd base disk after ((place ++ [name]) <+: ·) earlier (log (Path.join dir name) disk))
    (gains : Gains host.cwd earlier base disk)
    (fresh : ∀ name ∈ names, ∀ there, (place ++ [name]) <+: there → disk.at? there = base.at? there)
    {outcome : Except Error (List (List Bytes))}
    (ends : Ends ((names.map (Path.join dir)).mapM walk) disk outcome after) :
    Toured host.cwd base disk after (fun there => ∃ name ∈ names, (place ++ [name]) <+: there) earlier
      (walkedIn walk log (names.map (Path.join dir)) disk) := by
  induction names generalizing disk earlier outcome with
  | nil =>
    rw [(ends_pure.mp ends).2]
    exact .refl gains
  | cons name names ih =>
    have first := each name List.mem_cons_self disk earlier
    have fresh' := fresh name List.mem_cons_self
    rw [List.nodup_cons] at distinct
    rw [List.map_cons, List.mapM_cons] at ends
    rw [List.map_cons]
    rcases ends_bind.mp ends with ⟨error, -, failed⟩ | ⟨files, between, found, rest⟩
    · rw [walkedIn_of_error failed]
      exact (first _ after gains fresh' failed).mono fun there below => ⟨name, List.mem_cons_self, below⟩
    · have toured := first _ between gains fresh' found
      obtain ⟨outcome', more⟩ := rest.first
      have apart (there : Location) (below : (place ++ [name]) <+: there) :
          ¬∃ name' ∈ names, (place ++ [name']) <+: there := by
        rintro ⟨name', here, below'⟩
        rw [eq_of_below below below'] at distinct
        exact distinct.1 here
      -- What the first walk has written lies beside the directories that are still to come.
      have untouched : ∀ name' ∈ names, ∀ there, (place ++ [name']) <+: there →
          between.at? there = base.at? there := by
        intro name' here there below
        rw [toured.frame there fun below' => apart there below' ⟨name', here, below⟩]
        exact fresh name' (List.mem_cons_of_mem _ here) there below
      have others := ih distinct.2 (fun name' here => each name' (List.mem_cons_of_mem _ here)) toured.gains untouched
        more
      rw [walkedIn_of_ok found]
      refine (toured.trans others apart).mono fun there below => ?_
      rcases below with below | ⟨name', here, below⟩
      · exact ⟨name, List.mem_cons_self, below⟩
      · exact ⟨name', List.mem_cons_of_mem _ here, below⟩

/-- A walk writes below its directory alone, and there nothing but suites. -/
theorem toured_walkTo (maker : settings.maker = .template) (conventions : settings.conventions = .ginkgo) (depth : Nat)
    (aims : base.Aims host.cwd dir place) (gains : Gains host.cwd earlier base disk)
    (fresh : ∀ there, place <+: there → disk.at? there = base.at? there) {outcome : Except Error (List Bytes)}
    (ends : Ends (walkTo host settings depth dir) disk outcome after) :
    Toured host.cwd base disk after (place <+: ·) earlier (walkedTo host settings depth dir disk) := by
  induction depth generalizing dir place disk earlier outcome after with
  | zero =>
    rw [(ends_pure.mp ends).2]
    exact .refl gains
  | succ depth ih =>
    rw [walkTo_succ] at ends
    rcases ends_bind.mp ends with ⟨error, -, failed⟩ | ⟨⟨package?, dirs⟩, same, surveyed, rest⟩
    · rw [walkedTo_of_error failed, Reads.survey host dir _ _ _ _ failed]
      exact .refl gains
    · obtain rfl := Reads.survey host dir _ _ _ _ surveyed
      rw [walkedTo_of_ok surveyed]
      have listed (name : Bytes) : same.at? (place ++ [name]) = base.at? (place ++ [name]) :=
        fresh _ (List.prefix_append _ _)
      rw [conventions] at surveyed
      obtain ⟨leads, holds, names, distinct, rfl, areDirs⟩ :=
        holds_of_survey gains.proper aims gains.sameDirs listed surveyed
      have own := Toured.found gains holds
      have below {outcome : Except Error (List (List Bytes))} {between : Disk}
          (ends : Ends ((names.map (Path.join dir)).mapM (walkTo host settings depth)) same outcome between) :
          Toured host.cwd base same between (place <+: ·) earlier (package?.toList ++
            walkedIn (walkTo host settings depth) (walkedTo host settings depth) (names.map (Path.join dir)) same) := by
        have others : Toured host.cwd base same between (fun there => ∃ name ∈ names, (place ++ [name]) <+: there)
            (earlier ++ package?.toList) (walkedIn (walkTo host settings depth) (walkedTo host settings depth)
              (names.map (Path.join dir)) same) := by
          refine toured_mapM distinct ?_ own.gains ?_ ends
          · intro name here disk earlier outcome after gains fresh ends
            exact ih (leads.aims_join (areDirs name here).1 (areDirs name here).2) gains fresh ends
          · intro name here there within
            exact fresh there ((List.prefix_append _ _).trans within)
        refine (own.trans others ?_).mono ?_
        · rintro _ rfl ⟨name, -, within⟩
          have longer := within.length_le
          rw [List.length_append, List.length_singleton] at longer
          omega
        · rintro there (rfl | ⟨name, -, within⟩)
          · exact List.prefix_rfl
          · exact (List.prefix_append _ _).trans within
      rcases ends_bind.mp rest with ⟨error, -, failed⟩ | ⟨lists, between, walked, rest⟩
      · exact below failed
      · have toured := below walked
        obtain ⟨outcome', provided⟩ := rest.first
        refine toured_provide maker conventions toured (fun package here => ⟨?_, holds package here⟩)
          (fun name => List.prefix_append _ _) provided
        exact List.mem_append_left _ (Option.mem_toList.mpr here)

theorem leads_of_resolve {id : String} (resolved : Yields (resolve host id) disk dir after) :
    after = disk ∧ ∃ place, disk.Leads host.cwd dir place := by
  obtain rfl := Reads.resolve host id _ _ _ resolved
  have leads {path : Bytes} (isDir : after.isDir host.cwd path = true) : ∃ place, after.Leads host.cwd path place := by
    unfold Disk.isDir at isDir
    split at isDir
    · rename_i place node found
      cases node with
      | dir => exact ⟨place, leads_of_locate found⟩
      | file bytes => cases isDir
    · cases isDir
  refine ⟨rfl, ?_⟩
  obtain ⟨isDir, between, one, two⟩ := yields_bind.mp resolved
  obtain ⟨rfl, rfl⟩ := yields_isDir.mp one
  split at two
  · rename_i isDir
    obtain ⟨rfl, -⟩ := yields_pure.mp two
    exact leads isDir
  · rw [yields_get_bind] at two
    split at two
    · rename_i found
      obtain ⟨rfl, -⟩ := yields_pure.mp two
      exact leads (List.find?_some found)
    · exact (yields_throw two).elim

theorem toured_search {id : String} (maker : settings.maker = .template) (conventions : settings.conventions = .ginkgo)
    (proper : disk.Proper) {outcome : Except Error (List Bytes)}
    (ends : Ends (search host settings id) disk outcome after) :
    Toured host.cwd disk disk after (fun _ => True) [] (Package.walked host settings id disk) := by
  rcases ends_bind.mp ends with ⟨error, -, failed⟩ | ⟨dir, between, resolved, rest⟩
  · rw [Package.walked, failed, Reads.resolve host id _ _ _ failed]
    exact .refl (.refl proper)
  · obtain ⟨rfl, place, leads⟩ := leads_of_resolve resolved
    rw [Package.walked, resolved]
    have start : Gains host.cwd [] between between := .refl proper
    exact (toured_walkTo maker conventions _ leads.aims start (fun _ _ => rfl) rest).mono fun _ _ => trivial

end Package

end GoSpecs
