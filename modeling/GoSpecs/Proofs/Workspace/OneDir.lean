import GoSpecs.Proofs.Workspace.Walk

namespace GoSpecs

open Disk Job

namespace OneDir

def dir : Bytes :=
  Text.utf8 "p"

def path (name : Bytes) : Bytes :=
  Path.join dir name

/-- The disk has one directory, which holds these files. -/
def disk (files : List (Bytes × String)) : Disk :=
  ⟨([dir], .dir) :: files.map fun file => ([dir, file.1], .file file.2.toUTF8)⟩

def host : Host :=
  ⟨[], none, none, []⟩

def isName (name : Bytes) : Bool :=
  !name.contains Path.slash && !name.contains 0 && name != [] && name != [Path.dot] &&
    name != [Path.dot, Path.dot] && decide (name.length ≤ maxNameSize)

/-- The names of the directory, in their order. -/
def areListed (names : List Bytes) : Bool :=
  names.all isName && decide (names.Pairwise fun first second => first.comesFirst second = true ∧ first ≠ second)

def sources (files : List (Bytes × String)) : List Bytes :=
  ((files.map (·.1)).filter isGo).map path

def package (files : List (Bytes × String)) (name : String) : Package :=
  ⟨dir, name, (sources files).filter fun path => Conventions.ginkgo.isConvertible (Package.nameOf path) name⟩

variable {files : List (Bytes × String)} {name : Bytes} {text : String}

theorem isName_iff : isName name = true ↔ Path.IsName name ∧ 0 ∉ name ∧ name.length ≤ maxNameSize := by
  simp only [isName, Bool.and_eq_true, Bool.not_eq_true', bne_iff_ne, decide_eq_true_eq]
  constructor
  · rintro ⟨⟨⟨⟨⟨segment, plain⟩, filled⟩, here⟩, above⟩, short⟩
    exact ⟨⟨by simpa [Path.IsSegment] using segment, filled, here, above⟩, by simpa using plain, short⟩
  · rintro ⟨⟨segment, filled, here, above⟩, plain, short⟩
    exact ⟨⟨⟨⟨⟨by simpa [Path.IsSegment] using segment, by simpa using plain⟩, filled⟩, here⟩, above⟩, short⟩

theorem leads_disk : (disk files).Leads [] dir [dir] :=
  ⟨by decide, rfl, by simp [disk, Disk.at?]⟩

theorem check_path (isName : isName name = true) : check (path name) = .ok () := by
  obtain ⟨isName, plain, short⟩ := isName_iff.mp isName
  have shape : path name = dir ++ Path.slash :: name := by
    rw [path, Path.join, if_neg (by simp [Path.isAbsolute_of_isSegment isName.segment])]
    rfl
  rw [shape]
  refine check_eq_ok ?_ (by simp) ?_
  · have ends : 0 ∉ dir ++ [Path.slash] := by decide
    simp_all
  · have size : (dir ++ Path.slash :: name).length = name.length + 2 := by
      rw [List.length_append, List.length_cons, show dir.length = 1 from rfl]
      omega
    rw [size]
    have bound : maxNameSize + 2 ≤ maxPathSize := by decide
    omega

theorem at?_disk (files : List (Bytes × String)) (name : Bytes) :
    (disk files).at? ([dir] ++ [name]) = (files.lookup name).map fun text => .file text.toUTF8 := by
  rw [at?, if_neg (by simp), disk, lookup_cons_of_ne (by simp)]
  induction files with
  | nil => rfl
  | cons file files ih =>
    obtain ⟨other, text⟩ := file
    by_cases same : name = other
    · simp [same]
    · rw [List.map_cons, lookup_cons_of_ne (by simpa using same), ih, lookup_cons_of_ne same]

theorem readText_disk (isName : isName name = true) (here : files.lookup name = some text) :
    (disk files).readText [] (path name) = .ok text := by
  refine (leads_disk.readText_join (isName_iff.mp isName).1).mpr
    ⟨check_path isName, (isName_iff.mp isName).2.2, text.toUTF8, ?_, fromUTF8?_toUTF8 text⟩
  rw [at?_disk, here]
  rfl

theorem exists?_disk (isName : isName name = true) :
    (disk files).exists? [] (path name) = (files.lookup name).isSome := by
  obtain ⟨isName', -, short⟩ := isName_iff.mp isName
  rw [Bool.eq_iff_iff, path, leads_disk.exists?_join isName', at?_disk, Option.isSome_map]
  exact ⟨fun found => found.2.2, fun found => ⟨check_path isName, short, found⟩⟩

def write (name : Bytes) (text : String) : List (Bytes × String) → List (Bytes × String)
  | [] => [(name, text)]
  | file :: files => if file.1 == name then (name, text) :: files else file :: write name text files

theorem put_disk (files : List (Bytes × String)) (name : Bytes) (text : String) :
    (disk files).put ([dir] ++ [name]) (.file text.toUTF8) = disk (write name text files) := by
  have inner : putIn ([dir] ++ [name]) (.file text.toUTF8)
      (files.map fun file => ([dir, file.1], .file file.2.toUTF8)) =
        (write name text files).map fun file => ([dir, file.1], .file file.2.toUTF8) := by
    induction files with
    | nil => rfl
    | cons file files ih =>
      rw [List.map_cons, putIn, write]
      by_cases same : file.1 = name
      · simp [same]
      · rw [if_neg (by simpa using same), if_neg (by simpa using same), ih, List.map_cons]
  rw [disk, put, putIn, if_neg (by simp), inner, disk]

theorem writeText_disk (isName : isName name = true) :
    (disk files).writeText [] (path name) text = .ok (disk (write name text files)) := by
  refine (leads_disk.writeText_join (isName_iff.mp isName).1).mpr
    ⟨check_path isName, (isName_iff.mp isName).2.2, ?_, (put_disk files name text).symm⟩
  rw [at?_disk]
  cases files.lookup name <;> simp

theorem locate_dir (files : List (Bytes × String)) : (disk files).locate [] dir = .ok ([dir], .dir) := by
  rw [locate, check_eq_ok (by decide) (by decide) (by decide)]
  simp [bind, Except.bind, leads_disk.found, leads_disk.isDir, pure, Except.pure]

theorem yields_resolve (files : List (Bytes × String)) :
    Yields (Package.resolve host "p") (disk files) dir (disk files) := by
  have isDir : (disk files).isDir [] dir = true := by
    rw [Disk.isDir, locate_dir]
    rfl
  exact yields_bind.mpr ⟨true, _, yields_isDir.mpr ⟨isDir.symm, rfl⟩, yields_pure.mpr ⟨rfl, rfl⟩⟩

section

variable (listed : areListed (files.map (·.1)) = true)
include listed

theorem isName_of_mem (here : name ∈ files.map (·.1)) : isName name = true :=
  List.all_eq_true.mp (Bool.and_eq_true_iff.mp listed).1 name here

theorem children_disk : (disk files).children [dir] = files.map fun file => (file.1, .file file.2.toUTF8) := by
  have sorted : files.Pairwise fun first second => first.1.comesFirst second.1 = true :=
    (List.pairwise_map.mp (of_decide_eq_true (Bool.and_eq_true_iff.mp listed).2)).imp And.left
  have entries : (disk files).entries.filterMap (child? [dir]) =
      files.map fun file => (file.1, .file file.2.toUTF8) := by
    rw [disk, List.filterMap_cons_none (by simp [child?]), List.filterMap_map, ← List.filterMap_eq_map]
    exact List.filterMap_congr fun file _ => by simp [child?]
  rw [children_eq, entries]
  exact List.mergeSort_of_pairwise (List.pairwise_map.mpr sorted)

theorem proper_disk : (disk files).Proper := by
  have distinct : (files.map (·.1)).Nodup :=
    (of_decide_eq_true (Bool.and_eq_true_iff.mp listed).2 : List.Pairwise _ _).imp And.right
  have isDir : Path.IsName dir := (isName_iff.mp (by decide)).1
  refine ⟨?_, fun entry here => ?_⟩
  · rw [disk, List.map_cons, List.map_map, List.nodup_cons]
    refine ⟨by simp, List.pairwise_map.mpr ((List.pairwise_map.mp distinct).imp fun differ => ?_)⟩
    simpa using differ
  · rcases List.mem_cons.mp here with rfl | here
    · exact ⟨by simp, by simpa using isDir⟩
    · obtain ⟨file, member, rfl⟩ := List.mem_map.mp here
      have isName := (isName_iff.mp (isName_of_mem listed (List.mem_map_of_mem member))).1
      exact ⟨by simp, by simpa using ⟨isDir, isName⟩⟩

theorem yields_survey {source : Bytes} {clause : String} {found : Package}
    (naming : Package.namingFile? .ginkgo (sources files) = some (path source))
    (here : files.lookup source = some text) (named : packageNameOf text = .ok clause)
    (isPackage : package files (Package.named clause) = found) :
    Yields (Package.survey host .ginkgo dir) (disk files) (some found, []) (disk files) := by
  have entries : (disk files).list [] dir = .ok ((disk files).children [dir]) := by
    rw [Disk.list, locate_dir]
    rfl
  have listing : (disk files).sources dir [dir] = sources files := by
    rw [Disk.sources, sources, children_disk listed, List.filter_map, List.filter_map, List.map_map, List.map_map]
    exact congrArg _ (List.filter_congr fun file _ => by simp [isSource, DiskNode.isDir])
  have subdirs : (disk files).subdirs dir [dir] = [] := by
    rw [Disk.subdirs, children_disk listed, List.filter_map, List.map_eq_nil_iff, List.map_eq_nil_iff]
    exact List.filter_eq_nil_iff.mpr fun file _ => by simp [DiskNode.isDir]
  have member : source ∈ files.map (·.1) := by
    rw [List.mem_map]
    by_contra absent
    rw [List.lookup_eq_none_iff.mpr fun file there => ?_] at here
    · cases here
    · simp only [bne_iff_ne, ne_eq]
      exact fun same => absent ⟨file, there, same.symm⟩
  have read := readText_disk (isName_of_mem listed member) here
  have made : Yields (Package.ofFiles host .ginkgo dir ((disk files).sources dir [dir])) (disk files)
      (some found) (disk files) := by
    rw [listing, Package.ofFiles, naming, ← isPackage]
    exact yields_bind.mpr ⟨text, _, yields_readText.mpr ⟨read, rfl⟩, yields_bind.mpr ⟨clause, _,
      yields_ofFault.mpr ⟨named, rfl⟩, yields_pure.mpr ⟨rfl, rfl⟩⟩⟩
  exact yields_bind.mpr ⟨_, _, Package.yields_contents.mpr ⟨rfl, _, entries, rfl, subdirs.symm⟩, yields_bind.mpr
    ⟨_, _, made, yields_pure.mpr ⟨rfl, rfl⟩⟩⟩

end

end OneDir

end GoSpecs
