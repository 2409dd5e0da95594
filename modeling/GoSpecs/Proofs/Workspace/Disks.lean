import GoSpecs.Proofs.Workspace.Paths
import GoSpecs.Workspace.Disk
import Mathlib.Data.List.Perm.Basic

namespace GoSpecs

namespace Bytes

theorem comesFirst_total (first second : Bytes) : (first.comesFirst second || second.comesFirst first) = true := by
  fun_induction comesFirst first second with
  | case1 second => rfl
  | case2 byte bytes => rfl
  | case3 byte bytes other others ih =>
    rw [comesFirst]
    obtain less | same | more := Nat.lt_trichotomy byte.toNat other.toNat
    · simp [less]
    · obtain rfl := UInt8.toNat_inj.mp same
      simpa using ih
    · simp [more]

theorem comesFirst_trans {first second third : Bytes} (one : first.comesFirst second = true)
    (two : second.comesFirst third = true) : first.comesFirst third = true := by
  induction first generalizing second third with
  | nil => rfl
  | cons byte bytes ih =>
    obtain _ | ⟨byte', bytes'⟩ := second
    · cases one
    obtain _ | ⟨byte'', bytes''⟩ := third
    · cases two
    simp only [comesFirst, Bool.or_eq_true, decide_eq_true_eq, Bool.and_eq_true, beq_iff_eq] at one two ⊢
    obtain less | ⟨rfl, rest⟩ := one
    · obtain less' | ⟨rfl, -⟩ := two
      · exact .inl (Nat.lt_trans less less')
      · exact .inl less
    · exact two.imp id fun ⟨same, rest'⟩ => ⟨same, ih rest rest'⟩

theorem comesFirst_antisymm {first second : Bytes} (one : first.comesFirst second = true)
    (two : second.comesFirst first = true) : first = second := by
  induction first generalizing second with
  | nil =>
    cases second with
    | nil => rfl
    | cons => cases two
  | cons byte bytes ih =>
    obtain _ | ⟨byte', bytes'⟩ := second
    · cases one
    simp only [comesFirst, Bool.or_eq_true, decide_eq_true_eq, Bool.and_eq_true, beq_iff_eq] at one two
    obtain less | ⟨rfl, rest⟩ := one
    · obtain more | ⟨rfl, -⟩ := two
      · exact (Nat.lt_asymm less more).elim
      · exact (Nat.lt_irrefl _ less).elim
    · obtain less | ⟨-, rest'⟩ := two
      · exact (Nat.lt_irrefl _ less).elim
      · rw [ih rest rest']

/-- In the order of names, where no name comes before itself. -/
def Precedes (first second : Bytes) : Prop :=
  first.comesFirst second = true ∧ first ≠ second

end Bytes

namespace Disk

theorem lookup_eq_some_iff {α β : Type} [BEq α] [LawfulBEq α] {entries : List (α × β)}
    (distinct : (entries.map (·.1)).Nodup) {key : α} {value : β} :
    entries.lookup key = some value ↔ (key, value) ∈ entries := by
  induction entries with
  | nil => simp
  | cons entry entries ih =>
    obtain ⟨key', value'⟩ := entry
    simp only [List.map_cons, List.nodup_cons, List.mem_map, not_exists, not_and] at distinct
    simp only [List.lookup_cons, List.mem_cons, Prod.mk.injEq]
    by_cases same : key = key'
    · subst same
      have other : (key, value) ∉ entries := fun here => distinct.1 _ here rfl
      simp [other, eq_comm]
    · rw [beq_eq_false_iff_ne.mpr same]
      simp [same, ih distinct.2]

theorem lookup_cons_of_ne {α β : Type} [BEq α] [LawfulBEq α] {key other : α} (differ : other ≠ key) (value : β)
    (entries : List (α × β)) : ((key, value) :: entries).lookup other = entries.lookup other := by
  rw [List.lookup_cons, beq_eq_false_iff_ne.mpr differ]

/-- Every place has one entry, and each name on the way leads one directory down. -/
structure Proper (disk : Disk) : Prop where
  distinct : (disk.entries.map (·.1)).Nodup
  named : ∀ entry ∈ disk.entries, entry.1 ≠ [] ∧ ∀ name ∈ entry.1, Path.IsName name

variable {disk other : Disk}

theorem Proper.at?_eq_some_iff (proper : disk.Proper) {place : Location} (below : place ≠ []) {node : DiskNode} :
    disk.at? place = some node ↔ (place, node) ∈ disk.entries := by
  rw [at?, if_neg (by simpa using below), lookup_eq_some_iff proper.distinct]

theorem Proper.names (proper : disk.Proper) {place : Location} {node : DiskNode} (found : disk.at? place = some node) :
    ∀ name ∈ place, Path.IsName name := by
  by_cases below : place = []
  · simp [below]
  · exact (proper.named _ ((proper.at?_eq_some_iff below).mp found)).2

def child? (dir : Location) (entry : Location × DiskNode) : Option (Bytes × DiskNode) :=
  match entry.1.getLast? with
  | some name => if entry.1.dropLast == dir then some (name, entry.2) else none
  | none => none

theorem child?_eq_some {dir : Location} {entry : Location × DiskNode} {name : Bytes} {node : DiskNode} :
    child? dir entry = some (name, node) ↔ entry = (dir ++ [name], node) := by
  obtain ⟨place, found⟩ := entry
  constructor
  · intro same
    unfold child? at same
    split at same
    · rename_i last ends
      split at same
      · rename_i above
        cases same
        obtain ⟨front, rfl⟩ := List.getLast?_eq_some_iff.mp ends
        have same : front = dir := by simpa using above
        rw [same]
      · cases same
    · cases same
  · rintro ⟨⟩
    simp [child?]

def comesFirst (first second : Bytes × DiskNode) : Bool :=
  first.1.comesFirst second.1

theorem children_eq (disk : Disk) (dir : Location) :
    disk.children dir = (disk.entries.filterMap (child? dir)).mergeSort comesFirst :=
  rfl

theorem mem_children (proper : disk.Proper) {dir : Location} {name : Bytes} {node : DiskNode} :
    (name, node) ∈ disk.children dir ↔ disk.at? (dir ++ [name]) = some node := by
  simp [children_eq, child?_eq_some, proper.at?_eq_some_iff]

theorem sorted_children (proper : disk.Proper) (dir : Location) :
    (disk.children dir).Pairwise fun first second => first.1.Precedes second.1 := by
  rw [children_eq]
  have sorted := @List.pairwise_mergeSort _ comesFirst
    (fun _ _ _ one two => Bytes.comesFirst_trans one two)
    (fun first second => Bytes.comesFirst_total first.1 second.1)
    (disk.entries.filterMap (child? dir))
  have apart : (disk.entries.filterMap (child? dir)).Pairwise fun first second => first.1 ≠ second.1 := by
    refine List.Pairwise.filterMap _ ?_ (List.pairwise_map.mp proper.distinct)
    rintro first second differ ⟨name, node⟩ found ⟨name', node'⟩ found' same
    rw [child?_eq_some.mp found, child?_eq_some.mp found', show name = name' from same] at differ
    exact differ rfl
  exact sorted.and ((List.mergeSort_perm _ comesFirst).symm.pairwise apart Ne.symm)

theorem children_filter_eq (proper : disk.Proper) (proper' : other.Proper) {dir : Location}
    {test : Bytes × DiskNode → Bool}
    (same : ∀ name node, test (name, node) = true →
      (disk.at? (dir ++ [name]) = some node ↔ other.at? (dir ++ [name]) = some node)) :
    (disk.children dir).filter test = (other.children dir).filter test := by
  have sorted := (sorted_children proper dir).filter test
  have sorted' := (sorted_children proper' dir).filter test
  refine List.Perm.eq_of_pairwise ?_ sorted sorted' ?_
  · intro first second _ _ before after
    exact (before.2 (Bytes.comesFirst_antisymm before.1 after.1)).elim
  · refine (List.perm_ext_iff_of_nodup ?_ ?_).mpr ?_
    · exact sorted.imp fun less => by rintro rfl; exact less.2 rfl
    · exact sorted'.imp fun less => by rintro rfl; exact less.2 rfl
    · rintro ⟨name, node⟩
      simp only [List.mem_filter, mem_children proper, mem_children proper']
      exact and_congr_left (same name node)

theorem follow_append (disk : Disk) (here : Location) (front back : List Bytes) :
    disk.follow here (front ++ back) = (disk.follow here front).bind (disk.follow · back) := by
  induction front generalizing here with
  | nil => rfl
  | cons segment front ih =>
    rw [List.cons_append, follow, follow]
    split
    · rfl
    · rfl
    · split
      · rfl
      · exact ih _

theorem follow_of_dirs (dirs : ∀ place, disk.at? place = some .dir → other.at? place = some .dir)
    {here there : Location} {segments : List Bytes} (found : disk.follow here segments = .ok there) :
    other.follow here segments = .ok there := by
  induction segments generalizing here with
  | nil => exact found
  | cons segment segments ih =>
    rw [follow] at found
    rw [follow]
    split at found
    · cases found
    · cases found
    · rename_i isDir
      rw [dirs here isDir]
      split at found
      · cases found
      · rename_i short
        dsimp only
        rw [if_neg short]
        exact ih found

theorem follow_segment {here : Location} {segment : Bytes} (isDir : disk.at? here = some .dir)
    (short : segment.length ≤ maxNameSize) : disk.follow here [segment] = .ok (enter here segment) := by
  rw [follow, isDir]
  dsimp only
  rw [if_neg (by omega), follow]

theorem follow_long {here : Location} {segment : Bytes} (isDir : disk.at? here = some .dir)
    (long : maxNameSize < segment.length) : disk.follow here [segment] = .error .nameTooLong := by
  rw [follow, isDir]
  dsimp only
  rw [if_pos long]

theorem enter_of_isIdle {segment : Bytes} (idle : Path.IsIdle segment) (here : Location) :
    enter here segment = here := by
  obtain rfl | rfl := idle <;> rfl

theorem enter_of_isName {name : Bytes} (isName : Path.IsName name) (here : Location) :
    enter here name = here ++ [name] := by
  simp [enter, isName.filled, isName.ne_here, isName.ne_above]

theorem follow_idle {here : Location} (isDir : disk.at? here = some .dir) {idle : List Bytes}
    (all : ∀ segment ∈ idle, Path.IsIdle segment) : disk.follow here idle = .ok here := by
  induction idle with
  | nil => rfl
  | cons segment idle ih =>
    have one := all segment List.mem_cons_self
    have short : segment.length ≤ maxNameSize := by
      obtain rfl | rfl := one <;> decide
    rw [← List.singleton_append, follow_append, follow_segment isDir short, enter_of_isIdle one]
    exact ih fun other there => all other (List.mem_cons_of_mem _ there)

theorem eq_of_follow_idle {here there : Location} {idle : List Bytes}
    (all : ∀ segment ∈ idle, Path.IsIdle segment) (found : disk.follow here idle = .ok there) : there = here := by
  induction idle generalizing here with
  | nil =>
    cases found
    rfl
  | cons segment idle ih =>
    rw [follow] at found
    split at found
    · cases found
    · cases found
    · split at found
      · cases found
      · rw [enter_of_isIdle (all segment List.mem_cons_self)] at found
        exact ih (fun other there => all other (List.mem_cons_of_mem _ there)) found

structure Leads (disk : Disk) (cwd : Location) (path : Bytes) (place : Location) : Prop where
  filled : path ≠ []
  found : disk.follow (origin cwd path) (Path.segments path) = .ok place
  isDir : disk.at? place = some .dir

namespace Leads

variable {cwd place place' : Location} {path path' name : Bytes} {node : DiskNode}

theorem of_dirs (leads : Leads disk cwd path place)
    (dirs : ∀ place, disk.at? place = some .dir → other.at? place = some .dir) : Leads other cwd path place :=
  ⟨leads.filled, follow_of_dirs dirs leads.found, dirs place leads.isDir⟩

/-- Without its idle segments at the end a path leads to the same directory. -/
theorem alike (leads : Leads disk cwd path place) (filled : path' ≠ []) (alike : Path.Alike path' path) :
    Leads disk cwd path' place := by
  obtain ⟨base, core, idle, idle', same, same', idles, idles'⟩ := alike
  have found := leads.found
  rw [same', follow_append] at found
  refine ⟨filled, ?_, leads.isDir⟩
  have start : origin cwd path' = origin cwd path := by rw [origin, origin, base]
  rw [same, start, follow_append]
  cases reached : disk.follow (origin cwd path) core with
  | error refusal =>
    rw [reached] at found
    cases found
  | ok there =>
    rw [reached] at found
    obtain rfl := eq_of_follow_idle idles' found
    exact follow_idle leads.isDir idles

theorem front (leads : Leads disk cwd path place) (one : Path.IsSegment name) :
    ∃ front, Path.segments (Path.join path name) = front ++ [name] ∧
      disk.follow (origin cwd (Path.join path name)) front = .ok place := by
  obtain ⟨front, -, dirs, same⟩ := Path.segments_join leads.filled
  have start : origin cwd (Path.join path name) = origin cwd path := by
    rw [origin, origin, Path.isAbsolute_join leads.filled one]
  refine ⟨front, same name one, ?_⟩
  have found := leads.found
  rw [start]
  obtain dirs | dirs := dirs
  · rwa [← dirs]
  · rw [dirs, follow_append] at found
    cases reached : disk.follow (origin cwd path) front with
    | error refusal =>
      rw [reached] at found
      cases found
    | ok there =>
      rw [reached] at found
      exact congrArg _ (eq_of_follow_idle (by simp [Path.IsIdle]) found).symm

theorem locate_join (leads : Leads disk cwd path place) (isName : Path.IsName name) :
    disk.locate cwd (Path.join path name) = .ok (place', node) ↔
      check (Path.join path name) = .ok () ∧ name.length ≤ maxNameSize ∧ place' = place ++ [name] ∧
        disk.at? (place ++ [name]) = some node := by
  obtain ⟨front, same, reached⟩ := leads.front isName.segment
  unfold locate
  rw [same, follow_append, reached]
  cases check (Path.join path name) with
  | error refusal => simp [bind, Except.bind]
  | ok _ =>
    by_cases short : name.length ≤ maxNameSize
    · have last : disk.follow place [name] = .ok (place ++ [name]) := by
        rw [follow_segment leads.isDir short, enter_of_isName isName]
      cases found : disk.at? (place ++ [name]) <;>
        simp [bind, Except.bind, last, found, short, eq_comm, throw, throwThe, MonadExceptOf.throw, pure, Except.pure]
    · simp [bind, Except.bind, follow_long leads.isDir (Nat.lt_of_not_le short), short]

theorem target_join (leads : Leads disk cwd path place) (isName : Path.IsName name) :
    disk.target cwd (Path.join path name) = .ok place' ↔
      check (Path.join path name) = .ok () ∧ name.length ≤ maxNameSize ∧ place' = place ++ [name] := by
  obtain ⟨front, same, reached⟩ := leads.front isName.segment
  have kept : ((front ++ [name]).reverse.dropWhile (· == [])).reverse = front ++ [name] := by
    simp [isName.filled]
  unfold target
  simp only [same, kept, List.getLast?_concat, List.dropLast_concat, reached]
  cases check (Path.join path name) with
  | error refusal => simp [bind, Except.bind]
  | ok _ =>
    by_cases short : name.length ≤ maxNameSize
    · have within : ¬maxNameSize < name.length := Nat.not_lt.mpr short
      simp only [bind, Except.bind, leads.isDir, within, enter_of_isName isName, pure, Except.pure]
      rw [if_neg (by simp [isName.ne_here, isName.ne_above]), if_neg not_false, Except.ok.injEq]
      exact ⟨fun same => ⟨trivial, short, same.symm⟩, fun same => same.2.2.symm⟩
    · have long : maxNameSize < name.length := Nat.lt_of_not_le short
      simp [bind, Except.bind, leads.isDir, isName.ne_here, isName.ne_above, short, long,
        throw, throwThe, MonadExceptOf.throw]

end Leads

theorem check_eq_ok {path : Bytes} (plain : 0 ∉ path) (filled : path ≠ [])
    (short : path.length ≤ maxPathSize) : check path = .ok () := by
  rw [check, if_neg, if_neg, if_neg]
  · omega
  · simpa using filled
  · simpa using plain

theorem leads_of_locate {cwd place : Location} {path : Bytes} (found : disk.locate cwd path = .ok (place, .dir)) :
    Leads disk cwd path place := by
  unfold locate at found
  cases checked : check path with
  | error refusal =>
    rw [checked] at found
    cases found
  | ok _ =>
    rw [checked] at found
    cases reached : disk.follow (origin cwd path) (Path.segments path) with
    | error refusal =>
      rw [reached] at found
      cases found
    | ok there =>
      rw [reached] at found
      simp only [bind, Except.bind] at found
      split at found
      · rename_i node isNode
        cases found
        refine ⟨?_, reached, isNode⟩
        rintro rfl
        simp [check] at checked
      · cases found

theorem locate_of_dirs {cwd place : Location} {path : Bytes}
    (dirs : ∀ place, disk.at? place = some .dir → other.at? place = some .dir)
    (found : disk.locate cwd path = .ok (place, .dir)) : other.locate cwd path = .ok (place, .dir) := by
  have leads := (leads_of_locate found).of_dirs dirs
  unfold locate at found ⊢
  rw [leads.found]
  cases checked : check path with
  | error refusal =>
    rw [checked] at found
    cases found
  | ok _ => simp [bind, Except.bind, leads.isDir, pure, Except.pure]

theorem lookup_putIn (place other : Location) (node : DiskNode) (entries : List (Location × DiskNode)) :
    (putIn place node entries).lookup other = if other = place then some node else entries.lookup other := by
  induction entries with
  | nil =>
    by_cases same : other = place
    · simp [putIn, same]
    · rw [putIn, lookup_cons_of_ne same, if_neg same]
  | cons entry entries ih =>
    obtain ⟨key, value⟩ := entry
    unfold putIn
    split
    · rename_i here
      obtain rfl : key = place := by simpa using here
      by_cases same : other = key
      · simp [same]
      · rw [lookup_cons_of_ne same, lookup_cons_of_ne same, if_neg same]
    · rename_i apart
      have apart : key ≠ place := by simpa using apart
      by_cases same : other = key
      · subst same
        simp [apart]
      · rw [lookup_cons_of_ne same, lookup_cons_of_ne same, ih]

theorem mem_putIn {place : Location} {node : DiskNode} {entries : List (Location × DiskNode)}
    {entry : Location × DiskNode} (here : entry ∈ putIn place node entries) :
    entry = (place, node) ∨ entry ∈ entries := by
  induction entries with
  | nil => exact .inl (List.mem_singleton.mp here)
  | cons first entries ih =>
    unfold putIn at here
    split at here
    · obtain rfl | here := List.mem_cons.mp here
      · exact .inl rfl
      · exact .inr (List.mem_cons_of_mem _ here)
    · obtain rfl | here := List.mem_cons.mp here
      · exact .inr List.mem_cons_self
      · exact (ih here).imp id (List.mem_cons_of_mem _)

theorem places_putIn (place : Location) (node : DiskNode) (entries : List (Location × DiskNode)) :
    (putIn place node entries).map (·.1) =
      if place ∈ entries.map (·.1) then entries.map (·.1) else entries.map (·.1) ++ [place] := by
  induction entries with
  | nil => simp [putIn]
  | cons entry entries ih =>
    unfold putIn
    by_cases same : entry.1 = place
    · simp [same]
    · simp only [beq_iff_eq, same, if_false, List.map_cons, ih, List.mem_cons, Ne.symm same, false_or]
      split <;> simp

theorem at?_put {place : Location} (below : place ≠ []) (node : DiskNode) (there : Location) :
    (disk.put place node).at? there = if there = place then some node else disk.at? there := by
  unfold at? put
  by_cases root : there = []
  · have differ : ¬[] = place := Ne.symm below
    simp [root, differ]
  · simp [root, lookup_putIn]

theorem Proper.put (proper : disk.Proper) {place : Location} (below : place ≠ [])
    (named : ∀ name ∈ place, Path.IsName name) (node : DiskNode) : (disk.put place node).Proper := by
  refine ⟨?_, ?_⟩
  · simp only [Disk.put, places_putIn]
    split
    · exact proper.distinct
    · rename_i fresh
      exact List.nodup_append.mpr ⟨proper.distinct, by simp, by
        intro there here other last
        obtain rfl := List.mem_singleton.mp last
        rintro rfl
        exact fresh here⟩
  · intro entry here
    obtain rfl | here := mem_putIn here
    · exact ⟨below, named⟩
    · exact proper.named entry here

def putAll (files : List (Location × DiskNode)) (disk : Disk) : Disk :=
  files.foldl (fun disk file => disk.put file.1 file.2) disk

theorem lookup_putAll (files : List (Location × DiskNode)) (disk : Disk) (place : Location) :
    (putAll files disk).entries.lookup place = (files.reverse.lookup place).or (disk.entries.lookup place) := by
  induction files generalizing disk with
  | nil => rfl
  | cons file files ih =>
    obtain ⟨key, node⟩ := file
    have step : putAll ((key, node) :: files) disk = putAll files (disk.put key node) := rfl
    rw [step, ih, Disk.put, lookup_putIn, List.reverse_cons, List.lookup_append, Option.or_assoc]
    by_cases same : place = key
    · simp [same]
    · rw [if_neg same, lookup_cons_of_ne same, List.lookup_nil, Option.none_or]

theorem mem_places_putAll {files : List (Location × DiskNode)} {disk : Disk} {place : Location}
    (here : place ∈ files.map (·.1) ∨ place ∈ disk.entries.map (·.1)) :
    place ∈ (putAll files disk).entries.map (·.1) := by
  induction files generalizing disk with
  | nil => exact here.resolve_left (by simp)
  | cons file files ih =>
    refine @ih (disk.put file.1 file.2) ?_
    rw [List.map_cons, List.mem_cons, or_assoc, or_left_comm] at here
    refine here.imp id fun here => ?_
    rw [Disk.put, places_putIn]
    split
    · rename_i old
      exact here.elim (fun same => same ▸ old) id
    · exact List.mem_append.mpr (here.symm.imp id List.mem_singleton.mpr)

theorem places_putAll {files : List (Location × DiskNode)} {disk : Disk}
    (old : ∀ file ∈ files, file.1 ∈ disk.entries.map (·.1)) :
    (putAll files disk).entries.map (·.1) = disk.entries.map (·.1) := by
  induction files generalizing disk with
  | nil => rfl
  | cons file files ih =>
    have same : (disk.put file.1 file.2).entries.map (·.1) = disk.entries.map (·.1) := by
      rw [Disk.put, places_putIn, if_pos (old file List.mem_cons_self)]
    refine Eq.trans (ih fun other there => ?_) same
    rw [same]
    exact old other (List.mem_cons_of_mem _ there)

theorem eq_of_lookups {α β : Type} [BEq α] [LawfulBEq α] {entries entries' : List (α × β)}
    (distinct : (entries.map (·.1)).Nodup) (keys : entries'.map (·.1) = entries.map (·.1))
    (values : ∀ key, entries'.lookup key = entries.lookup key) : entries' = entries := by
  induction entries generalizing entries' with
  | nil => simpa using keys
  | cons entry entries ih =>
    obtain ⟨⟨key', value'⟩, rest, rfl, first, others⟩ := List.map_eq_cons_iff.mp keys
    obtain ⟨key, value⟩ := entry
    obtain rfl : key' = key := first
    have absent {list : List (α × β)} (same : list.map (·.1) = entries.map (·.1)) : list.lookup key' = none := by
      rw [List.lookup_eq_none_iff]
      intro pair here
      have there : pair.1 ∈ entries.map (·.1) := same ▸ List.mem_map_of_mem here
      simp only [bne_iff_ne]
      rintro rfl
      exact (List.nodup_cons.mp distinct).1 there
    have value := values key'
    simp only [List.lookup_cons_self, Option.some.injEq] at value
    rw [value, ih (List.nodup_cons.mp distinct).2 others fun other => ?_]
    by_cases same : other = key'
    · rw [same, absent others, absent rfl]
    · have rest := values other
      rwa [lookup_cons_of_ne same, lookup_cons_of_ne same] at rest

/-- Files that are written a second time leave the disk as it is. -/
theorem putAll_putAll {files : List (Location × DiskNode)} {disk : Disk} (proper : (putAll files disk).Proper) :
    putAll files (putAll files disk) = putAll files disk := by
  have entries : (putAll files (putAll files disk)).entries = (putAll files disk).entries := by
    refine eq_of_lookups proper.distinct (places_putAll fun file here => ?_) fun place => ?_
    · exact mem_places_putAll (.inl (List.mem_map_of_mem here))
    · rw [lookup_putAll, lookup_putAll, ← Option.or_assoc, Option.or_self]
  exact congrArg Disk.mk entries

end Disk

end GoSpecs
