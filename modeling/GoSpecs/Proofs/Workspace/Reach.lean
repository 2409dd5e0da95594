import GoSpecs.Proofs.Workspace.Jobs

namespace GoSpecs

open GoSpecs.Path

namespace Path

def isIdle (segment : Bytes) : Bool :=
  segment == [] || segment == [dot]

def components (path : Bytes) : Parts :=
  { Parts.ofPath path with segments := (Parts.ofPath path).segments.filter fun segment => !isIdle segment }

end Path

namespace Disk

/-- Where a path leads to if directories are on its way. -/
def lead (cwd : Location) (path : Bytes) : Location :=
  (Path.segments path).foldl enter (origin cwd path)

theorem enter_idle {segment : Bytes} (idle : isIdle segment = true) (here : Location) : enter here segment = here := by
  rw [enter, if_pos (by simpa [isIdle] using idle)]

theorem foldl_enter_filter (here : Location) (segments : List Bytes) :
    (segments.filter fun segment => !isIdle segment).foldl enter here = segments.foldl enter here := by
  induction segments generalizing here with
  | nil => rfl
  | cons segment segments ih =>
    cases idle : isIdle segment with
    | true => rw [List.filter_cons_of_neg (by simp [idle]), List.foldl_cons, enter_idle idle, ih]
    | false => rw [List.filter_cons_of_pos (by simp [idle]), List.foldl_cons, List.foldl_cons, ih]

theorem lead_eq (cwd : Location) (path : Bytes) :
    lead cwd path =
      (components path).segments.foldl enter (if (components path).base = .root then [] else cwd) := by
  unfold lead components Parts.ofPath origin
  cases absolute : isAbsolute path with
  | true =>
    obtain ⟨rest, rfl⟩ := isAbsolute_iff.mp absolute
    simp only [if_true, foldl_enter_filter, segments_root, List.tail_cons, List.foldl_cons]
    rfl
  | false =>
    simp only [Bool.false_eq_true, if_false]
    split
    · rename_i rest shape
      simp only [shape, foldl_enter_filter, reduceCtorEq, if_false, List.foldl_cons]
      rfl
    · simp only [foldl_enter_filter, reduceCtorEq, if_false]

theorem lead_of_components {first second : Bytes} (cwd : Location) (same : components first = components second) :
    lead cwd first = lead cwd second := by
  rw [lead_eq, lead_eq, same]

variable {disk other : Disk} {cwd place : Location} {path name : Bytes}

theorem eq_of_follow {here there : Location} {segments : List Bytes} (found : disk.follow here segments = .ok there) :
    there = segments.foldl enter here := by
  induction segments generalizing here with
  | nil =>
    cases found
    rfl
  | cons segment segments ih =>
    rw [follow] at found
    split at found
    · cases found
    · cases found
    · split at found
      · cases found
      · exact ih found

theorem Leads.lead_join (leads : Leads disk cwd path place) (isName : IsName name) :
    lead cwd (join path name) = place ++ [name] := by
  obtain ⟨front, same, found⟩ := leads.front isName.segment
  rw [lead, same, List.foldl_append, ← eq_of_follow found]
  exact enter_of_isName isName place

def SameDirs (disk other : Disk) : Prop :=
  ∀ place, other.at? place = some .dir ↔ disk.at? place = some .dir

theorem SameDirs.refl (disk : Disk) : SameDirs disk disk :=
  fun _ => Iff.rfl

theorem SameDirs.put (dirs : SameDirs disk other) (below : place ≠ []) (free : disk.at? place ≠ some .dir)
    (bytes : ByteArray) : SameDirs disk (other.put place (.file bytes)) := by
  intro there
  rw [at?_put below]
  split
  · rename_i same
    subst same
    simp [free]
  · exact dirs there

def Reaches (disk : Disk) (cwd : Location) (path : Bytes) : Prop :=
  ∃ dir name above, path = join dir name ∧ disk.Leads cwd dir above ∧ IsName name

namespace Reaches

theorem lead_ne_nil (reaches : disk.Reaches cwd path) : lead cwd path ≠ [] := by
  obtain ⟨dir, name, above, rfl, leads, isName⟩ := reaches
  simp [leads.lead_join isName]

theorem locate_eq (reaches : disk.Reaches cwd path) (dirs : SameDirs disk other)
    (same : other.at? (lead cwd path) = disk.at? (lead cwd path)) : other.locate cwd path = disk.locate cwd path := by
  obtain ⟨dir, name, above, rfl, leads, isName⟩ := reaches
  rw [leads.lead_join isName] at same
  obtain ⟨front, shape, found⟩ := leads.front isName.segment
  have found' := follow_of_dirs (fun place => (dirs place).mpr) found
  have isDir := leads.isDir
  have isDir' := (dirs above).mpr isDir
  unfold locate
  rw [shape, follow_append, follow_append, found, found']
  simp only [Except.bind]
  by_cases short : name.length ≤ maxNameSize
  · rw [follow_segment isDir short, follow_segment isDir' short, enter_of_isName isName]
    cases check (join dir name) with
    | error refusal => rfl
    | ok _ => simp only [bind, Except.bind, same]
  · have long := Nat.lt_of_not_le short
    rw [follow_long isDir long, follow_long isDir' long]
    rfl

theorem readText_eq (reaches : disk.Reaches cwd path) (dirs : SameDirs disk other)
    (same : other.at? (lead cwd path) = disk.at? (lead cwd path)) :
    other.readText cwd path = disk.readText cwd path := by
  rw [readText, readBytes, reaches.locate_eq dirs same, readText, readBytes]

theorem target_eq (reaches : disk.Reaches cwd path) (dirs : SameDirs disk other) :
    other.target cwd path = disk.target cwd path := by
  obtain ⟨dir, name, above, rfl, leads, isName⟩ := reaches
  obtain ⟨front, shape, found⟩ := leads.front isName.segment
  have found' := follow_of_dirs (fun place => (dirs place).mpr) found
  have kept : ((front ++ [name]).reverse.dropWhile (· == [])).reverse = front ++ [name] := by
    simp [isName.filled]
  unfold target
  simp only [shape, kept, List.getLast?_concat, List.dropLast_concat, found, found', bind, Except.bind, leads.isDir,
    (dirs above).mpr leads.isDir]

theorem eq_lead (reaches : disk.Reaches cwd path) (found : disk.target cwd path = .ok place) :
    place = lead cwd path := by
  obtain ⟨dir, name, above, rfl, leads, isName⟩ := reaches
  rw [leads.lead_join isName]
  exact ((leads.target_join isName).mp found).2.2

theorem exists?_eq_false (reaches : disk.Reaches cwd path) (found : disk.target cwd path = .ok place)
    (none : disk.at? place = none) : disk.exists? cwd path = false := by
  obtain ⟨dir, name, above, rfl, leads, isName⟩ := reaches
  obtain ⟨-, -, rfl⟩ := (leads.target_join isName).mp found
  rw [Bool.eq_false_iff]
  intro present
  have some := ((leads.exists?_join isName).mp present).2.2
  rw [none] at some
  cases some

/-- The same text is written to the same place of both disks, or refused for the same reason. -/
theorem writeText_cases (reaches : disk.Reaches cwd path) (dirs : SameDirs disk other) (text : String) :
    (∃ refusal, disk.writeText cwd path text = .error refusal ∧ other.writeText cwd path text = .error refusal) ∨
      disk.target cwd path = .ok (lead cwd path) ∧ disk.at? (lead cwd path) ≠ some .dir ∧
        disk.writeText cwd path text = .ok (disk.put (lead cwd path) (.file text.toUTF8)) ∧
        other.writeText cwd path text = .ok (other.put (lead cwd path) (.file text.toUTF8)) := by
  unfold writeText writeBytes
  rw [reaches.target_eq dirs]
  cases found : disk.target cwd path with
  | error refusal => exact .inl ⟨refusal, rfl, rfl⟩
  | ok place =>
    obtain rfl := reaches.eq_lead found
    simp only [bind, Except.bind]
    by_cases isDir : disk.at? (lead cwd path) = some .dir
    · rw [isDir, (dirs _).mpr isDir]
      exact .inl ⟨.isDirectory, rfl, rfl⟩
    · have isDir' : other.at? (lead cwd path) ≠ some .dir := fun there => isDir ((dirs _).mp there)
      refine .inr ⟨trivial, isDir, ?_, ?_⟩
      · split
        · contradiction
        · rfl
      · split
        · contradiction
        · rfl

end Reaches

end Disk

end GoSpecs
