import GoSpecs.Proofs.Workspace.Reach
import GoSpecs.Proofs.Workspace.SecondRun

namespace GoSpecs

namespace Job

variable {α β : Type} {before after : Disk}

def Ends (job : Job α) (before : Disk) (outcome : Except Error α) (after : Disk) : Prop :=
  job.run.run before = (outcome, after)

theorem ends_pure {value : α} {outcome : Except Error α} :
    Ends (pure value) before outcome after ↔ outcome = .ok value ∧ after = before := by
  change ((.ok value, before) : Except Error α × Disk) = (outcome, after) ↔ _
  rw [Prod.mk.injEq, eq_comm, @eq_comm _ before]

theorem ends_throw {error : Error} {outcome : Except Error α} :
    Ends (throw error) before outcome after ↔ outcome = .error error ∧ after = before := by
  change ((.error error, before) : Except Error α × Disk) = (outcome, after) ↔ _
  rw [Prod.mk.injEq, eq_comm, @eq_comm _ before]

theorem ends_bind {job : Job α} {next : α → Job β} {outcome : Except Error β} :
    Ends (job >>= next) before outcome after ↔
      (∃ error, outcome = .error error ∧ Ends job before (.error error) after) ∨
        ∃ value between, Yields job before value between ∧ Ends (next value) between outcome after := by
  unfold Ends Yields
  rw [run_bind]
  cases job.run.run before with
  | mk first between =>
    cases first with
    | error error =>
      constructor
      · intro same
        cases same
        exact .inl ⟨error, rfl, rfl⟩
      · rintro (⟨error', rfl, same⟩ | ⟨value, between', impossible, -⟩)
        · cases same
          rfl
        · cases impossible
    | ok value =>
      constructor
      · intro rest
        exact .inr ⟨value, between, rfl, rest⟩
      · rintro (⟨error, rfl, impossible⟩ | ⟨value', between', same, rest⟩)
        · cases impossible
        · cases same
          exact rest

theorem Ends.first {job : Job α} {result : α → β} {outcome : Except Error β}
    (ends : Ends (job >>= fun value => pure (result value)) before outcome after) :
    ∃ outcome', Ends job before outcome' after := by
  rcases ends_bind.mp ends with ⟨error, -, failed⟩ | ⟨value, between, found, done⟩
  · exact ⟨_, failed⟩
  · obtain ⟨-, rfl⟩ := ends_pure.mp done
    exact ⟨_, found⟩

theorem ends_get_bind {next : Disk → Job β} {outcome : Except Error β} :
    Ends (get >>= next) before outcome after ↔ Ends (next before) before outcome after := by
  have got : Yields get before before before := rfl
  rw [ends_bind]
  constructor
  · rintro (⟨error, rfl, impossible⟩ | ⟨_, _, same, rest⟩)
    · cases impossible
    · cases same
      exact rest
  · intro rest
    exact .inr ⟨before, before, got, rest⟩

theorem Ends.bind {job : Job α} {next : α → Job β} {outcome : Except Error α} {rest : α → Except Error β}
    (first : Ends job before outcome after) (second : ∀ value, Ends (next value) after (rest value) after) :
    Ends (job >>= next) before (outcome >>= rest) after := by
  rw [ends_bind]
  cases outcome with
  | error error => exact .inl ⟨error, rfl, first⟩
  | ok value => exact .inr ⟨value, after, first, second value⟩

theorem ends_readText (host : Host) (path : Bytes) (disk : Disk) :
    Ends (host.readText path) disk ((disk.readText host.cwd path).mapError (.file path)) disk := by
  rw [Host.readText, ends_get_bind]
  cases disk.readText host.cwd path <;> rfl

theorem ends_ofFault (path : Bytes) (result : Except Fault α) (disk : Disk) :
    Ends (ofFault path result) disk (result.mapError fun fault => (Error.source fault).within path) disk := by
  cases result <;> rfl

def Reads (job : Job α) : Prop :=
  ∀ before outcome after, Ends job before outcome after → after = before

theorem Reads.pure (value : α) : Reads (pure value) :=
  fun _ _ _ ends => (ends_pure.mp ends).2

theorem Reads.throw (error : Error) : Reads (throw error : Job α) :=
  fun _ _ _ ends => (ends_throw.mp ends).2

theorem Reads.get : Reads get := by
  intro before outcome after ends
  cases ends
  rfl

theorem Reads.bind {job : Job α} {next : α → Job β} (first : Reads job) (second : ∀ value, Reads (next value)) :
    Reads (job >>= next) := by
  intro before outcome after ends
  rcases ends_bind.mp ends with ⟨error, -, failed⟩ | ⟨value, between, one, two⟩
  · exact first before _ after failed
  · rw [second value between outcome after two]
    exact first before _ between one

theorem Reads.ofFault (path : Bytes) (outcome : Except Fault α) : Reads (ofFault path outcome) := by
  cases outcome with
  | error fault => exact .throw _
  | ok value => exact .pure value

section

variable (host : Host) (path : Bytes)

theorem Reads.readText : Reads (host.readText path) := by
  refine .bind .get fun disk => ?_
  cases disk.readText host.cwd path with
  | error refusal => exact .throw _
  | ok text => exact .pure text

theorem Reads.list : Reads (host.list path) := by
  refine .bind .get fun disk => ?_
  cases disk.list host.cwd path with
  | error refusal => exact .throw _
  | ok entries => exact .pure entries

theorem Reads.isDir : Reads (host.isDir path) :=
  .bind .get fun disk => .pure (disk.isDir host.cwd path)

theorem Reads.isPresent : Reads (host.isPresent path) :=
  .bind .get fun disk => .pure (disk.exists? host.cwd path)

theorem Reads.ofFiles (conventions : Conventions) (files : List Bytes) :
    Reads (Package.ofFiles host conventions path files) := by
  unfold Package.ofFiles
  split
  · exact .pure none
  · rename_i file _
    exact .bind (.readText host file) fun _ => .bind (.ofFault file _) fun _ => .pure _

theorem Reads.survey (conventions : Conventions) : Reads (Package.survey host conventions path) := by
  refine .bind (.bind (.list host path) fun _ => .pure _) fun found => ?_
  exact .bind (.ofFiles host path conventions found.1) fun _ => .pure _

theorem Reads.resolve (id : String) : Reads (Package.resolve host id) := by
  refine .bind (.isDir host _) fun isDir => ?_
  split
  · exact .pure _
  · refine .bind .get fun disk => ?_
    split
    · exact .pure _
    · exact .throw _

end

end Job

open Disk Job

namespace Host

variable {host : Host} {settings : Settings} {disk other after : Disk} {path : Bytes}

theorem ends_writeText {text : String} {outcome : Except Error Unit} :
    Ends (host.writeText path text) disk outcome after ↔
      (∃ refusal, disk.writeText host.cwd path text = .error refusal ∧ outcome = .error (.file path refusal) ∧
        after = disk) ∨ disk.writeText host.cwd path text = .ok after ∧ outcome = .ok () := by
  rw [Host.writeText, ends_get_bind]
  cases disk.writeText host.cwd path text with
  | error refusal => simp [ends_throw]
  | ok written =>
    change ((.ok (), written) : Except Error Unit × Disk) = (outcome, after) ↔ _
    simp [and_comm, eq_comm]

/-- The file that a path leads to, converted but not written, and the number of its tests. -/
def prepare (host : Host) (settings : Settings) (path : Bytes) : Job (SourceFile × Nat) := do
  Job.ofFault path ((← host.loadFile path).converted settings.conventions)

theorem convertFile_eq (host : Host) (settings : Settings) (path : Bytes) :
    host.convertFile settings path = host.prepare settings path >>= fun converted => do
      host.writeText (settings.outputPath path) converted.1.render
      return ⟨settings.outputPath path, converted.2⟩ := by
  simp [convertFile, prepare]

theorem exists_prepared (host : Host) (settings : Settings) (path : Bytes) :
    ∃ prepared : Except Refusal String → Except Error (SourceFile × Nat),
      ∀ disk, Ends (host.prepare settings path) disk (prepared (disk.readText host.cwd path)) disk := by
  let named (fault : Fault) : Error := (Error.source fault).within path
  refine ⟨fun read => (read.mapError (.file path) >>= fun text => (SourceFile.ofText text).mapError named) >>=
    fun file => (file.converted settings.conventions).mapError named, fun disk => ?_⟩
  have loaded := (ends_readText host path disk).bind fun text => ends_ofFault path (SourceFile.ofText text) disk
  exact loaded.bind fun file => ends_ofFault path (file.converted settings.conventions) disk

theorem eq_of_convertFile_error {error : Error}
    (failed : Ends (host.convertFile settings path) disk (.error error) after) : after = disk := by
  obtain ⟨prepared, prepares⟩ := exists_prepared host settings path
  have first := prepares disk
  rw [convertFile_eq] at failed
  rcases ends_bind.mp failed with ⟨error', -, early⟩ | ⟨converted, between, ready, late⟩
  · exact (Prod.mk.inj (early.symm.trans first)).2
  · obtain rfl : between = disk := (Prod.mk.inj (ready.symm.trans first)).2
    rcases ends_bind.mp late with ⟨error', -, refused⟩ | ⟨_, written, -, done⟩
    · rcases ends_writeText.mp refused with ⟨-, -, -, same⟩ | ⟨-, impossible⟩
      · exact same
      · cases impossible
    · cases (ends_pure.mp done).1

/-- On disks that differ elsewhere a file is converted alike: it fails for the same reason, or the same specs go to
the same place. -/
theorem convertFile_alike (input : disk.Reaches host.cwd path)
    (output : disk.Reaches host.cwd (settings.outputPath path)) (dirs : SameDirs disk other)
    (same : other.at? (lead host.cwd path) = disk.at? (lead host.cwd path)) :
    (∃ error, Ends (host.convertFile settings path) disk (.error error) disk ∧
      Ends (host.convertFile settings path) other (.error error) other) ∨
    ∃ written bytes, disk.target host.cwd (settings.outputPath path) = .ok (lead host.cwd (settings.outputPath path)) ∧
      disk.at? (lead host.cwd (settings.outputPath path)) ≠ some .dir ∧
      Ends (host.convertFile settings path) disk (.ok written)
        (disk.put (lead host.cwd (settings.outputPath path)) (.file bytes)) ∧
      Ends (host.convertFile settings path) other (.ok written)
        (other.put (lead host.cwd (settings.outputPath path)) (.file bytes)) := by
  obtain ⟨prepared, prepares⟩ := exists_prepared host settings path
  have first := prepares disk
  have second := prepares other
  rw [input.readText_eq dirs same] at second
  simp only [convertFile_eq, ends_bind]
  cases outcome : prepared (disk.readText host.cwd path) with
  | error error =>
    rw [outcome] at first second
    exact .inl ⟨error, .inl ⟨error, rfl, first⟩, .inl ⟨error, rfl, second⟩⟩
  | ok converted =>
    rw [outcome] at first second
    rcases output.writeText_cases dirs converted.1.render with ⟨refusal, one, two⟩ | ⟨found, free, one, two⟩
    · have refused (disk : Disk)
          (write : disk.writeText host.cwd (settings.outputPath path) converted.1.render = .error refusal) :
          Ends (host.writeText (settings.outputPath path) converted.1.render) disk
            (.error (.file (settings.outputPath path) refusal)) disk :=
        ends_writeText.mpr (.inl ⟨refusal, write, rfl, rfl⟩)
      exact .inl ⟨_, .inr ⟨converted, disk, first, .inl ⟨_, rfl, refused disk one⟩⟩,
        .inr ⟨converted, other, second, .inl ⟨_, rfl, refused other two⟩⟩⟩
    · have done (disk after : Disk)
          (write : disk.writeText host.cwd (settings.outputPath path) converted.1.render = .ok after) :
          Ends (host.writeText (settings.outputPath path) converted.1.render) disk (.ok ()) after :=
        ends_writeText.mpr (.inr ⟨write, rfl⟩)
      exact .inr ⟨_, _, found, free,
        .inr ⟨converted, disk, first, .inr ⟨(), _, done disk _ one, ends_pure.mpr ⟨rfl, rfl⟩⟩⟩,
        .inr ⟨converted, other, second, .inr ⟨(), _, done other _ two, ends_pure.mpr ⟨rfl, rfl⟩⟩⟩⟩

end Host

theorem Suite.ends_ensure {host : Host} {dir : Bytes} {package : String} {disk after : Disk} {place : Location}
    (leads : disk.Leads host.cwd dir place) (isName : Path.IsName (Conventions.suiteName package))
    {outcome : Except Error Bool} (ends : Ends (ensure host .template .ginkgo dir package) disk outcome after) :
    after = disk ∨
      disk.target host.cwd (path .ginkgo dir package) = .ok (place ++ [Conventions.suiteName package]) ∧
      disk.at? (place ++ [Conventions.suiteName package]) = none ∧
      after = disk.put (place ++ [Conventions.suiteName package])
        (.file (source .ginkgo package).toUTF8) := by
  rcases ends_bind.mp ends with ⟨error, -, failed⟩ | ⟨present, between, one, two⟩
  · exact .inl (Reads.isPresent host _ _ _ _ failed)
  · obtain ⟨rfl, rfl⟩ := yields_isPresent.mp one
    split at two
    · exact .inl (ends_pure.mp two).2
    · rename_i absent
      obtain ⟨outcome', wrote⟩ := two.first
      change Ends (writeTemplate host .ginkgo dir package) _ _ _ at wrote
      rw [writeTemplate, ends_get_bind] at wrote
      split at wrote
      · rename_i written found
        cases wrote
        obtain ⟨checked, short, -, put⟩ := (leads.writeText_join isName).mp found
        refine .inr ⟨(leads.target_join isName).mpr ⟨checked, short, rfl⟩, ?_, put⟩
        rw [path, leads.exists?_join isName] at absent
        cases here : between.at? (place ++ [Conventions.suiteName package]) with
        | none => rfl
        | some node => exact (absent ⟨checked, short, by rw [here]; rfl⟩).elim
      · exact .inl (ends_throw.mp wrote).2

theorem Package.ends_provide {host : Host} {settings : Settings} (maker : settings.maker = .template)
    (conventions : settings.conventions = .ginkgo) {disk after : Disk} {package : Package} {outcome : Except Error Unit}
    (ends : Ends (provide host settings (some package)) disk outcome after) :
    after = disk ∨
      ∃ outcome', Ends (Suite.ensure host .template .ginkgo package.dir package.name) disk outcome' after := by
  rw [provide, maker, conventions] at ends
  split at ends
  · exact .inr ends.first
  · exact .inl (ends_pure.mp ends).2

end GoSpecs
