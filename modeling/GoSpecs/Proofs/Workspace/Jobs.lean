import GoSpecs.Proofs.Workspace.Growth
import GoSpecs.Proofs.Conversion.Declarations

namespace GoSpecs

namespace Job

/-- The job succeeds, and leaves the disk so. -/
def Yields {α : Type} (job : Job α) (before : Disk) (value : α) (after : Disk) : Prop :=
  job.run.run before = (.ok value, after)

section

variable {α β : Type} {before after : Disk}

theorem yields_pure {value result : α} : Yields (pure value) before result after ↔ result = value ∧ after = before := by
  change ((.ok value, before) : Except Error α × Disk) = (.ok result, after) ↔ _
  simp [eq_comm]

theorem yields_throw {error : Error} {result : α} : ¬Yields (throw error) before result after := by
  change ¬((.error error, before) : Except Error α × Disk) = (.ok result, after)
  simp

theorem run_bind (job : Job α) (next : α → Job β) (before : Disk) :
    (job >>= next).run.run before =
      match job.run.run before with
      | (.ok value, between) => (next value).run.run between
      | (.error error, between) => (.error error, between) := by
  unfold ExceptT.run StateT.run
  simp only [bind, ExceptT.bind, ExceptT.mk, StateT.bind, ExceptT.bindCont]
  cases job before with
  | mk outcome between => cases outcome <;> rfl

theorem yields_bind {job : Job α} {next : α → Job β} {result : β} :
    Yields (job >>= next) before result after ↔
      ∃ value between, Yields job before value between ∧ Yields (next value) between result after := by
  unfold Yields
  rw [run_bind]
  cases job.run.run before with
  | mk outcome between =>
    cases outcome with
    | error error =>
      constructor
      · intro impossible
        cases impossible
      · rintro ⟨value, between, impossible, -⟩
        cases impossible
    | ok value =>
      constructor
      · intro rest
        exact ⟨value, between, rfl, rest⟩
      · rintro ⟨value', between', same, rest⟩
        cases same
        exact rest

theorem yields_get_bind {next : Disk → Job β} {result : β} :
    Yields (get >>= next) before result after ↔ Yields (next before) before result after := by
  have same : Yields get before before before := rfl
  rw [yields_bind]
  constructor
  · rintro ⟨_, _, got, rest⟩
    cases got
    exact rest
  · intro rest
    exact ⟨before, before, same, rest⟩

theorem yields_set {disk : Disk} {result : PUnit} : Yields (set disk) before result after ↔ after = disk := by
  change ((.ok ⟨⟩, disk) : Except Error PUnit × Disk) = (.ok result, after) ↔ _
  simp [eq_comm]

theorem yields_mapM_cons {job : α → Job β} {first : α} {rest : List α} {results : List β} :
    Yields ((first :: rest).mapM job) before results after ↔
      ∃ result between others, Yields (job first) before result between ∧ Yields (rest.mapM job) between others after ∧
        results = result :: others := by
  simp only [List.mapM_cons, yields_bind, yields_pure]
  constructor
  · rintro ⟨result, between, one, others, _, more, rfl, rfl⟩
    exact ⟨result, between, others, one, more, rfl⟩
  · rintro ⟨result, between, others, one, more, rfl⟩
    exact ⟨result, between, one, others, after, more, rfl, rfl⟩

theorem yields_ofFault {path : Bytes} {outcome : Except Fault α} {result : α} :
    Yields (ofFault path outcome) before result after ↔ outcome = .ok result ∧ after = before := by
  cases outcome with
  | error fault => simp [ofFault, yields_throw]
  | ok value => simp [ofFault, yields_pure, eq_comm]

end

section

variable {host : Host} {before after : Disk} {path : Bytes} {text : String}

theorem yields_readText : Yields (host.readText path) before text after ↔
    before.readText host.cwd path = .ok text ∧ after = before := by
  rw [Host.readText, yields_get_bind]
  cases before.readText host.cwd path with
  | error refusal => simp [yields_throw]
  | ok found => simp [yields_pure, eq_comm]

theorem yields_writeText {result : Unit} : Yields (host.writeText path text) before result after ↔
    before.writeText host.cwd path text = .ok after := by
  rw [Host.writeText, yields_get_bind]
  cases before.writeText host.cwd path text with
  | error refusal => simp [yields_throw]
  | ok disk => simp [yields_set, eq_comm]

theorem yields_list {entries : List (Bytes × DiskNode)} : Yields (host.list path) before entries after ↔
    before.list host.cwd path = .ok entries ∧ after = before := by
  rw [Host.list, yields_get_bind]
  cases before.list host.cwd path with
  | error refusal => simp [yields_throw]
  | ok found => simp [yields_pure, eq_comm]

theorem yields_isDir {result : Bool} : Yields (host.isDir path) before result after ↔
    result = before.isDir host.cwd path ∧ after = before := by
  rw [Host.isDir, yields_get_bind, yields_pure]

theorem yields_isPresent {result : Bool} : Yields (host.isPresent path) before result after ↔
    result = before.exists? host.cwd path ∧ after = before := by
  rw [Host.isPresent, yields_get_bind, yields_pure]

end

end Job

theorem Disk.list_eq_ok {disk : Disk} {cwd : Location} {path : Bytes} {entries : List (Bytes × DiskNode)}
    (listed : disk.list cwd path = .ok entries) :
    (∃ place, disk.locate cwd path = .ok (place, .dir) ∧ entries = disk.children place) ∨
      (∀ place, disk.locate cwd path ≠ .ok (place, .dir)) ∧ entries = [] := by
  unfold Disk.list at listed
  cases found : disk.locate cwd path with
  | error refusal =>
    rw [found] at listed
    cases listed
  | ok result =>
    obtain ⟨place, node⟩ := result
    rw [found] at listed
    cases node with
    | dir =>
      cases listed
      exact .inl ⟨place, rfl, rfl⟩
    | file bytes =>
      cases listed
      exact .inr ⟨by simp, rfl⟩

namespace Disk.Leads

variable {disk after : Disk} {cwd place : Location} {path name : Bytes} {text : String}

theorem readText_join (leads : Leads disk cwd path place) (isName : Path.IsName name) :
    disk.readText cwd (Path.join path name) = .ok text ↔ check (Path.join path name) = .ok () ∧
      name.length ≤ maxNameSize ∧
      ∃ bytes, disk.at? (place ++ [name]) = some (.file bytes) ∧ String.fromUTF8? bytes = some text := by
  unfold Disk.readText Disk.readBytes
  constructor
  · intro read
    cases found : disk.locate cwd (Path.join path name) with
    | error refusal =>
      rw [found] at read
      cases read
    | ok result =>
      obtain ⟨there, node⟩ := result
      obtain ⟨checked, short, -, here⟩ := (leads.locate_join isName).mp found
      rw [found] at read
      cases node with
      | dir => cases read
      | file bytes =>
        refine ⟨checked, short, bytes, here, ?_⟩
        simp only [bind, Except.bind, pure, Except.pure] at read
        split at read
        · cases read
          assumption
        · cases read
  · rintro ⟨checked, short, bytes, here, decoded⟩
    rw [(leads.locate_join isName).mpr ⟨checked, short, rfl, here⟩]
    simp only [bind, Except.bind, pure, Except.pure, decoded]

theorem writeText_join (leads : Leads disk cwd path place) (isName : Path.IsName name) :
    disk.writeText cwd (Path.join path name) text = .ok after ↔ check (Path.join path name) = .ok () ∧
      name.length ≤ maxNameSize ∧ disk.at? (place ++ [name]) ≠ some .dir ∧
      after = disk.put (place ++ [name]) (.file text.toUTF8) := by
  unfold Disk.writeText Disk.writeBytes
  constructor
  · intro written
    cases target : disk.target cwd (Path.join path name) with
    | error refusal =>
      rw [target] at written
      cases written
    | ok there =>
      obtain ⟨checked, short, rfl⟩ := (leads.target_join isName).mp target
      rw [target] at written
      simp only [bind, Except.bind, pure, Except.pure] at written
      split at written
      · cases written
      · rename_i free
        cases written
        exact ⟨checked, short, fun isDir => free isDir, rfl⟩
  · rintro ⟨checked, short, free, rfl⟩
    rw [(leads.target_join isName).mpr ⟨checked, short, rfl⟩]
    simp only [bind, Except.bind, pure, Except.pure]

theorem exists?_join (leads : Leads disk cwd path place) (isName : Path.IsName name) :
    disk.exists? cwd (Path.join path name) = true ↔ Disk.check (Path.join path name) = .ok () ∧
      name.length ≤ maxNameSize ∧ (disk.at? (place ++ [name])).isSome = true := by
  constructor
  · intro present
    unfold Disk.exists? at present
    cases found : disk.locate cwd (Path.join path name) with
    | error refusal =>
      rw [found] at present
      cases present
    | ok result =>
      obtain ⟨there, node⟩ := result
      obtain ⟨checked, short, -, here⟩ := (leads.locate_join isName).mp found
      exact ⟨checked, short, by rw [here, Option.isSome_some]⟩
  · rintro ⟨checked, short, some⟩
    obtain ⟨node, here⟩ := Option.isSome_iff_exists.mp some
    rw [Disk.exists?, (leads.locate_join isName).mpr ⟨checked, short, rfl, here⟩]
    rfl

end Disk.Leads

end GoSpecs
