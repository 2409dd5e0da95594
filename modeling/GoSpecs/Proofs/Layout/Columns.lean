import GoSpecs.Layout.Columns

namespace GoSpecs.Layout

theorem runMaxima_cons (seen : Nat) (entry : Option Nat) (entries : List (Option Nat)) :
    ∃ largest later, runMaxima seen (entry :: entries) = largest :: runMaxima later entries := by
  cases entry with
  | none => exact ⟨0, 0, rfl⟩
  | some value =>
    simp only [runMaxima]
    split
    · exact ⟨_, max seen value, rfl⟩
    · exact ⟨_, max seen value, rfl⟩

theorem length_runMaxima (seen : Nat) (entries : List (Option Nat)) :
    (runMaxima seen entries).length = entries.length := by
  induction entries generalizing seen with
  | nil => rfl
  | cons entry entries ih =>
    obtain ⟨largest, later, same⟩ := runMaxima_cons seen entry entries
    rw [same, List.length_cons, ih, List.length_cons]

theorem runMaxima_some_some (seen one other : Nat) (entries : List (Option Nat)) :
    ∃ largest tail, runMaxima (max seen one) (some other :: entries) = largest :: tail ∧
      runMaxima seen (some one :: some other :: entries) = largest :: largest :: tail := by
  obtain ⟨largest, later, same⟩ := runMaxima_cons (max seen one) (some other) entries
  refine ⟨largest, _, same, ?_⟩
  generalize runMaxima later entries = tail at same ⊢
  unfold runMaxima
  simp only [same]

theorem max_le_runMaxima {seen value largest : Nat} {entries : List (Option Nat)} {tail : List Nat}
    (same : runMaxima seen (some value :: entries) = largest :: tail) : max seen value ≤ largest := by
  induction entries generalizing seen value largest tail with
  | nil => exact Nat.le_of_eq (List.cons.inj same).1
  | cons entry entries ih =>
    cases entry with
    | none => exact Nat.le_of_eq (List.cons.inj same).1
    | some other =>
      obtain ⟨next, rest, inner, whole⟩ := runMaxima_some_some seen value other entries
      rw [whole] at same
      have bound := ih inner
      have head := (List.cons.inj same).1
      omega

theorem runMaxima_adjacent {entries : List (Option Nat)} {index one other : Nat} (seen : Nat)
    (here : entries[index]? = some (some one)) (next : entries[index + 1]? = some (some other)) :
    (runMaxima seen entries)[index]? = (runMaxima seen entries)[index + 1]? := by
  induction entries generalizing index seen with
  | nil => cases here
  | cons entry entries ih =>
    cases index with
    | zero =>
      cases entries with
      | nil => cases next
      | cons following entries =>
        obtain rfl : entry = some one := by simpa using here
        obtain rfl : following = some other := by simpa using next
        obtain ⟨largest, tail, -, same⟩ := runMaxima_some_some seen one other entries
        rw [same]
        rfl
    | succ index =>
      obtain ⟨largest, later, same⟩ := runMaxima_cons seen entry entries
      rw [same, List.getElem?_cons_succ, List.getElem?_cons_succ]
      exact ih later here next

theorem le_runMaxima {entries : List (Option Nat)} {index value : Nat} (seen : Nat)
    (here : entries[index]? = some (some value)) :
    ∃ largest, (runMaxima seen entries)[index]? = some largest ∧ value ≤ largest := by
  induction entries generalizing index seen with
  | nil => cases here
  | cons entry entries ih =>
    obtain ⟨largest, later, same⟩ := runMaxima_cons seen entry entries
    cases index with
    | zero =>
      obtain rfl : entry = some value := by simpa using here
      exact ⟨largest, by rw [same]; rfl, Nat.le_trans (Nat.le_max_right seen value) (max_le_runMaxima same)⟩
    | succ index =>
      rw [same, List.getElem?_cons_succ]
      exact ih later here

theorem runMaxima_before_none (seen : Nat) (front rest : List (Option Nat)) :
    runMaxima seen (front ++ none :: rest) = runMaxima seen (front ++ [none]) ++ runMaxima 0 rest := by
  induction front generalizing seen with
  | nil => rfl
  | cons entry front ih =>
    cases entry with
    | none => exact congrArg (0 :: ·) (ih 0)
    | some one =>
      cases front with
      | nil => rfl
      | cons following front =>
        cases following with
        | none => exact congrArg (max seen one :: ·) (ih (max seen one))
        | some other =>
          have inner := ih (max seen one)
          simp only [List.cons_append] at inner ⊢
          obtain ⟨whole, tail, same, run⟩ := runMaxima_some_some seen one other (front ++ none :: rest)
          obtain ⟨part, tail', same', run'⟩ := runMaxima_some_some seen one other (front ++ [none])
          rw [same, same', List.cons_append, List.cons.injEq] at inner
          rw [run, run', inner.1, inner.2]
          rfl

/-- What stands before an entry that is in no run has no part in what follows. -/
theorem runMaxima_append {before rest : List (Option Nat)} (ends : ∀ entry ∈ before.getLast?, entry = none) :
    runMaxima 0 (before ++ rest) = runMaxima 0 before ++ runMaxima 0 rest := by
  rcases List.eq_nil_or_concat before with rfl | ⟨front, entry, rfl⟩
  · rfl
  · obtain rfl : entry = none := ends entry (by simp)
    rw [List.concat_eq_append, List.append_assoc, List.singleton_append, runMaxima_before_none]

theorem runMaxima_run (seen : Nat) (values : List Nat) {after : List (Option Nat)}
    (ends : ∀ entry ∈ after.head?, entry = none) :
    runMaxima seen (values.map some ++ after) =
      List.replicate values.length (values.foldl max seen) ++ runMaxima 0 after := by
  have rest (seen : Nat) : runMaxima seen after = runMaxima 0 after := by
    cases after with
    | nil => rfl
    | cons entry after =>
      obtain rfl : entry = none := ends entry rfl
      rfl
  induction values generalizing seen with
  | nil => exact rest seen
  | cons one values ih =>
    have inner := ih (max seen one)
    cases values with
    | nil =>
      cases after with
      | nil => rfl
      | cons entry after =>
        obtain rfl : entry = none := ends entry rfl
        rfl
    | cons other values =>
      obtain ⟨largest, tail, same, run⟩ := runMaxima_some_some seen one other (values.map some ++ after)
      simp only [List.map_cons, List.cons_append, List.length_cons, List.replicate_succ, List.foldl_cons] at inner ⊢
      rw [same, List.cons.injEq] at inner
      rw [run, inner.1, inner.2]

namespace Row

def TakesPart (row : Row) (column : Nat) : Prop :=
  row.isSingleLine = true ∧ column + 1 < row.length

instance (row : Row) (column : Nat) : Decidable (row.TakesPart column) :=
  inferInstanceAs (Decidable (_ ∧ _))

theorem TakesPart.mono {row : Row} {column earlier : Nat} (part : row.TakesPart column) (le : earlier ≤ column) :
    row.TakesPart earlier :=
  ⟨part.1, by have := part.2; omega⟩

theorem columnWidth?_of_takesPart {row : Row} {column : Nat} (part : row.TakesPart column) :
    ∃ cell, row[column]? = some cell ∧ row.columnWidth? column = some (width cell) := by
  obtain ⟨single, long⟩ := part
  have here : column < row.length := by omega
  have next : column + 1 < row.length := long
  refine ⟨row[column], List.getElem?_eq_getElem here, ?_⟩
  rw [columnWidth?, List.drop_eq_getElem_cons here, List.drop_eq_getElem_cons next]
  exact if_pos single

theorem columnWidth?_of_not_takesPart {row : Row} {column : Nat} (apart : ¬row.TakesPart column) :
    row.columnWidth? column = none := by
  rw [columnWidth?]
  split
  · rename_i cell next cells same
    have long : column + 1 < row.length := by
      have lengths := congrArg List.length same
      simp only [List.length_drop, List.length_cons] at lengths
      omega
    exact if_neg fun single => apart ⟨single, long⟩
  · rfl

end Row

/-- Neighbouring rows with a cell after that of the column, as many as there are. -/
structure IsRun (rows : List Row) (column : Nat) (before run after : List Row) : Prop where
  rows_eq : rows = before ++ run ++ after
  filled : run ≠ []
  inside : ∀ row ∈ run, row.TakesPart column
  left : ∀ row ∈ before.getLast?, ¬row.TakesPart column
  right : ∀ row ∈ after.head?, ¬row.TakesPart column

structure IsWidest (run : List Row) (column widest : Nat) : Prop where
  bound : ∀ row ∈ run, ∀ cell ∈ row[column]?, width cell ≤ widest
  attained : ∃ row ∈ run, ∃ cell ∈ row[column]?, width cell = widest

theorem columnWidths_adjacent {rows : List Row} {index column : Nat} {row next : Row}
    (here : rows[index]? = some row) (follows : rows[index + 1]? = some next) (part : row.TakesPart column)
    (part' : next.TakesPart column) :
    (columnWidths rows column)[index]? = (columnWidths rows column)[index + 1]? := by
  obtain ⟨cell, -, own⟩ := Row.columnWidth?_of_takesPart part
  obtain ⟨cell', -, own'⟩ := Row.columnWidth?_of_takesPart part'
  exact runMaxima_adjacent 0 (by rw [List.getElem?_map, here, Option.map_some, own])
    (by rw [List.getElem?_map, follows, Option.map_some, own'])

theorem foldl_max_spec (values : List Nat) (filled : values ≠ []) :
    values.foldl max 0 ∈ values ∧ ∀ value ∈ values, value ≤ values.foldl max 0 := by
  cases values with
  | nil => exact absurd rfl filled
  | cons one values =>
    have found : (one :: values).max? = some ((one :: values).foldl max 0) := by
      rw [List.max?_cons', List.foldl_cons, Nat.zero_max]
    exact List.max?_eq_some_iff.mp found

theorem IsRun.columnWidths {rows : List Row} {column : Nat} {before run after : List Row}
    (isRun : IsRun rows column before run after) :
    ∃ widest, IsWidest run column widest ∧ ∀ index, before.length ≤ index → index < before.length + run.length →
      (columnWidths rows column)[index]? = some widest := by
  have entries : run.map (·.columnWidth? column) = (run.map fun row => width (row[column]?.getD "")).map some := by
    rw [List.map_map]
    refine List.map_congr_left fun row among => ?_
    obtain ⟨cell, here, own⟩ := Row.columnWidth?_of_takesPart (isRun.inside row among)
    rw [own, Function.comp_apply, here, Option.getD_some]
  have left : ∀ entry ∈ (before.map (·.columnWidth? column)).getLast?, entry = none := by
    intro entry last
    rw [List.getLast?_map] at last
    obtain ⟨row, among, rfl⟩ := Option.map_eq_some_iff.mp last
    exact Row.columnWidth?_of_not_takesPart (isRun.left row among)
  have right : ∀ entry ∈ (after.map (·.columnWidth? column)).head?, entry = none := by
    intro entry first
    rw [List.head?_map] at first
    obtain ⟨row, among, rfl⟩ := Option.map_eq_some_iff.mp first
    exact Row.columnWidth?_of_not_takesPart (isRun.right row among)
  obtain ⟨attained, bound⟩ := foldl_max_spec (run.map fun row => width (row[column]?.getD ""))
    (by simpa using isRun.filled)
  refine ⟨(run.map fun row => width (row[column]?.getD "")).foldl max 0, ⟨?_, ?_⟩, ?_⟩
  · intro row among cell here
    have own := bound _ (List.mem_map_of_mem among)
    rwa [Option.mem_def.mp here] at own
  · obtain ⟨row, among, same⟩ := List.mem_map.mp attained
    obtain ⟨cell, here, -⟩ := Row.columnWidth?_of_takesPart (isRun.inside row among)
    rw [here] at same
    exact ⟨row, among, cell, here, same⟩
  · intro index low high
    have widths : Layout.columnWidths rows column = runMaxima 0 (before.map (·.columnWidth? column)) ++
        (List.replicate run.length ((run.map fun row => width (row[column]?.getD "")).foldl max 0) ++
          runMaxima 0 (after.map (·.columnWidth? column))) := by
      rw [Layout.columnWidths, isRun.rows_eq, List.map_append, List.map_append, List.append_assoc,
        runMaxima_append left, entries, runMaxima_run 0 _ right, List.length_map]
    rw [widths, List.getElem?_append_right, List.getElem?_append_left, List.getElem?_replicate_of_lt]
    all_goals simp only [length_runMaxima, List.length_map, List.length_replicate]
    all_goals omega

/-- The character at which the column starts in the row with the index. -/
def columnStart (rows : List Row) (index : Nat) : Nat → Nat
  | 0 => 0
  | column + 1 => columnStart rows index column + (columnWidths rows column)[index]?.getD 0 + 1

/-- The cells in order with blanks between them. The first is that of the column, and each starts at the place of
its column. -/
inductive Row.Laid (place : Nat → Nat) : (column : Nat) → Row → String → Prop
  | nil {column : Nat} : Laid place column [] ""
  | last {column : Nat} {cell : String} : Laid place column [cell] cell
  | cons {column gap : Nat} {cell next rest : String} {cells : Row}
      (apart : place (column + 1) = place column + width cell + (gap + 1))
      (laid : Laid place (column + 1) (next :: cells) rest) :
      Laid place column (cell :: next :: cells) (cell ++ blanks (gap + 1) ++ rest)

theorem Row.laid_padded {place : Nat → Nat} {column : Nat} {row : Row} {widths : List Nat}
    (steps : ∀ k cell, row[k]? = some cell → k + 1 < row.length → ∃ widest, widths[k]? = some widest ∧
      width cell ≤ widest ∧ place (column + k + 1) = place (column + k) + widest + 1) :
    Row.Laid place column row (padded row widths) := by
  induction row generalizing column widths with
  | nil => exact .nil
  | cons cell cells ih =>
    cases cells with
    | nil => exact .last
    | cons next cells =>
      obtain ⟨widest, head, fits, apart⟩ := steps 0 cell rfl (by simp)
      obtain ⟨rest, rfl⟩ : ∃ rest, widths = widest :: rest := by
        cases widths with
        | nil => cases head
        | cons first rest => exact ⟨rest, by rw [Option.some.inj head]⟩
      refine .cons ?_ (ih fun k cell here long => ?_)
      · rw [List.head?_cons, Option.getD_some, Nat.max_eq_left fits]
        simp only [Nat.add_zero] at apart
        omega
      · have later := steps (k + 1) cell here (by simpa using long)
        simpa only [List.getElem?_cons_succ, Nat.add_assoc, Nat.add_comm 1 k, List.tail_cons] using later

theorem Row.Laid.stands {place : Nat → Nat} {column : Nat} {row : Row} {line : String}
    (laid : Row.Laid place column row line) {index : Nat} {cell : String} (here : row[index]? = some cell) :
    ∃ front back, line = front ++ cell ++ back ∧ place column + width front = place (column + index) := by
  induction laid generalizing index with
  | nil => cases here
  | last =>
    cases index with
    | zero => exact ⟨"", "", by simpa using here, rfl⟩
    | succ index => cases here
  | @cons column gap first next rest cells apart laid ih =>
    cases index with
    | zero =>
      obtain rfl : first = cell := by simpa using here
      exact ⟨"", blanks (gap + 1) ++ rest, by simp [String.append_assoc], rfl⟩
    | succ index =>
      obtain ⟨front, back, rfl, stands⟩ := ih here
      refine ⟨first ++ blanks (gap + 1) ++ front, back, by simp only [String.append_assoc], ?_⟩
      have wide : width (first ++ blanks (gap + 1) ++ front) = width first + (gap + 1) + width front := by
        simp [width, blanks]
      rw [wide, show column + (index + 1) = column + 1 + index by omega, ← stands, apart]
      omega

theorem columnStart_adjacent {rows : List Row} {index column : Nat} {row next : Row}
    (here : rows[index]? = some row) (follows : rows[index + 1]? = some next) (part : row.TakesPart column)
    (part' : next.TakesPart column) {earlier : Nat} (le : earlier ≤ column) :
    columnStart rows (index + 1) earlier = columnStart rows index earlier := by
  -- A row of the run takes part in every earlier column too, so no run has to be compared with another.
  induction earlier with
  | zero => rfl
  | succ earlier ih =>
    have below := Nat.le_of_succ_le le
    have same := columnWidths_adjacent here follows (part.mono below) (part'.mono below)
    rw [columnStart, columnStart, ih below, same]

theorem IsRun.getElem? {rows : List Row} {column : Nat} {before run after : List Row}
    (isRun : IsRun rows column before run after) {index : Nat} (low : before.length ≤ index)
    (high : index < before.length + run.length) : ∃ row, rows[index]? = some row ∧ row.TakesPart column := by
  have inside : index - before.length < run.length := by omega
  refine ⟨run[index - before.length], ?_, isRun.inside _ (List.getElem_mem inside)⟩
  rw [isRun.rows_eq, List.append_assoc, List.getElem?_append_right low, List.getElem?_append_left inside,
    List.getElem?_eq_getElem inside]

theorem IsRun.columnStart {rows : List Row} {column : Nat} {before run after : List Row}
    (isRun : IsRun rows column before run after) {index : Nat} (low : before.length ≤ index)
    (high : index < before.length + run.length) :
    columnStart rows index column = columnStart rows before.length column := by
  obtain ⟨offset, rfl⟩ := Nat.exists_eq_add_of_le low
  induction offset with
  | zero => rfl
  | succ offset ih =>
    obtain ⟨row, here, part⟩ := isRun.getElem? (Nat.le_add_right before.length offset) (by omega)
    obtain ⟨next, follows, part'⟩ := isRun.getElem? low high
    rw [← Nat.add_assoc, columnStart_adjacent here follows part part' (Nat.le_refl column)]
    exact ih (Nat.le_add_right before.length offset) (by omega)

def columnTable (rows : List Row) : List (List Nat) :=
  (List.range ((rows.map List.length).foldl max 0)).map (columnWidths rows)

theorem length_le_columns {rows : List Row} {row : Row} (among : row ∈ rows) :
    row.length ≤ (rows.map List.length).foldl max 0 :=
  (foldl_max_spec _ (List.ne_nil_of_mem (List.mem_map_of_mem among))).2 _ (List.mem_map_of_mem among)

theorem columnTable_getElem? {rows : List Row} {row : Row} (among : row ∈ rows) {column : Nat}
    (long : column < row.length) : (columnTable rows)[column]? = some (columnWidths rows column) := by
  have bound := length_le_columns among
  rw [columnTable, List.getElem?_map, List.getElem?_range (by omega), Option.map_some]

theorem getElem?_alignRows {rows : List Row} {index : Nat} {row : Row} (here : rows[index]? = some row) :
    (alignRows rows)[index]? = some (if row.isSingleLine then
      GoSpecs.Text.trimEnd (padded row ((columnTable rows).map fun widths => widths[index]?.getD 0))
      else " ".intercalate row) := by
  simp only [alignRows, List.getElem?_map, List.getElem?_zipIdx, here, Option.map_some, Nat.zero_add, columnTable]

/-- The table has an entry for each cell but the last of its row, and the cell fits. -/
theorem columnTable_fits {rows : List Row} {index column : Nat} {row : Row} {cell : String}
    (here : rows[index]? = some row) (part : row.TakesPart column) (own : row[column]? = some cell) :
    ∃ widest, (columnTable rows)[column]? = some (columnWidths rows column) ∧
      (columnWidths rows column)[index]? = some widest ∧ width cell ≤ widest := by
  obtain ⟨found, same, entry⟩ := Row.columnWidth?_of_takesPart part
  obtain rfl : found = cell := Option.some.inj (same.symm.trans own)
  have listed : (rows.map (·.columnWidth? column))[index]? = some (some (width found)) := by
    rw [List.getElem?_map, here, Option.map_some, entry]
  obtain ⟨widest, known, fits⟩ := le_runMaxima 0 listed
  have long : column < row.length := Nat.lt_of_succ_lt part.2
  exact ⟨widest, columnTable_getElem? (List.mem_of_getElem? here) long, known, fits⟩

theorem laid_of_getElem? {rows : List Row} {index : Nat} {row : Row} (here : rows[index]? = some row)
    (single : row.isSingleLine = true) :
    Row.Laid (columnStart rows index) 0 row
      (padded row ((columnTable rows).map fun widths => widths[index]?.getD 0)) := by
  refine Row.laid_padded fun column cell own long => ?_
  obtain ⟨widest, found, known, fits⟩ := columnTable_fits here ⟨single, long⟩ own
  refine ⟨widest, ?_, fits, ?_⟩
  · rw [List.getElem?_map, found, Option.map_some, known, Option.getD_some]
  · rw [Nat.zero_add, columnStart, known, Option.getD_some]

/-- Each row has its line. A row of several lines has blanks between its cells, any other row is set in columns: the
cells stand in order, at the same places in neighbouring rows, with one blank after the widest. -/
theorem alignRows_aligned (rows : List Row) :
    (alignRows rows).length = rows.length ∧
    (∀ (index : Nat) (row : Row), rows[index]? = some row → row.isSingleLine = false →
      (alignRows rows)[index]? = some (" ".intercalate row)) ∧
    (∀ (index : Nat) (row : Row), rows[index]? = some row → row.isSingleLine = true →
      ∃ line, (alignRows rows)[index]? = some (GoSpecs.Text.trimEnd line) ∧
        Row.Laid (columnStart rows index) 0 row line ∧
        ∀ (column : Nat) (cell : String), row[column]? = some cell →
          ∃ front back, line = front ++ cell ++ back ∧ width front = columnStart rows index column) ∧
    (∀ column before run after, IsRun rows column before run after → ∃ origin widest, IsWidest run column widest ∧
      ∀ index, before.length ≤ index → index < before.length + run.length →
        columnStart rows index column = origin ∧ columnStart rows index (column + 1) = origin + widest + 1) ∧
    (∀ (index column : Nat) (row : Row) (cell : String),
      rows[index]? = some row → row.TakesPart column → row[column]? = some cell →
      ∃ widths widest, (columnTable rows)[column]? = some widths ∧ widths[index]? = some widest ∧
        width cell ≤ widest) := by
  refine ⟨?_, ?_, ?_, ?_, ?_⟩
  · simp [alignRows]
  · intro index row here several
    rw [getElem?_alignRows here, several]
    rfl
  · intro index row here single
    have laid := laid_of_getElem? here single
    refine ⟨_, ?_, laid, fun column cell own => ?_⟩
    · rw [getElem?_alignRows here, if_pos single]
    · simpa [columnStart] using laid.stands own
  · intro column before run after isRun
    obtain ⟨widest, isWidest, known⟩ := isRun.columnWidths
    refine ⟨columnStart rows before.length column, widest, isWidest, fun index low high => ?_⟩
    have start := isRun.columnStart low high
    refine ⟨start, ?_⟩
    rw [Layout.columnStart, known index low high, start, Option.getD_some]
  · intro index column row cell here part own
    obtain ⟨widest, found, known, fits⟩ := columnTable_fits here part own
    exact ⟨_, widest, found, known, fits⟩

def unevenRows : List Row :=
  [["a", "bb", "c"], ["aaa", "b", "c"], ["a", "b"], ["a", "b\n", "c"], ["aa", "bbbb", "c"]]

theorem alignRows_aligned_unevenRows :
    IsRun unevenRows 1 [] [["a", "bb", "c"], ["aaa", "b", "c"]] (unevenRows.drop 2) ∧
      (∃ origin widest, IsWidest [["a", "bb", "c"], ["aaa", "b", "c"]] 1 widest ∧
        ∀ index, 0 ≤ index → index < 0 + 2 →
          columnStart unevenRows index 1 = origin ∧ columnStart unevenRows index 2 = origin + widest + 1) ∧
      (alignRows unevenRows)[3]? = some "a b\n c" := by
  have isRun : IsRun unevenRows 1 [] [["a", "bb", "c"], ["aaa", "b", "c"]] (unevenRows.drop 2) :=
    ⟨rfl, by decide, by decide, by decide, by decide⟩
  obtain ⟨-, several, -, runs, -⟩ := alignRows_aligned unevenRows
  exact ⟨isRun, runs 1 _ _ _ isRun, several 3 ["a", "b\n", "c"] rfl (by decide)⟩

end GoSpecs.Layout
