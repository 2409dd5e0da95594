import GoSpecs.Workspace.Path
import Mathlib.Data.List.Basic

namespace GoSpecs

namespace Text

variable {α : Type} {isSeparator : α → Bool}

theorem splitList_ne_nil (items : List α) : splitList isSeparator items ≠ [] := by
  cases items with
  | nil => simp [splitList]
  | cons item items =>
    unfold splitList
    split
    · simp
    · split <;> simp

theorem splitList_append {item : α} (separates : isSeparator item = true) (front back : List α) :
    splitList isSeparator (front ++ item :: back) = splitList isSeparator front ++ splitList isSeparator back := by
  obtain ⟨part, parts, shape⟩ := List.exists_cons_of_ne_nil (@splitList_ne_nil α isSeparator back)
  induction front with
  | nil => simp [splitList, shape, separates]
  | cons d front ih =>
    obtain ⟨first, others, whole⟩ := List.exists_cons_of_ne_nil (@splitList_ne_nil α isSeparator front)
    rw [List.cons_append, splitList, ih, splitList, whole, List.cons_append]
    dsimp only
    split <;> rfl

theorem splitList_of_none {items : List α} (none : ∀ item ∈ items, isSeparator item = false) :
    splitList isSeparator items = [items] := by
  induction items with
  | nil => rfl
  | cons item items ih =>
    rw [splitList, ih fun other here => none other (List.mem_cons_of_mem _ here)]
    simp [none item List.mem_cons_self]

theorem of_mem_splitList {items part : List α} (here : part ∈ splitList isSeparator items) :
    ∀ item ∈ part, item ∈ items ∧ isSeparator item = false := by
  induction items generalizing part with
  | nil =>
    obtain rfl := List.mem_singleton.mp here
    simp
  | cons first items ih =>
    obtain ⟨head, parts, shape⟩ := List.exists_cons_of_ne_nil (@splitList_ne_nil α isSeparator items)
    have inner : ∀ part ∈ head :: parts, ∀ item ∈ part, item ∈ first :: items ∧ isSeparator item = false := by
      intro part among item inside
      obtain ⟨known, apart⟩ := ih (shape ▸ among) item inside
      exact ⟨List.mem_cons_of_mem first known, apart⟩
    rw [splitList, shape] at here
    dsimp only at here
    split at here
    · rcases List.mem_cons.mp here with rfl | among
      · simp
      · exact inner part among
    · rename_i plain
      rcases List.mem_cons.mp here with rfl | among
      · intro item inside
        rcases List.mem_cons.mp inside with rfl | inside
        · exact ⟨List.mem_cons_self, by simpa using plain⟩
        · exact inner head List.mem_cons_self item inside
      · exact inner part (List.mem_cons_of_mem head among)

end Text

namespace Path

def IsSegment (name : Bytes) : Prop :=
  slash ∉ name

structure IsName (name : Bytes) : Prop where
  segment : IsSegment name
  filled : name ≠ []
  ne_here : name ≠ [dot]
  ne_above : name ≠ [dot, dot]

theorem segments_append (front back : Bytes) : segments (front ++ slash :: back) = segments front ++ segments back :=
  Text.splitList_append rfl front back

theorem segments_of_isSegment {name : Bytes} (one : IsSegment name) : segments name = [name] := by
  refine Text.splitList_of_none fun byte here => ?_
  simp only [beq_eq_false_iff_ne, ne_eq]
  rintro rfl
  exact one here

theorem segments_ne_nil (path : Bytes) : segments path ≠ [] :=
  Text.splitList_ne_nil path

theorem isSegment_of_mem {path segment : Bytes} (here : segment ∈ segments path) : IsSegment segment := by
  intro inside
  simpa using (Text.of_mem_splitList here slash inside).2

theorem segments_intercalate {parts : List Bytes} (filled : parts ≠ []) (plain : ∀ part ∈ parts, IsSegment part) :
    segments ([slash].intercalate parts) = parts := by
  induction parts with
  | nil => exact (filled rfl).elim
  | cons part parts ih =>
    have one := segments_of_isSegment (plain part List.mem_cons_self)
    cases parts with
    | nil => simpa using one
    | cons next parts =>
      have inner := ih (by simp) fun part here => plain part (List.mem_cons_of_mem _ here)
      rw [List.intercalate_cons_cons, List.append_assoc, List.singleton_append, segments_append, one, inner]
      rfl

theorem segments_empty : segments [] = [[]] :=
  rfl

theorem segments_root (path : Bytes) : segments (slash :: path) = [] :: segments path :=
  segments_append [] path

theorem isAbsolute_iff {path : Bytes} : isAbsolute path = true ↔ ∃ rest, path = slash :: rest := by
  rw [isAbsolute, beq_iff_eq, List.head?_eq_some_iff]

theorem isAbsolute_eq {path : Bytes} (filled : path ≠ []) : isAbsolute path = ((segments path).head? == some []) := by
  cases path with
  | nil => exact (filled rfl).elim
  | cons byte bytes =>
    obtain ⟨part, parts, rest⟩ := List.exists_cons_of_ne_nil (@Text.splitList_ne_nil _ (· == slash) bytes)
    rw [isAbsolute, segments, Text.splitList, rest]
    cases first : byte == slash with
    | true => simp_all
    | false => simp_all

section

variable {dir name : Bytes}

theorem isAbsolute_of_isSegment (one : IsSegment name) : isAbsolute name = false := by
  cases shape : isAbsolute name with
  | false => rfl
  | true =>
    obtain ⟨rest, rfl⟩ := isAbsolute_iff.mp shape
    exact (one List.mem_cons_self).elim

/-- The segments of the directory and then the name; an empty segment at the end of the directory is left out. -/
theorem segments_join (filled : dir ≠ []) :
    ∃ front, front ≠ [] ∧ (segments dir = front ∨ segments dir = front ++ [[]]) ∧
      ∀ name, IsSegment name → segments (join dir name) = front ++ [name] := by
  by_cases ending : dir.getLast? = some slash
  · obtain ⟨bytes, rfl⟩ := List.getLast?_eq_some_iff.mp ending
    refine ⟨segments bytes, segments_ne_nil _, .inr (segments_append bytes []), fun name one => ?_⟩
    rw [join, if_neg (by simp [isAbsolute_of_isSegment one]), if_pos (by simp), List.append_assoc,
      List.singleton_append, segments_append, segments_of_isSegment one]
  · refine ⟨segments dir, segments_ne_nil _, .inl rfl, fun name one => ?_⟩
    rw [join, if_neg (by simp [isAbsolute_of_isSegment one]), if_neg (by simp [filled, ending]), segments_append,
      segments_of_isSegment one]

theorem join_eq (dir : Bytes) (one : IsSegment name) : ∃ rest, join dir name = dir ++ rest := by
  unfold join
  rw [if_neg (by simp [isAbsolute_of_isSegment one])]
  split
  · exact ⟨name, rfl⟩
  · exact ⟨slash :: name, rfl⟩

theorem join_ne_empty (filled : dir ≠ []) (one : IsSegment name) : join dir name ≠ [] := by
  obtain ⟨rest, same⟩ := join_eq dir one
  rw [same]
  simp [filled]

theorem isAbsolute_join (filled : dir ≠ []) (one : IsSegment name) : isAbsolute (join dir name) = isAbsolute dir := by
  obtain ⟨rest, same⟩ := join_eq dir one
  rw [same, isAbsolute, isAbsolute]
  cases dir with
  | nil => exact (filled rfl).elim
  | cons byte bytes => rfl

end

def IsIdle (segment : Bytes) : Prop :=
  segment = [] ∨ segment = [dot]

/-- The paths are the same up to idle segments at their ends. -/
structure Alike (first second : Bytes) : Prop where
  base : isAbsolute first = isAbsolute second
  segments : ∃ core idle idle', segments first = core ++ idle ∧ segments second = core ++ idle' ∧
    (∀ segment ∈ idle, IsIdle segment) ∧ ∀ segment ∈ idle', IsIdle segment

def Base.head : Base → List Bytes
  | .root => [[]]
  | .here => [[dot]]
  | .none => []

namespace Parts

theorem trim_eq (parts : Parts) : ∃ idle, parts.segments = parts.trim.segments ++ idle ∧
    (∀ segment ∈ idle, IsIdle segment) ∧ parts.trim.base = parts.base := by
  refine ⟨(parts.segments.reverse.takeWhile fun segment => segment == [] || segment == [dot]).reverse, ?_, ?_, rfl⟩
  · rw [trim, ← List.reverse_append, List.takeWhile_append_dropWhile, List.reverse_reverse]
  · intro segment here
    have all := List.all_takeWhile (p := fun segment : Bytes => segment == [] || segment == [dot])
      (l := parts.segments.reverse)
    simpa [IsIdle] using List.all_eq_true.mp all segment (List.mem_reverse.mp here)

theorem trim_of_last {base : Base} {front : List Bytes} {name : Bytes} (isName : IsName name) :
    (⟨base, front ++ [name]⟩ : Parts).trim = ⟨base, front ++ [name]⟩ := by
  simp [trim, isName.filled, isName.ne_here]

theorem segments_bytes {base : Base} {core : List Bytes} (plain : ∀ segment ∈ core, IsSegment segment)
    (first : base = .none → ∃ first ∈ core.head?, ¬IsIdle first) :
    (∃ idle, Path.segments (bytes ⟨base, core⟩) = base.head ++ core ++ idle ∧ ∀ segment ∈ idle, IsIdle segment) ∧
      bytes ⟨base, core⟩ ≠ [] ∧ isAbsolute (bytes ⟨base, core⟩) = decide (base = .root) := by
  cases core with
  | nil =>
    cases base with
    | root => exact ⟨⟨[[]], by decide, by simp [IsIdle]⟩, by decide, by decide⟩
    | here => exact ⟨⟨[], by decide, by simp⟩, by decide, by decide⟩
    | none => simpa using first rfl
  | cons one core =>
    have inner := segments_intercalate (List.cons_ne_nil one core) plain
    cases base with
    | root =>
      refine ⟨⟨[], ?_, by simp⟩, by simp [bytes], ?_⟩
      · rw [bytes, segments_root, inner]
        simp [Base.head]
      · simp [bytes, isAbsolute]
    | here =>
      have whole : bytes ⟨.here, one :: core⟩ = [dot] ++ slash :: [slash].intercalate (one :: core) := by
        simp [bytes]
      refine ⟨⟨[], ?_, by simp⟩, by simp [whole], by simp [whole, isAbsolute, slash, dot]⟩
      rw [whole, segments_append, inner, segments_of_isSegment (by simp [IsSegment, slash, dot])]
      simp [Base.head]
    | none =>
      have head : one ≠ [] := by
        have more := first rfl
        simp only [List.head?_cons, Option.mem_some, exists_eq_left', IsIdle, not_or] at more
        exact more.1
      have filled : bytes ⟨.none, one :: core⟩ ≠ [] := by
        intro none
        rw [bytes] at none
        dsimp only at none
        rw [none, segments_empty] at inner
        exact head (List.cons.inj inner).1.symm
      refine ⟨⟨[], ?_, by simp⟩, filled, ?_⟩
      · rw [bytes, inner]
        simp [Base.head]
      · rw [isAbsolute_eq filled, bytes, inner]
        simpa using head

end Parts

section

variable {dir name : Bytes}

theorem ofPath_join (filled : dir ≠ []) :
    ∃ base front, isAbsolute dir = decide (base = .root) ∧ (base = .none → ∃ first ∈ front.head?, ¬IsIdle first) ∧
      (segments dir = base.head ++ front ∨ segments dir = base.head ++ front ++ [[]]) ∧
      ∀ name, IsName name → Parts.ofPath (join dir name) = ⟨base, front ++ [name]⟩ := by
  obtain ⟨whole, some, dirs, same⟩ := segments_join filled
  obtain ⟨first, front, rfl⟩ := List.exists_cons_of_ne_nil some
  have base : isAbsolute dir = (first == []) := by
    rw [isAbsolute_eq filled]
    rcases dirs with dirs | dirs <;> rw [dirs] <;> rfl
  have shape (name : Bytes) (isName : IsName name) :
      isAbsolute (join dir name) = (first == []) ∧ segments (join dir name) = first :: (front ++ [name]) :=
    ⟨(isAbsolute_join filled isName.segment).trans base, same name isName.segment⟩
  rw [base]
  by_cases root : first = []
  · subst root
    refine ⟨.root, front, rfl, nofun, dirs, fun name isName => ?_⟩
    rw [Parts.ofPath, (shape name isName).1, (shape name isName).2]
    rfl
  · have relative : ¬(first == []) = true := by simpa using root
    by_cases here : first = [dot]
    · subst here
      refine ⟨.here, front, rfl, nofun, dirs, fun name isName => ?_⟩
      rw [Parts.ofPath, (shape name isName).1, (shape name isName).2, if_neg relative]
      rfl
    · refine ⟨.none, first :: front, by simp [root], fun _ => ⟨first, rfl, by simp [IsIdle, root, here]⟩, dirs, ?_⟩
      intro name isName
      rw [Parts.ofPath, (shape name isName).1, (shape name isName).2, if_neg relative]
      split
      · rename_i other
        exact (here (List.cons.inj other).1).elim
      · rfl

theorem fileName?_join (filled : dir ≠ []) (isName : IsName name) : fileName? (join dir name) = some name := by
  obtain ⟨base, front, -, -, -, parts⟩ := ofPath_join filled
  rw [fileName?, parts name isName, Parts.trim_of_last isName, List.getLast?_concat]
  split
  · rename_i above
    exact (isName.ne_above (Option.some.inj above)).elim
  · rfl

theorem parent_join (filled : dir ≠ []) :
    ∃ above, above ≠ [] ∧ Alike above dir ∧ ∀ name, IsName name → parent (join dir name) = above := by
  obtain ⟨base, front, absolute, first, dirs, parts⟩ := ofPath_join filled
  obtain ⟨idle, cut, idles, -⟩ := Parts.trim_eq ⟨base, front⟩
  have shown (name : Bytes) (isName : IsName name) :
      parent (join dir name) = (Parts.mk base (Parts.mk base front).trim.segments).bytes := by
    simp only [parent, parts name isName, Parts.trim_of_last isName, List.dropLast_concat]
    rfl
  generalize (Parts.mk base front).trim.segments = core at cut shown
  obtain rfl : front = core ++ idle := cut
  have plain : ∀ segment ∈ core, IsSegment segment := by
    intro segment here
    apply @isSegment_of_mem dir
    rcases dirs with dirs | dirs <;> simp [dirs, here]
  have start : base = .none → ∃ first ∈ core.head?, ¬IsIdle first := by
    intro none
    obtain ⟨one, here, busy⟩ := first none
    rw [List.head?_append] at here
    cases core with
    | nil => exact (busy (idles one (List.mem_of_mem_head? here))).elim
    | cons other core => exact ⟨one, by simpa using here, busy⟩
  obtain ⟨⟨idle', text, idles'⟩, more, absolute'⟩ := Parts.segments_bytes plain start
  refine ⟨_, more, ⟨absolute'.trans absolute.symm, ?_⟩, shown⟩
  obtain dirs | dirs := dirs
  · exact ⟨_, idle', idle, text, by simp [dirs], idles', idles⟩
  · refine ⟨_, idle', idle ++ [[]], text, by simp [dirs], idles', ?_⟩
    simpa [IsIdle, or_imp, forall_and] using idles

end

end Path

end GoSpecs
