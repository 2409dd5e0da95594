import GoSpecs.Spec.Imports
import Mathlib.Data.List.Dedup

namespace GoSpecs

namespace ImportSpec

/-- An import of the provider for side effects only gets a name. -/
def named (conventions : Conventions) (spec : ImportSpec) : ImportSpec :=
  if spec.path = conventions.contextPath ∧ spec.alias? = some "_" then
    { spec with alias? := some conventions.contextAlias }
  else
    spec

def qualifier? (conventions : Conventions) (spec : ImportSpec) : Option String :=
  if spec.alias? = some "." then none
  else if spec.alias? = some "_" then some conventions.contextAlias
  else some spec.localName

variable (conventions : Conventions) (spec : ImportSpec)

@[simp] theorem path_named : (spec.named conventions).path = spec.path := by
  unfold named
  split <;> rfl

theorem named_of_other (other : spec.path ≠ conventions.contextPath) : spec.named conventions = spec :=
  if_neg fun both => other both.1

theorem named_named : (spec.named conventions).named conventions = spec.named conventions := by
  by_cases blank : spec.path = conventions.contextPath ∧ spec.alias? = some "_"
  · simp [named, blank]
  · have same : spec.named conventions = spec := if_neg blank
    rw [same, same]

theorem qualifier?_named (apart : conventions.contextAlias ≠ ".") (context : spec.path = conventions.contextPath) :
    (spec.named conventions).qualifier? conventions = spec.qualifier? conventions := by
  by_cases blank : spec.alias? = some "_"
  · simp [named, qualifier?, blank, context, apart, localName]
  · simp [named, blank]

theorem alias?_ne_blank (apart : conventions.contextAlias ≠ "_") (context : spec.path = conventions.contextPath)
    (already : spec.named conventions = spec) : spec.alias? ≠ some "_" := by
  intro blank
  have same := congrArg ImportSpec.alias? already
  simp [named, context, blank, apart] at same

end ImportSpec

namespace ImportGroup

theorem pathLe_trans (a b c : ImportSpec) (first : decide (a.path ≤ b.path) = true)
    (second : decide (b.path ≤ c.path) = true) : decide (a.path ≤ c.path) = true :=
  decide_eq_true (String.le_trans (of_decide_eq_true first) (of_decide_eq_true second))

theorem pathLe_total (a b : ImportSpec) : (decide (a.path ≤ b.path) || decide (b.path ≤ a.path)) = true := by
  rcases String.le_total a.path b.path with le | le
  · simp [le]
  · simp [le]

theorem pairwise_sortByPath (specs : List ImportSpec) : (sortByPath specs).Pairwise (·.path ≤ ·.path) :=
  (List.pairwise_mergeSort pathLe_trans pathLe_total specs).imp fun le => of_decide_eq_true le

theorem sortByPath_of_pairwise {specs : List ImportSpec} (sorted : specs.Pairwise (·.path ≤ ·.path)) :
    sortByPath specs = specs :=
  List.mergeSort_of_pairwise (sorted.imp fun le => decide_eq_true le)

theorem filter_sortByPath {specs : List ImportSpec} {test : ImportSpec → Bool}
    (sorted : (specs.filter test).Pairwise (·.path ≤ ·.path)) :
    (sortByPath specs).filter test = specs.filter test := by
  have within : (specs.filter test).Sublist (sortByPath specs) :=
    List.sublist_mergeSort pathLe_trans pathLe_total (sorted.imp fun le => decide_eq_true le)
      List.filter_sublist
  have filtered := within.filter test
  simp only [List.filter_filter, Bool.and_self] at filtered
  exact (filtered.eq_of_length ((List.mergeSort_perm specs _).filter test).length_eq.symm).symm

theorem filter_path_sortByPath (path : String) (specs : List ImportSpec) :
    (sortByPath specs).filter (·.path == path) = specs.filter (·.path == path) := by
  apply filter_sortByPath
  have here : ∀ spec ∈ specs.filter (·.path == path), spec.path = path := by
    intro spec member
    simpa using (List.mem_filter.mp member).2
  rw [List.pairwise_iff_forall_sublist]
  intro a b both
  have same : a.path = b.path :=
    (here a (both.subset (by simp))).trans (here b (both.subset (by simp))).symm
  exact same ▸ String.le_refl a.path

def nameContext (conventions : Conventions) (specs : List ImportSpec) : List ImportSpec :=
  specs.modify (specs.findIdx (·.path == conventions.contextPath)) (·.named conventions)

/-- The paths that specs need and that no entry has. -/
def missing (conventions : Conventions) (specs : List ImportSpec) : List String :=
  [conventions.bddPath, conventions.contextPath].dedup.filter fun path => !specs.any (·.path == path)

def newEntry (conventions : Conventions) (path : String) : ImportSpec :=
  if path = conventions.bddPath then ImportSpec.named conventions ⟨some conventions.bddAlias, path, none⟩
  else ⟨some conventions.contextAlias, path, none⟩

def completed (conventions : Conventions) (specs : List ImportSpec) : List ImportSpec :=
  nameContext conventions specs ++ (missing conventions specs).map (newEntry conventions)

variable {conventions : Conventions} {specs : List ImportSpec}

theorem nameContext_cons_of_path {spec : ImportSpec} (context : spec.path = conventions.contextPath) :
    nameContext conventions (spec :: specs) = spec.named conventions :: specs := by
  simp [nameContext, List.findIdx_cons, context]

theorem nameContext_cons_of_other {spec : ImportSpec} (other : spec.path ≠ conventions.contextPath) :
    nameContext conventions (spec :: specs) = spec :: nameContext conventions specs := by
  have apart : (spec.path == conventions.contextPath) = false := by simpa using other
  simp [nameContext, List.findIdx_cons, apart]

theorem map_path_nameContext : (nameContext conventions specs).map (·.path) = specs.map (·.path) := by
  induction specs with
  | nil => rfl
  | cons spec specs ih =>
    by_cases context : spec.path = conventions.contextPath
    · rw [nameContext_cons_of_path context]
      simp
    · rw [nameContext_cons_of_other context, List.map_cons, List.map_cons, ih]

theorem nameContext_of_absent (absent : specs.find? (·.path == conventions.contextPath) = none) :
    nameContext conventions specs = specs := by
  have none := List.find?_eq_none.mp absent
  have last : specs.findIdx (·.path == conventions.contextPath) = specs.length :=
    List.findIdx_eq_length_of_false fun spec member => by simpa using none spec member
  rw [nameContext, last]
  exact List.modify_eq_self (Nat.le_refl _)

theorem nameContext_append (more : List ImportSpec) :
    nameContext conventions (specs ++ more) =
      if specs.any (·.path == conventions.contextPath) then nameContext conventions specs ++ more
      else specs ++ nameContext conventions more := by
  induction specs with
  | nil => rfl
  | cons spec specs ih =>
    by_cases context : spec.path = conventions.contextPath
    · simp [nameContext_cons_of_path context, context]
    · have apart : (spec.path == conventions.contextPath) = false := by simpa using context
      rw [List.cons_append, nameContext_cons_of_other context, nameContext_cons_of_other context, ih]
      simp only [List.any_cons, apart, Bool.false_or]
      split <;> rfl

theorem find?_nameContext {spec : ImportSpec} (found : specs.find? (·.path == conventions.contextPath) = some spec) :
    (nameContext conventions specs).find? (·.path == conventions.contextPath) = some (spec.named conventions) := by
  induction specs with
  | nil => cases found
  | cons first specs ih =>
    by_cases context : first.path = conventions.contextPath
    · rw [List.find?_cons_of_pos (by simpa using context)] at found
      cases found
      rw [nameContext_cons_of_path context, List.find?_cons_of_pos (by simpa using context)]
    · rw [List.find?_cons_of_neg (by simpa using context)] at found
      rw [nameContext_cons_of_other context, List.find?_cons_of_neg (by simpa using context), ih found]

theorem nameContext_of_named {spec : ImportSpec} (found : specs.find? (·.path == conventions.contextPath) = some spec)
    (already : spec.named conventions = spec) : nameContext conventions specs = specs := by
  induction specs with
  | nil => cases found
  | cons first specs ih =>
    by_cases context : first.path = conventions.contextPath
    · rw [List.find?_cons_of_pos (by simpa using context)] at found
      cases found
      rw [nameContext_cons_of_path context, already]
    · rw [List.find?_cons_of_neg (by simpa using context)] at found
      rw [nameContext_cons_of_other context, ih found]

theorem withContext_of_found {spec : ImportSpec}
    (found : specs.find? (·.path == conventions.contextPath) = some spec) :
    withContext conventions specs = (nameContext conventions specs, ⟨spec.qualifier? conventions, false⟩) := by
  induction specs with
  | nil => cases found
  | cons first specs ih =>
    unfold withContext
    by_cases context : first.path = conventions.contextPath
    · rw [List.find?_cons_of_pos (by simpa using context)] at found
      cases found
      rw [if_pos (by simpa using context), nameContext_cons_of_path context]
      by_cases dot : spec.alias? = some "."
      · simp [ImportSpec.named, ImportSpec.qualifier?, dot]
      · by_cases blank : spec.alias? = some "_"
        · simp [ImportSpec.named, ImportSpec.qualifier?, blank, context]
        · simp [ImportSpec.named, ImportSpec.qualifier?, dot, blank]
    · rw [List.find?_cons_of_neg (by simpa using context)] at found
      rw [if_neg (by simpa using context), ih found, nameContext_cons_of_other context]

theorem withContext_of_absent (absent : specs.find? (·.path == conventions.contextPath) = none) :
    withContext conventions specs = (specs ++ [⟨some conventions.contextAlias, conventions.contextPath, none⟩],
      ⟨some conventions.contextAlias, true⟩) := by
  induction specs with
  | nil => rfl
  | cons first specs ih =>
    rw [List.find?_cons] at absent
    cases atPath : first.path == conventions.contextPath with
    | true =>
      rw [atPath] at absent
      cases absent
    | false =>
      rw [atPath] at absent
      simp [withContext, atPath, ih absent]

theorem withContext_added {provider : ContextProvider} (h : (withContext conventions specs).2 = provider)
    (added : provider.added = true) : provider.qualifier? = some conventions.contextAlias := by
  subst h
  cases found : specs.find? (·.path == conventions.contextPath) with
  | some spec =>
    rw [withContext_of_found found] at added
    cases added
  | none => rw [withContext_of_absent found]

theorem path_newEntry (conventions : Conventions) (path : String) : (newEntry conventions path).path = path := by
  unfold newEntry
  split
  · exact ImportSpec.path_named ..
  · rfl

theorem map_path_completed :
    (completed conventions specs).map (·.path) = specs.map (·.path) ++ missing conventions specs := by
  simp [completed, map_path_nameContext, Function.comp_def, path_newEntry]

theorem withContext_fst (conventions : Conventions) (specs : List ImportSpec) :
    (withContext conventions specs).1 = nameContext conventions specs ++
      if specs.any (·.path == conventions.contextPath) then []
      else [⟨some conventions.contextAlias, conventions.contextPath, none⟩] := by
  by_cases context : specs.any (·.path == conventions.contextPath) = true
  · obtain ⟨spec, found⟩ := Option.isSome_iff_exists.mp ((List.isSome_find? ..).trans context)
    rw [withContext_of_found found, if_pos context, List.append_nil]
  · have absent : specs.find? (·.path == conventions.contextPath) = none := by simpa using context
    rw [withContext_of_absent absent, nameContext_of_absent absent, if_neg context]

theorem withContext_withBdd (conventions : Conventions) (specs : List ImportSpec) :
    (withContext conventions (withBdd conventions specs)).1 = completed conventions specs := by
  rw [withContext_fst]
  by_cases same : conventions.bddPath = conventions.contextPath
  · cases context : specs.any (·.path == conventions.contextPath) with
    | true => simp [withBdd, completed, missing, same, context]
    | false =>
      have absent : specs.find? (·.path == conventions.contextPath) = none := by simpa using context
      simp [withBdd, completed, missing, same, context, nameContext_append, nameContext_of_absent absent,
        nameContext_cons_of_path, newEntry]
  · have bddEntry : newEntry conventions conventions.bddPath =
        ⟨some conventions.bddAlias, conventions.bddPath, none⟩ := by
      rw [newEntry, if_pos rfl]
      exact ImportSpec.named_of_other _ _ same
    have contextEntry : newEntry conventions conventions.contextPath =
        ⟨some conventions.contextAlias, conventions.contextPath, none⟩ := if_neg (Ne.symm same)
    have other : nameContext conventions [⟨some conventions.bddAlias, conventions.bddPath, none⟩] =
        [⟨some conventions.bddAlias, conventions.bddPath, none⟩] := nameContext_cons_of_other same
    cases context : specs.any (·.path == conventions.contextPath) with
    | true =>
      cases bdd : specs.any (·.path == conventions.bddPath) <;>
        simp [withBdd, completed, missing, same, bdd, context, nameContext_append, bddEntry]
    | false =>
      have absent : specs.find? (·.path == conventions.contextPath) = none := by simpa using context
      cases bdd : specs.any (·.path == conventions.bddPath) <;>
        simp [withBdd, completed, missing, same, bdd, context, nameContext_append, nameContext_of_absent absent,
          bddEntry, contextEntry, other]

/-- The group before and after it was given the imports of specs. -/
structure Completes (conventions : Conventions) (before after : ImportGroup) : Prop where
  entries : after.specs.Perm (completed conventions before.specs)
  sorted : after.specs.Pairwise (·.path ≤ ·.path)
  stable : ∀ path, after.specs.filter (·.path == path) =
    (completed conventions before.specs).filter (·.path == path)
  parenthesized : after.parenthesized = (before.parenthesized || 1 < after.specs.length)

theorem specs_ensure (conventions : Conventions) (group : ImportGroup) :
    (group.ensure conventions).1.specs = sortByPath (completed conventions group.specs) := by
  rw [← withContext_withBdd]
  rfl

theorem completes_ensure (conventions : Conventions) (group : ImportGroup) :
    group.Completes conventions (group.ensure conventions).1 := by
  have same := specs_ensure conventions group
  constructor
  · rw [same]
    exact List.mergeSort_perm ..
  · rw [same]
    exact pairwise_sortByPath _
  · intro path
    rw [same]
    exact filter_path_sortByPath ..
  · have length : (group.ensure conventions).1.specs.length =
        (withContext conventions (withBdd conventions group.specs)).1.length := List.length_mergeSort _
    rw [length]
    rfl

theorem filter_path_withContext {path : String} (other : path ≠ conventions.contextPath) :
    (withContext conventions specs).1.filter (·.path == path) = specs.filter (·.path == path) := by
  have elsewhere : ∀ spec : ImportSpec, spec.path = conventions.contextPath → (spec.path == path) = false := by
    intro spec same
    simpa [same] using other.symm
  induction specs with
  | nil => simp [withContext, other.symm]
  | cons first specs ih =>
    unfold withContext
    split
    · rename_i atPath
      have gone := elsewhere first (eq_of_beq atPath)
      split
      · rfl
      · split
        · simp [gone]
        · rfl
    · simp [List.filter_cons, ih]

theorem filter_path_withBdd {path : String} (other : path ≠ conventions.bddPath) :
    (withBdd conventions specs).filter (·.path == path) = specs.filter (·.path == path) := by
  unfold withBdd
  split
  · rfl
  · simp [List.filter_append, other.symm]

theorem filter_path_ensure {path : String} (notBdd : path ≠ conventions.bddPath)
    (notContext : path ≠ conventions.contextPath) (group : ImportGroup) :
    (group.ensure conventions).1.specs.filter (·.path == path) = group.specs.filter (·.path == path) := by
  simp only [ensure, filter_path_sortByPath, filter_path_withContext notContext, filter_path_withBdd notBdd]

theorem find?_withContext (conventions : Conventions) (specs : List ImportSpec) :
    ∃ spec, (withContext conventions specs).1.find? (·.path == conventions.contextPath) = some spec ∧
      spec.named conventions = spec ∧ (conventions.contextAlias ≠ "." →
        (withContext conventions specs).2.qualifier? = spec.qualifier? conventions) := by
  cases found : specs.find? (·.path == conventions.contextPath) with
  | some spec =>
    have context : spec.path = conventions.contextPath := by simpa using List.find?_some found
    rw [withContext_of_found found]
    exact ⟨spec.named conventions, find?_nameContext found, spec.named_named conventions,
      fun apart => (spec.qualifier?_named conventions apart context).symm⟩
  | none =>
    rw [withContext_of_absent found]
    refine ⟨⟨some conventions.contextAlias, conventions.contextPath, none⟩, ?_, ?_, ?_⟩
    · rw [List.find?_append, found]
      simp
    · by_cases blank : conventions.contextAlias = "_" <;> simp [ImportSpec.named, blank]
    · intro apart
      by_cases blank : conventions.contextAlias = "_"
      · simp [ImportSpec.qualifier?, blank]
      · simp [ImportSpec.qualifier?, ImportSpec.localName, blank, apart]

theorem provider_ensure (conventions : Conventions) (group : ImportGroup) :
    ∃ spec, (group.ensure conventions).1.find? conventions.contextPath = some spec ∧
      spec.named conventions = spec ∧ (conventions.contextAlias ≠ "." →
        (group.ensure conventions).2.qualifier? = spec.qualifier? conventions) := by
  obtain ⟨spec, found, isNamed, provided⟩ := find?_withContext conventions (withBdd conventions group.specs)
  have first : (group.ensure conventions).1.find? conventions.contextPath = some spec := by
    rw [← found, withContext_withBdd, find?, ← List.head?_filter, ← List.head?_filter,
      (completes_ensure conventions group).stable]
  exact ⟨spec, first, isNamed, provided⟩

theorem bddPath_mem_ensure (conventions : Conventions) (group : ImportGroup) :
    ∃ spec ∈ (group.ensure conventions).1.specs, spec.path = conventions.bddPath := by
  have needed : conventions.bddPath ∈ (completed conventions group.specs).map (·.path) := by
    rw [map_path_completed, List.mem_append]
    by_cases present : group.specs.any (·.path == conventions.bddPath) = true
    · left
      simpa using present
    · right
      exact List.mem_filter.mpr ⟨by simp, by simpa using present⟩
  obtain ⟨spec, member, same⟩ := List.mem_map.mp needed
  exact ⟨spec, (completes_ensure conventions group).entries.mem_iff.mpr member, same⟩

/-- A second time nothing is missing, and the order stays. -/
theorem ensure_ensure (apart : conventions.contextAlias ≠ ".") (group : ImportGroup) :
    (group.ensure conventions).1.ensure conventions =
      ((group.ensure conventions).1, ⟨(group.ensure conventions).2.qualifier?, false⟩) := by
  have completes := completes_ensure conventions group
  obtain ⟨spec, first, isNamed, provided⟩ := provider_ensure conventions group
  have second : withContext conventions (withBdd conventions (group.ensure conventions).1.specs) =
      ((group.ensure conventions).1.specs, ⟨(group.ensure conventions).2.qualifier?, false⟩) := by
    have present : (group.ensure conventions).1.specs.any (·.path == conventions.bddPath) = true := by
      simpa using bddPath_mem_ensure conventions group
    rw [withBdd, if_pos present, withContext_of_found first, nameContext_of_named first isNamed, ← provided apart]
  have stays : ((group.ensure conventions).1.parenthesized || 1 < (group.ensure conventions).1.specs.length) =
      (group.ensure conventions).1.parenthesized := by
    rw [completes.parenthesized, Bool.or_assoc, Bool.or_self]
  rw [ensure, second]
  simp only [sortByPath_of_pairwise completes.sorted, stays]

structure IsComplete (conventions : Conventions) (group : ImportGroup) : Prop where
  parenthesized : group.parenthesized = true
  sorted : group.specs.Pairwise (·.path ≤ ·.path)
  bdd : ∃ spec ∈ group.specs, spec.path = conventions.bddPath
  named : ∀ spec, group.find? conventions.contextPath = some spec → spec.alias? ≠ some "_"

theorem find?_ensure (conventions : Conventions) (group : ImportGroup) (named : conventions.contextAlias ≠ "_") :
    ∃ spec, (group.ensure conventions).1.find? conventions.contextPath = some spec ∧ spec.alias? ≠ some "_" := by
  obtain ⟨spec, found, isNamed, _⟩ := provider_ensure conventions group
  have context : spec.path = conventions.contextPath := by simpa using List.find?_some found
  exact ⟨spec, found, spec.alias?_ne_blank conventions named context isNamed⟩

theorem isComplete_ensure (conventions : Conventions) (group : ImportGroup) (named : conventions.contextAlias ≠ "_")
    (apart : conventions.bddPath ≠ conventions.contextPath) :
    (group.ensure conventions).1.IsComplete conventions := by
  obtain ⟨context, found, isNamed⟩ := find?_ensure conventions group named
  obtain ⟨bdd, member, isBdd⟩ := bddPath_mem_ensure conventions group
  refine ⟨?_, pairwise_sortByPath _, ⟨bdd, member, isBdd⟩, ?_⟩
  · -- Two entries need parentheses.
    have several : 1 < (group.ensure conventions).1.specs.length := by
      have present := List.mem_of_find?_eq_some found
      have isContext := List.find?_some found
      match entries : (group.ensure conventions).1.specs with
      | [] => simp [entries] at member
      | [only] =>
        rw [entries, List.mem_singleton] at member present
        exact (apart (by rw [← isBdd, ← eq_of_beq isContext, member, present])).elim
      | _ :: _ :: _ => simp
    have length : (group.ensure conventions).1.specs.length =
        (withContext conventions (withBdd conventions group.specs)).1.length :=
      List.length_mergeSort _
    simp only [ensure, Bool.or_eq_true, decide_eq_true_eq]
    exact .inr (length ▸ several)
  · intro spec same
    rw [found] at same
    cases same
    exact isNamed

theorem find?_remove (group : ImportGroup) (path other : String) :
    (group.remove path).find? other = if other = path then none else group.find? other := by
  simp only [find?, remove, List.find?_filter]
  split
  · rename_i same
    simp [same]
  · rename_i apart
    congr 1
    funext spec
    by_cases here : spec.path = other
    · simp [here, apart]
    · simp [here]

theorem IsComplete.remove {group : ImportGroup} (complete : group.IsComplete conventions) {path : String}
    (other : path ≠ conventions.bddPath) : (group.remove path).IsComplete conventions := by
  refine ⟨complete.parenthesized, complete.sorted.filter _, ?_, ?_⟩
  · obtain ⟨spec, member, isBdd⟩ := complete.bdd
    exact ⟨spec, List.mem_filter.mpr ⟨member, by simpa [isBdd] using other.symm⟩, isBdd⟩
  · intro spec found
    rw [find?_remove] at found
    split at found
    · cases found
    · exact complete.named spec found

theorem IsComplete.withBdd {group : ImportGroup} (complete : group.IsComplete conventions) :
    ImportGroup.withBdd conventions group.specs = group.specs := by
  have present : group.specs.any (·.path == conventions.bddPath) = true := by
    simpa using complete.bdd
  rw [ImportGroup.withBdd, if_pos present]

theorem IsComplete.ensure_of_present {group : ImportGroup} (complete : group.IsComplete conventions)
    (present : group.contains conventions.contextPath = true) :
    ∃ qualifier?, group.ensure conventions = (group, ⟨qualifier?, false⟩) := by
  obtain ⟨spec, found⟩ := Option.isSome_iff_exists.mp present
  have isNamed : spec.named conventions = spec := if_neg fun blank => complete.named spec found blank.2
  refine ⟨spec.qualifier? conventions, ?_⟩
  simp only [ensure, complete.withBdd, withContext_of_found found, nameContext_of_named found isNamed,
    sortByPath_of_pairwise complete.sorted, complete.parenthesized,
    Bool.true_or]
  rw [← complete.parenthesized]

/-- What is added to a complete group can be removed again. -/
theorem IsComplete.ensure_of_absent {group : ImportGroup} (complete : group.IsComplete conventions)
    (absent : group.contains conventions.contextPath = false) :
    ∃ larger, group.ensure conventions = (larger, ⟨some conventions.contextAlias, true⟩) ∧
      larger.remove conventions.contextPath = group := by
  have missing : group.find? conventions.contextPath = none := by simpa [contains] using absent
  let context : ImportSpec := ⟨some conventions.contextAlias, conventions.contextPath, none⟩
  have others : (group.specs ++ [context]).filter (·.path != conventions.contextPath) = group.specs := by
    have all := List.find?_eq_none.mp missing
    simpa [context, List.filter_append] using all
  have kept := filter_sortByPath (others.symm ▸ complete.sorted)
  refine ⟨⟨sortByPath (group.specs ++ [context]), true⟩, ?_, ?_⟩
  · simp only [ensure, complete.withBdd, withContext_of_absent missing, complete.parenthesized, Bool.true_or,
      context]
  · simp only [ImportGroup.remove, kept, others]
    rw [← complete.parenthesized]

end ImportGroup

end GoSpecs
