import GoSpecs.Proofs.Source.Lines
import GoSpecs.Source.Span
import Mathlib.Order.Interval.Finset.Nat

namespace GoSpecs

def Text.newlines (source : List Char) (first last : Nat) : Finset Nat :=
  (Finset.Ico first last).filter fun place => (bytes source)[place]? = some 10

namespace Text

variable (source : List Char)

theorem newlines_of_le {first last : Nat} (order : last ≤ first) : newlines source first last = ∅ := by
  rw [newlines, Finset.Ico_eq_empty_of_le order, Finset.filter_empty]

theorem card_newlines_append {first middle last : Nat} (before : first ≤ middle) (after : middle ≤ last) :
    (newlines source first last).card = (newlines source first middle).card + (newlines source middle last).card := by
  unfold newlines
  rw [← Finset.Ico_union_Ico_eq_Ico before after, Finset.filter_union, Finset.card_union_of_disjoint]
  exact Finset.disjoint_filter_filter (Finset.Ico_disjoint_Ico_consecutive first middle last)

theorem card_newlines_succ (place : Nat) :
    (newlines source place (place + 1)).card = ((bytes source)[place]?.toList).count 10 := by
  rw [newlines, Nat.Ico_succ_singleton, Finset.filter_singleton]
  cases (bytes source)[place]? with
  | none => rfl
  | some byte =>
    by_cases newline : byte = 10
    · simp [newline]
    · simp [newline]

theorem card_newlines_zero (last : Nat) :
    (newlines source 0 last).card = ((bytes source).take last).count 10 := by
  induction last with
  | zero => rfl
  | succ last ih =>
    rw [card_newlines_append source (Nat.zero_le last) (Nat.le_succ last), ih, card_newlines_succ, List.take_add_one,
      List.count_append]

end Text

namespace Lines

theorem line?_known (source : List Char) {offset : Nat} (known : offset ≠ Span.unknownOffset) :
    (ofSource source).line? (Span.known? offset) = some (Text.newlines source 0 offset).card := by
  rw [Span.known?, if_neg known, line?, Option.bind_some, lineOf_ofSource, Text.card_newlines_zero]

theorem between?_known (source : List Char) {first last : Nat} (knownFirst : first ≠ Span.unknownOffset)
    (knownLast : last ≠ Span.unknownOffset) :
    (ofSource source).between? (Span.known? first) (Span.known? last) =
      some (Text.newlines source first last).card := by
  rw [between?, line?_known source knownFirst, line?_known source knownLast]
  simp only [Option.bind_eq_bind, Option.bind_some, Option.pure_def, Option.some.injEq]
  rcases Nat.le_total first last with order | order
  · rw [Text.card_newlines_append source (Nat.zero_le first) order, Nat.add_sub_cancel_left]
  · rw [Text.card_newlines_append source (Nat.zero_le last) order, Text.newlines_of_le source order, Finset.card_empty]
    omega

theorem search_before_pos (source : List Char) {offset next : Nat}
    (ends : search (ofSource source).starts offset = .before next) : 0 < next := by
  obtain ⟨index, -, found | found⟩ := search_eq (sorted_ofSource source) (first_ofSource source offset)
  · rw [ends] at found
    cases found
  · rw [ends] at found
    cases found
    exact Nat.succ_pos index

/-- A known offset has a line: the number of newlines before it. The search that finds it ends behind the
first line, and the lines between two offsets are the newlines between them. -/
theorem lookup_counts_newlines (source : List Char) :
    (∀ offset, offset ≠ Span.unknownOffset →
      (ofSource source).line? (Span.known? offset) = some (Text.newlines source 0 offset).card) ∧
    (∀ offset next, search (ofSource source).starts offset = .before next → 0 < next) ∧
    (∀ first last, first ≠ Span.unknownOffset → last ≠ Span.unknownOffset →
      (ofSource source).between? (Span.known? first) (Span.known? last) =
          some (Text.newlines source first last).card ∧
        (last ≤ first → (ofSource source).between? (Span.known? first) (Span.known? last) = some 0)) := by
  refine ⟨fun _ known => line?_known source known, fun _ _ ends => search_before_pos source ends, ?_⟩
  intro first last knownFirst knownLast
  have counted := between?_known source knownFirst knownLast
  refine ⟨counted, fun order => ?_⟩
  rw [counted, Text.newlines_of_le source order, Finset.card_empty]

def fourLines : List Char :=
  "a\nbc\n\nd".toList

theorem lookup_fourLines :
    (ofSource fourLines).line? (Span.known? 4) = some 1 ∧ (ofSource fourLines).line? (Span.known? 9) = some 3 ∧
    search (ofSource fourLines).starts 4 = .before 2 ∧ 0 < 2 ∧
    (ofSource fourLines).between? (Span.known? 2) (Span.known? 6) = some 2 ∧
    (ofSource fourLines).between? (Span.known? 6) (Span.known? 2) = some 0 := by
  obtain ⟨line, behind, between⟩ := lookup_counts_newlines fourLines
  have ends : search (ofSource fourLines).starts 4 = .before 2 := by decide
  exact ⟨(line 4 (by decide)).trans (by decide), (line 9 (by decide)).trans (by decide), ends, behind 4 2 ends,
    (between 2 6 (by decide) (by decide)).1.trans (by decide), (between 6 2 (by decide) (by decide)).2 (by decide)⟩

end Lines

end GoSpecs
