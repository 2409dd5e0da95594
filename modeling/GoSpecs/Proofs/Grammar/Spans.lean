import GoSpecs.Proofs.Grammar.Places.Sources

namespace GoSpecs

open Text

namespace SourceFile

variable {source : List Char} {lexemes : List Lexeme}

theorem ofLexemes_self (read : tokenize source = .ok lexemes) :
    (∃ error, ofLexemes source lexemes = .error error ∧
      ∃ start stop, error.span = .range start stop ∧ start ≤ stop ∧ stop ≤ byteSize source) ∨
    ∃ file, ofLexemes source lexemes = .ok file ∧ Nested lexemes 0 (byteSize source) file.outline.extents := by
  have level : List.Forall₂ (Lexeme.Level (.ofSource source) (.ofSource source)) lexemes lexemes :=
    List.forall₂_same.mpr fun _ _ => ⟨.inl rfl, rfl⟩
  obtain ⟨pairing, isOf⟩ := Pairing.exists_isOf read read level
  rcases ofLexemes_cases isOf with ⟨error, _, failed, -, bounds⟩ | ⟨file, _, stop, parsed, -, found, le⟩
  · exact .inl ⟨error, failed, bounds⟩
  · have nested := found.nested.mono (Nat.le_refl _) le
    rw [isOf.first] at nested
    exact .inr ⟨file, parsed, nested⟩

theorem nested_ofLexemes {file : SourceFile} (read : tokenize source = .ok lexemes)
    (parsed : ofLexemes source lexemes = .ok file) : Nested lexemes 0 (byteSize source) file.outline.extents := by
  rcases ofLexemes_self read with ⟨error, failed, -⟩ | ⟨other, same, nested⟩
  · rw [failed] at parsed
    cases parsed
  · rw [same] at parsed
    cases parsed
    exact nested

/-- Every span of the tree starts where a token starts and ends where a token ends, it contains the spans inside it, and
those side by side are apart and in order. A source without a tree has its error inside it. -/
theorem spans_in_order (read : tokenize source = .ok lexemes) :
    (∀ file, ofLexemes source lexemes = .ok file →
      (∀ node ∈ file.outline.nodes, ∀ span ∈ node.label.spans, ∃ start stop, span = .range start stop ∧
        Aligned lexemes start stop ∧ stop ≤ byteSize source) ∧
      Nested lexemes 0 (byteSize source) file.outline.extents) ∧
    ∀ error, ofLexemes source lexemes = .error error →
      ∃ start stop, error.span = .range start stop ∧ start ≤ stop ∧ stop ≤ byteSize source := by
  refine ⟨fun file parsed => ?_, fun error failed => ?_⟩
  · have nested := nested_ofLexemes read parsed
    exact ⟨file.outline.range_of_nested nested, nested⟩
  · rcases ofLexemes_self read with ⟨other, same, bounds⟩ | ⟨file, parsed, -⟩
    · rw [same] at failed
      cases failed
      exact bounds
    · rw [parsed] at failed
      cases failed

def labelled : String :=
  "package p;func(r R)f()\x7bswitch a[0]\x7bcase -b:g(c...)\x7d;L:\x7d"

def labelledSample : Sample labelled (fun _ file => (file.outline.nodes.flatMap (·.label.spans)).length) 19 :=
  .ofChecked (by decide +kernel)

def unfinished : String :=
  "package p;var x=1+"

theorem spans_in_order_labelled :
    (∃ lexemes file, tokenize labelled.toList = .ok lexemes ∧ ofLexemes labelled.toList lexemes = .ok file ∧
      (file.outline.nodes.flatMap (·.label.spans)).length = 19 ∧
      (∀ node ∈ file.outline.nodes, ∀ span ∈ node.label.spans, ∃ start stop, span = .range start stop ∧
        Aligned lexemes start stop ∧ stop ≤ byteSize labelled.toList) ∧
      Nested lexemes 0 (byteSize labelled.toList) file.outline.extents) ∧
    ∃ lexemes error, tokenize unfinished.toList = .ok lexemes ∧ ofLexemes unfinished.toList lexemes = .error error ∧
      ∃ start stop, error.span = .range start stop ∧ start ≤ stop ∧ stop ≤ byteSize unfinished.toList := by
  refine ⟨?_, ?_⟩
  · exact ⟨labelledSample.lexemes, labelledSample.file, labelledSample.tokens, labelledSample.parsed, labelledSample.shows,
      (spans_in_order labelledSample.tokens).1 _ labelledSample.parsed⟩
  · have checked : (tokenize unfinished.toList).toOption.map (fun lexemes =>
        (ofLexemes unfinished.toList lexemes).toOption.isNone) = some true := by
      decide +kernel
    obtain ⟨lexemes, tokens, absent⟩ := Option.map_eq_some_iff.mp checked
    have read := eq_ok_of_toOption tokens
    cases failed : ofLexemes unfinished.toList lexemes with
    | ok file =>
      rw [failed] at absent
      cases absent
    | error error => exact ⟨lexemes, error, read, failed, (spans_in_order read).2 error failed⟩

end SourceFile

end GoSpecs
