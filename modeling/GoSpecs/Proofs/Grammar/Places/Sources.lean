import GoSpecs.Proofs.Grammar.Places.File
import GoSpecs.Proofs.Grammar.Reading
import GoSpecs.Proofs.Source.Lines
import Mathlib.Data.List.Forall2

namespace GoSpecs

open Text

structure Lexeme.Level (lines lines' : Lines) (lexeme other : Lexeme) : Prop where
  alike : lexeme.token.Alike other.token
  line : lines.lineOf lexeme.start = lines'.lineOf other.start

variable {source source' : List Char} {lexemes lexemes' : List Lexeme}

theorem Token.isSemicolon_inserted {token : Token} (plain : token.isSemicolon = false) : token ≠ .semicolon true := by
  rintro rfl
  cases plain

theorem filled_of_tokenize (read : tokenize source = .ok lexemes) {lexeme : Lexeme} (here : lexeme ∈ lexemes)
    (plain : lexeme.token.isSemicolon = false) : lexeme.start < lexeme.stop := by
  have written := Token.isSemicolon_inserted plain
  obtain ⟨_, _, _, _, stop⟩ := (lexed_of_tokenize read).text_of_mem here written
  have filled := Piece.filled_of_genuine (genuine_of_mem_tokenize read here written)
  have size := byteSize_pos (List.length_pos_iff.mp filled)
  omega

theorem cuts_of_tokenize (read : tokenize source = .ok lexemes) {lexeme : Lexeme} (here : lexeme ∈ lexemes)
    (plain : lexeme.token.isSemicolon = false) : Cuts source lexeme.start ∧ Cuts source lexeme.stop := by
  obtain ⟨front, back, text, start, stop⟩ :=
    (lexed_of_tokenize read).text_of_mem here (Token.isSemicolon_inserted plain)
  rw [Nat.zero_add] at start
  refine ⟨⟨front, lexeme.token.text.toList ++ back, by rw [text, List.append_assoc], start.symm⟩, _, back, text, ?_⟩
  rw [stop, start, byteSize_append]

/-- A token that starts on the same line of two sources ends on the same line of them. -/
theorem Lexeme.Level.stops (read : tokenize source = .ok lexemes) (read' : tokenize source' = .ok lexemes')
    {lexeme other : Lexeme} (level : Lexeme.Level (.ofSource source) (.ofSource source') lexeme other)
    (here : lexeme ∈ lexemes) (there : other ∈ lexemes') (plain : lexeme.token.isSemicolon = false) :
    (Lines.ofSource source).lineOf lexeme.stop = (Lines.ofSource source').lineOf other.stop ∧
      (Lines.ofSource source).lineOf (lexeme.stop - 1) = (Lines.ofSource source').lineOf (other.stop - 1) := by
  have written := Token.isSemicolon_inserted plain
  have same := level.alike.eq plain
  obtain ⟨front, back, text, start, stop⟩ := (lexed_of_tokenize read).text_of_mem here written
  obtain ⟨front', back', text', start', stop'⟩ := (lexed_of_tokenize read').text_of_mem there (same ▸ written)
  have filled := filled_of_tokenize read here plain
  have line := level.line
  rw [same] at text' stop'
  rw [Nat.zero_add] at start start'
  -- Both texts of the token have the same newlines before each offset.
  have inside {offset : Nat} (le : offset ≤ byteSize lexeme.token.text.toList) :
      (Lines.ofSource source).lineOf (lexeme.start + offset) =
        (Lines.ofSource source').lineOf (other.start + offset) := by
    have first := Lines.lineOf_inside front lexeme.token.text.toList back (Nat.zero_le _)
    have second := Lines.lineOf_inside front' lexeme.token.text.toList back' (Nat.zero_le _)
    rw [← text, Nat.add_zero, ← start] at first
    rw [← text', Nat.add_zero, ← start'] at second
    rw [first, second] at line
    rw [start, start', text, text', Lines.lineOf_inside _ _ _ le, Lines.lineOf_inside _ _ _ le]
    simpa using line
  refine ⟨by rw [stop, stop', inside (Nat.le_refl _)], ?_⟩
  rw [stop, stop', Nat.add_sub_assoc (by omega), Nat.add_sub_assoc (by omega), inside (Nat.sub_le _ _)]

namespace Pairing

theorem exists_pairs {lines lines' : Lines} (level : List.Forall₂ (Lexeme.Level lines lines') lexemes lexemes') :
    ∃ pairs : List TokenPair, pairs.map (·.first) = lexemes ∧ pairs.map (·.second) = lexemes' ∧
      ∀ pair ∈ pairs, Lexeme.Level lines lines' pair.first pair.second := by
  induction level with
  | nil => exact ⟨[], rfl, rfl, by simp⟩
  | @cons lexeme other lexemes lexemes' head _ ih =>
    obtain ⟨pairs, rfl, rfl, each⟩ := ih
    exact ⟨⟨lexeme, other, head.alike⟩ :: pairs, rfl, rfl, by simpa using ⟨head, each⟩⟩

structure IsOf (pairing : Pairing) (source source' : List Char) (lexemes lexemes' : List Lexeme) : Prop where
  first : pairing.lexemes = lexemes
  second : pairing.pairs.map (·.second) = lexemes'
  source : pairing.source = source
  source' : pairing.source' = source'

theorem exists_isOf (read : tokenize source = .ok lexemes) (read' : tokenize source' = .ok lexemes')
    (level : List.Forall₂ (Lexeme.Level (.ofSource source) (.ofSource source')) lexemes lexemes') :
    ∃ pairing : Pairing, pairing.IsOf source source' lexemes lexemes' := by
  obtain ⟨pairs, rfl, rfl, each⟩ := exists_pairs level
  have lexed := lexed_of_tokenize read
  have lexed' := lexed_of_tokenize read'
  have mem {pair : TokenPair} (here : pair ∈ pairs) : pair.first ∈ pairs.map (·.first) ∧ pair.second ∈ pairs.map (·.second) :=
    ⟨List.mem_map_of_mem here, List.mem_map_of_mem here⟩
  refine ⟨⟨pairs, source, source', ?_, ?_, ?_, ?_, ?_, ?_⟩, rfl, rfl, rfl, rfl⟩
  · have first := List.pairwise_map.mp lexed.ordered
    have second := List.pairwise_map.mp lexed'.ordered
    exact (first.and second).imp fun both => ⟨both.1.1, both.2.1⟩
  · intro pair here
    have bounds := lexed.bounds _ (mem here).1
    have bounds' := lexed'.bounds _ (mem here).2
    rw [Nat.zero_add] at bounds bounds'
    exact ⟨⟨bounds.2.1, bounds'.2.1⟩, bounds.2.2, bounds'.2.2⟩
  · intro pair here plain
    have plain' : pair.second.token.isSemicolon = false := pair.alike.isSemicolon_eq.trans plain
    exact ⟨filled_of_tokenize read (mem here).1 plain, filled_of_tokenize read' (mem here).2 plain'⟩
  · exact fun pair here => (each pair here).line
  · exact fun pair here plain => (each pair here).stops read read' (mem here).1 (mem here).2 plain
  · intro pair here plain
    have plain' : pair.second.token.isSemicolon = false := pair.alike.isSemicolon_eq.trans plain
    have cuts := cuts_of_tokenize read (mem here).1 plain
    have cuts' := cuts_of_tokenize read' (mem here).2 plain'
    exact ⟨⟨cuts.1, cuts'.1⟩, cuts.2, cuts'.2⟩

end Pairing

def Joint.beginning (pairing : Pairing) : Joint pairing where
  rest := pairing.tokens
  comments := pairing.pairs.filter (·.isComment)
  last? := none
  level := 0
  ahead := List.suffix_refl _
  known := by simp
  behind := by simp

namespace SourceFile

theorem first_beginning {pairing : Pairing} (isOf : pairing.IsOf source source' lexemes lexemes') :
    (Joint.beginning pairing).first = .ofLexemes lexemes source := by
  rw [← isOf.first, ← isOf.source, Cursor.ofLexemes, Joint.first]
  simp [Joint.beginning, Pairing.tokens, Pairing.lexemes, Joint.stop, List.filter_map, Function.comp_def, Lexeme.comment]

theorem second_beginning {pairing : Pairing} (isOf : pairing.IsOf source source' lexemes lexemes') :
    (Joint.beginning pairing).second = .ofLexemes lexemes' source' := by
  rw [← isOf.second, ← isOf.source', Cursor.ofLexemes, Joint.second]
  simp [Joint.beginning, Pairing.tokens, Joint.stop, List.filter_map, Function.comp_def, Lexeme.comment,
    fun pair : TokenPair => pair.alike.isComment_eq]

/-- Both sources have a syntax error, or both make up the same file. -/
theorem ofLexemes_cases {pairing : Pairing} (isOf : pairing.IsOf source source' lexemes lexemes') :
    (∃ error error', ofLexemes source lexemes = .error error ∧ ofLexemes source' lexemes' = .error error' ∧
      ∃ start stop, error.span = .range start stop ∧ start ≤ stop ∧ stop ≤ byteSize source) ∨
    ∃ file file' stop, ofLexemes source lexemes = .ok file ∧ ofLexemes source' lexemes' = .ok file' ∧
      Rules.FileRead pairing file file' stop ∧ stop.first ≤ byteSize source := by
  have depth : lexemes'.length = lexemes.length := by rw [← isOf.first, ← isOf.second, Pairing.lexemes]; simp
  have size : pairing.size.first = byteSize source := by rw [Pairing.size, isOf.source]
  have concurs := Rules.concurs_file (Rules.paired_ofDepth (lexemes.length + 1)) (Joint.beginning pairing)
  rw [Parser.Concurs, first_beginning isOf, second_beginning isOf] at concurs
  simp only [ofLexemes, StateT.run', depth]
  rcases concurs.inv with ⟨error, error', failed, failed', bounds⟩ | ⟨file, file', after, ran, ran', -, read⟩
  · rw [failed, failed']
    exact .inl ⟨error, error', rfl, rfl, size ▸ bounds⟩
  · rw [ran, ran']
    exact .inr ⟨file, file', after.stop, rfl, rfl, read, size ▸ after.stop_le_size.1⟩

end SourceFile

end GoSpecs
