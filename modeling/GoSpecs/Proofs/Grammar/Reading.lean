import GoSpecs.Fault
import GoSpecs.Proofs.Grammar.Agreement.File

namespace GoSpecs

def Lexeme.comment? (lexeme : Lexeme) : Option Comment :=
  if lexeme.token.isComment then some ⟨lexeme.token.text, .range lexeme.start lexeme.stop⟩ else none

namespace Cursor

theorem words_ofLexemes (lexemes : List Lexeme) (source : List Char) :
    (ofLexemes lexemes source).words = (lexemes.map (·.token)).filter Token.isWord := by
  induction lexemes with
  | nil => rfl
  | cons lexeme lexemes ih =>
    simp only [words, ofLexemes] at ih ⊢
    cases comment : lexeme.token.isComment with
    | false => simp [comment, List.filter_cons, ih]
    | true =>
      have noWord : lexeme.token.isWord = false := by
        cases token : lexeme.token <;> simp_all [Token.isWord, Token.isComment]
      simp [comment, noWord, ih]

theorem comments_ofLexemes (lexemes : List Lexeme) (source : List Char) :
    (ofLexemes lexemes source).comments = lexemes.filterMap Lexeme.comment? := by
  induction lexemes with
  | nil => rfl
  | cons lexeme lexemes ih =>
    simp only [ofLexemes] at ih ⊢
    cases comment : lexeme.token.isComment <;> simp [comment, Lexeme.comment?, ih]

end Cursor

namespace SourceFile

theorem ofText_eq_ok {source : String} {file : SourceFile} :
    ofText source = .ok file ↔
      ∃ lexemes, tokenize source.toList = .ok lexemes ∧ ofLexemes source.toList lexemes = .ok file := by
  have run : ofText source = ((tokenize source.toList).mapError .ofLexical).bind fun lexemes =>
      (ofLexemes source.toList lexemes).mapError .ofSyntax := rfl
  rw [run]
  cases tokenize source.toList with
  | error fault => simp [Except.mapError, Except.bind]
  | ok lexemes =>
    simp only [Except.mapError, Except.bind, Except.ok.injEq, exists_eq_left']
    cases ofLexemes source.toList lexemes with
    | error fault => simp
    | ok found => simp

theorem eq_ok_of_toOption {ε α : Type} {outcome : Except ε α} {value : α} (found : outcome.toOption = some value) :
    outcome = .ok value := by
  cases outcome <;> simp_all [Except.toOption]

/-- A source with its tokens and its file, and what a view of them shows. -/
structure Sample (source : String) {α : Type} (view : List Lexeme → SourceFile → α) (value : α) where
  lexemes : List Lexeme
  file : SourceFile
  tokens : tokenize source.toList = .ok lexemes
  parsed : ofLexemes source.toList lexemes = .ok file
  shows : view lexemes file = value

namespace Sample

variable {source : String} {α : Type} {view : List Lexeme → SourceFile → α} {value : α}

def ofChecked (checked : ((tokenize source.toList).toOption.bind fun lexemes =>
    (ofLexemes source.toList lexemes).toOption.map (view lexemes)) = some value) : Sample source view value :=
  match tokens : tokenize source.toList with
  | .error _ => absurd checked (by simp [tokens, Except.toOption])
  | .ok lexemes =>
    match parsed : ofLexemes source.toList lexemes with
    | .error _ => absurd checked (by simp [tokens, parsed, Except.toOption])
    | .ok file => ⟨lexemes, file, tokens, parsed, by simpa [tokens, parsed, Except.toOption] using checked⟩

theorem ofText_eq (sample : Sample source view value) : ofText source = .ok sample.file :=
  ofText_eq_ok.mpr ⟨sample.lexemes, sample.tokens, sample.parsed⟩

end Sample

theorem read_ofLexemes {source : List Char} {lexemes : List Lexeme} {file : SourceFile}
    (h : ofLexemes source lexemes = .ok file) :
    ∃ after, Read (.ofLexemes lexemes source) after (Part.ofFile file) ∧
      after.words = [] ∧ after.comments = [] := by
  simp only [ofLexemes, StateT.run'] at h
  obtain ⟨⟨found, after⟩, run, rfl⟩ := Token.map_eq_ok h
  have count : (lexemes.filter (!·.token.isComment)).length ≤ lexemes.length + 1 :=
    Nat.le_succ_of_le (List.length_filter_le _ _)
  have met := Rules.agrees_file (Rules.nested_ofDepth count count)
    (.ofLexemes lexemes source) _ (.refl _) (Nat.lt_succ_self _)
  rw [show Rules.file (Rules.ofDepth _) _ = _ from run] at met
  obtain ⟨-, -, -, carries⟩ := met
  obtain ⟨atEnd, noneLeft⟩ := (Rules.file_end _ _).of_run run
  exact ⟨after, carries.read, by simp [Cursor.words, atEnd], noneLeft⟩

/-- No comment of a source is lost, and none stands in the tree twice. -/
theorem comments_conserved {source : String} {file : SourceFile} (parsed : ofText source = .ok file) :
    ∃ lexemes, tokenize source.toList = .ok lexemes ∧
      Part.notes (Part.ofFile file) = (lexemes.filterMap Lexeme.comment? : Multiset Comment) := by
  obtain ⟨lexemes, tokens, parsed⟩ := ofText_eq_ok.mp parsed
  obtain ⟨after, read, _, noneLeft⟩ := read_ofLexemes parsed
  have notes := read.notes
  rw [Cursor.comments_ofLexemes, noneLeft, Multiset.coe_nil, add_zero] at notes
  exact ⟨lexemes, tokens, notes.symm⟩

def noted : String :=
  "/*a*/package p;var x=T\x7b1,//b\n\x7d\nfunc f()\x7b/*c*/\x7d"

def notedSample : Sample noted (fun lexemes _ => lexemes.filterMap Lexeme.comment?)
    [⟨"/*a*/", .range 0 5⟩, ⟨"//b", .range 25 28⟩, ⟨"/*c*/", .range 40 45⟩] :=
  .ofChecked (by decide +kernel)

theorem comments_conserved_noted : ∃ file, ofText noted = .ok file ∧ Part.notes (Part.ofFile file) =
    ([⟨"/*a*/", .range 0 5⟩, ⟨"//b", .range 25 28⟩, ⟨"/*c*/", .range 40 45⟩] : List Comment) := by
  obtain ⟨others, same, conserved⟩ := comments_conserved notedSample.ofText_eq
  obtain rfl : notedSample.lexemes = others := Except.ok.inj (notedSample.tokens.symm.trans same)
  exact ⟨notedSample.file, notedSample.ofText_eq, conserved.trans (congrArg _ notedSample.shows)⟩

/-- Names and literals stand in a tree as they stand in the source, and in the same order. -/
theorem words_conserved {source : String} {file : SourceFile} (parsed : ofText source = .ok file) :
    ∃ lexemes, tokenize source.toList = .ok lexemes ∧
      List.Forall₂ Part.IsOf (Part.words (Part.ofFile file)) ((lexemes.map (·.token)).filter Token.isWord) := by
  obtain ⟨lexemes, tokens, parsed⟩ := ofText_eq_ok.mp parsed
  obtain ⟨after, read, noneLeft, _⟩ := read_ofLexemes parsed
  obtain ⟨words, split, kept⟩ := read.words fun token member => by
    rw [Cursor.words_ofLexemes, List.mem_filter, List.mem_map] at member
    obtain ⟨⟨lexeme, member, rfl⟩, isWord⟩ := member
    exact genuine_of_tokenize tokens member isWord
  rw [Cursor.words_ofLexemes, noneLeft, List.append_nil] at split
  exact ⟨lexemes, tokens, split ▸ kept⟩

def worded : String :=
  "package p;import.\"f\";func g(a,b T)\x7bL:goto L\x7d"

def wordedSample : Sample worded (fun lexemes _ => (lexemes.map (·.token)).filter Token.isWord)
    [.ident "p", .string "\"f\"", .ident "g", .ident "a", .ident "b", .ident "T", .ident "L", .ident "L"] :=
  .ofChecked (by decide +kernel)

theorem words_conserved_worded : ∃ file, ofText worded = .ok file ∧
    List.Forall₂ Part.IsOf (Part.words (Part.ofFile file)) [.ident "p", .string "\"f\"", .ident "g", .ident "a",
      .ident "b", .ident "T", .ident "L", .ident "L"] := by
  obtain ⟨others, same, conserved⟩ := words_conserved wordedSample.ofText_eq
  obtain rfl : wordedSample.lexemes = others := Except.ok.inj (wordedSample.tokens.symm.trans same)
  have words : (wordedSample.lexemes.map (·.token)).filter Token.isWord = _ := wordedSample.shows
  rw [words] at conserved
  exact ⟨wordedSample.file, wordedSample.ofText_eq, conserved⟩

end SourceFile

end GoSpecs
