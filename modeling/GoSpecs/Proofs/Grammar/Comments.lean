import GoSpecs.Fault
import GoSpecs.Proofs.Grammar.Reading
import GoSpecs.Proofs.Token.Comments

namespace GoSpecs

namespace Piece

def tokens (ends : Bool) : List Piece → List Token
  | [] => Glyph.lineEnd ends
  | .blank :: rest => tokens ends rest
  | .newline :: rest => Glyph.lineEnd ends ++ tokens false rest
  | .token (.lineComment _) :: rest => tokens ends rest
  | .token (.blockComment text) :: rest =>
    if text.toList.contains '\n' then Glyph.lineEnd ends ++ tokens false rest else tokens ends rest
  | .token sign :: rest => sign :: tokens sign.endsStatement rest

theorem isComment_of_ne {sign : Token} (line : ∀ text, sign = .lineComment text → False)
    (block : ∀ text, sign = .blockComment text → False) : sign.isComment = false := by
  cases sign with
  | lineComment text => exact absurd rfl (line text)
  | blockComment text => exact absurd rfl (block text)
  | _ => rfl

theorem tokens_plain {sign : Token} (plain : sign.isComment = false) (ends : Bool) (rest : List Piece) :
    tokens ends (.token sign :: rest) = sign :: tokens sign.endsStatement rest := by
  cases sign <;> first | rfl | cases plain

theorem significant_ofPieces (size : Nat) (ends : Bool) (located : List LocatedPiece) :
    Lexeme.significant (Lexeme.ofPieces size ends located) = tokens ends (located.map (·.piece)) := by
  fun_induction Lexeme.ofPieces size ends located with
  | case1 ends => cases ends <;> rfl
  | case2 ends start stop rest ih => exact ih
  | case3 ends start stop rest ih =>
    rw [Lexeme.significant_inserted, ih]
    rfl
  | case4 ends text start stop rest ih =>
    rw [Lexeme.significant_comment rfl, ih]
    rfl
  | case5 ends text start stop rest broken ih =>
    rw [Lexeme.significant_inserted, Lexeme.significant_comment rfl, ih, List.map_cons, tokens, if_pos broken]
  | case6 ends text start stop rest broken ih =>
    rw [Lexeme.significant_comment rfl, ih, List.map_cons, tokens, if_neg broken]
  | case7 ends sign start stop rest line block ih =>
    have plain := isComment_of_ne line block
    rw [Lexeme.significant_plain plain, ih, List.map_cons, tokens_plain plain]

theorem tokens_bare (ends : Bool) (pieces : List Piece) : tokens ends (pieces.flatMap bare) = tokens ends pieces := by
  fun_induction tokens ends pieces with
  | case1 ends => rfl
  | case2 ends rest ih => exact ih
  | case3 ends rest ih => exact congrArg (Glyph.lineEnd ends ++ ·) ih
  | case4 ends text rest ih => exact ih
  | case5 ends text rest broken ih =>
    rw [List.flatMap_cons, bare, if_pos broken]
    exact congrArg (Glyph.lineEnd ends ++ ·) ih
  | case6 ends text rest broken ih =>
    rw [List.flatMap_cons, bare, if_neg broken]
    exact ih
  | case7 ends sign rest line block ih =>
    have plain := isComment_of_ne line block
    rw [List.flatMap_cons, (bare_of_plain (show isComment (.token sign) = false from plain)).1,
      List.singleton_append, tokens_plain plain, ih]

theorem isComment_bare {pieces : List Piece} {piece : Piece} (here : piece ∈ pieces.flatMap bare) :
    piece.isComment = false := by
  obtain ⟨whole, -, here⟩ := List.mem_flatMap.mp here
  by_cases plain : whole.isComment = false
  · rw [(bare_of_plain plain).1] at here
    rwa [List.mem_singleton.mp here]
  · cases whole with
    | token sign =>
      cases sign with
      | lineComment text => cases here
      | blockComment text =>
        simp only [bare] at here
        split at here
        · rw [List.mem_singleton.mp here]
          rfl
        · rw [List.mem_singleton.mp here]
          rfl
      | _ => simp [isComment, Token.isComment] at plain
    | _ => simp [isComment] at plain

end Piece

/-- The source with each line comment deleted, and each block comment replaced by a blank, or by a line end
if it holds one. -/
def withoutComments (source : List Char) : List Char :=
  Piece.bareChars source.length source

theorem tokenize_withoutComments {source : List Char} {lexemes : List Lexeme} (whole : tokenize source = .ok lexemes) :
    ∃ lexemes', tokenize (withoutComments source) = .ok lexemes' ∧
      lexemes'.map (·.token) = Lexeme.significant lexemes := by
  rw [tokenize] at whole
  cases found : Piece.split source.length 0 source with
  | error error =>
    rw [found] at whole
    cases whole
  | ok located =>
    rw [found] at whole
    cases whole
    have bare := (Piece.consists_of_split (Nat.le_refl _) found).bare (Nat.le_refl _)
    obtain ⟨located', split, pieces⟩ := bare.split (Nat.le_refl _) 0
    refine ⟨Lexeme.ofPieces (Text.byteSize (withoutComments source)) false located', ?_, ?_⟩
    · rw [tokenize]
      unfold withoutComments
      rw [split]
      rfl
    · have none (lexeme : Lexeme)
          (here : lexeme ∈ Lexeme.ofPieces (Text.byteSize (withoutComments source)) false located') :
          (!lexeme.token.isComment) = true := by
        rcases Lexeme.mem_ofPieces here with inserted | ⟨place, among, isToken⟩
        · rw [inserted]
          rfl
        · have plain := Piece.isComment_bare (pieces ▸ List.mem_map_of_mem among)
          rw [isToken] at plain
          simpa [Piece.isComment] using plain
      calc (Lexeme.ofPieces _ false located').map (·.token)
          = Lexeme.significant (Lexeme.ofPieces _ false located') := by
            rw [Lexeme.significant, List.filter_eq_self.mpr none]
        _ = Piece.tokens false (located.map (·.piece)) := by
            rw [Piece.significant_ofPieces, pieces, Piece.tokens_bare]
        _ = Lexeme.significant (Lexeme.ofPieces _ false located) := (Piece.significant_ofPieces _ _ _).symm

namespace SourceFile

theorem toOption_ofText {source : String} {lexemes : List Lexeme} (tokens : tokenize source.toList = .ok lexemes) :
    (ofText source).toOption = (ofLexemes source.toList lexemes).toOption := by
  have run : ofText source = (ofLexemes source.toList lexemes).mapError .ofSyntax := by
    rw [ofText, lexemesOf, tokens]
    rfl
  rw [run]
  cases ofLexemes source.toList lexemes <;> rfl

/-- Without its comments a source has the same other tokens, and is a file with the same tree or no file
either. -/
theorem ofText_withoutComments {source : String} {lexemes : List Lexeme}
    (tokens : tokenize source.toList = .ok lexemes) :
    (∃ lexemes', tokenize (withoutComments source.toList) = .ok lexemes' ∧
      lexemes'.map (·.token) = Lexeme.significant lexemes) ∧
    (ofText source).toOption.map erase =
      (ofText (String.ofList (withoutComments source.toList))).toOption.map erase := by
  obtain ⟨lexemes', tokens', same⟩ := tokenize_withoutComments tokens
  refine ⟨⟨lexemes', tokens', same⟩, ?_⟩
  have plain : Lexeme.significant lexemes' = Lexeme.significant lexemes := by
    have filtered (lexemes : List Lexeme) :
        Lexeme.significant lexemes = (lexemes.map (·.token)).filter (!·.isComment) := by
      rw [List.filter_map]
      rfl
    rw [filtered lexemes', same, filtered lexemes, List.filter_filter]
    simp only [Bool.and_self]
  have again : tokenize (String.ofList (withoutComments source.toList)).toList = .ok lexemes' := by
    rw [String.toList_ofList, tokens']
  rw [toOption_ofText tokens, toOption_ofText again]
  exact (twins_option (twins_ofLexemes _ _ plain.symm)).same

def remarked : String :=
  "package p/*a*/;//b\nvar x/*c\nd*/var/**/y=- /*e*/-x+/*f*/+x//g\n"

def remarkedSample : Sample remarked (fun lexemes _ => lexemes.length) 23 :=
  .ofChecked (by decide +kernel)

theorem ofText_withoutComments_remarked :
    withoutComments remarked.toList = "package p ;\nvar x\nvar y=-  -x+ +x\n".toList ∧
    ∃ file file', ofText remarked = .ok file ∧ ofText "package p ;\nvar x\nvar y=-  -x+ +x\n" = .ok file' ∧
      file.erase = file'.erase := by
  have bare : withoutComments remarked.toList = "package p ;\nvar x\nvar y=-  -x+ +x\n".toList := by decide +kernel
  have same := (ofText_withoutComments remarkedSample.tokens).2
  rw [bare, String.ofList_toList, remarkedSample.ofText_eq] at same
  obtain ⟨file', parsed', same⟩ := Option.map_eq_some_iff.mp same.symm
  exact ⟨bare, remarkedSample.file, file', remarkedSample.ofText_eq, eq_ok_of_toOption parsed', same.symm⟩

/-- From the end of each statement of a block to the start of a comment that is kept behind it. -/
def gaps (block : Block) : List (Nat × Nat) :=
  block.comments.filterMap fun
    | ⟨.after index, comment⟩ => do
      let stmt ← block.stmts[index]?
      return (← stmt.span.stop?, ← comment.span.start?)
    | _ => none

def crowded : String :=
  "package p\n\nfunc f() \x7b\n\tx(); y() // c\n\x7d\n"

def crowdedSample : Sample crowded (fun lexemes file => (lexemes.contains ⟨.ident "y", 28, 29⟩,
    (file.functions.filterMap (·.body?)).flatMap gaps)) (true, [(26, 32)]) :=
  .ofChecked (by decide +kernel)

/-- Between a statement and the comment behind it there can be another statement. -/
theorem trailing_past_statement : ∃ lexemes file, tokenize crowded.toList = .ok lexemes ∧ ofText crowded = .ok file ∧
    ∃ body ∈ file.functions.filterMap (·.body?), ∃ gap ∈ gaps body,
      ∃ lexeme ∈ lexemes, lexeme.token = .ident "y" ∧ gap.1 ≤ lexeme.start ∧ lexeme.stop ≤ gap.2 := by
  obtain ⟨contained, between⟩ := Prod.mk.inj crowdedSample.shows
  have gap : (26, 32) ∈ (crowdedSample.file.functions.filterMap (·.body?)).flatMap gaps := by simp [between]
  obtain ⟨body, here, among⟩ := List.mem_flatMap.mp gap
  refine ⟨_, _, crowdedSample.tokens, crowdedSample.ofText_eq, body, here, (26, 32), among, ?_⟩
  exact ⟨_, List.contains_iff_mem.mp contained, rfl, by decide, by decide⟩

end SourceFile

end GoSpecs
