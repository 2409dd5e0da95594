import GoSpecs.Proofs.Layout.Glyphs
import GoSpecs.Proofs.Token.Comments
import GoSpecs.Proofs.Token.Genuine
import GoSpecs.Syntax.Build

namespace GoSpecs

open Glyph

namespace Token

def written : Token → Token
  | .semicolon _ => .semicolon false
  | sign => sign

@[simp] theorem text_written (token : Token) : token.written.text = token.text := by
  cases token <;> rfl

@[simp] theorem endsStatement_written (token : Token) : token.written.endsStatement = token.endsStatement := by
  cases token <;> rfl

@[simp] theorem isComment_written (token : Token) : token.written.isComment = token.isComment := by
  cases token <;> rfl

theorem goesOn_blank {token : Token} (plain : token.isComment = false) : token.goesOn ' ' = false := by
  have noName : Piece.continuesName ' ' = false := by
    rw [Piece.continuesName_of_ascii (by decide)]
    decide
  cases token with
  | keyword word => exact noName
  | ident text => exact noName
  | number text => simp [goesOn, continuesNumber, noName]
  | mark sign => exact sign.goesOn_blank
  | lineComment text => cases plain
  | _ => rfl

/-- Whether the last of the tokens can end a statement. `ends` tells it of the token before them. -/
def lastEnds (ends : Bool) : List Token → Bool
  | [] => ends
  | sign :: rest => lastEnds sign.endsStatement rest

theorem lastEnds_lineEnd (ends : Bool) (tokens : List Token) :
    lastEnds ends (lineEnd ends ++ tokens) = lastEnds false tokens := by
  cases ends <;> rfl

theorem lastEnds_written (ends : Bool) (tokens : List Token) :
    lastEnds ends (tokens.map written) = lastEnds ends tokens := by
  induction tokens generalizing ends with
  | nil => rfl
  | cons token tokens ih => rw [List.map_cons, lastEnds, endsStatement_written, ih, lastEnds]

end Token

theorem Lexeme.lastEnds_ofPieces (size : Nat) (ends : Bool) (pieces : List LocatedPiece) :
    Token.lastEnds ends (significant (ofPieces size ends pieces)) = false := by
  fun_induction ofPieces size ends pieces with
  | case1 ends => cases ends <;> rfl
  | case2 ends start stop rest ih => exact ih
  | case3 ends start stop rest ih => rw [significant_inserted, Token.lastEnds_lineEnd, ih]
  | case4 ends text start stop rest ih => rw [significant_comment rfl, ih]
  | case5 ends text start stop rest broken ih =>
    rw [significant_inserted, significant_comment rfl, Token.lastEnds_lineEnd, ih]
  | case6 ends text start stop rest broken ih => rw [significant_comment rfl, ih]
  | case7 ends token start stop rest line block ih =>
    have plain : token.isComment = false := by
      cases token with
      | lineComment text => exact (line text rfl).elim
      | blockComment text => exact (block text rfl).elim
      | _ => rfl
    rw [significant_plain plain, Token.lastEnds, ih]

theorem Lexeme.significant_of_commentTexts {lexemes : List Lexeme} (none : commentTexts lexemes = []) :
    significant lexemes = lexemes.map (·.token) := by
  have plain : ∀ lexeme ∈ lexemes, (!lexeme.token.isComment) = true := by
    simpa [commentTexts] using none
  rw [significant, List.filter_eq_self.mpr plain]

namespace Glyph

def spaced (tokens : List Token) : List Glyph :=
  (tokens.map token).intersperse gap

theorem spaced_cons_cons (one other : Token) (tokens : List Token) :
    spaced (one :: other :: tokens) = .token one :: .gap :: spaced (other :: tokens) := by
  simp [spaced, List.intersperse_cons_cons]

theorem spells_spaced (tokens : List Token) :
    Spells (" ".intercalate (tokens.map Token.text)) (spaced tokens) := by
  induction tokens with
  | nil => exact .nil
  | cons one tokens ih =>
    cases tokens with
    | nil => simpa [spaced] using Spells.ofToken one
    | cons other tokens =>
      rw [spaced_cons_cons, List.map_cons, List.map_cons, String.intercalate_cons_cons, String.append_assoc]
      exact .cons rfl (.cons (show Glyph.gap.Shows " " from ⟨0, rfl⟩) ih)

theorem mem_spaced {tokens : List Token} {glyph : Glyph} (here : glyph ∈ spaced tokens) :
    glyph = .gap ∨ ∃ sign ∈ tokens, glyph = .token sign := by
  induction tokens with
  | nil => cases here
  | cons one tokens ih =>
    cases tokens with
    | nil => exact .inr ⟨one, List.mem_cons_self, by simpa [spaced] using here⟩
    | cons other tokens =>
      rw [spaced_cons_cons, List.mem_cons, List.mem_cons] at here
      rcases here with rfl | rfl | here
      · exact .inr ⟨one, List.mem_cons_self, rfl⟩
      · exact .inl rfl
      · refine (ih here).imp_right ?_
        rintro ⟨sign, among, same⟩
        exact ⟨sign, List.mem_cons_of_mem one among, same⟩

theorem areApart_spaced {tokens : List Token} (plain : ∀ sign ∈ tokens, sign.isComment = false) :
    areApart (spaced tokens) = true := by
  induction tokens with
  | nil => rfl
  | cons one tokens ih =>
    have rest := ih fun sign among => plain sign (List.mem_cons_of_mem one among)
    cases tokens with
    | nil => rfl
    | cons other tokens =>
      simp [spaced_cons_cons, areApart, rest, firstChar?, Token.goesOn_blank (plain one List.mem_cons_self)]

theorem tokens_spaced (ends : Bool) (tokens : List Token) :
    Glyph.tokens ends (spaced tokens) = tokens ++ lineEnd (Token.lastEnds ends tokens) := by
  induction tokens generalizing ends with
  | nil => rfl
  | cons one tokens ih =>
    cases tokens with
    | nil => rfl
    | cons other tokens =>
      rw [spaced_cons_cons, Glyph.tokens, Glyph.tokens, ih]
      rfl

theorem comments_spaced (tokens : List Token) : comments (spaced tokens) = [] := by
  induction tokens with
  | nil => rfl
  | cons one tokens ih =>
    cases tokens with
    | nil => rfl
    | cons other tokens =>
      rw [spaced_cons_cons, comments, comments, ih]
      · intro text same
        cases same
      · intro text same
        cases same

end Glyph

theorem tokenize_spaced {tokens : List Token} (proper : ∀ sign ∈ tokens, (Glyph.token sign).Proper)
    (closed : Token.lastEnds false tokens = false) :
    ∃ lexemes, tokenize (" ".intercalate (tokens.map Token.text)).toList = .ok lexemes ∧
      lexemes.map (·.token) = tokens := by
  have each : ∀ glyph ∈ spaced tokens, glyph.Proper := by
    intro glyph here
    rcases mem_spaced here with rfl | ⟨sign, among, rfl⟩
    · trivial
    · exact proper sign among
  have apart := areApart_spaced fun sign among => (proper sign among).2.1
  obtain ⟨lexemes, found, same, none⟩ := (spells_spaced tokens).tokenizes each apart
  rw [comments_spaced, List.map_nil, List.map_eq_nil_iff] at none
  refine ⟨lexemes, found, ?_⟩
  rw [← Lexeme.significant_of_commentTexts none, same, tokens_spaced, closed]
  exact List.append_nil tokens

theorem proper_written {source : List Char} {lexemes : List Lexeme} (found : tokenize source = .ok lexemes)
    {token : Token} (among : token ∈ Lexeme.significant lexemes) : (Glyph.token token.written).Proper := by
  obtain ⟨lexeme, here, rfl⟩ := List.mem_map.mp among
  obtain ⟨here, plain⟩ := List.mem_filter.mp here
  replace plain : lexeme.token.isComment = false := by simpa using plain
  refine ⟨?_, by rw [Token.isComment_written, plain], ?_⟩
  · cases same : lexeme.token with
    | semicolon inserted => exact Token.proper_semicolon
    | _ =>
      have genuine := genuine_of_mem_tokenize found here (by simp [same])
      rw [same] at genuine
      exact genuine.proper
  · rw [Token.text_written]
    by_cases inserted : lexeme.token = .semicolon true
    · rw [inserted]
      decide
    · have filled := Piece.filled_of_genuine (genuine_of_mem_tokenize found here inserted)
      intro empty
      rw [empty] at filled
      cases filled

/-- The texts of the tokens of a source, comments left out, with a blank between any two, are read as the same
tokens. -/
theorem tokenize_texts {source : List Char} {lexemes : List Lexeme} (found : tokenize source = .ok lexemes) :
    ∃ again, tokenize (" ".intercalate ((Lexeme.significant lexemes).map Token.text)).toList = .ok again ∧
      again.map (·.token) = (Lexeme.significant lexemes).map Token.written := by
  have proper : ∀ sign ∈ (Lexeme.significant lexemes).map Token.written, (Glyph.token sign).Proper := by
    intro sign among
    obtain ⟨token, here, rfl⟩ := List.mem_map.mp among
    exact proper_written found here
  have closed : Token.lastEnds false ((Lexeme.significant lexemes).map Token.written) = false := by
    rw [Token.lastEnds_written]
    cases split : Piece.split source.length 0 source with
    | error error =>
      rw [tokenize, split] at found
      cases found
    | ok pieces =>
      rw [tokenize, split] at found
      cases found
      exact Lexeme.lastEnds_ofPieces _ _ _
  have texts : ((Lexeme.significant lexemes).map Token.written).map Token.text =
      (Lexeme.significant lexemes).map Token.text := by
    rw [List.map_map]
    exact List.map_congr_left fun token _ => token.text_written
  have spaced := tokenize_spaced proper closed
  rwa [texts] at spaced

def mixedTokens : String :=
  "x/*a\n*/y = 0x1p-2i+ +f('\\'',\x60b\n\x60) // c"

theorem tokenize_texts_mixedTokens :
    ∃ lexemes, tokenize mixedTokens.toList = .ok lexemes ∧
      " ".intercalate ((Lexeme.significant lexemes).map Token.text) =
        "x ; y = 0x1p-2i + + f ( '\\'' , \x60b\n\x60 ) ;" ∧
      ∃ again, tokenize "x ; y = 0x1p-2i + + f ( '\\'' , \x60b\n\x60 ) ;".toList = .ok again ∧
        again.map (·.token) = (Lexeme.significant lexemes).map Token.written := by
  have read : (tokenize mixedTokens.toList).toOption.map
      (fun lexemes => " ".intercalate ((Lexeme.significant lexemes).map Token.text)) =
        some "x ; y = 0x1p-2i + + f ( '\\'' , \x60b\n\x60 ) ;" := by decide +kernel
  cases found : tokenize mixedTokens.toList with
  | error error =>
    rw [found] at read
    cases read
  | ok lexemes =>
    rw [found] at read
    have joined : " ".intercalate ((Lexeme.significant lexemes).map Token.text) =
        "x ; y = 0x1p-2i + + f ( '\\'' , \x60b\n\x60 ) ;" := Option.some.inj read
    have again := tokenize_texts found
    rw [joined] at again
    exact ⟨lexemes, rfl, joined, again⟩

namespace Expr.Node

/-- The characters that the body of a literal denotes, if only quotes, backslashes, line ends and tabs are
escaped. -/
def unescaped : List Char → List Char
  | '\\' :: '"' :: rest => '"' :: unescaped rest
  | '\\' :: '\\' :: rest => '\\' :: unescaped rest
  | '\\' :: 'n' :: rest => '\n' :: unescaped rest
  | '\\' :: 't' :: rest => '\t' :: unescaped rest
  | c :: rest => c :: unescaped rest
  | [] => []

def body (literal : String) : List Char :=
  (literal.toList.drop 1).dropLast

theorem body_quotedText (value : String) : body (quotedText value) = value.toList.flatMap escapedChar := by
  simp [body, quotedText]

theorem escapedChar_plain {c : Char} (plain : c ≠ '"' ∧ c ≠ '\\' ∧ c ≠ '\n' ∧ c ≠ '\t') : escapedChar c = [c] := by
  simp [escapedChar, plain]

theorem isEscaped_or_plain (c : Char) :
    (c = '"' ∨ c = '\\' ∨ c = '\n' ∨ c = '\t') ∨ c ≠ '"' ∧ c ≠ '\\' ∧ c ≠ '\n' ∧ c ≠ '\t' := by
  grind

theorem unescaped_escapedChar (c : Char) (rest : List Char) :
    unescaped (escapedChar c ++ rest) = c :: unescaped rest := by
  rcases isEscaped_or_plain c with (rfl | rfl | rfl | rfl) | plain
  · rfl
  · rfl
  · rfl
  · rfl
  · rw [escapedChar_plain plain, List.singleton_append, unescaped]
    all_goals simp [plain]

theorem unescaped_flatMap (chars : List Char) : unescaped (chars.flatMap escapedChar) = chars := by
  induction chars with
  | nil => rfl
  | cons c chars ih => rw [List.flatMap_cons, unescaped_escapedChar, ih]

theorem bodyLength_escapedChar (c : Char) (rest : List Char) :
    Piece.bodyLength '"' (escapedChar c ++ rest) = (escapedChar c).length + Piece.bodyLength '"' rest := by
  rcases isEscaped_or_plain c with (rfl | rfl | rfl | rfl) | plain
  · rfl
  · rfl
  · rfl
  · rfl
  · rw [escapedChar_plain plain, List.singleton_append, Piece.bodyLength_plain (by simp [plain])]
    rfl

theorem bodyLength_flatMap (chars rest : List Char) :
    Piece.bodyLength '"' (chars.flatMap escapedChar ++ '"' :: rest) = (chars.flatMap escapedChar).length := by
  induction chars with
  | nil => cases rest <;> rfl
  | cons c chars ih =>
    rw [List.flatMap_cons, List.append_assoc, bodyLength_escapedChar, ih, List.length_append]

theorem proper_quotedText (value : String) : (Token.string (quotedText value)).Proper := by
  intro rest _
  have shape : (quotedText value).toList = '"' :: (value.toList.flatMap escapedChar ++ ['"']) := by
    simp [quotedText]
  have long : (quotedText value).toList.length = (value.toList.flatMap escapedChar).length + 2 := by
    rw [shape]
    simp
  have closed : Piece.closedLength '"' (value.toList.flatMap escapedChar).length
      (value.toList.flatMap escapedChar ++ '"' :: rest) = .ok (quotedText value).toList.length := by
    rw [long]
    simp [Piece.closedLength]
  have whole : (quotedText value).toList ++ rest = '"' :: (value.toList.flatMap escapedChar ++ '"' :: rest) := by
    rw [shape]
    simp
  rw [Token.text, whole, Piece.first_quote, bodyLength_flatMap, closed, ← whole, Except.map, List.take_left,
    String.ofList_toList]
end Expr.Node

theorem tokenize_single (sign : Token) (proper : sign.Proper) (plain : sign.isComment = false) :
    tokenize sign.text.toList = .ok (⟨sign, 0, Text.byteSize sign.text.toList⟩ ::
      Lexeme.inserted sign.endsStatement (Text.byteSize sign.text.toList) (Text.byteSize sign.text.toList)) := by
  have found := proper [] (by simp [Token.Stops])
  rw [List.append_nil] at found
  generalize sign.text.toList = chars at found ⊢
  cases chars with
  | nil => cases found
  | cons c chars =>
    have rest (offset : Nat) : Piece.split chars.length offset [] = .ok [] := by
      cases chars <;> rfl
    have split : Piece.split (c :: chars).length 0 (c :: chars) =
        .ok [⟨.token sign, 0, Text.byteSize (c :: chars)⟩] := by
      rw [List.length_cons, Piece.split]
      · rw [found]
        dsimp only
        rw [List.drop_length, List.take_length, rest, Nat.zero_add]
        rfl
      · intro same
        cases same
    rw [tokenize, split]
    cases sign <;> first | rfl | cases plain

namespace Expr.Node

/-- The literal for a string is read as one token, and its body denotes the string, so no two strings have the
same literal. -/
theorem stringLit_read :
    (∀ value : String, ∃ text size, stringLit value = .literal text ∧ size = Text.byteSize text.toList ∧
      tokenize text.toList = .ok [⟨.string text, 0, size⟩, ⟨.semicolon true, size, size⟩] ∧
      String.ofList (unescaped (body text)) = value) ∧
    Function.Injective stringLit := by
  have denotes (value : String) : String.ofList (unescaped (body (quotedText value))) = value := by
    rw [body_quotedText, unescaped_flatMap, String.ofList_toList]
  refine ⟨fun value => ?_, fun one other same => ?_⟩
  · exact ⟨quotedText value, Text.byteSize (quotedText value).toList, rfl, rfl,
      tokenize_single (.string _) (proper_quotedText value) rfl, denotes value⟩
  · have texts : quotedText one = quotedText other := Expr.Node.literal.inj same
    rw [← denotes one, texts, denotes other]

end Expr.Node

end GoSpecs
