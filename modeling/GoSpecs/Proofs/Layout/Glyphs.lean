import GoSpecs.Layout.Text
import GoSpecs.Proofs.Token.Longest
import GoSpecs.Text.Blank
import GoSpecs.Token.Stream

namespace GoSpecs

open Token

inductive Glyph where
  | token (sign : Token)
  | comment (text : String)
  | gap
  | line
deriving DecidableEq

namespace Glyph

def mark (sign : Mark) : Glyph := .token (.mark sign)

def keyword (word : Keyword) : Glyph := .token (.keyword word)

def name (text : String) : Glyph := .token (.ident text)

def gapIf (test : Bool) : List Glyph :=
  if test then [.gap] else []

/-- The texts that a glyph may have. A comment may lose the blanks at its end. -/
def Shows : Glyph → String → Prop
  | .token sign, text => text = sign.text
  | .comment whole, text => text = whole ∨ text = Text.trimEnd whole
  | .gap, text => ∃ count, text = Layout.blanks (count + 1)
  | .line, text => ∃ more, text = "\n" ++ more ∧ ∀ c ∈ more.toList, c = '\n' ∨ c = '\t'

def Proper : Glyph → Prop
  | .token sign => sign.Proper ∧ sign.isComment = false ∧ sign.text ≠ ""
  | .comment text => IsComment text
  | _ => True

theorem proper_mark (sign : Mark) : (mark sign).Proper := by
  refine ⟨Token.proper_mark sign, rfl, ?_⟩
  cases sign <;> decide

def firstChar? : List Glyph → Option Char
  | [] => none
  | .token sign :: _ => sign.text.toList.head?
  | .comment _ :: _ => some '/'
  | .gap :: _ => some ' '
  | .line :: _ => some '\n'

/-- No token runs on into what follows it, and a line comment has the rest of its line. -/
def areApart : List Glyph → Bool
  | [] => true
  | .token sign :: glyphs => (firstChar? glyphs).all (!sign.goesOn ·) && areApart glyphs
  | .comment text :: glyphs =>
    (!isLineComment text || (firstChar? glyphs).all (· == '\n')) && areApart glyphs
  | _ :: glyphs => areApart glyphs

def lineEnd (ends : Bool) : List Token :=
  if ends then [.semicolon true] else []

/-- The tokens that the glyphs are read as. `ends` tells whether the last token before them can end
a statement. -/
def tokens (ends : Bool) : List Glyph → List Token
  | [] => lineEnd ends
  | .token sign :: glyphs => sign :: tokens sign.endsStatement glyphs
  | .comment text :: glyphs =>
    if Layout.hasNewline text then lineEnd ends ++ tokens false glyphs else tokens ends glyphs
  | .gap :: glyphs => tokens ends glyphs
  | .line :: glyphs => lineEnd ends ++ tokens false glyphs

def comments : List Glyph → List String
  | [] => []
  | .comment text :: glyphs => text :: comments glyphs
  | _ :: glyphs => comments glyphs

end Glyph

inductive Spells : String → List Glyph → Prop
  | nil : Spells "" []
  | cons {glyph : Glyph} {glyphs : List Glyph} {text rest : String} (shows : glyph.Shows text)
      (spells : Spells rest glyphs) : Spells (text ++ rest) (glyph :: glyphs)

namespace Spells

theorem append {left right : String} {first second : List Glyph} (one : Spells left first)
    (two : Spells right second) : Spells (left ++ right) (first ++ second) := by
  induction one with
  | nil => simpa using two
  | cons shows _ ih =>
    rw [String.append_assoc]
    exact .cons shows ih

theorem single {glyph : Glyph} {text : String} (shows : glyph.Shows text) : Spells text [glyph] := by
  have spells := Spells.cons shows .nil
  rwa [String.append_empty] at spells

theorem ofToken (sign : Token) : Spells sign.text [.token sign] :=
  single rfl

theorem mark (sign : Mark) : Spells sign.text [Glyph.mark sign] :=
  ofToken (.mark sign)

theorem name (text : String) : Spells text [Glyph.name text] :=
  ofToken (.ident text)

theorem gapIf (test : Prop) [Decidable test] : Spells (if test then " " else "") (Glyph.gapIf test) := by
  by_cases given : test
  · simpa [Glyph.gapIf, given] using single (show Glyph.gap.Shows " " from ⟨0, rfl⟩)
  · simpa [Glyph.gapIf, given] using Spells.nil

end Spells

namespace Lexeme

def significant (lexemes : List Lexeme) : List Token :=
  (lexemes.filter (!·.token.isComment)).map (·.token)

def commentTexts (lexemes : List Lexeme) : List String :=
  (lexemes.filter (·.token.isComment)).map (·.token.text)

variable {token : Token} {start stop : Nat} {lexemes : List Lexeme}

theorem significant_plain (plain : token.isComment = false) :
    significant (⟨token, start, stop⟩ :: lexemes) = token :: significant lexemes := by
  simp [significant, plain]

theorem commentTexts_plain (plain : token.isComment = false) :
    commentTexts (⟨token, start, stop⟩ :: lexemes) = commentTexts lexemes := by
  simp [commentTexts, plain]

theorem significant_comment (comment : token.isComment = true) :
    significant (⟨token, start, stop⟩ :: lexemes) = significant lexemes := by
  simp [significant, comment]

theorem commentTexts_comment (comment : token.isComment = true) :
    commentTexts (⟨token, start, stop⟩ :: lexemes) = token.text :: commentTexts lexemes := by
  simp [commentTexts, comment]

theorem significant_inserted (ends : Bool) :
    significant (inserted ends start stop ++ lexemes) = Glyph.lineEnd ends ++ significant lexemes := by
  cases ends <;> rfl

theorem commentTexts_inserted (ends : Bool) :
    commentTexts (inserted ends start stop ++ lexemes) = commentTexts lexemes := by
  cases ends <;> rfl

end Lexeme

/-- The characters are read as tokens, which depend on the token before, and comments, up to the
blanks at their ends. -/
def Lexes (chars : List Char) (tokens : Bool → List Token) (comments : List String) : Prop :=
  ∀ fuel offset, chars.length ≤ fuel → ∃ pieces, Piece.split fuel offset chars = .ok pieces ∧
    ∀ size ends, Lexeme.significant (Lexeme.ofPieces size ends pieces) = tokens ends ∧
      (Lexeme.commentTexts (Lexeme.ofPieces size ends pieces)).map Text.trimEnd =
        comments.map Text.trimEnd

namespace Lexes

variable {chars rest : List Char} {tokens : Bool → List Token} {comments : List String}

theorem nil : Lexes [] Glyph.lineEnd [] := by
  intro fuel offset _
  refine ⟨[], by cases fuel <;> rfl, ?_⟩
  intro size ends
  cases ends <;> exact ⟨rfl, rfl⟩

theorem split_piece {text : List Char} {piece : Piece} {fuel : Nat} (offset : Nat)
    (found : Piece.first (text ++ rest) = .ok (piece, text.length)) (filled : text ≠ [])
    (enough : (text ++ rest).length ≤ fuel) (lexes : Lexes rest tokens comments) :
    ∃ pieces stop, Piece.split fuel offset (text ++ rest) = .ok (⟨piece, offset, stop⟩ :: pieces) ∧
      ∀ size ends, Lexeme.significant (Lexeme.ofPieces size ends pieces) = tokens ends ∧
        (Lexeme.commentTexts (Lexeme.ofPieces size ends pieces)).map Text.trimEnd =
          comments.map Text.trimEnd := by
  obtain ⟨c, text, rfl⟩ := List.exists_cons_of_ne_nil filled
  cases fuel with
  | zero => simp at enough
  | succ fuel =>
    simp only [List.cons_append, List.length_cons, List.length_append] at enough
    obtain ⟨pieces, split, reads⟩ := lexes fuel (offset + Text.byteSize (c :: text)) (by omega)
    refine ⟨pieces, offset + Text.byteSize (c :: text), ?_, reads⟩
    have cut : (c :: (text ++ rest)).take (c :: text).length = c :: text := by
      rw [← List.cons_append, List.take_left]
    have dropped : (c :: (text ++ rest)).drop (c :: text).length = rest := by
      rw [← List.cons_append, List.drop_left]
    rw [List.cons_append] at found ⊢
    unfold Piece.split
    rw [found]
    simp only [cut, dropped, split]
    rfl

theorem blank {c : Char} (skipped : Piece.isSkipped c = true) (lexes : Lexes rest tokens comments) :
    Lexes (c :: rest) tokens comments := by
  intro fuel offset enough
  have found : Piece.first ([c] ++ rest) = .ok (.blank, [c].length) := by simp [Piece.first, skipped]
  obtain ⟨pieces, stop, split, reads⟩ := split_piece offset found (by simp) enough lexes
  exact ⟨_, split, reads⟩

theorem newline (lexes : Lexes rest tokens comments) :
    Lexes ('\n' :: rest) (fun ends => Glyph.lineEnd ends ++ tokens false) comments := by
  intro fuel offset enough
  have found : Piece.first (['\n'] ++ rest) = .ok (.newline, ['\n'].length) := rfl
  obtain ⟨pieces, stop, split, reads⟩ := split_piece offset found (by simp) enough lexes
  refine ⟨_, split, ?_⟩
  intro size ends
  obtain ⟨same, kept⟩ := reads size false
  rw [Lexeme.ofPieces, Lexeme.significant_inserted, Lexeme.commentTexts_inserted]
  exact ⟨by rw [same], kept⟩

theorem token {sign : Token} (proper : sign.Proper) (plain : sign.isComment = false)
    (filled : sign.text ≠ "") (stops : Stops sign.goesOn rest) (lexes : Lexes rest tokens comments) :
    Lexes (sign.text.toList ++ rest) (fun _ => sign :: tokens sign.endsStatement) comments := by
  intro fuel offset enough
  have filled : sign.text.toList ≠ [] := by simpa using filled
  obtain ⟨pieces, stop, split, reads⟩ :=
    split_piece offset (proper rest stops) filled enough lexes
  refine ⟨_, split, ?_⟩
  intro size ends
  obtain ⟨same, kept⟩ := reads size sign.endsStatement
  have step : Lexeme.ofPieces size ends (⟨.token sign, offset, stop⟩ :: pieces) =
      ⟨sign, offset, stop⟩ :: Lexeme.ofPieces size sign.endsStatement pieces := by
    cases sign <;> first | rfl | cases plain
  rw [step, Lexeme.significant_plain plain, Lexeme.commentTexts_plain plain, same]
  exact ⟨rfl, kept⟩

theorem lineComment {text : String} (proper : (Token.lineComment text).Proper) (filled : text ≠ "")
    (stops : Stops (· != '\n') rest) (lexes : Lexes rest tokens comments) :
    Lexes (text.toList ++ rest) tokens (text :: comments) := by
  intro fuel offset enough
  have filled : text.toList ≠ [] := by simpa using filled
  obtain ⟨pieces, stop, split, reads⟩ :=
    split_piece offset (proper rest stops) filled enough lexes
  refine ⟨_, split, ?_⟩
  intro size ends
  obtain ⟨same, kept⟩ := reads size ends
  rw [Lexeme.ofPieces, Lexeme.significant_comment rfl, Lexeme.commentTexts_comment rfl]
  exact ⟨same, by rw [List.map_cons, kept]; rfl⟩

theorem blockComment {text : String} (proper : (Token.blockComment text).Proper) (filled : text ≠ "")
    (lexes : Lexes rest tokens comments) :
    Lexes (text.toList ++ rest)
      (fun ends => if Layout.hasNewline text then Glyph.lineEnd ends ++ tokens false else tokens ends)
      (text :: comments) := by
  intro fuel offset enough
  have filled : text.toList ≠ [] := by simpa using filled
  obtain ⟨pieces, stop, split, reads⟩ :=
    split_piece offset (proper rest (fun _ _ => rfl)) filled enough lexes
  refine ⟨_, split, ?_⟩
  intro size ends
  simp only [Lexeme.ofPieces]
  by_cases broken : text.toList.contains '\n' = true
  · obtain ⟨same, kept⟩ := reads size false
    rw [if_pos broken, if_pos (show Layout.hasNewline text = true from broken),
      Lexeme.significant_inserted, Lexeme.commentTexts_inserted, Lexeme.significant_comment rfl,
      Lexeme.commentTexts_comment rfl]
    exact ⟨by rw [same], by rw [List.map_cons, kept]; rfl⟩
  · obtain ⟨same, kept⟩ := reads size ends
    rw [if_neg broken, if_neg (show ¬Layout.hasNewline text = true from broken),
      Lexeme.significant_comment rfl, Lexeme.commentTexts_comment rfl]
    exact ⟨same, by rw [List.map_cons, kept]; rfl⟩

end Lexes

theorem commentEnd?_getLast? {body : List Char} (closed : Piece.commentEnd? body = some body.length) :
    body.getLast? = some '/' := by
  fun_induction Piece.commentEnd? body with
  | case1 => cases closed
  | case2 tail =>
    cases tail with
    | nil => rfl
    | cons c tail => simp at closed
  | case3 c chars other ih =>
    obtain ⟨inner, inside, same⟩ := Option.map_eq_some_iff.mp closed
    have whole : Piece.commentEnd? chars = some chars.length := by
      rw [inside]
      simp only [List.length_cons] at same
      congr 1
      omega
    cases chars with
    | nil => cases inside
    | cons d chars => rw [List.getLast?_cons_cons, ih whole]

theorem trimEnd_of_getLast? {text : String} {c : Char} (last : text.toList.getLast? = some c)
    (solid : Text.isBlank c = false) : Text.trimEnd text = text := by
  unfold Text.trimEnd
  rw [List.getLast?_eq_head?_reverse] at last
  obtain ⟨more, same⟩ := List.head?_eq_some_iff.mp last
  rw [same, List.dropWhile_cons_of_neg (by simp [solid]), ← same, List.reverse_reverse,
    String.ofList_toList]

theorem trimEnd_lineComment {text : String} {body : List Char} (shape : text.toList = '/' :: '/' :: body) :
    ∃ kept, (Text.trimEnd text).toList = '/' :: '/' :: kept ∧ ∀ c ∈ kept, c ∈ body := by
  refine ⟨(body.reverse.dropWhile Text.isBlank).reverse, ?_, ?_⟩
  · unfold Text.trimEnd
    have solid : Text.isBlank '/' = false := by decide
    have stays : ∀ chars : List Char, (chars ++ ['/', '/']).dropWhile Text.isBlank =
        chars.dropWhile Text.isBlank ++ ['/', '/'] := by
      intro chars
      induction chars with
      | nil => simp [solid]
      | cons c chars ih =>
        rw [List.cons_append, List.dropWhile_cons, List.dropWhile_cons]
        split
        · exact ih
        · rfl
    rw [String.toList_ofList, shape]
    simp [stays]
  · intro c member
    have inside := (List.dropWhile_sublist Text.isBlank).mem (List.mem_reverse.mp member)
    exact List.mem_reverse.mp inside

theorem dropWhile_dropWhile {p : Char → Bool} (chars : List Char) :
    (chars.dropWhile p).dropWhile p = chars.dropWhile p := by
  induction chars with
  | nil => rfl
  | cons c chars ih =>
    by_cases test : p c = true
    · simp [test, ih]
    · simp [test]

theorem trimEnd_trimEnd (text : String) : Text.trimEnd (Text.trimEnd text) = Text.trimEnd text := by
  simp [Text.trimEnd, dropWhile_dropWhile]

theorem IsComment.trimEnd {text : String} (comment : IsComment text) :
    IsComment (Text.trimEnd text) ∧ isLineComment (Text.trimEnd text) = isLineComment text ∧
      Layout.hasNewline (Text.trimEnd text) = Layout.hasNewline text := by
  rcases comment with ⟨body, shape, oneLine⟩ | ⟨body, shape, closed⟩
  · obtain ⟨kept, trimmed, inside⟩ := trimEnd_lineComment shape
    have still : '\n' ∉ kept := fun member => oneLine (inside _ member)
    refine ⟨.inl ⟨kept, trimmed, still⟩, ?_, ?_⟩
    · simp [isLineComment, shape, trimmed]
    · simp [Layout.hasNewline, shape, trimmed, still, oneLine]
  · have last : text.toList.getLast? = some '/' := by
      have inner := commentEnd?_getLast? closed
      rw [shape]
      cases body with
      | nil => cases closed
      | cons c body => simpa using inner
    rw [trimEnd_of_getLast? last (by decide)]
    exact ⟨.inr ⟨body, shape, closed⟩, rfl, rfl⟩

theorem IsComment.ne_empty {text : String} (comment : IsComment text) : text ≠ "" := by
  rintro rfl
  rcases comment with ⟨body, shape, _⟩ | ⟨body, shape, _⟩ <;> cases shape

theorem IsComment.head? {text : String} (comment : IsComment text) : text.toList.head? = some '/' := by
  rcases comment with ⟨body, shape, _⟩ | ⟨body, shape, _⟩ <;> rw [shape] <;> rfl

theorem IsComment.of_shows {whole text : String} (comment : IsComment whole)
    (shows : (Glyph.comment whole).Shows text) :
    IsComment text ∧ isLineComment text = isLineComment whole ∧
      Layout.hasNewline text = Layout.hasNewline whole ∧ Text.trimEnd text = Text.trimEnd whole := by
  rcases shows with rfl | rfl
  · exact ⟨comment, rfl, rfl, rfl⟩
  · obtain ⟨still, line, newline⟩ := comment.trimEnd
    exact ⟨still, line, newline, trimEnd_trimEnd whole⟩

namespace Spells

open Glyph

theorem head?_append_of_filled {text : String} (filled : text ≠ "") (rest : List Char) :
    (text.toList ++ rest).head? = text.toList.head? := by
  cases shape : text.toList with
  | nil => exact absurd (String.toList_eq_nil_iff.mp shape) filled
  | cons c chars => rfl

theorem head? {text : String} {glyphs : List Glyph} (spells : Spells text glyphs)
    (proper : ∀ glyph ∈ glyphs, glyph.Proper) : text.toList.head? = firstChar? glyphs := by
  cases spells with
  | nil => rfl
  | @cons glyph glyphs text rest shows spells =>
    have own := proper glyph List.mem_cons_self
    rw [String.toList_append]
    cases glyph with
    | token sign =>
      obtain ⟨_, _, filled⟩ := own
      rw [show text = sign.text from shows, firstChar?, head?_append_of_filled filled]
    | comment whole =>
      obtain ⟨comment, _⟩ := IsComment.of_shows own shows
      rw [head?_append_of_filled comment.ne_empty, comment.head?]
      rfl
    | gap =>
      obtain ⟨count, rfl⟩ := shows
      simp [Layout.blanks, List.replicate_succ, firstChar?]
    | line =>
      obtain ⟨more, rfl, _⟩ := shows
      simp [firstChar?]

theorem lexes_lines {rest : List Char} {tokens : Bool → List Token} {comments : List String}
    (lexes : Lexes rest tokens comments) {more : List Char} (empty : ∀ c ∈ more, c = '\n' ∨ c = '\t') :
    ∃ later : Bool → List Token, Lexes (more ++ rest) later comments ∧ later false = tokens false := by
  induction more with
  | nil => exact ⟨tokens, lexes, rfl⟩
  | cons c more ih =>
    obtain ⟨later, found, same⟩ := ih fun d member => empty d (List.mem_cons_of_mem c member)
    rcases empty c List.mem_cons_self with rfl | rfl
    · exact ⟨_, found.newline, same⟩
    · exact ⟨later, found.blank rfl, same⟩

theorem lexes_comment {whole text : String} {rest : List Char} {tokens : Bool → List Token}
    {comments : List String} (comment : IsComment whole) (shows : (Glyph.comment whole).Shows text)
    (ends : isLineComment whole = true → Stops (· != '\n') rest) (lexes : Lexes rest tokens comments) :
    Lexes (text.toList ++ rest)
      (fun ends => if Layout.hasNewline whole then lineEnd ends ++ tokens false else tokens ends)
      (whole :: comments) := by
  obtain ⟨shown, sameKind, sameLine, sameText⟩ := IsComment.of_shows comment shows
  have found : Lexes (text.toList ++ rest)
      (fun ends => if Layout.hasNewline text then lineEnd ends ++ tokens false else tokens ends)
      (text :: comments) := by
    rcases shown with ⟨body, shape, oneLine⟩ | ⟨body, shape, closed⟩
    · have line : isLineComment whole = true := by
        rw [← sameKind]
        simp [isLineComment, shape]
      have inside : Layout.hasNewline text = false := by simp [Layout.hasNewline, shape, oneLine]
      have proper : (Token.lineComment text).Proper := by
        have whole : run (· != '\n') body = body.length := by
          refine run_of_all ?_
          intro c member
          simp only [bne_iff_ne]
          rintro rfl
          exact oneLine member
        have same : text = String.ofList ('/' :: '/' :: body) := by rw [← shape, String.ofList_toList]
        rw [same]
        exact proper_lineComment whole
      simpa [inside] using lexes.lineComment proper (by rintro rfl; cases shape) (ends line)
    · have proper : (Token.blockComment text).Proper := by
        have same : text = String.ofList ('/' :: '*' :: body) := by rw [← shape, String.ofList_toList]
        rw [same]
        exact proper_blockComment closed
      exact lexes.blockComment proper (by rintro rfl; cases shape)
  rw [sameLine] at found
  intro fuel offset enough
  obtain ⟨pieces, split, reads⟩ := found fuel offset enough
  refine ⟨pieces, split, ?_⟩
  intro size ends
  obtain ⟨same, kept⟩ := reads size ends
  exact ⟨same, by rw [kept, List.map_cons, List.map_cons, sameText]⟩

theorem lexes {text : String} {glyphs : List Glyph} (spells : Spells text glyphs)
    (proper : ∀ glyph ∈ glyphs, glyph.Proper) (apart : areApart glyphs = true) :
    Lexes text.toList (fun ends => tokens ends glyphs) (comments glyphs) := by
  induction spells with
  | nil => exact Lexes.nil
  | @cons glyph glyphs text rest shows spells ih =>
    have own := proper glyph List.mem_cons_self
    have others : ∀ glyph ∈ glyphs, glyph.Proper := fun other member =>
      proper other (List.mem_cons_of_mem glyph member)
    have next := spells.head? others
    rw [String.toList_append]
    cases glyph with
    | token sign =>
      obtain ⟨found, plain, filled⟩ := own
      simp only [areApart, Bool.and_eq_true] at apart
      have stops : Stops sign.goesOn rest.toList := by
        intro c member
        rw [next] at member
        have stop := apart.1
        rw [member] at stop
        simpa using stop
      rw [show text = sign.text from shows]
      exact (ih others apart.2).token found plain filled stops
    | comment whole =>
      simp only [areApart, Bool.and_eq_true, Bool.or_eq_true] at apart
      refine lexes_comment own shows ?_ (ih others apart.2)
      intro line c member
      rw [next] at member
      have stop := apart.1.resolve_left (by simp [line])
      rw [member] at stop
      simpa using stop
    | gap =>
      obtain ⟨count, rfl⟩ := shows
      have inner := ih others apart
      have all : ∀ count, Lexes ((Layout.blanks count).toList ++ rest.toList)
          (fun ends => tokens ends glyphs) (comments glyphs) := by
        intro count
        induction count with
        | zero => simpa [Layout.blanks] using inner
        | succ count ih => simpa [Layout.blanks, List.replicate_succ] using ih.blank (c := ' ') rfl
      exact all (count + 1)
    | line =>
      obtain ⟨more, rfl, empty⟩ := shows
      obtain ⟨later, found, same⟩ := lexes_lines (ih others apart) empty
      have whole := found.newline
      rw [same] at whole
      simpa [tokens, comments] using whole

theorem tokenizes {text : String} {glyphs : List Glyph} (spells : Spells text glyphs)
    (proper : ∀ glyph ∈ glyphs, glyph.Proper) (apart : areApart glyphs = true) :
    ∃ lexemes, tokenize text.toList = .ok lexemes ∧
      Lexeme.significant lexemes = Glyph.tokens false glyphs ∧
      (Lexeme.commentTexts lexemes).map Text.trimEnd = (Glyph.comments glyphs).map Text.trimEnd := by
  obtain ⟨pieces, split, reads⟩ := spells.lexes proper apart text.toList.length 0 (Nat.le_refl _)
  obtain ⟨same, kept⟩ := reads (Text.byteSize text.toList) false
  refine ⟨Lexeme.ofPieces (Text.byteSize text.toList) false pieces, ?_, same, kept⟩
  rw [tokenize, split]
  rfl

end Spells

end GoSpecs
