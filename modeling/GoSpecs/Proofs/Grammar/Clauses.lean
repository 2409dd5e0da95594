import GoSpecs.Proofs.Grammar.Comments
import GoSpecs.Workspace.Suite

namespace GoSpecs

open Token Piece

def IsIdentifier (text : String) : Prop :=
  ∃ c chars, text.toList = c :: chars ∧ startsName c = true ∧ ∀ d ∈ chars, continuesName d = true

theorem Token.isIdentifier_of_genuine {text : String} (genuine : (Token.ident text).Genuine) : IsIdentifier text := by
  have ends : Stops (Token.ident text).goesOn [] := by simp [Stops]
  have found := genuine.proper [] ends
  rw [List.append_nil] at found
  cases shape : text.toList with
  | nil =>
    have filled := Piece.filled_of_genuine genuine
    simp [Token.text, shape] at filled
  | cons c chars =>
    rw [show (Token.ident text).text = text from rfl, shape] at found
    refine ⟨c, chars, shape, ?_⟩
    generalize sign : Piece.token (.ident text) = piece at found
    generalize size : (c :: chars).length = length at found
    cases start_of_first found with
    | name starts =>
      have whole : run continuesName chars = chars.length := by
        rw [List.length_cons] at size
        omega
      exact ⟨starts, fun d here => run_all (by rwa [whole, List.take_length])⟩
    | closed _ ends =>
      cases sign
      have stops : continuesName 'a' = false := ends 'a'
      exact absurd stops (by decide)
    | comment comment =>
      cases sign
      cases comment
    | _ => cases sign

theorem continuesName_of_word {chars : List Char}
    (plain : (chars.all fun c => c.toNat < 128 && (c.isAlphanum || c == '_')) = true) {c : Char} (here : c ∈ chars) :
    continuesName c = true := by
  have own := List.all_eq_true.mp plain c here
  rw [Bool.and_eq_true, decide_eq_true_eq] at own
  rw [continuesName_of_ascii own.1, own.2]

namespace IsIdentifier

variable {text : String}

theorem continues (isName : IsIdentifier text) : ∀ c ∈ text.toList, continuesName c = true := by
  obtain ⟨c, chars, shape, starts, rest⟩ := isName
  rw [shape]
  intro d here
  obtain rfl | here := List.mem_cons.mp here
  · simp [continuesName, starts]
  · exact rest d here

theorem suffixed (isName : IsIdentifier text) : IsIdentifier (text ++ "_test") := by
  obtain ⟨c, chars, shape, starts, rest⟩ := isName
  refine ⟨c, chars ++ "_test".toList, by simp [shape], starts, ?_⟩
  intro d here
  obtain here | here := List.mem_append.mp here
  · exact rest d here
  · exact continuesName_of_word (by decide) here

theorem proper_word (isName : IsIdentifier text) : (word text).Proper := by
  obtain ⟨c, chars, shape, starts, rest⟩ := isName
  have same : text = String.ofList (c :: chars) := by rw [← shape, String.ofList_toList]
  rw [same]
  exact Token.proper_word starts (run_of_all rest)

end IsIdentifier

theorem word_of_notMem {text : String} {c : Char} (noKeyword : ∀ keyword : Keyword, c ∉ keyword.text.toList)
    (here : c ∈ text.toList) : word text = .ident text := by
  unfold word
  split
  · rename_i keyword found
    have same : keyword.text = text := by simpa using List.find?_some found
    exact (noKeyword keyword (same ▸ here)).elim
  · rfl

theorem word_of_underscore {text : String} (here : '_' ∈ text.toList) : word text = .ident text := by
  refine word_of_notMem ?_ here
  intro keyword
  cases keyword <;> decide

/-- Whatever the text goes on with, its first tokens are a package clause. -/
def Opens (chars : List Char) (name : String) : Prop :=
  ∀ pieces, Consists chars pieces → ∃ more, tokens false pieces = .keyword .package :: .ident name :: more

theorem consists_append {text rest : List Char} {piece : Piece} {pieces : List Piece}
    (found : first (text ++ rest) = .ok (piece, text.length)) (consists : Consists (text ++ rest) pieces) :
    ∃ pieces', pieces = piece :: pieces' ∧ Consists rest pieces' := by
  generalize whole : text ++ rest = chars at found consists
  cases consists with
  | nil => simp [first] at found
  | cons found' after =>
    rw [found] at found'
    cases found'
    rw [← whole, List.drop_left] at after
    exact ⟨_, rfl, after⟩

theorem stops_newline {test : Char → Bool} (stops : test '\n' = false) (rest : List Char) :
    Stops test ('\n' :: rest) := by
  intro c here
  obtain rfl : '\n' = c := by simpa using here
  exact stops

theorem IsComment.first {text : String} (comment : IsComment text) (rest : List Char) :
    ∃ sign : Token, sign.isComment = true ∧
      Piece.first (text.toList ++ '\n' :: rest) = .ok (.token sign, text.toList.length) := by
  have same : String.ofList text.toList = text := String.ofList_toList
  obtain ⟨body, shape, oneLine⟩ | ⟨body, shape, closed⟩ := comment
  · have whole : run (· != '\n') body = body.length := by
      refine run_of_all fun c here => ?_
      simp only [bne_iff_ne]
      rintro rfl
      exact oneLine here
    have found := proper_lineComment whole ('\n' :: rest) (stops_newline (by rfl) rest)
    rw [← shape, same] at found
    exact ⟨_, rfl, found⟩
  · have found := proper_blockComment closed ('\n' :: rest) (fun _ _ => rfl)
    rw [← shape, same] at found
    exact ⟨_, rfl, found⟩

namespace Opens

variable {chars : List Char} {name : String}

theorem newline (opens : Opens chars name) : Opens ('\n' :: chars) name := by
  intro pieces consists
  obtain ⟨pieces, rfl, after⟩ := @consists_append ['\n'] chars .newline _ rfl consists
  exact opens pieces after

theorem comment (opens : Opens chars name) {text : String} (comment : IsComment text) :
    Opens (text.toList ++ '\n' :: chars) name := by
  intro pieces consists
  obtain ⟨sign, isComment, found⟩ := comment.first chars
  obtain ⟨pieces, rfl, after⟩ := consists_append found consists
  have skipped : tokens false (.token sign :: pieces) = tokens false pieces := by
    cases sign with
    | lineComment _ => rfl
    | blockComment text =>
      rw [tokens]
      split <;> rfl
    | _ => cases isComment
  rw [skipped]
  exact opens.newline pieces after

theorem ofClause (proper : (Token.ident name).Proper) (rest : List Char) :
    Opens ("package ".toList ++ (name.toList ++ '\n' :: rest)) name := by
  intro pieces consists
  have newline : continuesName '\n' = false := by
    rw [continuesName_of_ascii (by decide)]
    decide
  have blank : Stops (Token.keyword .package).goesOn (' ' :: (name.toList ++ '\n' :: rest)) := by
    have stops : continuesName ' ' = false := by
      rw [continuesName_of_ascii (by decide)]
      decide
    intro c here
    obtain rfl : ' ' = c := by simpa using here
    exact stops
  have keyword : (word "package").Proper :=
    IsIdentifier.proper_word ⟨'p', "ackage".toList, by decide, rfl, fun _ => continuesName_of_word (by decide)⟩
  have split : "package ".toList ++ (name.toList ++ '\n' :: rest) =
      (Token.keyword .package).text.toList ++ ' ' :: (name.toList ++ '\n' :: rest) := rfl
  rw [split] at consists
  obtain ⟨_, rfl, second⟩ := consists_append (keyword _ blank) consists
  obtain ⟨_, rfl, third⟩ := @consists_append [' '] _ .blank _ rfl second
  obtain ⟨_, rfl, -⟩ := consists_append (proper _ (stops_newline newline rest)) third
  exact ⟨_, rfl⟩

theorem leading (opens : Opens chars name) {comments : List Comment}
    (all : ∀ comment ∈ comments, IsComment comment.text) (lines : Lines) (start : Option Nat) :
    Opens ((Layout.leadingComments lines 0 comments start).toList ++ chars) name := by
  have gap (test : Bool) {chars : List Char} (opens : Opens chars name) :
      Opens ((Layout.newlineIf test).toList ++ chars) name := by
    cases test with
    | false => exact opens
    | true => exact opens.newline
  have each (previous : Option Nat) {chars : List Char} (opens : Opens chars name) :
      Opens ((Layout.commentLines lines 0 previous comments).toList ++ chars) name := by
    induction comments generalizing previous with
    | nil => exact opens
    | cons comment comments ih =>
      have rest := ih (fun other here => all other (List.mem_cons_of_mem _ here)) comment.span.stop?
      have whole := gap (lines.blankBetween previous comment.span.start?)
        (rest.comment (all comment List.mem_cons_self))
      simpa [Layout.commentLines, Layout.tabs] using whole
  rw [Layout.leadingComments, String.toList_append, List.append_assoc]
  exact each none (gap _ opens)

end Opens

theorem significant_of_packageName {lexemes : List Lexeme} {name : String}
    (named : SourceFile.packageName lexemes = .ok name) :
    ∃ more, Lexeme.significant lexemes = .keyword .package :: .ident name :: more := by
  unfold SourceFile.packageName at named
  split at named
  · rename_i shape
    cases named
    exact ⟨_, by rw [Lexeme.significant, shape]; rfl⟩
  · cases named
  · cases named

theorem packageNameOf_eq_ok {source name : String} (named : packageNameOf source = .ok name) :
    ∃ lexemes more, tokenize source.toList = .ok lexemes ∧
      Lexeme.significant lexemes = .keyword .package :: .ident name :: more := by
  have run : packageNameOf source = ((tokenize source.toList).mapError .ofLexical).bind fun lexemes =>
      (SourceFile.packageName lexemes).mapError .ofSyntax := rfl
  rw [run] at named
  cases tokens : tokenize source.toList with
  | error fault =>
    rw [tokens] at named
    cases named
  | ok lexemes =>
    rw [tokens] at named
    cases found : SourceFile.packageName lexemes with
    | error fault =>
      simp only [Except.mapError, Except.bind, found] at named
      cases named
    | ok first =>
      simp only [Except.mapError, Except.bind, found] at named
      cases named
      obtain ⟨more, shape⟩ := significant_of_packageName found
      exact ⟨lexemes, more, rfl, shape⟩

theorem genuine_of_packageNameOf {source name : String} (named : packageNameOf source = .ok name) :
    (Token.ident name).Genuine := by
  obtain ⟨lexemes, more, tokens, shape⟩ := packageNameOf_eq_ok named
  have here : Token.ident name ∈ Lexeme.significant lexemes := by simp [shape]
  obtain ⟨lexeme, there, same⟩ := List.mem_map.mp here
  have genuine := genuine_of_mem_tokenize tokens (List.mem_filter.mp there).1 (by simp [same])
  rwa [same] at genuine

theorem Opens.packageNameOf {source name clause : String} (opens : Opens source.toList name)
    (named : packageNameOf source = .ok clause) : clause = name := by
  obtain ⟨lexemes, more, tokens, shape⟩ := packageNameOf_eq_ok named
  unfold tokenize at tokens
  cases split : Piece.split source.toList.length 0 source.toList with
  | error fault =>
    rw [split] at tokens
    cases tokens
  | ok pieces =>
    rw [split] at tokens
    cases tokens
    obtain ⟨more', opening⟩ := opens _ (consists_of_split (Nat.le_refl _) split)
    rw [significant_ofPieces, opening] at shape
    exact (Token.ident.inj (List.cons.inj (List.cons.inj shape).2).1).symm

theorem Suite.source_eq (conventions : Conventions) (package : String) :
    ∃ rest : List Char, (Suite.source conventions package).toList =
      "package ".toList ++ ((package ++ "_test").toList ++ '\n' :: rest) := by
  have head : "_test\n\nimport (\n\t. \"".toList = "_test".toList ++ '\n' :: "\nimport (\n\t. \"".toList := by decide
  unfold Suite.source
  simp only [String.toList_append, head, List.append_assoc, List.cons_append]
  exact ⟨_, rfl⟩

theorem Suite.packageNameOf_source {conventions : Conventions} {package clause : String}
    (isName : IsIdentifier (package ++ "_test"))
    (named : packageNameOf (Suite.source conventions package) = .ok clause) : clause = package ++ "_test" := by
  have proper : (Token.ident (package ++ "_test")).Proper := by
    rw [← word_of_underscore (by simp)]
    exact isName.proper_word
  refine Opens.packageNameOf ?_ named
  obtain ⟨rest, shape⟩ := source_eq conventions package
  rw [shape]
  exact Opens.ofClause proper rest

namespace SourceFile

theorem package_of_ofText {source name : String} {file : SourceFile} (parsed : ofText source = .ok file)
    (named : packageNameOf source = .ok name) : file.package = name := by
  obtain ⟨lexemes, more, tokens, shape⟩ := packageNameOf_eq_ok named
  obtain ⟨lexemes', tokens', parsed⟩ := ofText_eq_ok.mp parsed
  obtain rfl : lexemes = lexemes' := Except.ok.inj (tokens.symm.trans tokens')
  obtain ⟨after, read, noneLeft, -⟩ := read_ofLexemes parsed
  obtain ⟨words, split, kept⟩ := read.words fun token member => by
    rw [Cursor.words_ofLexemes, List.mem_filter, List.mem_map] at member
    obtain ⟨⟨lexeme, member, rfl⟩, isWord⟩ := member
    exact genuine_of_tokenize tokens member isWord
  have first : (lexemes.map (·.token)).filter Token.isWord = .ident name :: more.filter Token.isWord := by
    have plain : (lexemes.map (·.token)).filter Token.isWord = (Lexeme.significant lexemes).filter Token.isWord := by
      rw [Lexeme.significant, List.filter_map, List.filter_map, List.filter_filter]
      congr 2
      funext lexeme
      simp only [Function.comp]
      cases lexeme.token <;> rfl
    rw [plain, shape]
    rfl
  rw [Cursor.words_ofLexemes, noneLeft, List.append_nil, first] at split
  rw [← split, Part.ofFile, List.append_assoc, Part.words_append, Part.words_ofNotes, List.nil_append] at kept
  obtain ⟨same, -⟩ := List.forall₂_cons.mp kept
  exact Token.ident.inj same

theorem header_of_ofText {source : String} {file : SourceFile} (parsed : ofText source = .ok file) :
    ∀ comment ∈ file.header, IsComment comment.text := by
  obtain ⟨lexemes, tokens, parsed⟩ := ofText_eq_ok.mp parsed
  obtain ⟨after, read, -, noneLeft⟩ := read_ofLexemes parsed
  intro comment here
  have noted : comment ∈ Part.notes (Part.ofFile file) := by
    simp [Part.notes, Part.ofFile, Part.ofNotes, Part.note?, here]
  have among : comment ∈ lexemes.filterMap Lexeme.comment? := by
    have notes := read.notes
    rw [Cursor.comments_ofLexemes] at notes
    rw [← Multiset.mem_coe, notes]
    exact Multiset.mem_add.mpr (.inl noted)
  obtain ⟨lexeme, there, same⟩ := List.mem_filterMap.mp among
  unfold Lexeme.comment? at same
  split at same
  · rename_i isComment
    cases same
    have genuine := genuine_of_mem_tokenize tokens there fun semicolon => by
      simp [semicolon, Token.isComment] at isComment
    exact genuine.comment isComment
  · cases same

/-- A printed file has the clause of its tree. -/
theorem packageNameOf_render {file : SourceFile} {name : String}
    (header : ∀ comment ∈ file.header, IsComment comment.text) (isName : (Token.ident file.package).Proper)
    (named : packageNameOf file.render = .ok name) : name = file.package := by
  refine Opens.packageNameOf ?_ named
  have opens := (Opens.ofClause isName (Layout.itemLines file.lines file.trailing file.packageSpan.stop? none
    file.items).toList).leading header file.lines file.packageSpan.start?
  simpa [render] using opens

def remarkedClauses : String :=
  "package p\n\nfunc f() \x7b\n\tswitch x \x7b\n\tcase 1:\n\t\ty() /* a\nb */ case 2:\n\t\x7d\n\x7d\n"

/-- The package clause stays when a printed file is printed again, but the layout may not: the gap between two cases is
measured from the end of the first one's last statement, whatever comment stands behind it. -/
theorem render_remarkedClauses : ∃ file again, ofText remarkedClauses = .ok file ∧ ofText file.render = .ok again ∧
    again.package = file.package ∧ again.render ≠ file.render := by
  have checked : ((ofText remarkedClauses).toOption.bind fun file => (ofText file.render).toOption.map fun again =>
      (again.package == file.package, again.render == file.render)) = some (true, false) := by decide +kernel
  obtain ⟨file, parsed, found⟩ := Option.bind_eq_some_iff.mp checked
  obtain ⟨again, reparsed, same⟩ := Option.map_eq_some_iff.mp found
  obtain ⟨package, layout⟩ := Prod.mk.inj same
  exact ⟨file, again, eq_ok_of_toOption parsed, eq_ok_of_toOption reparsed, beq_iff_eq.mp package,
    beq_eq_false_iff_ne.mp layout⟩

end SourceFile

end GoSpecs
