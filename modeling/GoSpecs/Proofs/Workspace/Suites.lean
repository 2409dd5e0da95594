import GoSpecs.Proofs.Token.Written
import GoSpecs.Proofs.Workspace.OneDir

namespace GoSpecs

open Token Piece Glyph

namespace Text

theorem uppercase_of_ascii {c : Char} (ascii : c.toNat < 128) :
    uppercase c = if 97 ≤ c.toNat ∧ c.toNat ≤ 122 then [Char.ofNat (65 + (c.toNat - 97))] else [c] := by
  have long : longUppercase.lookup c.toNat = none := by
    have keys : longUppercase.all (128 ≤ ·.1) = true := by decide
    rw [List.lookup_eq_none_iff]
    intro entry here
    have own := List.all_eq_true.mp keys entry here
    rw [decide_eq_true_eq] at own
    rw [bne_iff_ne]
    omega
  have later : caseRuns.tail.findSome? (·.target? c.toNat) = none := by
    have firsts : caseRuns.tail.all (128 ≤ ·.first) = true := by decide
    rw [List.findSome?_eq_none_iff]
    intro run here
    have own := List.all_eq_true.mp firsts run here
    rw [decide_eq_true_eq] at own
    have above : ¬run.first ≤ c.toNat := by omega
    simp [CaseRun.target?, above]
  have runs : caseRuns = ⟨97, 122, 1, 65⟩ :: caseRuns.tail := rfl
  rw [uppercase, long, runs, List.findSome?_cons, later]
  by_cases lower : 97 ≤ c.toNat ∧ c.toNat ≤ 122
  · simp [CaseRun.target?, lower, Nat.mod_one]
  · have other : (decide (97 ≤ c.toNat) && decide (c.toNat ≤ 122)) = false := by simpa using lower
    simp [CaseRun.target?, lower, other]

theorem ascii_of_isAlphanum {c : Char} (letter : c.isAlphanum = true) : c.toNat < 128 := by
  unfold Char.isAlphanum Char.isAlpha Char.isUpper Char.isLower Char.isDigit at letter
  simp only [Bool.or_eq_true, Bool.and_eq_true, decide_eq_true_eq, UInt32.le_iff_toNat_le] at letter
  rcases letter with (upper | lower) | digit
  · have below : c.toNat ≤ 90 := upper.2
    omega
  · have below : c.toNat ≤ 122 := lower.2
    omega
  · have below : c.toNat ≤ 57 := digit.2
    omega

theorem isAlphanum_of_mem_uppercase {c d : Char} (letter : c.isAlphanum = true) (here : d ∈ uppercase c) :
    d.isAlphanum = true := by
  rw [uppercase_of_ascii (ascii_of_isAlphanum letter)] at here
  split at here
  · rename_i lower
    have capitals : ∀ place : Fin 26, (Char.ofNat (65 + place)).isAlphanum = true := by decide
    rw [List.mem_singleton.mp here]
    exact capitals ⟨c.toNat - 97, by omega⟩
  · rwa [List.mem_singleton.mp here]

end Text

def isAsciiIdentifier (text : String) : Bool :=
  match text.toList with
  | [] => false
  | c :: chars => (c.isAlpha || c == '_') && chars.all fun d => d.isAlphanum || d == '_'

theorem word_of_isAsciiIdentifier {text : String} (isName : isAsciiIdentifier text = true) :
    ∀ c ∈ text.toList, (c.isAlphanum || c == '_') = true := by
  unfold isAsciiIdentifier at isName
  split at isName
  · cases isName
  · rename_i first chars shape
    rw [shape]
    obtain ⟨starts, rest⟩ := Bool.and_eq_true_iff.mp isName
    intro c here
    rcases List.mem_cons.mp here with rfl | here
    · rw [Char.isAlphanum, Bool.or_right_comm, starts, Bool.true_or]
    · exact List.all_eq_true.mp rest c here

theorem ascii_of_word {c : Char} (word : (c.isAlphanum || c == '_') = true) : c.toNat < 128 := by
  rcases Bool.or_eq_true_iff.mp word with letter | underscore
  · exact Text.ascii_of_isAlphanum letter
  · rw [eq_of_beq underscore]
    decide

theorem isIdentifier_of_isAsciiIdentifier {text : String} (isName : isAsciiIdentifier text = true) :
    IsIdentifier text := by
  have words := word_of_isAsciiIdentifier isName
  unfold isAsciiIdentifier at isName
  split at isName
  · cases isName
  · rename_i first chars shape
    rw [shape] at words
    obtain ⟨starts, rest⟩ := Bool.and_eq_true_iff.mp isName
    refine ⟨first, chars, shape, ?_, fun c here => ?_⟩
    · rw [startsName_of_ascii (ascii_of_word (words first List.mem_cons_self)), starts]
    · have word := words c (List.mem_cons_of_mem first here)
      rw [continuesName_of_ascii (ascii_of_word word), word]

namespace Suite

theorem isAlphanum_of_mem_capitalize {part : List Char} (letters : ∀ c ∈ part, c.isAlphanum = true) {c : Char}
    (here : c ∈ (capitalize (String.ofList part)).toList) : c.isAlphanum = true := by
  rw [capitalize, String.toList_ofList] at here
  cases part with
  | nil => cases here
  | cons first rest =>
    rw [String.toList_ofList] at here
    rcases List.mem_append.mp here with here | here
    · exact Text.isAlphanum_of_mem_uppercase (letters first List.mem_cons_self) here
    · exact letters c (List.mem_cons_of_mem first here)

theorem isAlphanum_of_mem_title {package : String} (isName : isAsciiIdentifier package = true) {c : Char}
    (here : c ∈ (title package).toList) : c.isAlphanum = true := by
  rw [title, String.toList_join, Text.split, List.map_map] at here
  obtain ⟨chars, among, inside⟩ := List.mem_flatMap.mp here
  obtain ⟨part, known, rfl⟩ := List.mem_map.mp among
  refine isAlphanum_of_mem_capitalize (fun d own => ?_) inside
  obtain ⟨source, apart⟩ := Text.of_mem_splitList known d own
  have word := word_of_isAsciiIdentifier isName d source
  simp only [Bool.or_eq_false_iff] at apart
  rwa [apart.2, Bool.or_false] at word

end Suite

def Cursor.bare (tokens : List Token) : Cursor :=
  ⟨tokens.map (⟨·, 0, 0⟩), [], 0, 0, []⟩

namespace Suite

open GoSpecs.Parser

def importTokens : List Token :=
  [.keyword .import, .mark .lparen, .mark .dot, .string "\"github.com/onsi/ginkgo\"", .semicolon true, .mark .dot,
    .string "\"github.com/onsi/gomega\"", .semicolon true, .string "\"testing\"", .semicolon true, .mark .rparen,
    .semicolon true]

def testTokens (name label : String) : List Token :=
  [.keyword .func, .ident name, .mark .lparen, .ident "t", .mark .star, .ident "testing", .mark .dot, .ident "T",
    .mark .rparen, .mark .lbrace, .ident "RegisterFailHandler", .mark .lparen, .ident "Fail", .mark .rparen,
    .semicolon true, .ident "RunSpecs", .mark .lparen, .ident "t", .mark .comma, .string label, .mark .rparen,
    .semicolon true, .mark .rbrace, .semicolon true]

theorem item_imports (rules : Rules) (rest : List Token) :
    ∃ item, Rules.item rules (.bare (importTokens ++ rest)) = .ok (item, .bare (.semicolon true :: rest)) :=
  ⟨_, rfl⟩

theorem item_test (name label : String) (depth : Nat) :
    ∃ item, Rules.item (.ofDepth (depth + 4)) (.bare (testTokens name label)) =
      .ok (item, .bare [.semicolon true]) := by
  -- The rules look at the texts of no names or strings, so they run with the two unknown.
  have stops : (Rules.item (.ofDepth (depth + 4)) (.bare (testTokens name label))).toOption.map (·.2) =
      some (.bare [.semicolon true]) := rfl
  cases found : Rules.item (.ofDepth (depth + 4)) (.bare (testTokens name label)) with
  | error error =>
    rw [found] at stops
    cases stops
  | ok result =>
    rw [found] at stops
    exact ⟨result.1, by rw [← Option.some.inj stops]⟩

def itemRound (rules : Rules) (items : List Item) : Parser (Step (List Item) (List Item)) := do
  if (← peek).isNone then
    return .done items
  else if ← eatSemicolon then
    return .again items
  else
    let items := items ++ [← rules.item]
    lineEnd
    return .again items

variable {rules : Rules} {items : List Item} {fuel : Nat} {condition : List Item → Cursor → Prop}

theorem yields_items_nil :
    Yields False (iterate (itemRound rules) (fuel + 1) items) (.bare []) condition ↔ condition items (.bare []) := by
  simp [yields_iterate, itemRound, Cursor.peek, Cursor.bare]

theorem yields_items_cons {item : Item} {token : Token} {tokens rest : List Token} (opens : token.isSemicolon = false)
    (read : rules.item (.bare (token :: tokens)) = .ok (item, .bare (.semicolon true :: rest))) :
    Yields False (iterate (itemRound rules) (fuel + 1) items) (.bare (token :: tokens)) condition ↔
      Yields False (iterate (itemRound rules) fuel (items ++ [item])) (.bare rest) condition := by
  have next : (Cursor.bare (token :: tokens)).peek = some token := rfl
  have line : (lineEnd : Parser Unit) (.bare (.semicolon true :: rest)) = .ok ((), .bare rest) := rfl
  simp [yields_iterate, itemRound, next, Parser.isSemicolon, opens, yields_of_run read, yields_of_run line]

theorem exists_file {package : String} {one two : Item} {token next token' : Token} {tokens tokens' : List Token}
    (opens : token.isSemicolon = false) (opens' : token'.isSemicolon = false)
    (read : rules.item (.bare (token :: next :: tokens)) = .ok (one, .bare (.semicolon true :: token' :: tokens')))
    (read' : rules.item (.bare (token' :: tokens')) = .ok (two, .bare [.semicolon true])) :
    ∃ file after, rules.file
      (.bare (.keyword .package :: .ident package :: .semicolon true :: token :: next :: tokens)) =
        .ok (file, after) := by
  have fuel : (Cursor.bare (token :: next :: tokens)).rest.length + 1 = tokens.length + 3 := by simp [Cursor.bare]
  have yields : Yields False rules.items (.bare (token :: next :: tokens)) fun _ _ => True := by
    change Yields False (loop [] (itemRound rules)) _ _
    rw [yields_loop, fuel, yields_items_cons opens read, yields_items_cons opens' read', yields_items_nil]
    trivial
  obtain ⟨items, after, found, -⟩ := yields.exists_run
  have run : rules.file (.bare (.keyword .package :: .ident package :: .semicolon true :: token :: next :: tokens)) =
      (rules.items (.bare (token :: next :: tokens))).bind fun result =>
        .ok (⟨[], package, .range 0 0, result.1, result.2.comments, result.2.lines⟩,
          { result.2 with comments := [] }) := rfl
  rw [run, found]
  exact ⟨_, _, rfl⟩

theorem exists_parsed (package name label : String) (depth : Nat) :
    ∃ file after, Rules.file (.ofDepth (depth + 4))
      (.bare (.keyword .package :: .ident package :: .semicolon true :: (importTokens ++ testTokens name label))) =
        .ok (file, after) := by
  obtain ⟨imports, read⟩ := item_imports (.ofDepth (depth + 4)) (testTokens name label)
  obtain ⟨test, read'⟩ := item_test name label depth
  exact exists_file rfl rfl read read'

end Suite

namespace Glyph

def ofBlank (blank : String) : List Glyph :=
  if blank = "" then [] else if blank = " " then [.gap] else [.line]

def blankTexts : List String :=
  ["", " ", "\n", "\n\n", "\n\t", "\n\n\t"]

def followed (entries : List (Token × String)) : List Glyph :=
  entries.flatMap fun entry => .token entry.1 :: ofBlank entry.2

def joined : List (Token × String) → String
  | [] => ""
  | entry :: entries => entry.1.text ++ entry.2 ++ joined entries

theorem joined_append (front back : List (Token × String)) : joined (front ++ back) = joined front ++ joined back := by
  induction front with
  | nil => simp [joined]
  | cons entry front ih => simp only [List.cons_append, joined, ih, String.append_assoc]

theorem spells_ofBlank {blank : String} (among : blank ∈ blankTexts) : Spells blank (ofBlank blank) := by
  have line (more : String) (empty : more.toList.all (fun c => c == '\n' || c == '\t') = true) :
      Spells ("\n" ++ more) [.line] :=
    .single ⟨more, rfl, by simpa using empty⟩
  simp only [blankTexts, List.mem_cons, List.not_mem_nil, or_false] at among
  rcases among with rfl | rfl | rfl | rfl | rfl | rfl
  · exact .nil
  · exact .single ⟨0, rfl⟩
  · exact line "" (by decide)
  · exact line "\n" (by decide)
  · exact line "\t" (by decide)
  · exact line "\n\t" (by decide)

theorem spells_followed {entries : List (Token × String)} (blanks : ∀ entry ∈ entries, entry.2 ∈ blankTexts) :
    Spells (joined entries) (followed entries) := by
  induction entries with
  | nil => exact .nil
  | cons entry entries ih =>
    obtain ⟨own, others⟩ := List.forall_mem_cons.mp blanks
    rw [joined, String.append_assoc]
    exact .cons rfl ((spells_ofBlank own).append (ih others))

theorem proper_followed {entries : List (Token × String)} (proper : ∀ entry ∈ entries, (Glyph.token entry.1).Proper) :
    ∀ glyph ∈ followed entries, glyph.Proper := by
  intro glyph here
  obtain ⟨entry, among, here⟩ := List.mem_flatMap.mp here
  rcases List.mem_cons.mp here with rfl | here
  · exact proper entry among
  · unfold ofBlank at here
    split at here
    · cases here
    · split at here <;> rw [List.mem_singleton.mp here] <;> trivial

theorem proper_word {text : String} (isName : IsIdentifier text) : (Glyph.token (word text)).Proper := by
  refine ⟨isName.proper_word, isComment_word text, ?_⟩
  obtain ⟨c, chars, shape, -⟩ := isName
  rw [text_word]
  rintro rfl
  cases shape

theorem proper_keyword (word : Keyword) : (Glyph.keyword word).Proper := by
  have same : Piece.word word.text = .keyword word := by cases word <;> rfl
  have isName : isAsciiIdentifier word.text = true := by cases word <;> decide
  have proper := proper_word (isIdentifier_of_isAsciiIdentifier isName)
  rwa [same] at proper

def isPlain (c : Char) : Bool :=
  c != '"' && c != '\\' && c != '\n' && c != '\t'

theorem proper_string {value : String} (plain : value.toList.all isPlain = true) :
    (Glyph.token (.string ("\"" ++ value ++ "\""))).Proper := by
  have chars : value.toList.flatMap Expr.Node.escapedChar = value.toList := by
    generalize value.toList = chars at plain
    induction chars with
    | nil => rfl
    | cons c chars ih =>
      obtain ⟨own, others⟩ := Bool.and_eq_true_iff.mp plain
      rw [List.flatMap_cons, Expr.Node.escapedChar_plain (by simpa [isPlain, and_assoc] using own), ih others,
        List.singleton_append]
  have same : "\"" ++ value ++ "\"" = Expr.Node.quotedText value := by
    apply String.toList_inj.mp
    simp [Expr.Node.quotedText, chars]
  rw [same]
  refine ⟨Expr.Node.proper_quotedText value, rfl, ?_⟩
  simp [Token.text, Expr.Node.quotedText]

def isSimple : Token → Bool
  | .keyword _ => true
  | .mark _ => true
  | .ident text => isAsciiIdentifier text && word text == .ident text
  | .string text =>
    text == "\"" ++ String.ofList (Expr.Node.body text) ++ "\"" && (Expr.Node.body text).all isPlain
  | _ => false

theorem proper_of_isSimple {sign : Token} (simple : isSimple sign = true) : (Glyph.token sign).Proper := by
  cases sign with
  | keyword word => exact proper_keyword word
  | mark sign => exact proper_mark sign
  | ident text =>
    simp only [isSimple, Bool.and_eq_true, beq_iff_eq] at simple
    rw [← simple.2]
    exact proper_word (isIdentifier_of_isAsciiIdentifier simple.1)
  | string text =>
    simp only [isSimple, Bool.and_eq_true, beq_iff_eq] at simple
    rw [simple.1]
    exact proper_string (by rw [String.toList_ofList]; exact simple.2)
  | _ => cases simple

end Glyph

namespace Suite

def importEntries : List (Token × String) :=
  [(.keyword .import, " "), (.mark .lparen, "\n\t"), (.mark .dot, " "),
    (.string "\"github.com/onsi/ginkgo\"", "\n\t"), (.mark .dot, " "),
    (.string "\"github.com/onsi/gomega\"", "\n\n\t"), (.string "\"testing\"", "\n"), (.mark .rparen, "\n\n"),
    (.keyword .func, " ")]

def bodyEntries : List (Token × String) :=
  [(.mark .lparen, ""), (.ident "t", " "), (.mark .star, ""), (.ident "testing", ""), (.mark .dot, ""),
    (.ident "T", ""), (.mark .rparen, " "), (.mark .lbrace, "\n\t"), (.ident "RegisterFailHandler", ""),
    (.mark .lparen, ""), (.ident "Fail", ""), (.mark .rparen, "\n\t"), (.ident "RunSpecs", ""), (.mark .lparen, ""),
    (.ident "t", ""), (.mark .comma, " ")]

def endEntries : List (Token × String) :=
  [(.mark .rparen, "\n"), (.mark .rbrace, "\n")]

def testName (package : String) : String :=
  "Test" ++ title package

def label (package : String) : String :=
  "\"" ++ (title package ++ " Suite") ++ "\""

def entries (package : String) : List (Token × String) :=
  (.keyword .package, " ") :: (.ident (package ++ "_test"), "\n\n") :: (importEntries ++
    (.ident (testName package), "") :: (bodyEntries ++ (.string (label package), "") :: endEntries))

theorem source_entries (package : String) : source .ginkgo package = joined (entries package) := by
  have regroup (a b c d e f g h i j k : String) : a ++ b ++ c ++ d ++ e ++ f ++ g ++ h ++ i ++ j ++ k =
      a ++ b ++ (c ++ d ++ e ++ f ++ g) ++ h ++ i ++ j ++ k := by
    simp only [String.append_assoc]
  have imports : "_test\n\nimport (\n\t. \"" ++ Conventions.ginkgo.bddPath ++
      "\"\n\t. \"github.com/onsi/gomega\"\n\n\t\"" ++ Conventions.ginkgo.testingPath ++ "\"\n)\n\nfunc Test" =
      "_test" ++ "\n\n" ++ joined importEntries ++ "Test" := by rfl
  have body : "(t *testing.T) \x7b\n\tRegisterFailHandler(Fail)\n\tRunSpecs(t, \"" = joined bodyEntries ++ "\"" := by
    rfl
  have rest : " Suite\")\n\x7d\n" = " Suite" ++ "\"" ++ joined endEntries := by rfl
  have clause : "package " = (Token.keyword .package).text ++ " " := by rfl
  unfold source
  rw [regroup, imports, body, rest, clause, entries, joined, joined, joined_append, joined, joined_append, joined]
  simp only [Token.text, testName, label, String.append_assoc, String.append_empty]

theorem tokens_entries (package : String) :
    Glyph.tokens false (followed (entries package)) =
      .keyword .package :: .ident (package ++ "_test") :: .semicolon true ::
        (importTokens ++ testTokens (testName package) (label package)) :=
  rfl

theorem areApart_entries (package : String) : areApart (followed (entries package)) = true := by
  have words : ∀ c ∈ ['\n', ' ', '(', ')', '.', ','], continuesName c = false := by
    intro c here
    have other : ['\n', ' ', '(', ')', '.', ','].all
      (fun c => c.toNat < 128 && !(c.isAlphanum || c == '_')) = true := by
      decide
    have ascii := Bool.and_eq_true_iff.mp (List.all_eq_true.mp other c here)
    have noPart : (c.isAlphanum || c == '_') = false := by simpa using ascii.2
    rw [continuesName_of_ascii (of_decide_eq_true ascii.1), noPart]
  have marks : Mark.goesOn .lparen '\n' = false ∧ Mark.goesOn .lparen 't' = false ∧ Mark.goesOn .lparen 'F' = false ∧
      Mark.goesOn .rparen '\n' = false ∧ Mark.goesOn .rparen ' ' = false ∧ Mark.goesOn .dot ' ' = false ∧
      Mark.goesOn .dot 'T' = false ∧ Mark.goesOn .star 't' = false ∧ Mark.goesOn .lbrace '\n' = false ∧
      Mark.goesOn .comma ' ' = false ∧ Mark.goesOn .rbrace '\n' = false := by
    decide
  have heads : (Token.mark .lparen).text.toList.head? = some '(' ∧ (Token.mark .rparen).text.toList.head? = some ')' ∧
      (Token.mark .dot).text.toList.head? = some '.' ∧ (Token.mark .comma).text.toList.head? = some ',' ∧
      (Token.ident "t").text.toList.head? = some 't' ∧ (Token.ident "testing").text.toList.head? = some 't' ∧
      (Token.ident "T").text.toList.head? = some 'T' ∧ (Token.ident "Fail").text.toList.head? = some 'F' := by
    decide
  simp [followed, entries, importEntries, bodyEntries, endEntries, ofBlank, areApart, firstChar?, Token.goesOn, words,
    marks, heads]

theorem proper_testName {package : String} (isName : isAsciiIdentifier package = true) :
    (Glyph.name (testName package)).Proper := by
  have ident : word (testName package) = .ident (testName package) := by
    refine word_of_notMem (fun keyword => ?_) (show 'T' ∈ _ by simp [testName])
    cases keyword <;> decide
  have goes : ∀ c ∈ "est".toList ++ (title package).toList, continuesName c = true := by
    intro c here
    rcases List.mem_append.mp here with here | here
    · exact continuesName_of_word (by decide) here
    · have letter := isAlphanum_of_mem_title isName here
      rw [continuesName_of_ascii (Text.ascii_of_isAlphanum letter), letter, Bool.true_or]
  have starts : startsName 'T' = true := by
    rw [startsName_of_ascii (by decide)]
    decide
  have isName : IsIdentifier (testName package) :=
    ⟨'T', "est".toList ++ (title package).toList, by simp [testName], starts, goes⟩
  have proper := proper_word isName
  rwa [ident] at proper

theorem proper_label {package : String} (isName : isAsciiIdentifier package = true) :
    (Glyph.token (.string (label package))).Proper := by
  have words : ∀ c ∈ (title package).toList, isPlain c = true := by
    intro c here
    have letter := isAlphanum_of_mem_title isName here
    have marks : ['"', '\\', '\n', '\t'].all (fun d => !d.isAlphanum) = true := by decide
    have apart (d : Char) (among : d ∈ ['"', '\\', '\n', '\t']) : c ≠ d := by
      rintro rfl
      simpa [letter] using List.all_eq_true.mp marks c among
    simp [isPlain, apart]
  have rest : " Suite".toList.all isPlain = true := by decide
  refine proper_string ?_
  rw [String.toList_append, List.all_append, rest, Bool.and_true]
  exact List.all_eq_true.mpr words

theorem blanks_entries (package : String) : ∀ entry ∈ entries package, entry.2 ∈ blankTexts := by
  simp only [entries, List.forall_mem_cons, List.forall_mem_append]
  decide

theorem proper_entries {package : String} (isName : isAsciiIdentifier package = true) :
    ∀ entry ∈ entries package, (Glyph.token entry.1).Proper := by
  have clause : (Glyph.name (package ++ "_test")).Proper := by
    have proper := proper_word (isIdentifier_of_isAsciiIdentifier isName).suffixed
    rwa [word_of_underscore (by simp)] at proper
  have fixed : ∀ entry ∈ importEntries ++ bodyEntries ++ endEntries, (Glyph.token entry.1).Proper := by
    have simple : ∀ entry ∈ importEntries ++ bodyEntries ++ endEntries, isSimple entry.1 = true := by decide
    exact fun entry here => proper_of_isSimple (simple entry here)
  simp only [List.forall_mem_append] at fixed
  simp only [entries, List.forall_mem_cons, List.forall_mem_append]
  exact ⟨proper_keyword .package, clause, fixed.1.1, proper_testName isName, fixed.1.2, proper_label isName, fixed.2⟩

theorem tokenize_source {package : String} (isName : isAsciiIdentifier package = true) :
    ∃ lexemes, tokenize (source .ginkgo package).toList = .ok lexemes ∧
      Lexeme.significant lexemes = .keyword .package :: .ident (package ++ "_test") :: .semicolon true ::
        (importTokens ++ testTokens (testName package) (label package)) := by
  have spells : Spells (source .ginkgo package) (followed (entries package)) := by
    rw [source_entries]
    exact spells_followed (blanks_entries package)
  obtain ⟨lexemes, found, same, -⟩ :=
    spells.tokenizes (proper_followed (proper_entries isName)) (areApart_entries package)
  exact ⟨lexemes, found, same.trans (tokens_entries package)⟩

theorem ofText_source {package : String} (isName : isAsciiIdentifier package = true) :
    ∃ file, SourceFile.ofText (source .ginkgo package) = .ok file := by
  obtain ⟨lexemes, found, same⟩ := tokenize_source isName
  obtain ⟨bare, after, read⟩ := exists_parsed (package ++ "_test") (testName package) (label package) 36
  generalize plain : Token.keyword .package :: .ident (package ++ "_test") :: .semicolon true ::
    (importTokens ++ testTokens (testName package) (label package)) = tokens at same read
  have count : tokens.length = 39 := by rw [← plain]; rfl
  have parsed : SourceFile.ofLexemes [] (tokens.map (⟨·, 0, 0⟩)) = .ok bare := by
    have cursor : Cursor.ofLexemes (tokens.map (⟨·, 0, 0⟩)) [] = .bare tokens := by
      rw [← plain]
      rfl
    rw [SourceFile.ofLexemes, cursor, List.length_map, count, StateT.run', read]
    rfl
  have twins := SourceFile.twins_ofLexemes (source .ginkgo package).toList []
    (show Lexeme.significant lexemes = Lexeme.significant (tokens.map (⟨·, 0, 0⟩)) by rw [same, ← plain]; rfl)
  rw [parsed] at twins
  cases outcome : SourceFile.ofLexemes (source .ginkgo package).toList lexemes with
  | error error =>
    rw [outcome] at twins
    cases twins
  | ok file => exact ⟨file, SourceFile.ofText_eq_ok.mpr ⟨lexemes, found, outcome⟩⟩

theorem packageNameOf_suite {package : String} (isName : isAsciiIdentifier package = true) :
    packageNameOf (source .ginkgo package) = .ok (package ++ "_test") := by
  obtain ⟨lexemes, found, same⟩ := tokenize_source isName
  have run : packageNameOf (source .ginkgo package) =
      ((tokenize (source .ginkgo package).toList).mapError .ofLexical).bind fun lexemes =>
        (SourceFile.packageName lexemes).mapError .ofSyntax := rfl
  have named : SourceFile.packageName lexemes = .ok (package ++ "_test") := by
    obtain ⟨one, others, shape, first, rest⟩ := List.map_eq_cons_iff.mp same
    obtain ⟨two, others, rfl, second, -⟩ := List.map_eq_cons_iff.mp rest
    obtain ⟨sign, start, stop⟩ := one
    obtain ⟨sign', start', stop'⟩ := two
    obtain rfl : sign = .keyword .package := first
    obtain rfl : sign' = .ident (package ++ "_test") := second
    rw [SourceFile.packageName, shape]
  rw [run, found]
  simp only [Except.mapError, Except.bind, named]

end Suite

namespace Package

theorem yields_load_suite {host : Host} {disk : Disk} {dir : Bytes} {package : String}
    {entries : List (Bytes × DiskNode)}
    (isName : isAsciiIdentifier package = true) (listed : disk.list host.cwd dir = .ok entries)
    (only : (entries.filter Disk.isSource).map (·.1) = [Conventions.suiteName package])
    (read : disk.readText host.cwd (Path.join dir (Conventions.suiteName package)) =
      .ok (Suite.source .ginkgo package)) :
    Job.Yields (load host .ginkgo dir) disk (some ⟨dir, package, []⟩) disk := by
  have isFile := isName_suiteFileName (isIdentifier_of_isAsciiIdentifier isName).suffixed
  have filled : dir ≠ [] := by
    obtain ⟨place, located, -⟩ | ⟨-, rfl⟩ := Disk.list_eq_ok listed
    · exact (Disk.leads_of_locate located).filled
    · cases only
  have files : (entries.filter Disk.isSource).map (Path.join dir ·.1) =
      [Path.join dir (Conventions.suiteName package)] := by
    have mapped := congrArg (List.map (Path.join dir)) only
    rwa [List.map_map] at mapped
  have nameOf_suite : nameOf (Path.join dir (Conventions.suiteName package)) =
      Conventions.ginkgo.suiteFileName package := by
    rw [nameOf_join filled isFile, Text.lossy_utf8]
  have naming : namingFile? .ginkgo [Path.join dir (Conventions.suiteName package)] =
      some (Path.join dir (Conventions.suiteName package)) := by
    unfold namingFile?
    rw [List.find?_cons]
    split <;> rfl
  refine Job.yields_bind.mpr ⟨_, _, yields_contents.mpr ⟨rfl, entries, listed, files.symm, rfl⟩, ?_⟩
  dsimp only
  rw [ofFiles, naming]
  refine Job.yields_bind.mpr ⟨_, _, Job.yields_readText.mpr ⟨read, rfl⟩, Job.yields_bind.mpr
    ⟨_, _, Job.yields_ofFault.mpr ⟨Suite.packageNameOf_suite isName, rfl⟩, Job.yields_pure.mpr ⟨?_, rfl⟩⟩⟩
  have name : (Conventions.dropSuffix? (package ++ "_test") "_test").getD (package ++ "_test") = package :=
    named_test package
  rw [name]
  simp [nameOf_suite, Conventions.isConvertible]

end Package

namespace Suite

/-- The suite for a package named by ASCII characters can be read, its clause is that of the package's tests, and
a directory that holds no other source is loaded as the package without tests to convert. -/
theorem source_round_trip {package : String} (isName : isAsciiIdentifier package = true) :
    (∃ lexemes, tokenize (source .ginkgo package).toList = .ok lexemes) ∧
    (∃ file, SourceFile.ofText (source .ginkgo package) = .ok file) ∧
    packageNameOf (source .ginkgo package) = .ok (package ++ "_test") ∧
    ∀ (host : Host) (disk : Disk) (dir : Bytes) (entries : List (Bytes × DiskNode)),
      disk.list host.cwd dir = .ok entries →
      (entries.filter Disk.isSource).map (·.1) = [Conventions.suiteName package] →
      disk.readText host.cwd (Path.join dir (Conventions.suiteName package)) =
        .ok (source .ginkgo package) →
      Job.Yields (Package.load host .ginkgo dir) disk (some ⟨dir, package, []⟩) disk := by
  refine ⟨?_, ofText_source isName, packageNameOf_suite isName, ?_⟩
  · obtain ⟨lexemes, found, -⟩ := tokenize_source isName
    exact ⟨lexemes, found⟩
  · intro host disk dir entries listed only read
    exact Package.yields_load_suite isName listed only read

open OneDir

def suiteFiles : List (Bytes × String) :=
  [(Conventions.suiteName "_a__b_test", source .ginkgo "_a__b_test")]

theorem source_round_trip_suiteDisk :
    packageNameOf (source .ginkgo "_a__b_test") = .ok "_a__b_test_test" ∧
      Job.Yields (Package.load host .ginkgo dir) (disk suiteFiles) (some ⟨dir, "_a__b_test", []⟩)
        (disk suiteFiles) := by
  have listed : (disk suiteFiles).list [] dir = .ok ((disk suiteFiles).children [dir]) := by
    rw [Disk.list, locate_dir]
    rfl
  have only : (((disk suiteFiles).children [dir]).filter Disk.isSource).map (·.1) =
      [Conventions.suiteName "_a__b_test"] := by
    rw [children_disk (by decide)]
    decide
  obtain ⟨-, -, named, loads⟩ := source_round_trip (by decide : isAsciiIdentifier "_a__b_test" = true)
  exact ⟨named, loads _ _ _ _ listed only (readText_disk (by decide) (by simp [suiteFiles]))⟩

end Suite

end GoSpecs
