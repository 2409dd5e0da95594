import GoSpecs.Proofs.Grammar.Clauses
import GoSpecs.Proofs.Grammar.Precedence
import GoSpecs.Proofs.Layout.Glyphs
import GoSpecs.Layout.Render

namespace GoSpecs

open Layout Glyph Token Piece

theorem isDigit_of_startsName {c : Char} (starts : startsName c = true) : c.isDigit = false := by
  rw [Bool.eq_false_iff]
  intro digit
  have bounds : 48 ≤ c.toNat ∧ c.toNat ≤ 57 := by
    simpa [Char.isDigit, UInt32.le_iff_toNat_le] using digit
  have ascii : c.toNat < 128 := by omega
  rw [startsName_of_ascii ascii] at starts
  unfold Char.isAlpha Char.isUpper Char.isLower at starts
  simp only [Bool.or_eq_true, Bool.and_eq_true, decide_eq_true_eq, beq_iff_eq, UInt32.le_iff_toNat_le] at starts
  rcases starts with (upper | lower) | rfl
  · have above : 65 ≤ c.toNat := upper.1
    omega
  · have above : 97 ≤ c.toNat := lower.1
    omega
  · cases digit

namespace Mark

theorem continuesName_text {mark : Mark} {c : Char} (here : c ∈ mark.text.toList) : continuesName c = false := by
  have plain : mark.text.toList.all fun c => c.toNat < 128 && !c.isAlphanum && c != '_' := by
    cases mark <;> decide
  have own := List.all_eq_true.mp plain c here
  simp only [Bool.and_eq_true, decide_eq_true_eq, Bool.not_eq_true', bne_iff_ne] at own
  simp [continuesName_of_ascii own.1.1, own]

theorem goesOn_of_startsName (mark : Mark) {c : Char} (starts : startsName c = true) : mark.goesOn c = false := by
  apply mark.goesOn_of_notMem _ (isDigit_of_startsName starts)
  intro longer here
  have letter := continuesName_text here
  simp [continuesName, starts] at letter

theorem goesOn_rparen (c : Char) : Mark.goesOn .rparen c = false :=
  rfl

def isApart (mark : Mark) (next : Token) : Bool :=
  next.text.toList.head?.all (!mark.goesOn ·)

theorem isApart_ident (mark : Mark) {text : String} (isName : IsIdentifier text) :
    mark.isApart (.ident text) = true := by
  obtain ⟨c, chars, shape, starts, _⟩ := isName
  simp [isApart, Token.text, shape, goesOn_of_startsName mark starts]

def openings : List Mark :=
  [.lparen, .bang, .caret, .arrow]

end Mark

theorem IsIdentifier.genuine {text : String} (isName : IsIdentifier text) (noWord : Keyword.ofText? text = none) :
    (Token.ident text).Genuine := by
  have word : Piece.word text = .ident text := by rw [Piece.word, noWord]
  obtain ⟨c, chars, shape, starts, rest⟩ := isName
  have genuine := (@found_name c chars starts).genuine
  rw [run_of_all rest, Nat.add_comm, List.take_of_length_le (by simp), ← shape, String.ofList_toList, word] at genuine
  exact genuine

def Token.IsOpening (token : Token) : Prop :=
  (∃ text, token = .ident text ∧ IsIdentifier text) ∨ ∃ sign ∈ Mark.openings, token = .mark sign

theorem Mark.isApart_of_isOpening {mark : Mark} {next : Token} (opening : next.IsOpening)
    (apart : ∀ sign ∈ Mark.openings, next = .mark sign → mark.isApart (.mark sign) = true) :
    mark.isApart next = true := by
  rcases opening with ⟨text, rfl, isName⟩ | ⟨sign, member, rfl⟩
  · exact mark.isApart_ident isName
  · exact apart sign member rfl

/-- Of the marks that a tight operator may stand next to, only `^` after `&` makes a longer one. -/
theorem BinaryOp.isApart_opening (op : BinaryOp) (tight : 4 ≤ op.precedence) {sign : Mark}
    (opens : sign ∈ Mark.openings) (noClash : ¬(op = .and ∧ sign = .caret)) :
    op.mark.isApart (.mark sign) = true := by
  have all : ∀ sign ∈ Mark.openings, ¬(op = .and ∧ sign = .caret) → op.mark.isApart (.mark sign) = true := by
    revert tight
    cases op <;> decide
  exact all sign opens noClash

namespace Glyph

def enclosed (test : Bool) (glyphs : List Glyph) : List Glyph :=
  if test then mark .lparen :: glyphs ++ [mark .rparen] else glyphs

theorem tokens_mark (ends : Bool) (sign : Mark) (rest : List Glyph) :
    tokens ends (mark sign :: rest) =
      .mark sign :: tokens (Token.mark sign).endsStatement rest :=
  rfl

theorem tokens_gapIf (ends spaced : Bool) (rest : List Glyph) :
    tokens ends (gapIf spaced ++ rest) = tokens ends rest := by
  cases spaced <;> rfl

theorem areApart_gapIf (spaced : Bool) (rest : List Glyph) : areApart (gapIf spaced ++ rest) = areApart rest := by
  cases spaced <;> rfl

theorem continuesName_mark (sign : Mark) {rest : List Glyph} :
    ∀ c ∈ firstChar? (mark sign :: rest), continuesName c = false := by
  intro c first
  have first : c ∈ sign.text.toList.head? := first
  exact Mark.continuesName_text (List.mem_of_mem_head? first)

end Glyph

namespace Operation

def encloseIf (test : Bool) (tree : Operation) : Operation :=
  if test then .paren tree else tree

/-- The tree with the parentheses that are printed where operators of the given precedence may stand. -/
def written (precedence : Nat) : Operation → Operation
  | .name text => .name text
  | .paren inner => if isParen inner.expr then inner.written 0 else .paren (inner.written 0)
  | .unary op operand => encloseIf (unaryPrecedence < precedence) (.unary op (operand.written unaryPrecedence))
  | .binary left op right =>
    encloseIf (op.precedence < precedence)
      (.binary (left.written op.precedence) op (right.written (op.precedence + 1)))

theorem bare_encloseIf (test : Bool) (tree : Operation) : (encloseIf test tree).bare = tree.bare := by
  cases test <;> rfl

theorem bare_written (precedence : Nat) (tree : Operation) : (tree.written precedence).bare = tree.bare := by
  induction tree generalizing precedence with
  | name text => rfl
  | paren inner ih =>
    rw [written]
    split
    · exact ih 0
    · exact ih 0
  | unary op operand ih => rw [written, bare_encloseIf, bare, bare, ih]
  | binary left op right ihLeft ihRight => rw [written, bare_encloseIf, bare, bare, ihLeft, ihRight]

theorem written_paren (precedence : Nat) (inner : Operation) :
    ∃ inside, (Operation.paren inner).written precedence = .paren inside := by
  induction inner generalizing precedence with
  | paren inner ih => exact ih 0
  | _ => exact ⟨_, rfl⟩

theorem grouped_written (precedence : Nat) (tree : Operation) :
    (tree.written precedence).Grouped ∧ ∀ root ∈ (tree.written precedence).precedence?, precedence ≤ root := by
  induction tree generalizing precedence with
  | name text => exact ⟨trivial, by simp [written, precedence?]⟩
  | paren inner ih =>
    obtain ⟨inside, shape⟩ := written_paren precedence inner
    refine ⟨?_, by simp [shape, precedence?]⟩
    rw [written]
    split
    · exact (ih 0).1
    · exact (ih 0).1
  | unary op operand ih =>
    obtain ⟨grouped, tight⟩ := ih unaryPrecedence
    have single : (operand.written unaryPrecedence).precedence? = none := by
      rw [Option.eq_none_iff_forall_not_mem]
      intro root member
      have atLeast : 6 ≤ root := tight root member
      have atMost := (precedence?_bounds member).2
      omega
    rw [written, encloseIf]
    split
    · exact ⟨⟨grouped, single⟩, by simp [precedence?]⟩
    · exact ⟨⟨grouped, single⟩, by simp [precedence?]⟩
  | binary left op right ihLeft ihRight =>
    obtain ⟨groupedLeft, loose⟩ := ihLeft op.precedence
    obtain ⟨groupedRight, tight⟩ := ihRight (op.precedence + 1)
    have grouped : (binary (left.written op.precedence) op (right.written (op.precedence + 1))).Grouped :=
      ⟨groupedLeft, groupedRight, loose, tight⟩
    rw [written, encloseIf]
    split
    · exact ⟨grouped, by simp [precedence?]⟩
    · rename_i wanted
      refine ⟨grouped, ?_⟩
      intro root member
      cases member
      simpa using wanted

def first : Operation → Token
  | .name text => .ident text
  | .paren _ => .mark .lparen
  | .unary op _ => .mark op.mark
  | .binary left _ _ => left.first

def Plain : Operation → Prop
  | .name text => IsIdentifier text ∧ Keyword.ofText? text = none
  | .paren inner => inner.Plain
  | .unary op operand => op ∈ [UnaryOp.not, .xor, .recv] ∧ operand.Plain
  | .binary left _ right => left.Plain ∧ right.Plain

/-- The text is made of the glyphs, and they are read as the tokens of the tree wherever no name goes on. -/
structure Shown (text : String) (glyphs : List Glyph) (tree : Operation) : Prop where
  spells : Spells text glyphs
  proper : ∀ glyph ∈ glyphs, glyph.Proper
  starts : ∃ more, glyphs = .token tree.first :: more
  opening : tree.first.IsOpening
  tokens : ∀ ends rest, Glyph.tokens ends (glyphs ++ rest) = tree.tokens ++ Glyph.tokens true rest
  apart : ∀ rest, areApart rest = true → (∀ c ∈ firstChar? rest, continuesName c = false) →
    areApart (glyphs ++ rest) = true

namespace Shown

variable {text otherText : String} {glyphs more : List Glyph} {tree other : Operation}

theorem name (isName : IsIdentifier text) (noWord : Keyword.ofText? text = none) :
    Shown text [Glyph.name text] (.name text) := by
  have proper : (Glyph.name text).Proper := by
    refine ⟨(isName.genuine noWord).proper, rfl, ?_⟩
    rintro rfl
    obtain ⟨c, chars, shape, _⟩ := isName
    cases shape
  refine ⟨.name text, by simpa using proper, ⟨[], rfl⟩, .inl ⟨text, rfl, isName⟩, fun _ _ => rfl, ?_⟩
  intro rest apart next
  simp only [List.singleton_append, Glyph.name, areApart, apart, Bool.and_true]
  rw [Option.all_eq_true]
  intro c first
  simp [Token.goesOn, next c first]

theorem apart_mark {sign : Mark} (shown : Shown text glyphs tree) (apart : sign.isApart tree.first = true)
    {rest : List Glyph} (inside : areApart (glyphs ++ rest) = true) :
    areApart (Glyph.mark sign :: (glyphs ++ rest)) = true := by
  obtain ⟨more, rfl⟩ := shown.starts
  rw [Glyph.mark, areApart, inside, Bool.and_true]
  exact apart

theorem paren (shown : Shown text glyphs tree) :
    Shown ("(" ++ text ++ ")") (Glyph.mark .lparen :: glyphs ++ [Glyph.mark .rparen]) (.paren tree) := by
  refine ⟨((Spells.mark .lparen).append shown.spells).append (.mark .rparen), ?_, ⟨_, rfl⟩, .inr ⟨.lparen, by decide, rfl⟩, ?_, ?_⟩
  · intro glyph here
    simp only [List.cons_append, List.mem_cons, List.mem_append, List.not_mem_nil, or_false] at here
    rcases here with rfl | here | rfl
    · exact Glyph.proper_mark .lparen
    · exact shown.proper glyph here
    · exact Glyph.proper_mark .rparen
  · intro ends rest
    simp only [List.cons_append, List.append_assoc, List.nil_append, Operation.tokens, tokens_mark, shown.tokens]
    rfl
  · intro rest apart next
    simp only [List.cons_append, List.append_assoc, List.nil_append]
    have closed : areApart (Glyph.mark .rparen :: rest) = true := by
      simp [Glyph.mark, areApart, apart, Token.goesOn, Mark.goesOn_rparen]
    have opens : ∀ sign ∈ Mark.openings, Mark.lparen.isApart (.mark sign) = true := by decide
    exact shown.apart_mark (Mark.isApart_of_isOpening shown.opening fun sign member _ => opens sign member)
      (shown.apart _ closed (continuesName_mark .rparen))

theorem enclosed (test : Bool) (shown : Shown text glyphs tree) :
    Shown (enclose test text) (Glyph.enclosed test glyphs) (encloseIf test tree) := by
  cases test
  · exact shown
  · exact shown.paren

theorem unary {op : UnaryOp} (plain : op ∈ [UnaryOp.not, .xor, .recv]) (shown : Shown text glyphs tree) :
    Shown (op.text ++ text) (Glyph.mark op.mark :: glyphs) (.unary op tree) := by
  have opens : op.mark ∈ Mark.openings ∧ ∀ sign ∈ Mark.openings, op.mark.isApart (.mark sign) = true := by
    revert op
    decide
  refine ⟨op.text_mark ▸ (Spells.mark op.mark).append shown.spells, ?_, ⟨_, rfl⟩, .inr ⟨op.mark, opens.1, rfl⟩, ?_, ?_⟩
  · intro glyph here
    rcases List.mem_cons.mp here with rfl | here
    · exact Glyph.proper_mark op.mark
    · exact shown.proper glyph here
  · intro ends rest
    simp only [List.cons_append, Operation.tokens, tokens_mark, shown.tokens]
  · intro rest apart next
    exact shown.apart_mark (Mark.isApart_of_isOpening shown.opening fun sign member _ => opens.2 sign member)
      (shown.apart rest apart next)

theorem binary {op : BinaryOp} {spaced : Prop} [Decidable spaced] (left : Shown text glyphs tree)
    (right : Shown otherText more other) (apart : ¬spaced → op.mark.isApart other.first = true) :
    Shown (text ++ (if spaced then " " else "") ++ op.text ++ (if spaced then " " else "") ++ otherText)
      (glyphs ++ gapIf spaced ++ Glyph.mark op.mark :: gapIf spaced ++ more) (.binary tree op other) := by
  refine ⟨?_, ?_, ?_, left.opening, ?_, ?_⟩
  · have sign := op.text_mark ▸ Spells.mark op.mark
    have whole := (((left.spells.append (.gapIf spaced)).append sign).append (.gapIf spaced)).append right.spells
    simpa only [List.append_assoc, List.singleton_append, List.cons_append, List.nil_append] using whole
  · have gap : ∀ glyph ∈ gapIf spaced, glyph.Proper := by
      by_cases given : spaced <;> simp [gapIf, given, Glyph.Proper]
    intro glyph here
    simp only [List.append_assoc, List.cons_append, List.mem_append, List.mem_cons] at here
    rcases here with here | here | rfl | here | here
    · exact left.proper glyph here
    · exact gap glyph here
    · exact Glyph.proper_mark op.mark
    · exact gap glyph here
    · exact right.proper glyph here
  · obtain ⟨others, rfl⟩ := left.starts
    exact ⟨_, rfl⟩
  · intro ends rest
    simp only [List.cons_append, List.append_assoc, Operation.tokens, tokens_mark, tokens_gapIf, left.tokens,
      right.tokens]
  · intro rest ends next
    have rightApart := right.apart rest ends next
    simp only [List.append_assoc, List.cons_append]
    refine left.apart _ ?_ ?_
    · rw [areApart_gapIf]
      by_cases given : spaced
      · simpa [gapIf, given, Glyph.mark, areApart, firstChar?, Token.goesOn, Mark.goesOn_blank] using rightApart
      · simpa [gapIf, given] using right.apart_mark (apart given) rightApart
    · by_cases given : spaced
      · intro c first
        obtain rfl : ' ' = c := by simpa [gapIf, given, firstChar?] using first
        rw [continuesName_of_ascii (by decide)]
        decide
      · simpa [gapIf, given] using continuesName_mark op.mark

end Shown

/-- Only sums and products have operators that would run on. -/
def ClashesTightly (use : OperatorUse) : Prop :=
  use.clash = 0 ∨ 4 ≤ use.clash

theorem ClashesTightly.or {first second : OperatorUse} (one : ClashesTightly first) (two : ClashesTightly second) :
    ClashesTightly (first.or second) := by
  simp only [ClashesTightly, OperatorUse.or] at *
  omega

theorem ClashesTightly.ofClash {seen : OperatorUse} (known : ClashesTightly seen) (op : BinaryOp) (node : Expr.Node) :
    ClashesTightly (OperatorUse.ofClash op node seen) := by
  unfold OperatorUse.ofClash
  split
  · exact .inr (Nat.le_succ 4)
  · exact .inr (Nat.le_succ 4)
  · exact .inr (Nat.le_succ 4)
  · exact .inr (Nat.le_max_right ..)
  · exact .inr (Nat.le_max_right ..)
  · exact known

theorem clashesTightly_operatorUse (tree : Operation) : ClashesTightly (operatorUse tree.expr) := by
  induction tree with
  | binary left op right ihLeft ihRight =>
    have own : ClashesTightly (OperatorUse.ofOp op) := .inl rfl
    simp only [expr, Expr.built, operatorUse]
    split
    on_goal 1 => split
    on_goal 1 => apply ClashesTightly.or _ ihRight
    on_goal 3 => apply ClashesTightly.ofClash
    -- what the left operand adds is left, whatever the right one is
    all_goals
      split
      · split
        · exact own.or ihLeft
        · exact own
      · exact own
  | _ => exact .inl rfl

theorem cutoff_ge (tree : Operation) (depth : Nat) : 4 ≤ cutoff tree.expr depth := by
  have clash := tree.clashesTightly_operatorUse
  simp only [ClashesTightly] at clash
  simp only [cutoff]
  split
  · rename_i clashes
    simp only [bne_iff_ne] at clashes
    omega
  · split
    · split <;> decide
    · decide

theorem cutoff_and_xor (left operand : Operation) (depth : Nat) :
    cutoff (binary left .and (unary .xor operand)).expr depth = 6 :=
  rfl

theorem eq_xor_of_first {tree : Operation} (first : (tree.written unaryPrecedence).first = .mark .caret) :
    ∃ operand, tree = .unary .xor operand := by
  cases tree with
  | name text => cases first
  | paren inner =>
    obtain ⟨inside, shape⟩ := written_paren unaryPrecedence inner
    rw [shape] at first
    cases first
  | unary op operand =>
    cases op <;> first | exact ⟨operand, rfl⟩ | cases first
  | binary left op right =>
    have loose : op.precedence < unaryPrecedence := Nat.lt_succ_of_le op.precedence_bounds.2
    simp [written, encloseIf, loose, Operation.first] at first

/-- Where an operator has no blanks, it does not run on into its right operand. -/
theorem isApart_of_tight {left right : Operation} {op : BinaryOp} {depth : Nat}
    (opening : (right.written (op.precedence + 1)).first.IsOpening)
    (tight : cutoff (binary left op right).expr depth ≤ op.precedence) :
    op.mark.isApart (right.written (op.precedence + 1)).first = true := by
  have product : 4 ≤ op.precedence := Nat.le_trans (cutoff_ge _ depth) tight
  refine Mark.isApart_of_isOpening opening ?_
  intro sign member first
  by_cases clash : op = .and ∧ sign = .caret
  · obtain ⟨rfl, rfl⟩ := clash
    obtain ⟨operand, rfl⟩ := eq_xor_of_first first
    rw [cutoff_and_xor] at tight
    exact absurd tight (by decide)
  · exact op.isApart_opening product member clash

theorem span_expr (tree : Operation) : tree.expr.span = .detached := by
  cases tree <;> rfl

theorem shown_expr (lines : Lines) (precedence depth indent : Nat) (tree : Operation) (plain : tree.Plain) :
    ∃ glyphs, Shown (exprText lines precedence depth indent tree.expr) glyphs (tree.written precedence) := by
  induction tree generalizing precedence depth indent with
  | name text => exact ⟨_, .name plain.1 plain.2⟩
  | paren inner ih =>
    simp only [expr, Expr.built, exprText, written]
    split
    · exact ih _ _ _ plain
    · obtain ⟨glyphs, shown⟩ := ih 0 (reduceDepth depth) indent plain
      exact ⟨_, shown.paren⟩
  | unary op operand ih =>
    simp only [expr, Expr.built, exprText, written]
    obtain ⟨glyphs, shown⟩ := ih unaryPrecedence _ indent plain.2
    exact ⟨_, (Shown.unary plain.1 shown).enclosed _⟩
  | binary left op right ihLeft ihRight =>
    have oneLine : ¬lines.breaks left.expr.span.stop? right.expr.span.start? = true := by
      rw [span_expr, span_expr]
      exact Bool.false_ne_true
    simp only [expr, Expr.built, exprText, written]
    rw [if_neg oneLine]
    obtain ⟨glyphs, leftShown⟩ := ihLeft op.precedence _ indent plain.1
    obtain ⟨more, rightShown⟩ := ihRight (op.precedence + 1) _ indent plain.2
    refine ⟨_, (Shown.binary leftShown rightShown fun unspaced => ?_).enclosed _⟩
    exact isApart_of_tight rightShown.opening (Nat.not_lt.mp unspaced)

/-- Printed, lexed and read, an expression of names and operators is the same up to parentheses. -/
theorem expr_exprText (tree : Operation) (plain : tree.Plain) (lines : Lines) (indent : Nat) :
    ∃ lexemes, tokenize (exprText lines 0 1 indent tree.expr).toList = .ok lexemes ∧
      ∀ depth source, lexemes.length ≤ depth →
        ∃ (result : Expr) (after : Cursor) (parsed : Operation),
          (Rules.ofDepth depth).expr (Cursor.ofLexemes lexemes source) = .ok (result, after) ∧
          after.rest.map (·.token) = [.semicolon true] ∧ result.erase = parsed.expr ∧ parsed.bare = tree.bare := by
  obtain ⟨glyphs, shown⟩ := shown_expr lines 0 1 indent tree plain
  have apart := shown.apart [] rfl (by simp [firstChar?])
  have tokens := shown.tokens false []
  rw [List.append_nil] at apart tokens
  obtain ⟨lexemes, run, significant, _⟩ := shown.spells.tokenizes shown.proper apart
  refine ⟨lexemes, run, ?_⟩
  intro depth source enough
  rw [tokens] at significant
  have ahead : ∃ follow, (Cursor.ofLexemes lexemes source).Ahead (tree.written 0).tokens follow ∧
      follow.map (·.token) = [.semicolon true] := by
    obtain ⟨before, follow, split, same, last⟩ := List.map_eq_append_iff.mp significant
    exact ⟨follow, ⟨before, split, same⟩, last⟩
  obtain ⟨follow, ahead, last⟩ := ahead
  have next : follow.head?.map (·.token) = some (.semicolon true) := by rw [← List.head?_map, last]; rfl
  have length : (tree.written 0).tokens.length ≤ depth := by
    have all := ahead.length
    have fewer := List.length_filter_le (fun lexeme => !lexeme.token.isComment) lexemes
    simp only [Cursor.ofLexemes] at all
    omega
  obtain ⟨result, after, run, read⟩ := (Rules.yields_expr (grouped_written 0 tree).1 length ahead
    (by simp [Rules.atSuffix, next, Rules.isSuffix]) (by simp [Rules.nextOp?, next, Rules.binaryOp?])).exists_run
  exact ⟨result, after, tree.written 0, run, by rw [read.rest, last], read.same, bare_written 0 tree⟩

def maskedSum : Operation :=
  .binary (.binary (.name "a") .add (.name "b")) .and (.unary .xor (.paren (.paren (.name "c"))))

theorem expr_maskedSum :
    maskedSum.Plain ∧ ∃ lexemes, tokenize "(a + b) & ^(c)".toList = .ok lexemes ∧
      ∃ (result : Expr) (after : Cursor) (parsed : Operation),
        (Rules.ofDepth lexemes.length).expr (Cursor.ofLexemes lexemes "(a + b) & ^(c)".toList) = .ok (result, after) ∧
        after.rest.map (·.token) = [.semicolon true] ∧ result.erase = parsed.expr ∧
        parsed.bare = .binary (.binary (.name "a") .add (.name "b")) .and (.unary .xor (.name "c")) := by
  have isName : ∀ text ∈ ["a", "b", "c"], IsIdentifier text ∧ Keyword.ofText? text = none := by
    intro text here
    simp only [List.mem_cons, List.not_mem_nil, or_false] at here
    rcases here with rfl | rfl | rfl <;> exact ⟨⟨_, _, rfl, by decide, nofun⟩, by decide⟩
  have plain : maskedSum.Plain := by
    simp [maskedSum, Plain, isName]
  have text : exprText .unknown 0 1 0 maskedSum.expr = "(a + b) & ^(c)" := by decide
  obtain ⟨lexemes, run, reads⟩ := expr_exprText maskedSum plain .unknown 0
  rw [text] at run
  exact ⟨plain, lexemes, run, reads lexemes.length _ (Nat.le_refl _)⟩

end Operation

end GoSpecs
