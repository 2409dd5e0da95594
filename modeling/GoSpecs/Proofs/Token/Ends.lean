import GoSpecs.Proofs.Token.Numbers
import GoSpecs.Text.Blank

namespace GoSpecs

namespace Text

theorem inRanges_of_ascii {ranges : List (Nat × Nat)} (far : ∀ range ∈ ranges, 128 ≤ range.1) {c : Char}
    (ascii : c.toNat < 128) : inRanges ranges c = false := by
  rw [Bool.eq_false_iff]
  intro inside
  obtain ⟨range, member, within⟩ := List.any_eq_true.mp inside
  have bound := far range member
  simp only [Bool.and_eq_true, decide_eq_true_eq] at within
  omega

theorem isLetter_of_ascii {c : Char} (ascii : c.toNat < 128) : isLetter c = c.isAlpha := by
  have far : inRanges letterRanges c = false := inRanges_of_ascii (by decide +kernel) ascii
  rw [isLetter, far, Bool.or_false]

theorem isDecimalDigit_of_ascii {c : Char} (ascii : c.toNat < 128) : isDecimalDigit c = c.isDigit := by
  have far : inRanges digitRanges c = false := inRanges_of_ascii (by decide) ascii
  rw [isDecimalDigit, far, Bool.or_false]

theorem isBlank_of_inRanges {ranges : List (Nat × Nat)}
    (apart : ∀ range ∈ ranges, ∀ blank ∈ blankRanges, range.2 < blank.1 ∨ blank.2 < range.1) {c : Char}
    (inside : inRanges ranges c = true) : isBlank c = false := by
  rw [Bool.eq_false_iff]
  intro blank
  obtain ⟨range, member, within⟩ := List.any_eq_true.mp inside
  obtain ⟨other, also, around⟩ := List.any_eq_true.mp blank
  have parted := apart range member other also
  simp only [Bool.and_eq_true, decide_eq_true_eq] at within around
  omega

end Text

namespace Piece

theorem startsName_of_ascii {c : Char} (ascii : c.toNat < 128) : startsName c = (c.isAlpha || c == '_') := by
  rw [startsName, Text.isLetter_of_ascii ascii]

theorem continuesName_of_ascii {c : Char} (ascii : c.toNat < 128) : continuesName c = (c.isAlphanum || c == '_') := by
  rw [continuesName, startsName_of_ascii ascii, Text.isDecimalDigit_of_ascii ascii, Bool.or_right_comm]
  rfl

end Piece

namespace Token

open Piece Text

def Covers (length : Nat) (chars : List Char) : Prop :=
  ∀ c ∈ chars.take length, isBlank c = false

namespace Covers

variable {chars : List Char} {first second : Nat}

theorem zero (chars : List Char) : Covers 0 chars := by
  simp [Covers]

theorem add (one : Covers first chars) (two : Covers second (chars.drop first)) :
    Covers (first + second) chars := by
  intro c member
  rw [List.take_add, List.mem_append] at member
  exact member.elim (one c) (two c)

theorem head {c : Char} (solid : isBlank c = false) : Covers 1 (c :: chars) := by
  intro d member
  simp only [List.take_succ_cons, List.take_zero, List.mem_singleton] at member
  rwa [member]

theorem cons {c : Char} {length : Nat} (solid : isBlank c = false) (rest : Covers length chars) :
    Covers (1 + length) (c :: chars) :=
  add (head solid) rest

theorem ofRun {p : Char → Bool} (solid : ∀ c, p c = true → isBlank c = false) (chars : List Char) :
    Covers (run p chars) chars :=
  fun c member => solid c (run_all member)

end Covers

theorem isBlank_of_isAlphanum {c : Char} (plain : c.isAlphanum = true) : isBlank c = false := by
  have bounds : (65 ≤ c.toNat ∧ c.toNat ≤ 90) ∨ (97 ≤ c.toNat ∧ c.toNat ≤ 122) ∨
      (48 ≤ c.toNat ∧ c.toNat ≤ 57) := by
    unfold Char.isAlphanum Char.isAlpha Char.isUpper Char.isLower Char.isDigit at plain
    simp only [Bool.or_eq_true, Bool.and_eq_true, decide_eq_true_eq, UInt32.le_iff_toNat_le] at plain
    simp only [Char.toNat]
    change ((65 ≤ _ ∧ _ ≤ 90) ∨ (97 ≤ _ ∧ _ ≤ 122)) ∨ (48 ≤ _ ∧ _ ≤ 57) at plain
    omega
  have inside : inRanges [(48, 57), (65, 90), (97, 122)] c = true := by
    simp only [inRanges, List.any_cons, List.any_nil, Bool.or_false, Bool.or_eq_true, Bool.and_eq_true,
      decide_eq_true_eq]
    omega
  exact isBlank_of_inRanges (by decide) inside

theorem isBlank_of_isLetter {c : Char} (letter : isLetter c = true) : isBlank c = false := by
  rcases Bool.or_eq_true_iff.mp letter with plain | far
  · exact isBlank_of_isAlphanum (by simp [Char.isAlphanum, plain])
  · exact isBlank_of_inRanges (by decide +kernel) far

theorem isBlank_of_continuesName {c : Char} (continues : continuesName c = true) : isBlank c = false := by
  simp only [continuesName, startsName, isDecimalDigit, Bool.or_eq_true, beq_iff_eq] at continues
  rcases continues with (letter | rfl) | digit | far
  · exact isBlank_of_isLetter letter
  · decide
  · exact isBlank_of_isAlphanum (by simp [Char.isAlphanum, digit])
  · exact isBlank_of_inRanges (by decide) far

theorem isBlank_of_isNumeral {c : Char} (numeral : isNumeral c = true) : isBlank c = false := by
  rcases Bool.or_eq_true_iff.mp numeral with digit | line
  · exact isBlank_of_isAlphanum (by simp [Char.isAlphanum, digit])
  · rw [beq_iff_eq.mp line]
    decide

theorem isBlank_of_isHexNumeral {c : Char} (numeral : isHexNumeral c = true) : isBlank c = false := by
  simp only [isHexNumeral, Bool.or_eq_true, Bool.and_eq_true, decide_eq_true_eq] at numeral
  rcases numeral with (numeral | lower) | upper
  · exact isBlank_of_isNumeral numeral
  · have bounds : 97 ≤ c.toNat ∧ c.toNat ≤ 102 :=
      ⟨UInt32.le_iff_toNat_le.mp lower.1, UInt32.le_iff_toNat_le.mp lower.2⟩
    have inside : inRanges [(97, 102)] c = true := by simpa [inRanges] using bounds
    exact isBlank_of_inRanges (by decide) inside
  · have bounds : 65 ≤ c.toNat ∧ c.toNat ≤ 70 :=
      ⟨UInt32.le_iff_toNat_le.mp upper.1, UInt32.le_iff_toNat_le.mp upper.2⟩
    have inside : inRanges [(65, 70)] c = true := by simpa [inRanges] using bounds
    exact isBlank_of_inRanges (by decide) inside

variable {p isMark : Char → Bool}

theorem covers_fraction (solid : ∀ c, p c = true → isBlank c = false) (chars : List Char) :
    Covers (fractionLength p chars) chars := by
  unfold fractionLength
  split
  · exact .cons (by decide) (.ofRun solid _)
  · exact .zero _

theorem covers_sign (chars : List Char) : Covers (signLength chars) chars := by
  unfold signLength
  split
  · exact .head (by decide)
  · exact .head (by decide)
  · exact .zero _

theorem covers_exponent (solid : ∀ c, isMark c = true → isBlank c = false) (chars : List Char) :
    Covers (exponentLength isMark chars) chars := by
  unfold exponentLength
  split
  · exact .zero _
  · rename_i c rest
    simp only
    split
    · rename_i both
      simp only [Bool.and_eq_true] at both
      rw [Nat.add_assoc]
      exact .cons (solid c both.1) (.add (covers_sign rest) (.ofRun (fun _ => isBlank_of_isNumeral) _))
    · exact .zero _

theorem covers_mantissa (solid : ∀ c, p c = true → isBlank c = false)
    (solidMark : ∀ c, isMark c = true → isBlank c = false) (chars : List Char) :
    Covers (mantissaLength p isMark chars) chars := by
  refine .add (.add (.ofRun solid chars) (covers_fraction solid _)) ?_
  exact covers_exponent solidMark _

theorem covers_decimal (chars : List Char) : Covers (decimalLength chars) chars := by
  refine covers_mantissa (fun _ => isBlank_of_isNumeral) ?_ chars
  intro c mark
  simp only [isDecimalMark, Bool.or_eq_true, beq_iff_eq] at mark
  rcases mark with rfl | rfl <;> decide

theorem covers_hex (chars : List Char) : Covers (hexLength chars) chars := by
  refine covers_mantissa (fun _ => isBlank_of_isHexNumeral) ?_ chars
  intro c mark
  simp only [isBinaryMark, Bool.or_eq_true, beq_iff_eq] at mark
  rcases mark with rfl | rfl <;> decide

theorem covers_real (chars : List Char) : Covers (realLength chars) chars := by
  unfold realLength
  split
  · rename_i c rest
    split
    · rename_i mark
      simp only [Bool.or_eq_true, beq_iff_eq] at mark
      refine .add (.cons (by decide) (.head ?_)) (covers_hex rest)
      rcases mark with rfl | rfl <;> decide
    · split
      · rename_i both
        simp only [Bool.and_eq_true, Bool.or_eq_true, beq_iff_eq] at both
        refine .add (.cons (by decide) (.head ?_)) (.ofRun (fun _ => isBlank_of_isNumeral) rest)
        rcases both.1 with ((rfl | rfl) | rfl) | rfl <;> decide
      · exact covers_decimal _
  · rename_i rest
    unfold pointLength
    split
    · dsimp only
      split
      · rw [Nat.add_assoc]
        refine .cons (by decide) (.add (.ofRun (fun _ => isBlank_of_isNumeral) _) (covers_exponent ?_ _))
        intro c mark
        simp only [isDecimalMark, Bool.or_eq_true, beq_iff_eq] at mark
        rcases mark with rfl | rfl <;> decide
      · exact .zero _
    · exact .zero _
  · split
    · exact covers_decimal _
    · exact .zero _
  · exact .zero _

theorem covers_number (chars : List Char) : Covers (numberLength chars) chars := by
  rw [numberLength_eq]
  split
  · exact .zero _
  · split
    · rename_i imaginary
      obtain ⟨rest, drop⟩ := List.head?_eq_some_iff.mp imaginary
      refine .add (covers_real chars) ?_
      rw [drop]
      exact .head (by decide)
    · exact covers_real chars

def Solid (token : Token) : Prop :=
  ∃ c, token.text.toList.getLast? = some c ∧ isBlank c = false

theorem Solid.ofCovers {token : Token} {chars : List Char} {length : Nat} (covers : Covers length chars)
    (text : token.text.toList = chars.take length) (filled : token.text.toList ≠ []) : token.Solid := by
  refine ⟨_, List.getLast?_eq_some_getLast filled, covers _ ?_⟩
  rw [← text]
  exact List.getLast_mem filled

theorem solid_mark (mark : Mark) : (Token.mark mark).Solid := by
  cases mark <;> exact ⟨_, rfl, by decide⟩

def isLiteral : Token → Bool
  | .number _ => true
  | .string _ => true
  | .rune _ => true
  | _ => false

def ofLiteral (text : String) : Token :=
  match text.toList.head? with
  | some '"' => .string text
  | some '\x60' => .string text
  | some '\'' => .rune text
  | _ => .number text

end Token

def isLineComment (text : String) : Bool :=
  "//".toList.isPrefixOf text.toList

def IsComment (text : String) : Prop :=
  (∃ body, text.toList = '/' :: '/' :: body ∧ '\n' ∉ body) ∨
    ∃ body, text.toList = '/' :: '*' :: body ∧ Piece.commentEnd? body = some body.length

end GoSpecs
