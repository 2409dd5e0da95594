import GoSpecs.Proofs.Token.Longest
import GoSpecs.Token.Stream

namespace GoSpecs

def Token.isWord : Token → Bool
  | .ident _ => true
  | .number _ => true
  | .string _ => true
  | .rune _ => true
  | _ => false

namespace Piece

theorem genuine_split {fuel offset : Nat} {chars : List Char} {pieces : List LocatedPiece}
    (h : split fuel offset chars = .ok pieces) {located : LocatedPiece} (member : located ∈ pieces)
    {token : Token} (isToken : located.piece = .token token) : token.Genuine := by
  induction fuel generalizing offset chars pieces with
  | zero =>
    rw [split] at h
    cases h
    cases member
  | succ fuel ih =>
    cases chars with
    | nil =>
      rw [split] at h
      · cases h
        cases member
      · nofun
    | cons c chars =>
      rw [split] at h
      · split at h
        · cases h
        · rename_i piece length found
          dsimp only at h
          cases later : split fuel (offset + Text.byteSize ((c :: chars).take length))
              ((c :: chars).drop length) with
          | error => rw [later] at h; cases h
          | ok rest =>
            rw [later] at h
            cases h
            rcases List.mem_cons.mp member with rfl | member
            · cases isToken
              exact (Token.found_of_first found).genuine
            · exact ih later member
      · nofun

end Piece

namespace Lexeme

theorem mem_inserted {ends : Bool} {start stop : Nat} {lexeme : Lexeme} (h : lexeme ∈ inserted ends start stop) :
    lexeme.token = .semicolon true := by
  unfold inserted at h
  split at h
  · rw [List.mem_singleton.mp h]
  · cases h

/-- Every token is one of the source, or a semicolon at the end of a line. -/
theorem mem_ofPieces {size : Nat} {ends : Bool} {pieces : List LocatedPiece} {lexeme : Lexeme}
    (h : lexeme ∈ ofPieces size ends pieces) :
    lexeme.token = .semicolon true ∨ ∃ located ∈ pieces, located.piece = .token lexeme.token := by
  have later : ∀ {located : LocatedPiece} {rest : List LocatedPiece},
      (lexeme.token = .semicolon true ∨ ∃ other ∈ rest, other.piece = .token lexeme.token) →
      lexeme.token = .semicolon true ∨ ∃ other ∈ located :: rest, other.piece = .token lexeme.token := by
    rintro located rest (semicolon | ⟨other, member, isToken⟩)
    · exact .inl semicolon
    · exact .inr ⟨other, List.mem_cons_of_mem _ member, isToken⟩
  fun_induction ofPieces size ends pieces with
  | case1 => exact .inl (mem_inserted h)
  | case2 ends start stop rest ih => exact later (ih h)
  | case3 ends start stop rest ih =>
    rcases List.mem_append.mp h with h | h
    · exact .inl (mem_inserted h)
    · exact later (ih h)
  | case4 ends text start stop rest ih =>
    rcases List.mem_cons.mp h with rfl | h
    · exact .inr ⟨_, List.mem_cons_self, rfl⟩
    · exact later (ih h)
  | case5 ends text start stop rest broken ih =>
    rcases List.mem_append.mp h with h | h
    · exact .inl (mem_inserted h)
    · rcases List.mem_cons.mp h with rfl | h
      · exact .inr ⟨_, List.mem_cons_self, rfl⟩
      · exact later (ih h)
  | case6 ends text start stop rest broken ih =>
    rcases List.mem_cons.mp h with rfl | h
    · exact .inr ⟨_, List.mem_cons_self, rfl⟩
    · exact later (ih h)
  | case7 ends token start stop rest line block ih =>
    rcases List.mem_cons.mp h with rfl | h
    · exact .inr ⟨_, List.mem_cons_self, rfl⟩
    · exact later (ih h)

end Lexeme

theorem genuine_of_mem_tokenize {source : List Char} {lexemes : List Lexeme} (h : tokenize source = .ok lexemes)
    {lexeme : Lexeme} (member : lexeme ∈ lexemes) (written : lexeme.token ≠ .semicolon true) :
    lexeme.token.Genuine := by
  rw [tokenize] at h
  cases split : Piece.split source.length 0 source with
  | error => rw [split] at h; cases h
  | ok pieces =>
  rw [split] at h
  cases h
  rcases Lexeme.mem_ofPieces member with inserted | ⟨located, among, isToken⟩
  · exact (written inserted).elim
  · exact Piece.genuine_split split among isToken

theorem genuine_of_tokenize {source : List Char} {lexemes : List Lexeme} (h : tokenize source = .ok lexemes)
    {lexeme : Lexeme} (member : lexeme ∈ lexemes) (isWord : lexeme.token.isWord = true) :
    lexeme.token.Genuine := by
  refine genuine_of_mem_tokenize h member fun inserted => ?_
  rw [inserted] at isWord
  cases isWord

theorem Token.dot_not_genuine : ¬ (Token.ident ".").Genuine := by
  intro genuine
  have ends : ∀ token : Token, Stops token.goesOn [] := by simp [Stops]
  have read : Piece.first ['.'] = .ok (.token (.ident "."), 1) := genuine.proper [] (ends _)
  have mark : Piece.first ['.'] = .ok (.token (.mark .dot), 1) := proper_mark .dot [] (ends _)
  rw [mark] at read
  cases read

end GoSpecs
