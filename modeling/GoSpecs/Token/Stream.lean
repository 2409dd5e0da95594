import GoSpecs.Source.Span
import GoSpecs.Text.Quoted
import GoSpecs.Text.Utf8
import GoSpecs.Token.Piece

namespace GoSpecs

structure LexicalError where
  text : List Char
  start : Nat
deriving DecidableEq

namespace LexicalError

def span (error : LexicalError) : Span :=
  .range error.start (error.start + Text.byteSize error.text)

def message (error : LexicalError) : String :=
  "unexpected character: " ++ Text.quoted error.text

end LexicalError

structure LocatedPiece where
  piece : Piece
  start : Nat
  stop : Nat
deriving DecidableEq

namespace Piece

/-- The pieces of `chars`, which stand at byte `offset`. A piece has at least one character, so
`fuel` is enough when it is the number of characters. -/
def split : (fuel offset : Nat) → List Char → Except LexicalError (List LocatedPiece)
  | 0, _, _ => .ok []
  | _, _, [] => .ok []
  | fuel + 1, offset, chars =>
    match first chars with
    | .error length => .error ⟨chars.take length, offset⟩
    | .ok (piece, length) => do
      let stop := offset + Text.byteSize (chars.take length)
      let rest ← split fuel stop (chars.drop length)
      return ⟨piece, offset, stop⟩ :: rest

end Piece

namespace Lexeme

def inserted (ends : Bool) (start stop : Nat) : List Lexeme :=
  if ends then [⟨.semicolon true, start, stop⟩] else []

/-- The lexemes of a list of pieces. `ends` tells whether the last token before them that is no
comment can end a statement, and `size` is the length of the source. -/
def ofPieces (size : Nat) (ends : Bool) : List LocatedPiece → List Lexeme
  | [] => inserted ends size size
  | ⟨.blank, _, _⟩ :: rest => ofPieces size ends rest
  | ⟨.newline, start, stop⟩ :: rest => inserted ends start stop ++ ofPieces size false rest
  | ⟨.token (.lineComment text), start, stop⟩ :: rest =>
    ⟨.lineComment text, start, stop⟩ :: ofPieces size ends rest
  | ⟨.token (.blockComment text), start, stop⟩ :: rest =>
    if text.toList.contains '\n' then
      inserted ends start start ++
        ⟨.blockComment text, start, stop⟩ :: ofPieces size false rest
    else ⟨.blockComment text, start, stop⟩ :: ofPieces size ends rest
  | ⟨.token token, start, stop⟩ :: rest =>
    ⟨token, start, stop⟩ :: ofPieces size token.endsStatement rest

end Lexeme

def tokenize (source : List Char) : Except LexicalError (List Lexeme) := do
  let pieces ← Piece.split source.length 0 source
  return Lexeme.ofPieces (Text.byteSize source) false pieces

end GoSpecs
