import GoSpecs.Text.Letter
import GoSpecs.Text.Digit
import GoSpecs.Token.Basic
import GoSpecs.Token.Number

namespace GoSpecs

inductive Piece where
  | blank
  | newline
  | token (token : Token)
deriving DecidableEq

namespace Piece

open Token

def isSkipped (c : Char) : Bool :=
  c == ' ' || c == '\t' || c == '\r' || c == '\x0c'

def startsName (c : Char) : Bool :=
  Text.isLetter c || c == '_'

def continuesName (c : Char) : Bool :=
  startsName c || Text.isDecimalDigit c

/-- The complete characters of a literal's body: plain ones, and escaped ones with their backslash.
A newline, the closing quote or a backslash with nothing to escape ends it. -/
def bodyLength (quote : Char) : List Char → Nat
  | [] => 0
  | '\\' :: c :: rest => if c = '\n' then 0 else 2 + bodyLength quote rest
  | c :: rest => if c = quote || c = '\\' || c = '\n' then 0 else 1 + bodyLength quote rest

def commentEnd? : List Char → Option Nat
  | [] => none
  | '*' :: '/' :: _ => some 2
  | _ :: rest => (commentEnd? rest).map (1 + ·)

def word (text : String) : Token :=
  match Keyword.ofText? text with
  | some word => .keyword word
  | none => .ident text

def closedLength (quote : Char) (body : Nat) (rest : List Char) : Except Nat Nat :=
  if (rest.drop body).head? = some quote then .ok (body + 2) else .error (body + 1)

/-- The piece that the text starts with and its length; an error has the length of the text that
is no piece. -/
def first : List Char → Except Nat (Piece × Nat)
  | [] => .error 0
  | c :: rest =>
    let textOf (length : Nat) : String := String.ofList ((c :: rest).take length)
    if isSkipped c then .ok (.blank, 1)
    else if c = '\n' then .ok (.newline, 1)
    else if startsName c then
      let length := 1 + run continuesName rest
      .ok (.token (word (textOf length)), length)
    else if c = '"' then do
      let length ← closedLength c (bodyLength c rest) rest
      return (.token (.string (textOf length)), length)
    else if c = '`' then do
      let length ← closedLength c (run (· != c) rest) rest
      return (.token (.string (textOf length)), length)
    else if c = '\'' then
      let body := bodyLength c rest
      if body = 0 then .error 1
      else do
        let length ← closedLength c body rest
        return (.token (.rune (textOf length)), length)
    else if c = '/' && rest.head? = some '/' then
      let length := 1 + run (· != '\n') rest
      .ok (.token (.lineComment (textOf length)), length)
    else if c = '/' && rest.head? = some '*' then
      match commentEnd? (rest.drop 1) with
      | some close => .ok (.token (.blockComment (textOf (2 + close))), 2 + close)
      | none => .error 2
    else
      match numberLength (c :: rest) with
      | length + 1 => .ok (.token (.number (textOf (length + 1))), length + 1)
      | 0 =>
        if c = ';' then .ok (.token (.semicolon false), 1)
        else
          match Mark.longest? (c :: rest) with
          | some sign => .ok (.token (.mark sign), sign.text.length)
          | none => .error 1

end Piece

end GoSpecs
