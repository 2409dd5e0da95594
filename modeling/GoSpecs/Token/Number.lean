namespace GoSpecs.Token

def run (p : Char → Bool) (chars : List Char) : Nat :=
  (chars.takeWhile p).length

def isNumeral (c : Char) : Bool :=
  c.isDigit || c == '_'

def isHexNumeral (c : Char) : Bool :=
  isNumeral c || ('a' ≤ c && c ≤ 'f') || ('A' ≤ c && c ≤ 'F')

def fractionLength (p : Char → Bool) : List Char → Nat
  | '.' :: rest => 1 + run p rest
  | _ => 0

def signLength : List Char → Nat
  | '+' :: _ => 1
  | '-' :: _ => 1
  | _ => 0

/-- An exponent counts only with at least one digit. -/
def exponentLength (isMark : Char → Bool) : List Char → Nat
  | [] => 0
  | c :: rest =>
    let sign := signLength rest
    let digits := run isNumeral (rest.drop sign)
    if isMark c && digits != 0 then 1 + sign + digits else 0

def isDecimalMark (c : Char) : Bool :=
  c == 'e' || c == 'E'

def isBinaryMark (c : Char) : Bool :=
  c == 'p' || c == 'P'

def decimalLength (chars : List Char) : Nat :=
  let whole := run isNumeral chars
  let fraction := fractionLength isNumeral (chars.drop whole)
  whole + fraction + exponentLength isDecimalMark (chars.drop (whole + fraction))

def hexLength (chars : List Char) : Nat :=
  let whole := run isHexNumeral chars
  let fraction := fractionLength isHexNumeral (chars.drop whole)
  whole + fraction + exponentLength isBinaryMark (chars.drop (whole + fraction))

def pointLength : List Char → Nat
  | c :: rest =>
    if c.isDigit then
      let digits := run isNumeral (c :: rest)
      1 + digits + exponentLength isDecimalMark ((c :: rest).drop digits)
    else 0
  | [] => 0

def realLength : List Char → Nat
  | '0' :: c :: rest =>
    if c == 'x' || c == 'X' then 2 + hexLength rest
    else if (c == 'b' || c == 'B' || c == 'o' || c == 'O') && run isNumeral rest != 0 then
      2 + run isNumeral rest
    else decimalLength ('0' :: c :: rest)
  | '.' :: rest => pointLength rest
  | c :: rest => if c.isDigit then decimalLength (c :: rest) else 0
  | [] => 0

def numberLength (chars : List Char) : Nat :=
  let real := realLength chars
  match real, chars.drop real with
  | 0, _ => 0
  | _, 'i' :: _ => real + 1
  | _, _ => real

end GoSpecs.Token
