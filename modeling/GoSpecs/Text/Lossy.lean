import GoSpecs.Text.Bytes

namespace GoSpecs.Text

def replacementChar : Char := '�'

/-- The range that the second byte of a character must be in, and the number of bytes after the
first, for each first byte of a character outside ASCII. -/
def continuation? (first : Nat) : Option (Nat × Nat × Nat) :=
  if 0xc2 ≤ first ∧ first ≤ 0xdf then some (0x80, 0xbf, 1)
  else if first = 0xe0 then some (0xa0, 0xbf, 2)
  else if 0xe1 ≤ first ∧ first ≤ 0xec then some (0x80, 0xbf, 2)
  else if first = 0xed then some (0x80, 0x9f, 2)
  else if 0xee ≤ first ∧ first ≤ 0xef then some (0x80, 0xbf, 2)
  else if first = 0xf0 then some (0x90, 0xbf, 3)
  else if 0xf1 ≤ first ∧ first ≤ 0xf3 then some (0x80, 0xbf, 3)
  else if first = 0xf4 then some (0x80, 0x8f, 3)
  else none

structure Incomplete where
  code : Nat
  missing : Nat
  low : Nat
  high : Nat

def opening (value : Nat) : List Char × Option Incomplete :=
  if value < 0x80 then ([Char.ofNat value], none)
  else
    match continuation? value with
    | some (low, high, missing) => ([], some ⟨value % (1 <<< (6 - missing)), missing, low, high⟩)
    | none => ([replacementChar], none)

def advance (pending : Option Incomplete) (value : Nat) : List Char × Option Incomplete :=
  match pending with
  | none => opening value
  | some ⟨code, missing, low, high⟩ =>
    if low ≤ value ∧ value ≤ high then
      let code := code * 64 + value % 64
      if missing ≤ 1 then ([Char.ofNat code], none)
      else ([], some ⟨code, missing - 1, 0x80, 0xbf⟩)
    else
      let (chars, pending) := opening value
      (replacementChar :: chars, pending)

def lossyFrom (pending : Option Incomplete) : Bytes → List Char
  | [] => if pending.isSome then [replacementChar] else []
  | byte :: bytes =>
    let (chars, pending) := advance pending byte.toNat
    chars ++ lossyFrom pending bytes

def lossy (bytes : Bytes) : String :=
  String.ofList (lossyFrom none bytes)

end GoSpecs.Text
