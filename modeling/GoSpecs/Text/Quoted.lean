import GoSpecs.Text.Visible

namespace GoSpecs.Text

def hexCode (c : Char) : List Char :=
  ['\\', 'u', '\x7b'] ++ Nat.toDigits 16 c.toNat ++ ['\x7d']

def quotedChar (c : Char) : List Char :=
  if c = '\x00' then ['\\', '0']
  else if c = '\t' then ['\\', 't']
  else if c = '\r' then ['\\', 'r']
  else if c = '\n' then ['\\', 'n']
  else if c = '"' then ['\\', '"']
  else if c = '\\' then ['\\', '\\']
  else if isVisible c then [c]
  else hexCode c

def quoted (text : List Char) : String :=
  String.ofList (['"'] ++ text.flatMap quotedChar ++ ['"'])

end GoSpecs.Text
