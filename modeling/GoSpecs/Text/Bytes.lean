namespace GoSpecs

/-- A name or a path as a disk has it, which need not be text. -/
abbrev Bytes := List UInt8

namespace Text

def utf8 (text : String) : Bytes :=
  text.toList.flatMap String.utf8EncodeChar

end Text

namespace Bytes

/-- The order of names on a disk. -/
def comesFirst : Bytes → Bytes → Bool
  | [], _ => true
  | _ :: _, [] => false
  | byte :: bytes, other :: others =>
    decide (byte.toNat < other.toNat) || (byte == other && comesFirst bytes others)

end Bytes

end GoSpecs
