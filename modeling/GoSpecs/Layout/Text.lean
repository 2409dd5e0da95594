namespace GoSpecs.Layout

def tabs (count : Nat) : String :=
  String.ofList (List.replicate count '\t')

def blanks (count : Nat) : String :=
  String.ofList (List.replicate count ' ')

def hasNewline (text : String) : Bool :=
  text.toList.contains '\n'

def width (text : String) : Nat :=
  text.length

def newlineIf (test : Bool) : String :=
  if test then "\n" else ""

def concat (texts : List String) : String :=
  String.join texts

def commas (texts : List String) : String :=
  ", ".intercalate texts

end GoSpecs.Layout
