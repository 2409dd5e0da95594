namespace GoSpecs.Text

def splitList {α : Type} (isSeparator : α → Bool) : List α → List (List α)
  | [] => [[]]
  | item :: items =>
    match splitList isSeparator items with
    | [] => [[item]]
    | part :: parts => if isSeparator item then [] :: part :: parts else (item :: part) :: parts

def split (isSeparator : Char → Bool) (text : String) : List String :=
  (splitList isSeparator text.toList).map String.ofList

def lines (text : String) : List String :=
  (splitList (· == '\n') text.toList).map fun line =>
    String.ofList (if line.getLast? == some '\r' then line.dropLast else line)

end GoSpecs.Text
