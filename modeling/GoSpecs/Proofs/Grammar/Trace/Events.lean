import GoSpecs.Grammar.File

namespace GoSpecs

/-- A phrase that is being read, from the cursor it began at. -/
structure Frame where
  phrase : Phrase
  entry : Cursor

/-- The stack holds the phrases around, the innermost first. -/
inductive Event where
  | enter (phrase : Phrase) (stack : List Frame) (cursor : Cursor)
  | leave (phrase : Phrase) (stack : List Frame) (entry after : Cursor)
  | again (course : Parser.Course) (entry after : Cursor)

/-- What a run tells, and what comes of it. -/
abbrev Telling (α : Type) : Type :=
  List Event × Except SyntaxError (α × Cursor)

namespace Telling

variable {α β σ : Type}

def bind : Telling α → (α → Cursor → Telling β) → Telling β
  | (events, .ok (result, after)), next => (events ++ (next result after).1, (next result after).2)
  | (events, .error error), _ => (events, .error error)

def within (phrase : Phrase) (stack : List Frame) (entry : Cursor) : Telling α → Telling α
  | (events, .ok (result, after)) =>
    (.enter phrase stack entry :: (events ++ [.leave phrase stack entry after]), .ok (result, after))
  | (events, .error error) => (.enter phrase stack entry :: events, .error error)

def round (course : Parser.Course) (entry : Cursor) : Telling (Parser.Step σ α) → Telling (Parser.Step σ α)
  | (events, .ok (.again state, after)) => (events ++ [.again course entry after], .ok (.again state, after))
  | telling => telling

end Telling

def Traced (α : Type) : Type :=
  List Frame → Cursor → Telling α

instance : MonadParser Traced where
  pure result := fun _ cursor => ([], .ok (result, cursor))
  bind rule next := fun stack cursor => (rule stack cursor).bind fun result after => next result stack after
  get := fun _ cursor => ([], .ok (cursor, cursor))
  set cursor := fun _ _ => ([], .ok ((), cursor))
  modifyGet change := fun _ cursor => ([], .ok (change cursor))
  raise error := fun _ _ => ([], .error error)
  phrase phrase rule := fun stack cursor => (rule (⟨phrase, cursor⟩ :: stack) cursor).within phrase stack cursor
  round course step := fun stack cursor => (step stack cursor).round course cursor

namespace Phrase

def isBracket : Phrase → Bool
  | .parens | .call | .indexOrSlice | .arrayLength | .composite => true
  | _ => false

def isHeader : Phrase → Bool
  | .ifHeader | .forHeader | .switchHeader => true
  | _ => false

/-- Brackets outside do not count inside. -/
def isScope : Phrase → Bool
  | .body | .declaration => true
  | phrase => phrase.isHeader

/-- More is said of the others than that they keep the level. -/
def isFree : Phrase → Bool
  | .expr | .stmt | .caseClause | .declaration | .composite | .brace _ => false
  | _ => true

def isPlain (phrase : Phrase) : Bool :=
  phrase.isFree && !phrase.isScope && !phrase.isBracket

variable {phrase : Phrase}

theorem isPlain_iff :
    phrase.isPlain = true ↔ phrase.isFree = true ∧ phrase.isScope = false ∧ phrase.isBracket = false := by
  simp [isPlain, and_assoc]

theorem isScope_of_isBracket (bracket : phrase.isBracket = true) : phrase.isScope = false := by
  cases phrase with
  | parens | call | indexOrSlice | arrayLength | composite => rfl
  | _ => cases bracket

theorem isScope_of_isHeader (header : phrase.isHeader = true) : phrase.isScope = true := by
  cases phrase with
  | body | declaration => rfl
  | _ => exact header

theorem isFree_of_isHeader (header : phrase.isHeader = true) : phrase.isFree = true := by
  cases phrase with
  | ifHeader | forHeader | switchHeader => rfl
  | _ => cases header

end Phrase

namespace Frame

/-- The brackets that are open since the innermost function body, declaration or header. -/
def openBrackets (stack : List Frame) : Nat :=
  (stack.takeWhile (!·.phrase.isScope)).countP (·.phrase.isBracket)

/-- The innermost function body, declaration or header is a header. -/
def inHeader (stack : List Frame) : Bool :=
  (stack.find? (·.phrase.isScope)).any (·.phrase.isHeader)

def level (stack : List Frame) : Int :=
  openBrackets stack - if inHeader stack then 1 else 0

/-- There is a header around and no bracket between. -/
def directlyInHeader (stack : List Frame) : Prop :=
  inHeader stack = true ∧ openBrackets stack = 0

instance (stack : List Frame) : Decidable (directlyInHeader stack) :=
  inferInstanceAs (Decidable (_ ∧ _))

variable {phrase : Phrase} {entry : Cursor} {stack : List Frame}

theorem openBrackets_inner (inner : phrase.isScope = false) :
    openBrackets (⟨phrase, entry⟩ :: stack) = openBrackets stack + phrase.isBracket.toNat := by
  cases bracket : phrase.isBracket <;> simp [openBrackets, inner, bracket]

theorem inHeader_inner (inner : phrase.isScope = false) : inHeader (⟨phrase, entry⟩ :: stack) = inHeader stack := by
  simp [inHeader, inner]

theorem openBrackets_scope (scope : phrase.isScope = true) : openBrackets (⟨phrase, entry⟩ :: stack) = 0 := by
  simp [openBrackets, scope]

theorem inHeader_scope (scope : phrase.isScope = true) : inHeader (⟨phrase, entry⟩ :: stack) = phrase.isHeader := by
  simp [inHeader, scope]

theorem level_plain (inner : phrase.isScope = false) (flat : phrase.isBracket = false) :
    level (⟨phrase, entry⟩ :: stack) = level stack := by
  rw [level, level, openBrackets_inner inner, inHeader_inner inner, flat]
  rfl

theorem level_bracket (bracket : phrase.isBracket = true) :
    level (⟨phrase, entry⟩ :: stack) = level stack + 1 := by
  have inner := Phrase.isScope_of_isBracket bracket
  rw [level, level, openBrackets_inner inner, inHeader_inner inner, bracket, Bool.toNat_true]
  omega

theorem level_header (header : phrase.isHeader = true) : level (⟨phrase, entry⟩ :: stack) = -1 := by
  have scope := Phrase.isScope_of_isHeader header
  rw [level, openBrackets_scope scope, inHeader_scope scope, header]
  rfl

theorem level_outside (header : phrase.isHeader = false) (scope : phrase.isScope = true) :
    level (⟨phrase, entry⟩ :: stack) = 0 := by
  rw [level, openBrackets_scope scope, inHeader_scope scope, header]
  rfl

theorem level_neg_iff : level stack < 0 ↔ directlyInHeader stack := by
  unfold level directlyInHeader
  cases inHeader stack with
  | true =>
    simp only [if_true, true_and]
    omega
  | false => simp

end Frame

/-- A phrase reads only phrases of lower rank before its first token. -/
def Phrase.rank : Phrase → Nat
  | .brace _ | .body | .signature | .paramType | .constraintTerm | .declaration | .operand => 1
  | .suffixes | .constraint | .primary | .file => 2
  | .unary => 3
  | .binary => 4
  | .expr => 5
  | .arrayLength | .exprList | .elementValue => 6
  | .element | .simpleOrRange => 7
  | .simple => 8
  | .ifHeader | .forHeader | .switchHeader | .stmt => 9
  | .stmtList => 10
  | .clauseBody => 11
  | _ => 0

/-- Above the ranks of all phrases. -/
abbrev Phrase.ranks : Nat := 12

/-- The phrase may begin where there is room for the phrases below the rank. -/
abbrev Phrase.fits (phrase : Phrase) (rank : Nat) : Bool :=
  phrase.rank < rank

/-- What goes down from each frame to the next one inside it. -/
def Frame.measure (frame : Frame) : Nat :=
  frame.entry.rest.length * Phrase.ranks + frame.phrase.rank

namespace Event

/-- The level is as the phrases around say it, and a phrase leaves it as it was. A brace after no more than a
type name opens a literal unless it stands directly in a header, where it is left unread. -/
def Leveled : Event → Prop
  | .enter .expr stack cursor => cursor.level = Frame.level stack
  | .enter .stmt _ cursor | .enter .caseClause _ cursor | .enter .declaration _ cursor => cursor.level = 0
  | .enter .composite (⟨.brace true, _⟩ :: stack) _ => 0 ≤ Frame.level stack
  | .leave (.brace true) stack entry after =>
    after.level = entry.level ∧ (after = entry ↔ Frame.level stack < 0)
  | .leave _ _ entry after => after.level = entry.level
  | _ => True

/-- A phrase inside itself begins after the outer one, and a round over tokens after the one before it. -/
def Advances (budget : Nat) : Event → Prop
  | .enter phrase stack cursor =>
    stack.length < budget ∧
      ∀ frame ∈ stack, frame.phrase = phrase → cursor.rest.length < frame.entry.rest.length
  | .leave _ _ _ _ => True
  | .again .tokens entry after => after.rest.length < entry.rest.length
  | .again .entries entry after => after.rest.length ≤ entry.rest.length

theorem Leveled.kept {phrase : Phrase} {stack : List Frame} {entry after : Cursor}
    (leveled : (Event.leave phrase stack entry after).Leveled) : after.level = entry.level := by
  cases phrase with
  | brace bare =>
    cases bare with
    | true => exact leveled.1
    | false => exact leveled
  | _ => exact leveled

structure Proper (budget : Nat) (event : Event) : Prop where
  leveled : event.Leveled
  advances : event.Advances budget

end Event

end GoSpecs
