import GoSpecs.Proofs.Source.Lines
import GoSpecs.Proofs.Syntax.Located
import Mathlib.Data.List.Pairwise

namespace GoSpecs

structure Place where
  first : Nat
  second : Nat
deriving DecidableEq

instance : LE Place := ⟨fun place later => place.first ≤ later.first ∧ place.second ≤ later.second⟩

instance : LT Place := ⟨fun place later => place.first < later.first ∧ place.second < later.second⟩

theorem Span.merge_range {start stop start' stop' : Nat} (begins : start ≤ start') (ends : stop ≤ stop') :
    (range start stop).merge (range start' stop') = range start stop' := by
  rw [merge, if_neg (range_ne_detached _ _), if_neg (range_ne_detached _ _)]
  simp only [range, least, greatest, Nat.min_eq_left begins, Nat.max_eq_right ends]

/-- Tokens of the same kind and the same text. A semicolon may be written in one source and inserted in the other. -/
def Token.Alike (token other : Token) : Prop :=
  token = other ∨ token.isSemicolon = true ∧ other.isSemicolon = true

instance (token other : Token) : Decidable (token.Alike other) :=
  inferInstanceAs (Decidable (_ ∨ _))

namespace Token.Alike

variable {token other : Token}

theorem isSemicolon_eq (alike : token.Alike other) : other.isSemicolon = token.isSemicolon := by
  rcases alike with rfl | ⟨one, two⟩
  · rfl
  · rw [one, two]

theorem isComment_eq (alike : token.Alike other) : other.isComment = token.isComment := by
  rcases alike with rfl | ⟨one, two⟩
  · rfl
  · cases token <;> cases other <;> simp_all [Token.isSemicolon, Token.isComment]

theorem eq (alike : token.Alike other) (plain : token.isSemicolon = false) : other = token := by
  rcases alike with rfl | ⟨one, -⟩
  · rfl
  · simp [plain] at one

end Token.Alike

structure TokenPair where
  first : Lexeme
  second : Lexeme
  alike : first.token.Alike second.token

namespace TokenPair

variable (pair : TokenPair)

def start : Place := ⟨pair.first.start, pair.second.start⟩

def stop : Place := ⟨pair.first.stop, pair.second.stop⟩

abbrev isSemicolon : Bool := pair.first.token.isSemicolon

abbrev isComment : Bool := pair.first.token.isComment

def Apart (pair other : TokenPair) : Prop :=
  pair.stop ≤ other.start ∨ other.stop ≤ pair.start

instance : Std.Symm Apart := ⟨fun _ _ apart => apart.symm⟩

end TokenPair

def Lexeme.comment (lexeme : Lexeme) : Comment :=
  ⟨lexeme.token.text, .range lexeme.start lexeme.stop⟩

/-- The tokens of two sources in pairs. -/
structure Pairing where
  pairs : List TokenPair
  source : List Char
  source' : List Char
  ordered : pairs.Pairwise fun pair later => pair.stop ≤ later.start
  bounded : ∀ pair ∈ pairs, pair.start ≤ pair.stop ∧ pair.stop ≤ ⟨Text.byteSize source, Text.byteSize source'⟩
  filled : ∀ pair ∈ pairs, pair.isSemicolon = false → pair.start < pair.stop
  starting : ∀ pair ∈ pairs,
    (Lines.ofSource source).lineOf pair.start.first = (Lines.ofSource source').lineOf pair.start.second
  stopping : ∀ pair ∈ pairs, pair.isSemicolon = false →
    (Lines.ofSource source).lineOf pair.stop.first = (Lines.ofSource source').lineOf pair.stop.second ∧
      (Lines.ofSource source).lineOf (pair.stop.first - 1) = (Lines.ofSource source').lineOf (pair.stop.second - 1)
  /-- No token starts or ends inside a character. -/
  whole : ∀ pair ∈ pairs, pair.isSemicolon = false →
    (Text.Cuts source pair.start.first ∧ Text.Cuts source' pair.start.second) ∧
      Text.Cuts source pair.stop.first ∧ Text.Cuts source' pair.stop.second

namespace Pairing

variable (pairing : Pairing)

def size : Place := ⟨Text.byteSize pairing.source, Text.byteSize pairing.source'⟩

def lines : Lines := .ofSource pairing.source

def lines' : Lines := .ofSource pairing.source'

def lexemes : List Lexeme := pairing.pairs.map (·.first)

def tokens : List TokenPair := pairing.pairs.filter (!·.isComment)

def solid : List TokenPair := pairing.pairs.filter (!·.isSemicolon)

def locate? (span : Span) : Option (Place × Place) := do
  let start ← span.start?
  let stop ← span.stop?
  let first ← pairing.solid.find? (·.start.first == start)
  let last ← pairing.solid.find? (·.stop.first == stop)
  return (first.start, last.stop)

/-- The span itself if tokens of the first source start and end it. -/
def kept (span : Span) : Span :=
  if (pairing.locate? span).isSome then span else .detached

/-- Where the tokens that start and end the span stand in the second source. -/
def moved (span : Span) : Span :=
  match pairing.locate? span with
  | some (start, stop) => .range start.second stop.second
  | none => .detached

variable {pairing} {pair later : TokenPair}

theorem mem_tokens : pair ∈ pairing.tokens ↔ pair ∈ pairing.pairs ∧ pair.isComment = false := by
  simp [tokens]

theorem mem_solid : pair ∈ pairing.solid ↔ pair ∈ pairing.pairs ∧ pair.isSemicolon = false := by
  simp [solid]

theorem eq_or_apart (here : pair ∈ pairing.pairs) (there : later ∈ pairing.pairs) :
    pair = later ∨ pair.Apart later := by
  by_cases same : pair = later
  · exact .inl same
  · have apart : pairing.pairs.Pairwise TokenPair.Apart := pairing.ordered.imp .inl
    exact .inr (apart.forall here there same)

theorem eq_of_start (here : pair ∈ pairing.solid) (there : later ∈ pairing.solid)
    (same : pair.start.first = later.start.first) : pair = later := by
  rw [mem_solid] at here there
  have filled := (pairing.filled pair here.1 here.2).1
  have filled' := (pairing.filled later there.1 there.2).1
  rcases eq_or_apart here.1 there.1 with equal | ⟨before, -⟩ | ⟨before, -⟩
  · exact equal
  · omega
  · omega

theorem eq_of_stop (here : pair ∈ pairing.solid) (there : later ∈ pairing.solid)
    (same : pair.stop.first = later.stop.first) : pair = later := by
  rw [mem_solid] at here there
  have filled := (pairing.filled pair here.1 here.2).1
  have filled' := (pairing.filled later there.1 there.2).1
  rcases eq_or_apart here.1 there.1 with equal | ⟨before, -⟩ | ⟨before, -⟩
  · exact equal
  · omega
  · omega

theorem locate?_range (here : pair ∈ pairing.solid) (there : later ∈ pairing.solid) :
    pairing.locate? (.range pair.start.first later.stop.first) = some (pair.start, later.stop) := by
  have first : pairing.solid.find? (·.start.first == pair.start.first) = some pair := by
    obtain ⟨found, eq⟩ := Option.isSome_iff_exists.mp
      (List.find?_isSome (p := (·.start.first == pair.start.first)).mpr ⟨pair, here, beq_self_eq_true _⟩)
    rw [eq, eq_of_start (List.mem_of_find?_eq_some eq) here (by simpa using List.find?_some eq)]
  have last : pairing.solid.find? (·.stop.first == later.stop.first) = some later := by
    obtain ⟨found, eq⟩ := Option.isSome_iff_exists.mp
      (List.find?_isSome (p := (·.stop.first == later.stop.first)).mpr ⟨later, there, beq_self_eq_true _⟩)
    rw [eq, eq_of_stop (List.mem_of_find?_eq_some eq) there (by simpa using List.find?_some eq)]
  simp [locate?, Span.range, first, last]

theorem kept_range (here : pair ∈ pairing.solid) (there : later ∈ pairing.solid) :
    pairing.kept (.range pair.start.first later.stop.first) = .range pair.start.first later.stop.first := by
  rw [kept, locate?_range here there]
  rfl

theorem moved_range (here : pair ∈ pairing.solid) (there : later ∈ pairing.solid) :
    pairing.moved (.range pair.start.first later.stop.first) = .range pair.start.second later.stop.second := by
  rw [moved, locate?_range here there]

theorem mem_solid_of_token (here : pair ∈ pairing.tokens) (plain : pair.isSemicolon = false) : pair ∈ pairing.solid :=
  mem_solid.mpr ⟨(mem_tokens.mp here).1, plain⟩

/-- A token starts at the one place, and a token ends at the other one. -/
structure Spans (pairing : Pairing) (start stop : Place) : Prop where
  less : start.first < stop.first
  starts : ∃ pair ∈ pairing.tokens, pair.isSemicolon = false ∧ pair.start = start
  stops : ∃ pair ∈ pairing.tokens, pair.isSemicolon = false ∧ pair.stop = stop

namespace Spans

variable {start middle stop : Place}

theorem aligned (spans : pairing.Spans start stop) : Aligned pairing.lexemes start.first stop.first := by
  obtain ⟨less, ⟨pair, here, plain, rfl⟩, later, there, plain', rfl⟩ := spans
  refine ⟨less, ⟨pair.first, ?_, ⟨?_, plain⟩, rfl⟩, ⟨later.first, ?_, ⟨?_, plain'⟩, rfl⟩⟩
  · exact List.mem_map_of_mem (mem_tokens.mp here).1
  · exact (mem_tokens.mp here).2
  · exact List.mem_map_of_mem (mem_tokens.mp there).1
  · exact (mem_tokens.mp there).2

theorem le_second (spans : pairing.Spans start stop) : start.second ≤ stop.second := by
  obtain ⟨less, ⟨pair, here, plain, rfl⟩, later, there, plain', rfl⟩ := spans
  rw [mem_tokens] at here there
  have filled := pairing.filled pair here.1 plain
  have filled' := pairing.filled later there.1 plain'
  rcases eq_or_apart here.1 there.1 with rfl | before | before
  · exact Nat.le_of_lt filled.2
  · exact Nat.le_trans (Nat.le_of_lt filled.2) (Nat.le_trans before.2 (Nat.le_of_lt filled'.2))
  · have first := before.1
    omega

theorem kept_eq (spans : pairing.Spans start stop) :
    pairing.kept (.range start.first stop.first) = .range start.first stop.first := by
  obtain ⟨less, ⟨pair, here, plain, rfl⟩, later, there, plain', rfl⟩ := spans
  exact kept_range (mem_solid_of_token here plain) (mem_solid_of_token there plain')

theorem moved_eq (spans : pairing.Spans start stop) :
    pairing.moved (.range start.first stop.first) = .range start.second stop.second := by
  obtain ⟨less, ⟨pair, here, plain, rfl⟩, later, there, plain', rfl⟩ := spans
  exact moved_range (mem_solid_of_token here plain) (mem_solid_of_token there plain')

theorem second_le {start' stop' : Place} (spans : pairing.Spans start stop) (more : pairing.Spans start' stop')
    (before : stop.first ≤ start'.first) : stop.second ≤ start'.second := by
  obtain ⟨less, -, pair, here, plain, rfl⟩ := spans
  obtain ⟨less', ⟨later, there, plain', rfl⟩, -⟩ := more
  rw [mem_tokens] at here there
  have filled := (pairing.filled pair here.1 plain).1
  have filled' := (pairing.filled later there.1 plain').1
  rcases eq_or_apart here.1 there.1 with rfl | before' | before'
  · omega
  · exact before'.2
  · have first := before'.1
    omega

theorem merge {start' stop' : Place} (spans : pairing.Spans start stop) (more : pairing.Spans start' stop')
    (before : stop.first ≤ start'.first) :
    (Span.range start.first stop.first).merge (.range start'.first stop'.first) = .range start.first stop'.first ∧
      (Span.range start.second stop.second).merge (.range start'.second stop'.second) =
        .range start.second stop'.second := by
  have less := spans.less
  have less' := more.less
  have second := spans.le_second
  have second' := more.le_second
  have between := spans.second_le more before
  exact ⟨Span.merge_range (by omega) (by omega), Span.merge_range (by omega) (by omega)⟩

end Spans

end Pairing

/-- A cursor in each source, before the same token. -/
structure Joint (pairing : Pairing) where
  rest : List TokenPair
  comments : List TokenPair
  last? : Option TokenPair
  level : Int
  ahead : rest <:+ pairing.tokens
  known : ∀ pair ∈ comments, pair ∈ pairing.pairs ∧ pair.isComment = true
  behind : ∀ last ∈ last?, last ∈ pairing.tokens ∧ last.isSemicolon = false ∧ ∀ pair ∈ rest, last.stop ≤ pair.start

namespace Joint

variable {pairing : Pairing} (joint : Joint pairing)

def start : Place :=
  match joint.rest with
  | pair :: _ => pair.start
  | [] => pairing.size

def stop : Place :=
  match joint.last? with
  | some last => last.stop
  | none => ⟨0, 0⟩

def first : Cursor where
  rest := joint.rest.map (·.first)
  comments := joint.comments.map (·.first.comment)
  lastEnd := joint.stop.first
  level := joint.level
  source := pairing.source

def second : Cursor where
  rest := joint.rest.map (·.second)
  comments := joint.comments.map (·.second.comment)
  lastEnd := joint.stop.second
  level := joint.level
  source := pairing.source'

def advance : Joint pairing where
  rest := joint.rest.tail
  comments := joint.comments
  last? :=
    match joint.rest with
    | pair :: _ => if pair.isSemicolon then joint.last? else some pair
    | [] => joint.last?
  level := joint.level
  ahead := (List.tail_suffix _).trans joint.ahead
  known := joint.known
  behind := by
    intro last found
    have ordered : joint.rest.Pairwise fun pair later => pair.stop ≤ later.start :=
      (pairing.ordered.filter _).sublist joint.ahead.sublist
    have ahead := joint.ahead.subset
    have behind := joint.behind
    split at found
    · rename_i pair rest split
      rw [split] at ordered ahead behind ⊢
      split at found
      · obtain ⟨token, plain, before⟩ := behind last found
        exact ⟨token, plain, fun pair here => before pair (List.mem_cons_of_mem _ here)⟩
      · rename_i plain
        cases found
        exact ⟨ahead List.mem_cons_self, by simpa using plain, (List.pairwise_cons.mp ordered).1⟩
    · rename_i none
      rw [none] at behind ⊢
      exact behind last found

def withLevel (level : Int) : Joint pairing := { joint with level }

def withComments (comments : List TokenPair) (fewer : ∀ pair ∈ comments, pair ∈ joint.comments) : Joint pairing :=
  { joint with comments, known := fun pair here => joint.known pair (fewer pair here) }

@[simp] theorem start_first : joint.first.start = joint.start.first := by
  unfold Cursor.start start first
  cases joint.rest <;> rfl

@[simp] theorem start_second : joint.second.start = joint.start.second := by
  unfold Cursor.start start second
  cases joint.rest <;> rfl

@[simp] theorem first_advance : joint.first.advance = joint.advance.first := by
  obtain ⟨rest, comments, last?, level, ahead, known, behind⟩ := joint
  cases rest with
  | nil => rfl
  | cons pair rest => cases plain : pair.isSemicolon <;> simp [Cursor.advance, advance, first, stop, TokenPair.stop, plain]

@[simp] theorem second_advance : joint.second.advance = joint.advance.second := by
  obtain ⟨rest, comments, last?, level, ahead, known, behind⟩ := joint
  cases rest with
  | nil => rfl
  | cons pair rest =>
    cases plain : pair.isSemicolon <;>
      simp [Cursor.advance, advance, second, stop, TokenPair.stop, pair.alike.isSemicolon_eq, plain]

theorem stop_le_size : joint.stop ≤ pairing.size := by
  unfold stop
  split
  · rename_i last found
    exact (pairing.bounded last (Pairing.mem_tokens.mp (joint.behind last found).1).1).2
  · exact ⟨Nat.zero_le _, Nat.zero_le _⟩

theorem stop_le_start : joint.stop ≤ joint.start := by
  unfold start
  split
  · rename_i pair rest split
    unfold stop
    cases found : joint.last? with
    | some last => exact (joint.behind last found).2.2 pair (by simp [split])
    | none => exact ⟨Nat.zero_le _, Nat.zero_le _⟩
  · exact joint.stop_le_size

theorem spans {start stop : Place} (begun : pairing.Spans start stop) (later : stop.first ≤ joint.stop.first) :
    pairing.Spans start joint.stop := by
  have less := begun.less
  refine ⟨by omega, begun.starts, ?_⟩
  unfold Joint.stop at later ⊢
  split
  · rename_i last found
    obtain ⟨token, plain, -⟩ := joint.behind last found
    exact ⟨last, token, plain, rfl⟩
  · rename_i none
    rw [none] at later
    simp only at later
    omega

/-- The same token is so many places ahead, up to the way that a semicolon came about. -/
theorem ahead_cases (count : Nat) :
    (joint.second.rest[count]?).map (·.token) = (joint.first.rest[count]?).map (·.token) ∨
      ∃ inserted inserted', (joint.first.rest[count]?).map (·.token) = some (.semicolon inserted) ∧
        (joint.second.rest[count]?).map (·.token) = some (.semicolon inserted') := by
  simp only [first, second, List.getElem?_map, Option.map_map, Function.comp_def]
  cases joint.rest[count]? with
  | none => exact .inl rfl
  | some pair =>
    simp only [Option.map_some, Option.some.injEq]
    rcases pair.alike with same | ⟨one, two⟩
    · exact .inl same.symm
    · cases left : pair.first.token with
      | semicolon inserted =>
        cases right : pair.second.token with
        | semicolon inserted' => exact .inr ⟨inserted, inserted', rfl, rfl⟩
        | _ => simp [right, Token.isSemicolon] at two
      | _ => simp [left, Token.isSemicolon] at one

theorem peek_cases :
    joint.second.peek = joint.first.peek ∨
      ∃ inserted inserted', joint.first.peek = some (.semicolon inserted) ∧
        joint.second.peek = some (.semicolon inserted') := by
  simp only [Cursor.peek, List.head?_eq_getElem?]
  exact joint.ahead_cases 0

theorem peek_second {token : Token} (peeked : joint.first.peek = some token) (plain : token.isSemicolon = false) :
    joint.second.peek = some token := by
  rcases joint.peek_cases with same | ⟨inserted, inserted', one, -⟩
  · rw [same, peeked]
  · rw [peeked] at one
    cases one
    cases plain

theorem stop_le_advance : joint.stop.first ≤ joint.advance.stop.first := by
  obtain ⟨rest, comments, last?, level, ahead, known, behind⟩ := joint
  cases rest with
  | nil => exact Nat.le_refl _
  | cons pair rest =>
    simp only [stop, advance]
    cases plain : pair.isSemicolon with
    | true => simp
    | false =>
      simp only [Bool.false_eq_true, if_false]
      cases last? with
      | none => exact Nat.zero_le _
      | some last =>
        have before := ((behind last rfl).2.2 pair List.mem_cons_self).1
        have here := (Pairing.mem_tokens.mp (ahead.subset List.mem_cons_self)).1
        exact Nat.le_trans before (pairing.bounded pair here).1.1

end Joint

def Pairing.Took (pairing : Pairing) (token : Token) (start stop : Place) : Prop :=
  ∃ pair ∈ pairing.tokens, pair.isSemicolon = false ∧ pair.first.token = token ∧ pair.start = start ∧ pair.stop = stop

namespace Pairing.Took

variable {pairing : Pairing} {token : Token} {start stop : Place}

theorem spans (took : pairing.Took token start stop) : pairing.Spans start stop := by
  obtain ⟨pair, here, plain, -, rfl, rfl⟩ := took
  have less := pairing.filled pair (mem_tokens.mp here).1 plain
  exact ⟨less.1, ⟨pair, here, plain, rfl⟩, ⟨pair, here, plain, rfl⟩⟩

theorem mem_lexemes (took : pairing.Took token start stop) : ⟨token, start.first, stop.first⟩ ∈ pairing.lexemes := by
  obtain ⟨pair, here, -, rfl, rfl, rfl⟩ := took
  exact List.mem_map_of_mem (mem_tokens.mp here).1

end Pairing.Took

namespace Joint

variable {pairing : Pairing} {joint : Joint pairing} {token : Token}

theorem took (peeked : joint.first.peek = some token) (plain : token.isSemicolon = false) :
    pairing.Took token joint.start joint.advance.stop := by
  obtain ⟨rest, comments, last?, level, ahead, known, behind⟩ := joint
  cases rest with
  | nil => cases peeked
  | cons pair rest =>
    cases peeked
    exact ⟨pair, ahead.subset List.mem_cons_self, plain, rfl, rfl, by simp [stop, advance, plain]⟩

theorem span_first (peeked : joint.first.peek = some token) (plain : token.isSemicolon = false) :
    joint.first.span = .range joint.start.first joint.advance.stop.first := by
  obtain ⟨rest, comments, last?, level, ahead, known, behind⟩ := joint
  cases rest with
  | nil => cases peeked
  | cons pair rest =>
    cases peeked
    simp [Cursor.span, first, start, stop, advance, TokenPair.start, TokenPair.stop, plain]

theorem span_second (peeked : joint.first.peek = some token) (plain : token.isSemicolon = false) :
    joint.second.span = .range joint.start.second joint.advance.stop.second := by
  obtain ⟨rest, comments, last?, level, ahead, known, behind⟩ := joint
  cases rest with
  | nil => cases peeked
  | cons pair rest =>
    cases peeked
    simp [Cursor.span, second, start, stop, advance, TokenPair.start, TokenPair.stop, plain]

theorem span_bounds (joint : Joint pairing) : ∃ start stop, joint.first.span = .range start stop ∧ start ≤ stop ∧
    stop ≤ pairing.size.first := by
  obtain ⟨rest, comments, last?, level, ahead, known, behind⟩ := joint
  cases rest with
  | nil => exact ⟨_, _, rfl, Nat.le_refl _, Nat.le_refl _⟩
  | cons pair rest =>
    obtain ⟨proper, bounded⟩ := pairing.bounded pair (Pairing.mem_tokens.mp (ahead.subset List.mem_cons_self)).1
    exact ⟨_, _, rfl, proper.1, bounded.1⟩

end Joint

end GoSpecs
