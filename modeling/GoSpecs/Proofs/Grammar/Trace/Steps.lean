import GoSpecs.Proofs.Grammar.Trace.Events

namespace GoSpecs

/-- Where a rule is read: inside which phrases, at which level, with at most so many tokens ahead, and with
room for so many phrases inside one another. -/
structure Spot where
  stack : List Frame
  level : Int
  ahead : Nat
  budget : Nat

namespace Spot

structure Holds (spot : Spot) (cursor : Cursor) : Prop where
  level : cursor.level = spot.level
  ahead : cursor.rest.length ≤ spot.ahead

def next (spot : Spot) : Spot := { spot with ahead := spot.ahead - 1 }

def leveled (spot : Spot) (level : Int) : Spot := { spot with level }

def deeper (spot : Spot) : Spot := spot.leveled (spot.level + 1)

def inside (spot : Spot) (phrase : Phrase) (cursor : Cursor) : Spot :=
  { spot with stack := ⟨phrase, cursor⟩ :: spot.stack, ahead := cursor.rest.length }

/-- There is room for the phrases below a rank, and there are fewer tokens ahead than `bound`. -/
structure Roomy (bound rank : Nat) (spot : Spot) : Prop where
  fewer : spot.ahead < bound
  above : ∀ frame ∈ spot.stack, spot.ahead * Phrase.ranks + rank ≤ frame.measure
  room : spot.stack.length + (spot.ahead * Phrase.ranks + rank) ≤ spot.budget

structure Open (bound rank : Nat) (spot : Spot) : Prop extends Roomy bound rank spot where
  level : spot.level = Frame.level spot.stack

variable {spot : Spot} {bound rank : Nat} {phrase : Phrase} {cursor : Cursor}

theorem Roomy.leveled (roomy : spot.Roomy bound rank) (level : Int) : (spot.leveled level).Roomy bound rank :=
  ⟨roomy.fewer, roomy.above, roomy.room⟩

theorem Roomy.up (roomy : spot.Roomy bound rank) : spot.Roomy (bound + 1) rank :=
  { roomy with fewer := Nat.lt_succ_of_lt roomy.fewer }

/-- After a token there is room for all phrases. -/
theorem Roomy.next (roomy : spot.Roomy (bound + 1) rank) (some : 0 < spot.ahead) :
    spot.next.Roomy bound Phrase.ranks := by
  have split : (spot.ahead - 1) * Phrase.ranks + Phrase.ranks = spot.ahead * Phrase.ranks := by
    rw [← Nat.succ_mul, Nat.succ_eq_add_one, Nat.sub_add_cancel some]
  refine ⟨?_, fun frame member => ?_, ?_⟩
  · exact Nat.lt_of_lt_of_le (Nat.sub_lt some Nat.one_pos) (Nat.le_of_lt_succ roomy.fewer)
  · calc (spot.ahead - 1) * Phrase.ranks + Phrase.ranks
        = spot.ahead * Phrase.ranks := split
      _ ≤ spot.ahead * Phrase.ranks + rank := Nat.le_add_right _ _
      _ ≤ frame.measure := roomy.above frame member
  · calc spot.stack.length + ((spot.ahead - 1) * Phrase.ranks + Phrase.ranks)
        = spot.stack.length + spot.ahead * Phrase.ranks := by rw [split]
      _ ≤ spot.stack.length + (spot.ahead * Phrase.ranks + rank) := Nat.add_le_add_left (Nat.le_add_right _ _) _
      _ ≤ spot.budget := roomy.room

theorem Roomy.inside (roomy : spot.Roomy bound rank) (holds : spot.Holds cursor) (fits : phrase.fits rank) :
    (spot.inside phrase cursor).Roomy bound phrase.rank := by
  have ahead := Nat.mul_le_mul_right Phrase.ranks holds.ahead
  have below := of_decide_eq_true fits
  refine ⟨Nat.lt_of_le_of_lt holds.ahead roomy.fewer, fun frame member => ?_, ?_⟩
  · rcases List.mem_cons.mp member with rfl | member
    · exact Nat.le_refl _
    · exact Nat.le_trans (Nat.add_le_add ahead (Nat.le_of_lt below)) (roomy.above frame member)
  · have room := roomy.room
    change spot.stack.length + 1 + (cursor.rest.length * Phrase.ranks + phrase.rank) ≤ spot.budget
    omega

/-- A function body, a declaration or a header sets the level anew. -/
theorem Roomy.scope (roomy : spot.Roomy bound rank) (holds : spot.Holds cursor) (fits : phrase.fits rank)
    {level : Int} (sets : Frame.level (⟨phrase, cursor⟩ :: spot.stack) = level) :
    ((spot.inside phrase cursor).leveled level).Open bound phrase.rank where
  toRoomy := (roomy.inside holds fits).leveled level
  level := sets.symm

theorem Open.up (opened : spot.Open bound rank) : spot.Open (bound + 1) rank :=
  ⟨opened.toRoomy.up, opened.level⟩

theorem Open.next (opened : spot.Open (bound + 1) rank) (some : 0 < spot.ahead) :
    spot.next.Open bound Phrase.ranks :=
  ⟨opened.toRoomy.next some, opened.level⟩

theorem Open.onward (opened : spot.Open bound rank) (some : 0 < spot.ahead) : spot.next.Open bound Phrase.ranks := by
  cases bound with
  | zero => exact absurd opened.fewer (Nat.not_lt_zero _)
  | succ bound => exact (opened.next some).up

theorem Open.nextDeeper (opened : spot.deeper.Open (bound + 1) rank) (some : 0 < spot.ahead) :
    spot.next.deeper.Open bound Phrase.ranks :=
  opened.next some

theorem Open.plain (opened : spot.Open bound rank) (holds : spot.Holds cursor) (fits : phrase.fits rank)
    (inner : phrase.isScope = false) (flat : phrase.isBracket = false) :
    (spot.inside phrase cursor).Open bound phrase.rank :=
  ⟨opened.toRoomy.inside holds fits, opened.level.trans (Frame.level_plain inner flat).symm⟩

theorem Open.bracket (opened : spot.Open bound rank) (holds : spot.Holds cursor) (fits : phrase.fits rank)
    (bracket : phrase.isBracket = true) :
    (spot.inside phrase cursor).deeper.Open bound phrase.rank :=
  ⟨(opened.toRoomy.inside holds fits).leveled _,
    (congrArg (· + 1) opened.level).trans (Frame.level_bracket bracket).symm⟩

end Spot

namespace Parser

variable {α β σ : Type}

/-- A run tells proper events, comes to the same as another, and keeps the level. What it returns says how many
tokens it has read at least. -/
inductive Told (budget : Nat) (least : α → Nat) (start : Cursor) :
    Telling α → Except SyntaxError (α × Cursor) → Prop
  | ok {events : List Event} {result : α} {after : Cursor} (proper : ∀ event ∈ events, event.Proper budget)
    (level : after.level = start.level) (fewer : after.rest.length + least result ≤ start.rest.length) :
    Told budget least start (events, .ok (result, after)) (.ok (result, after))
  | error {events : List Event} {error : SyntaxError} (proper : ∀ event ∈ events, event.Proper budget)
    (fault : error.fault ≠ .nesting) :
    Told budget least start (events, .error error) (.error error)

def Course.least : Course → Step σ α → Nat
  | .tokens, .again _ => 1
  | _, _ => 0

namespace Told

variable {budget : Nat} {least : α → Nat} {goal : β → Nat} {start : Cursor} {telling : Telling α}
  {run : Except SyntaxError (α × Cursor)}

theorem same (told : Told budget least start telling run) : telling.2 = run := by
  cases told <;> rfl

theorem proper (told : Told budget least start telling run) : ∀ event ∈ telling.1, event.Proper budget := by
  cases told <;> assumption

theorem fault {error : SyntaxError} (told : Told budget least start telling (.error error)) :
    error.fault ≠ .nesting := by
  cases told
  assumption

theorem quiet {after : Cursor} {result : α} (none : least result = 0) (level : after.level = start.level)
    (rest : after.rest = start.rest) : Told budget least start ([], .ok (result, after)) (.ok (result, after)) :=
  .ok (fun _ member => nomatch member) level (Nat.le_of_eq (by rw [rest, none, Nat.add_zero]))

theorem failed {error : SyntaxError} (fault : error.fault ≠ .nesting) :
    Told budget least start ([], .error error) (.error error) :=
  .error (fun _ member => nomatch member) fault

theorem weaken {fewer : α → Nat} (told : Told budget least start telling run)
    (le : ∀ result, fewer result ≤ least result) : Told budget fewer start telling run := by
  cases told with
  | error proper fault => exact .error proper fault
  | ok proper level read => exact .ok proper level (Nat.le_trans (Nat.add_le_add_left (le _) _) read)

theorem bind {more : α → Cursor → Telling β} {more' : α → Cursor → Except SyntaxError (β × Cursor)}
    (told : Told budget least start telling run)
    (then' : ∀ result after, after.level = start.level → after.rest.length + least result ≤ start.rest.length →
      Told budget (fun final => goal final - least result) after (more result after) (more' result after)) :
    Told budget goal start (telling.bind more) (run.bind fun pair => more' pair.1 pair.2) := by
  cases told with
  | error proper fault => exact .error proper fault
  | @ok events result after proper level fewer =>
    have last := then' result after level fewer
    simp only [Telling.bind, Except.bind]
    generalize more result after = telling, more' result after = run at last ⊢
    cases last with
    | error proper' fault =>
      exact .error (fun event member => (List.mem_append.mp member).elim (proper event) (proper' event)) fault
    | ok proper' level' fewer' =>
      refine .ok (fun event member => (List.mem_append.mp member).elim (proper event) (proper' event))
        (level'.trans level) ?_
      omega

/-- The level may change for a while, if `back` makes it what it was. -/
theorem relevel (start : Cursor) {start' : Cursor} (told : Told budget least start' telling run)
    (rest : start'.rest = start.rest) (back : Int → Int) (level : back start'.level = start.level) :
    Told budget least start
      (telling.bind fun result after => ([], .ok (result, { after with level := back after.level })))
      (run.bind fun pair => .ok (pair.1, { pair.2 with level := back pair.2.level })) := by
  cases told with
  | error proper fault => exact .error proper fault
  | @ok events result after proper kept fewer =>
    refine .ok ?_ ?_ ?_
    · rw [List.append_nil]
      exact proper
    · exact (congrArg back kept).trans level
    · rw [← rest]
      exact fewer

theorem within {phrase : Phrase} {stack : List Frame} (told : Told budget least start telling run)
    (entry : (Event.enter phrase stack start).Proper budget)
    (exit : ∀ result after, run = .ok (result, after) → after.level = start.level →
      after.rest.length + least result ≤ start.rest.length → (Event.leave phrase stack start after).Leveled) :
    Told budget least start (telling.within phrase stack start) run := by
  cases told with
  | error proper fault => exact .error (List.forall_mem_cons.mpr ⟨entry, proper⟩) fault
  | @ok events result after proper level fewer =>
    refine .ok (List.forall_mem_cons.mpr ⟨entry, fun event member => ?_⟩) level fewer
    rcases List.mem_append.mp member with member | member
    · exact proper event member
    · rw [List.mem_singleton.mp member]
      exact ⟨exit result after rfl level fewer, trivial⟩

/-- Only over tokens must a round that is followed by another one read something. -/
theorem round {telling : Telling (Step σ α)} {run : Except SyntaxError (Step σ α × Cursor)} {course : Course}
    (told : Told budget course.least start telling run) :
    Told budget course.least start (telling.round course start) run := by
  cases told with
  | error proper fault => exact .error proper fault
  | @ok events step after proper level fewer =>
    cases step with
    | done => exact .ok proper level fewer
    | again state =>
      refine .ok (fun event member => ?_) level fewer
      rcases List.mem_append.mp member with member | member
      · exact proper event member
      · rw [List.mem_singleton.mp member]
        cases course with
        | tokens => exact ⟨trivial, fewer⟩
        | entries => exact ⟨trivial, fewer⟩

end Told

/-- Where the tokens ahead are as said, the rule that tells and the one that does not do the same. -/
def FollowsIf (given : Cursor → Prop) (least : α → Nat) (spot : Spot) (traced : Traced α) (rule : Parser α) : Prop :=
  ∀ cursor, spot.Holds cursor → given cursor →
    Told spot.budget least cursor (traced spot.stack cursor) (rule cursor)

abbrev Follows (least : α → Nat) (spot : Spot) (traced : Traced α) (rule : Parser α) : Prop :=
  FollowsIf (fun _ => True) least spot traced rule

abbrev FollowsAt (token? : Option Token) (least : α → Nat) (spot : Spot) (traced : Traced α) (rule : Parser α) : Prop :=
  FollowsIf (·.peek = token?) least spot traced rule

/-- The rule reads so many tokens at least. -/
abbrev Reads (count : Nat) (spot : Spot) (traced : Traced α) (rule : Parser α) : Prop :=
  Follows (fun _ => count) spot traced rule

variable {given : Cursor → Prop} {least : α → Nat} {goal : β → Nat} {spot : Spot} {traced other : Traced α}
  {rule rule' : Parser α} {next : α → Traced β} {next' : α → Parser β}

theorem FollowsIf.andThen (first : FollowsIf given least spot traced rule)
    (then' : ∀ result, least result ≤ spot.ahead → Follows (fun final => goal final - least result)
      { spot with ahead := spot.ahead - least result } (next result) (next' result)) :
    FollowsIf given goal spot (traced >>= next) (rule >>= next') := by
  intro cursor holds here
  refine Told.bind (first cursor holds here) fun result after level fewer => ?_
  have ahead := holds.ahead
  refine then' result (by omega) after ⟨level.trans holds.level, ?_⟩ trivial
  change _ ≤ spot.ahead - least result
  omega

theorem Follows.fewer {ahead : Nat} (follows : Follows least spot traced rule) (le : ahead ≤ spot.ahead) :
    Follows least { spot with ahead } traced rule :=
  fun cursor holds _ => follows cursor ⟨holds.level, Nat.le_trans holds.ahead le⟩ trivial

theorem Follows.onward (follows : Follows least spot traced rule) : Follows least spot.next traced rule :=
  follows.fewer (Nat.sub_le _ _)

theorem FollowsIf.weaken {fewer : α → Nat} (follows : FollowsIf given least spot traced rule)
    (le : ∀ result, fewer result ≤ least result) : FollowsIf given fewer spot traced rule :=
  fun cursor holds here => (follows cursor holds here).weaken le

theorem FollowsIf.loose (follows : FollowsIf given least spot traced rule) :
    FollowsIf given (fun _ => 0) spot traced rule :=
  follows.weaken fun _ => Nat.zero_le _

theorem Follows.when (follows : Follows least spot traced rule) : FollowsIf given least spot traced rule :=
  fun cursor holds _ => follows cursor holds trivial

theorem FollowsIf.bind (first : FollowsIf given least spot traced rule)
    (then' : ∀ result, Follows goal spot (next result) (next' result)) :
    FollowsIf given goal spot (traced >>= next) (rule >>= next') :=
  first.andThen fun result _ => ((then' result).fewer (Nat.sub_le _ _)).weaken fun _ => Nat.sub_le _ _

/-- What the first step reads counts for the whole. -/
theorem FollowsIf.last {count : Nat} (first : FollowsIf given (fun _ => count) spot traced rule)
    (then' : ∀ result, Follows (fun final => goal final - count) spot (next result) (next' result)) :
    FollowsIf given goal spot (traced >>= next) (rule >>= next') :=
  first.andThen fun result _ => (then' result).fewer (Nat.sub_le _ _)

/-- After a token there is one less ahead. -/
theorem FollowsIf.eat (first : FollowsIf given (fun _ => 1) spot traced rule)
    (then' : 0 < spot.ahead → ∀ result, Follows (fun final => goal final - 1) spot.next (next result) (next' result)) :
    FollowsIf given goal spot (traced >>= next) (rule >>= next') :=
  first.andThen fun result some => then' some result

theorem follows_pure {result : α} (none : least result = 0) : FollowsIf given least spot (pure result) (pure result) :=
  fun _ _ _ => .quiet none rfl rfl

theorem follows_known {value : α} (then' : FollowsIf given goal spot (next value) (next' value)) :
    FollowsIf given goal spot (pure value >>= next) (pure value >>= next') :=
  then'

theorem FollowsIf.map {change : α → β} {count : Nat} (follows : FollowsIf given (fun _ => count) spot traced rule) :
    FollowsIf given (fun _ => count) spot (change <$> traced) (change <$> rule) := by
  rw [map_eq_pure_bind change rule]
  exact follows.last fun result => follows_pure (Nat.sub_self _)

theorem follows_fail {fault : SyntaxFault} {span : Span} (other : fault ≠ .nesting) :
    FollowsIf given least spot (fail fault span) (fail fault span) :=
  fun _ _ _ => .failed other

theorem follows_unexpected {what : Expectation} :
    FollowsIf given least spot (unexpected what) (unexpected what) :=
  fun _ _ _ => .failed nofun

section

variable {test : Prop} [Decidable test]

theorem follows_ite (yes : test → FollowsIf given least spot traced rule)
    (no : ¬test → FollowsIf given least spot other rule') :
    FollowsIf given least spot (if test then traced else other) (if test then rule else rule') := by
  by_cases holds : test
  · rw [if_pos holds, if_pos holds]
    exact yes holds
  · rw [if_neg holds, if_neg holds]
    exact no holds

theorem follows_either (yes : FollowsIf given (fun _ => 0) spot traced rule)
    (no : FollowsIf given (fun _ => 0) spot other rule')
    (then' : ∀ result, Follows goal spot (next result) (next' result)) :
    FollowsIf given goal spot (if test then traced >>= next else other >>= next)
      (if test then rule >>= next' else rule' >>= next') :=
  follows_ite (fun _ => yes.bind then') fun _ => no.bind then'

end

variable {taste : Traced Bool} {taste' : Parser Bool}

/-- A test that reads a token if it succeeds. -/
theorem FollowsIf.test {chosen otherwise : Traced β} {chosen' otherwise' : Parser β}
    (first : FollowsIf given Bool.toNat spot taste taste')
    (yes : 0 < spot.ahead → Follows (fun final => goal final - 1) spot.next chosen chosen')
    (no : Follows goal spot otherwise otherwise') :
    FollowsIf given goal spot (taste >>= fun found => if found then chosen else otherwise)
      (taste' >>= fun found => if found then chosen' else otherwise') := by
  refine first.andThen fun found some => ?_
  cases found with
  | true => exact yes some
  | false => exact no

theorem FollowsIf.testEither (first : FollowsIf given Bool.toNat spot taste taste')
    (yes : 0 < spot.ahead → Reads 0 spot.next traced rule) (no : Reads 0 spot other rule')
    (then' : ∀ result, Follows goal spot (next result) (next' result)) :
    FollowsIf given goal spot (taste >>= fun found => if found then traced >>= next else other >>= next)
      (taste' >>= fun found => if found then rule >>= next' else rule' >>= next') :=
  first.test (fun some => (yes some).bind fun result => (then' result).onward.weaken fun _ => Nat.sub_le _ _)
    (no.bind then')

theorem follows_get {next : Cursor → Traced α} {next' : Cursor → Parser α}
    (then' : ∀ cursor, spot.Holds cursor → FollowsAt cursor.peek least spot (next cursor) (next' cursor)) :
    FollowsIf given least spot (get >>= next) (get >>= next') :=
  fun cursor holds _ => then' cursor holds cursor holds rfl

theorem follows_hold {cursor : Cursor} {next : Cursor → Traced α} {next' : Cursor → Parser α}
    (then' : FollowsIf (· = cursor) least spot (next cursor) (next' cursor)) :
    FollowsIf (· = cursor) least spot (get >>= next) (get >>= next') := by
  rintro _ holds rfl
  exact then' _ holds rfl

theorem follows_peek {next : Option Token → Traced α} {next' : Option Token → Parser α}
    (then' : ∀ token?, FollowsAt token? least spot (next token?) (next' token?)) :
    FollowsIf given least spot (peek >>= next) (peek >>= next') :=
  fun cursor holds _ => then' cursor.peek cursor holds rfl

theorem follows_seen (look : Option Token → β) {next : β → Traced α} {next' : β → Parser α}
    (then' : ∀ token?, FollowsAt token? least spot (next (look token?)) (next' (look token?))) :
    FollowsIf given least spot ((do return look (← peek)) >>= next) ((do return look (← peek)) >>= next') :=
  fun cursor holds _ => then' cursor.peek cursor holds rfl

/-- The cursor stays where it is. -/
theorem follows_look (look : Cursor → β) {next : β → Traced α} {next' : β → Parser α}
    (then' : ∀ seen, FollowsIf given least spot (next seen) (next' seen)) :
    FollowsIf given least spot ((do return look (← get)) >>= next) ((do return look (← get)) >>= next') :=
  fun cursor holds here => then' (look cursor) cursor holds here

theorem follows_here (look : Cursor → α) :
    FollowsIf given (fun _ => 0) spot (do return look (← get)) (do return look (← get)) :=
  fun _ _ _ => .quiet rfl rfl rfl

theorem follows_start : FollowsIf given (fun _ => 0) spot start start :=
  follows_here Cursor.start

theorem follows_spanFrom {offset : Nat} : FollowsIf given (fun _ => 0) spot (spanFrom offset) (spanFrom offset) :=
  follows_here (·.spanFrom offset)

theorem follows_lastEnd : FollowsIf given (fun _ => 0) spot lastEnd lastEnd :=
  follows_here Cursor.lastEnd

theorem follows_peekAfter (count : Nat) : FollowsIf given (fun _ => 0) spot (peekAfter count) (peekAfter count) :=
  follows_here fun cursor => (cursor.rest[count]?).map (·.token)

theorem follows_peeked : FollowsIf given (fun _ => 0) spot peek peek :=
  follows_here Cursor.peek

theorem follows_atMark (mark : Mark) : FollowsIf given (fun _ => 0) spot (atMark mark) (atMark mark) :=
  follows_here (·.peek == some (.mark mark))

theorem follows_atIdent : FollowsIf given (fun _ => 0) spot atIdent atIdent :=
  follows_here (isIdent ·.peek)

theorem follows_atSemicolon : FollowsIf given (fun _ => 0) spot atSemicolon atSemicolon :=
  follows_here (isSemicolon ·.peek)

theorem follows_skip {token : Token} : FollowsAt (some token) (fun _ => 1) spot skip skip := by
  intro cursor _ peeked
  obtain ⟨lexeme, head, -⟩ := Option.map_eq_some_iff.mp peeked
  obtain ⟨rest, split⟩ := List.head?_eq_some_iff.mp head
  refine .ok (fun _ member => nomatch member) ?_ ?_
  · simp [Cursor.advance, split]
  · simp [Cursor.advance, split]

/-- At the end a skip does nothing. -/
theorem follows_pass : FollowsIf given (fun _ => 0) spot skip skip := by
  intro cursor _ _
  refine .ok (fun _ member => nomatch member) ?_ ?_
  · unfold Cursor.advance
    split <;> rfl
  · unfold Cursor.advance
    split <;> simp_all

theorem follows_eatIf (look : Option Token → Bool) (none : look none = false) :
    FollowsIf given Bool.toNat spot (eatIf (do return look (← peek))) (eatIf (do return look (← peek))) := by
  refine follows_seen look fun token? => follows_ite (fun found => ?_) fun _ => follows_pure rfl
  cases token? with
  | none => exact absurd found (by simp [none])
  | some token => exact follows_skip.last fun _ => follows_pure rfl

theorem follows_eatMark (mark : Mark) : FollowsIf given Bool.toNat spot (eatMark mark) (eatMark mark) :=
  follows_eatIf (· == some (.mark mark)) rfl

theorem follows_eatKeyword (word : Keyword) : FollowsIf given Bool.toNat spot (eatKeyword word) (eatKeyword word) :=
  follows_eatIf (· == some (.keyword word)) rfl

theorem follows_eatSemicolon : FollowsIf given Bool.toNat spot eatSemicolon eatSemicolon :=
  follows_eatIf isSemicolon rfl

theorem follows_expect (token : Token) : FollowsIf given (fun _ => 1) spot (expect token) (expect token) := by
  refine follows_get fun cursor _ => follows_ite (fun found => ?_) fun _ => follows_unexpected
  rw [eq_of_beq found]
  exact follows_skip.last fun _ => follows_pure rfl

theorem follows_expectMark (mark : Mark) : FollowsIf given (fun _ => 1) spot (expectMark mark) (expectMark mark) :=
  follows_expect _

theorem follows_expectKeyword (word : Keyword) :
    FollowsIf given (fun _ => 1) spot (expectKeyword word) (expectKeyword word) :=
  follows_expect _

theorem follows_expectSemicolon : FollowsIf given (fun _ => 1) spot expectSemicolon expectSemicolon :=
  follows_eatSemicolon.test (fun _ => follows_pure rfl) follows_unexpected

theorem follows_ident : FollowsIf given (fun _ => 1) spot ident ident := by
  refine follows_get fun cursor _ => ?_
  split
  · rename_i found
    rw [found]
    exact follows_skip.last fun _ => follows_pure rfl
  · exact follows_unexpected

theorem follows_name : FollowsIf given (fun _ => 1) spot name name :=
  follows_ident.last fun _ => follows_pure rfl

theorem follows_lineEnd : FollowsIf given (fun _ => 0) spot lineEnd lineEnd := by
  refine follows_peek fun token? => ?_
  split
  · exact follows_pure rfl
  · exact follows_pure rfl
  · exact follows_pure rfl
  · exact follows_skip.loose
  · exact follows_unexpected

theorem follows_commentsBefore {offset : Nat} :
    FollowsIf given (fun _ => 0) spot (commentsBefore offset) (commentsBefore offset) :=
  fun _ _ _ => .quiet rfl rfl rfl

theorem follows_remainingComments : FollowsIf given (fun _ => 0) spot remainingComments remainingComments :=
  fun _ _ _ => .quiet rfl rfl rfl

theorem follows_trailingComment {offset : Nat} :
    FollowsIf given (fun _ => 0) spot (trailingComment offset) (trailingComment offset) := by
  intro cursor holds _
  refine follows_hold ?_ cursor holds rfl
  split
  · refine follows_ite (fun _ => ?_) fun _ => follows_pure rfl
    rintro _ _ rfl
    exact .quiet rfl rfl rfl
  · exact follows_pure rfl

theorem follows_trailingLineComment {offset : Nat} :
    FollowsIf given (fun _ => 0) spot (trailingLineComment offset) (trailingLineComment offset) := by
  refine follows_look id fun cursor => ?_
  split
  · exact follows_ite (fun _ => follows_trailingComment) fun _ => follows_pure rfl
  · exact follows_pure rfl

theorem Follows.deeper (follows : Follows least spot.deeper traced rule) :
    FollowsIf given least spot (deeper traced) (deeper rule) := by
  intro cursor holds _
  have told := follows { cursor with level := cursor.level + 1 } ⟨congrArg (· + 1) holds.level, holds.ahead⟩ trivial
  exact told.relevel cursor rfl (· - 1) (Int.add_sub_cancel _ _)

theorem Follows.atLevel {level : Int} (follows : Follows least (spot.leveled level) traced rule) :
    FollowsIf given least spot (atLevel level traced) (atLevel level rule) := by
  intro cursor holds _
  have told := follows { cursor with level } ⟨rfl, holds.ahead⟩ trivial
  exact told.relevel cursor rfl (fun _ => cursor.level) rfl

variable {bound rank : Nat} {phrase : Phrase}

theorem advances_enter {cursor : Cursor} (roomy : spot.Roomy bound rank) (holds : spot.Holds cursor)
    (fits : phrase.fits rank) : (Event.enter phrase spot.stack cursor).Advances spot.budget := by
  have inside := roomy.inside holds fits
  have below := of_decide_eq_true fits
  refine ⟨?_, fun frame member same => ?_⟩
  · have room := inside.room
    change spot.stack.length + 1 + _ ≤ spot.budget at room
    omega
  · have above := roomy.above frame member
    have ahead := Nat.mul_le_mul_right Phrase.ranks holds.ahead
    rw [Frame.measure, same] at above
    refine Nat.lt_of_not_le fun more => ?_
    have less := Nat.mul_le_mul_right Phrase.ranks more
    omega

theorem follows_phrase (roomy : spot.Roomy bound rank) (fits : phrase.fits rank)
    (entry : ∀ cursor, spot.Holds cursor → (Event.enter phrase spot.stack cursor).Leveled)
    (exit : ∀ cursor result after, spot.Holds cursor → rule cursor = .ok (result, after) → after.level = cursor.level →
      after.rest.length + least result ≤ cursor.rest.length → (Event.leave phrase spot.stack cursor after).Leveled)
    (body : ∀ cursor, spot.Holds cursor → FollowsIf given least (spot.inside phrase cursor) traced rule) :
    FollowsIf given least spot (MonadParser.phrase phrase traced) (MonadParser.phrase phrase rule) := by
  intro cursor holds here
  have told := body cursor holds cursor ⟨holds.level, Nat.le_refl _⟩ here
  exact told.within ⟨entry cursor holds, advances_enter roomy holds fits⟩ (exit cursor · · holds)

theorem leveled_enter (free : phrase.isFree = true) (stack : List Frame) (cursor : Cursor) :
    (Event.enter phrase stack cursor).Leveled := by
  cases phrase with
  | expr | stmt | caseClause | declaration | composite | brace => cases free
  | _ => trivial

theorem leveled_leave (free : phrase.isFree = true) {stack : List Frame} {cursor after : Cursor}
    (kept : after.level = cursor.level) : (Event.leave phrase stack cursor after).Leveled := by
  cases phrase with
  | brace => cases free
  | _ => exact kept

theorem follows_plain (opened : spot.Open bound rank) (fits : phrase.fits rank) (plain : phrase.isPlain = true)
    (body : ∀ inner, inner.Open bound phrase.rank → inner.level = spot.level →
      FollowsIf given least inner traced rule) :
    FollowsIf given least spot (MonadParser.phrase phrase traced) (MonadParser.phrase phrase rule) := by
  obtain ⟨free, scope, flat⟩ := Phrase.isPlain_iff.mp plain
  exact follows_phrase opened.toRoomy fits (fun cursor _ => leveled_enter free _ cursor)
    (fun _ _ _ _ _ kept _ => leveled_leave free kept) fun _ holds => body _ (opened.plain holds fits scope flat) rfl

theorem follows_bracket (opened : spot.Open bound rank) (fits : phrase.fits rank) (free : phrase.isFree = true)
    (bracket : phrase.isBracket = true)
    (body : ∀ inner, inner.deeper.Open bound phrase.rank → FollowsIf given least inner traced rule) :
    FollowsIf given least spot (MonadParser.phrase phrase traced) (MonadParser.phrase phrase rule) :=
  follows_phrase opened.toRoomy fits (fun cursor _ => leveled_enter free _ cursor)
    (fun _ _ _ _ _ kept _ => leveled_leave free kept) fun _ holds => body _ (opened.bracket holds fits bracket)

theorem follows_header (roomy : spot.Roomy bound rank) (fits : phrase.fits rank) (header : phrase.isHeader = true)
    (body : ∀ inner, inner.Open bound phrase.rank → Follows least inner traced rule) :
    FollowsIf given least spot (inHeader (MonadParser.phrase phrase traced))
      (inHeader (MonadParser.phrase phrase rule)) := by
  have free := Phrase.isFree_of_isHeader header
  refine Follows.atLevel (follows_phrase (roomy.leveled _) fits (fun cursor _ => leveled_enter free _ cursor)
    (fun _ _ _ _ _ kept _ => leveled_leave free kept) fun cursor holds => ?_)
  exact body _ ((roomy.leveled _).scope holds fits (Frame.level_header header))

/-- The rule for a phrase reads it wherever there is room and fewer tokens than `bound` are ahead. -/
def Readable (bound : Nat) (phrase : Phrase) (traced : Traced α) (rule : Parser α) : Prop :=
  ∀ ⦃spot : Spot⦄ ⦃rank : Nat⦄, spot.Open bound rank → phrase.fits rank → Reads 1 spot traced rule

/-- The same for what is read at level zero alone. -/
def ReadableFlat (bound : Nat) (phrase : Phrase) (traced : Traced α) (rule : Parser α) : Prop :=
  ∀ ⦃spot : Spot⦄ ⦃rank : Nat⦄, spot.Open bound rank → spot.level = 0 → phrase.fits rank → Reads 1 spot traced rule

theorem readable_plain (plain : phrase.isPlain = true)
    (body : ∀ spot, spot.Open bound phrase.rank → Reads 1 spot traced rule) :
    Readable bound phrase (MonadParser.phrase phrase traced) (MonadParser.phrase phrase rule) :=
  fun _ _ opened fits => follows_plain opened fits plain fun inner opened _ => body inner opened

theorem readable_bracket (free : phrase.isFree = true) (bracket : phrase.isBracket = true)
    (body : ∀ spot, spot.deeper.Open bound phrase.rank → Reads 1 spot traced rule) :
    Readable bound phrase (MonadParser.phrase phrase traced) (MonadParser.phrase phrase rule) :=
  fun _ _ opened fits => follows_bracket opened fits free bracket body

theorem readable_flat (plain : phrase.isPlain = true)
    (body : ∀ spot, spot.Open bound phrase.rank → spot.level = 0 → Reads 1 spot traced rule) :
    ReadableFlat bound phrase (MonadParser.phrase phrase traced) (MonadParser.phrase phrase rule) :=
  fun _ _ opened zero fits => follows_plain opened fits plain fun inner opened same =>
    body inner opened (same.trans zero)

/-- A round that is followed by another reads a token, so there are no more rounds than tokens. -/
theorem follows_iterate {step : σ → Traced (Step σ α)} {step' : σ → Parser (Step σ α)}
    (round : ∀ state, Follows Course.tokens.least spot (step state) (step' state)) (fuel : Nat)
    (enough : spot.ahead < fuel) (state : σ) : Reads 0 spot (iterate step fuel state) (iterate step' fuel state) := by
  induction fuel generalizing spot state with
  | zero => exact absurd enough (Nat.not_lt_zero _)
  | succ fuel ih =>
    have stepped : Follows Course.tokens.least spot (MonadParser.round .tokens (step state))
        (MonadParser.round .tokens (step' state)) :=
      fun cursor holds _ => (round state cursor holds trivial).round
    refine stepped.andThen fun outcome some => ?_
    cases outcome with
    | done => exact follows_pure rfl
    | again state =>
      refine ih (fun state => (round state).onward) ?_ state
      exact Nat.lt_of_lt_of_le (Nat.sub_lt some Nat.one_pos) (Nat.le_of_lt_succ enough)

theorem follows_loop {step : σ → Traced (Step σ α)} {step' : σ → Parser (Step σ α)} {state : σ}
    (round : ∀ state, Follows Course.tokens.least spot (step state) (step' state)) :
    FollowsIf given (fun _ => 0) spot (loop state step) (loop state step') := by
  intro cursor holds _
  have fewer (state : σ) := (round state).fewer holds.ahead
  exact follows_iterate fewer _ (Nat.lt_succ_self _) state cursor ⟨holds.level, Nat.le_refl _⟩ trivial

theorem follows_visit {step : σ → β → Traced σ} {step' : σ → β → Parser σ}
    (each : ∀ state entry, Reads 0 spot (step state entry) (step' state entry)) (state : σ) (entries : List β) :
    Reads 0 spot (visit step state entries) (visit step' state entries) := by
  induction entries generalizing state with
  | nil => exact follows_pure rfl
  | cons entry entries ih =>
    let outcome (state : σ) : Step σ σ := if entries.isEmpty then .done state else .again state
    have inner : Follows Course.entries.least spot (step state entry >>= fun state => pure (outcome state))
        (step' state entry >>= fun state => pure (outcome state)) :=
      (each state entry).bind fun _ => follows_pure rfl
    have stepped : Follows Course.entries.least spot (MonadParser.round .entries _) (MonadParser.round .entries _) :=
      fun cursor holds _ => (inner cursor holds trivial).round
    refine stepped.bind fun outcome => ?_
    cases outcome with
    | again state => exact ih state
    | done state => exact follows_pure rfl

theorem follows_commaList (entry : Reads 1 spot traced rule) :
    FollowsIf given (fun _ => 1) spot (commaList traced) (commaList rule) := by
  refine entry.when.last fun _ => follows_loop fun _ => ?_
  refine (follows_eatMark _).test (fun _ => ?_) (follows_pure rfl)
  exact (Follows.onward entry).bind fun _ => follows_pure rfl

theorem follows_listUntil (close : Mark) (entry : Reads 1 spot traced rule) :
    FollowsIf given (fun _ => 0) spot (listUntil close traced) (listUntil close rule) := by
  refine follows_loop fun _ => (follows_atMark _).bind fun _ => follows_ite (fun _ => follows_pure rfl) fun _ => ?_
  refine entry.last fun _ => (follows_eatMark _).test (fun _ => follows_pure rfl) (follows_pure rfl)

theorem follows_linesUntil (close : Mark) (entry : Reads 1 spot traced rule) :
    FollowsIf given (fun _ => 0) spot (linesUntil close traced) (linesUntil close rule) := by
  refine follows_loop fun _ => follows_eatSemicolon.test (fun _ => follows_pure rfl) ?_
  refine (follows_atMark _).bind fun _ => follows_ite (fun _ => follows_pure rfl) fun _ => ?_
  exact entry.last fun _ => follows_lineEnd.bind fun _ => follows_pure rfl

end Parser

end GoSpecs
