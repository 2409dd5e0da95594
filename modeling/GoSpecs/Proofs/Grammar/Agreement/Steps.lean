import GoSpecs.Proofs.Grammar.Outcome
import GoSpecs.Proofs.Syntax.Parts
import GoSpecs.Proofs.Token.Genuine
import Mathlib.Data.Option.Basic

namespace GoSpecs

/-- The same tokens are ahead, at the same level. -/
structure Cursor.Alike (cursor other : Cursor) : Prop where
  tokens : cursor.rest.map (·.token) = other.rest.map (·.token)
  level : cursor.level = other.level

namespace Cursor.Alike

variable {cursor other : Cursor}

theorem refl (cursor : Cursor) : cursor.Alike cursor :=
  ⟨rfl, rfl⟩

theorem length (alike : cursor.Alike other) : cursor.rest.length = other.rest.length := by
  simpa using congrArg List.length alike.tokens

theorem peek (alike : cursor.Alike other) : cursor.peek = other.peek := by
  have heads := congrArg List.head? alike.tokens
  simpa [Cursor.peek, List.head?_map] using heads

theorem peekAfter (alike : cursor.Alike other) (count : Nat) :
    (cursor.rest[count]?).map (·.token) = (other.rest[count]?).map (·.token) := by
  have entries := congrArg (·[count]?) alike.tokens
  simpa using entries

theorem rest_advance (cursor : Cursor) : cursor.advance.rest = cursor.rest.tail := by
  unfold Cursor.advance
  split
  · rename_i split
    rw [split, List.tail_cons]
  · rename_i split
    rw [split, List.tail_nil]

theorem level_advance (cursor : Cursor) : cursor.advance.level = cursor.level := by
  unfold Cursor.advance
  split <;> rfl

theorem advance (alike : cursor.Alike other) : cursor.advance.Alike other.advance := by
  refine ⟨?_, ?_⟩
  · rw [rest_advance, rest_advance, List.map_tail, List.map_tail, alike.tokens]
  · rw [level_advance, level_advance, alike.level]

end Cursor.Alike

def Cursor.words (cursor : Cursor) : List Token :=
  (cursor.rest.map (·.token)).filter Token.isWord

theorem Cursor.mem_words {cursor : Cursor} {token : Token} (peeked : cursor.peek = some token)
    (isOne : token.isWord = true) : token ∈ cursor.words := by
  obtain ⟨lexeme, head, rfl⟩ := Option.map_eq_some_iff.mp peeked
  simp only [words, List.mem_filter, List.mem_map]
  exact ⟨⟨lexeme, List.mem_of_mem_head? head, rfl⟩, isOne⟩

/-- From one cursor to the other the parts were read: the words in this order, the comments in any. That
the words are such as lexing finds matters for literals, of which a tree keeps the text alone, and for the
dot before an import, which stands where a name may. -/
structure Read (before after : Cursor) (parts : List Part) : Prop where
  words : (∀ token ∈ before.words, token.Genuine) →
    ∃ tokens, before.words = tokens ++ after.words ∧ List.Forall₂ Part.IsOf (Part.words parts) tokens
  notes : (before.comments : Multiset Comment) = Part.notes parts + (after.comments : Multiset Comment)

namespace Read

variable {before cursor after : Cursor} {parts more : List Part}

theorem refl (cursor : Cursor) : Read cursor cursor [] :=
  ⟨fun _ => ⟨[], rfl, .nil⟩, by simp⟩

theorem trans (first : Read before cursor parts) (second : Read cursor after more) :
    Read before after (parts ++ more) := by
  refine ⟨fun genuine => ?_, ?_⟩
  · obtain ⟨tokens, split, kept⟩ := first.words genuine
    obtain ⟨tokens', split', kept'⟩ := second.words fun token member => by
      apply genuine
      rw [split]
      exact List.mem_append_right _ member
    refine ⟨tokens ++ tokens', ?_, ?_⟩
    · rw [split, split', List.append_assoc]
    · rw [Part.words_append]
      exact List.rel_append kept kept'
  · rw [first.notes, second.notes, Part.notes_append, add_assoc]

theorem of_same (words : before.words = after.words) (comments : before.comments = after.comments) :
    Read before after [] :=
  ⟨fun _ => ⟨[], words, .nil⟩, by simp [comments]⟩

theorem skip {token : Token} (peeked : cursor.peek = some token) (isNone : token.isWord = false) :
    Read cursor cursor.advance [] := by
  obtain ⟨lexeme, head, rfl⟩ := Option.map_eq_some_iff.mp peeked
  obtain ⟨rest, split⟩ := List.head?_eq_some_iff.mp head
  apply of_same
  · simp [Cursor.words, Cursor.advance, split, isNone]
  · simp [Cursor.advance, split]

theorem word {token : Token} (peeked : cursor.peek = some token) (isOne : token.isWord = true) {part : Part}
    (isPart : part.isWord = true) (kept : token.Genuine → part.IsOf token) :
    Read cursor cursor.advance [part] := by
  obtain ⟨lexeme, head, rfl⟩ := Option.map_eq_some_iff.mp peeked
  obtain ⟨rest, split⟩ := List.head?_eq_some_iff.mp head
  have first : cursor.words = lexeme.token :: cursor.advance.words := by
    simp [Cursor.words, Cursor.advance, split, isOne]
  have noNote : part.note? = none := by
    cases part with
    | note => cases isPart
    | _ => rfl
  refine ⟨fun genuine => ⟨[lexeme.token], first, ?_⟩, ?_⟩
  · have here := kept (genuine _ (Cursor.mem_words peeked isOne))
    simpa [Part.words, isPart] using here
  · simp [Cursor.advance, split, Part.notes, noNote]

end Read

/-- Whatever was read before it, a run that begins with `front` already read ends with `parts` read. -/
def Cursor.Carries (cursor : Cursor) (front : List Part) (after : Cursor) (parts : List Part) : Prop :=
  ∀ before outer, Read before cursor (outer ++ front) → Read before after (outer ++ parts)

namespace Cursor.Carries

variable {cursor middle after : Cursor} {front parts whole : List Part}

theorem trans (first : cursor.Carries front middle parts) (second : middle.Carries parts after whole) :
    cursor.Carries front after whole :=
  fun before outer read => second before outer (first before outer read)

theorem of_read (read : Read cursor after parts) : cursor.Carries front after (front ++ parts) := by
  intro before outer start
  rw [← List.append_assoc]
  exact start.trans read

theorem read (carries : cursor.Carries [] after parts) : Read cursor after parts :=
  carries cursor [] (.refl cursor)

theorem frame (carries : cursor.Carries front after parts) (more : List Part) :
    cursor.Carries (more ++ front) after (more ++ parts) := by
  intro before outer read
  rw [← List.append_assoc] at read ⊢
  exact carries before (outer ++ more) read

theorem reorder (words : Part.words front = Part.words parts) (notes : Part.notes front = Part.notes parts) :
    cursor.Carries front cursor parts := by
  intro before outer read
  refine ⟨?_, ?_⟩
  · rw [Part.words_append, ← words, ← Part.words_append]
    exact read.words
  · rw [Part.notes_append, ← notes, ← Part.notes_append]
    exact read.notes

end Cursor.Carries

namespace Parser

variable {α β γ δ σ τ : Type}

abbrev Each (related : α → β → Prop) : List α → List β → Prop :=
  List.Forall₂ related

/-- What two runs return: how the results are related, and what the first is made of. -/
structure Kind (α β : Type) where
  related : α → β → Prop
  parts : α → List Part

namespace Kind

@[simp] def any : Kind α β := ⟨fun _ _ => True, fun _ => []⟩

@[simp] def same : Kind α α := ⟨Eq, fun _ => []⟩

@[simp] def name : Kind String String := ⟨Eq, fun text => [.word (.ident text)]⟩

@[simp] def ident : Kind (String × Span) (String × Span) :=
  ⟨fun found found' => found.1 = found'.1, fun found => [.word (.ident found.1)]⟩

@[simp] def notes : Kind (List Comment) (List Comment) := ⟨fun _ _ => True, Part.ofNotes⟩

@[simp] def note : Kind (Option Comment) (Option Comment) := ⟨fun _ _ => True, fun note? => Part.ofNotes note?.toList⟩

@[simp] def option (kind : Kind α β) : Kind (Option α) (Option β) :=
  ⟨Option.Rel kind.related, fun result? => result?.toList.flatMap kind.parts⟩

@[simp] def each (kind : Kind α β) : Kind (List α) (List β) :=
  ⟨Each kind.related, List.flatMap kind.parts⟩

@[simp] def after (outer : List Part) (kind : Kind α β) : Kind α β :=
  ⟨kind.related, fun result => outer ++ kind.parts result⟩

end Kind

/-- Both runs fail, or both return: related results, cursors that are alike again, and at least `eaten`
tokens read. -/
def Meet (start : Cursor) (front : List Part) (eaten : Nat) (kind : Kind α β) :
    Except SyntaxError (α × Cursor) → Except SyntaxError (β × Cursor) → Prop
  | .ok (result, after), .ok (result', after') =>
    kind.related result result' ∧ after.Alike after' ∧ after.rest.length + eaten ≤ start.rest.length ∧
      start.Carries front after (kind.parts result)
  | .error _, .error _ => True
  | _, _ => False

/-- Wherever fewer than `bound` tokens are ahead and `front` was read, the two rules do alike. -/
def AgreesFrom (front : List Part) (bound eaten : Nat) (kind : Kind α β) (rule : Parser α) (rule' : Parser β) : Prop :=
  ∀ cursor cursor', cursor.Alike cursor' → cursor.rest.length < bound →
    Meet cursor front eaten kind (rule cursor) (rule' cursor')

abbrev Agrees (bound eaten : Nat) (kind : Kind α β) (rule : Parser α) (rule' : Parser β) : Prop :=
  AgreesFrom [] bound eaten kind rule rule'

def AgreesAt (token? : Option Token) (front : List Part) (bound eaten : Nat) (kind : Kind α β) (rule : Parser α)
    (rule' : Parser β) : Prop :=
  ∀ cursor cursor', cursor.Alike cursor' → cursor.rest.length < bound → cursor.peek = token? →
    Meet cursor front eaten kind (rule cursor) (rule' cursor')

variable {bound eaten : Nat} {front : List Part} {kind : Kind α β} {goal : Kind γ δ} {rule : Parser α}
  {rule' : Parser β} {next : α → Parser γ} {next' : β → Parser δ} {token? : Option Token}

theorem Meet.bind {start : Cursor} {ate : Nat} {run : Except SyntaxError (α × Cursor)}
    {run' : Except SyntaxError (β × Cursor)} (meet : Meet start front ate kind run run')
    (then' : ∀ result result' after after', kind.related result result' → after.Alike after' →
      after.rest.length + ate ≤ start.rest.length →
      Meet after (kind.parts result) eaten goal (next result after) (next' result' after')) :
    Meet start front (ate + eaten) goal (run.bind fun pair => next pair.1 pair.2)
      (run'.bind fun pair => next' pair.1 pair.2) := by
  cases run with
  | error _ =>
    cases run' with
    | error _ => trivial
    | ok _ => cases meet
  | ok pair =>
    cases run' with
    | error _ => cases meet
    | ok pair' =>
      obtain ⟨same, alike, fewer, carries⟩ := meet
      have met := then' _ _ _ _ same alike fewer
      simp only [Except.bind]
      cases last : next pair.1 pair.2 with
      | error _ =>
        rw [last] at met
        cases last' : next' pair'.1 pair'.2 with
        | error _ => trivial
        | ok _ =>
          rw [last'] at met
          cases met
      | ok final =>
        rw [last] at met
        cases last' : next' pair'.1 pair'.2 with
        | error _ =>
          rw [last'] at met
          cases met
        | ok _ =>
          rw [last'] at met
          obtain ⟨same, alike, fewer', carries'⟩ := met
          exact ⟨same, alike, by omega, carries.trans carries'⟩

theorem Meet.results {start : Cursor} {run : Except SyntaxError (α × Cursor)}
    {run' : Except SyntaxError (β × Cursor)} (meet : Meet start front eaten kind run run') :
    Option.Rel kind.related (Prod.fst <$> run).toOption (Prod.fst <$> run').toOption := by
  cases run with
  | error _ =>
    cases run' with
    | error _ => exact .none
    | ok _ => cases meet
  | ok pair =>
    cases run' with
    | error _ => cases meet
    | ok pair' => exact .some meet.1

theorem run_bind (first : Parser α) (next : α → Parser γ) (cursor : Cursor) :
    (first >>= next) cursor = (first cursor).bind fun pair => next pair.1 pair.2 := rfl

theorem Meet.weaken {start start' : Cursor} {front' : List Part} {ate less : Nat} {weaker : Kind α β}
    {run : Except SyntaxError (α × Cursor)} {run' : Except SyntaxError (β × Cursor)}
    (meet : Meet start front ate kind run run') (fewer : start.rest.length + less ≤ start'.rest.length + ate)
    (imp : ∀ result result', kind.related result result' → weaker.related result result')
    (carries : ∀ after result, start.Carries front after (kind.parts result) →
      start'.Carries front' after (weaker.parts result)) :
    Meet start' front' less weaker run run' := by
  cases run with
  | error _ =>
    cases run' with
    | error _ => trivial
    | ok _ => cases meet
  | ok pair =>
    cases run' with
    | error _ => cases meet
    | ok pair' =>
      obtain ⟨same, alike, bound, carried⟩ := meet
      exact ⟨imp _ _ same, alike, by omega, carries _ _ carried⟩

theorem AgreesFrom.mono {weaker : Kind α β} (agrees : AgreesFrom front bound eaten kind rule rule')
    (imp : ∀ result result', kind.related result result' → weaker.related result result')
    (parts : kind.parts = weaker.parts) : AgreesFrom front bound eaten weaker rule rule' :=
  fun cursor cursor' alike fewer =>
    (agrees cursor cursor' alike fewer).weaken (Nat.le_refl _) imp fun _ _ carries => parts ▸ carries

theorem AgreesFrom.frame (agrees : AgreesFrom front bound eaten kind rule rule') (outer : List Part) :
    AgreesFrom (outer ++ front) bound eaten (kind.after outer) rule rule' :=
  fun cursor cursor' alike fewer =>
    (agrees cursor cursor' alike fewer).weaken (Nat.le_refl _) (fun _ _ same => same) fun _ _ carries =>
      carries.frame outer

theorem AgreesFrom.loose (agrees : AgreesFrom front bound eaten kind rule rule') :
    AgreesFrom front bound 0 kind rule rule' :=
  fun cursor cursor' alike fewer =>
    (agrees cursor cursor' alike fewer).weaken (by omega) (fun _ _ same => same) fun _ _ carries => carries

theorem AgreesFrom.below (agrees : AgreesFrom front (bound + 1) eaten kind rule rule') :
    AgreesFrom front bound eaten kind rule rule' :=
  fun cursor cursor' alike fewer => agrees cursor cursor' alike (by omega)

theorem agrees_of_succ (agrees : ∀ less, AgreesFrom front (less + 1) eaten kind rule rule') :
    AgreesFrom front bound eaten kind rule rule' := by
  cases bound with
  | zero => exact fun _ _ _ fewer => absurd fewer (Nat.not_lt_zero _)
  | succ less => exact agrees less

theorem AgreesFrom.at (agrees : AgreesFrom front bound eaten kind rule rule') :
    AgreesAt token? front bound eaten kind rule rule' :=
  fun cursor cursor' alike fewer _ => agrees cursor cursor' alike fewer

theorem agrees_pure {result : α} {result' : β} (same : kind.related result result')
    (made : front = kind.parts result) : AgreesFrom front bound 0 kind (pure result) (pure result') :=
  fun _ _ alike _ => ⟨same, alike, Nat.le_refl _, made ▸ fun _ _ read => read⟩

/-- The comments that were read may stand elsewhere in the result. -/
theorem AgreesFrom.gathered {front' : List Part} (agrees : AgreesFrom front' bound eaten kind rule rule')
    (words : Part.words front = Part.words front') (notes : Part.notes front = Part.notes front') :
    AgreesFrom front bound eaten kind rule rule' :=
  fun cursor cursor' alike fewer =>
    (agrees cursor cursor' alike fewer).weaken (Nat.le_refl _) (fun _ _ same => same) fun _ _ carries =>
      .trans (.reorder words notes) carries

theorem agrees_fail {fault fault' : SyntaxFault} {span span' : Span} :
    AgreesFrom front bound eaten kind (fail fault span) (fail fault' span') :=
  fun _ _ _ _ => trivial

theorem agrees_unexpected {what what' : Expectation} :
    AgreesFrom front bound eaten kind (unexpected what) (unexpected what') :=
  fun _ _ _ _ => trivial

theorem AgreesFrom.bind {ate : Nat} (first : AgreesFrom front bound ate kind rule rule')
    (then' : ∀ result result', kind.related result result' →
      AgreesFrom (kind.parts result) bound eaten goal (next result) (next' result')) :
    AgreesFrom front bound eaten goal (rule >>= next) (rule' >>= next') := by
  intro cursor cursor' alike fewer
  rw [run_bind, run_bind]
  suffices Meet cursor front (ate + eaten) goal _ _ from
    this.weaken (by omega) (fun _ _ same => same) fun _ _ carries => carries
  refine Meet.bind (first cursor cursor' alike fewer) ?_
  intro result result' after after' same alike less
  exact then' result result' same after after' alike (by omega)

theorem AgreesAt.last (first : AgreesAt token? front bound eaten kind rule rule')
    (then' : ∀ result result', kind.related result result' →
      AgreesFrom (kind.parts result) bound 0 goal (next result) (next' result')) :
    AgreesAt token? front bound eaten goal (rule >>= next) (rule' >>= next') := by
  intro cursor cursor' alike fewer here
  rw [run_bind, run_bind]
  change Meet _ _ (eaten + 0) _ _ _
  refine Meet.bind (first cursor cursor' alike fewer here) ?_
  intro result result' after after' same alike less
  exact then' result result' same after after' alike (by omega)

theorem AgreesFrom.last (first : AgreesFrom front bound eaten kind rule rule')
    (then' : ∀ result result', kind.related result result' →
      AgreesFrom (kind.parts result) bound 0 goal (next result) (next' result')) :
    AgreesFrom front bound eaten goal (rule >>= next) (rule' >>= next') :=
  fun cursor cursor' alike fewer => first.at.last then' cursor cursor' alike fewer rfl

/-- The first rule begins with a part of what was read. -/
theorem AgreesFrom.onward {own : List Part} {ate : Nat} (first : AgreesFrom own bound ate kind rule rule')
    (outer : List Part) (split : front = outer ++ own) (then' : ∀ result result', kind.related result result' →
      AgreesFrom (outer ++ kind.parts result) bound eaten goal (next result) (next' result')) :
    AgreesFrom front bound eaten goal (rule >>= next) (rule' >>= next') :=
  split ▸ (first.frame outer).bind then'

theorem Agrees.loose (agrees : Agrees bound eaten kind rule rule') : Agrees bound 0 kind rule rule' :=
  AgreesFrom.loose agrees

theorem Agrees.below (agrees : Agrees (bound + 1) eaten kind rule rule') : Agrees bound eaten kind rule rule' :=
  AgreesFrom.below agrees

theorem Agrees.from (agrees : Agrees bound eaten kind rule rule') :
    AgreesFrom front bound eaten (kind.after front) rule rule' := by
  simpa using agrees.frame front

theorem Agrees.bind {ate : Nat} (first : Agrees bound ate kind rule rule')
    (then' : ∀ result result', kind.related result result' →
      AgreesFrom (front ++ kind.parts result) bound eaten goal (next result) (next' result')) :
    AgreesFrom front bound eaten goal (rule >>= next) (rule' >>= next') :=
  first.from.bind then'

theorem Agrees.last (first : Agrees bound eaten kind rule rule')
    (then' : ∀ result result', kind.related result result' →
      AgreesFrom (front ++ kind.parts result) bound 0 goal (next result) (next' result')) :
    AgreesFrom front bound eaten goal (rule >>= next) (rule' >>= next') :=
  first.from.last then'

/-- After a token was read, a rule is asked about one token less. -/
theorem Agrees.eat (first : Agrees (bound + 1) 1 kind rule rule')
    (then' : ∀ result result', kind.related result result' →
      AgreesFrom (front ++ kind.parts result) bound 0 goal (next result) (next' result')) :
    AgreesFrom front (bound + 1) 1 goal (rule >>= next) (rule' >>= next') := by
  intro cursor cursor' alike fewer
  rw [run_bind, run_bind]
  change Meet _ _ (1 + 0) _ _ _
  refine Meet.bind (first.from cursor cursor' alike fewer) ?_
  intro result result' after after' same alike less
  exact then' result result' same after after' alike (by omega)

theorem Agrees.given {ate : Nat} {rule rule' : Parser α} {next : α → Parser γ} {next' : α → Parser δ}
    (first : Agrees bound ate .same rule rule')
    (then' : ∀ result, AgreesFrom front bound eaten goal (next result) (next' result)) :
    AgreesFrom front bound eaten goal (rule >>= next) (rule' >>= next') := by
  refine first.bind fun result result' same => ?_
  cases same
  simpa using then' result

theorem Agrees.equal {ate : Nat} {parts : α → List Part} {rule rule' : Parser α} {next : α → Parser γ}
    {next' : α → Parser δ} (first : Agrees bound ate ⟨Eq, parts⟩ rule rule')
    (then' : ∀ result, AgreesFrom (front ++ parts result) bound eaten goal (next result) (next' result)) :
    AgreesFrom front bound eaten goal (rule >>= next) (rule' >>= next') :=
  first.bind fun result _ same => same ▸ then' result

theorem Agrees.any {ate : Nat} (first : Agrees bound ate .any rule rule')
    (then' : ∀ result result', AgreesFrom front bound eaten goal (next result) (next' result')) :
    AgreesFrom front bound eaten goal (rule >>= next) (rule' >>= next') := by
  refine first.bind fun result result' _ => ?_
  simpa using then' result result'

theorem Agrees.past (first : Agrees bound eaten .any rule rule')
    (then' : ∀ result result', AgreesFrom front bound 0 goal (next result) (next' result')) :
    AgreesFrom front bound eaten goal (rule >>= next) (rule' >>= next') := by
  refine first.last fun result result' _ => ?_
  simpa using then' result result'

theorem AgreesAt.map {change : α → γ} {change' : β → δ} (first : AgreesAt token? front bound eaten kind rule rule')
    (made : ∀ result, kind.parts result = goal.parts (change result))
    (imp : ∀ result result', kind.related result result' → goal.related (change result) (change' result')) :
    AgreesAt token? front bound eaten goal (change <$> rule) (change' <$> rule') := by
  rw [map_eq_pure_bind, map_eq_pure_bind]
  exact first.last fun result result' same => agrees_pure (imp result result' same) (made result)

theorem agrees_either (kind : Kind α β) {ate : Nat} {test : Prop} [Decidable test] {yes no : Parser α}
    {yes' no' : Parser β}
    (whenTrue : Agrees bound ate kind yes yes') (whenFalse : Agrees bound ate kind no no')
    (then' : ∀ result result', kind.related result result' →
      AgreesFrom (front ++ kind.parts result) bound eaten goal (next result) (next' result')) :
    AgreesFrom front bound eaten goal (if test then yes >>= next else no >>= next)
      (if test then yes' >>= next' else no' >>= next') := by
  by_cases holds : test
  · rw [if_pos holds, if_pos holds]
    exact whenTrue.bind then'
  · rw [if_neg holds, if_neg holds]
    exact whenFalse.bind then'

theorem Agrees.some (agrees : Agrees bound eaten kind rule rule') :
    Agrees bound 0 kind.option (some <$> rule) (some <$> rule') := by
  rw [map_eq_pure_bind, map_eq_pure_bind]
  exact agrees.bind fun _ _ same => agrees_pure (.some same) (by simp)

theorem agrees_unless {ate : Nat} {test : Prop} [Decidable test] {next : Option α → Parser γ}
    {next' : Option β → Parser δ} (agrees : Agrees bound ate kind rule rule')
    (then' : ∀ result? result?', Option.Rel kind.related result? result?' →
      AgreesFrom (front ++ kind.option.parts result?) bound eaten goal (next result?) (next' result?')) :
    AgreesFrom front bound eaten goal (if test then pure none >>= next else some <$> rule >>= next)
      (if test then pure none >>= next' else some <$> rule' >>= next') :=
  agrees_either kind.option (agrees_pure .none (by simp)) agrees.some then'

theorem agrees_when {ate : Nat} {test : Prop} [Decidable test] {next : Option α → Parser γ}
    {next' : Option β → Parser δ} (agrees : Agrees bound ate kind rule rule')
    (then' : ∀ result? result?', Option.Rel kind.related result? result?' →
      AgreesFrom (front ++ kind.option.parts result?) bound eaten goal (next result?) (next' result?')) :
    AgreesFrom front bound eaten goal (if test then some <$> rule >>= next else pure none >>= next)
      (if test then some <$> rule' >>= next' else pure none >>= next') :=
  agrees_either kind.option agrees.some (agrees_pure .none (by simp)) then'

theorem agrees_ite {test : Prop} [Decidable test] {other : Parser α} {other' : Parser β}
    (whenTrue : test → AgreesFrom front bound eaten kind rule rule')
    (whenFalse : ¬test → AgreesFrom front bound eaten kind other other') :
    AgreesFrom front bound eaten kind (if test then rule else other) (if test then rule' else other') := by
  by_cases holds : test
  · rw [if_pos holds, if_pos holds]
    exact whenTrue holds
  · rw [if_neg holds, if_neg holds]
    exact whenFalse holds

theorem agrees_phrase {phrase : Phrase} (agrees : AgreesFrom front bound eaten kind rule rule') :
    AgreesFrom front bound eaten kind (MonadParser.phrase phrase rule) (MonadParser.phrase phrase rule') :=
  agrees

theorem agrees_look (look : Option Token → γ) {next : γ → Parser α} {next' : γ → Parser β}
    (then' : ∀ token?, AgreesAt token? front bound eaten kind (next (look token?)) (next' (look token?))) :
    AgreesFrom front bound eaten kind ((do return look (← peek)) >>= next) ((do return look (← peek)) >>= next') := by
  intro cursor cursor' alike fewer
  have met := then' cursor.peek cursor cursor' alike fewer rfl
  nth_rewrite 2 [alike.peek] at met
  exact met

theorem agrees_peek {next : Option Token → Parser γ} {next' : Option Token → Parser δ}
    (then' : ∀ token?, AgreesAt token? front bound eaten goal (next token?) (next' token?)) :
    AgreesFrom front bound eaten goal (peek >>= next) (peek >>= next') :=
  agrees_look id then'

theorem agrees_looked (look : Option Token → α) :
    Agrees bound 0 .same (do return look (← peek)) (do return look (← peek)) :=
  fun _ _ alike _ => ⟨congrArg look alike.peek, alike, Nat.le_refl _, fun _ _ read => read⟩

theorem agrees_peeked : Agrees bound 0 .same peek peek :=
  agrees_looked id

theorem agrees_peekAfter (count : Nat) : Agrees bound 0 .same (peekAfter count) (peekAfter count) :=
  fun _ _ alike _ => ⟨alike.peekAfter count, alike, Nat.le_refl _, fun _ _ read => read⟩

theorem AgreesAt.peekAfter {count : Nat} {next : Option Token → Parser γ} {next' : Option Token → Parser δ}
    (then' : ∀ later?, AgreesAt token? front bound eaten goal (next later?) (next' later?)) :
    AgreesAt token? front bound eaten goal (peekAfter count >>= next) (peekAfter count >>= next') := by
  intro cursor cursor' alike fewer here
  have met := then' ((cursor.rest[count]?).map (·.token)) cursor cursor' alike fewer here
  nth_rewrite 2 [alike.peekAfter] at met
  exact met

theorem agrees_get {next : Cursor → Parser γ} {next' : Cursor → Parser δ}
    (then' : ∀ cursor cursor', cursor.Alike cursor' →
      AgreesAt cursor.peek front bound eaten goal (next cursor) (next' cursor')) :
    AgreesFrom front bound eaten goal (get >>= next) (get >>= next') :=
  fun cursor cursor' alike fewer => then' cursor cursor' alike cursor cursor' alike fewer rfl

theorem agrees_atMark (sign : Mark) : Agrees bound 0 .same (atMark sign) (atMark sign) :=
  agrees_looked _

theorem agrees_atIdent : Agrees bound 0 .same atIdent atIdent :=
  agrees_looked _

theorem agrees_atSemicolon : Agrees bound 0 .same atSemicolon atSemicolon :=
  agrees_looked _

theorem agrees_start : Agrees bound 0 .any start start :=
  fun _ _ alike _ => ⟨trivial, alike, Nat.le_refl _, fun _ _ read => read⟩

theorem agrees_lastEnd : Agrees bound 0 .any lastEnd lastEnd :=
  fun _ _ alike _ => ⟨trivial, alike, Nat.le_refl _, fun _ _ read => read⟩

theorem agrees_spanFrom {start start' : Nat} : Agrees bound 0 .any (spanFrom start) (spanFrom start') :=
  fun _ _ alike _ => ⟨trivial, alike, Nat.le_refl _, fun _ _ read => read⟩

theorem length_advance {cursor : Cursor} {token : Token} (here : cursor.peek = some token) :
    cursor.advance.rest.length + 1 ≤ cursor.rest.length := by
  obtain ⟨lexeme, head, -⟩ := Option.map_eq_some_iff.mp here
  obtain ⟨rest, split⟩ := List.head?_eq_some_iff.mp head
  have size : cursor.rest.length = cursor.advance.rest.length + 1 := by
    rw [Cursor.Alike.rest_advance, split, List.tail_cons, List.length_cons]
  omega

theorem AgreesAt.take {token : Token} {parts : List Part} {next : Unit → Parser γ} {next' : Unit → Parser δ}
    (read : ∀ cursor : Cursor, cursor.peek = some token → Read cursor cursor.advance parts)
    (then' : AgreesFrom (front ++ parts) bound 0 goal (next ()) (next' ())) :
    AgreesAt (some token) front (bound + 1) 1 goal (skip >>= next) (skip >>= next') := by
  intro cursor cursor' alike fewer here
  have less := length_advance here
  have met : Meet _ _ _ _ _ _ := then' cursor.advance cursor'.advance alike.advance (by omega)
  exact met.weaken (by omega) (fun _ _ same => same) fun _ _ carries => .trans (.of_read (read cursor here)) carries

theorem AgreesAt.word {token : Token} (part : Part) {next : Unit → Parser γ} {next' : Unit → Parser δ}
    (then' : AgreesFrom (front ++ [part]) bound 0 goal (next ()) (next' ())) (isOne : token.isWord = true)
    (isPart : part.isWord = true) (kept : token.Genuine → part.IsOf token) :
    AgreesAt (some token) front (bound + 1) 1 goal (skip >>= next) (skip >>= next') :=
  .take (fun _ peeked => .word peeked isOne isPart kept) then'

theorem AgreesAt.skip {token : Token} {next : Unit → Parser γ} {next' : Unit → Parser δ}
    (then' : AgreesFrom front bound 0 goal (next ()) (next' ())) (plain : token.isWord = false) :
    AgreesAt (some token) front (bound + 1) 1 goal (skip >>= next) (skip >>= next') :=
  .take (fun _ peeked => .skip peeked plain) (by simpa using then')

theorem AgreesAt.loose (agrees : AgreesAt token? front (bound + 1) eaten kind rule rule') :
    AgreesAt token? front bound 0 kind rule rule' :=
  fun cursor cursor' alike fewer here =>
    (agrees cursor cursor' alike (by omega) here).weaken (by omega) (fun _ _ same => same) fun _ _ carries => carries

theorem agrees_eatIf (look : Option Token → Bool) (nothing : look none = false)
    (plain : ∀ token, look (some token) = true → token.isWord = false) :
    Agrees bound 0 .same (eatIf (do return look (← peek))) (eatIf (do return look (← peek))) := by
  refine agrees_look look fun token? => ?_
  cases holds : look token? with
  | false => exact (agrees_pure rfl (by simp)).at
  | true =>
    cases token? with
    | none => exact absurd holds (by simp [nothing])
    | some token => exact AgreesAt.loose (AgreesAt.skip (agrees_pure rfl (by simp)) (plain token holds))

theorem agrees_eatMark (sign : Mark) : Agrees bound 0 .same (eatMark sign) (eatMark sign) :=
  agrees_eatIf (· == some (.mark sign)) rfl fun token holds => by simp_all [Token.isWord]

theorem agrees_eatKeyword (word : Keyword) : Agrees bound 0 .same (eatKeyword word) (eatKeyword word) :=
  agrees_eatIf (· == some (.keyword word)) rfl fun token holds => by simp_all [Token.isWord]

theorem agrees_eatSemicolon : Agrees bound 0 .same eatSemicolon eatSemicolon :=
  agrees_eatIf isSemicolon rfl fun token holds => by
    cases token with
    | semicolon => rfl
    | _ => cases holds

theorem agrees_expect (token : Token) (plain : token.isWord = false) :
    Agrees bound 1 .any (expect token) (expect token) := by
  refine agrees_of_succ fun bound => agrees_get fun cursor cursor' alike => ?_
  simp only [← alike.peek]
  by_cases here : cursor.peek = some token
  · rw [here]
    simp only [beq_self_eq_true, if_true]
    exact AgreesAt.skip (agrees_pure trivial (by simp)) plain
  · rw [if_neg (by simpa using here), if_neg (by simpa using here)]
    exact agrees_unexpected.at

theorem agrees_expectMark (sign : Mark) : Agrees bound 1 .any (expectMark sign) (expectMark sign) :=
  agrees_expect (.mark sign) rfl

theorem agrees_expectKeyword (word : Keyword) :
    Agrees bound 1 .any (expectKeyword word) (expectKeyword word) :=
  agrees_expect (.keyword word) rfl

theorem agrees_expectSemicolon : Agrees bound 0 .any expectSemicolon expectSemicolon := by
  refine agrees_eatSemicolon.given fun found => agrees_ite (fun _ => agrees_pure trivial (by simp)) fun _ => ?_
  exact agrees_unexpected

theorem agrees_ident : Agrees bound 1 .ident ident ident := by
  refine agrees_of_succ fun bound => agrees_get fun cursor cursor' alike => ?_
  simp only [← alike.peek]
  split
  · rename_i name here
    rw [here]
    exact AgreesAt.word (.word (.ident name)) (agrees_pure rfl (by simp)) rfl rfl fun _ => rfl
  · exact agrees_unexpected.at

theorem agrees_name : Agrees bound 1 .name name name :=
  agrees_ident.last fun _ _ same => agrees_pure same (by simp)

theorem agrees_lineEnd : Agrees bound 0 .any lineEnd lineEnd := by
  refine agrees_peek fun token? => ?_
  split
  · exact (agrees_pure trivial (by simp)).at
  · exact (agrees_pure trivial (by simp)).at
  · exact (agrees_pure trivial (by simp)).at
  · rw [← bind_pure skip]
    exact AgreesAt.loose (AgreesAt.skip (agrees_pure trivial (by simp)) rfl)
  · exact agrees_unexpected.at

theorem agrees_level {level level' : Cursor → Int}
    (same : ∀ cursor cursor' : Cursor, cursor.Alike cursor' → level cursor = level' cursor') :
    Agrees bound 0 .any (modify fun cursor => { cursor with level := level cursor } : Parser Unit)
      (modify fun cursor => { cursor with level := level' cursor } : Parser Unit) :=
  fun cursor cursor' alike _ => ⟨trivial, ⟨alike.tokens, same cursor cursor' alike⟩, Nat.le_refl _,
    .of_read (.of_same rfl rfl)⟩

theorem Agrees.deeper (agrees : Agrees bound eaten kind rule rule') :
    Agrees bound eaten kind (deeper rule) (deeper rule') := by
  refine (agrees_level fun _ _ alike => congrArg (· + 1) alike.level).any fun _ _ => ?_
  refine agrees.last fun _ _ same => ?_
  exact (agrees_level fun _ _ alike => congrArg (· - 1) alike.level).any fun _ _ => agrees_pure same (by simp)

theorem Agrees.atLevel (level : Int) (agrees : Agrees bound eaten kind rule rule') :
    Agrees bound eaten kind (atLevel level rule) (atLevel level rule') := by
  refine agrees_get fun outer outer' alike => AgreesFrom.at ?_
  refine (agrees_level fun _ _ _ => rfl).any fun _ _ => ?_
  refine agrees.last fun _ _ same => ?_
  exact (agrees_level fun _ _ _ => alike.level).any fun _ _ => agrees_pure same (by simp)

/-- The rule reads no token: it may only take comments. -/
def TakesComments (parts : α → List Part) (rule : Parser α) : Prop :=
  ∀ cursor, Yields False rule cursor fun result after =>
    ∃ comments, after = { cursor with comments } ∧ Read cursor after (parts result)

theorem TakesComments.agrees {parts : α → List Part} {parts' : β → List Part} (takes : TakesComments parts rule)
    (takes' : TakesComments parts' rule') : Agrees bound 0 ⟨fun _ _ => True, parts⟩ rule rule' := by
  intro cursor cursor' alike _
  obtain ⟨result, after, run, comments, rfl, read⟩ := (takes cursor).exists_run
  obtain ⟨result', after', run', comments', rfl, -⟩ := (takes' cursor').exists_run
  rw [run, run']
  exact ⟨trivial, ⟨alike.tokens, alike.level⟩, Nat.le_refl _, .of_read read⟩

theorem takes_none (cursor : Cursor) :
    ∃ comments, cursor = { cursor with comments } ∧ Read cursor cursor (Part.ofNotes (none : Option Comment).toList) :=
  ⟨_, rfl, .refl cursor⟩

theorem takes_commentsBefore (offset : Nat) : TakesComments Part.ofNotes (commentsBefore offset) := by
  intro cursor
  simp only [commentsBefore, yields_bind, yields_get, yields_set, yields_pure]
  refine ⟨_, rfl, fun _ => ⟨[], rfl, ?_⟩, ?_⟩
  · simp
  · rw [Part.notes_ofNotes, Multiset.coe_add, List.takeWhile_append_dropWhile]

theorem takes_trailingComment (offset : Nat) :
    TakesComments (fun note? => Part.ofNotes note?.toList) (trailingComment offset) := by
  intro cursor
  simp only [trailingComment, yields_bind, yields_get]
  split
  · rename_i split
    split
    · simp only [yields_bind, yields_set, yields_pure]
      refine ⟨_, rfl, fun _ => ⟨[], rfl, ?_⟩, ?_⟩
      · simp
      · simp [split]
    · exact yields_pure.mpr (takes_none cursor)
  · exact yields_pure.mpr (takes_none cursor)

theorem takes_trailingLineComment (offset : Nat) :
    TakesComments (fun note? => Part.ofNotes note?.toList) (trailingLineComment offset) := by
  intro cursor
  simp only [trailingLineComment, yields_bind, yields_get]
  split
  · split
    · exact takes_trailingComment offset cursor
    · exact yields_pure.mpr (takes_none cursor)
  · exact yields_pure.mpr (takes_none cursor)

theorem agrees_commentsBefore {offset offset' : Nat} :
    Agrees bound 0 .notes (commentsBefore offset) (commentsBefore offset') :=
  (takes_commentsBefore offset).agrees (takes_commentsBefore offset')

theorem agrees_trailingComment {offset offset' : Nat} :
    Agrees bound 0 .note (trailingComment offset) (trailingComment offset') :=
  (takes_trailingComment offset).agrees (takes_trailingComment offset')

theorem agrees_trailingLineComment {offset offset' : Nat} :
    Agrees bound 0 .note (trailingLineComment offset) (trailingLineComment offset') :=
  (takes_trailingLineComment offset).agrees (takes_trailingLineComment offset')

/-- Both rounds end the loop, or neither does. -/
inductive Step.Rel (going : σ → τ → Prop) (done : α → β → Prop) : Step σ α → Step τ β → Prop
  | again {state state'} (same : going state state') : Rel going done (.again state) (.again state')
  | done {result result'} (same : done result result') : Rel going done (.done result) (.done result')

def Step.parts (held : σ → List Part) (parts : α → List Part) : Step σ α → List Part
  | .again state => held state
  | .done result => parts result

@[simp] def Kind.step (going : Kind σ τ) (kind : Kind α β) : Kind (Step σ α) (Step τ β) :=
  ⟨Step.Rel going.related kind.related, Step.parts going.parts kind.parts⟩

@[simp] theorem Step.parts_again (held : σ → List Part) (parts : α → List Part) (state : σ) :
    Step.parts held parts (.again state) = held state := rfl

@[simp] theorem Step.parts_done (held : σ → List Part) (parts : α → List Part) (result : α) :
    Step.parts held parts (.done result) = parts result := rfl

theorem agrees_iterate {going : Kind σ τ} {step : σ → Parser (Step σ α)} {step' : τ → Parser (Step τ β)}
    (round : ∀ state state', going.related state state' →
      AgreesFrom (going.parts state) bound 0 (going.step kind) (step state) (step' state'))
    (fuel : Nat) {state : σ} {state' : τ} (same : going.related state state') :
    AgreesFrom (going.parts state) bound 0 kind (iterate step fuel state) (iterate step' fuel state') := by
  induction fuel generalizing state state' with
  | zero => exact fun _ _ _ _ => trivial
  | succ fuel ih =>
    refine (round state state' same).bind fun outcome outcome' both => ?_
    cases both with
    | again same => exact ih same
    | done same => exact agrees_pure same (by simp)

theorem agrees_loop (going : Kind σ τ) {step : σ → Parser (Step σ α)} {step' : τ → Parser (Step τ β)}
    {state : σ} {state' : τ} (made : front = going.parts state) (same : going.related state state')
    (round : ∀ state state', going.related state state' →
      AgreesFrom (going.parts state) bound 0 (going.step kind) (step state) (step' state')) :
    AgreesFrom front bound 0 kind (loop state step) (loop state' step') := by
  refine agrees_get fun cursor cursor' alike => AgreesFrom.at ?_
  rw [← alike.length, made]
  exact agrees_iterate round _ same

theorem each_concat {related : α → β → Prop} {list : List α} {list' : List β} {entry : α} {entry' : β}
    (each : Each related list list') (same : related entry entry') :
    Each related (list ++ [entry]) (list' ++ [entry']) :=
  List.rel_append each (.cons same .nil)

theorem agrees_commaList (entry : Agrees bound 1 kind rule rule') :
    Agrees bound 1 kind.each (commaList rule) (commaList rule') := by
  refine entry.last fun first first' same => agrees_loop kind.each (by simp) (.cons same .nil) fun list list' each => ?_
  refine (agrees_eatMark _).given fun found => agrees_ite (fun _ => ?_) fun _ => agrees_pure (.done each) (by simp)
  exact entry.bind fun _ _ same => agrees_pure (.again (each_concat each same)) (by simp)

theorem agrees_listUntil (close : Mark) (entry : Agrees bound eaten kind rule rule') :
    Agrees bound 0 kind.each (listUntil close rule) (listUntil close rule') := by
  refine agrees_loop kind.each (by simp) .nil fun list list' each => ?_
  refine (agrees_atMark _).given fun found => agrees_ite (fun _ => agrees_pure (.done each) (by simp)) fun _ => ?_
  refine entry.bind fun _ _ same => (agrees_eatMark _).given fun found => agrees_ite (fun _ => ?_) fun _ => ?_
  · exact agrees_pure (.again (each_concat each same)) (by simp)
  · exact agrees_pure (.done (each_concat each same)) (by simp)

theorem agrees_linesUntil (close : Mark) (entry : Agrees bound eaten kind rule rule') :
    Agrees bound 0 kind.each (linesUntil close rule) (linesUntil close rule') := by
  refine agrees_loop kind.each (by simp) .nil fun list list' each => ?_
  refine agrees_eatSemicolon.given fun found => agrees_ite (fun _ => agrees_pure (.again each) (by simp)) fun _ => ?_
  refine (agrees_atMark _).given fun found => agrees_ite (fun _ => agrees_pure (.done each) (by simp)) fun _ => ?_
  refine entry.bind fun _ _ same => agrees_lineEnd.any fun _ _ => ?_
  exact agrees_pure (.again (each_concat each same)) (by simp)

end Parser

end GoSpecs
