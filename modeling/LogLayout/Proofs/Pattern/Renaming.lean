import LogLayout.Proofs.Pattern.Enclosing
import LogLayout.Proofs.Pattern.Exchanging
import LogLayout.Proofs.Pattern.FaultPlaces
import LogLayout.Proofs.Pattern.Lookahead
import LogLayout.Proofs.Pattern.Resolving

namespace LogLayout.Pattern

/-!
# Aliases in place of words

A word may be exchanged for one of its aliases wherever it stands.  The pattern then compiles
to the very same parts.  If it does not compile, it fails in the same directive and in the same
way, and the directive is still called what it is called in the pattern.

The proof follows two runs of the compiler along the way to the exchanged word.  Up to there
both read the same text, and behind it the same text at moved offsets.  What both come to is
related by `Tracks`, which every step on the way keeps.
-/

/-! ## Two runs -/

/-- Reading up to `closing` from a cursor fails in the directive at an offset. -/
def FailsIn (registry : Registry) (context : Context) (closing : Option Char) (cursor : Cursor)
    (place : Nat) (failure : Failure) : Prop :=
  ∃ opened text following,
    FailsAt registry context closing cursor opened place text following failure

/-- What the failure of the directive at an offset becomes by the exchange: it moves, and if
the directive is the one whose word is exchanged, it is called by the new word. -/
def Exchange.renamed (exchange : Exchange) (word : String) (place : Nat) (failure : Failure) :
    Failure :=
  (if place = exchange.position then failure.withWord word else failure).mapPosition
    exchange.moved

/-- A run over the new text comes to what the run over the old one comes to, up to the
exchange.  A success has read on behind the exchanged word. -/
def Tracks (exchange : Exchange) (word : String) (fails : Nat → Failure → Prop)
    {Value : Type} (outcome other : Except Failure (Value × Cursor)) : Prop :=
  match outcome with
  | .ok (value, behind) => exchange.Behind behind.position ∧
      other = .ok (value, behind.mapPosition exchange.moved)
  | .error failure => ∃ place, fails place failure ∧
      other = .error (exchange.renamed word place failure)

section Tracking

variable {exchange : Exchange} {word : String} {fails more : Nat → Failure → Prop}
  {Value Result : Type}

theorem Tracks.mono {outcome other : Except Failure (Value × Cursor)}
    (tracks : Tracks exchange word fails outcome other)
    (wider : ∀ place failure, fails place failure → more place failure) :
    Tracks exchange word more outcome other := by
  rcases outcome with failure | ⟨value, behind⟩
  · rcases tracks with ⟨place, failed, same⟩
    exact ⟨place, wider place failure failed, same⟩
  · exact tracks

/-- Steps that follow each other track each other if each of them does. -/
theorem Tracks.bind {outcome other : Except Failure (Value × Cursor)}
    {next otherNext : Value × Cursor → Except Failure (Result × Cursor)}
    (tracks : Tracks exchange word fails outcome other)
    (step : ∀ value behind, outcome = .ok (value, behind) → exchange.Behind behind.position →
      Tracks exchange word fails (next (value, behind))
        (otherNext (value, behind.mapPosition exchange.moved))) :
    Tracks exchange word fails (outcome.bind next) (other.bind otherNext) := by
  rcases outcome with failure | ⟨value, behind⟩
  · rcases tracks with ⟨place, failed, rfl⟩
    exact ⟨place, failed, rfl⟩
  · rcases tracks with ⟨further, rfl⟩
    exact step value behind rfl further

theorem Tracks.inFrontOf {outcome other : Except Failure (Compiled × Cursor)}
    (tracks : Tracks exchange word fails outcome other) (first : Compiled) :
    Tracks exchange word fails (first.inFrontOf outcome) (first.inFrontOf other) := by
  rcases outcome with failure | ⟨compiled, behind⟩
  · rcases tracks with ⟨place, failed, rfl⟩
    exact ⟨place, failed, rfl⟩
  · rcases tracks with ⟨further, rfl⟩
    exact ⟨further, rfl⟩

/-- A run that only moves tracks the old one, if it does not fail in the exchanged
directive. -/
theorem Tracks.of_moved {outcome : Except Failure (Value × Cursor)}
    (behind : ∀ value ahead, outcome = .ok (value, ahead) → exchange.Behind ahead.position)
    (failed : ∀ failure, outcome = .error failure →
      ∃ place, place ≠ exchange.position ∧ fails place failure) :
    Tracks exchange word fails outcome (mapPositions exchange.moved outcome) := by
  rcases outcome with failure | ⟨value, ahead⟩
  · rcases failed failure rfl with ⟨place, elsewhere, there⟩
    exact ⟨place, there, by rw [Exchange.renamed, if_neg elsewhere]; rfl⟩
  · exact ⟨behind value ahead rfl, rfl⟩

/-- A run that is also renamed tracks the old one, if it fails in no other directive. -/
theorem Tracks.of_renamed {outcome : Except Failure (Value × Cursor)}
    (behind : ∀ value ahead, outcome = .ok (value, ahead) → exchange.Behind ahead.position)
    (failed : ∀ failure, outcome = .error failure → fails exchange.position failure) :
    Tracks exchange word fails outcome
      (mapPositions exchange.moved (outcome.mapError (Failure.withWord word))) := by
  rcases outcome with failure | ⟨value, ahead⟩
  · exact ⟨exchange.position, failed failure rfl, by rw [Exchange.renamed, if_pos rfl]; rfl⟩
  · exact ⟨behind value ahead rfl, rfl⟩

end Tracking

/-! ## Failures along the way -/

section Failures

variable {registry : Registry} {context : Context} {closing ending : Option Char}
  {cursor later : Cursor} {place : Nat} {failure : Failure}

theorem FailsIn.of_reaches {opened : List Nat}
    (reaches : Reaches registry context closing cursor opened ending later)
    (fails : FailsIn registry context ending later place failure) :
    FailsIn registry context closing cursor place failure := by
  rcases fails with ⟨further, text, following, ⟨⟨last, reached⟩, single⟩, wrong, stopped⟩
  exact ⟨opened ++ further, text, following, ⟨⟨last, reaches.trans reached⟩, single⟩, wrong,
    stopped⟩

theorem FailsIn.le_place (fails : FailsIn registry context closing cursor place failure) :
    cursor.position ≤ place := by
  rcases fails with ⟨opened, text, following, opens, -, -⟩
  rcases opens.exists_front with ⟨front, -, same⟩
  rw [same]
  exact Nat.le_add_right _ _

theorem exists_failsIn (failed : registry.compileUntil context closing cursor = .error failure) :
    ∃ place, FailsIn registry context closing cursor place failure := by
  rcases (compileUntil_eq_error_iff closing cursor failure).mp failed with
    ⟨opened, place, text, following, fails⟩
  exact ⟨place, opened, text, following, fails⟩

/-- A directive that goes wrong behind whatever it encloses is the one that fails. -/
theorem failsIn_of_known {head : HeadText} {builder : Builder} {following : List Char}
    (inRange : InRange head.lengths) (resolved : registry.resolve? head.name = some builder)
    (maximal : ∀ character ∈ following.head?, Text.isAlphabetic character = false)
    (enclosed : ∀ inner, builder.encloses = true → following = '(' :: inner →
      ∃ done, registry.compileUntil context (some ')')
        ⟨place + 1 + head.chars.length + 1, inner⟩ = .ok done)
    (failed : registry.compileDirective context place ⟨place + 1, head.chars ++ following⟩ =
      .error failure) :
    FailsIn registry context closing ⟨place, '%' :: (head.chars ++ following)⟩ place
      failure := by
  rcases compileDirective_known_error_cases inRange resolved maximal failed with
    ⟨text, behind, divided, stopped, wrong⟩ | ⟨inner, encloses, opening, insideFailed⟩
  · have single : (text ++ behind).head? ≠ some '%' := by
      rw [← divided]
      exact head.head?_ne_percent following
    exact ⟨[], text, behind, ⟨⟨closing, by rw [divided]; exact .here⟩, single⟩, wrong, stopped⟩
  · rcases enclosed inner encloses opening with ⟨done, same⟩
    cases insideFailed.symm.trans same

end Failures

section Runs

variable {registry : Registry} {context : Context} {exchange : Exchange} {word : String}

/-- Behind the exchanged word both runs read the same text. -/
theorem tracks_behind (blind : registry.PositionBlind) (closing : Option Char)
    {cursor : Cursor} (behind : exchange.Behind cursor.position) :
    Tracks exchange word (FailsIn registry context closing cursor)
      (registry.compileUntil context closing cursor)
      (registry.compileUntil context closing (cursor.mapPosition exchange.moved)) := by
  rw [compileUntil_moved blind behind]
  refine .of_moved (fun compiled ahead done => ?_) fun failure failed => ?_
  · rcases exists_cuts closing cursor compiled ahead done with ⟨pieces, cuts⟩
    exact behind.trans (by rw [cuts.length]; exact Nat.le_add_right _ _)
  · rcases exists_failsIn failed with ⟨place, fails⟩
    have further := behind.trans fails.le_place
    exact ⟨place, Nat.ne_of_gt further.position_lt, fails⟩

/-- If a directive is tracked, then so is what the text comes to from its percent sign on. -/
theorem tracks_directive (blind : registry.PositionBlind) {closing : Option Char}
    {position : Nat} {rest otherRest : List Char} (single : rest.head? ≠ some '%')
    (otherSingle : otherRest.head? ≠ some '%')
    (tracks : Tracks exchange word
      (FailsIn registry context closing ⟨position, '%' :: rest⟩)
      (registry.compileDirective context position ⟨position + 1, rest⟩)
      (registry.compileDirective context position ⟨position + 1, otherRest⟩)) :
    Tracks exchange word (FailsIn registry context closing ⟨position, '%' :: rest⟩)
      (registry.compileUntil context closing ⟨position, '%' :: rest⟩)
      (registry.compileUntil context closing ⟨position, '%' :: otherRest⟩) := by
  rw [registry.compileUntil_directive context single,
    registry.compileUntil_directive context otherSingle]
  refine tracks.bind fun unit ahead done behind => ?_
  refine ((tracks_behind blind closing behind).mono fun place failure fails => ?_).inFrontOf _
  rcases exists_completes done with ⟨head, inside, parameters, builder, completes, text, length⟩
  rcases ahead with ⟨start, following⟩
  dsimp only at text length completes fails
  subst length
  rw [text]
  exact fails.of_reaches (.directive completes .here)

theorem tracks_enclosing {closing : Option Char} {position : Nat} {head : HeadText}
    {builder : Builder} {inner otherInner : List Char} (inRange : InRange head.lengths)
    (resolved : registry.resolve? head.name = some builder) (encloses : builder.encloses = true)
    (front : position < exchange.position)
    (enclosed : Tracks exchange word
      (FailsIn registry context (some ')') ⟨position + 1 + head.chars.length + 1, inner⟩)
      (registry.compileUntil context (some ')') ⟨position + 1 + head.chars.length + 1, inner⟩)
      (registry.compileUntil context (some ')')
        ⟨position + 1 + head.chars.length + 1, otherInner⟩)) :
    Tracks exchange word
      (FailsIn registry context closing ⟨position, '%' :: (head.chars ++ '(' :: inner)⟩)
      (registry.compileDirective context position ⟨position + 1, head.chars ++ '(' :: inner⟩)
      (registry.compileDirective context position
        ⟨position + 1, head.chars ++ '(' :: otherInner⟩) := by
  have whole := compileDirective_opened context inRange resolved encloses position inner
  rw [whole, compileDirective_opened context inRange resolved encloses]
  refine (enclosed.mono fun place failure fails =>
    fails.of_reaches (.enter inRange resolved encloses .here)).bind
      fun inside ahead done behind => ?_
  rw [compileEnd_moved builder (Nat.le_of_lt front) inside behind]
  refine .of_moved (fun unit further finished =>
    behind.trans (le_position_of_compileEnd finished)) fun failure failed => ?_
  refine ⟨position, Nat.ne_of_lt front, failsIn_of_known inRange resolved
    (fun character first => by cases first; decide) (fun other _ same => ?_) ?_⟩
  · cases same
    exact ⟨_, done⟩
  · rw [whole, done]
    exact failed

end Runs

/-! ## The exchanged directive -/

section Exchanged

variable {registry : Registry} {context : Context} {closing : Option Char} {position : Nat}
  {head : HeadText} {word : String} {builder : Builder} {following : List Char}

theorem tracks_exchanged_known (blind : registry.HeadBlind) (nonempty : word ≠ "")
    (letters : ∀ letter ∈ word.toList, Text.isAlphabetic letter = true)
    (inRange : InRange head.lengths) (resolved : registry.resolve? head.name = some builder)
    (alike : registry.resolve? word = some builder)
    (maximal : ∀ character ∈ following.head?, Text.isAlphabetic character = false) :
    Tracks (head.exchange position word) word
      (FailsIn registry context closing ⟨position, '%' :: (head.chars ++ following)⟩)
      (registry.compileDirective context position ⟨position + 1, head.chars ++ following⟩)
      (registry.compileDirective context position
        ⟨position + 1, (head.withWord word nonempty letters).chars ++ following⟩) := by
  have moved := head.moved_exchange position nonempty letters
  have behind := head.behind_exchange position word
  have otherHead := head.head_withWord nonempty letters position
  have otherInRange : InRange (head.withWord word nonempty letters).lengths := inRange
  have otherResolved :
      registry.resolve? (head.withWord word nonempty letters).name = some builder := by
    rw [head.name_withWord, alike]
  have wordBlind := blind _ builder resolved
  by_cases opened : builder.encloses = true ∧ following.head? = some '('
  · rcases List.head?_eq_some_iff.mp opened.2 with ⟨inner, rfl⟩
    have whole := compileDirective_opened context inRange resolved opened.1 position inner
    rw [whole, compileDirective_opened context otherInRange otherResolved opened.1, ← moved 1]
    refine ((tracks_behind blind.positionBlind (some ')') (behind 1)).mono
      fun place failure fails => fails.of_reaches
        (.enter inRange resolved opened.1 .here)).bind fun inside ahead done further => ?_
    rw [compileEnd_moved builder (Nat.le_refl _) inside further, otherHead,
      compileEnd_withWord wordBlind]
    refine .of_renamed (fun unit later finished =>
      further.trans (le_position_of_compileEnd finished)) fun failure failed => ?_
    refine failsIn_of_known inRange resolved maximal (fun other _ same => ?_) ?_
    · cases same
      exact ⟨_, done⟩
    · rw [whole, done]
      exact failed
  · have start : Cursor.mapPosition (head.exchange position word).moved
          ⟨position + 1 + head.chars.length, following⟩ =
        ⟨position + 1 + (head.withWord word nonempty letters).chars.length, following⟩ :=
      congrArg (Cursor.mk · following) (moved 0)
    have whole := compileDirective_unopened context inRange resolved maximal opened position
    rw [whole, compileDirective_unopened context otherInRange otherResolved maximal opened,
      ← start, compileTail_moved builder (Nat.le_refl _) none (behind 0), otherHead,
      compileTail_withWord wordBlind]
    refine .of_renamed (fun unit later finished =>
      (behind 0).trans (le_position_of_compileTail finished)) fun failure failed => ?_
    refine failsIn_of_known inRange resolved maximal (fun inner encloses same => ?_)
      (whole.trans failed)
    exact absurd ⟨encloses, by rw [same]; rfl⟩ opened

theorem tracks_exchanged (blind : registry.HeadBlind) (nonempty : word ≠ "")
    (letters : ∀ letter ∈ word.toList, Text.isAlphabetic letter = true)
    (resolved : registry.resolve? head.name = some builder)
    (alike : registry.resolve? word = some builder)
    (maximal : ∀ character ∈ following.head?, Text.isAlphabetic character = false) :
    Tracks (head.exchange position word) word
      (FailsIn registry context closing ⟨position, '%' :: (head.chars ++ following)⟩)
      (registry.compileUntil context closing ⟨position, '%' :: (head.chars ++ following)⟩)
      (registry.compileUntil context closing
        ⟨position, '%' :: ((head.withWord word nonempty letters).chars ++ following)⟩) := by
  refine tracks_directive blind.positionBlind (head.head?_ne_percent following)
    (HeadText.head?_ne_percent _ following) ?_
  cases checked : head.checked with
  | ok accepted =>
      rcases (checkLengths_written_iff head accepted).mp checked with ⟨-, inRange⟩
      exact tracks_exchanged_known blind nonempty letters inRange resolved alike maximal
  | error fault =>
      rcases HeadText.exists_bad_of_checked checked with ⟨bad, rfl⟩
      have read := head.readHead_word maximal position (position + 1)
      have otherRead := (head.withWord word nonempty letters).readHead_word maximal position
        (position + 1)
      rw [checked] at read
      rw [head.checked_withWord, checked] at otherRead
      rw [compileDirective_of_readHead read, compileDirective_of_readHead otherRead]
      refine ⟨position, ⟨[], head.chars, following, ⟨⟨closing, .here⟩,
        head.head?_ne_percent following⟩, .refused (.lengths checked maximal), rfl⟩, ?_⟩
      rw [Exchange.renamed,
        if_pos (show position = (head.exchange position word).position from rfl)]
      exact congrArg (fun stopped => Except.error (Failure.mk _ stopped))
        (head.moved_exchange position nonempty letters 0).symm

/-! ## The way to the exchanged directive -/

/-- Texts start alike if they are the same up to a percent sign. -/
theorem head?_append_percent (front rest other : List Char) :
    (front ++ '%' :: other).head? = (front ++ '%' :: rest).head? :=
  head?_append_congr (show ('%' :: other).head? = ('%' :: rest).head? from rfl) front

/-- From wherever the directive is reached, the run over the text with the other word tracks
the run over the old text. -/
theorem Reaches.tracks {start : Option Char} {cursor place : Cursor} {opened : List Nat}
    (reaches : Reaches registry context start cursor opened closing place)
    (blind : registry.HeadBlind) (nonempty : word ≠ "")
    (letters : ∀ letter ∈ word.toList, Text.isAlphabetic letter = true)
    (resolved : registry.resolve? head.name = some builder)
    (alike : registry.resolve? word = some builder)
    (maximal : ∀ character ∈ following.head?, Text.isAlphabetic character = false)
    (here : place = ⟨position, '%' :: (head.chars ++ following)⟩) :
    ∃ front, cursor.rest = front ++ '%' :: (head.chars ++ following) ∧
      Tracks (head.exchange position word) word (FailsIn registry context start cursor)
        (registry.compileUntil context start cursor)
        (registry.compileUntil context start ⟨cursor.position,
          front ++ '%' :: ((head.withWord word nonempty letters).chars ++ following)⟩) := by
  induction reaches with
  | here =>
      subst here
      exact ⟨[], rfl, tracks_exchanged blind nonempty letters resolved alike maximal⟩
  | @literal start ending offset text behind opened place plain bounded rest
        inductionHypothesis =>
      rcases inductionHypothesis here with ⟨front, divided, tracks⟩
      dsimp only at divided tracks
      have first := head?_append_percent front (head.chars ++ following)
        ((head.withWord word nonempty letters).chars ++ following)
      rw [← divided] at first
      refine ⟨text ++ front, by rw [divided, List.append_assoc], ?_⟩
      dsimp only
      rw [List.append_assoc, registry.compileUntil_literal context plain bounded,
        registry.compileUntil_literal context plain (by rw [first]; exact bounded)]
      exact (tracks.mono fun place failure fails =>
        fails.of_reaches (.literal plain bounded .here)).inFrontOf _
  | @percent start ending offset behind opened place rest inductionHypothesis =>
      rcases inductionHypothesis here with ⟨front, divided, tracks⟩
      dsimp only at divided tracks
      refine ⟨'%' :: '%' :: front, congrArg ('%' :: '%' :: ·) divided, ?_⟩
      dsimp only
      rw [List.cons_append, List.cons_append, registry.compileUntil_percent,
        registry.compileUntil_percent]
      exact (tracks.mono fun place failure fails =>
        fails.of_reaches (.percent .here)).inFrontOf _
  | @directive start ending offset behind opened place other inside parameters made unit
        completes rest inductionHypothesis =>
      rcases inductionHypothesis here with ⟨front, divided, tracks⟩
      dsimp only at divided tracks
      have first := head?_append_percent front (head.chars ++ following)
        ((head.withWord word nonempty letters).chars ++ following)
      rw [← divided] at first
      refine ⟨directiveChars other inside parameters ++ front,
        by rw [divided, List.append_assoc], ?_⟩
      dsimp only
      rw [List.append_assoc, completes.compileUntil, (completes.congr first).compileUntil]
      exact (tracks.mono fun place failure fails =>
        fails.of_reaches (.directive completes .here)).inFrontOf _
  | @enter start ending offset inner opened place other made inRange known encloses rest
        inductionHypothesis =>
      rcases inductionHypothesis here with ⟨front, divided, tracks⟩
      dsimp only at divided tracks
      have within : offset < position := by
        rcases rest.exists_front with ⟨text, -, same⟩
        rw [here] at same
        dsimp only at same
        omega
      refine ⟨'%' :: (other.chars ++ '(' :: front), ?_, ?_⟩
      · rw [divided]
        simp only [List.cons_append, List.append_assoc]
      · dsimp only
        rw [List.cons_append, List.append_assoc, List.cons_append]
        exact tracks_directive blind.positionBlind (other.head?_ne_percent _)
          (other.head?_ne_percent _) (tracks_enclosing inRange known encloses within tracks)

end Exchanged

/-! ## Whole patterns -/

section Patterns

variable {registry : Registry} {context : Context} {pattern renamed word : String}
  {head : HeadText} {front following : List Char}

theorem renamed_of_stopped_le {exchange : Exchange} {closing : Option Char} {cursor : Cursor}
    {place : Nat} {failure : Failure}
    (fails : FailsIn registry context closing cursor place failure)
    (early : failure.stopped ≤ exchange.position) :
    exchange.renamed word place failure = failure := by
  rcases fails with ⟨opened, text, following, -, wrong, stopped⟩
  rcases failure with ⟨fault, ended⟩
  dsimp only at early stopped wrong
  rw [Exchange.renamed, if_neg (by omega), Failure.mapPosition, exchange.moved_of_le early]
  cases fault with
  | badParameter bad => rfl
  | unknownWord name position =>
      have same : place = position := wrong.place_eq rfl
      rw [Fault.mapPosition, exchange.moved_of_le (by omega)]
  | unterminated name position =>
      have same : place = position := wrong.place_eq rfl
      rw [Fault.mapPosition, exchange.moved_of_le (by omega)]

/-- Texts that are the same up to a percent sign agree up to any offset in front of it. -/
theorem take_append_percent {count : Nat} (early : count ≤ front.length)
    (rest other : List Char) :
    (front ++ '%' :: rest).take (count + 1) = (front ++ '%' :: other).take (count + 1) := by
  have cut (text : List Char) :
      (front ++ '%' :: text).take (count + 1) = (front ++ ['%']).take (count + 1) := by
    rw [List.append_cons, List.take_append_of_le_length]
    rw [List.length_append, List.length_singleton]
    exact Nat.succ_le_succ early
  rw [cut rest, cut other]

/-- A pattern with an alias in place of a word is tracked: the directive with the word is
reached, or compiling stops in front of it. -/
theorem tracks_of_directive {builder : Builder} (blind : registry.HeadBlind)
    (nonempty : word ≠ "") (letters : ∀ letter ∈ word.toList, Text.isAlphabetic letter = true)
    (resolved : registry.resolve? head.name = some builder)
    (alike : registry.resolve? word = some builder)
    (maximal : ∀ character ∈ following.head?, Text.isAlphabetic character = false)
    (written : pattern.toList = front ++ '%' :: (head.chars ++ following))
    (exchanged : renamed.toList =
      front ++ '%' :: ((head.withWord word nonempty letters).chars ++ following))
    (directive : (∃ opened, OpensAt registry context none (.ofText pattern) opened front.length
        (head.chars ++ following)) ∨
      ∃ failure, registry.compileUntil context none (.ofText pattern) = .error failure ∧
        failure.stopped ≤ front.length) :
    Tracks (head.exchange front.length word) word
      (FailsIn registry context none (.ofText pattern))
      (registry.compileUntil context none (.ofText pattern))
      (registry.compileUntil context none (.ofText renamed)) := by
  rcases directive with ⟨opened, ⟨ending, reached⟩, -⟩ | ⟨failure, failed, early⟩
  · rcases reached.tracks blind nonempty letters resolved alike maximal rfl with
      ⟨before, divided, tracks⟩
    have same : before = front := List.append_cancel_right (divided.symm.trans written)
    rwa [same, ← exchanged] at tracks
  · have stopped : stoppedAt (registry.compileUntil context none (.inText pattern 0)) =
        failure.stopped := congrArg stoppedAt failed
    have within : failure.stopped < pattern.length := by
      rw [← String.length_toList, written, List.length_append, List.length_cons]
      omega
    have agree : pattern.toList.take (failure.stopped + 1) =
        renamed.toList.take (failure.stopped + 1) := by
      rw [written, exchanged]
      exact take_append_percent early _ _
    rw [← stopped] at within agree
    have again : registry.compileUntil context none (.ofText renamed) = .error failure := by
      refine (compileUntil_of_agree within agree).trans ?_
      rw [show registry.compileUntil context none (.inText pattern 0) = .error failure from failed]
      rfl
    rcases exists_failsIn failed with ⟨place, fails⟩
    rw [failed, again]
    exact ⟨place, fails, by rw [renamed_of_stopped_le fails early]⟩

end Patterns

/-- An alias may stand in place of its word in any directive of a pattern.  The pattern then
compiles exactly if it did before, and to the same parts.  If it fails, it fails in the same
directive and in the same way: that directive is called by the alias exactly if it is the one
that was changed, and offsets behind the changed word move by the difference in length. -/
theorem compile_alias (operations : List Operation) (context : Context) (word name : String)
    (pattern renamed : String) (front following : List Char) (least : NumberText)
    (greatest : Option NumberText)
    (aliasing : ∀ operation ∈ operations, operation.entry? = none)
    (pointing : (Registry.builtin.run operations).aliases.get? name = some word)
    (wordNonempty : word ≠ "") (nonempty : name ≠ "")
    (wordLetters : ∀ letter ∈ word.toList, Text.isAlphabetic letter = true)
    (letters : ∀ letter ∈ name.toList, Text.isAlphabetic letter = true)
    (maximal : ∀ character ∈ following.head?, Text.isAlphabetic character = false)
    (written : pattern.toList = front ++ '%' ::
      (least.chars ++ (greatestChars greatest ++ (word.toList ++ following))))
    (exchanged : renamed.toList = front ++ '%' ::
      (least.chars ++ (greatestChars greatest ++ (name.toList ++ following))))
    (directive :
      (∃ opened, OpensAt (Registry.builtin.run operations) context none (.ofText pattern) opened
        front.length
        (least.chars ++ (greatestChars greatest ++ (word.toList ++ following)))) ∨
      ∃ failure, (Registry.builtin.run operations).compileUntil context none
          (.ofText pattern) = .error failure ∧ failure.stopped ≤ front.length) :
    let registry := Registry.builtin.run operations
    let exchange : Exchange := ⟨front.length, word.length, name.length⟩
    ((∃ compiled, registry.compile context pattern = .ok compiled) ↔
      ∃ compiled, registry.compile context renamed = .ok compiled) ∧
    (∀ compiled, registry.compile context pattern = .ok compiled →
      registry.compile context renamed = .ok compiled) ∧
    ∀ fault, registry.compile context pattern = .error fault →
      ∃ place stopped,
        FailsIn registry context none (.ofText pattern) place ⟨fault, stopped⟩ ∧
        registry.compile context renamed =
          .error ((if place = front.length then fault.withWord name else fault).mapPosition
            exchange.moved) := by
  intro registry exchange
  have every : registry.Every fun _ builder => builder.HeadBlind :=
    (Registry.every_builtin headBlind_words).run operations fun operation member entry made => by
      rw [aliasing operation member] at made
      cases made
  have blind : registry.HeadBlind := fun name builder found =>
    every (registry.canonical name) builder found
  have wellFormed : registry.WellFormed := (Registry.wellFormed_builtin.run operations).1
  have contained := wellFormed.direct name word pointing
  rcases Option.isSome_iff_exists.mp contained with ⟨builder, found⟩
  have alike : registry.resolve? name = some builder :=
    (Registry.resolve?_of_alias pointing).trans found
  have resolved : registry.resolve? word = some builder :=
    (Registry.resolve?_of_not_alias (wellFormed.apart word contained)).trans found
  let head : HeadText :=
    ⟨least, greatest, word.toList, toList_ne_nil wordNonempty, wordLetters⟩
  have named : head.name = word := String.ofList_toList
  have chars (text : List Char) : least.chars ++ (greatestChars greatest ++ (text ++ following)) =
      least.chars ++ (greatestChars greatest ++ text) ++ following := by
    simp only [List.append_assoc]
  rw [chars] at written exchanged directive
  have tracks : Tracks exchange name (FailsIn registry context none (.ofText pattern))
      (registry.compileUntil context none (.ofText pattern))
      (registry.compileUntil context none (.ofText renamed)) := by
    have followed := tracks_of_directive blind nonempty letters (named ▸ resolved) alike maximal
      written exchanged directive
    rwa [HeadText.exchange, String.length_toList] at followed
  unfold Registry.compile
  rcases outcome : registry.compileUntil context none (.ofText pattern) with
    ⟨fault, stopped⟩ | ⟨compiled, behind⟩
  · rw [outcome] at tracks
    rcases tracks with ⟨place, fails, other⟩
    rw [other]
    refine ⟨iff_of_false (fun accepted => ?_) (fun accepted => ?_), ?_, ?_⟩
    · cases accepted.choose_spec
    · cases accepted.choose_spec
    · rintro _ ⟨⟩
    · rintro _ ⟨⟩
      refine ⟨place, stopped, fails, congrArg Except.error ?_⟩
      rw [Exchange.renamed]
      split <;> rfl
  · rw [outcome] at tracks
    rw [tracks.2]
    refine ⟨iff_of_true ⟨compiled, rfl⟩ ⟨compiled, rfl⟩, ?_, ?_⟩
    · rintro _ ⟨⟩
      rfl
    · rintro _ ⟨⟩

/-- An alias inside of an enclosed pattern.  The unknown word behind it moves to the left. -/
theorem compile_alias_nested :
    let context : Context := { application := "shop", node := "east", console := .plain }
    let registry := Registry.builtin.run [.addAlias "sev" "level"]
    registry.aliases.get? "sev" = some "level" ∧
      OpensAt registry context none (.ofText "%red(%level %nosuch)") [0] 5
        "level %nosuch)".toList ∧
      registry.compile context "%red(%level %nosuch)" = .error (.unknownWord "nosuch" 12) ∧
      registry.compile context "%red(%sev %nosuch)" = .error (.unknownWord "nosuch" 10) := by
  intro context registry
  have pointing : registry.aliases.get? "sev" = some "level" := by decide +kernel
  have known : (registry.resolve? "red").any Builder.encloses = true := by decide +kernel
  have failed : error? (registry.compile context "%red(%level %nosuch)") =
      some (.unknownWord "nosuch" 12) := by
    decide +kernel
  rcases (Option.any_eq_true _ _).mp known with ⟨builder, resolved, encloses⟩
  let red := HeadText.bare "red" (by decide) (List.all_eq_true.mp (by decide))
  have opens : OpensAt registry context none (.ofText "%red(%level %nosuch)") [0] 5
      "level %nosuch)".toList := by
    constructor
    · have inRange : InRange red.lengths := HeadText.inRange_bare _ _ _
      exact ⟨some ')', .enter inRange resolved encloses .here⟩
    · decide
  have alike := compile_alias [.addAlias "sev" "level"] context "level" "sev"
    "%red(%level %nosuch)" "%red(%sev %nosuch)" "%red(".toList " %nosuch)".toList .absent none
    (fun operation member => by
      cases List.mem_singleton.mp member
      rfl)
    pointing (by decide) (by decide) (List.all_eq_true.mp (by decide))
    (List.all_eq_true.mp (by decide)) (fun _ first => by cases first; decide) (by decide)
    (by decide) (.inl ⟨[0], opens⟩)
  rcases alike.2.2 _ (eq_error_of_error? failed) with ⟨place, stopped, fails, other⟩
  rcases fails with ⟨opened, text, following, -, wrong, -⟩
  have there : place = 12 := wrong.place_eq rfl
  subst there
  exact ⟨pointing, opens, eq_error_of_error? failed, other⟩

end LogLayout.Pattern
