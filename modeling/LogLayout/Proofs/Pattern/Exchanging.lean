import LogLayout.Proofs.Pattern.Failing
import LogLayout.Proofs.Pattern.Heads

namespace LogLayout.Pattern

/-!
# Exchanging the word of a directive

If the word of a directive is exchanged for another one, everything behind it moves by the
difference of their lengths, and everything up to the percent sign of the directive stays where
it is.  Text behind the word is then read alike.  A directive that was begun in front of the
exchange, and is finished behind it, keeps its own position.

The directive itself is told apart by its word only where it is reported, as long as its
builder does not look at the word for anything else.
-/

/-! ## Offsets that move -/

/-- The exchange of a word: the offset of the percent sign in front of it, and how many
characters the old and the new word have. -/
structure Exchange where
  position : Nat
  before : Nat
  after : Nat

/-- Where an offset of the old text lies in the new one. -/
def Exchange.moved (exchange : Exchange) (offset : Nat) : Nat :=
  if offset ≤ exchange.position then offset else offset + exchange.after - exchange.before

/-- An offset lies behind the word that is exchanged. -/
def Exchange.Behind (exchange : Exchange) (offset : Nat) : Prop :=
  exchange.position + 1 + exchange.before ≤ offset

def Cursor.mapPosition (change : Nat → Nat) (cursor : Cursor) : Cursor :=
  ⟨change cursor.position, cursor.rest⟩

def Fault.mapPosition (change : Nat → Nat) : Fault → Fault
  | unknownWord word position => unknownWord word (change position)
  | unterminated word position => unterminated word (change position)
  | badParameter bad => badParameter bad

def Failure.mapPosition (change : Nat → Nat) (failure : Failure) : Failure :=
  ⟨failure.fault.mapPosition change, change failure.stopped⟩

/-- What a text comes to, at other offsets. -/
def mapPositions {Value : Type} (change : Nat → Nat) :
    Except Failure (Value × Cursor) → Except Failure (Value × Cursor)
  | .error failure => .error (failure.mapPosition change)
  | .ok (value, behind) => .ok (value, behind.mapPosition change)

/-- If two steps each move along, so does one behind the other. -/
theorem mapPositions_bind {Value Result : Type} (change : Nat → Nat)
    (outcome : Except Failure (Value × Cursor))
    {next moved : Value × Cursor → Except Failure (Result × Cursor)}
    (moves : ∀ value behind, outcome = .ok (value, behind) →
      moved (value, behind.mapPosition change) = mapPositions change (next (value, behind))) :
    (mapPositions change outcome).bind moved = mapPositions change (outcome.bind next) := by
  rcases outcome with failure | ⟨value, behind⟩
  · rfl
  · exact moves value behind rfl

section Offsets

variable {exchange : Exchange}

theorem Exchange.moved_of_le {offset : Nat} (front : offset ≤ exchange.position) :
    exchange.moved offset = offset := if_pos front

theorem Exchange.moved_add (distance : Nat) :
    exchange.moved (exchange.position + 1 + exchange.before + distance) =
      exchange.position + 1 + exchange.after + distance := by
  rw [moved, if_neg (by omega)]
  omega

theorem Exchange.Behind.trans {offset further : Nat} (behind : exchange.Behind offset)
    (later : offset ≤ further) : exchange.Behind further := Nat.le_trans behind later

theorem Exchange.Behind.position_lt {offset : Nat} (behind : exchange.Behind offset) :
    exchange.position < offset := by
  have start : exchange.position + 1 + exchange.before ≤ offset := behind
  omega

/-- A text behind the exchanged word stands at a distance from it, before and after. -/
theorem Exchange.Behind.exists_shift {cursor : Cursor} (behind : exchange.Behind cursor.position) :
    ∃ base : Cursor, cursor = base.shift (exchange.position + 1 + exchange.before) ∧
      cursor.mapPosition exchange.moved =
        base.shift (exchange.position + 1 + exchange.after) := by
  rcases Nat.exists_eq_add_of_le behind with ⟨distance, start⟩
  refine ⟨⟨distance, cursor.rest⟩, ?_, ?_⟩
  · rw [Cursor.shift, ← start]
  · rw [Cursor.mapPosition, start, exchange.moved_add]
    rfl

/-- What a text comes to behind the old word moves to where it is behind the new one. -/
theorem mapPositions_shiftOutcome {Value : Type} (outcome : Except Failure (Value × Cursor)) :
    mapPositions exchange.moved
        (shiftOutcome (exchange.position + 1 + exchange.before) outcome) =
      shiftOutcome (exchange.position + 1 + exchange.after) outcome := by
  have moves := exchange.moved_add
  rcases outcome with ⟨fault, stopped⟩ | ⟨value, behind⟩
  · cases fault <;>
      simp only [shiftOutcome, mapPositions, Failure.shift, Failure.mapPosition, Fault.shift,
        Fault.mapPosition, moves]
  · simp only [shiftOutcome, mapPositions, Cursor.shift, Cursor.mapPosition, moves]

/-- A cursor in front of a text that moves along is behind the word, and so is the next one. -/
theorem Exchange.Behind.forward_mapPosition {cursor : Cursor}
    (behind : exchange.Behind cursor.position) (count : Nat) :
    (cursor.mapPosition exchange.moved).forward count =
      (cursor.forward count).mapPosition exchange.moved := by
  rcases behind.exists_shift with ⟨base, rfl, moved⟩
  rw [moved, Cursor.forward_shift, Cursor.forward_shift]
  simp only [Cursor.shift, Cursor.mapPosition, exchange.moved_add]

end Offsets

/-! ## Text behind the word -/

section Behind

variable {registry : Registry} {context : Context} {exchange : Exchange} {cursor : Cursor}

theorem compileUntil_moved (blind : registry.PositionBlind)
    (behind : exchange.Behind cursor.position) (closing : Option Char) :
    registry.compileUntil context closing (cursor.mapPosition exchange.moved) =
      mapPositions exchange.moved (registry.compileUntil context closing cursor) := by
  rcases behind.exists_shift with ⟨base, rfl, moved⟩
  rw [moved, compileUntil_shift context _ blind, compileUntil_shift context _ blind,
    mapPositions_shiftOutcome]

/-- A directive that has begun in front of the exchange is closed alike behind it. -/
theorem closeInside_moved {head : Head} (front : head.position ≤ exchange.position)
    (inside : Compiled) (behind : exchange.Behind cursor.position) :
    closeInside head inside (cursor.mapPosition exchange.moved) =
      mapPositions exchange.moved (closeInside head inside cursor) := by
  have forward := behind.forward_mapPosition 1
  have rest : (cursor.mapPosition exchange.moved).rest = cursor.rest := rfl
  unfold closeInside
  rw [rest]
  split
  · simp only [mapPositions, Failure.mapPosition, Fault.mapPosition,
      exchange.moved_of_le front]
    rfl
  · rw [forward]
    rfl

theorem compileTail_moved (builder : Builder) {head : Head}
    (front : head.position ≤ exchange.position) (inside : Option Compiled)
    (behind : exchange.Behind cursor.position) :
    builder.compileTail context head inside (cursor.mapPosition exchange.moved) =
      mapPositions exchange.moved (builder.compileTail context head inside cursor) := by
  rcases behind.exists_shift with ⟨base, rfl, moved⟩
  rw [moved]
  unfold Builder.compileTail
  simp only [readParameters_shift, ParameterList.shift]
  split
  · cases builder.instantiate ⟨head, (readParameters base).parameters, inside⟩ context <;>
      simp only [mapError_ok, mapError_error, Except.map, mapPositions, Failure.mapPosition,
        Fault.mapPosition, Cursor.shift, Cursor.mapPosition, exchange.moved_add]
  · simp only [mapPositions, Failure.mapPosition, Fault.mapPosition, Cursor.shift,
      exchange.moved_add, exchange.moved_of_le front]

theorem le_position_of_compileTail {builder : Builder} {head : Head}
    {inside : Option Compiled} {unit : Renderer} {ahead : Cursor}
    (done : builder.compileTail context head inside cursor = .ok (unit, ahead)) :
    cursor.position ≤ ahead.position := by
  rcases exists_list_of_compileTail done with ⟨parameters, -, length, -⟩
  rw [length]
  exact Nat.le_add_right _ _

theorem le_position_of_closeInside {head : Head} {inside : Compiled}
    {compiled : Option Compiled} {ahead : Cursor}
    (done : closeInside head inside cursor = .ok (compiled, ahead)) :
    cursor.position ≤ ahead.position := by
  unfold closeInside at done
  split at done
  · cases done
  · cases done
    exact Nat.le_add_right _ _

end Behind

/-! ## Finishing a directive behind what it encloses -/

/-- Close what a directive encloses, then read its parameters and build it. -/
def Builder.compileEnd (builder : Builder) (context : Context) (head : Head)
    (inside : Compiled) (cursor : Cursor) : Except Failure (Renderer × Cursor) :=
  (closeInside head inside cursor).bind fun closed =>
    builder.compileTail context head closed.1 closed.2

section Finishing

variable {registry : Registry} {context : Context} {exchange : Exchange} {cursor : Cursor}

/-- A directive with an opening parenthesis behind its word encloses a pattern and is finished
behind that. -/
theorem compileDirective_opened (context : Context) {head : HeadText} {builder : Builder}
    (inRange : InRange head.lengths) (resolved : registry.resolve? head.name = some builder)
    (encloses : builder.encloses = true) (position : Nat) (inner : List Char) :
    registry.compileDirective context position
        ⟨position + 1, head.chars ++ '(' :: inner⟩ =
      (registry.compileUntil context (some ')')
        ⟨position + 1 + head.chars.length + 1, inner⟩).bind fun inside =>
          builder.compileEnd context (head.head position) inside.1 inside.2 := by
  rw [compileDirective_head head inRange resolved (fun character first => by cases first; decide),
    compileInside_opened encloses]
  cases registry.compileUntil context (some ')')
    ⟨position + 1 + head.chars.length + 1, inner⟩ <;> rfl

theorem compileDirective_unopened (context : Context) {head : HeadText} {builder : Builder}
    {following : List Char} (inRange : InRange head.lengths)
    (resolved : registry.resolve? head.name = some builder)
    (maximal : ∀ character ∈ following.head?, Text.isAlphabetic character = false)
    (unopened : ¬(builder.encloses = true ∧ following.head? = some '(')) (position : Nat) :
    registry.compileDirective context position ⟨position + 1, head.chars ++ following⟩ =
      builder.compileTail context (head.head position) none
        ⟨position + 1 + head.chars.length, following⟩ := by
  rw [compileDirective_head head inRange resolved maximal, compileInside_unopened unopened]
  rfl

theorem compileEnd_moved (builder : Builder) {head : Head}
    (front : head.position ≤ exchange.position) (inside : Compiled)
    (behind : exchange.Behind cursor.position) :
    builder.compileEnd context head inside (cursor.mapPosition exchange.moved) =
      mapPositions exchange.moved (builder.compileEnd context head inside cursor) := by
  unfold Builder.compileEnd
  rw [closeInside_moved front inside behind]
  refine mapPositions_bind _ _ fun compiled ahead closed => ?_
  exact compileTail_moved builder front compiled (behind.trans (le_position_of_closeInside closed))

theorem le_position_of_compileEnd {builder : Builder} {head : Head} {inside : Compiled}
    {unit : Renderer} {ahead : Cursor}
    (done : builder.compileEnd context head inside cursor = .ok (unit, ahead)) :
    cursor.position ≤ ahead.position := by
  rcases exists_of_bind done with ⟨⟨compiled, middle⟩, closed, finished⟩
  exact Nat.le_trans (le_position_of_closeInside closed) (le_position_of_compileTail finished)

end Finishing

/-! ## The word itself -/

def Head.withWord (head : Head) (word : String) : Head := { head with word := word }

/-- The same fault of a directive with another word. -/
def Fault.withWord (word : String) : Fault → Fault
  | unknownWord _ position => unknownWord word position
  | unterminated _ position => unterminated word position
  | badParameter bad => badParameter (bad.withWord word)

/-- The same failure of a directive with another word. -/
def Failure.withWord (word : String) (failure : Failure) : Failure :=
  ⟨failure.fault.withWord word, failure.stopped⟩

section Words

variable {builder : Builder} {context : Context}

/-- Another word changes nothing but the report of what is wrong with parameters. -/
theorem compileTail_withWord (blind : builder.HeadBlind) (head : Head) (word : String)
    (inside : Option Compiled) (cursor : Cursor) :
    builder.compileTail context (head.withWord word) inside cursor =
      (builder.compileTail context head inside cursor).mapError (Failure.withWord word) := by
  have renamed (parameters : List String) :
      builder.instantiate ⟨head.withWord word, parameters, inside⟩ context =
        (builder.instantiate ⟨head, parameters, inside⟩ context).mapError fun bad =>
          bad.withWord word :=
    blind.instantiate_withHead ⟨head, parameters, inside⟩ context rfl
  unfold Builder.compileTail
  dsimp only
  split
  · rw [renamed]
    cases builder.instantiate ⟨head, (readParameters cursor).parameters, inside⟩ context <;> rfl
  · rfl

theorem compileEnd_withWord (blind : builder.HeadBlind) (head : Head) (word : String)
    (inside : Compiled) (cursor : Cursor) :
    builder.compileEnd context (head.withWord word) inside cursor =
      (builder.compileEnd context head inside cursor).mapError (Failure.withWord word) := by
  unfold Builder.compileEnd closeInside
  split
  · rfl
  · exact compileTail_withWord blind head word _ _

theorem toList_ne_nil {word : String} (nonempty : word ≠ "") : word.toList ≠ [] :=
  fun empty => nonempty (String.toList_eq_nil_iff.mp empty)

def HeadText.withWord (head : HeadText) (word : String) (nonempty : word ≠ "")
    (letters : ∀ letter ∈ word.toList, Text.isAlphabetic letter = true) : HeadText :=
  { head with
    word := word.toList
    nonempty := toList_ne_nil nonempty
    letters := letters }

theorem HeadText.name_withWord (head : HeadText) {word : String} (nonempty : word ≠ "")
    (letters : ∀ letter ∈ word.toList, Text.isAlphabetic letter = true) :
    (head.withWord word nonempty letters).name = word := String.ofList_toList

theorem HeadText.head_withWord (head : HeadText) {word : String} (nonempty : word ≠ "")
    (letters : ∀ letter ∈ word.toList, Text.isAlphabetic letter = true) (position : Nat) :
    (head.withWord word nonempty letters).head position =
      (head.head position).withWord word := by
  rw [HeadText.head, head.name_withWord]
  rfl

/-- The exchange of the word of a head whose percent sign stands at an offset. -/
def HeadText.exchange (head : HeadText) (position : Nat) (word : String) : Exchange :=
  ⟨position, head.word.length, word.length⟩

/-- The end of a head moves to the end of the head with the other word, and what stands behind
it moves along. -/
theorem HeadText.moved_exchange (head : HeadText) (position : Nat) {word : String}
    (nonempty : word ≠ "") (letters : ∀ letter ∈ word.toList, Text.isAlphabetic letter = true)
    (distance : Nat) :
    (head.exchange position word).moved (position + 1 + head.chars.length + distance) =
      position + 1 + (head.withWord word nonempty letters).chars.length + distance := by
  simp only [exchange, Exchange.moved, chars, withWord, List.length_append,
    ← String.length_toList]
  rw [if_neg (by omega)]
  omega

theorem HeadText.behind_exchange (head : HeadText) (position : Nat) (word : String)
    (distance : Nat) :
    (head.exchange position word).Behind (position + 1 + head.chars.length + distance) := by
  simp only [exchange, Exchange.Behind, chars, List.length_append]
  omega

/-- Lengths are refused alike in front of another word. -/
theorem checkLengths_withWord (old word : String) (least greatest : Option WrittenNumber) :
    checkLengths word least greatest =
      (checkLengths old least greatest).mapError (Fault.withWord word) := by
  have single (length : Option WrittenNumber) :
      checkLength word length = (checkLength old length).mapError (Fault.withWord word) := by
    unfold checkLength
    split
    next => rfl
    next => split <;> rfl
    next => rfl
  change ((checkLength word least).bind fun least => (checkLength word greatest).bind
    fun greatest => .ok (Lengths.mk least greatest)) = Except.mapError _
      ((checkLength old least).bind fun least => (checkLength old greatest).bind
        fun greatest => .ok (Lengths.mk least greatest))
  simp only [mapError_bind, single]
  rfl

theorem HeadText.checked_withWord (head : HeadText) {word : String} (nonempty : word ≠ "")
    (letters : ∀ letter ∈ word.toList, Text.isAlphabetic letter = true) :
    (head.withWord word nonempty letters).checked =
      head.checked.mapError (Fault.withWord word) := by
  unfold HeadText.checked
  rw [head.name_withWord nonempty letters]
  exact checkLengths_withWord head.name word _ _

end Words

end LogLayout.Pattern
