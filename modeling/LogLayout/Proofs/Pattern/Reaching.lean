import LogLayout.Proofs.Pattern.Joining

namespace LogLayout.Pattern

/-!
# How a place of a pattern is reached

A pattern is read from left to right.  Reading passes literal text, doubled percent signs
and complete directives, and it goes on inside of a directive that encloses a pattern.  The
relation `Reaches` follows it on this way, and keeps a list of the directives that it has
gone into and that are still open at the place which is reached.

What is found at such a place decides about the whole pattern.  A failure there is the
failure of the pattern, and if two texts from there on come to the same, so do the patterns
that end with them.
-/

/-! ## Places of a text -/

def Cursor.inText (text : String) (offset : Nat) : Cursor := ⟨offset, text.toList.drop offset⟩

/-- The characters of a text between two offsets. -/
def excerpt (text : String) (start finish : Nat) : String :=
  String.ofList ((text.toList.take finish).drop start)

/-- Behind some of the characters of a text stand the rest of them. -/
theorem drop_of_divided {text : String} {start : Nat} {front rest : List Char}
    (divided : text.toList.drop start = front ++ rest) :
    text.toList.drop (start + front.length) = rest := by
  rw [← List.drop_drop, divided, List.drop_left]

theorem toList_excerpt_of_divided {text : String} {start : Nat} {front rest : List Char}
    (divided : text.toList.drop start = front ++ rest) :
    (excerpt text start (start + front.length)).toList = front := by
  rw [excerpt, String.toList_ofList, List.drop_take, divided, Nat.add_sub_cancel_left,
    List.take_left]

/-! ## Ways through a text -/

/-- Reading up to `closing` from a cursor arrives at a place, where it is reading up to
`ending`.  The list holds the offsets of the directives that enclose the place, from the
outside in. -/
inductive Reaches (registry : Registry) (context : Context) :
    Option Char → Cursor → List Nat → Option Char → Cursor → Prop where
  | here {closing : Option Char} {cursor : Cursor} :
    Reaches registry context closing cursor [] closing cursor
  | literal {closing ending : Option Char} {position : Nat} {text following : List Char}
    {opened : List Nat} {place : Cursor}
    (plain : ∀ character ∈ text, character ∉ stops closing)
    (maximal : ∀ character ∈ following.head?, character ∈ stops closing)
    (rest : Reaches registry context closing ⟨position + text.length, following⟩ opened
      ending place) :
    Reaches registry context closing ⟨position, text ++ following⟩ opened ending place
  | percent {closing ending : Option Char} {position : Nat} {following : List Char}
    {opened : List Nat} {place : Cursor}
    (rest : Reaches registry context closing ⟨position + 2, following⟩ opened ending place) :
    Reaches registry context closing ⟨position, '%' :: '%' :: following⟩ opened ending place
  | directive {closing ending : Option Char} {position : Nat} {following : List Char}
    {opened : List Nat} {place : Cursor} {head : HeadText} {inside : Option (List Piece)}
    {parameters : Option ParameterListText} {builder : Builder} {unit : Renderer}
    (completes : Completes registry context position head inside parameters builder unit
      following)
    (rest : Reaches registry context closing
      ⟨position + (directiveChars head inside parameters).length, following⟩ opened
        ending place) :
    Reaches registry context closing
      ⟨position, directiveChars head inside parameters ++ following⟩ opened ending place
  | enter {closing ending : Option Char} {position : Nat} {inner : List Char}
    {opened : List Nat} {place : Cursor} {head : HeadText} {builder : Builder}
    (inRange : InRange head.lengths) (resolved : registry.resolve? head.name = some builder)
    (encloses : builder.encloses = true)
    (rest : Reaches registry context (some ')') ⟨position + 1 + head.chars.length + 1, inner⟩
      opened ending place) :
    Reaches registry context closing ⟨position, '%' :: (head.chars ++ '(' :: inner)⟩
      (position :: opened) ending place

section Reaching

variable {registry : Registry} {context : Context} {closing ending : Option Char}
  {cursor place : Cursor} {opened : List Nat}

/-- A text that is divided in front of a part that is divided itself. -/
theorem exists_front (text : List Char) {start length : Nat} {following rest : List Char}
    {position : Nat}
    (behind : ∃ front, following = front ++ rest ∧ position = start + length + front.length)
    (same : text.length = length) :
    ∃ front, text ++ following = front ++ rest ∧ position = start + front.length := by
  rcases behind with ⟨front, rfl, rfl⟩
  refine ⟨text ++ front, (List.append_assoc _ _ _).symm, ?_⟩
  rw [List.length_append, same, Nat.add_assoc]

/-- A place that is reached lies further on in the same text. -/
theorem Reaches.exists_front
    (reaches : Reaches registry context closing cursor opened ending place) :
    ∃ front, cursor.rest = front ++ place.rest ∧
      place.position = cursor.position + front.length := by
  induction reaches with
  | here => exact ⟨[], rfl, rfl⟩
  | literal plain maximal rest inductionHypothesis =>
      exact Pattern.exists_front _ inductionHypothesis rfl
  | @percent closing ending position following opened place rest inductionHypothesis =>
      exact Pattern.exists_front ['%', '%'] inductionHypothesis rfl
  | directive completes rest inductionHypothesis =>
      exact Pattern.exists_front _ inductionHypothesis rfl
  | @enter closing ending position inner opened place head builder inRange resolved encloses
        rest inductionHypothesis =>
      rcases inductionHypothesis with ⟨front, divided, offset⟩
      have length : ('%' :: (head.chars ++ ['('])).length = 1 + head.chars.length + 1 := by
        simp only [List.length_cons, List.length_append, List.length_nil]
        omega
      have behind : ∃ front, inner = front ++ place.rest ∧
          place.position = position + (1 + head.chars.length + 1) + front.length :=
        ⟨front, divided, offset.trans (by simp only [Nat.add_assoc])⟩
      have whole := Pattern.exists_front ('%' :: (head.chars ++ ['('])) behind length
      simpa only [List.cons_append, List.append_assoc, List.nil_append] using whole

/-- Where a directive encloses a pattern, what the text comes to from its percent sign on
depends only on what the text comes to from behind its opening parenthesis on. -/
theorem exists_behind_opened {head : HeadText} {builder : Builder}
    (inRange : InRange head.lengths) (resolved : registry.resolve? head.name = some builder)
    (encloses : builder.encloses = true) (closing : Option Char) (position : Nat) :
    ∃ next : Compiled × Cursor → Except Failure (Compiled × Cursor), ∀ inner,
      registry.compileUntil context closing
          ⟨position, '%' :: (head.chars ++ '(' :: inner)⟩ =
        (registry.compileUntil context (some ')')
          ⟨position + 1 + head.chars.length + 1, inner⟩).bind next := by
  refine ⟨fun inside => ((closeInside (head.head position) inside.1 inside.2).bind fun inside =>
    builder.compileTail context (head.head position) inside.1 inside.2).bind fun directive =>
      (Compiled.single directive.1).inFrontOf
        (registry.compileUntil context closing directive.2), fun inner => ?_⟩
  rw [registry.compileUntil_directive context (head.head?_ne_percent _),
    compileDirective_head head inRange resolved (fun character first => by cases first; decide),
    compileInside_opened encloses]
  cases registry.compileUntil context (some ')')
    ⟨position + 1 + head.chars.length + 1, inner⟩ <;> rfl

theorem Reaches.compileUntil_error {failure : Failure}
    (reaches : Reaches registry context closing cursor opened ending place)
    (failed : registry.compileUntil context ending place = .error failure) :
    registry.compileUntil context closing cursor = .error failure := by
  induction reaches with
  | here => exact failed
  | literal plain maximal rest inductionHypothesis =>
      rw [registry.compileUntil_literal context plain maximal, inductionHypothesis failed]
      rfl
  | percent rest inductionHypothesis =>
      rw [registry.compileUntil_percent, inductionHypothesis failed]
      rfl
  | directive completes rest inductionHypothesis =>
      rw [completes.compileUntil, inductionHypothesis failed]
      rfl
  | enter inRange resolved encloses rest inductionHypothesis =>
      rcases exists_behind_opened inRange resolved encloses _ _ with ⟨next, behind⟩
      rw [behind, inductionHypothesis failed]
      rfl

theorem Reaches.exists_compiled {done : Compiled × Cursor}
    (reaches : Reaches registry context closing cursor opened ending place)
    (compiled : registry.compileUntil context closing cursor = .ok done) :
    ∃ later, registry.compileUntil context ending place = .ok later := by
  cases outcome : registry.compileUntil context ending place with
  | error failure => cases compiled.symm.trans (reaches.compileUntil_error outcome)
  | ok later => exact ⟨later, rfl⟩

/-! ## Directives that are reached -/

/-- Reading up to `closing` from a cursor arrives at a directive: its percent sign stands at
an offset, within the directives of the list, and some text behind it. -/
structure OpensAt (registry : Registry) (context : Context) (closing : Option Char)
    (cursor : Cursor) (opened : List Nat) (position : Nat) (rest : List Char) : Prop where
  reached : ∃ ending, Reaches registry context closing cursor opened ending
    ⟨position, '%' :: rest⟩
  single : rest.head? ≠ some '%'

theorem OpensAt.exists_front {position : Nat} {rest : List Char}
    (opens : OpensAt registry context closing cursor opened position rest) :
    ∃ front, cursor.rest = front ++ '%' :: rest ∧
      position = cursor.position + front.length := by
  rcases opens.reached with ⟨ending, reached⟩
  exact reached.exists_front

/-- A directive of a pattern starts at a percent sign of the pattern, and the rest of the
pattern stands behind that. -/
theorem OpensAt.divides {pattern : String} {position : Nat} {rest : List Char}
    (opens : OpensAt registry context none (.ofText pattern) opened position rest) :
    position < pattern.length ∧ pattern.toList[position]? = some '%' ∧
      rest = pattern.toList.drop (position + 1) := by
  rcases opens.exists_front with ⟨front, divided, place⟩
  dsimp only [Cursor.ofText] at divided place
  rw [Nat.zero_add] at place
  subst place
  refine ⟨?_, ?_, ?_⟩
  · rw [← String.length_toList, divided, List.length_append, List.length_cons]
    omega
  · rw [divided, List.getElem?_append_right (Nat.le_refl _), Nat.sub_self]
    rfl
  · rw [← List.drop_drop, divided, List.drop_left]
    rfl

/-- From a place that is reached further places are reached, within the directives that
enclose the first one. -/
theorem Reaches.trans (reaches : Reaches registry context closing cursor opened ending place)
    {further : List Nat} {last : Option Char} {goal : Cursor}
    (later : Reaches registry context ending place further last goal) :
    Reaches registry context closing cursor (opened ++ further) last goal := by
  induction reaches with
  | here => exact later
  | literal plain maximal rest inductionHypothesis =>
      exact .literal plain maximal (inductionHypothesis later)
  | percent rest inductionHypothesis => exact .percent (inductionHypothesis later)
  | directive completes rest inductionHypothesis =>
      exact .directive completes (inductionHypothesis later)
  | enter inRange resolved encloses rest inductionHypothesis =>
      exact .enter inRange resolved encloses (inductionHypothesis later)

/-! ## Other texts from a place on -/

/-- Whether a directive is complete depends on the first character behind it only. -/
theorem Completes.congr {position : Nat} {head : HeadText} {inside : Option (List Piece)}
    {parameters : Option ParameterListText} {builder : Builder} {unit : Renderer}
    {behind other : List Char}
    (completes : Completes registry context position head inside parameters builder unit behind)
    (same : other.head? = behind.head?) :
    Completes registry context position head inside parameters builder unit other :=
  ⟨completes.written.congr same, fun inner here => (completes.enclosed inner here).congr rfl⟩

/-- A place is reached in front of any text that starts like the one which stands there, and
the whole comes to the same if both texts do. -/
theorem Reaches.congr (reaches : Reaches registry context closing cursor opened ending place)
    {other : List Char} (same : other.head? = place.rest.head?) :
    ∃ front, cursor.rest = front ++ place.rest ∧
      Reaches registry context closing ⟨cursor.position, front ++ other⟩ opened ending
        ⟨place.position, other⟩ ∧
      (registry.compileUntil context ending ⟨place.position, other⟩ =
          registry.compileUntil context ending place →
        registry.compileUntil context closing ⟨cursor.position, front ++ other⟩ =
          registry.compileUntil context closing cursor) := by
  induction reaches with
  | here => exact ⟨[], rfl, .here, id⟩
  | @literal closing ending position text following opened place plain maximal rest
        inductionHypothesis =>
      rcases inductionHypothesis same with ⟨front, divided, moved, outcome⟩
      dsimp only at divided moved outcome
      have first := head?_append_congr same front
      rw [← divided] at first
      have maximal' : ∀ character ∈ (front ++ other).head?, character ∈ stops closing := by
        rw [first]
        exact maximal
      refine ⟨text ++ front, by rw [divided, List.append_assoc], ?_, fun agree => ?_⟩
      · rw [List.append_assoc]
        exact .literal plain maximal' moved
      · rw [List.append_assoc, registry.compileUntil_literal context plain maximal',
          registry.compileUntil_literal context plain maximal, outcome agree]
  | percent rest inductionHypothesis =>
      rcases inductionHypothesis same with ⟨front, divided, moved, outcome⟩
      refine ⟨'%' :: '%' :: front, congrArg ('%' :: '%' :: ·) divided, .percent moved,
        fun agree => ?_⟩
      rw [List.cons_append, List.cons_append, registry.compileUntil_percent,
        registry.compileUntil_percent, outcome agree]
  | @directive closing ending position following opened place head inside parameters builder
        unit completes rest inductionHypothesis =>
      rcases inductionHypothesis same with ⟨front, divided, moved, outcome⟩
      dsimp only at divided moved outcome
      have first := head?_append_congr same front
      rw [← divided] at first
      have completes' := completes.congr first
      refine ⟨directiveChars head inside parameters ++ front,
        by rw [divided, List.append_assoc], ?_, fun agree => ?_⟩
      · rw [List.append_assoc]
        exact .directive completes' moved
      · rw [List.append_assoc, completes'.compileUntil, completes.compileUntil, outcome agree]
  | @enter closing ending position inner opened place head builder inRange resolved encloses
        rest inductionHypothesis =>
      rcases inductionHypothesis same with ⟨front, divided, moved, outcome⟩
      dsimp only at divided moved outcome
      have text : '%' :: (head.chars ++ '(' :: front) ++ other =
          '%' :: (head.chars ++ '(' :: (front ++ other)) := by
        simp only [List.cons_append, List.append_assoc]
      refine ⟨'%' :: (head.chars ++ '(' :: front), ?_, ?_, fun agree => ?_⟩
      · rw [divided]
        simp only [List.cons_append, List.append_assoc]
      · rw [text]
        exact .enter inRange resolved encloses moved
      · rcases exists_behind_opened inRange resolved encloses closing position with ⟨next, behind⟩
        rw [text, behind, behind, outcome agree]

end Reaching

end LogLayout.Pattern
