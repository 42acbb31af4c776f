import LogLayout.Pattern.Words
import LogLayout.Proofs.Pattern.Steps

namespace LogLayout.Pattern

/-!
# How a pattern splits into pieces

A pattern that compiles is cut from left to right into pieces, one for each part of
the compiled pattern.  A piece is a literal text, a doubled percent sign or the text
of a directive, whose enclosed pattern is cut in the same way.  Nothing stands
between the pieces, and nothing belongs to two of them.

The relation `Splits` says what may be a piece, and which part it becomes.  It looks
at the text alone: at what a piece consists of and at the first character behind it.
A pattern is compiled to some parts exactly if it splits into pieces with those
parts, so that the relation accepts no other pattern than the compiler does.
-/

/-- A piece of a pattern, and the part that it becomes. -/
structure Piece where
  text : List Char
  unit : Renderer

def pieceChars (pieces : List Piece) : List Char := pieces.flatMap Piece.text

def compiledPieces (pieces : List Piece) : Compiled := ⟨pieces.map Piece.unit⟩

/-- The text of an enclosed pattern with its parentheses, if there is one. -/
def insideChars : Option (List Piece) → List Char
  | none => []
  | some inner => '(' :: (pieceChars inner ++ [')'])

/-- What stands behind the head of a directive, up to the end of the text. -/
def behindHead (inside : Option (List Piece)) (parameters : Option ParameterListText)
    (behind : List Char) : List Char :=
  insideChars inside ++ (parameterChars parameters ++ behind)

def directiveChars (head : HeadText) (inside : Option (List Piece))
    (parameters : Option ParameterListText) : List Char :=
  '%' :: (head.chars ++ (insideChars inside ++ parameterChars parameters))

/-- A directive that is written at an offset, with a text behind it.  Its word is known
and as long as possible, it encloses a pattern exactly where it can and a parenthesis
opens one, it has parameters exactly where a brace opens them, and its part is built
from all this. -/
structure Written (registry : Registry) (context : Context) (position : Nat) (head : HeadText)
    (inside : Option (List Piece)) (parameters : Option ParameterListText) (builder : Builder)
    (unit : Renderer) (behind : List Char) : Prop where
  inRange : InRange head.lengths
  resolved : registry.resolve? head.name = some builder
  maximal : ∀ character ∈ (behindHead inside parameters behind).head?,
    Text.isAlphabetic character = false
  opened : inside.isSome = true ↔
    builder.encloses = true ∧ (behindHead inside parameters behind).head? = some '('
  listed : parameters.isSome = true ↔
    (parameterChars parameters ++ behind).head? = some '\x7b'
  built : builder.instantiate
    ⟨head.head position, parameterValues parameters, inside.map compiledPieces⟩ context =
      .ok unit

/-- A pattern that starts at an offset splits into pieces, and a text follows it that
no piece reaches into. -/
inductive Splits (registry : Registry) (context : Context) :
    Option Char → Nat → List Piece → List Char → Prop where
  | finished {closing : Option Char} {position : Nat} {following : List Char}
    (stopped : ∀ character ∈ following.head?,
      closing = some character ∧ character ≠ '%') :
    Splits registry context closing position [] following
  | literal {closing : Option Char} {position : Nat} {following text : List Char}
    {pieces : List Piece} (nonempty : text ≠ [])
    (plain : ∀ character ∈ text, character ∉ stops closing)
    (maximal : ∀ character ∈ (pieceChars pieces ++ following).head?,
      character ∈ stops closing)
    (rest : Splits registry context closing (position + text.length) pieces following) :
    Splits registry context closing position
      (⟨text, fun _ => String.ofList text⟩ :: pieces) following
  | percent {closing : Option Char} {position : Nat} {following : List Char}
    {pieces : List Piece}
    (rest : Splits registry context closing (position + 2) pieces following) :
    Splits registry context closing position
      (⟨['%', '%'], fun _ => "%"⟩ :: pieces) following
  | directive {closing : Option Char} {position : Nat} {following : List Char}
    {pieces : List Piece} {head : HeadText} {inside : Option (List Piece)}
    {parameters : Option ParameterListText} {builder : Builder} {unit : Renderer}
    (written : Written registry context position head inside parameters builder unit
      (pieceChars pieces ++ following))
    (enclosed : ∀ inner, inside = some inner →
      Splits registry context (some ')') (position + 1 + head.chars.length + 1) inner
        (')' :: (parameterChars parameters ++ (pieceChars pieces ++ following))))
    (rest : Splits registry context closing
      (position + (directiveChars head inside parameters).length) pieces following) :
    Splits registry context closing position
      (⟨directiveChars head inside parameters, unit⟩ :: pieces) following

/-- A directive at an offset that is complete, with a text behind it: it is written, and
the pattern that it encloses splits up to the closing parenthesis. -/
structure Completes (registry : Registry) (context : Context) (position : Nat) (head : HeadText)
    (inside : Option (List Piece)) (parameters : Option ParameterListText) (builder : Builder)
    (unit : Renderer) (behind : List Char) : Prop where
  written : Written registry context position head inside parameters builder unit behind
  enclosed : ∀ inner, inside = some inner →
    Splits registry context (some ')') (position + 1 + head.chars.length + 1) inner
      (')' :: (parameterChars parameters ++ behind))

/-- A directive at an offset that has been read up to its parameters, with a text behind
what it encloses. -/
structure Begun (registry : Registry) (context : Context) (position : Nat) (head : HeadText)
    (inside : Option (List Piece)) (builder : Builder) (behind : List Char) : Prop where
  inRange : InRange head.lengths
  resolved : registry.resolve? head.name = some builder
  maximal : ∀ character ∈ (insideChars inside ++ behind).head?,
    Text.isAlphabetic character = false
  opened : inside.isSome = true ↔
    builder.encloses = true ∧ (insideChars inside ++ behind).head? = some '('
  enclosed : ∀ inner, inside = some inner →
    Splits registry context (some ')') (position + 1 + head.chars.length + 1) inner
      (')' :: behind)

/-- A directive that has begun is complete once its parameters are read and it is built. -/
theorem Begun.completes {registry : Registry} {context : Context} {position : Nat}
    {head : HeadText} {inside : Option (List Piece)} {parameters : Option ParameterListText}
    {builder : Builder} {unit : Renderer} {behind : List Char}
    (begun : Begun registry context position head inside builder
      (parameterChars parameters ++ behind))
    (listed : parameters.isSome = true ↔
      (parameterChars parameters ++ behind).head? = some '\x7b')
    (built : builder.instantiate
      ⟨head.head position, parameterValues parameters, inside.map compiledPieces⟩ context =
        .ok unit) :
    Completes registry context position head inside parameters builder unit behind :=
  ⟨⟨begun.inRange, begun.resolved, begun.maximal, begun.opened, listed, built⟩, begun.enclosed⟩

/-! ## Pieces are compiled -/

section Compiling

variable {registry : Registry} {context : Context}

theorem pieceChars_cons (piece : Piece) (pieces : List Piece) (following : List Char) :
    pieceChars (piece :: pieces) ++ following =
      piece.text ++ (pieceChars pieces ++ following) := by
  rw [pieceChars, List.flatMap_cons, List.append_assoc]
  rfl

theorem length_pieceChars_cons (piece : Piece) (pieces : List Piece) :
    (pieceChars (piece :: pieces)).length =
      piece.text.length + (pieceChars pieces).length := by
  rw [pieceChars, List.flatMap_cons, List.length_append]
  rfl

theorem compileInside_of_splits {head : Head} {builder : Builder}
    (inside : Option (List Piece)) {behind : List Char} {position : Nat}
    (opened : inside.isSome = true ↔ builder.encloses = true ∧
      (insideChars inside ++ behind).head? = some '(')
    (enclosed : ∀ inner, inside = some inner →
      registry.compileUntil context (some ')')
          ⟨position + 1, pieceChars inner ++ ')' :: behind⟩ =
        .ok (compiledPieces inner, ⟨position + 1 + (pieceChars inner).length,
          ')' :: behind⟩)) :
    registry.compileInside context head builder ⟨position, insideChars inside ++ behind⟩ =
      .ok (inside.map compiledPieces,
        ⟨position + (insideChars inside).length, behind⟩) := by
  cases inside with
  | none => exact compileInside_unopened fun open_ => Bool.false_ne_true (opened.mpr open_)
  | some inner =>
      have text : insideChars (some inner) ++ behind =
          '(' :: (pieceChars inner ++ ')' :: behind) := by
        simp only [insideChars, List.cons_append, List.append_assoc, List.nil_append]
      rw [text, compileInside_opened (opened.mp rfl).1, enclosed inner rfl]
      simp only [Except.bind, closeInside, Cursor.forward_one, Option.map_some, insideChars,
        List.length_cons, List.length_append, List.length_nil]
      congr 3
      omega

/-- A directive with a known word is compiled up to its parameters as it is written. -/
theorem compileDirective_inside {position : Nat} {head : HeadText} {builder : Builder}
    (inside : Option (List Piece)) {behind : List Char} (inRange : InRange head.lengths)
    (resolved : registry.resolve? head.name = some builder)
    (maximal : ∀ character ∈ (insideChars inside ++ behind).head?,
      Text.isAlphabetic character = false)
    (opened : inside.isSome = true ↔ builder.encloses = true ∧
      (insideChars inside ++ behind).head? = some '(')
    (enclosed : ∀ inner, inside = some inner →
      registry.compileUntil context (some ')') ⟨position + 1 + head.chars.length + 1,
          pieceChars inner ++ ')' :: behind⟩ =
        .ok (compiledPieces inner,
          ⟨position + 1 + head.chars.length + 1 + (pieceChars inner).length, ')' :: behind⟩)) :
    registry.compileDirective context position
        ⟨position + 1, head.chars ++ (insideChars inside ++ behind)⟩ =
      builder.compileTail context (head.head position) (inside.map compiledPieces)
        ⟨position + 1 + head.chars.length + (insideChars inside).length, behind⟩ := by
  rw [compileDirective_head head inRange resolved maximal,
    compileInside_of_splits inside opened enclosed]
  rfl

theorem compileDirective_written {position : Nat} {head : HeadText}
    {inside : Option (List Piece)} {parameters : Option ParameterListText} {builder : Builder}
    {unit : Renderer} {behind : List Char}
    (written : Written registry context position head inside parameters builder unit behind)
    (enclosed : ∀ inner, inside = some inner →
      registry.compileUntil context (some ')') ⟨position + 1 + head.chars.length + 1,
          pieceChars inner ++ ')' :: (parameterChars parameters ++ behind)⟩ =
        .ok (compiledPieces inner,
          ⟨position + 1 + head.chars.length + 1 + (pieceChars inner).length,
            ')' :: (parameterChars parameters ++ behind)⟩)) :
    registry.compileDirective context position
        ⟨position + 1, head.chars ++ behindHead inside parameters behind⟩ =
      .ok (unit, ⟨position + (directiveChars head inside parameters).length, behind⟩) := by
  have length : position + 1 + head.chars.length + (insideChars inside).length +
      (parameterChars parameters).length =
      position + (directiveChars head inside parameters).length := by
    simp only [directiveChars, List.length_cons, List.length_append]
    omega
  have unlisted : parameters = none → behind.head? ≠ some '\x7b' := by
    rintro rfl brace
    exact Bool.false_ne_true (written.listed.mpr brace)
  rw [behindHead, compileDirective_inside inside written.inRange written.resolved
    written.maximal written.opened enclosed]
  simp only [compileTail_append builder _ _ parameters unlisted, written.built, mapError_ok,
    Except.map, length]

theorem directiveChars_append (head : HeadText) (inside : Option (List Piece))
    (parameters : Option ParameterListText) (behind : List Char) :
    directiveChars head inside parameters ++ behind =
      '%' :: (head.chars ++ behindHead inside parameters behind) := by
  simp only [directiveChars, behindHead, List.cons_append, List.append_assoc]

theorem compileUntil_written {closing : Option Char} {position : Nat} {head : HeadText}
    {inside : Option (List Piece)} {parameters : Option ParameterListText} {builder : Builder}
    {unit : Renderer} {behind : List Char}
    (written : Written registry context position head inside parameters builder unit behind)
    (enclosed : ∀ inner, inside = some inner →
      registry.compileUntil context (some ')') ⟨position + 1 + head.chars.length + 1,
          pieceChars inner ++ ')' :: (parameterChars parameters ++ behind)⟩ =
        .ok (compiledPieces inner,
          ⟨position + 1 + head.chars.length + 1 + (pieceChars inner).length,
            ')' :: (parameterChars parameters ++ behind)⟩)) :
    registry.compileUntil context closing
        ⟨position, directiveChars head inside parameters ++ behind⟩ =
      (Compiled.single unit).inFrontOf (registry.compileUntil context closing
        ⟨position + (directiveChars head inside parameters).length, behind⟩) := by
  rw [directiveChars_append, registry.compileUntil_directive context (head.head?_ne_percent _),
    compileDirective_written written enclosed]
  rfl

/-- A pattern that splits into pieces is compiled to their parts, up to the text that
follows them. -/
theorem compileUntil_of_splits {closing : Option Char} {position : Nat}
    {pieces : List Piece} {following : List Char}
    (splits : Splits registry context closing position pieces following) :
    registry.compileUntil context closing ⟨position, pieceChars pieces ++ following⟩ =
      .ok (compiledPieces pieces, ⟨position + (pieceChars pieces).length, following⟩) := by
  induction splits with
  | finished stopped => exact registry.compileUntil_stop context stopped _
  | @literal closing position following text pieces nonempty plain maximal rest
        inductionHypothesis =>
      rw [pieceChars_cons, registry.compileUntil_literal context plain maximal,
        inductionHypothesis, Compiled.ofLiteral_of_ne_nil nonempty, length_pieceChars_cons,
        ← Nat.add_assoc]
      rfl
  | @percent closing position following pieces rest inductionHypothesis =>
      rw [pieceChars_cons, length_pieceChars_cons, ← Nat.add_assoc]
      change registry.compileUntil context closing
        ⟨position, '%' :: '%' :: (pieceChars pieces ++ following)⟩ = _
      rw [registry.compileUntil_percent, inductionHypothesis]
      rfl
  | @directive closing position following pieces head inside parameters builder unit written
        enclosed rest insideHypothesis inductionHypothesis =>
      rw [pieceChars_cons, length_pieceChars_cons, ← Nat.add_assoc,
        compileUntil_written written insideHypothesis, inductionHypothesis]
      rfl

/-- A directive that has begun goes on with its parameters. -/
theorem Begun.compileDirective {position : Nat} {head : HeadText}
    {inside : Option (List Piece)} {builder : Builder} {behind : List Char}
    (begun : Begun registry context position head inside builder behind) :
    registry.compileDirective context position
        ⟨position + 1, head.chars ++ (insideChars inside ++ behind)⟩ =
      builder.compileTail context (head.head position) (inside.map compiledPieces)
        ⟨position + 1 + head.chars.length + (insideChars inside).length, behind⟩ :=
  compileDirective_inside inside begun.inRange begun.resolved begun.maximal begun.opened
    fun inner same => compileUntil_of_splits (begun.enclosed inner same)

/-- A complete directive is compiled to its part. -/
theorem Completes.compileDirective {position : Nat} {head : HeadText}
    {inside : Option (List Piece)} {parameters : Option ParameterListText} {builder : Builder}
    {unit : Renderer} {behind : List Char}
    (completes : Completes registry context position head inside parameters builder unit
      behind) :
    registry.compileDirective context position
        ⟨position + 1, head.chars ++ behindHead inside parameters behind⟩ =
      .ok (unit, ⟨position + (directiveChars head inside parameters).length, behind⟩) :=
  compileDirective_written completes.written fun inner same =>
    compileUntil_of_splits (completes.enclosed inner same)

/-- A complete directive is one part. -/
theorem Completes.compileUntil {closing : Option Char} {position : Nat} {head : HeadText}
    {inside : Option (List Piece)} {parameters : Option ParameterListText} {builder : Builder}
    {unit : Renderer} {behind : List Char}
    (completes : Completes registry context position head inside parameters builder unit
      behind) :
    registry.compileUntil context closing
        ⟨position, directiveChars head inside parameters ++ behind⟩ =
      (Compiled.single unit).inFrontOf (registry.compileUntil context closing
        ⟨position + (directiveChars head inside parameters).length, behind⟩) :=
  compileUntil_written completes.written fun inner same =>
    compileUntil_of_splits (completes.enclosed inner same)

end Compiling

/-! ## What is compiled splits -/

section Accepted

variable {registry : Registry} {context : Context}

/-- Behind the pieces stands the character that closes them, unless the text ends. -/
theorem Splits.stopped {closing : Option Char} {position : Nat} {pieces : List Piece}
    {following : List Char} (splits : Splits registry context closing position pieces following) :
    ∀ character ∈ following.head?, closing = some character ∧ character ≠ '%' := by
  induction splits with
  | finished stopped => exact stopped
  | literal nonempty plain maximal rest inductionHypothesis => exact inductionHypothesis
  | percent rest inductionHypothesis => exact inductionHypothesis
  | directive written enclosed rest insideHypothesis inductionHypothesis =>
      exact inductionHypothesis

/-- The text between two cursors splits into pieces with the parts of a pattern. -/
structure Cuts (registry : Registry) (context : Context) (closing : Option Char)
    (cursor behind : Cursor) (compiled : Compiled) (pieces : List Piece) : Prop where
  splits : Splits registry context closing cursor.position pieces behind.rest
  text : cursor.rest = pieceChars pieces ++ behind.rest
  length : behind.position = cursor.position + (pieceChars pieces).length
  parts : compiled = compiledPieces pieces

/-- What a directive encloses splits into pieces, if every shorter text does. -/
theorem exists_inside_of_compileInside {head : Head} {builder : Builder}
    {cursor behind : Cursor} {compiled : Option Compiled}
    (shorter : ∀ inner : Cursor, inner.rest.length < cursor.rest.length →
      ∀ inside ahead,
        registry.compileUntil context (some ')') inner = .ok (inside, ahead) →
        ∃ pieces, Cuts registry context (some ')') inner ahead inside pieces)
    (done : registry.compileInside context head builder cursor = .ok (compiled, behind)) :
    ∃ inside : Option (List Piece), compiled = inside.map compiledPieces ∧
      cursor.rest = insideChars inside ++ behind.rest ∧
      behind.position = cursor.position + (insideChars inside).length ∧
      (inside.isSome = true ↔ builder.encloses = true ∧ cursor.rest.head? = some '(') ∧
      ∀ inner, inside = some inner →
        Splits registry context (some ')') (cursor.position + 1) inner
          (')' :: behind.rest) := by
  by_cases opened : builder.encloses = true ∧ cursor.rest.head? = some '('
  · rcases cursor with ⟨position, rest⟩
    rcases List.head?_eq_some_iff.mp opened.2 with ⟨inner, rfl⟩
    rw [compileInside_opened opened.1] at done
    rcases exists_of_bind done with ⟨⟨enclosed, ended, rest⟩, inside, closed⟩
    rcases shorter ⟨position + 1, inner⟩ (Nat.lt_succ_self _) enclosed _ inside with
      ⟨pieces, splits, text, length, parts⟩
    simp only [closeInside] at closed
    cases rest with
    | nil => cases closed
    | cons closer others =>
        have isCloser : ')' = closer := Option.some.inj (splits.stopped closer rfl).1
        subst isCloser
        simp only [Cursor.forward_one, Except.ok.injEq, Prod.mk.injEq] at closed
        rcases closed with ⟨rfl, rfl⟩
        dsimp only at text length splits
        refine ⟨some pieces, congrArg some parts, ?_, ?_, iff_of_true rfl opened, ?_⟩
        · simp only [insideChars, text, List.cons_append, List.append_assoc, List.nil_append]
        · simp only [insideChars, length, List.length_cons, List.length_append,
            List.length_nil]
          omega
        · intro others same
          cases same
          exact splits
  · rw [compileInside_unopened opened] at done
    cases done
    exact ⟨none, rfl, rfl, rfl, iff_of_false Bool.false_ne_true opened, fun _ same => by
      cases same⟩

theorem exists_list_of_compileTail {builder : Builder} {head : Head}
    {inside : Option Compiled} {cursor behind : Cursor} {unit : Renderer}
    (done : builder.compileTail context head inside cursor = .ok (unit, behind)) :
    ∃ parameters : Option ParameterListText,
      cursor.rest = parameterChars parameters ++ behind.rest ∧
      behind.position = cursor.position + (parameterChars parameters).length ∧
      (parameters.isSome = true ↔ cursor.rest.head? = some '\x7b') ∧
      builder.instantiate ⟨head, parameterValues parameters, inside⟩ context = .ok unit := by
  unfold Builder.compileTail at done
  dsimp only at done
  split at done
  next closed =>
    rcases exists_list_of_readParameters closed with ⟨list, values, text, length, listed⟩
    rw [values] at done
    cases built : builder.instantiate ⟨head, parameterValues list, inside⟩ context with
    | error bad =>
        rw [built] at done
        cases done
    | ok part =>
        rw [built] at done
        cases done
        exact ⟨list, text, length, listed, built⟩
  next => cases done

/-- A directive with a known word that has been read up to its parameters has begun. -/
theorem exists_begun_of_compileInside {position : Nat} {rest : List Char} {head : HeadText}
    {builder : Builder} {afterHead behind : Cursor} {compiled : Option Compiled}
    (shorter : ∀ inner : Cursor, inner.rest.length < rest.length →
      ∀ inside ahead,
        registry.compileUntil context (some ')') inner = .ok (inside, ahead) →
        ∃ pieces, Cuts registry context (some ')') inner ahead inside pieces)
    (inRange : InRange head.lengths) (resolved : registry.resolve? head.name = some builder)
    (text : rest = head.chars ++ afterHead.rest)
    (length : afterHead.position = position + 1 + head.chars.length)
    (maximal : ∀ character ∈ afterHead.rest.head?, Text.isAlphabetic character = false)
    (done : registry.compileInside context (head.head position) builder afterHead =
      .ok (compiled, behind)) :
    ∃ inside : Option (List Piece), compiled = inside.map compiledPieces ∧
      Begun registry context position head inside builder behind.rest ∧
      rest = head.chars ++ (insideChars inside ++ behind.rest) ∧
      behind.position = position + 1 + head.chars.length + (insideChars inside).length := by
  have within : afterHead.rest.length ≤ rest.length := by
    rw [text, List.length_append]
    exact Nat.le_add_left _ _
  rcases exists_inside_of_compileInside
      (fun inner small => shorter inner (Nat.lt_of_lt_of_le small within)) done with
    ⟨inside, same, insideText, insideLength, opened, enclosed⟩
  rw [insideText] at maximal opened
  rw [length] at insideLength enclosed
  refine ⟨inside, same, ⟨inRange, resolved, maximal, opened, enclosed⟩, ?_, insideLength⟩
  rw [text, insideText]

theorem exists_completes_of_compileDirective {position : Nat} {rest : List Char}
    {behind : Cursor} {unit : Renderer}
    (shorter : ∀ inner : Cursor, inner.rest.length < rest.length →
      ∀ inside ahead,
        registry.compileUntil context (some ')') inner = .ok (inside, ahead) →
        ∃ pieces, Cuts registry context (some ')') inner ahead inside pieces)
    (done : registry.compileDirective context position ⟨position + 1, rest⟩ =
      .ok (unit, behind)) :
    ∃ head inside parameters builder,
      Completes registry context position head inside parameters builder unit behind.rest ∧
      '%' :: rest = directiveChars head inside parameters ++ behind.rest ∧
      behind.position = position + (directiveChars head inside parameters).length := by
  unfold Registry.compileDirective at done
  split at done
  next => cases done
  next head afterHead headRead =>
    rcases exists_headText_of_readHead headRead with
      ⟨headText, inRange, rfl, headChars, headLength, maximal⟩
    dsimp only at headChars headLength done
    split at done
    next => cases done
    next builder resolved =>
      rcases exists_of_bind done with ⟨⟨compiled, afterInside⟩, insideDone, tailDone⟩
      rcases exists_begun_of_compileInside shorter inRange resolved headChars headLength maximal
        insideDone with ⟨inside, rfl, begun, insideText, insideLength⟩
      rcases exists_list_of_compileTail tailDone with
        ⟨parameters, listText, listLength, listed, built⟩
      rw [listText] at begun insideText listed
      refine ⟨headText, inside, parameters, builder, begun.completes listed built, ?_, ?_⟩
      · rw [insideText]
        simp only [directiveChars, List.cons_append, List.append_assoc]
      · rw [listLength, insideLength]
        simp only [directiveChars, List.length_cons, List.length_append]
        omega

/-- A directive that is compiled is a piece in front of whatever pieces follow. -/
theorem exists_piece_of_compileDirective {position : Nat} {rest : List Char}
    {behind : Cursor} {unit : Renderer}
    (shorter : ∀ inner : Cursor, inner.rest.length < rest.length →
      ∀ inside ahead,
        registry.compileUntil context (some ')') inner = .ok (inside, ahead) →
        ∃ pieces, Cuts registry context (some ')') inner ahead inside pieces)
    (done : registry.compileDirective context position ⟨position + 1, rest⟩ =
      .ok (unit, behind)) :
    ∃ text, '%' :: rest = text ++ behind.rest ∧ text ≠ [] ∧
      behind.position = position + text.length ∧
      ∀ closing pieces following, behind.rest = pieceChars pieces ++ following →
        Splits registry context closing behind.position pieces following →
        Splits registry context closing position (⟨text, unit⟩ :: pieces) following := by
  rcases exists_completes_of_compileDirective shorter done with
    ⟨head, inside, parameters, builder, completes, text, length⟩
  refine ⟨directiveChars head inside parameters, text, List.cons_ne_nil _ _, length, ?_⟩
  intro closing pieces following behindText others
  rw [behindText] at completes
  exact .directive completes.written completes.enclosed (length ▸ others)

/-- Literal text that is compiled is a piece, unless it is empty. -/
theorem exists_cuts_literal {closing : Option Char} {text following : List Char}
    {position : Nat} {behind : Cursor} {compiled : Compiled} {pieces : List Piece}
    (plain : ∀ character ∈ text, character ∉ stops closing)
    (maximal : ∀ character ∈ following.head?, character ∈ stops closing)
    (cuts : Cuts registry context closing ⟨position + text.length, following⟩ behind
      compiled pieces) :
    ∃ others, Cuts registry context closing ⟨position, text ++ following⟩ behind
      (Compiled.ofLiteral text ++ compiled) others := by
  rcases cuts with ⟨splits, rest, length, parts⟩
  dsimp only at splits rest length
  by_cases empty : text = []
  · subst empty
    refine ⟨pieces, splits, rest, length, ?_⟩
    rw [parts]
    rfl
  · refine ⟨⟨text, fun _ => String.ofList text⟩ :: pieces,
      .literal empty plain (by rwa [← rest]) splits, ?_, ?_, ?_⟩
    · dsimp only
      rw [pieceChars_cons, ← rest]
    · rw [length, length_pieceChars_cons, Nat.add_assoc]
    · rw [parts, Compiled.ofLiteral_of_ne_nil empty]
      rfl

/-- What is compiled behind literal text splits into pieces, if every shorter text
does. -/
theorem exists_cuts_of_lead {closing : Option Char} {position : Nat} {rest : List Char}
    {compiled : Compiled} {behind : Cursor} (lead : Registry.Lead closing rest)
    (shorter : ∀ (other : Option Char) (cursor : Cursor), cursor.rest.length < rest.length →
      ∀ parts ahead, registry.compileUntil context other cursor = .ok (parts, ahead) →
        ∃ pieces, Cuts registry context other cursor ahead parts pieces)
    (done : registry.compileUntil context closing ⟨position, rest⟩ = .ok (compiled, behind)) :
    ∃ pieces, Cuts registry context closing ⟨position, rest⟩ behind compiled pieces := by
  cases lead with
  | stop stopped =>
      rw [registry.compileUntil_stop context stopped] at done
      cases done
      exact ⟨[], .finished stopped, rfl, rfl, rfl⟩
  | @percent following =>
      rw [registry.compileUntil_percent] at done
      rcases exists_of_inFrontOf done with ⟨later, laterDone, rfl⟩
      rcases shorter closing ⟨position + 2, following⟩ (Nat.lt_add_of_pos_right Nat.two_pos) _ _
        laterDone with ⟨pieces, splits, text, length, rfl⟩
      refine ⟨_, .percent splits, ?_, ?_, rfl⟩
      · rw [pieceChars_cons, ← text]
        rfl
      · rw [length, length_pieceChars_cons, ← Nat.add_assoc]
        rfl
  | @directive following distinct =>
      rw [registry.compileUntil_directive context distinct] at done
      rcases exists_of_bind done with ⟨⟨unit, afterDirective⟩, first, behindDone⟩
      rcases exists_of_inFrontOf behindDone with ⟨later, laterDone, rfl⟩
      rcases exists_piece_of_compileDirective
          (fun inner small => shorter (some ')') inner (Nat.lt_succ_of_lt small)) first with
        ⟨chars, charsText, nonempty, charsLength, piece⟩
      have fewer : afterDirective.rest.length < ('%' :: following).length := by
        have positive := List.length_pos_iff.mpr nonempty
        rw [charsText, List.length_append]
        omega
      rcases shorter closing afterDirective fewer _ _ laterDone with
        ⟨pieces, splits, text, length, rfl⟩
      refine ⟨_, piece closing pieces behind.rest text splits, ?_, ?_, rfl⟩
      · rw [pieceChars_cons, ← text]
        exact charsText
      · rw [length, length_pieceChars_cons, charsLength, Nat.add_assoc]

/-- Whatever is compiled between two cursors splits into pieces. -/
theorem exists_cuts (closing : Option Char) (cursor : Cursor) (compiled : Compiled)
    (behind : Cursor)
    (done : registry.compileUntil context closing cursor = .ok (compiled, behind)) :
    ∃ pieces, Cuts registry context closing cursor behind compiled pieces := by
  induction closing, cursor using Registry.leadInduction generalizing compiled behind with
  | piece closing position text following plain maximal lead shorter =>
      rw [registry.compileUntil_literal context plain maximal] at done
      rcases exists_of_inFrontOf done with ⟨later, laterDone, rfl⟩
      rcases exists_cuts_of_lead lead shorter laterDone with ⟨pieces, cuts⟩
      exact exists_cuts_literal plain maximal cuts

theorem exists_completes {position : Nat} {rest : List Char} {behind : Cursor}
    {unit : Renderer}
    (done : registry.compileDirective context position ⟨position + 1, rest⟩ =
      .ok (unit, behind)) :
    ∃ head inside parameters builder,
      Completes registry context position head inside parameters builder unit behind.rest ∧
      '%' :: rest = directiveChars head inside parameters ++ behind.rest ∧
      behind.position = position + (directiveChars head inside parameters).length := by
  apply exists_completes_of_compileDirective _ done
  intro inner _ inside ahead
  exact exists_cuts (some ')') inner inside ahead

theorem length_lt_of_compileDirective {position : Nat} {rest : List Char} {behind : Cursor}
    {unit : Renderer}
    (done : registry.compileDirective context position ⟨position + 1, rest⟩ =
      .ok (unit, behind)) :
    behind.rest.length < ('%' :: rest).length := by
  rcases exists_completes done with ⟨head, inside, parameters, -, -, chars, -⟩
  rw [chars, List.length_append, directiveChars, List.length_cons]
  omega

end Accepted

/-! ## Whole patterns -/

section Patterns

variable {registry : Registry} {context : Context}

/-- A pattern is compiled to some parts exactly if it splits into pieces with those
parts. -/
theorem compile_eq_ok_iff (pattern : String) (compiled : Compiled) :
    registry.compile context pattern = .ok compiled ↔
      ∃ pieces, Splits registry context none 0 pieces [] ∧
        pattern.toList = pieceChars pieces ∧ compiled = compiledPieces pieces := by
  constructor
  · intro done
    rcases exists_of_compile done with ⟨behind, here⟩
    rcases exists_cuts none _ _ _ here with ⟨pieces, splits, text, length, rfl⟩
    have ended : behind.rest = [] := by
      cases rest : behind.rest with
      | nil => rfl
      | cons character others =>
          rw [rest] at splits
          cases (splits.stopped character rfl).1
    rw [ended] at splits text
    rw [List.append_nil] at text
    exact ⟨pieces, splits, text, rfl⟩
  · rintro ⟨pieces, splits, text, rfl⟩
    have done := compileUntil_of_splits splits
    rw [List.append_nil] at done
    simp only [Registry.compile, Cursor.ofText, text, done]

theorem Splits.text_ne_nil {closing : Option Char} {position : Nat} {pieces : List Piece}
    {following : List Char} (splits : Splits registry context closing position pieces following) :
    ∀ piece ∈ pieces, piece.text ≠ [] := by
  induction splits with
  | finished stopped => exact fun _ member => absurd member List.not_mem_nil
  | literal nonempty plain maximal rest inductionHypothesis =>
      exact List.forall_mem_cons.mpr ⟨nonempty, inductionHypothesis⟩
  | percent rest inductionHypothesis =>
      exact List.forall_mem_cons.mpr ⟨List.cons_ne_nil _ _, inductionHypothesis⟩
  | directive written enclosed rest insideHypothesis inductionHypothesis =>
      exact List.forall_mem_cons.mpr ⟨List.cons_ne_nil _ _, inductionHypothesis⟩

theorem Splits.eq_nil_iff {closing : Option Char} {position : Nat} {pieces : List Piece}
    {following : List Char} (splits : Splits registry context closing position pieces following) :
    pieces = [] ↔ pieceChars pieces = [] := by
  refine ⟨fun empty => by rw [empty]; rfl, fun empty => ?_⟩
  cases pieces with
  | nil => rfl
  | cons piece others =>
      have nonempty := splits.text_ne_nil piece List.mem_cons_self
      exact absurd (List.append_eq_nil_iff.mp empty).1 nonempty

/-- A pattern that is compiled is its pieces in a row.  There is one piece for each
part, the parts show their texts in the order of the pieces, and only the empty
pattern has none. -/
theorem compile_splits (registry : Registry) (context : Context) (pattern : String)
    (compiled : Compiled) (done : registry.compile context pattern = .ok compiled) :
    ∃ pieces, Splits registry context none 0 pieces [] ∧
      pattern.toList = pieceChars pieces ∧
      compiled.units = pieces.map Piece.unit ∧
      (∀ record, compiled.render record =
        String.join (pieces.map fun piece => piece.unit record)) ∧
      compiled.units.length = pieces.length ∧
      (compiled.units.length = 0 ↔ pattern = "") := by
  rcases (compile_eq_ok_iff pattern compiled).mp done with ⟨pieces, splits, text, rfl⟩
  have empty : pattern = "" ↔ pieces = [] := by
    rw [splits.eq_nil_iff, ← text, String.toList_eq_nil_iff]
  refine ⟨pieces, splits, text, rfl, fun record => ?_, List.length_map _, ?_⟩
  · rw [Compiled.render, compiledPieces, List.map_map]
    rfl
  · rw [empty, compiledPieces, List.length_map, List.length_eq_zero_iff]

/-- A directive that encloses a doubled percent sign, one with a length, and a
parenthesis that closes nothing. -/
theorem compile_splits_parentheses :
    let context : Context := { application := "shop", node := "east", console := .plain }
    ∃ compiled pieces,
      Registry.builtin.compile context "%bold(a%%)%-5n)" = .ok compiled ∧
      Splits Registry.builtin context none 0 pieces [] ∧
      "%bold(a%%)%-5n)".toList = pieceChars pieces ∧
      compiled.units = pieces.map Piece.unit := by
  intro context
  have accepted : (Registry.builtin.compile context "%bold(a%%)%-5n)").toBool = true := by
    decide +kernel
  cases done : Registry.builtin.compile context "%bold(a%%)%-5n)" with
  | error fault =>
      rw [done] at accepted
      cases accepted
  | ok compiled =>
      rcases compile_splits Registry.builtin context "%bold(a%%)%-5n)" compiled done with
        ⟨pieces, splits, text, units, -, -, -⟩
      exact ⟨compiled, pieces, rfl, splits, text, units⟩

end Patterns

end LogLayout.Pattern
