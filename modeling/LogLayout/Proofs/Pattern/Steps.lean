import LogLayout.Proofs.Pattern.DirectiveText
import LogLayout.Proofs.Pattern.ParameterText
import LogLayout.Proofs.Pattern.SinglePass

namespace LogLayout.Pattern

/-!
# Compiling one piece at a time

The rules by which a pattern is compiled: what literal text, a doubled percent sign, a
directive and the end of the pattern come to in front of any other text.  Every text
starts in one of these ways.  For a directive there is a rule for each of its parts,
and the parts may be written in any way that is read as them.
-/

/-! ## Steps that follow each other -/

section Outcomes

variable {Error Other Value Result : Type}

/-- If two steps succeed one behind the other, each of them does. -/
theorem exists_of_bind {outcome : Except Error Value} {next : Value → Except Error Result}
    {result : Result} (done : outcome.bind next = .ok result) :
    ∃ value, outcome = .ok value ∧ next value = .ok result := by
  cases outcome with
  | error failure => cases done
  | ok value => exact ⟨value, rfl, done⟩

theorem exists_of_inFrontOf {first : Compiled} {outcome : Except Failure (Compiled × Cursor)}
    {compiled : Compiled} {behind : Cursor}
    (done : first.inFrontOf outcome = .ok (compiled, behind)) :
    ∃ later, outcome = .ok (later, behind) ∧ compiled = first ++ later := by
  rcases outcome with failure | ⟨later, ended⟩
  · cases done
  · cases done
    exact ⟨later, rfl, rfl⟩

/-- A change of errors passes through steps that follow each other. -/
theorem mapError_bind (change : Error → Other) (outcome : Except Error Value)
    (next : Value → Except Error Result) :
    (outcome.bind next).mapError change =
      (outcome.mapError change).bind fun value => (next value).mapError change := by
  cases outcome <;> rfl

end Outcomes

namespace Registry

/-! ## One piece at a time -/

section Pieces

variable (registry : Registry) (context : Context) {closing : Option Char}
  {following : List Char}

/-- A text that starts with one of some characters has nothing in front of them. -/
theorem takeUntil_of_head? {stops rest : List Char}
    (stopped : ∀ character ∈ rest.head?, character ∈ stops) (position : Nat) :
    (⟨position, rest⟩ : Cursor).takeUntil stops = ([], ⟨position, rest⟩) :=
  Cursor.takeUntil_append (fun _ member => absurd member List.not_mem_nil) stopped position

/-- Literal text in front of a percent sign or of the closing character is a part of
its own. -/
theorem compileUntil_literal {text : List Char}
    (plain : ∀ character ∈ text, character ∉ stops closing)
    (maximal : ∀ character ∈ following.head?, character ∈ stops closing) (position : Nat) :
    registry.compileUntil context closing ⟨position, text ++ following⟩ =
      (Compiled.ofLiteral text).inFrontOf
        (registry.compileUntil context closing ⟨position + text.length, following⟩) := by
  rw [compileUntil_eq registry context closing ⟨position + text.length, following⟩,
    compileUntil_eq registry context closing ⟨position, text ++ following⟩,
    Cursor.takeUntil_append plain maximal, takeUntil_of_head? maximal]
  dsimp only
  split
  next rest =>
    rw [Compiled.inFrontOf_inFrontOf]
    rfl
  next rest distinct =>
    cases registry.compileDirective context (position + text.length)
      ⟨position + text.length + 1, rest⟩ with
    | error failure => rfl
    | ok read =>
        simp only [Except.bind, Compiled.inFrontOf_inFrontOf]
        rfl
  next => simp only [Compiled.inFrontOf, Except.map, Compiled.append_ofLiteral_nil]

/-- Compiling stops at the end of all text or at the closing character, which is not
taken.  A percent sign never closes a pattern. -/
theorem compileUntil_stop
    (stopped : ∀ character ∈ following.head?, closing = some character ∧ character ≠ '%')
    (position : Nat) :
    registry.compileUntil context closing ⟨position, following⟩ =
      .ok (.empty, ⟨position, following⟩) := by
  rw [compileUntil_eq, takeUntil_of_head? fun character first => by
    rw [stops, (stopped character first).1]
    exact List.mem_cons_of_mem _ List.mem_cons_self]
  dsimp only
  split
  next => exact absurd rfl (stopped '%' rfl).2
  next => exact absurd rfl (stopped '%' rfl).2
  next => rfl

theorem compileUntil_percent (position : Nat) :
    registry.compileUntil context closing ⟨position, '%' :: '%' :: following⟩ =
      (Compiled.single fun _ => "%").inFrontOf
        (registry.compileUntil context closing ⟨position + 2, following⟩) := by
  rw [compileUntil_eq, takeUntil_of_head? fun character first => by
    cases first
    exact List.mem_cons_self]
  rfl

theorem compileUntil_directive (distinct : following.head? ≠ some '%') (position : Nat) :
    registry.compileUntil context closing ⟨position, '%' :: following⟩ =
      (registry.compileDirective context position ⟨position + 1, following⟩).bind
        fun directive => (Compiled.single directive.1).inFrontOf
          (registry.compileUntil context closing directive.2) := by
  rw [compileUntil_eq, takeUntil_of_head? fun character first => by
    cases first
    exact List.mem_cons_self]
  dsimp only
  split
  next same => exact absurd (by rw [(List.cons.inj same).2]; rfl) distinct
  next same =>
    cases same
    rfl
  next other => exact absurd rfl (other following)

/-- What stands at the start of a text behind its literal text: the end of the
pattern, a doubled percent sign or a directive. -/
inductive Lead (closing : Option Char) : List Char → Prop where
  | stop {following : List Char} (stopped : ∀ character ∈ following.head?,
      closing = some character ∧ character ≠ '%') : Lead closing following
  | percent {following : List Char} : Lead closing ('%' :: '%' :: following)
  | directive {following : List Char} (distinct : following.head? ≠ some '%') :
    Lead closing ('%' :: following)

/-- Behind its literal text every text goes on in one of these ways. -/
theorem exists_lead (closing : Option Char) (rest : List Char) :
    ∃ text following, rest = text ++ following ∧
      (∀ character ∈ text, character ∉ stops closing) ∧
      (∀ character ∈ following.head?, character ∈ stops closing) ∧
      Lead closing following := by
  rcases Cursor.takeUntil_divides ⟨0, rest⟩ (stops closing) with
    ⟨text, following, same, -, plain, stopped⟩
  refine ⟨text, following, same, plain, stopped, ?_⟩
  cases following with
  | nil => exact .stop (fun _ first => by cases first)
  | cons character behind =>
      by_cases sign : character = '%'
      · subst sign
        by_cases doubled : behind.head? = some '%'
        · cases behind with
          | nil => cases doubled
          | cons second others =>
              cases doubled
              exact .percent
        · exact .directive doubled
      · refine .stop (fun other first => ?_)
        cases first
        have closes := stopped character rfl
        rw [stops, List.mem_cons] at closes
        exact ⟨Option.mem_toList.mp (closes.resolve_left sign), sign⟩

/-- What holds of a text if it holds of all that are shorter than what goes on behind its
literal text holds of every text.  Enclosed patterns are among the shorter ones, which is
why the closing character is free there. -/
theorem leadInduction {motive : Option Char → Cursor → Prop}
    (piece : ∀ closing position text following,
      (∀ character ∈ text, character ∉ stops closing) →
      (∀ character ∈ following.head?, character ∈ stops closing) → Lead closing following →
      (∀ other cursor, cursor.rest.length < following.length → motive other cursor) →
      motive closing ⟨position, text ++ following⟩)
    (closing : Option Char) (cursor : Cursor) : motive closing cursor := by
  induction size : cursor.rest.length using Nat.strongRecOn generalizing closing cursor with
  | ind size shorter =>
      subst size
      rcases cursor with ⟨position, rest⟩
      rcases exists_lead closing rest with ⟨text, following, rfl, plain, maximal, lead⟩
      refine piece closing position text following plain maximal lead fun other cursor small => ?_
      have within : following.length ≤ (text ++ following).length := by
        rw [List.length_append]
        exact Nat.le_add_left _ _
      exact shorter _ (Nat.lt_of_lt_of_le small within) other cursor rfl

end Pieces

end Registry

/-! ## The parts of a directive -/

section Directives

variable {registry : Registry} {context : Context}

/-- Behind a head whose lengths are in range, its word is looked up, and the builder that is found
is handed the head as it is written. -/
theorem compileDirective_of_inRange (head : HeadText) (inRange : InRange head.lengths)
    {following : List Char}
    (maximal : ∀ character ∈ following.head?, Text.isAlphabetic character = false)
    (position start : Nat) :
    registry.compileDirective context position ⟨start, head.chars ++ following⟩ =
      match registry.resolve? head.name with
      | none => .error ⟨.unknownWord head.name position, start + head.chars.length⟩
      | some builder =>
          (registry.compileInside context (head.head position) builder
            ⟨start + head.chars.length, following⟩).bind fun inside =>
              builder.compileTail context (head.head position) inside.1 inside.2 := by
  unfold Registry.compileDirective
  rw [head.readHead_append inRange maximal]
  rfl

/-- Behind the head of a directive with a known word comes what it encloses. -/
theorem compileDirective_head (head : HeadText) (inRange : InRange head.lengths)
    {builder : Builder} (resolved : registry.resolve? head.name = some builder)
    {following : List Char}
    (maximal : ∀ character ∈ following.head?, Text.isAlphabetic character = false)
    (position start : Nat) :
    registry.compileDirective context position ⟨start, head.chars ++ following⟩ =
      (registry.compileInside context (head.head position) builder
        ⟨start + head.chars.length, following⟩).bind fun inside =>
          builder.compileTail context (head.head position) inside.1 inside.2 := by
  rw [compileDirective_of_inRange head inRange maximal, resolved]

/-- Nothing is enclosed where the word cannot enclose anything or no parenthesis
follows. -/
theorem compileInside_unopened {head : Head} {builder : Builder} {cursor : Cursor}
    (unopened : ¬(builder.encloses = true ∧ cursor.rest.head? = some '(')) :
    registry.compileInside context head builder cursor = .ok (none, cursor) := by
  unfold Registry.compileInside
  split
  next inner opening =>
    rw [if_neg fun encloses => unopened ⟨encloses, by rw [opening]; rfl⟩]
  next => rfl

/-- Behind an opening parenthesis a pattern is compiled up to the closing one. -/
theorem compileInside_opened {head : Head} {builder : Builder}
    (encloses : builder.encloses = true) (position : Nat) (inner : List Char) :
    registry.compileInside context head builder ⟨position, '(' :: inner⟩ =
      (registry.compileUntil context (some ')') ⟨position + 1, inner⟩).bind
        fun inside => closeInside head inside.1 inside.2 := by
  simp only [Registry.compileInside, encloses, if_true]

/-- Parameters are read as they are written, and then the directive is built. -/
theorem compileTail_append (builder : Builder) (head : Head) (inside : Option Compiled)
    (parameters : Option ParameterListText) {following : List Char}
    (unopened : parameters = none → following.head? ≠ some '\x7b') (position : Nat) :
    builder.compileTail context head inside
        ⟨position, parameterChars parameters ++ following⟩ =
      ((builder.instantiate ⟨head, parameterValues parameters, inside⟩ context).mapError
        fun bad => ⟨.badParameter bad, position + (parameterChars parameters).length⟩).map
          fun unit =>
            (unit, ⟨position + (parameterChars parameters).length, following⟩) := by
  simp only [Builder.compileTail, readParameters_append parameters unopened, if_true]

end Directives

/-! ## Faults without their place -/

section Verdicts

variable {Value Result : Type}

/-- What compiling comes to, without the place where a fault was found. -/
def verdict (outcome : Except Failure Value) : Except Fault Value :=
  outcome.mapError Failure.fault

theorem verdict_bind (outcome : Except Failure Value) (next : Value → Except Failure Result) :
    verdict (outcome.bind next) = (verdict outcome).bind fun value => verdict (next value) :=
  mapError_bind Failure.fault outcome next

theorem verdict_inFrontOf (earlier : Compiled)
    (outcome : Except Failure (Compiled × Cursor)) :
    verdict (earlier.inFrontOf outcome) =
      (verdict outcome).map fun later => (earlier ++ later.1, later.2) := by
  cases outcome <;> rfl

theorem compile_eq_verdict (registry : Registry) (context : Context) (pattern : String) :
    registry.compile context pattern =
      (verdict (registry.compileUntil context none ⟨0, pattern.toList⟩)).map Prod.fst := by
  unfold Registry.compile
  cases here : registry.compileUntil context none (.ofText pattern) with
  | error failure => exact congrArg (fun outcome => (verdict outcome).map Prod.fst) here.symm
  | ok read => exact congrArg (fun outcome => (verdict outcome).map Prod.fst) here.symm

/-- A pattern that compiles is compiled up to some place, which is its end. -/
theorem exists_of_compile {registry : Registry} {context : Context} {pattern : String}
    {compiled : Compiled} (done : registry.compile context pattern = .ok compiled) :
    ∃ behind, registry.compileUntil context none (.ofText pattern) = .ok (compiled, behind) := by
  unfold Registry.compile at done
  split at done
  next => cases done
  next parts behind here =>
    cases done
    exact ⟨behind, here⟩

theorem exists_of_compile_error {registry : Registry} {context : Context} {pattern : String}
    {fault : Fault} (failed : registry.compile context pattern = .error fault) :
    ∃ stopped,
      registry.compileUntil context none (.ofText pattern) = .error ⟨fault, stopped⟩ := by
  unfold Registry.compile at failed
  split at failed
  next failure here =>
    cases failed
    exact ⟨failure.stopped, here⟩
  next => cases failed

/-- Behind what it encloses, a directive is created with the parameters that are
written. -/
theorem verdict_compileTail {registry : Registry} {context : Context} {head : Head}
    {builder : Builder} (resolved : registry.resolve? head.word = some builder)
    (inside : Option Compiled) (parameters : Option ParameterListText) {following : List Char}
    (unopened : parameters = none → following.head? ≠ some '\x7b') (position : Nat) :
    verdict (builder.compileTail context head inside
        ⟨position, parameterChars parameters ++ following⟩) =
      (registry.create context ⟨head, parameterValues parameters, inside⟩).map fun unit =>
        (unit, ⟨position + (parameterChars parameters).length, following⟩) := by
  rw [compileTail_append builder head inside parameters unopened]
  simp only [Registry.create, Spec.word, resolved]
  cases builder.instantiate ⟨head, parameterValues parameters, inside⟩ context <;> rfl

end Verdicts

end LogLayout.Pattern
