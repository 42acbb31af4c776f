import LogLayout.Proofs.Pattern.Moves
import Mathlib.Logic.Function.Iterate

namespace LogLayout.Pattern

/-!
# Compiling step by step

Compiling goes on behind every literal text and every directive, and one level deeper with every
pattern that a directive encloses.  Nothing that it is called with gets smaller on the way: all
levels move the same cursor, and an enclosed pattern may stop without its parenthesis.  Here
compiling is taken apart into turns, each of which passes one literal text and what stands behind
it.  The directives whose enclosed patterns are being compiled wait on a stack.

A turn either is the last one or leads to another one.  On the way to the next turn at least one
character has been passed: a percent sign, or the parenthesis that closes an enclosed pattern.
The stack grows in a turn by one directive at most, and only if an opening parenthesis has been
passed.  So there are no more turns than characters and one, and no more levels than opening
parentheses and one.
-/

/-! ## Turns -/

/-- A directive that waits for the pattern that it encloses, with what has been compiled in front
of it and the character that closes the pattern around it. -/
structure WaitingDirective where
  closing : Option Char
  parts : Compiled
  head : Head
  builder : Builder

/-- Where compiling stands: in front of a turn, or at its end. -/
inductive CompileState where
  | compiling (closing : Option Char) (parts : Compiled) (cursor : Cursor)
    (waiting : List WaitingDirective)
  | finished (outcome : Except Failure (Compiled × Cursor))

theorem Compiled.empty_inFrontOf (outcome : Except Failure (Compiled × Cursor)) :
    Compiled.empty.inFrontOf outcome = outcome := by
  cases outcome <;> rfl

namespace CompileState

section Turns

variable (registry : Registry) (context : Context)

/-- Build a directive behind what it encloses.  The pattern around it goes on behind it. -/
def goOn (directive : WaitingDirective) (inside : Option Compiled) (cursor : Cursor)
    (waiting : List WaitingDirective) : CompileState :=
  match directive.builder.compileTail context directive.head inside cursor with
  | .error failure => finished (.error failure)
  | .ok (unit, behind) =>
      compiling directive.closing (directive.parts ++ .single unit) behind waiting

/-- Leave a pattern.  The directive that encloses it goes on behind it; if there is none, compiling
is at its end. -/
def leave (parts : Compiled) (cursor : Cursor) : List WaitingDirective → CompileState
  | [] => finished (.ok (parts, cursor))
  | directive :: waiting =>
      match closeInside directive.head parts cursor with
      | .error failure => finished (.error failure)
      | .ok (inside, behind) => goOn context directive inside behind waiting

/-- Enter the pattern that a directive encloses, or go on if it encloses none. -/
def enter (directive : WaitingDirective) (cursor : Cursor) (waiting : List WaitingDirective) :
    CompileState :=
  match cursor.rest with
  | '(' :: inner =>
      if directive.builder.encloses then
        compiling (some ')') .empty ⟨cursor.position + 1, inner⟩ (directive :: waiting)
      else goOn context directive none cursor waiting
  | _ => goOn context directive none cursor waiting

/-- Read the head of a directive, look its word up and see what it encloses. -/
def start (closing : Option Char) (parts : Compiled) (position : Nat) (cursor : Cursor)
    (waiting : List WaitingDirective) : CompileState :=
  match readHead position cursor with
  | (.error fault, behind) => finished (.error ⟨fault, behind.position⟩)
  | (.ok head, behind) =>
      match registry.resolve? head.word with
      | none => finished (.error ⟨.unknownWord head.word head.position, behind.position⟩)
      | some builder => enter context ⟨closing, parts, head, builder⟩ behind waiting

/-- What comes behind a literal text: a doubled percent sign, a directive or the end of the
pattern. -/
def turn (closing : Option Char) (parts : Compiled) (cursor : Cursor)
    (waiting : List WaitingDirective) : CompileState :=
  match cursor.rest with
  | '%' :: '%' :: rest =>
      compiling closing (parts ++ .single fun _ => "%") ⟨cursor.position + 2, rest⟩ waiting
  | '%' :: rest =>
      start registry context closing parts cursor.position ⟨cursor.position + 1, rest⟩ waiting
  | _ => leave context parts cursor waiting

/-- Take a turn: pass a literal text and what comes behind it. -/
def step : CompileState → CompileState
  | finished outcome => finished outcome
  | compiling closing parts cursor waiting =>
      let text := cursor.takeUntil (stops closing)
      turn registry context closing (parts ++ .ofLiteral text.1) text.2 waiting

end Turns

section Equations

variable (registry : Registry) (context : Context) {closing : Option Char}
  (parts : Compiled) (position : Nat) {following : List Char}
  (waiting : List WaitingDirective)

theorem step_literal {text : List Char} (plain : ∀ character ∈ text, character ∉ stops closing)
    (maximal : ∀ character ∈ following.head?, character ∈ stops closing) :
    step registry context (compiling closing parts ⟨position, text ++ following⟩ waiting) =
      turn registry context closing (parts ++ .ofLiteral text)
        ⟨position + text.length, following⟩ waiting := by
  rw [step, Cursor.takeUntil_append plain maximal]

theorem turn_stop (stopped : ∀ character ∈ following.head?,
    closing = some character ∧ character ≠ '%') :
    turn registry context closing parts ⟨position, following⟩ waiting =
      leave context parts ⟨position, following⟩ waiting := by
  unfold turn
  dsimp only
  split
  next => exact absurd rfl (stopped '%' rfl).2
  next => exact absurd rfl (stopped '%' rfl).2
  next => rfl

theorem turn_directive (distinct : following.head? ≠ some '%') :
    turn registry context closing parts ⟨position, '%' :: following⟩ waiting =
      start registry context closing parts position ⟨position + 1, following⟩ waiting := by
  unfold turn
  dsimp only
  split
  next same => exact absurd (by rw [(List.cons.inj same).2]; rfl) distinct
  next same =>
    cases same
    rfl
  next other => exact absurd rfl (other following)

theorem enter_opened {directive : WaitingDirective}
    (encloses : directive.builder.encloses = true) (inner : List Char) :
    enter context directive ⟨position, '(' :: inner⟩ waiting =
      compiling (some ')') .empty ⟨position + 1, inner⟩ (directive :: waiting) := by
  simp only [enter, encloses, if_true]

theorem enter_unopened {directive : WaitingDirective} {cursor : Cursor}
    (unopened : ¬(directive.builder.encloses = true ∧ cursor.rest.head? = some '(')) :
    enter context directive cursor waiting = goOn context directive none cursor waiting := by
  unfold enter
  split
  next inner opening =>
    rw [if_neg fun encloses => unopened ⟨encloses, by rw [opening]; rfl⟩]
  next => rfl

end Equations

def cursor? : CompileState → Option Cursor
  | compiling _ _ cursor _ => some cursor
  | finished _ => none

/-- How many patterns are being compiled, each inside the one before it. -/
def depth : CompileState → Nat
  | compiling _ _ _ waiting => waiting.length + 1
  | finished _ => 0

/-! ## Turns come to what compiling comes to -/

section Outcomes

variable (registry : Registry) (context : Context)

/-- What a pattern comes to from behind one of its directives, for what that encloses. -/
def behindInside (directive : WaitingDirective)
    (inside : Except Failure (Option Compiled × Cursor)) : Except Failure (Compiled × Cursor) :=
  (inside.bind fun inside =>
    directive.builder.compileTail context directive.head inside.1 inside.2).bind fun done =>
      (directive.parts ++ .single done.1).inFrontOf
        (registry.compileUntil context directive.closing done.2)

/-- What the outermost pattern comes to, for what the innermost one does. -/
def unwind : List WaitingDirective → Except Failure (Compiled × Cursor) →
    Except Failure (Compiled × Cursor)
  | [], innermost => innermost
  | directive :: waiting, innermost =>
      unwind waiting (behindInside registry context directive
        (innermost.bind fun inside => closeInside directive.head inside.1 inside.2))

/-- What compiling comes to from where it stands. -/
def outcome : CompileState → Except Failure (Compiled × Cursor)
  | compiling closing parts cursor waiting =>
      unwind registry context waiting
        (parts.inFrontOf (registry.compileUntil context closing cursor))
  | finished outcome => outcome

variable (waiting : List WaitingDirective)

theorem unwind_error (failure : Failure) :
    unwind registry context waiting (.error failure) = .error failure := by
  induction waiting with
  | nil => rfl
  | cons directive others inductionHypothesis => exact inductionHypothesis

theorem outcome_goOn (directive : WaitingDirective) (inside : Option Compiled)
    (cursor : Cursor) :
    outcome registry context (goOn context directive inside cursor waiting) =
      unwind registry context waiting
        (behindInside registry context directive (.ok (inside, cursor))) := by
  unfold goOn behindInside
  dsimp only [Except.bind]
  cases directive.builder.compileTail context directive.head inside cursor with
  | error failure => exact (unwind_error registry context waiting failure).symm
  | ok done => rfl

theorem outcome_leave (parts : Compiled) (cursor : Cursor) :
    outcome registry context (leave context parts cursor waiting) =
      unwind registry context waiting (.ok (parts, cursor)) := by
  cases waiting with
  | nil => rfl
  | cons directive others =>
      unfold leave unwind
      dsimp only [Except.bind]
      cases closeInside directive.head parts cursor with
      | error failure => exact (unwind_error registry context others failure).symm
      | ok closed => exact outcome_goOn registry context others directive closed.1 closed.2

theorem outcome_enter (directive : WaitingDirective) (cursor : Cursor) :
    outcome registry context (enter context directive cursor waiting) =
      unwind registry context waiting (behindInside registry context directive
        (registry.compileInside context directive.head directive.builder cursor)) := by
  by_cases opened : directive.builder.encloses = true ∧ cursor.rest.head? = some '('
  · rcases cursor with ⟨position, rest⟩
    rcases List.head?_eq_some_iff.mp opened.2 with ⟨inner, rfl⟩
    rw [enter_opened context position waiting opened.1, compileInside_opened opened.1, outcome,
      unwind, Compiled.empty_inFrontOf]
  · rw [enter_unopened context waiting opened, compileInside_unopened opened]
    exact outcome_goOn registry context waiting directive none cursor

theorem outcome_start (closing : Option Char) (parts : Compiled) (position : Nat)
    (cursor : Cursor) :
    outcome registry context (start registry context closing parts position cursor waiting) =
      unwind registry context waiting
        ((registry.compileDirective context position cursor).bind fun directive =>
          (parts ++ .single directive.1).inFrontOf
            (registry.compileUntil context closing directive.2)) := by
  rcases headRead : readHead position cursor with ⟨fault | head, behind⟩
  · simp only [start, Registry.compileDirective, headRead]
    exact (unwind_error registry context waiting _).symm
  · cases resolved : registry.resolve? head.word with
    | none =>
        simp only [start, Registry.compileDirective, headRead, resolved]
        exact (unwind_error registry context waiting _).symm
    | some builder =>
        simp only [start, Registry.compileDirective, headRead, resolved]
        exact outcome_enter registry context waiting ⟨closing, parts, head, builder⟩ behind

/-- What comes behind a literal text does not change what compiling comes to.  The cases are those
in which every text goes on. -/
theorem outcome_turn {closing : Option Char} {following : List Char}
    (lead : Registry.Lead closing following) (parts : Compiled) (position : Nat) :
    outcome registry context
        (turn registry context closing parts ⟨position, following⟩ waiting) =
      unwind registry context waiting
        (parts.inFrontOf (registry.compileUntil context closing ⟨position, following⟩)) := by
  cases lead with
  | stop stopped =>
      rw [turn_stop registry context parts position waiting stopped, outcome_leave,
        registry.compileUntil_stop context stopped]
      exact congrArg (fun parts => unwind registry context waiting (.ok (parts, _)))
        (Compiled.append_ofLiteral_nil parts).symm
  | @percent following =>
      rw [registry.compileUntil_percent, Compiled.inFrontOf_inFrontOf]
      rfl
  | @directive following distinct =>
      rw [turn_directive registry context parts position waiting distinct, outcome_start,
        registry.compileUntil_directive context distinct]
      cases registry.compileDirective context position ⟨position + 1, following⟩ with
      | error failure => rfl
      | ok directive =>
          dsimp only [Except.bind]
          rw [Compiled.inFrontOf_inFrontOf]

theorem outcome_step (state : CompileState) :
    outcome registry context (step registry context state) = outcome registry context state := by
  cases state with
  | finished outcome => rfl
  | compiling closing parts cursor waiting =>
      rcases cursor with ⟨position, rest⟩
      rcases Registry.exists_lead closing rest with ⟨text, following, rfl, plain, maximal, lead⟩
      rw [step_literal registry context parts position waiting plain maximal,
        outcome_turn registry context waiting lead, outcome,
        registry.compileUntil_literal context plain maximal, Compiled.inFrontOf_inFrontOf]

end Outcomes

/-! ## Every turn moves the cursor -/

/-- A state is the end, or it is in front of a turn further on in the text.  Characters have been
passed on the way, and no more directives wait than before and one for every opening parenthesis
among them. -/
inductive Onward (cursor : Cursor) (waited : Nat) : CompileState → Prop where
  | finished (outcome : Except Failure (Compiled × Cursor)) :
    Onward cursor waited (finished outcome)
  | compiling {closing : Option Char} {parts : Compiled} {further : Cursor}
    {waiting : List WaitingDirective} {text : List Char} (passes : cursor.Passes text further)
    (nonempty : text ≠ []) (opened : waiting.length ≤ waited + text.count '(') :
    Onward cursor waited (compiling closing parts further waiting)

section Progress

variable (registry : Registry) (context : Context) {cursor behind : Cursor} {waited : Nat}
  {text : List Char} {waiting : List WaitingDirective}

theorem onward_goOn (directive : WaitingDirective) (inside : Option Compiled)
    (passes : cursor.Passes text behind) (nonempty : text ≠ [])
    (opened : waiting.length ≤ waited + text.count '(') :
    Onward cursor waited (goOn context directive inside behind waiting) := by
  unfold goOn
  split
  next => exact .finished _
  next unit further done =>
    rcases exists_list_of_compileTail done with ⟨parameters, divided, offset, -, -⟩
    apply Onward.compiling (passes.trans ⟨divided, offset⟩)
    · exact List.append_ne_nil_of_left_ne_nil nonempty _
    · rw [List.count_append]
      omega

/-- A pattern is left onward, since its closing parenthesis has to be passed. -/
theorem onward_leave (parts : Compiled) (passes : cursor.Passes text behind)
    (opened : waiting.length ≤ waited) :
    Onward cursor waited (leave context parts behind waiting) := by
  cases waiting with
  | nil => exact .finished _
  | cons directive others =>
      rcases behind with ⟨position, rest⟩
      cases rest with
      | nil => exact .finished _
      | cons closer rest =>
          have closed : closeInside directive.head parts ⟨position, closer :: rest⟩ =
              .ok (some parts, ⟨position + 1, rest⟩) := by
            rw [closeInside, Cursor.forward_one]
          have closing :
              (⟨position, closer :: rest⟩ : Cursor).Passes [closer] ⟨position + 1, rest⟩ :=
            ⟨rfl, rfl⟩
          rw [leave, closed]
          apply onward_goOn context directive (some parts) (passes.trans closing)
          · exact List.append_ne_nil_of_right_ne_nil _ (List.cons_ne_nil closer [])
          · rw [List.length_cons] at opened
            omega

/-- A pattern is entered onward, and the parenthesis that opens it accounts for the directive that
waits for it. -/
theorem onward_enter (directive : WaitingDirective) (passes : cursor.Passes text behind)
    (nonempty : text ≠ []) (opened : waiting.length ≤ waited) :
    Onward cursor waited (enter context directive behind waiting) := by
  by_cases enters : directive.builder.encloses = true ∧ behind.rest.head? = some '('
  · rcases behind with ⟨position, rest⟩
    rcases List.head?_eq_some_iff.mp enters.2 with ⟨inner, rfl⟩
    rw [enter_opened context position waiting enters.1]
    have parenthesis : (⟨position, '(' :: inner⟩ : Cursor).Passes ['('] ⟨position + 1, inner⟩ :=
      ⟨rfl, rfl⟩
    apply Onward.compiling (passes.trans parenthesis)
    · exact List.append_ne_nil_of_left_ne_nil nonempty _
    · rw [List.count_append, List.count_singleton_self, List.length_cons]
      omega
  · rw [enter_unopened context waiting enters]
    exact onward_goOn context directive none passes nonempty (by omega)

theorem onward_start (closing : Option Char) (parts : Compiled) (position : Nat)
    (passes : cursor.Passes text behind) (nonempty : text ≠ [])
    (opened : waiting.length ≤ waited) :
    Onward cursor waited (start registry context closing parts position behind waiting) := by
  unfold start
  split
  next => exact .finished _
  next head afterHead headRead =>
    rcases exists_headText_of_readHead headRead with ⟨headText, -, -, divided, offset, -⟩
    split
    next => exact .finished _
    next builder resolved =>
      apply onward_enter context _ (passes.trans ⟨divided, offset⟩) _ opened
      exact List.append_ne_nil_of_left_ne_nil nonempty _

theorem onward_step (closing : Option Char) (parts : Compiled) (cursor : Cursor)
    (waiting : List WaitingDirective) :
    Onward cursor waiting.length
      (step registry context (compiling closing parts cursor waiting)) := by
  rcases cursor with ⟨position, rest⟩
  rcases Registry.exists_lead closing rest with ⟨text, following, rfl, plain, maximal, lead⟩
  rw [step_literal registry context parts position waiting plain maximal]
  have literal : (⟨position, text ++ following⟩ : Cursor).Passes text
      ⟨position + text.length, following⟩ := ⟨rfl, rfl⟩
  cases lead with
  | stop stopped =>
      rw [turn_stop registry context _ _ waiting stopped]
      exact onward_leave context _ literal (Nat.le_refl _)
  | @percent following =>
      have signs : (⟨position + text.length, '%' :: '%' :: following⟩ : Cursor).Passes ['%', '%']
        ⟨position + text.length + 2, following⟩ := ⟨rfl, rfl⟩
      apply Onward.compiling (literal.trans signs)
      · exact List.append_ne_nil_of_right_ne_nil _ (List.cons_ne_nil '%' ['%'])
      · exact Nat.le_add_right _ _
  | @directive following distinct =>
      rw [turn_directive registry context _ _ waiting distinct]
      have sign : (⟨position + text.length, '%' :: following⟩ : Cursor).Passes ['%']
        ⟨position + text.length + 1, following⟩ := ⟨rfl, rfl⟩
      apply onward_start registry context closing _ _ (literal.trans sign) _ (Nat.le_refl _)
      exact List.append_ne_nil_of_right_ne_nil _ (List.cons_ne_nil '%' [])

end Progress

/-! ## From the beginning -/

section Runs

variable (registry : Registry) (context : Context)

/-- What is left to do: a turn for every character, and the last one. -/
def remaining : CompileState → Nat
  | compiling _ _ cursor _ => cursor.rest.length + 1
  | finished _ => 0

/-- The levels that may still be reached: those that are, and one for every opening parenthesis. -/
def reserve : CompileState → Nat
  | compiling _ _ cursor waiting => waiting.length + 1 + cursor.rest.count '('
  | finished _ => 0

theorem depth_le_reserve (state : CompileState) : state.depth ≤ state.reserve := by
  cases state with
  | compiling => exact Nat.le_add_right _ _
  | finished => exact Nat.le_refl _

/-- Every turn leaves less to do. -/
theorem remaining_step_lt (closing : Option Char) (parts : Compiled) (cursor : Cursor)
    (waiting : List WaitingDirective) :
    (step registry context (compiling closing parts cursor waiting)).remaining <
      (compiling closing parts cursor waiting).remaining := by
  have onward := onward_step registry context closing parts cursor waiting
  generalize step registry context (compiling closing parts cursor waiting) = next at onward
  cases onward with
  | finished => exact Nat.succ_pos _
  | compiling passes nonempty opened =>
      have positive := List.length_pos_iff.mpr nonempty
      rw [remaining, remaining, passes.chars, List.length_append]
      omega

theorem reserve_step_le (state : CompileState) :
    (step registry context state).reserve ≤ state.reserve := by
  cases state with
  | finished => exact Nat.le_refl _
  | compiling closing parts cursor waiting =>
      have onward := onward_step registry context closing parts cursor waiting
      generalize step registry context (compiling closing parts cursor waiting) = next at onward
      cases onward with
      | finished => exact Nat.zero_le _
      | compiling passes nonempty opened =>
          rw [reserve, reserve, passes.chars, List.count_append]
          omega

theorem position_lt_of_step {state : CompileState} {before behind : Cursor}
    (here : state.cursor? = some before)
    (next : (step registry context state).cursor? = some behind) :
    before.position < behind.position := by
  cases state with
  | finished => cases here
  | compiling closing parts cursor waiting =>
      have onward := onward_step registry context closing parts cursor waiting
      generalize step registry context (compiling closing parts cursor waiting) = following
        at onward next
      cases onward with
      | finished => cases next
      | compiling passes nonempty opened =>
          cases here
          cases next
          have positive := List.length_pos_iff.mpr nonempty
          rw [passes.offset]
          omega

theorem outcome_run (state : CompileState) (count : Nat) :
    outcome registry context ((step registry context)^[count] state) =
      outcome registry context state := by
  induction count with
  | zero => rfl
  | succ count inductionHypothesis =>
      rw [Function.iterate_succ_apply', outcome_step, inductionHypothesis]

theorem reserve_run_le (state : CompileState) (count : Nat) :
    ((step registry context)^[count] state).reserve ≤ state.reserve := by
  induction count with
  | zero => exact Nat.le_refl _
  | succ count inductionHypothesis =>
      rw [Function.iterate_succ_apply']
      exact Nat.le_trans (reserve_step_le registry context _) inductionHypothesis

/-- After the turns that are left compiling is at its end, from wherever it stands. -/
theorem exists_finished (state : CompileState) {count : Nat} (enough : state.remaining ≤ count) :
    ∃ last, (step registry context)^[count] state = finished last := by
  induction count generalizing state with
  | zero =>
      cases state with
      | finished last => exact ⟨last, rfl⟩
      | compiling => exact absurd enough (Nat.not_succ_le_zero _)
  | succ count inductionHypothesis =>
      rw [Function.iterate_succ_apply]
      apply inductionHypothesis
      cases state with
      | finished => exact Nat.zero_le _
      | compiling closing parts cursor waiting =>
          have less := remaining_step_lt registry context closing parts cursor waiting
          omega

theorem run_eq_finished (state : CompileState) {count : Nat} (enough : state.remaining ≤ count) :
    (step registry context)^[count] state = finished (outcome registry context state) := by
  rcases exists_finished registry context state enough with ⟨last, ended⟩
  have same := outcome_run registry context state count
  rw [ended] at same ⊢
  exact congrArg finished same

/-- In front of a later turn the cursor is further on than in front of an earlier one. -/
theorem position_lt_of_run (state : CompileState) {earlier later : Nat} {before behind : Cursor}
    (order : earlier < later)
    (first : ((step registry context)^[earlier] state).cursor? = some before)
    (second : ((step registry context)^[later] state).cursor? = some behind) :
    before.position < behind.position := by
  induction later generalizing behind with
  | zero => exact absurd order (Nat.not_lt_zero _)
  | succ later inductionHypothesis =>
      rw [Function.iterate_succ_apply'] at second
      rcases Nat.lt_or_eq_of_le (Nat.le_of_lt_succ order) with further | rfl
      · cases between : (step registry context)^[later] state with
        | finished last =>
            rw [between] at second
            cases second
        | compiling closing parts cursor waiting =>
            have here : ((step registry context)^[later] state).cursor? = some cursor := by
              rw [between]
              rfl
            exact Nat.lt_trans (inductionHypothesis further here)
              (position_lt_of_step registry context here second)
      · exact position_lt_of_step registry context first second

end Runs

end CompileState

/-! ## Directives -/

section Directives

variable (registry : Registry) (context : Context)

/-- Compile what a percent sign starts: a doubled one or a directive. -/
def Registry.compileMarked (position : Nat) (rest : List Char) :
    Except Failure (Renderer × Cursor) :=
  match rest with
  | '%' :: behind => .ok (fun _ => "%", ⟨position + 2, behind⟩)
  | _ => registry.compileDirective context position ⟨position + 1, rest⟩

theorem Registry.compileMarked_of_distinct {rest : List Char} (distinct : rest.head? ≠ some '%')
    (position : Nat) :
    registry.compileMarked context position rest =
      registry.compileDirective context position ⟨position + 1, rest⟩ := by
  unfold compileMarked
  split
  next => exact absurd rfl distinct
  next => rfl

theorem Registry.compileUntil_marked (closing : Option Char) (position : Nat)
    (rest : List Char) :
    registry.compileUntil context closing ⟨position, '%' :: rest⟩ =
      (registry.compileMarked context position rest).bind fun marked =>
        (Compiled.single marked.1).inFrontOf
          (registry.compileUntil context closing marked.2) := by
  by_cases doubled : rest.head? = some '%'
  · rcases List.head?_eq_some_iff.mp doubled with ⟨behind, rfl⟩
    exact registry.compileUntil_percent context position
  · rw [registry.compileUntil_directive context doubled,
      registry.compileMarked_of_distinct context doubled]

/-- What a percent sign starts takes another character at least, if it is compiled: the second
percent sign, or a letter of the word. -/
theorem exists_passes_of_compileMarked {position : Nat} {rest : List Char} {unit : Renderer}
    {behind : Cursor}
    (done : registry.compileMarked context position rest = .ok (unit, behind)) :
    ∃ text, (⟨position, '%' :: rest⟩ : Cursor).Passes text behind ∧ 2 ≤ text.length := by
  by_cases doubled : rest.head? = some '%'
  · rcases List.head?_eq_some_iff.mp doubled with ⟨following, rfl⟩
    cases done
    exact ⟨['%', '%'], ⟨rfl, rfl⟩, Nat.le_refl 2⟩
  · rw [registry.compileMarked_of_distinct context doubled] at done
    rcases exists_completes done with ⟨head, inside, parameters, -, -, divided, offset⟩
    refine ⟨directiveChars head inside parameters, ⟨divided, offset⟩, ?_⟩
    have letters := List.length_pos_iff.mpr head.nonempty
    simp only [directiveChars, HeadText.chars, List.length_cons, List.length_append]
    omega

end Directives

open CompileState

/-- Compiling ends, whatever the words of a registry are, wherever it starts and whatever closes
the pattern.  It ends after as many turns as there are characters and one, and it comes to what
the compiler comes to.  In front of every turn, also of the first one of an enclosed pattern and
of the one that goes on behind it, the cursor is further on than in front of any earlier one.
There are never more patterns inside each other than opening parentheses and one.  What a percent
sign starts takes two characters at least. -/
theorem compileUntil_finishes (registry : Registry) (context : Context) :
    (∀ closing cursor,
      let state (count : Nat) :=
        (step registry context)^[count] (compiling closing .empty cursor [])
      state (cursor.rest.length + 1) =
          finished (registry.compileUntil context closing cursor) ∧
        (∀ earlier later before behind, earlier < later →
          (state earlier).cursor? = some before → (state later).cursor? = some behind →
            before.position < behind.position) ∧
        ∀ count, (state count).depth ≤ 1 + cursor.rest.count '(') ∧
    (∀ closing position rest,
      registry.compileUntil context closing ⟨position, '%' :: rest⟩ =
        (registry.compileMarked context position rest).bind fun marked =>
          (Compiled.single marked.1).inFrontOf
            (registry.compileUntil context closing marked.2)) ∧
    ∀ position rest unit behind,
      registry.compileMarked context position rest = .ok (unit, behind) →
        ∃ text, (⟨position, '%' :: rest⟩ : Cursor).Passes text behind ∧ 2 ≤ text.length := by
  refine ⟨?_, registry.compileUntil_marked context, ?_⟩
  · intro closing cursor state
    refine ⟨?_, ?_, ?_⟩
    · have ended := run_eq_finished registry context (compiling closing .empty cursor [])
        (Nat.le_refl _)
      rw [outcome, unwind, Compiled.empty_inFrontOf] at ended
      exact ended
    · intro earlier later before behind order first second
      exact position_lt_of_run registry context _ order first second
    · intro count
      exact Nat.le_trans (depth_le_reserve _) (reserve_run_le registry context _ count)
  · intro position rest unit behind done
    exact exists_passes_of_compileMarked registry context done

/-- A directive that encloses another one, and a doubled percent sign behind it.  The second turn
is inside, the fourth one is behind the parenthesis. -/
theorem compileUntil_finishes_nested :
    let context : Context := { application := "shop", node := "east", console := .plain }
    let cursor : Cursor := .ofText "%red(a%level)%%"
    let state (count : Nat) :=
      (step Registry.builtin context)^[count] (compiling none .empty cursor [])
    (state 1).depth = 2 ∧ 2 ≤ 1 + cursor.rest.count '(' ∧
      (state 1).cursor? = some (.inText "%red(a%level)%%" 5) ∧
      (state 3).cursor? = some (.inText "%red(a%level)%%" 13) ∧ 5 < 13 ∧
      state 16 = finished (Registry.builtin.compileUntil context none cursor) ∧
      ∃ unit behind, Registry.builtin.compileMarked context 6 "level)%%".toList =
          .ok (unit, behind) ∧
        ∃ text, (⟨6, '%' :: "level)%%".toList⟩ : Cursor).Passes text behind ∧
          2 ≤ text.length := by
  intro context cursor state
  rcases compileUntil_finishes Registry.builtin context with ⟨runs, -, takes⟩
  rcases runs none cursor with ⟨ended, onward, levels⟩
  have deep : (state 1).depth = 2 := by decide +kernel
  have second : (state 1).cursor? = some (.inText "%red(a%level)%%" 5) := by decide +kernel
  have fourth : (state 3).cursor? = some (.inText "%red(a%level)%%" 13) := by decide +kernel
  refine ⟨deep, deep ▸ levels 1, second, fourth,
    onward 1 3 _ _ (by decide) second fourth, ended, ?_⟩
  have accepted : (Registry.builtin.compileMarked context 6 "level)%%".toList).toBool = true := by
    decide +kernel
  cases done : Registry.builtin.compileMarked context 6 "level)%%".toList with
  | error failure =>
      rw [done] at accepted
      cases accepted
  | ok marked => exact ⟨marked.1, marked.2, rfl, takes 6 _ _ _ done⟩

end LogLayout.Pattern
