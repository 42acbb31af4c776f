import LogLayout.Pattern.Compile
import LogLayout.Proofs.Pattern.Scanning

namespace LogLayout.Pattern

/-!
# Compiling in a single pass

A registry compiles a pattern in two steps: the text is read into items, and the
items are built.  This module shows that the two steps can be interleaved.  A
directive may be built as soon as it has been read, and what is left of the text
is then compiled behind it, without a change to the parts, to the fault or to the
place where compiling stops.

The interleaved form needs no items.  It takes one literal text, one doubled
percent sign or one directive at a time, so that statements about compiled
patterns follow the text from left to right.
-/

/-! ## Errors that are changed -/

section Errors

variable {Error Other Value : Type} (change : Error → Other)

theorem mapError_ok (value : Value) :
    (Except.ok value : Except Error Value).mapError change = .ok value := rfl

theorem mapError_error (error : Error) :
    (Except.error error : Except Error Value).mapError change = .error (change error) := rfl

end Errors

/-! ## Patterns in a row -/

namespace Compiled

/-- The parts of one pattern in front of those of another. -/
instance : Append Compiled where
  append first second := ⟨first.units ++ second.units⟩

@[simp] theorem units_append (first second : Compiled) :
    (first ++ second).units = first.units ++ second.units := rfl

@[simp] theorem render_append (first second : Compiled) (record : Record) :
    (first ++ second).render record = first.render record ++ second.render record := by
  simp only [render, units_append, List.map_append, String.join_append]

theorem append_assoc (first second third : Compiled) :
    first ++ second ++ third = first ++ (second ++ third) :=
  congrArg Compiled.mk (List.append_assoc _ _ _)

/-- The part of a literal text.  An empty text has none. -/
def ofLiteral (text : List Char) : Compiled :=
  ⟨if text.isEmpty then [] else [fun _ => String.ofList text]⟩

def single (unit : Renderer) : Compiled := ⟨[unit]⟩

@[simp] theorem render_single (unit : Renderer) (record : Record) :
    (single unit).render record = unit record := by
  simp [render, single]

theorem ofLiteral_of_ne_nil {text : List Char} (nonempty : text ≠ []) :
    ofLiteral text = single fun _ => String.ofList text := by
  rw [ofLiteral, if_neg (by simpa only [List.isEmpty_iff] using nonempty)]
  rfl

@[simp] theorem render_ofLiteral (text : List Char) (record : Record) :
    (ofLiteral text).render record = String.ofList text := by
  cases text with
  | nil => rfl
  | cons first rest => simp [ofLiteral, render, String.join]

@[simp] theorem append_ofLiteral_nil (first : Compiled) : first ++ ofLiteral [] = first :=
  congrArg Compiled.mk (List.append_nil _)

/-- Parts in front of what the rest of a text compiles to. -/
def inFrontOf (earlier : Compiled) (outcome : Except Failure (Compiled × Cursor)) :
    Except Failure (Compiled × Cursor) :=
  outcome.map fun later => (earlier ++ later.1, later.2)

theorem inFrontOf_inFrontOf (first second : Compiled)
    (outcome : Except Failure (Compiled × Cursor)) :
    first.inFrontOf (second.inFrontOf outcome) = (first ++ second).inFrontOf outcome := by
  rcases outcome with failure | later
  · rfl
  · simp only [inFrontOf, Except.map, append_assoc]

end Compiled

/-! ## Directives -/

/-- Close the pattern that a directive encloses behind its closing parenthesis. -/
def closeInside (head : Head) (inside : Compiled) (cursor : Cursor) :
    Except Failure (Option Compiled × Cursor) :=
  match cursor.rest with
  | [] => .error ⟨.unterminated head.word head.position, cursor.position⟩
  | _ :: _ => .ok (some inside, cursor.forward 1)

def Builder.compileTail (builder : Builder) (context : Context) (head : Head)
    (inside : Option Compiled) (cursor : Cursor) : Except Failure (Renderer × Cursor) :=
  let list := readParameters cursor
  if list.closed then
    ((builder.instantiate ⟨head, list.parameters, inside⟩ context).mapError fun bad =>
      ⟨.badParameter bad, list.cursor.position⟩).map fun unit => (unit, list.cursor)
  else .error ⟨.unterminated head.word head.position, list.cursor.position⟩

namespace Registry

/-- Compile the pattern that a directive encloses, if its word can enclose one and
an opening parenthesis follows. -/
def compileInside (registry : Registry) (context : Context) (head : Head)
    (builder : Builder) (cursor : Cursor) : Except Failure (Option Compiled × Cursor) :=
  match cursor.rest with
  | '(' :: inner =>
      if builder.encloses then
        (registry.compileUntil context (some ')') ⟨cursor.position + 1, inner⟩).bind
          fun inside => closeInside head inside.1 inside.2
      else .ok (none, cursor)
  | _ => .ok (none, cursor)

/-- Compile one directive, from behind the percent sign at `position`. -/
def compileDirective (registry : Registry) (context : Context) (position : Nat)
    (cursor : Cursor) : Except Failure (Renderer × Cursor) :=
  match readHead position cursor with
  | (.error fault, behind) => .error ⟨fault, behind.position⟩
  | (.ok head, behind) =>
      match registry.resolve? head.word with
      | none => .error ⟨.unknownWord head.word head.position, behind.position⟩
      | some builder =>
          (registry.compileInside context head builder behind).bind fun inside =>
            builder.compileTail context head inside.1 inside.2

/-! ## Building what was read -/

section Building

variable (registry : Registry) (context : Context)

def finish {bound : Nat} :
    Reading (List Item) bound → Except Failure (Compiled × Cursor)
  | .complete items behind _ =>
      match buildAll registry context items with
      | .error failure => .error failure
      | .ok units => .ok (⟨units⟩, behind)
  | .broken items fault behind =>
      match buildAll registry context items with
      | .error failure => .error failure
      | .ok _ => .error ⟨fault, behind.position⟩

/-- Build the items of a pattern that a directive may enclose. -/
def finishInside {bound : Nat} :
    Reading (Option (List Item)) bound → Except Failure (Option Compiled × Cursor)
  | .complete none behind _ => .ok (none, behind)
  | .complete (some items) behind _ =>
      match buildAll registry context items with
      | .error failure => .error failure
      | .ok units => .ok (some ⟨units⟩, behind)
  | .broken items fault behind =>
      match buildAll registry context items with
      | .error failure => .error failure
      | .ok _ => .error ⟨fault, behind.position⟩

theorem compileUntil_eq_finish (closing : Option Char) (cursor : Cursor) :
    registry.compileUntil context closing cursor =
      registry.finish context (readItems registry.vocabulary closing cursor) := by
  unfold compileUntil finish
  cases readItems registry.vocabulary closing cursor <;> rfl

theorem finish_widen {bound wider : Nat} (wide : bound ≤ wider)
    (reading : Reading (List Item) bound) :
    registry.finish context (reading.widen wide) = registry.finish context reading := by
  cases reading <;> rfl

/-- Items in a row are built in a row, and the first fault is that of the earlier
ones. -/
theorem buildAll_append (earlier later : List Item) :
    buildAll registry context (earlier ++ later) =
      match buildAll registry context earlier with
      | .error failure => .error failure
      | .ok units =>
          match buildAll registry context later with
          | .error failure => .error failure
          | .ok others => .ok (units ++ others) := by
  induction earlier with
  | nil =>
      simp only [List.nil_append, buildAll]
      cases buildAll registry context later <;> rfl
  | cons item rest inductionHypothesis =>
      simp only [List.cons_append, buildAll, inductionHypothesis]
      cases item.build registry context with
      | error failure => rfl
      | ok unit =>
          cases buildAll registry context rest with
          | error failure => rfl
          | ok units => cases buildAll registry context later <;> rfl

theorem buildAll_literalItems (text : List Char) :
    buildAll registry context (literalItems text) = .ok (Compiled.ofLiteral text).units := by
  unfold literalItems Compiled.ofLiteral
  split <;> rfl

/-- Items that can be built come in front of what the rest is built to. -/
theorem finish_prepend {bound : Nat} {items : List Item} {earlier : Compiled}
    (built : buildAll registry context items = .ok earlier.units)
    (reading : Reading (List Item) bound) :
    registry.finish context (reading.prepend items) =
      earlier.inFrontOf (registry.finish context reading) := by
  cases reading with
  | complete later behind within =>
      simp only [Reading.prepend, finish, buildAll_append, built]
      cases buildAll registry context later <;> rfl
  | broken later fault behind =>
      simp only [Reading.prepend, finish, buildAll_append, built]
      cases buildAll registry context later <;> rfl

/-- An item that cannot be built hides what comes behind it. -/
theorem finish_prepend_error {bound : Nat} {items : List Item} {failure : Failure}
    (failed : buildAll registry context items = .error failure)
    (reading : Reading (List Item) bound) :
    registry.finish context (reading.prepend items) = .error failure := by
  cases reading <;> simp only [Reading.prepend, finish, buildAll_append, failed]

theorem length_rest_le (cursor : Cursor) (text : List Char) (same : cursor.rest = text) :
    cursor.rest.length ≤ text.length := Nat.le_of_eq (congrArg List.length same)

/-- One step forward leaves at most as many characters as there were. -/
theorem length_forward_one_le (cursor : Cursor) :
    (cursor.forward 1).rest.length ≤ cursor.rest.length := by
  rw [Cursor.length_forward]
  exact Nat.sub_le _ _

def readInside (vocabulary : Vocabulary) (head : Head) (encloses : Bool) (behind : Cursor) :
    Reading (Option (List Item)) behind.rest.length :=
  match opening : behind.rest with
  | '(' :: inner =>
      if encloses then
        match readItems vocabulary (some ')') ⟨behind.position + 1, inner⟩ with
        | .broken items fault cursor => .broken items fault cursor
        | .complete items cursor within =>
            match cursor.rest with
            | [] => .broken items (.unterminated head.word head.position) cursor
            | _ :: _ => .complete (some items) (cursor.forward 1)
                (Nat.le_succ_of_le (Nat.le_trans (length_forward_one_le cursor) within))
      else .complete none behind (length_rest_le behind ('(' :: inner) opening)
  | rest => .complete none behind (length_rest_le behind rest opening)

/-- Without an opening parenthesis nothing is read inside a directive. -/
theorem readInside_of_unopened (vocabulary : Vocabulary) (head : Head) (encloses : Bool)
    (position : Nat) {rest : List Char} (unopened : ∀ inner, rest ≠ '(' :: inner) :
    readInside vocabulary head encloses ⟨position, rest⟩ =
      .complete none ⟨position, rest⟩ (Nat.le_refl _) := by
  cases rest with
  | nil => rfl
  | cons first inner =>
      have different : first ≠ '(' := fun same => unopened inner (by rw [same])
      unfold readInside
      simp

theorem finishInside_readInside (head : Head) (builder : Builder) (behind : Cursor) :
    registry.finishInside context
        (readInside registry.vocabulary head builder.encloses behind) =
      registry.compileInside context head builder behind := by
  rcases behind with ⟨position, rest⟩
  by_cases opening : ∃ inner, rest = '(' :: inner
  · rcases opening with ⟨inner, rfl⟩
    simp only [readInside, compileInside, compileUntil_eq_finish]
    cases builder.encloses with
    | false => rfl
    | true =>
        simp only [if_true]
        cases readItems registry.vocabulary (some ')') ⟨position + 1, inner⟩ with
        | complete items cursor within =>
            rcases cursor with ⟨ended, behind⟩
            cases behind <;> dsimp only [finish, finishInside] <;>
              cases buildAll registry context items <;> rfl
        | broken items fault cursor =>
            dsimp only [finish, finishInside]
            cases buildAll registry context items <;> rfl
  · have unopened (inner : List Char) : rest ≠ '(' :: inner := fun same =>
      opening ⟨inner, same⟩
    rw [readInside_of_unopened _ _ _ _ unopened]
    unfold compileInside
    split
    next inner same => exact absurd same (unopened inner)
    next => rfl

/-- Building what a directive encloses fails as a whole or gives the enclosed pattern. -/
theorem finishInside_complete (inside : Option (List Item)) (behind : Cursor) {bound : Nat}
    (within : behind.rest.length ≤ bound) :
    (∃ failure, registry.finishInside context (.complete inside behind within) = .error failure ∧
      buildAll registry context (inside.getD []) = .error failure ∧
      ∀ head parameters ended,
        (Item.directive head inside parameters ended).build registry context =
          .error failure) ∨
    ∃ compiled units,
      registry.finishInside context (.complete inside behind within) = .ok (compiled, behind) ∧
      buildAll registry context (inside.getD []) = .ok units ∧
      ∀ head parameters ended,
        (Item.directive head inside parameters ended).build registry context =
          buildDirective registry context ⟨head, parameters, compiled⟩ ended := by
  cases inside with
  | none => exact .inr ⟨none, [], rfl, rfl, fun _ _ _ => by rw [Item.build]⟩
  | some items =>
      cases built : buildAll registry context items with
      | error failure =>
          refine .inl ⟨failure, ?_, built, fun _ _ _ => ?_⟩
          · simp only [finishInside, built]
          · simp only [Item.build, built]
      | ok units =>
          refine .inr ⟨some ⟨units⟩, units, ?_, built, fun _ _ _ => ?_⟩
          · simp only [finishInside, built]
          · simp only [Item.build, built]

/-- A directive with a known word is built by the builder of that word. -/
theorem buildDirective_of_resolved {head : Head} {builder : Builder}
    (resolved : registry.resolve? head.word = some builder) (inside : Option Compiled)
    (parameters : List String) (ended : Nat) :
    buildDirective registry context ⟨head, parameters, inside⟩ ended =
      (builder.instantiate ⟨head, parameters, inside⟩ context).mapError fun bad =>
        ⟨.badParameter bad, ended⟩ := by
  simp only [buildDirective, Registry.create, Spec.word, resolved]
  cases builder.instantiate ⟨head, parameters, inside⟩ context <;> rfl

/-- The tail of a directive is broken if its list of parameters is not closed. -/
theorem readTail_error {head : Head} {inside : Option (List Item)} {cursor behind : Cursor}
    {fault : Fault} (read : readTail head inside cursor = (.error fault, behind)) :
    (readParameters cursor).closed = false ∧
      fault = .unterminated head.word head.position ∧
      behind = (readParameters cursor).cursor := by
  unfold readTail at read
  dsimp only at read
  split at read
  next => cases read
  next unclosed =>
    cases read
    exact ⟨Bool.eq_false_iff.mpr unclosed, rfl, rfl⟩

theorem readTail_ok {head : Head} {inside : Option (List Item)} {cursor behind : Cursor}
    {item : Item} (read : readTail head inside cursor = (.ok item, behind)) :
    (readParameters cursor).closed = true ∧
      item = .directive head inside (readParameters cursor).parameters
        (readParameters cursor).cursor.position ∧
      behind = (readParameters cursor).cursor := by
  unfold readTail at read
  dsimp only at read
  split at read
  next closed =>
    cases read
    exact ⟨closed, rfl, rfl⟩
  next => cases read

theorem resolve?_eq_none_of_vocabulary {word : String}
    (unknown : registry.vocabulary word = none) : registry.resolve? word = none :=
  Option.map_eq_none_iff.mp unknown

theorem exists_builder_of_vocabulary {word : String} {encloses : Bool}
    (known : registry.vocabulary word = some encloses) :
    ∃ builder, registry.resolve? word = some builder ∧ builder.encloses = encloses :=
  Option.map_eq_some_iff.mp known

/-! ## Behind an enclosed pattern -/

/-- What a text comes to from behind the pattern that a directive encloses, with a literal
text in front of the directive. -/
def compileBehind (closing : Option Char) (text : List Char) (head : Head) (builder : Builder)
    (inside : Except Failure (Option Compiled × Cursor)) :
    Except Failure (Compiled × Cursor) :=
  (inside.bind fun inside => builder.compileTail context head inside.1 inside.2).bind
    fun directive => (Compiled.ofLiteral text ++ .single directive.1).inFrontOf
      (registry.compileUntil context closing directive.2)

section Tails

variable (closing : Option Char) (text : List Char) {head : Head} {builder : Builder}
  {cursor : Cursor} {fault : Fault} {wide bound : Nat}

/-- A fault inside a directive comes behind those of the items in front of it. -/
theorem finish_brokenInside (items : List Item) :
    registry.finish context
        (.broken (literalItems text ++ items) fault cursor : Reading (List Item) wide) =
      registry.compileBehind context closing text head builder
        (registry.finishInside context
          (.broken items fault cursor : Reading (Option (List Item)) bound)) := by
  simp only [finish, finishInside, buildAll_append, buildAll_literalItems, compileBehind]
  cases buildAll registry context items <;> rfl

variable {inside : Option (List Item)} {ahead : Cursor}
  (within : ahead.rest.length ≤ bound)

/-- A list of parameters that is not closed is reported unless something in front of it
cannot be built. -/
theorem finish_brokenTail (tailRead : readTail head inside ahead = (.error fault, cursor)) :
    registry.finish context (.broken (literalItems text ++ inside.getD []) fault cursor :
        Reading (List Item) wide) =
      registry.compileBehind context closing text head builder
        (registry.finishInside context (.complete inside ahead within)) := by
  rcases readTail_error tailRead with ⟨unclosed, rfl, rfl⟩
  unfold compileBehind
  rcases finishInside_complete registry context inside ahead within with
    ⟨failure, failed, itemsFailed, -⟩ | ⟨compiled, units, done, itemsBuilt, -⟩
  · simp only [failed, finish, buildAll_append, buildAll_literalItems, itemsFailed, Except.bind]
  · simp only [done, Builder.compileTail, unclosed, finish, buildAll_append,
      buildAll_literalItems, itemsBuilt, Bool.false_eq_true, if_false, Except.bind]

theorem finish_tail (resolved : registry.resolve? head.word = some builder) {item : Item}
    (tailRead : readTail head inside ahead = (.ok item, cursor)) :
    registry.finish context ((readItems registry.vocabulary closing cursor).prepend
        (literalItems text ++ [item])) =
      registry.compileBehind context closing text head builder
        (registry.finishInside context (.complete inside ahead within)) := by
  rcases readTail_ok tailRead with ⟨closed, rfl, rfl⟩
  unfold compileBehind
  rcases finishInside_complete registry context inside ahead within with
    ⟨failure, failed, -, itemFailed⟩ | ⟨compiled, units, done, -, itemBuilt⟩
  · rw [failed]
    refine finish_prepend_error registry context ?_ _
    simp only [buildAll_append, buildAll_literalItems, buildAll, itemFailed]
  · simp only [done, Builder.compileTail, closed, if_true, Except.bind]
    cases built : builder.instantiate
      ⟨head, (readParameters ahead).parameters, compiled⟩ context with
    | error bad =>
        refine finish_prepend_error registry context ?_ _
        simp only [buildAll_append, buildAll_literalItems, buildAll, itemBuilt,
          buildDirective_of_resolved registry context resolved, built, mapError_error]
    | ok unit =>
        simp only [compileUntil_eq_finish]
        refine finish_prepend registry context ?_ _
        simp only [buildAll_append, buildAll_literalItems, buildAll, itemBuilt,
          buildDirective_of_resolved registry context resolved, built, mapError_ok]
        rfl

end Tails

end Building

theorem compileUntil_eq (registry : Registry) (context : Context) (closing : Option Char)
    (cursor : Cursor) :
    registry.compileUntil context closing cursor =
      match (cursor.takeUntil (stops closing)).2.rest with
      | '%' :: '%' :: rest =>
          (Compiled.ofLiteral (cursor.takeUntil (stops closing)).1 ++
            .single fun _ => "%").inFrontOf
            (registry.compileUntil context closing
              ⟨(cursor.takeUntil (stops closing)).2.position + 2, rest⟩)
      | '%' :: rest =>
          (registry.compileDirective context (cursor.takeUntil (stops closing)).2.position
            ⟨(cursor.takeUntil (stops closing)).2.position + 1, rest⟩).bind fun directive =>
              (Compiled.ofLiteral (cursor.takeUntil (stops closing)).1 ++
                .single directive.1).inFrontOf
                (registry.compileUntil context closing directive.2)
      | _ =>
          .ok (.ofLiteral (cursor.takeUntil (stops closing)).1,
            (cursor.takeUntil (stops closing)).2) := by
  rw [compileUntil_eq_finish, readItems]
  have lead := buildAll_literalItems registry context
    (cursor.takeUntil (stops closing)).1
  dsimp only
  split
  next rest here =>
    have built : buildAll registry context
        (literalItems (cursor.takeUntil (stops closing)).1 ++ [.percent]) =
        .ok (Compiled.ofLiteral (cursor.takeUntil (stops closing)).1 ++
          .single fun _ => "%").units := by
      rw [buildAll_append, lead]
      rfl
    refine (finish_widen registry context _ _).trans ?_
    simp only [here]
    refine (finish_prepend registry context built _).trans ?_
    rw [compileUntil_eq_finish]
  next rest distinct here =>
    simp only [here, compileDirective]
    split
    next fault behind headRead =>
      simp only [finish, lead, headRead, Except.bind]
    next head behind headRead =>
      simp only [headRead]
      split
      next unknown =>
        simp only [finish, lead, resolve?_eq_none_of_vocabulary registry unknown,
          Except.bind]
      next encloses known =>
        rcases exists_builder_of_vocabulary registry known with ⟨builder, resolved, rfl⟩
        simp only [resolved]
        split
        next items fault stopped insideRead =>
          rw [← finishInside_readInside]
          have inside := congrArg (registry.compileBehind context closing
            (cursor.takeUntil (stops closing)).1 head builder)
            (congrArg (registry.finishInside context) insideRead).symm
          exact (finish_brokenInside registry context closing _ items).trans inside
        next items ahead within insideRead =>
          rw [← finishInside_readInside]
          have inside := congrArg (registry.compileBehind context closing
            (cursor.takeUntil (stops closing)).1 head builder)
            (congrArg (registry.finishInside context) insideRead).symm
          split
          next fault stopped tailRead =>
            exact (finish_brokenTail registry context closing _ within tailRead).trans inside
          next item ahead' tailRead =>
            refine (finish_widen registry context _ _).trans ?_
            exact (finish_tail registry context closing _ within resolved tailRead).trans inside
  next distinct single =>
    simp only [finish, lead]

end Registry
end LogLayout.Pattern
