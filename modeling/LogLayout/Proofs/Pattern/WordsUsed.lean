import LogLayout.Proofs.Pattern.Naming
import LogLayout.Proofs.Pattern.Reaching
import LogLayout.Proofs.Pattern.Undecorating

namespace LogLayout.Pattern

/-!
# The words that a pattern uses

The words of a pattern are those of its directives, at any depth.  They are told as they are
written, or as the registry understands them, so that an alias counts as its word.

The directives of the tree are those that are reached on the way through the text.  So the word
of a directive that is reached and compiled is a word of the pattern.
-/

def Item.word? : Item → Option String
  | .directive head _ _ _ => some head.word
  | _ => none

/-- The words of some items as they are written, at any depth. -/
def wordsOf (items : List Item) : List String := (directivesOf items).filterMap Item.word?

/-- The words that some items use, at any depth, with aliases as the words they stand for. -/
def usedWords (registry : Registry) (items : List Item) : List String :=
  (wordsOf items).map registry.canonical

theorem eq_or_mem_aliasesOf {registry : Registry} {name word : String}
    (named : registry.canonical name = word) : name = word ∨ name ∈ registry.aliasesOf word := by
  rw [Registry.mem_aliasesOf_iff]
  unfold Registry.canonical at named
  cases pointing : registry.aliases.get? name with
  | none =>
      rw [pointing] at named
      exact .inl named
  | some other =>
      rw [pointing] at named
      exact .inr (congrArg some named)

section Trees

variable {registry : Registry} {item : Item} {items rest : List Item} {head : Head}
  {inside : Option (List Item)} {parameters : List String} {finish : Nat}

theorem directivesOf_append (first second : List Item) :
    directivesOf (first ++ second) = directivesOf first ++ directivesOf second := by
  induction first with
  | nil => rfl
  | cons item rest inductionHypothesis =>
      simp only [List.cons_append, directivesOf, inductionHypothesis, List.append_assoc]

theorem wordsOf_append (first second : List Item) :
    wordsOf (first ++ second) = wordsOf first ++ wordsOf second := by
  rw [wordsOf, directivesOf_append, List.filterMap_append]
  rfl

theorem wordsOf_directive :
    wordsOf [.directive head inside parameters finish] =
      head.word :: wordsOf (inside.getD []) := by
  simp only [wordsOf, directivesOf, List.append_nil, directives_directive, List.filterMap_cons,
    Item.word?]

theorem usedWords_cons :
    usedWords registry (item :: rest) = usedWords registry [item] ++ usedWords registry rest := by
  rw [usedWords, ← List.singleton_append, wordsOf_append, List.map_append]
  rfl

theorem usedWords_directive :
    usedWords registry [.directive head inside parameters finish] =
      registry.canonical head.word :: usedWords registry (inside.getD []) := by
  rw [usedWords, wordsOf_directive]
  rfl

theorem wordsOf_literalItems (text : List Char) : wordsOf (literalItems text) = [] := by
  unfold literalItems
  split <;> rfl

end Trees

/-! ## The items of a text, one piece at a time -/

section Reading

variable (vocabulary : Vocabulary) (closing : Option Char)

@[simp] theorem Reading.items_widen {bound wider : Nat} (wide : bound ≤ wider)
    (reading : Reading (List Item) bound) : (reading.widen wide).items = reading.items := by
  cases reading <;> rfl

@[simp] theorem Reading.items_prepend {bound : Nat} (earlier : List Item)
    (reading : Reading (List Item) bound) :
    (reading.prepend earlier).items = earlier ++ reading.items := by
  cases reading <;> rfl

/-- The items of a text from a place on at which literal text ends. -/
def itemsFrom (cursor : Cursor) : List Item :=
  match cursor.rest with
  | '%' :: '%' :: rest =>
      .percent :: (readItems vocabulary closing ⟨cursor.position + 2, rest⟩).items
  | '%' :: rest =>
      match readHead cursor.position ⟨cursor.position + 1, rest⟩ with
      | (.error _, _) => []
      | (.ok head, behind) =>
          match vocabulary head.word with
          | none => []
          | some encloses =>
              match Registry.readInside vocabulary head encloses behind with
              | .broken items _ _ => items
              | .complete inside ahead _ =>
                  match readTail head inside ahead with
                  | (.error _, _) => inside.getD []
                  | (.ok item, ahead) => item :: (readItems vocabulary closing ahead).items
  | _ => []

theorem items_readItems (cursor : Cursor) :
    (readItems vocabulary closing cursor).items =
      literalItems (cursor.takeUntil (stops closing)).1 ++
        itemsFrom vocabulary closing (cursor.takeUntil (stops closing)).2 := by
  rw [readItems, itemsFrom]
  dsimp only
  split
  next rest here =>
    simp only [here, Reading.items_widen, Reading.items_prepend, List.append_assoc,
      List.singleton_append]
  next rest distinct here =>
    simp only [here]
    split
    next fault behind headRead => simp only [headRead, Reading.items, List.append_nil]
    next head behind headRead =>
      simp only [headRead]
      cases vocabulary head.word with
      | none => simp only [Reading.items, List.append_nil]
      | some encloses =>
          dsimp only
          split
          next items fault stopped insideRead =>
            rw [show Registry.readInside vocabulary head encloses behind =
              .broken items fault stopped from insideRead]
            rfl
          next inside ahead within insideRead =>
            rw [show Registry.readInside vocabulary head encloses behind =
              .complete inside ahead within from insideRead]
            dsimp only
            split
            next fault stopped tailRead =>
              rw [tailRead]
              rfl
            next item ahead' tailRead =>
              simp only [tailRead, Reading.items_widen, Reading.items_prepend, List.append_assoc,
                List.singleton_append]
  next distinct single =>
    have ended : itemsFrom vocabulary closing (cursor.takeUntil (stops closing)).2 = [] := by
      unfold itemsFrom
      split
      next rest here => exact absurd here (distinct rest)
      next rest _ here => exact absurd here (single rest)
      next => rfl
    rw [← itemsFrom, ended, List.append_nil]
    rfl

end Reading

/-! ## The words of a text from a place on -/

def Registry.wordsAt (registry : Registry) (closing : Option Char) (cursor : Cursor) :
    List String :=
  wordsOf (readItems registry.vocabulary closing cursor).items

section Places

variable {registry : Registry} {context : Context} {closing : Option Char} {position : Nat}

theorem wordsAt_eq (cursor : Cursor) :
    registry.wordsAt closing cursor =
      wordsOf (itemsFrom registry.vocabulary closing (cursor.takeUntil (stops closing)).2) := by
  rw [Registry.wordsAt, items_readItems, wordsOf_append, wordsOf_literalItems, List.nil_append]

theorem wordsAt_literal {text following : List Char}
    (plain : ∀ character ∈ text, character ∉ stops closing)
    (maximal : ∀ character ∈ following.head?, character ∈ stops closing) :
    registry.wordsAt closing ⟨position, text ++ following⟩ =
      registry.wordsAt closing ⟨position + text.length, following⟩ := by
  rw [wordsAt_eq, wordsAt_eq, Cursor.takeUntil_append plain maximal,
    Registry.takeUntil_of_head? maximal]

theorem wordsAt_sign (rest : List Char) :
    registry.wordsAt closing ⟨position, '%' :: rest⟩ =
      wordsOf (itemsFrom registry.vocabulary closing ⟨position, '%' :: rest⟩) := by
  rw [wordsAt_eq, Registry.takeUntil_of_head? fun character first => by
    cases first
    exact List.mem_cons_self]

theorem wordsAt_percent (following : List Char) :
    registry.wordsAt closing ⟨position, '%' :: '%' :: following⟩ =
      registry.wordsAt closing ⟨position + 2, following⟩ := by
  rw [wordsAt_sign]
  rfl

theorem itemsFrom_directive {rest : List Char} {head : Head} {behind : Cursor}
    {builder : Builder} (distinct : rest.head? ≠ some '%')
    (read : readHead position ⟨position + 1, rest⟩ = (.ok head, behind))
    (resolved : registry.resolve? head.word = some builder) :
    itemsFrom registry.vocabulary closing ⟨position, '%' :: rest⟩ =
      match Registry.readInside registry.vocabulary head builder.encloses behind with
      | .broken items _ _ => items
      | .complete inside ahead _ =>
          match readTail head inside ahead with
          | (.error _, _) => inside.getD []
          | (.ok item, ahead) => item :: (readItems registry.vocabulary closing ahead).items := by
  have known : registry.vocabulary head.word = some builder.encloses := by
    rw [Registry.vocabulary, resolved]
    rfl
  unfold itemsFrom
  split
  next following same =>
    cases same
    exact absurd rfl distinct
  next following _ same =>
    cases same
    simp only [read, known]
  next other => exact absurd rfl (other rest)

/-- What is compiled inside a directive is read completely, up to the same place. -/
theorem exists_readInside_of_compileInside {head : Head} {builder : Builder}
    {cursor behind : Cursor} {compiled : Option Compiled}
    (done : registry.compileInside context head builder cursor = .ok (compiled, behind)) :
    ∃ inside within, Registry.readInside registry.vocabulary head builder.encloses cursor =
      .complete inside behind within := by
  rw [← Registry.finishInside_readInside] at done
  cases read : Registry.readInside registry.vocabulary head builder.encloses cursor with
  | broken items fault stopped =>
      rw [read, Registry.finishInside] at done
      cases built : buildAll registry context items <;> rw [built] at done <;> cases done
  | complete inside ended within =>
      rw [read] at done
      rcases Registry.finishInside_complete registry context inside ended within with
        ⟨failure, failed, -⟩ | ⟨whole, units, same, -⟩
      · rw [done] at failed
        cases failed
      · rw [done] at same
        cases same
        exact ⟨inside, within, rfl⟩

/-- The tail of a directive that is compiled is read, up to the same place. -/
theorem exists_readTail_of_compileTail {builder : Builder} {head : Head}
    {compiled : Option Compiled} {cursor behind : Cursor} {unit : Renderer}
    (done : builder.compileTail context head compiled cursor = .ok (unit, behind))
    (inside : Option (List Item)) :
    ∃ parameters finish,
      readTail head inside cursor = (.ok (.directive head inside parameters finish), behind) := by
  unfold Builder.compileTail at done
  cases closed : (readParameters cursor).closed with
  | false =>
      simp only [closed] at done
      cases done
  | true =>
      simp only [closed, if_true] at done
      cases built : builder.instantiate ⟨head, (readParameters cursor).parameters, compiled⟩
        context with
      | error bad =>
          rw [built] at done
          cases done
      | ok made =>
          rw [built] at done
          cases done
          refine ⟨(readParameters cursor).parameters, (readParameters cursor).cursor.position, ?_⟩
          simp only [readTail, closed, if_true]

/-- A directive that is compiled has its own word, then the words of what it encloses and then
those of the text behind it. -/
theorem exists_wordsAt_directive {rest : List Char} {unit : Renderer} {behind : Cursor}
    (distinct : rest.head? ≠ some '%')
    (done : registry.compileDirective context position ⟨position + 1, rest⟩ =
      .ok (unit, behind)) :
    ∃ head inner, (readHead position ⟨position + 1, rest⟩).1 = .ok head ∧
      registry.wordsAt closing ⟨position, '%' :: rest⟩ =
        head.word :: (inner ++ registry.wordsAt closing behind) := by
  unfold Registry.compileDirective at done
  rcases headRead : readHead position ⟨position + 1, rest⟩ with ⟨fault | head, ahead⟩
  · rw [headRead] at done
    cases done
  · rw [headRead] at done
    cases resolved : registry.resolve? head.word with
    | none =>
        simp only [resolved] at done
        cases done
    | some builder =>
        simp only [resolved] at done
        rcases exists_of_bind done with ⟨⟨compiled, inner⟩, insideDone, tailDone⟩
        rcases exists_readInside_of_compileInside insideDone with ⟨inside, within, insideRead⟩
        rcases exists_readTail_of_compileTail tailDone inside with ⟨parameters, finish, tailRead⟩
        refine ⟨head, wordsOf (inside.getD []), rfl, ?_⟩
        rw [wordsAt_sign, itemsFrom_directive distinct headRead resolved, insideRead]
        dsimp only
        rw [tailRead]
        dsimp only
        rw [← List.singleton_append, wordsOf_append, wordsOf_directive]
        rfl

/-- The words of an enclosed pattern are words of the text that it stands in. -/
theorem wordsAt_enter {head : HeadText} {builder : Builder} {inner : List Char}
    (inRange : InRange head.lengths) (resolved : registry.resolve? head.name = some builder)
    (encloses : builder.encloses = true) :
    registry.wordsAt (some ')') ⟨position + 1 + head.chars.length + 1, inner⟩ ⊆
      registry.wordsAt closing ⟨position, '%' :: (head.chars ++ '(' :: inner)⟩ := by
  have read : readHead position ⟨position + 1, head.chars ++ '(' :: inner⟩ = _ :=
    head.readHead_append inRange (fun character first => by cases first; decide) position _
  rw [wordsAt_sign, itemsFrom_directive (head.head?_ne_percent _) read resolved, encloses,
    Registry.wordsAt]
  simp only [Registry.readInside, if_true]
  cases readItems registry.vocabulary (some ')')
      ⟨position + 1 + head.chars.length + 1, inner⟩ with
  | broken items fault stopped => exact List.Subset.refl _
  | complete items stopped within =>
      rcases stopped with ⟨place, rest⟩
      cases rest with
      | nil => exact List.Subset.refl _
      | cons closer others =>
          dsimp only [Reading.items]
          rcases tailRead : readTail (head.head position) (some items)
            ((⟨place, closer :: others⟩ : Cursor).forward 1) with ⟨fault | item, ahead⟩
          · exact List.Subset.refl _
          · rcases Registry.readTail_ok tailRead with ⟨-, rfl, -⟩
            dsimp only
            rw [← List.singleton_append, wordsOf_append, wordsOf_directive]
            exact List.Subset.trans (List.subset_cons_self _ _) (List.subset_append_left _ _)

/-- The words of a text from a place that is reached are words of the whole text. -/
theorem Reaches.wordsAt_subset {ending : Option Char} {cursor place : Cursor}
    {opened : List Nat}
    (reaches : Reaches registry context closing cursor opened ending place) :
    registry.wordsAt ending place ⊆ registry.wordsAt closing cursor := by
  induction reaches with
  | here => exact List.Subset.refl _
  | literal plain maximal rest inductionHypothesis =>
      rw [wordsAt_literal plain maximal]
      exact inductionHypothesis
  | percent rest inductionHypothesis =>
      rw [wordsAt_percent]
      exact inductionHypothesis
  | @directive closing ending position following opened place head inside parameters builder
        unit completes rest inductionHypothesis =>
      rw [directiveChars_append]
      rcases exists_wordsAt_directive (head.head?_ne_percent _) completes.compileDirective with
        ⟨_, inner, -, words⟩
      rw [words]
      exact List.Subset.trans inductionHypothesis
        (List.subset_cons_of_subset _ (List.subset_append_right _ _))
  | enter inRange resolved encloses rest inductionHypothesis =>
      exact List.Subset.trans inductionHypothesis (wordsAt_enter inRange resolved encloses)

/-- The word of a directive that is reached and compiled is a word of the whole text. -/
theorem OpensAt.mem_wordsAt {cursor behind : Cursor} {opened : List Nat} {rest : List Char}
    {unit : Renderer} {head : Head}
    (opens : OpensAt registry context closing cursor opened position rest)
    (done : registry.compileDirective context position ⟨position + 1, rest⟩ =
      .ok (unit, behind))
    (read : (readHead position ⟨position + 1, rest⟩).1 = .ok head) :
    head.word ∈ registry.wordsAt closing cursor := by
  rcases opens with ⟨⟨ending, reached⟩, single⟩
  rcases exists_wordsAt_directive single done with ⟨head', inner, read', words⟩
  cases read.symm.trans read'
  refine reached.wordsAt_subset ?_
  rw [words]
  exact List.mem_cons_self

end Places

end LogLayout.Pattern
