import LogLayout.Proofs.Pattern.Steps

namespace LogLayout.Pattern

/-!
# The tree of a pattern

Reading a pattern gives a tree of items, which does not depend on what the words build.  What
is said about "every directive of a pattern, at any depth" is said about this tree.

Reading invents nothing: the literal texts and the parameters of the tree are made of characters
of the pattern.
-/

/-! ## What a tree holds -/

mutual

def Item.directives : Item → List Item
  | .literal _ => []
  | .percent => []
  | .directive head none parameters finish => [.directive head none parameters finish]
  | .directive head (some items) parameters finish =>
      .directive head (some items) parameters finish :: directivesOf items

/-- The directives of items in a row, at any depth. -/
def directivesOf : List Item → List Item
  | [] => []
  | item :: rest => item.directives ++ directivesOf rest

end

mutual

/-- The texts of an item: literal text and parameters, at any depth. -/
def Item.texts : Item → List String
  | .literal text => [text]
  | .percent => []
  | .directive _ none parameters _ => parameters
  | .directive _ (some items) parameters _ => textsOf items ++ parameters

def textsOf : List Item → List String
  | [] => []
  | item :: rest => item.texts ++ textsOf rest

end

theorem textsOf_append (first second : List Item) :
    textsOf (first ++ second) = textsOf first ++ textsOf second := by
  induction first with
  | nil => rfl
  | cons item rest inductionHypothesis =>
      simp only [List.cons_append, textsOf, inductionHypothesis, List.append_assoc]

theorem texts_directive (head : Head) (inside : Option (List Item)) (parameters : List String)
    (finish : Nat) :
    (Item.directive head inside parameters finish).texts =
      textsOf (inside.getD []) ++ parameters := by
  cases inside <;> simp [Item.texts, textsOf]

theorem directives_directive {head : Head} {inside : Option (List Item)}
    {parameters : List String} {finish : Nat} :
    (Item.directive head inside parameters finish).directives =
      .directive head inside parameters finish :: directivesOf (inside.getD []) := by
  cases inside <;> rfl

mutual

theorem directives_subset (item : Item) :
    ∀ directive ∈ item.directives, directive.directives ⊆ item.directives := by
  intro directive listed
  cases item with
  | literal text => cases listed
  | percent => cases listed
  | directive head inside parameters finish =>
      rw [directives_directive] at listed ⊢
      rcases List.mem_cons.mp listed with rfl | deeper
      · rw [directives_directive]
        exact List.Subset.refl _
      · cases inside with
        | none => cases deeper
        | some items =>
            exact List.subset_cons_of_subset _ (directivesOf_subset items directive deeper)

/-- What a directive of items in a row encloses belongs to the items. -/
theorem directivesOf_subset (items : List Item) :
    ∀ directive ∈ directivesOf items, directive.directives ⊆ directivesOf items := by
  intro directive listed
  cases items with
  | nil => cases listed
  | cons item rest =>
      rcases List.mem_append.mp listed with here | later
      · exact List.Subset.trans (directives_subset item directive here)
          (List.subset_append_left _ _)
      · exact List.Subset.trans (directivesOf_subset rest directive later)
          (List.subset_append_right _ _)

end

/-! ## Texts are read -/

/-- The texts of some items are made of some characters. -/
def WrittenWith (chars : List Char) (items : List Item) : Prop :=
  ∀ text ∈ textsOf items, text.toList ⊆ chars

namespace WrittenWith

variable {chars more : List Char} {first second : List Item}

theorem nil : WrittenWith chars [] := fun _ member => absurd member List.not_mem_nil

theorem append (front : WrittenWith chars first) (behind : WrittenWith chars second) :
    WrittenWith chars (first ++ second) := by
  intro text member
  rw [textsOf_append, List.mem_append] at member
  exact member.elim (front text) (behind text)

theorem mono (written : WrittenWith chars first) (within : chars ⊆ more) :
    WrittenWith more first := fun text member => List.Subset.trans (written text member) within

/-- Literal text is made of its own characters. -/
theorem literalItems {text : List Char} (within : text ⊆ chars) :
    WrittenWith chars (Pattern.literalItems text) := by
  unfold Pattern.literalItems
  split
  · exact nil
  · intro other member
    have same : other = String.ofList text := by
      simpa [textsOf, Item.texts] using member
    rw [same, String.toList_ofList]
    exact within

theorem percent : WrittenWith chars [.percent] := fun _ member => by
  simp [textsOf, Item.texts] at member

theorem directive {head : Head} {inside : Option (List Item)} {parameters : List String}
    {finish : Nat} (enclosed : WrittenWith chars (inside.getD []))
    (listed : ∀ parameter ∈ parameters, parameter.toList ⊆ chars) :
    WrittenWith chars [.directive head inside parameters finish] := by
  intro text member
  rw [textsOf, textsOf, List.append_nil, texts_directive, List.mem_append] at member
  exact member.elim (enclosed text) (listed text)

end WrittenWith

/-- The items of a reading are made of some characters, and so is the rest behind them. -/
def Reading.MadeOf {bound : Nat} (chars : List Char) : Reading (List Item) bound → Prop
  | .complete items behind _ => WrittenWith chars items ∧ behind.rest ⊆ chars
  | .broken items _ _ => WrittenWith chars items

/-- The same for an enclosed pattern, of which there may be none. -/
def Reading.InsideMadeOf {bound : Nat} (chars : List Char) :
    Reading (Option (List Item)) bound → Prop
  | .complete items behind _ => WrittenWith chars (items.getD []) ∧ behind.rest ⊆ chars
  | .broken items _ _ => WrittenWith chars items

namespace Reading

variable {bound wider : Nat} {chars : List Char}

theorem MadeOf.widen {reading : Reading (List Item) bound} (made : reading.MadeOf chars)
    (wide : bound ≤ wider) : (reading.widen wide).MadeOf chars := by
  cases reading <;> exact made

theorem MadeOf.prepend {reading : Reading (List Item) bound} (made : reading.MadeOf chars)
    {earlier : List Item} (front : WrittenWith chars earlier) :
    (reading.prepend earlier).MadeOf chars := by
  cases reading with
  | complete items behind within => exact ⟨front.append made.1, made.2⟩
  | broken items fault behind => exact front.append made

theorem MadeOf.mono {more : List Char} {reading : Reading (List Item) bound}
    (made : reading.MadeOf chars) (within : chars ⊆ more) : reading.MadeOf more := by
  cases reading with
  | complete items behind short =>
      exact ⟨made.1.mono within, List.Subset.trans made.2 within⟩
  | broken items fault behind => exact WrittenWith.mono made within

end Reading

/-! ## Reading -/

theorem toList_subset_parameterChars {list : Option ParameterListText} :
    ∀ parameter ∈ parameterValues list, parameter.toList ⊆ parameterChars list := by
  have single (parameter : ParameterText) : parameter.value.toList ⊆ parameter.chars := by
    intro character member
    cases parameter <;>
      simp_all [ParameterText.value, ParameterText.chars, String.toList_ofList]
  cases list with
  | none => exact fun _ member => absurd member List.not_mem_nil
  | some list =>
      intro parameter member character inside
      refine List.mem_cons_of_mem _ ?_
      rw [parameterValues, ParameterListText.values, List.mem_append, List.mem_map,
        List.mem_singleton] at member
      rw [ParameterListText.innerChars, List.mem_append, List.mem_append, List.mem_flatMap]
      rcases member with ⟨written, listed, rfl⟩ | rfl
      · exact .inl ⟨written, listed, List.mem_append_left _ (single written inside)⟩
      · exact .inr (.inl (single list.last inside))

theorem writtenWith_of_readTail {head : Head} {inside : Option (List Item)}
    {cursor behind : Cursor} {item : Item} {chars : List Char}
    (read : readTail head inside cursor = (.ok item, behind))
    (enclosed : WrittenWith chars (inside.getD [])) (within : cursor.rest ⊆ chars) :
    WrittenWith chars [item] ∧ behind.rest ⊆ chars := by
  rcases Registry.readTail_ok read with ⟨closed, rfl, rfl⟩
  rcases exists_list_of_readParameters closed with ⟨list, values, divided, -⟩
  rw [divided] at within
  rw [values]
  refine ⟨.directive enclosed fun parameter listed => ?_, ?_⟩
  · exact List.Subset.trans (toList_subset_parameterChars parameter listed)
      (List.Subset.trans (List.subset_append_left _ _) within)
  · exact List.Subset.trans (List.subset_append_right _ _) within

theorem rest_readHead_subset (position : Nat) (cursor : Cursor) :
    (readHead position cursor).2.rest ⊆ cursor.rest := by
  rcases readHead_cases position cursor with
    ⟨text, following, divided, -, read⟩ | ⟨least, greatest, following, divided, -, -, read⟩
  · rw [read, divided]
    exact List.subset_append_right _ _
  · rw [read, divided]
    exact List.Subset.trans (List.subset_append_right _ _) (List.subset_append_right _ _)

/-- Nothing is read inside a directive but characters of the text. -/
theorem insideMadeOf_readInside (vocabulary : Vocabulary) (head : Head) (encloses : Bool)
    (behind : Cursor)
    (shorter : ∀ inner : Cursor, inner.rest.length < behind.rest.length →
      (readItems vocabulary (some ')') inner).MadeOf inner.rest) :
    (Registry.readInside vocabulary head encloses behind).InsideMadeOf behind.rest := by
  rcases behind with ⟨position, rest⟩
  by_cases opening : ∃ inner, rest = '(' :: inner
  · rcases opening with ⟨inner, rfl⟩
    have made := shorter ⟨position + 1, inner⟩ (Nat.lt_succ_self _)
    have within : inner ⊆ '(' :: inner := List.subset_cons_self _ _
    simp only [Registry.readInside]
    cases encloses with
    | false => exact ⟨.nil, List.Subset.refl _⟩
    | true =>
        simp only [if_true]
        cases read : readItems vocabulary (some ')') ⟨position + 1, inner⟩ with
        | broken items fault cursor =>
            rw [read] at made
            exact made.mono within
        | complete items cursor short =>
            rw [read] at made
            rcases cursor with ⟨ended, others⟩
            cases others with
            | nil => exact made.1.mono within
            | cons closer others =>
                refine ⟨made.1.mono within, ?_⟩
                rw [Cursor.forward_one]
                exact List.Subset.trans (List.subset_cons_self _ _)
                  (List.Subset.trans made.2 within)
  · have unopened (inner : List Char) : rest ≠ '(' :: inner := fun same =>
      opening ⟨inner, same⟩
    rw [Registry.readInside_of_unopened _ _ _ _ unopened]
    exact ⟨.nil, List.Subset.refl _⟩

theorem madeOf_readItems (vocabulary : Vocabulary) (size : Nat) (closing : Option Char)
    (cursor : Cursor) (length : cursor.rest.length = size) :
    (readItems vocabulary closing cursor).MadeOf cursor.rest := by
  induction size using Nat.strongRecOn generalizing closing cursor with
  | ind size shorter =>
      subst length
      have divided : (cursor.takeUntil (stops closing)).1 ++
          (cursor.takeUntil (stops closing)).2.rest = cursor.rest :=
        Cursor.run_append_rest cursor _
      have front : WrittenWith cursor.rest (literalItems (cursor.takeUntil (stops closing)).1) :=
        .literalItems (by rw [← divided]; exact List.subset_append_left _ _)
      have back : (cursor.takeUntil (stops closing)).2.rest ⊆ cursor.rest := by
        rw [← divided]
        exact List.subset_append_right _ _
      rw [readItems]
      dsimp only
      split
      next rest here =>
        have later := shorter rest.length (by
          rw [← divided, here, List.length_append, List.length_cons, List.length_cons]
          omega) closing ⟨(cursor.takeUntil (stops closing)).2.position + 2, rest⟩ rfl
        have within : rest ⊆ cursor.rest := by
          rw [here] at back
          exact fun _ member => back (List.mem_cons_of_mem _ (List.mem_cons_of_mem _ member))
        exact ((later.mono within).prepend (front.append .percent)).widen _
      next rest distinct here =>
        have small : rest.length < cursor.rest.length := by
          rw [← divided, here, List.length_append, List.length_cons]
          omega
        have within : rest ⊆ cursor.rest := by
          rw [here] at back
          exact fun _ member => back (List.mem_cons_of_mem _ member)
        split
        next => exact front
        next head behind headRead =>
          have behindShort := length_readHead_le (cursor.takeUntil (stops closing)).2.position
            ⟨(cursor.takeUntil (stops closing)).2.position + 1, rest⟩
          have behindWithin := rest_readHead_subset (cursor.takeUntil (stops closing)).2.position
            ⟨(cursor.takeUntil (stops closing)).2.position + 1, rest⟩
          rw [headRead] at behindShort behindWithin
          dsimp only at behindShort behindWithin
          split
          next => exact front
          next encloses known =>
            have inside := insideMadeOf_readInside vocabulary head encloses behind
              fun inner short => shorter inner.rest.length (by omega) (some ')') inner rfl
            split
            next items fault stopped insideRead =>
              have enclosed : WrittenWith behind.rest items := by
                rwa [show Registry.readInside vocabulary head encloses behind =
                  .broken items fault stopped from insideRead] at inside
              exact front.append (enclosed.mono (List.Subset.trans behindWithin within))
            next items ahead short insideRead =>
              have enclosed :
                  WrittenWith behind.rest (items.getD []) ∧ ahead.rest ⊆ behind.rest := by
                rwa [show Registry.readInside vocabulary head encloses behind =
                  .complete items ahead short from insideRead] at inside
              have whole := List.Subset.trans behindWithin within
              split
              next => exact front.append (enclosed.1.mono whole)
              next item ahead' tailRead =>
                rcases writtenWith_of_readTail tailRead (enclosed.1.mono whole)
                  (List.Subset.trans enclosed.2 whole) with ⟨written, rest⟩
                have tailShort := length_readTail_le head items ahead
                rw [tailRead] at tailShort
                dsimp only at tailShort
                have later := shorter ahead'.rest.length (by omega) closing ahead' rfl
                exact ((later.mono rest).prepend (front.append written)).widen _
      next => exact ⟨front, back⟩

end LogLayout.Pattern
