import LogLayout.Pattern.Directive
import LogLayout.Proofs.Pattern.Scanning

namespace LogLayout.Pattern

/-!
# Parameters as they are written

A parameter stands between single quotes, with blanks on both sides of them, or it
is bare and then reaches to the next comma or closing brace.  A comma calls for
another parameter.  The list is closed by the first other character that ends a
parameter: by a closing brace behind a bare one, and by any character that is
neither blank nor a comma behind a quoted one.

The text of a list is read as the parameters that it writes, whatever follows, and
every list that is read as closed is written in this way.
-/

/-- A parameter as it is written. -/
inductive ParameterText where
  | quoted (before content after : List Char)
    (blankBefore : ∀ character ∈ before, Text.isBlank character = true)
    (unquoted : '\x27' ∉ content)
    (blankAfter : ∀ character ∈ after, Text.isBlank character = true)
  | bare (before content : List Char)
    (blankBefore : ∀ character ∈ before, Text.isBlank character = true)
    (plain : ∀ character ∈ content, character ∉ [',', '\x7d'])
    (opening : ∀ character ∈ content.head?,
      Text.isBlank character = false ∧ character ≠ '\x27')

namespace ParameterText

def chars : ParameterText → List Char
  | quoted before content after _ _ _ => before ++ '\x27' :: (content ++ '\x27' :: after)
  | bare before content _ _ _ => before ++ content

def value : ParameterText → String
  | quoted _ content _ _ _ _ => String.ofList content
  | bare _ content _ _ _ => String.ofList content

/-- Whether a character ends a parameter in front of it. -/
def EndedBy : ParameterText → Char → Prop
  | quoted .., ending => Text.isBlank ending = false
  | bare .., ending => ending ∈ [',', '\x7d']

theorem endedBy_comma (parameter : ParameterText) : parameter.EndedBy ',' := by
  cases parameter with
  | quoted => rfl
  | bare => exact List.mem_cons_self

end ParameterText

/-- What a character behind a parameter says about the list. -/
def endOf (ending : Char) : ParameterEnd := if ending = ',' then .comma else .closed

theorem endParameter_cons (position : Nat) (ending : Char) (following : List Char) :
    endParameter ⟨position, ending :: following⟩ =
      (endOf ending, ⟨position + 1, following⟩) := by
  unfold endParameter endOf
  split
  next impossible => cases impossible
  next here =>
    cases here
    rw [Cursor.forward_one]
    rfl
  next different here =>
    cases here
    rw [Cursor.forward_one, if_neg different]

theorem readParameter_quoted {before content after : List Char} {ending : Char}
    (blankBefore : ∀ character ∈ before, Text.isBlank character = true)
    (unquoted : '\x27' ∉ content)
    (blankAfter : ∀ character ∈ after, Text.isBlank character = true)
    (ended : Text.isBlank ending = false) (following : List Char) (position : Nat) :
    readParameter ⟨position, before ++ '\x27' :: (content ++ '\x27' ::
        (after ++ ending :: following))⟩ =
      (some (String.ofList content), endOf ending,
        ⟨position + before.length + 1 + content.length + 1 + after.length + 1, following⟩) := by
  have start : (⟨position, before ++ '\x27' :: (content ++ '\x27' ::
      (after ++ ending :: following))⟩ : Cursor).skipBlanks = ⟨position + before.length, _⟩ :=
    Cursor.skipBlanks_append blankBefore (fun character first => by cases first; decide)
      position
  have inside : (⟨position + before.length + 1, content ++ '\x27' ::
      (after ++ ending :: following)⟩ : Cursor).takeUntil ['\x27'] = (content, _) :=
    Cursor.takeUntil_append
      (fun character member => by
        rw [List.mem_singleton]
        exact fun same => unquoted (same ▸ member))
      (fun character first => by cases first; exact List.mem_singleton_self _) _
  have blanks : (⟨position + before.length + 1 + content.length + 1,
      after ++ ending :: following⟩ : Cursor).skipBlanks = ⟨_, ending :: following⟩ :=
    Cursor.skipBlanks_append blankAfter (fun character first => by cases first; exact ended) _
  unfold readParameter
  simp only [start, Cursor.forward_one, inside, blanks, endParameter_cons]

/-- A bare parameter is read as it is written, up to a comma or a closing brace. -/
theorem readParameter_bare {before content : List Char} {ending : Char}
    (blankBefore : ∀ character ∈ before, Text.isBlank character = true)
    (plain : ∀ character ∈ content, character ∉ [',', '\x7d'])
    (opening : ∀ character ∈ content.head?,
      Text.isBlank character = false ∧ character ≠ '\x27')
    (ended : ending ∈ [',', '\x7d']) (following : List Char) (position : Nat) :
    readParameter ⟨position, before ++ (content ++ ending :: following)⟩ =
      (some (String.ofList content), endOf ending,
        ⟨position + before.length + content.length + 1, following⟩) := by
  have first : ∀ character ∈ (content ++ ending :: following).head?,
      Text.isBlank character = false ∧ character ≠ '\x27' := by
    cases content with
    | nil =>
        intro character here
        cases here
        simp only [List.mem_cons, List.not_mem_nil, or_false] at ended
        rcases ended with rfl | rfl <;> decide
    | cons character rest => exact opening
  have start := Cursor.skipBlanks_append blankBefore
    (fun character here => (first character here).1) position
  have inside : (⟨position + before.length, content ++ ending :: following⟩ :
      Cursor).takeUntil [',', '\x7d'] = (content, _) :=
    Cursor.takeUntil_append plain (fun character here => by cases here; exact ended) _
  unfold readParameter
  simp only [start]
  split
  next rest quoted =>
    exact absurd rfl (first '\x27' (by rw [quoted]; rfl)).2
  next => simp only [inside, endParameter_cons]

/-- A parameter is read as it is written, up to a character that ends it. -/
theorem readParameter_append (parameter : ParameterText) {ending : Char}
    (ended : parameter.EndedBy ending) (following : List Char) (position : Nat) :
    readParameter ⟨position, parameter.chars ++ ending :: following⟩ =
      (some parameter.value, endOf ending,
        ⟨position + parameter.chars.length + 1, following⟩) := by
  cases parameter with
  | quoted before content after blankBefore unquoted blankAfter =>
      have read := readParameter_quoted blankBefore unquoted blankAfter ended following position
      simp only [ParameterText.chars, ParameterText.value, List.append_assoc, List.cons_append,
        List.length_append, List.length_cons, read]
      congr 4
      omega
  | bare before content blankBefore plain opening =>
      have read := readParameter_bare blankBefore plain opening ended following position
      simp only [ParameterText.chars, ParameterText.value, List.append_assoc, List.length_append,
        read, Nat.add_assoc]

/-- What ends a parameter is one character, unless the text ends. -/
theorem endParameter_divides {cursor behind : Cursor} {ended : ParameterEnd}
    (read : endParameter cursor = (ended, behind)) (going : ended ≠ .missing) :
    ∃ ending, ended = endOf ending ∧ cursor.rest = ending :: behind.rest ∧
      behind.position = cursor.position + 1 := by
  rcases cursor with ⟨position, rest⟩
  cases rest with
  | nil =>
      cases read
      exact absurd rfl going
  | cons ending following =>
      rw [endParameter_cons] at read
      cases read
      exact ⟨ending, rfl, rfl, rfl⟩

theorem skipBlanks_divides (cursor : Cursor) :
    ∃ blanks following, cursor.rest = blanks ++ following ∧
      cursor.skipBlanks = ⟨cursor.position + blanks.length, following⟩ ∧
      (∀ character ∈ blanks, Text.isBlank character = true) ∧
      ∀ character ∈ following.head?, Text.isBlank character = false :=
  ⟨cursor.run Text.isBlank, (cursor.behindRun Text.isBlank).rest,
    (cursor.run_append_rest _).symm, rfl, fun _ member => Cursor.mem_run member,
    cursor.head?_behindRun _⟩

/-- Behind an opening quote the parameter that is read is written as a quoted one. -/
theorem exists_quoted_of_readParameter {cursor behind : Cursor} {value : Option String}
    {ended : ParameterEnd} {before rest : List Char}
    (text : cursor.rest = before ++ '\x27' :: rest)
    (blankBefore : ∀ character ∈ before, Text.isBlank character = true)
    (read : readParameter cursor = (value, ended, behind)) (going : ended ≠ .missing) :
    ∃ parameter : ParameterText, ∃ ending, parameter.EndedBy ending ∧
      value = some parameter.value ∧ ended = endOf ending ∧
      cursor.rest = parameter.chars ++ ending :: behind.rest ∧
      behind.position = cursor.position + parameter.chars.length + 1 := by
  rcases cursor with ⟨position, _⟩
  subst text
  have skipped : (⟨position, before ++ '\x27' :: rest⟩ : Cursor).skipBlanks = _ :=
    Cursor.skipBlanks_append blankBefore (fun character first => by cases first; decide) position
  rcases Cursor.takeUntil_divides ⟨position + before.length + 1, rest⟩ ['\x27'] with
    ⟨content, quoted, rfl, taken, plain, quote⟩
  unfold readParameter at read
  simp only [skipped, Cursor.forward_one, taken] at read
  cases quoted with
  | nil =>
      cases read
      exact absurd rfl going
  | cons closing outside =>
      have isQuote : closing = '\x27' := List.mem_singleton.mp (quote closing rfl)
      subst isQuote
      rcases skipBlanks_divides
          ⟨position + before.length + 1 + content.length + 1, outside⟩ with
        ⟨after, following, outsideText, skippedAfter, blankAfter, unblank⟩
      simp only [Cursor.forward_one, skippedAfter, Prod.mk.injEq] at read
      rcases read with ⟨rfl, endRead⟩
      rcases endParameter_divides endRead going with ⟨ending, sort, followingText, length⟩
      dsimp only at outsideText followingText length
      subst followingText outsideText
      refine ⟨.quoted before content after blankBefore
        (fun member => plain _ member (List.mem_singleton_self _)) blankAfter, ending,
        unblank ending rfl, rfl, sort, ?_, ?_⟩
      · simp only [ParameterText.chars, List.append_assoc, List.cons_append]
      · rw [length]
        simp only [ParameterText.chars, List.length_append, List.length_cons]
        omega

theorem exists_bare_of_readParameter {cursor behind : Cursor} {value : Option String}
    {ended : ParameterEnd} {before start : List Char} (text : cursor.rest = before ++ start)
    (blankBefore : ∀ character ∈ before, Text.isBlank character = true)
    (opening : ∀ character ∈ start.head?,
      Text.isBlank character = false ∧ character ≠ '\x27')
    (read : readParameter cursor = (value, ended, behind)) (going : ended ≠ .missing) :
    ∃ parameter : ParameterText, ∃ ending, parameter.EndedBy ending ∧
      value = some parameter.value ∧ ended = endOf ending ∧
      cursor.rest = parameter.chars ++ ending :: behind.rest ∧
      behind.position = cursor.position + parameter.chars.length + 1 := by
  rcases cursor with ⟨position, _⟩
  subst text
  have skipped := Cursor.skipBlanks_append blankBefore
    (fun character first => (opening character first).1) position
  unfold readParameter at read
  simp only [skipped] at read
  split at read
  next => exact absurd rfl (opening '\x27' rfl).2
  next =>
    rcases Cursor.takeUntil_divides ⟨position + before.length, start⟩
        [',', '\x7d'] with ⟨content, following, startText, taken, plain, stopped⟩
    simp only [taken, Prod.mk.injEq] at read
    rcases read with ⟨rfl, endRead⟩
    rcases endParameter_divides endRead going with ⟨ending, sort, followingText, length⟩
    dsimp only at startText followingText length
    subst followingText startText
    have contentOpening : ∀ character ∈ content.head?,
        Text.isBlank character = false ∧ character ≠ '\x27' := by
      intro character first
      refine opening character ?_
      rw [List.head?_append, first]
      rfl
    refine ⟨.bare before content blankBefore plain contentOpening, ending,
      stopped ending rfl, rfl, sort, ?_, ?_⟩
    · rw [ParameterText.chars, List.append_assoc]
    · rw [length, ParameterText.chars, List.length_append, Nat.add_assoc position]

theorem exists_parameterText_of_readParameter {cursor behind : Cursor}
    {value : Option String} {ended : ParameterEnd}
    (read : readParameter cursor = (value, ended, behind)) (going : ended ≠ .missing) :
    ∃ parameter : ParameterText, ∃ ending, parameter.EndedBy ending ∧
      value = some parameter.value ∧ ended = endOf ending ∧
      cursor.rest = parameter.chars ++ ending :: behind.rest ∧
      behind.position = cursor.position + parameter.chars.length + 1 := by
  rcases skipBlanks_divides cursor with ⟨before, start, text, -, blankBefore, opening⟩
  by_cases quoted : start.head? = some '\x27'
  · rcases List.head?_eq_some_iff.mp quoted with ⟨rest, rfl⟩
    exact exists_quoted_of_readParameter text blankBefore read going
  · refine exists_bare_of_readParameter text blankBefore (fun character first => ?_) read going
    exact ⟨opening character first, fun same => quoted (same ▸ first)⟩

/-! ## Lists -/

/-- A list of parameters as it is written: every parameter but the last one has a
comma behind it, and the last one has another character. -/
structure ParameterListText where
  earlier : List ParameterText
  last : ParameterText
  closer : Char
  closed : last.EndedBy closer
  final : closer ≠ ','

namespace ParameterListText

/-- The characters behind the opening brace. -/
def innerChars (list : ParameterListText) : List Char :=
  list.earlier.flatMap (fun parameter => parameter.chars ++ [',']) ++
    (list.last.chars ++ [list.closer])

def chars (list : ParameterListText) : List Char := '\x7b' :: list.innerChars

def values (list : ParameterListText) : List String :=
  list.earlier.map ParameterText.value ++ [list.last.value]

def cons (parameter : ParameterText) (list : ParameterListText) : ParameterListText :=
  { list with earlier := parameter :: list.earlier }

theorem innerChars_cons (parameter : ParameterText) (list : ParameterListText) :
    (list.cons parameter).innerChars = parameter.chars ++ ',' :: list.innerChars := by
  simp only [innerChars, cons, List.flatMap_cons, List.append_assoc, List.cons_append,
    List.nil_append]

end ParameterListText

theorem readParameterList_append (list : ParameterListText) (following : List Char)
    (position : Nat) :
    readParameterList ⟨position, list.innerChars ++ following⟩ =
      ⟨list.values, true, ⟨position + list.innerChars.length, following⟩⟩ := by
  rcases list with ⟨earlier, last, closer, closed, final⟩
  induction earlier generalizing position with
  | nil =>
      have read := readParameter_append last closed following position
      have closing : endOf closer = .closed := if_neg final
      simp only [ParameterListText.innerChars, ParameterListText.values, List.flatMap_nil,
        List.nil_append, List.append_assoc, List.map_nil, List.singleton_append]
      rw [readParameterList]
      split
      next parameter behind here => rw [read, closing] at here; cases here
      next parameter behind here =>
        rw [read, closing] at here
        cases here
        rw [List.length_append]
        rfl
      next parameter behind here => rw [read, closing] at here; cases here
  | cons parameter rest inductionHypothesis =>
      have read := readParameter_append parameter parameter.endedBy_comma
        ((⟨rest, last, closer, closed, final⟩ : ParameterListText).innerChars ++ following)
        position
      have text := ParameterListText.innerChars_cons parameter ⟨rest, last, closer, closed, final⟩
      have chars : (⟨parameter :: rest, last, closer, closed, final⟩ :
          ParameterListText).innerChars ++ following =
          parameter.chars ++ ',' ::
            ((⟨rest, last, closer, closed, final⟩ : ParameterListText).innerChars ++
              following) :=
        (congrArg (· ++ following) text).trans (List.append_assoc _ _ _)
      have length : (⟨parameter :: rest, last, closer, closed, final⟩ :
          ParameterListText).innerChars.length = parameter.chars.length + 1 +
          (⟨rest, last, closer, closed, final⟩ : ParameterListText).innerChars.length := by
        refine (congrArg List.length text).trans ?_
        rw [List.length_append, List.length_cons]
        omega
      rw [chars, readParameterList]
      split
      next other behind here => rw [read] at here; cases here
      next other behind here => rw [read] at here; cases here
      next other behind here =>
        rw [read] at here
        cases here
        rw [inductionHypothesis, length]
        simp only [ParameterListText.values, Option.toList_some, List.map_cons, List.cons_append,
          List.nil_append, Nat.add_assoc]

theorem exists_parameterListText (cursor : Cursor)
    (closed : (readParameterList cursor).closed = true) :
    ∃ list : ParameterListText,
      (readParameterList cursor).parameters = list.values ∧
      cursor.rest = list.innerChars ++ (readParameterList cursor).cursor.rest ∧
      (readParameterList cursor).cursor.position =
        cursor.position + list.innerChars.length := by
  fun_induction readParameterList cursor with
  | case1 cursor parameter behind read => cases closed
  | case2 cursor parameter behind read =>
      rcases exists_parameterText_of_readParameter read (by decide) with
        ⟨text, closer, endedBy, rfl, sort, chars, length⟩
      have final : closer ≠ ',' := fun comma => by
        rw [endOf, if_pos comma] at sort
        cases sort
      refine ⟨⟨[], text, closer, endedBy, final⟩, rfl, ?_, ?_⟩
      · simpa only [ParameterListText.innerChars, List.flatMap_nil, List.nil_append,
          List.append_assoc, List.singleton_append] using chars
      · rw [length]
        simp only [ParameterListText.innerChars, List.flatMap_nil, List.nil_append,
          List.length_append, List.length_singleton, Nat.add_assoc]
  | case3 cursor parameter behind read shorter others inductionHypothesis =>
      rcases exists_parameterText_of_readParameter read (by decide) with
        ⟨text, ending, endedBy, rfl, sort, chars, length⟩
      have comma : ending = ',' := by
        by_cases comma : ending = ','
        · exact comma
        · rw [endOf, if_neg comma] at sort
          cases sort
      subst comma
      rcases inductionHypothesis closed with ⟨list, values, restChars, restLength⟩
      refine ⟨list.cons text, ?_, ?_, ?_⟩
      · change text.value :: (readParameterList behind).parameters = _
        rw [values]
        rfl
      · rw [chars, restChars, ParameterListText.innerChars_cons, List.append_assoc]
        rfl
      · rw [restLength, length, ParameterListText.innerChars_cons, List.length_append,
          List.length_cons]
        omega

/-! ## Lists that are left open -/

/-- The offset of the end of the text. -/
def Cursor.finish (cursor : Cursor) : Nat := cursor.position + cursor.rest.length

theorem Cursor.finish_forward (cursor : Cursor) (count : Nat) :
    (cursor.forward count).finish = cursor.finish := by
  simp only [finish, forward, List.length_drop]
  omega

theorem Cursor.finish_behindRun (cursor : Cursor) (test : Char → Bool) :
    (cursor.behindRun test).finish = cursor.finish := by
  have length := congrArg List.length (cursor.run_append_rest test)
  rw [List.length_append] at length
  simp only [finish, behindRun] at length ⊢
  omega

theorem endParameter_missing {cursor behind : Cursor}
    (read : endParameter cursor = (.missing, behind)) :
    behind.rest = [] ∧ behind.finish = cursor.finish := by
  rcases cursor with ⟨position, rest⟩
  cases rest with
  | nil =>
      cases read
      exact ⟨rfl, rfl⟩
  | cons ending following =>
      rw [endParameter_cons, Prod.mk.injEq, endOf] at read
      rcases read with ⟨missing, -⟩
      split at missing <;> cases missing

/-- A parameter that is missing is looked for up to the end of the text. -/
theorem readParameter_missing {cursor behind : Cursor} {value : Option String}
    (read : readParameter cursor = (value, .missing, behind)) :
    behind.rest = [] ∧ behind.finish = cursor.finish := by
  have start : cursor.skipBlanks.finish = cursor.finish := cursor.finish_behindRun Text.isBlank
  unfold readParameter at read
  dsimp only at read
  split at read
  next rest quote =>
    have quoted : ((cursor.skipBlanks.forward 1).takeUntil ['\x27']).2.finish =
        cursor.finish := by
      rw [← start, ← cursor.skipBlanks.finish_forward 1]
      exact Cursor.finish_behindRun _ _
    split at read
    next ended =>
      cases read
      exact ⟨ended, quoted⟩
    next =>
      rcases endParameter_missing (congrArg Prod.snd read) with ⟨ended, finish⟩
      refine ⟨ended, finish.trans ?_⟩
      rw [← quoted, Cursor.skipBlanks, Cursor.finish_behindRun, Cursor.finish_forward]
  next =>
    rcases endParameter_missing (congrArg Prod.snd read) with ⟨ended, finish⟩
    refine ⟨ended, finish.trans ?_⟩
    rw [← start]
    exact Cursor.finish_behindRun _ _

/-- A list that is not closed is read up to the end of the text. -/
theorem readParameterList_unclosed (cursor : Cursor)
    (unclosed : (readParameterList cursor).closed = false) :
    (readParameterList cursor).cursor.rest = [] ∧
      (readParameterList cursor).cursor.finish = cursor.finish := by
  fun_induction readParameterList cursor with
  | case1 cursor parameter behind read => exact readParameter_missing read
  | case2 cursor parameter behind read => cases unclosed
  | case3 cursor parameter behind read shorter others inductionHypothesis =>
      rcases inductionHypothesis unclosed with ⟨ended, finish⟩
      rcases exists_parameterText_of_readParameter read (by decide) with
        ⟨text, ending, -, -, -, chars, length⟩
      refine ⟨ended, finish.trans ?_⟩
      rw [Cursor.finish, Cursor.finish, length, chars, List.length_append, List.length_cons]
      omega

/-- A text that no list starts: whatever its parameters are, it ends before one of them is
followed by a character that closes the list. -/
def LeavesListOpen (text : List Char) : Prop :=
  ∀ (list : ParameterListText) (following : List Char), text ≠ list.innerChars ++ following

theorem closed_eq_false_iff (cursor : Cursor) :
    (readParameterList cursor).closed = false ↔ LeavesListOpen cursor.rest := by
  constructor
  · intro unclosed list following text
    have read := readParameterList_append list following cursor.position
    rw [← text] at read
    have closed : (readParameterList cursor).closed = true := congrArg ParameterList.closed read
    rw [unclosed] at closed
    cases closed
  · intro leavesOpen
    apply Bool.eq_false_iff.mpr
    intro closed
    rcases exists_parameterListText cursor closed with ⟨list, -, text, -⟩
    exact leavesOpen list _ text

/-- The characters of a list that may be missing. -/
def parameterChars : Option ParameterListText → List Char
  | none => []
  | some list => list.chars

def parameterValues : Option ParameterListText → List String
  | none => []
  | some list => list.values

theorem readParameters_of_unopened {cursor : Cursor}
    (unopened : cursor.rest.head? ≠ some '\x7b') :
    readParameters cursor = ⟨[], true, cursor⟩ := by
  unfold readParameters
  split
  next rest opened => exact absurd (by rw [opened]; rfl) unopened
  next => rfl

theorem readParameters_opened (position : Nat) (rest : List Char) :
    readParameters ⟨position, '\x7b' :: rest⟩ = readParameterList ⟨position + 1, rest⟩ := by
  simp only [readParameters, Cursor.forward_one]

/-- The parameters of a directive are read as they are written, if no list is opened
where none is written. -/
theorem readParameters_append (list : Option ParameterListText) {following : List Char}
    (unopened : list = none → following.head? ≠ some '\x7b') (position : Nat) :
    readParameters ⟨position, parameterChars list ++ following⟩ =
      ⟨parameterValues list, true, ⟨position + (parameterChars list).length, following⟩⟩ := by
  cases list with
  | none => exact readParameters_of_unopened (unopened rfl)
  | some list =>
      have read := readParameterList_append list following (position + 1)
      simp only [parameterChars, ParameterListText.chars, List.cons_append,
        readParameters_opened, read, parameterValues, List.length_cons]
      congr 2
      omega

/-- The parameters of a directive are written in this way, and a list is written
exactly where a brace opens one. -/
theorem exists_list_of_readParameters {cursor : Cursor}
    (closed : (readParameters cursor).closed = true) :
    ∃ list : Option ParameterListText,
      (readParameters cursor).parameters = parameterValues list ∧
      cursor.rest = parameterChars list ++ (readParameters cursor).cursor.rest ∧
      (readParameters cursor).cursor.position =
        cursor.position + (parameterChars list).length ∧
      (list.isSome = true ↔ cursor.rest.head? = some '\x7b') := by
  by_cases opened : cursor.rest.head? = some '\x7b'
  · rcases cursor with ⟨position, rest⟩
    cases rest with
    | nil => cases opened
    | cons brace rest =>
        cases opened
        rw [readParameters_opened] at closed ⊢
        rcases exists_parameterListText _ closed with ⟨list, values, chars, length⟩
        refine ⟨some list, values, ?_, ?_, iff_of_true rfl rfl⟩
        · exact congrArg (List.cons '\x7b') chars
        · rw [length, parameterChars, ParameterListText.chars, List.length_cons]
          dsimp only
          omega
  · rw [readParameters_of_unopened opened]
    exact ⟨none, rfl, rfl, rfl, iff_of_false Bool.false_ne_true opened⟩

/-! ## Parameters that are written one behind the other -/

/-- Parameters with commas between them. -/
def joinedChars (parameters : List ParameterText) : List Char :=
  [','].intercalate (parameters.map ParameterText.chars)

/-- Parameters with commas between them are a list as soon as a brace closes it, since a brace
ends a parameter in either form. -/
theorem exists_list_of_joined {parameters : List ParameterText} (nonempty : parameters ≠ []) :
    ∃ list : ParameterListText, list.innerChars = joinedChars parameters ++ ['\x7d'] ∧
      list.values = parameters.map ParameterText.value := by
  induction parameters with
  | nil => exact absurd rfl nonempty
  | cons first rest inductionHypothesis =>
      cases rest with
      | nil =>
          have closed : first.EndedBy '\x7d' := by
            cases first with
            | quoted => rfl
            | bare => exact List.mem_cons_of_mem _ List.mem_cons_self
          refine ⟨⟨[], first, '\x7d', closed, by decide⟩, ?_, rfl⟩
          simp only [ParameterListText.innerChars, joinedChars, List.flatMap_nil, List.nil_append,
            List.map_cons, List.map_nil, List.intercalate_singleton]
      | cons second others =>
          rcases inductionHypothesis (List.cons_ne_nil _ _) with ⟨list, text, values⟩
          refine ⟨list.cons first, ?_, congrArg (first.value :: ·) values⟩
          rw [ParameterListText.innerChars_cons, text]
          simp only [joinedChars, List.map_cons, List.intercalate_cons_cons, List.append_assoc,
            List.cons_append, List.nil_append]

/-- Reading parameters undoes writing them.  Each one may be written between quotes or bare, with
any blanks around it that its form allows.  The list is closed, its parameters are those that
were written, in order, and the cursor stands right behind the closing brace, whatever follows
there. -/
theorem readParameters_joined {parameters : List ParameterText} (nonempty : parameters ≠ [])
    (following : List Char) (position : Nat) :
    readParameters ⟨position, '\x7b' :: (joinedChars parameters ++ '\x7d' :: following)⟩ =
      ⟨parameters.map ParameterText.value, true,
        ⟨position + (1 + (joinedChars parameters).length + 1), following⟩⟩ := by
  rcases exists_list_of_joined nonempty with ⟨list, text, values⟩
  have chars : joinedChars parameters ++ '\x7d' :: following = list.innerChars ++ following := by
    rw [text, List.append_assoc, List.singleton_append]
  have length : list.innerChars.length = (joinedChars parameters).length + 1 := by
    rw [text, List.length_append, List.length_singleton]
  rw [readParameters_opened, chars, readParameterList_append, values, length]
  congr 2
  omega

/-- Both forms take turns.  A quoted parameter holds what would end a bare one, a bare one ends
with a blank, and one is empty. -/
theorem readParameters_joined_mixed :
    let parameters : List ParameterText :=
      [.quoted [' '] ['a', ',', '\x7d'] ['\t'] (List.all_eq_true.mp rfl) (by decide)
          (List.all_eq_true.mp rfl),
        .bare [] [] (List.all_eq_true.mp rfl) (by simp) (by simp),
        .bare [' ', ' '] ['x', '\x27', ' '] (List.all_eq_true.mp rfl) (by simp)
          (fun _ first => Option.some.inj first ▸ ⟨rfl, by decide⟩),
        .quoted [] [] [] (List.all_eq_true.mp rfl) (by decide) (List.all_eq_true.mp rfl)]
    parameters ≠ [] ∧
      joinedChars parameters = " 'a,\x7d'\t,,  x' ,''".toList ∧
      readParameters ⟨7, '\x7b' :: (joinedChars parameters ++ '\x7d' :: [',', ' ', '\x7d'])⟩ =
        ⟨["a,\x7d", "", "x' ", ""], true, ⟨26, [',', ' ', '\x7d']⟩⟩ := by
  intro parameters
  have nonempty : parameters ≠ [] := List.cons_ne_nil _ _
  refine ⟨nonempty, by decide, ?_⟩
  rw [readParameters_joined nonempty]
  rfl

end LogLayout.Pattern
