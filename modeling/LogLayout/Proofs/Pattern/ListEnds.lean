import LogLayout.Proofs.Pattern.Enclosing
import LogLayout.Proofs.Pattern.Printing
import LogLayout.Proofs.Pattern.Reaching

namespace LogLayout.Pattern

/-!
# Where lists of parameters end

A list of parameters is opened by a brace, and what closes it depends on its last parameter.
Behind a bare parameter it is a closing brace.  Behind a quoted one, and behind the blanks
that may follow it, any character closes the list that is not a comma.  The character belongs
to the list, whatever it is, so that it is neither shown nor reported.

Hence it may be exchanged for another one, such as a closing brace, and the pattern stays
what it was.
-/

/-! ## Closing characters -/

/-- A parameter that stands between quotes. -/
def ParameterText.IsQuoted : ParameterText → Prop
  | .quoted .. => True
  | .bare .. => False

namespace ParameterListText

/-- The characters of a list in front of the one that closes it. -/
def openChars (list : ParameterListText) : List Char :=
  '\x7b' :: (list.earlier.flatMap (fun parameter => parameter.chars ++ [',']) ++ list.last.chars)

theorem chars_eq_openChars (list : ParameterListText) :
    list.chars = list.openChars ++ [list.closer] := by
  simp only [chars, innerChars, openChars, List.cons_append, List.append_assoc]

/-- The same parameters with another character behind them. -/
def closedBy (list : ParameterListText) (closer : Char) (closed : list.last.EndedBy closer)
    (final : closer ≠ ',') : ParameterListText :=
  { list with closer := closer, closed := closed, final := final }

/-- A list is closed by a brace, or by anything but a comma behind a quoted parameter and
its blanks. -/
theorem closer_cases (list : ParameterListText) :
    list.closer = '\x7d' ∨
      (list.last.IsQuoted ∧ Text.isBlank list.closer = false ∧ list.closer ≠ ',') := by
  have closed := list.closed
  cases last : list.last with
  | quoted before content after blankBefore unquoted blankAfter =>
      rw [last] at closed
      exact .inr ⟨trivial, closed, list.final⟩
  | bare before content blankBefore plain opening =>
      rw [last] at closed
      left
      rcases List.mem_cons.mp closed with comma | brace
      · exact absurd comma list.final
      · exact List.mem_singleton.mp brace

/-- Every character but blanks and commas ends a quoted parameter. -/
theorem endedBy_of_isQuoted {parameter : ParameterText} (isQuoted : parameter.IsQuoted)
    {closer : Char} (unblank : Text.isBlank closer = false) : parameter.EndedBy closer := by
  cases parameter with
  | quoted => exact unblank
  | bare => exact isQuoted.elim

end ParameterListText

/-! ## Lists with another closing character -/

section Closing

variable {registry : Registry} {context : Context} {position : Nat} {head : HeadText}
  {inside : Option (List Piece)} {list : ParameterListText} {builder : Builder}
  {unit : Renderer} {behind : List Char}

/-- The characters of a directive in front of the one that closes its list. -/
def openDirectiveChars (head : HeadText) (inside : Option (List Piece))
    (list : ParameterListText) : List Char :=
  '%' :: (head.chars ++ (insideChars inside ++ list.openChars))

theorem directiveChars_eq_open (head : HeadText) (inside : Option (List Piece))
    (list : ParameterListText) :
    directiveChars head inside (some list) =
      openDirectiveChars head inside list ++ [list.closer] := by
  simp only [directiveChars, openDirectiveChars, parameterChars, list.chars_eq_openChars,
    List.cons_append, List.append_assoc]

/-- A directive is complete with any character that closes its list. -/
theorem Completes.closedBy
    (completes : Completes registry context position head inside (some list) builder unit behind)
    {closer : Char} (closed : list.last.EndedBy closer) (final : closer ≠ ',') :
    Completes registry context position head inside (some (list.closedBy closer closed final))
      builder unit behind := by
  rcases completes with ⟨written, enclosed⟩
  have brace : (parameterChars (some (list.closedBy closer closed final)) ++ behind).head? =
      (parameterChars (some list) ++ behind).head? := rfl
  have first : (behindHead inside (some (list.closedBy closer closed final)) behind).head? =
      (behindHead inside (some list) behind).head? := head?_append_congr brace _
  constructor
  · refine ⟨written.inRange, written.resolved, ?_, ?_, written.listed, written.built⟩
    · rw [first]
      exact written.maximal
    · rw [first]
      exact written.opened
  · intro inner here
    exact (enclosed inner here).congr rfl

/-- A list right behind the word of a directive completes it, if it can be built. -/
theorem HeadText.completes_list (head : HeadText) (inRange : InRange head.lengths)
    (resolved : registry.resolve? head.name = some builder) (list : ParameterListText)
    (built : builder.instantiate ⟨head.head position, list.values, none⟩ context = .ok unit)
    (behind : List Char) :
    Completes registry context position head none (some list) builder unit behind := by
  constructor
  · refine ⟨inRange, resolved, ?_, ?_, iff_of_true rfl rfl, built⟩
    · rintro _ ⟨⟩
      decide
    · apply iff_of_false Bool.false_ne_true
      rintro ⟨-, ⟨⟩⟩
  · intro inner absent
    cases absent

/-- Where a directive with a list is reached, the pattern comes to the same with any other
character that closes the list. -/
theorem OpensAt.compileUntil_closedBy {closing : Option Char} {cursor : Cursor}
    {opened : List Nat} {rest : List Char}
    (opens : OpensAt registry context closing cursor opened position rest)
    (completes : Completes registry context position head inside (some list) builder unit behind)
    (text : '%' :: rest = directiveChars head inside (some list) ++ behind) :
    ∃ before, cursor.rest = before ++ list.closer :: behind ∧
      ∀ other, list.last.EndedBy other → other ≠ ',' →
        registry.compileUntil context closing ⟨cursor.position, before ++ other :: behind⟩ =
          registry.compileUntil context closing cursor := by
  rcases opens.exists_front with ⟨front, divided, -⟩
  have divides (closer : Char) : front ++ openDirectiveChars head inside list ++ closer :: behind =
      front ++ (openDirectiveChars head inside list ++ [closer] ++ behind) := by
    simp only [List.append_assoc, List.singleton_append]
  refine ⟨front ++ openDirectiveChars head inside list, ?_, ?_⟩
  · rw [divided, text, divides, directiveChars_eq_open]
  · intro other closed final
    have completesOther := completes.closedBy closed final
    have textOther := directiveChars_eq_open head inside (list.closedBy other closed final)
    have length : (directiveChars head inside (some (list.closedBy other closed final))).length =
        (directiveChars head inside (some list)).length := by
      rw [textOther, directiveChars_eq_open, List.length_append, List.length_append]
      rfl
    rcases opens.reached with ⟨ending, reached⟩
    have alike : (directiveChars head inside (some (list.closedBy other closed final)) ++
        behind).head? = ('%' :: rest).head? := rfl
    rcases reached.congr alike with ⟨front', divided', -, outcome⟩
    have same : front' = front := List.append_cancel_right (divided'.symm.trans divided)
    subst same
    rw [divides]
    refine Eq.trans (congrArg (fun chars => registry.compileUntil context closing
      ⟨cursor.position, front' ++ (chars ++ behind)⟩) textOther.symm) (outcome ?_)
    dsimp only
    rw [text, completesOther.compileUntil, completes.compileUntil, length]

theorem OpensAt.exists_completes {closing : Option Char} {cursor : Cursor}
    {opened : List Nat} {rest : List Char} {done : Compiled × Cursor}
    (opens : OpensAt registry context closing cursor opened position rest)
    (compiled : registry.compileUntil context closing cursor = .ok done) :
    ∃ head inside parameters builder unit behind,
      Completes registry context position head inside parameters builder unit behind ∧
      '%' :: rest = directiveChars head inside parameters ++ behind := by
  rcases opens with ⟨⟨ending, reached⟩, single⟩
  rcases reached.exists_compiled compiled with ⟨later, here⟩
  rw [registry.compileUntil_directive context single] at here
  rcases exists_of_bind here with ⟨⟨unit, behind⟩, directive, -⟩
  rcases Pattern.exists_completes directive with
    ⟨head, inside, parameters, builder, completes, text, -⟩
  exact ⟨head, inside, parameters, builder, unit, behind.rest, completes, text⟩

end Closing

/-! ## Patterns with lists -/

/-- Every directive of a pattern that compiles is complete, however deeply it is enclosed.
If it has a list of parameters, the list is closed by a brace, or its last parameter is
quoted and any character closes it that is neither blank nor a comma.  In the second case the
pattern compiles to the same with any other such character in its place. -/
theorem compile_list_ends (registry : Registry) (context : Context) (pattern : String)
    (compiled : Compiled) (opened : List Nat) (position : Nat) (rest : List Char)
    (done : registry.compile context pattern = .ok compiled)
    (opens : OpensAt registry context none (.ofText pattern) opened position rest) :
    (∃ head inside parameters builder unit behind,
      Completes registry context position head inside parameters builder unit behind ∧
      '%' :: rest = directiveChars head inside parameters ++ behind) ∧
    ∀ head inside list builder unit behind,
      Completes registry context position head inside (some list) builder unit behind →
      '%' :: rest = directiveChars head inside (some list) ++ behind →
        (list.closer = '\x7d' ∨
          (list.last.IsQuoted ∧ Text.isBlank list.closer = false ∧ list.closer ≠ ',')) ∧
        ∃ before, pattern.toList = before ++ list.closer :: behind ∧
          (list.last.IsQuoted → ∀ other, Text.isBlank other = false → other ≠ ',' →
            registry.compile context (String.ofList (before ++ other :: behind)) =
              .ok compiled) := by
  rcases exists_of_compile done with ⟨finish, whole⟩
  constructor
  · exact opens.exists_completes whole
  · intro head inside list builder unit behind completes text
    refine ⟨list.closer_cases, ?_⟩
    rcases opens.compileUntil_closedBy completes text with ⟨before, divided, outcome⟩
    refine ⟨before, divided, ?_⟩
    intro isQuoted other unblank final
    have same := outcome other (ParameterListText.endedBy_of_isQuoted isQuoted unblank) final
    have text : Cursor.ofText (String.ofList (before ++ other :: behind)) =
        ⟨0, before ++ other :: behind⟩ := congrArg (Cursor.mk 0) String.toList_ofList
    rw [Registry.compile, text]
    rw [show registry.compileUntil context none ⟨0, before ++ other :: behind⟩ = _ from
      same.trans whole]

/-- Inside of another directive a letter closes a list, and a brace in its place makes no
difference. -/
theorem compile_list_ends_letter :
    let context : Context := { application := "shop", node := "east", console := .plain }
    ∃ compiled, Registry.builtin.compile context "%red(%mdc\x7b'a'x)" = .ok compiled ∧
      Registry.builtin.compile context "%red(%mdc\x7b'a'\x7d)" = .ok compiled := by
  intro context
  let red : HeadText := .bare "red" (by decide) (List.all_eq_true.mp (by decide))
  let pairs : HeadText := .bare "mdc" (by decide) (List.all_eq_true.mp (by decide))
  let list : ParameterListText := ⟨[], .ofPrinted "a" (by decide), 'x', rfl, by decide⟩
  let pattern : String := "%red(%mdc\x7b'a'x)"
  have accepted : (Registry.builtin.compile context pattern).toOption.any (fun _ => true) =
      true := by
    decide +kernel
  have redKnown : (Registry.builtin.resolve? red.name).any Builder.encloses = true := by
    decide +kernel
  have pairsKnown : (Registry.builtin.resolve? pairs.name).any (fun builder =>
      (builder.instantiate ⟨pairs.head 5, list.values, none⟩ context).toOption.any
        fun _ => true) = true := by
    decide +kernel
  rcases exists_of_any_toOption accepted with ⟨compiled, done, -⟩
  rcases Option.any_eq_true _ _ |>.mp redKnown with ⟨redBuilder, redResolved, encloses⟩
  rcases Option.any_eq_true _ _ |>.mp pairsKnown with ⟨builder, resolved, instantiated⟩
  rcases exists_of_any_toOption instantiated with ⟨unit, built, -⟩
  have text : Cursor.ofText pattern =
      ⟨0, '%' :: (red.chars ++ '(' :: directiveChars pairs none (some list) ++ [')'])⟩ := by
    decide
  have opens : OpensAt Registry.builtin context none (.ofText pattern) [0] 5
      (pairs.chars ++ behindHead none (some list) [')']) := by
    rw [text]
    exact ⟨⟨some ')', .enter (HeadText.inRange_bare _ _ _) redResolved encloses .here⟩, by decide⟩
  have completes := pairs.completes_list (HeadText.inRange_bare _ _ _) resolved list built [')']
  rcases (compile_list_ends Registry.builtin context pattern compiled [0] 5 _ done opens).2
      pairs none list builder unit [')'] completes (directiveChars_append _ _ _ _).symm
    with ⟨-, before, divided, replaced⟩
  have here : "%red(%mdc\x7b'a'".toList = before := by
    have start : "%red(%mdc\x7b'a'".toList ++ ['x', ')'] = pattern.toList := by decide
    exact List.append_cancel_right (start.trans divided)
  have other := replaced trivial '\x7d' (by decide) (by decide)
  rw [← here] at other
  exact ⟨compiled, done, other⟩

/-- A list that nothing but a letter closes is accepted, although there is no closing brace
in the pattern, and so is one with a format and a letter behind it. -/
theorem compile_list_unclosed :
    let context : Context := { application := "shop", node := "east", console := .plain }
    let record : Record := (Record.sample .epoch "main").withPair "a" "1"
    (∃ compiled, Registry.builtin.compile context "%mdc\x7b'a'x" = .ok compiled ∧
        compiled.units.length = 1 ∧ compiled.render record = "1") ∧
      '\x7d' ∉ "%mdc\x7b'a'x".toList ∧
      ∃ compiled, Registry.builtin.compile context "%date\x7b'Z'HH\x7d" = .ok compiled ∧
        compiled.units.length = 2 := by
  intro context record
  have letter : (Registry.builtin.compile context "%mdc\x7b'a'x").toOption.any (fun compiled =>
      decide (compiled.units.length = 1 ∧ compiled.render record = "1")) = true := by
    decide +kernel
  have format : (Registry.builtin.compile context "%date\x7b'Z'HH\x7d").toOption.any
      (fun compiled => decide (compiled.units.length = 2)) = true := by
    decide +kernel
  rcases exists_of_any_toOption letter with ⟨compiled, done, same⟩
  rcases exists_of_any_toOption format with ⟨dated, datedDone, count⟩
  exact ⟨⟨compiled, done, of_decide_eq_true same⟩, by decide, dated, datedDone,
    of_decide_eq_true count⟩

end LogLayout.Pattern
