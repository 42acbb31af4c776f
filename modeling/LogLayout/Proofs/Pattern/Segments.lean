import LogLayout.Proofs.Pattern.Enclosing
import LogLayout.Proofs.Pattern.Failing

namespace LogLayout.Pattern

/-!
# Patterns in segments

A pattern may be compiled up to a separator, and then again from behind the separator, until
its end.  The separator may be any character but a percent sign, also one that has a meaning
within directives.  It makes no difference there, because only literal text is searched for
it: a directive is read as it always is.

So the segments are what is left of the pattern without its literal separators, and with the
separators between them they show what the pattern shows.  Where one of them fails, the whole
pattern fails there too, and for the same reason.
-/

/-! ## One segment after another -/

/-- A part of a pattern that has been compiled, and the offset at which it stopped. -/
structure Segment where
  compiled : Compiled
  stop : Nat

/-- The segments that are compiled, and the failure of the one behind them, if there is one. -/
structure Segments where
  complete : List Segment
  failure : Option Failure

theorem length_le_of_compileUntil {registry : Registry} {context : Context}
    {closing : Option Char} {cursor behind : Cursor} {compiled : Compiled}
    (done : registry.compileUntil context closing cursor = .ok (compiled, behind)) :
    behind.rest.length ≤ cursor.rest.length := by
  rcases exists_cuts closing cursor compiled behind done with ⟨pieces, cuts⟩
  rw [cuts.text, List.length_append]
  exact Nat.le_add_left _ _

/-- One character less is left behind a character that is taken. -/
theorem Cursor.length_lt_of_advance {cursor next : Cursor} {character : Char}
    (taken : cursor.advance = .ok (character, next)) :
    next.rest.length < cursor.rest.length := by
  rcases cursor with ⟨position, rest⟩
  cases rest with
  | nil => cases taken
  | cons first others =>
      have same : (first, (⟨position, first :: others⟩ : Cursor).forward 1) = (character, next) :=
        Except.ok.inj taken
      rw [forward_one, Prod.mk.injEq] at same
      rw [← same.2]
      exact Nat.lt_succ_self _

/-- Compile a text up to a separator, take the separator and go on behind it, until the text
ends or a segment does not compile. -/
def Registry.compileSegments (registry : Registry) (context : Context) (separator : Char)
    (cursor : Cursor) : Segments :=
  match done : registry.compileUntil context (some separator) cursor with
  | .error failure => ⟨[], some failure⟩
  | .ok (compiled, behind) =>
      match taken : behind.advance with
      | .error _ => ⟨[⟨compiled, behind.position⟩], none⟩
      | .ok (_, next) =>
          have : next.rest.length < cursor.rest.length :=
            Nat.lt_of_lt_of_le (Cursor.length_lt_of_advance taken) (length_le_of_compileUntil done)
          let later := registry.compileSegments context separator next
          ⟨⟨compiled, behind.position⟩ :: later.complete, later.failure⟩
termination_by cursor.rest.length

namespace Segments

/-- The texts of the segments with the separator between them. -/
def render (segments : Segments) (separator : Char) (record : Record) : String :=
  String.intercalate (String.singleton separator)
    (segments.complete.map fun segment => segment.compiled.render record)

def inFrontOf (first : Compiled) : Segments → Segments
  | ⟨[], failure⟩ => ⟨[], failure⟩
  | ⟨segment :: later, failure⟩ =>
      ⟨{ segment with compiled := first ++ segment.compiled } :: later, failure⟩

end Segments

section Steps

variable {registry : Registry} {context : Context} {separator : Char} {cursor : Cursor}

theorem compileSegments_of_error {failure : Failure}
    (failed : registry.compileUntil context (some separator) cursor = .error failure) :
    registry.compileSegments context separator cursor = ⟨[], some failure⟩ := by
  rw [Registry.compileSegments]
  split
  next other here =>
    rw [failed] at here
    cases here
    rfl
  next here =>
    rw [failed] at here
    cases here

theorem compileSegments_of_ended {compiled : Compiled} {stop : Nat}
    (done : registry.compileUntil context (some separator) cursor = .ok (compiled, ⟨stop, []⟩)) :
    registry.compileSegments context separator cursor = ⟨[⟨compiled, stop⟩], none⟩ := by
  rw [Registry.compileSegments]
  split
  next here =>
    rw [done] at here
    cases here
  next here =>
    rw [done] at here
    cases here
    rfl

/-- Behind a segment that stops in front of some character come those behind the character. -/
theorem compileSegments_of_stopped {compiled : Compiled} {stop : Nat} {character : Char}
    {rest : List Char}
    (done : registry.compileUntil context (some separator) cursor =
      .ok (compiled, ⟨stop, character :: rest⟩)) :
    registry.compileSegments context separator cursor =
      ⟨⟨compiled, stop⟩ ::
          (registry.compileSegments context separator ⟨stop + 1, rest⟩).complete,
        (registry.compileSegments context separator ⟨stop + 1, rest⟩).failure⟩ := by
  rw [Registry.compileSegments]
  split
  next here =>
    rw [done] at here
    cases here
  next here =>
    rw [done] at here
    cases here
    simp only [Cursor.advance, Cursor.forward_one]

theorem compileSegments_inFrontOf {first : Compiled} {later : Cursor}
    (same : registry.compileUntil context (some separator) cursor =
      first.inFrontOf (registry.compileUntil context (some separator) later)) :
    registry.compileSegments context separator cursor =
      (registry.compileSegments context separator later).inFrontOf first := by
  cases outcome : registry.compileUntil context (some separator) later with
  | error failure =>
      rw [outcome] at same
      rw [compileSegments_of_error same, compileSegments_of_error outcome]
      rfl
  | ok done =>
      rcases done with ⟨compiled, stop, rest⟩
      rw [outcome] at same
      cases rest with
      | nil =>
          rw [compileSegments_of_ended same, compileSegments_of_ended outcome]
          rfl
      | cons character rest =>
          rw [compileSegments_of_stopped same, compileSegments_of_stopped outcome]
          rfl

end Steps

/-! ## Literal separators -/

/-- Outside of every directive a character stands in literal text at an offset: reading goes
past literal text, doubled percent signs and complete directives, and then there is only
literal text in front of the character. -/
def LiteralAt (registry : Registry) (context : Context) (cursor : Cursor) (offset : Nat)
    (character : Char) : Prop :=
  ∃ position before behind,
    Reaches registry context none cursor [] none ⟨position, before ++ character :: behind⟩ ∧
    (∀ other ∈ before, other ∉ stops none) ∧ character ≠ '%' ∧
    offset = position + before.length

section Literals

variable {registry : Registry} {context : Context} {cursor : Cursor} {offset : Nat}
  {character : Char}

/-- A literal character stands at its offset in the text. -/
theorem LiteralAt.getElem? {text : String}
    (literal : LiteralAt registry context (.ofText text) offset character) :
    text.toList[offset]? = some character := by
  rcases literal with ⟨position, before, behind, reached, -, -, rfl⟩
  rcases reached.exists_front with ⟨front, divided, place⟩
  dsimp only [Cursor.ofText] at divided place
  rw [Nat.zero_add] at place
  rw [divided, place, ← List.append_assoc, ← List.length_append,
    List.getElem?_append_right (Nat.le_refl _), Nat.sub_self]
  rfl

theorem LiteralAt.of_reaches {place : Cursor}
    (reached : Reaches registry context none cursor [] none place)
    (literal : LiteralAt registry context place offset character) :
    LiteralAt registry context cursor offset character := by
  rcases literal with ⟨position, before, behind, later, plain, distinct, place⟩
  exact ⟨position, before, behind, reached.trans later, plain, distinct, place⟩

/-- Behind literal text reading comes to the same places, unless it stays where it is. -/
theorem Reaches.behind_literal {text rest : List Char} {position : Nat} {opened : List Nat}
    {ending : Option Char} {place : Cursor}
    (plain : ∀ other ∈ text, other ∉ stops none)
    (reached : Reaches registry context none ⟨position + text.length, rest⟩ opened ending place) :
    (opened = [] ∧ ending = none ∧ place = ⟨position + text.length, rest⟩) ∨
      Reaches registry context none ⟨position, text ++ rest⟩ opened ending place := by
  have percent (behind : List Char) :
      ∀ character ∈ ('%' :: behind).head?, character ∈ stops none := by
    intro character first
    cases first
    exact List.mem_cons_self
  cases reached with
  | here => exact .inl ⟨rfl, rfl, rfl⟩
  | @literal _ _ _ more following _ _ morePlain maximal later =>
      right
      rw [← List.append_assoc]
      refine .literal (List.forall_mem_append.mpr ⟨plain, morePlain⟩) maximal ?_
      rw [List.length_append, ← Nat.add_assoc]
      exact later
  | percent later => exact .inr (.literal plain (percent _) (.percent later))
  | directive completes later =>
      exact .inr (.literal plain (percent _) (.directive completes later))
  | enter inRange resolved encloses later =>
      exact .inr (.literal plain (percent _) (.enter inRange resolved encloses later))

theorem LiteralAt.behind_literal {text rest : List Char} {position : Nat}
    (plain : ∀ other ∈ text, other ∉ stops none)
    (literal : LiteralAt registry context ⟨position + text.length, rest⟩ offset character) :
    LiteralAt registry context ⟨position, text ++ rest⟩ offset character := by
  rcases literal with ⟨start, before, behind, reached, beforePlain, distinct, place⟩
  rcases reached.behind_literal plain with ⟨-, -, same⟩ | through
  · cases same
    refine ⟨position, text ++ before, behind, ?_, List.forall_mem_append.mpr
      ⟨plain, beforePlain⟩, distinct, ?_⟩
    · rw [List.append_assoc]
      exact .here
    · rw [place, List.length_append, Nat.add_assoc]
  · exact ⟨start, before, behind, through, beforePlain, distinct, place⟩

end Literals

/-! ## Segments and the whole -/

/-- Segments come to what a text comes to as a whole: to the same failure, or to parts that show
the same with the separator between the segments. -/
def Segments.Agree (segments : Segments) (separator : Char)
    (whole : Except Failure (Compiled × Cursor)) : Prop :=
  match whole with
  | .error failure => segments.failure = some failure
  | .ok (compiled, _) => segments.failure = none ∧ segments.complete ≠ [] ∧
      ∀ record, segments.render separator record = compiled.render record

section Agreeing

variable {separator : Char} {later whole : Except Failure (Compiled × Cursor)}

/-- The texts of further segments stand behind the separator. -/
theorem Segments.render_cons (segment : Segment) {segments : Segments}
    (nonempty : segments.complete ≠ []) (failure : Option Failure) (separator : Char)
    (record : Record) :
    (⟨segment :: segments.complete, failure⟩ : Segments).render separator record =
      segment.compiled.render record ++ String.singleton separator ++
        segments.render separator record := by
  rcases segments with ⟨_ | ⟨next, others⟩, ended⟩
  · exact absurd rfl nonempty
  · simp only [render, List.map_cons, String.intercalate_cons_cons]

/-- Segments agree with parts in front of the first one, if they agree with the rest. -/
theorem Segments.Agree.inFrontOf {segments : Segments} (agree : segments.Agree separator later)
    {first : Compiled} (follows : Follows first later whole) :
    (segments.inFrontOf first).Agree separator whole := by
  rcases segments with ⟨complete, ended⟩
  rcases later with failure | ⟨compiled, behind⟩
  · have same : whole = .error failure := follows
    subst same
    cases complete <;> exact agree
  · rcases follows with ⟨joined, rfl, shown⟩
    rcases agree with ⟨unbroken, nonempty, same⟩
    cases complete with
    | nil => exact absurd rfl nonempty
    | cons segment others =>
        refine ⟨unbroken, List.cons_ne_nil _ _, fun record => ?_⟩
        rw [shown, ← same record]
        cases others with
        | nil =>
            simp only [Segments.inFrontOf, render, List.map_cons, List.map_nil,
              String.intercalate_singleton, Compiled.render_append]
        | cons next others =>
            simp only [Segments.inFrontOf, render, List.map_cons, String.intercalate_cons_cons,
              Compiled.render_append, String.append_assoc]

/-- Segments agree with the separator in front of the rest, if they agree with the rest and
there is an empty segment in front of them. -/
theorem Segments.Agree.separate {segments : Segments} (agree : segments.Agree separator later)
    (follows : Follows (.ofLiteral [separator]) later whole) (stop : Nat) :
    (⟨⟨.empty, stop⟩ :: segments.complete, segments.failure⟩ : Segments).Agree separator
      whole := by
  rcases later with failure | ⟨compiled, behind⟩
  · have same : whole = .error failure := follows
    subst same
    exact agree
  · rcases follows with ⟨joined, rfl, shown⟩
    rcases agree with ⟨unbroken, nonempty, same⟩
    refine ⟨unbroken, List.cons_ne_nil _ _, fun record => ?_⟩
    rw [Segments.render_cons _ nonempty, same, shown, Compiled.render_ofLiteral]
    rfl

end Agreeing

/-- The segments of a text come to what the text comes to, and each of them stops at the end of
the text or at a literal separator. -/
structure Segmented (registry : Registry) (context : Context) (separator : Char)
    (cursor : Cursor) : Prop where
  agree : (registry.compileSegments context separator cursor).Agree separator
    (registry.compileUntil context none cursor)
  places : ∀ segment ∈ (registry.compileSegments context separator cursor).complete,
    segment.stop = cursor.finish ∨ LiteralAt registry context cursor segment.stop separator

section Segmenting

variable {registry : Registry} {context : Context} {separator : Char}

/-- Parts in front of a text are in front of its first segment, if what stands behind them ends
where it did and its literal text stays literal. -/
theorem Segmented.inFrontOf {cursor later : Cursor} {first : Compiled}
    (segmented : Segmented registry context separator later)
    (front : registry.compileUntil context (some separator) cursor =
      first.inFrontOf (registry.compileUntil context (some separator) later))
    (follows : Follows first (registry.compileUntil context none later)
      (registry.compileUntil context none cursor))
    (finish : later.finish = cursor.finish)
    (literal : ∀ offset character, LiteralAt registry context later offset character →
      LiteralAt registry context cursor offset character) :
    Segmented registry context separator cursor := by
  have same := compileSegments_inFrontOf front
  refine ⟨same ▸ segmented.agree.inFrontOf follows, fun segment member => ?_⟩
  have places := segmented.places
  rw [same] at member
  generalize registry.compileSegments context separator later = segments at member places
  rcases segments with ⟨_ | ⟨head, others⟩, ended⟩
  · cases member
  · have stopped : segment.stop = later.finish ∨
        LiteralAt registry context later segment.stop separator := by
      rcases List.mem_cons.mp member with rfl | further
      · exact places head List.mem_cons_self
      · exact places segment (List.mem_cons_of_mem _ further)
    rw [finish] at stopped
    exact stopped.imp_right (literal _ _)

/-- Literal text in front of a text is in front of its first segment. -/
theorem Segmented.literal {text following : List Char} {position : Nat}
    (segmented : Segmented registry context separator ⟨position + text.length, following⟩)
    (plain : ∀ character ∈ text, character ∉ stops (some separator))
    (maximal : ∀ character ∈ following.head?, character ∈ stops (some separator)) :
    Segmented registry context separator ⟨position, text ++ following⟩ := by
  have wholly : ∀ character ∈ text, character ∉ stops none := by
    intro character member percent
    rw [stops, Option.toList_none, List.mem_singleton] at percent
    exact plain character member (percent ▸ List.mem_cons_self)
  refine segmented.inFrontOf (registry.compileUntil_literal context plain maximal position)
    (follows_literal wholly following position) ?_
    fun offset character literal => literal.behind_literal wholly
  rw [Cursor.finish, Cursor.finish, List.length_append, Nat.add_assoc]

/-- A separator in front of a text makes an empty segment. -/
theorem Segmented.separate {rest : List Char} {position : Nat} (distinct : separator ≠ '%')
    (segmented : Segmented registry context separator ⟨position + 1, rest⟩) :
    Segmented registry context separator ⟨position, separator :: rest⟩ := by
  have plain : ∀ character ∈ [separator], character ∉ stops none := by
    intro character member percent
    rw [List.mem_singleton] at member
    rw [stops, Option.toList_none, List.mem_singleton, member] at percent
    exact distinct percent
  have closes : ∀ character ∈ (separator :: rest).head?,
      some separator = some character ∧ character ≠ '%' := by
    rintro _ ⟨⟩
    exact ⟨rfl, distinct⟩
  have stopped := registry.compileUntil_stop context closes position
  rcases segmented with ⟨agree, places⟩
  have same := compileSegments_of_stopped stopped
  refine ⟨same ▸ agree.separate (follows_literal plain rest position) position, ?_⟩
  rw [same]
  refine List.forall_mem_cons.mpr ⟨.inr ?_, fun segment member => ?_⟩
  · exact ⟨position, [], rest, .here, fun _ none => absurd none List.not_mem_nil, distinct, rfl⟩
  · have finish : (⟨position + 1, rest⟩ : Cursor).finish =
        (⟨position, separator :: rest⟩ : Cursor).finish := by
      simp only [Cursor.finish, List.length_cons]
      omega
    rw [← finish]
    exact (places segment member).imp_right fun literal => literal.behind_literal plain

/-- A text that goes on with the end, a separator, a doubled percent sign or a directive comes in
segments, if every shorter text does. -/
theorem segmented_of_lead {position : Nat} {rest : List Char} (distinct : separator ≠ '%')
    (lead : Registry.Lead (some separator) rest)
    (shorter : ∀ cursor : Cursor, cursor.rest.length < rest.length →
      Segmented registry context separator cursor) :
    Segmented registry context separator ⟨position, rest⟩ := by
  cases lead with
  | stop stopped =>
      cases rest with
      | nil =>
          have ended (closing : Option Char) :
              registry.compileUntil context closing ⟨position, []⟩ = .ok (.empty, ⟨position, []⟩) :=
            registry.compileUntil_stop context (fun _ first => by cases first) position
          have same := compileSegments_of_ended (ended (some separator))
          refine ⟨?_, ?_⟩
          · rw [same, ended none]
            refine ⟨rfl, List.cons_ne_nil _ _, fun record => ?_⟩
            simp only [Segments.render, List.map_cons, List.map_nil, String.intercalate_singleton]
          · rw [same]
            exact List.forall_mem_cons.mpr ⟨.inl rfl, fun _ none => absurd none List.not_mem_nil⟩
      | cons character behind =>
          have closes : separator = character := Option.some.inj (stopped character rfl).1
          subst closes
          exact .separate distinct (shorter ⟨position + 1, behind⟩ (Nat.lt_succ_self _))
  | @percent following =>
      have later := shorter ⟨position + 2, following⟩ (Nat.lt_add_of_pos_right Nat.two_pos)
      refine later.inFrontOf (registry.compileUntil_percent context position) ?_ ?_
        fun offset character literal => literal.of_reaches (.percent .here)
      · rw [registry.compileUntil_percent context position]
        exact .inFrontOf _ _
      · simp only [Cursor.finish, List.length_cons]
        omega
  | @directive following unpaired =>
      have step (closing : Option Char) :
          registry.compileUntil context closing ⟨position, '%' :: following⟩ =
            (registry.compileDirective context position ⟨position + 1, following⟩).bind
              fun directive => (Compiled.single directive.1).inFrontOf
                (registry.compileUntil context closing directive.2) :=
        registry.compileUntil_directive context unpaired position
      cases first : registry.compileDirective context position ⟨position + 1, following⟩ with
      | error failure =>
          rw [first] at step
          have same := compileSegments_of_error (step (some separator))
          refine ⟨?_, ?_⟩
          · rw [same, step none]
            rfl
          · rw [same]
            exact fun _ none => absurd none List.not_mem_nil
      | ok directive =>
          rcases directive with ⟨unit, start, others⟩
          have small := length_lt_of_compileDirective first
          rcases exists_completes first with
            ⟨head, inside, parameters, builder, completes, chars, length⟩
          dsimp only at completes chars length
          rw [first] at step
          refine (shorter ⟨start, others⟩ small).inFrontOf (step (some separator)) ?_ ?_
            fun offset character literal => literal.of_reaches ?_
          · rw [step none]
            exact .inFrontOf _ _
          · rw [Cursor.finish, Cursor.finish, chars, length, List.length_append, Nat.add_assoc]
          · rw [chars, length]
            exact .directive completes .here

/-- Every text comes in segments. -/
theorem segmented (registry : Registry) (context : Context) {separator : Char}
    (distinct : separator ≠ '%') (cursor : Cursor) :
    Segmented registry context separator cursor := by
  suffices ∀ closing cursor, closing = some separator →
      Segmented registry context separator cursor from this _ cursor rfl
  intro closing cursor
  induction closing, cursor using Registry.leadInduction with
  | piece closing position text following plain maximal lead shorter =>
      rintro rfl
      exact (segmented_of_lead distinct lead fun cursor small => shorter _ cursor small rfl).literal
        plain maximal

end Segmenting

/-! ## Whole patterns -/

/-- A pattern is compiled in segments as it is compiled at once, whatever separates them, apart
from a percent sign.  If it compiles, so does every segment.  Compiling then stops only at the
end and at separators that are literal text outside of every directive, and with the separator
between them the segments show what the pattern shows.  If it does not compile, the segments
end with one that fails in the same way, at the same place. -/
theorem compile_segments (registry : Registry) (context : Context) (pattern : String)
    (separator : Char) (distinct : separator ≠ '%') :
    (∀ compiled, registry.compile context pattern = .ok compiled →
      (registry.compileSegments context separator (.ofText pattern)).failure = none ∧
      (∀ segment ∈ (registry.compileSegments context separator (.ofText pattern)).complete,
        segment.stop = pattern.length ∨
          (pattern.toList[segment.stop]? = some separator ∧
            LiteralAt registry context (.ofText pattern) segment.stop separator)) ∧
      ∀ record, (registry.compileSegments context separator (.ofText pattern)).render separator
        record = compiled.render record) ∧
    ∀ fault, registry.compile context pattern = .error fault →
      ∃ stopped,
        registry.compileUntil context none (.ofText pattern) = .error ⟨fault, stopped⟩ ∧
        (registry.compileSegments context separator (.ofText pattern)).failure =
          some ⟨fault, stopped⟩ := by
  rcases segmented registry context distinct (.ofText pattern) with ⟨agree, places⟩
  constructor
  · intro compiled done
    rcases exists_of_compile done with ⟨behind, whole⟩
    rw [whole] at agree
    refine ⟨agree.1, fun segment member => ?_, agree.2.2⟩
    rcases places segment member with ended | literal
    · left
      rw [ended, Cursor.finish, Cursor.ofText, Nat.zero_add, String.length_toList]
    · exact .inr ⟨literal.getElem?, literal⟩
  · intro fault failed
    rcases exists_of_compile_error failed with ⟨stopped, whole⟩
    rw [whole] at agree
    exact ⟨stopped, whole, agree⟩

/-- Commas within a sub-pattern and within a parameter separate nothing, and an unknown word
behind two commas is reported where it stands in the whole pattern. -/
theorem compile_segments_commas :
    let context : Context := { application := "shop", node := "east", console := .plain }
    let pattern := "%level,%red(a,%5thread),%mdc\x7b'k,l'\x7d,"
    ',' ≠ '%' ∧
      (Registry.builtin.compileSegments context ',' (.ofText pattern)).complete.map Segment.stop =
        [6, 23, 35, 36] ∧
      (∃ compiled, Registry.builtin.compile context pattern = .ok compiled ∧
        ∀ record, (Registry.builtin.compileSegments context ',' (.ofText pattern)).render ','
          record = compiled.render record) ∧
      Registry.builtin.compile context "%n,-,%nosuch,%level" = .error (.unknownWord "nosuch" 5) ∧
      (Registry.builtin.compileSegments context ',' (.ofText "%n,-,%nosuch,%level")).failure =
        some ⟨.unknownWord "nosuch" 5, 12⟩ := by
  intro context pattern
  have distinct : ',' ≠ '%' := by decide
  have stops : (Registry.builtin.compileSegments context ',' (.ofText pattern)).complete.map
      Segment.stop = [6, 23, 35, 36] := by
    decide +kernel
  have accepted : (Registry.builtin.compile context pattern).toOption.any (fun _ => true) =
      true := by
    decide +kernel
  have unknown : error? (Registry.builtin.compileUntil context none
      (.ofText "%n,-,%nosuch,%level")) = some ⟨.unknownWord "nosuch" 5, 12⟩ := by
    decide +kernel
  have rejected : Registry.builtin.compile context "%n,-,%nosuch,%level" =
      .error (.unknownWord "nosuch" 5) := by
    rw [Registry.compile, eq_error_of_error? unknown]
  rcases exists_of_any_toOption accepted with ⟨compiled, done, -⟩
  have whole := (compile_segments Registry.builtin context pattern ',' distinct).1 compiled done
  rcases (compile_segments Registry.builtin context "%n,-,%nosuch,%level" ',' distinct).2 _
    rejected with ⟨stopped, failed, last⟩
  rw [eq_error_of_error? unknown] at failed
  cases failed
  exact ⟨distinct, stops, ⟨compiled, done, whole.2.2⟩, rejected, last⟩

end LogLayout.Pattern
