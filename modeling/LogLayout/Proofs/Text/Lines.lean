import LogLayout.Text.Lines
import Mathlib.Data.List.Basic

namespace LogLayout.Text

/-!
# Lines that form a text

Lines are put into a text with a line end behind each.  Taking the text apart gives the lines
back, with either kind of line end and whether there is one behind the last line or not, as long
as no unit of a line belongs to a line end itself.  Only an empty last line needs its line end to
be seen.
-/

variable {Unit : Type} {isFeed isReturn : Unit → Bool}

/-- What ends a line: a line feed, or a carriage return and a line feed. -/
inductive EndsLine (isFeed isReturn : Unit → Bool) : List Unit → Prop where
  | feed {unit : Unit} (feeds : isFeed unit = true) : EndsLine isFeed isReturn [unit]
  | returnFeed {first second : Unit} (noFeed : isFeed first = false)
    (returns : isReturn first = true) (feeds : isFeed second = true) :
    EndsLine isFeed isReturn [first, second]

/-- No unit of a line belongs to a line end. -/
def Unbroken (isFeed isReturn : Unit → Bool) (line : List Unit) : Prop :=
  ∀ unit ∈ line, isFeed unit = false ∧ isReturn unit = false

/-- Lines form a text.  The line end may be missing behind the last line if that is not empty. -/
inductive Forms (ending : List Unit) : List (List Unit) → List Unit → Prop where
  | ended (lines : List (List Unit)) : Forms ending lines (lines.flatMap (· ++ ending))
  | unended (lines : List (List Unit)) {last : List Unit} (filled : last ≠ []) :
    Forms ending (lines ++ [last]) (lines.flatMap (· ++ ending) ++ last)

theorem linesBy_feed {unit : Unit} (feeds : isFeed unit = true) (rest : List Unit) :
    linesBy isFeed isReturn (unit :: rest) = [] :: linesBy isFeed isReturn rest := by
  cases rest with
  | nil => rw [linesBy.eq_2, if_pos feeds, linesBy.eq_1]
  | cons next others => rw [linesBy, if_pos feeds]

/-- A unit that is no line feed, and no carriage return in front of one, belongs to the first
line. -/
theorem linesBy_cons_of_noEnd {unit : Unit} {rest : List Unit} (noFeed : isFeed unit = false)
    (noEnd : isReturn unit = true → ∀ next ∈ rest.head?, isFeed next = false) :
    linesBy isFeed isReturn (unit :: rest) = extendFirst unit (linesBy isFeed isReturn rest) := by
  have stays : ¬ isFeed unit = true := Bool.eq_false_iff.mp noFeed
  cases rest with
  | nil =>
      rw [linesBy.eq_2, if_neg stays]
      rfl
  | cons next others =>
      have inside : ¬ (isReturn unit && isFeed next) = true := by
        intro ends
        rcases Bool.and_eq_true_iff.mp ends with ⟨returns, feeds⟩
        exact Bool.eq_false_iff.mp (noEnd returns next rfl) feeds
      rw [linesBy, if_neg stays, if_neg inside]

/-- A unit of no line end belongs to the first line. -/
theorem linesBy_cons {unit : Unit} (noFeed : isFeed unit = false)
    (noReturn : isReturn unit = false) (rest : List Unit) :
    linesBy isFeed isReturn (unit :: rest) = extendFirst unit (linesBy isFeed isReturn rest) := by
  apply linesBy_cons_of_noEnd noFeed
  intro returns
  exact absurd returns (Bool.eq_false_iff.mp noReturn)

/-- A line end in front of a text ends an empty line. -/
theorem linesBy_ending_append {ending : List Unit} (ends : EndsLine isFeed isReturn ending)
    (rest : List Unit) :
    linesBy isFeed isReturn (ending ++ rest) = [] :: linesBy isFeed isReturn rest := by
  cases ends with
  | feed feeds => exact linesBy_feed feeds rest
  | @returnFeed first second noFeed returns feeds =>
      change linesBy isFeed isReturn (first :: second :: rest) = _
      rw [linesBy, if_neg (Bool.eq_false_iff.mp noFeed), returns, feeds]
      rfl

theorem linesBy_line_append {line ending : List Unit} (unbroken : Unbroken isFeed isReturn line)
    (ends : EndsLine isFeed isReturn ending) (rest : List Unit) :
    linesBy isFeed isReturn (line ++ ending ++ rest) = line :: linesBy isFeed isReturn rest := by
  induction line with
  | nil => exact linesBy_ending_append ends rest
  | cons unit others inductionHypothesis =>
      obtain ⟨⟨noFeed, noReturn⟩, later⟩ := List.forall_mem_cons.mp unbroken
      rw [List.cons_append, List.cons_append, linesBy_cons noFeed noReturn,
        inductionHypothesis later]
      rfl

theorem linesBy_line {line : List Unit} (unbroken : Unbroken isFeed isReturn line)
    (filled : line ≠ []) : linesBy isFeed isReturn line = [line] := by
  induction line with
  | nil => exact absurd rfl filled
  | cons unit others inductionHypothesis =>
      obtain ⟨⟨noFeed, noReturn⟩, later⟩ := List.forall_mem_cons.mp unbroken
      rw [linesBy_cons noFeed noReturn]
      cases others with
      | nil => rfl
      | cons next rest =>
          rw [inductionHypothesis later (List.cons_ne_nil _ _)]
          rfl

theorem linesBy_of_forms {ending : List Unit} {lines : List (List Unit)} {text : List Unit}
    (forms : Forms ending lines text) (ends : EndsLine isFeed isReturn ending)
    (unbroken : ∀ line ∈ lines, Unbroken isFeed isReturn line) :
    linesBy isFeed isReturn text = lines := by
  have behind (lines : List (List Unit)) (rest : List Unit)
      (unbroken : ∀ line ∈ lines, Unbroken isFeed isReturn line) :
      linesBy isFeed isReturn (lines.flatMap (· ++ ending) ++ rest) =
        lines ++ linesBy isFeed isReturn rest := by
    induction lines with
    | nil => rfl
    | cons line others inductionHypothesis =>
        obtain ⟨here, later⟩ := List.forall_mem_cons.mp unbroken
        rw [List.flatMap_cons, List.append_assoc, linesBy_line_append here ends,
          inductionHypothesis later, List.cons_append]
  cases forms with
  | ended =>
      rw [← List.append_nil (lines.flatMap _), behind lines [] unbroken]
      exact List.append_nil lines
  | @unended lines last filled =>
      obtain ⟨earlier, final⟩ := List.forall_mem_append.mp unbroken
      rw [behind lines last earlier,
        linesBy_line (final last (List.mem_singleton_self last)) filled]

/-! ## Texts that are joined where a line starts -/

/-- Two texts are joined where a line starts: behind the last line end of the first or, if the
first ends within a line, behind a line end that is put in between. -/
inductive JoinedAtLine (isFeed isReturn : Unit → Bool) (first second : List Unit) :
    List Unit → Prop where
  | behindEnd (ended : ∀ last ∈ first.getLast?, isFeed last = true) :
    JoinedAtLine isFeed isReturn first second (first ++ second)
  | withEnd {last : Unit} {ending : List Unit} (final : first.getLast? = some last)
    (noFeed : isFeed last = false) (noReturn : isReturn last = false)
    (ends : EndsLine isFeed isReturn ending) :
    JoinedAtLine isFeed isReturn first second (first ++ ending ++ second)

/-- A unit in front of the first of some lines leaves the lines behind it as they are. -/
theorem extendFirst_append (unit : Unit) {lines : List (List Unit)} (filled : lines ≠ [])
    (others : List (List Unit)) :
    extendFirst unit (lines ++ others) = extendFirst unit lines ++ others := by
  rcases List.exists_cons_of_ne_nil filled with ⟨line, later, rfl⟩
  rfl

theorem linesBy_ne_nil {text : List Unit} (filled : text ≠ []) :
    linesBy isFeed isReturn text ≠ [] := by
  fun_cases linesBy isFeed isReturn text with
  | case1 => exact absurd rfl filled
  | case6 unit next rest stays noEnd =>
      cases linesBy isFeed isReturn (next :: rest) with
      | nil => exact List.cons_ne_nil _ _
      | cons line others => exact List.cons_ne_nil _ _
  | _ => exact List.cons_ne_nil _ _

/-- Behind a line end the lines go on with those of the text that follows. -/
theorem linesBy_append_of_ended {first : List Unit}
    (ended : ∀ last ∈ first.getLast?, isFeed last = true) (second : List Unit) :
    linesBy isFeed isReturn (first ++ second) =
      linesBy isFeed isReturn first ++ linesBy isFeed isReturn second := by
  fun_induction linesBy isFeed isReturn first with
  | case1 => rfl
  | case2 unit feeds => exact linesBy_feed feeds second
  | case3 unit stays => exact absurd (ended unit rfl) stays
  | case4 unit next rest feeds inductionHypothesis =>
      rw [List.cons_append, linesBy_feed feeds, inductionHypothesis ended]
      rfl
  | case5 unit next rest stays ends inductionHypothesis =>
      have later : ∀ last ∈ rest.getLast?, isFeed last = true := by
        intro last final
        apply ended last
        cases rest with
        | nil => cases final
        | cons unit others => exact final
      rw [List.cons_append, List.cons_append, linesBy, if_neg stays, if_pos ends,
        inductionHypothesis later]
      rfl
  | case6 unit next rest stays noEnd inductionHypothesis =>
      rw [List.cons_append, List.cons_append, linesBy, if_neg stays, if_neg noEnd,
        ← List.cons_append, inductionHypothesis ended,
        extendFirst_append unit (linesBy_ne_nil (List.cons_ne_nil next rest))]

theorem linesBy_append_ending {first ending : List Unit} {last : Unit}
    (final : first.getLast? = some last) (noFeed : isFeed last = false)
    (noReturn : isReturn last = false) (ends : EndsLine isFeed isReturn ending) :
    linesBy isFeed isReturn (first ++ ending) = linesBy isFeed isReturn first := by
  have inside : ¬ isFeed last = true := Bool.eq_false_iff.mp noFeed
  fun_induction linesBy isFeed isReturn first with
  | case1 => cases final
  | case2 unit feeds => exact absurd (Option.some.inj final ▸ feeds) inside
  | case3 unit stays =>
      have same : unit = last := Option.some.inj final
      have line := linesBy_ending_append ends []
      rw [List.append_nil] at line
      rw [same, List.singleton_append, linesBy_cons noFeed noReturn, line]
      rfl
  | case4 unit next rest feeds inductionHypothesis =>
      rw [List.cons_append, linesBy_feed feeds, inductionHypothesis final]
  | case5 unit next rest stays ended inductionHypothesis =>
      cases rest with
      | nil =>
          rcases Option.some.inj final
          exact absurd (Bool.and_eq_true_iff.mp ended).right inside
      | cons third others =>
          rw [List.cons_append, List.cons_append, linesBy, if_neg stays, if_pos ended,
            inductionHypothesis final]
  | case6 unit next rest stays noEnd inductionHypothesis =>
      rw [List.cons_append, List.cons_append, linesBy, if_neg stays, if_neg noEnd,
        ← List.cons_append, inductionHypothesis final]

theorem EndsLine.getLast?_append {ending : List Unit} (ends : EndsLine isFeed isReturn ending)
    (text : List Unit) : ∀ last ∈ (text ++ ending).getLast?, isFeed last = true := by
  cases ends with
  | feed feeds =>
      intro last final
      rw [List.getLast?_concat] at final
      exact Option.some.inj final ▸ feeds
  | @returnFeed first second _ _ feeds =>
      intro last final
      rw [List.append_cons text first [second], List.getLast?_concat] at final
      exact Option.some.inj final ▸ feeds

/-- The lines of joined texts are those of the first and then those of the second. -/
theorem JoinedAtLine.linesBy_eq {first second whole : List Unit}
    (joined : JoinedAtLine isFeed isReturn first second whole) :
    linesBy isFeed isReturn whole =
      linesBy isFeed isReturn first ++ linesBy isFeed isReturn second := by
  cases joined with
  | behindEnd ended => exact linesBy_append_of_ended ended second
  | @withEnd last ending final noFeed noReturn ends =>
      rw [linesBy_append_of_ended (ends.getLast?_append first) second,
        linesBy_append_ending final noFeed noReturn ends]

end LogLayout.Text
