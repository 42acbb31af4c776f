import LogLayout.Proofs.Text.Decimal
import Mathlib.Algebra.GroupWithZero.Nat
import Mathlib.Data.List.Lex
import Mathlib.Data.String.Basic

namespace LogLayout.Text

/-!
# Texts in the order of their numbers

Texts are compared character by character from the left.  Numbers that are padded to one width then
stand in their own order, and so do texts of several such numbers with marks between them, compared
number by number.
-/

/-- Of two lists of one length the lesser one stays the lesser, whatever comes behind them. -/
theorem append_lt_append {Item : Type} [LinearOrder Item] {first second : List Item}
    (same : first.length = second.length) (less : first < second) (behind others : List Item) :
    first ++ behind < second ++ others := by
  induction first generalizing second with
  | nil =>
      cases List.length_eq_zero_iff.mp same.symm
      exact absurd less (List.lt_irrefl [])
  | cons character rest inductionHypothesis =>
      cases second with
      | nil => exact absurd less (List.not_lt_nil _)
      | cons other more =>
          rw [List.cons_append, List.cons_append, List.cons_lt_cons_iff]
          rcases List.cons_lt_cons_iff.mp less with here | ⟨equal, later⟩
          · exact .inl here
          · exact .inr ⟨equal, inductionHypothesis (Nat.succ.inj same) later⟩

/-- Texts that are cut to one length keep their order, or become equal. -/
theorem take_lt_or_eq {first second : List Char} (less : first < second) (count : Nat) :
    first.take count < second.take count ∨ first.take count = second.take count := by
  induction count generalizing first second with
  | zero => exact .inr rfl
  | succ count inductionHypothesis =>
      cases second with
      | nil => exact absurd less (List.not_lt_nil _)
      | cons other more =>
          rw [List.take_succ_cons]
          cases first with
          | nil => exact .inl (List.nil_lt_cons _ _)
          | cons character rest =>
              rw [List.take_succ_cons, List.cons_lt_cons_iff]
              rcases List.cons_lt_cons_iff.mp less with here | ⟨rfl, later⟩
              · exact .inl (.inl here)
              · exact (inductionHypothesis later).imp (fun before => .inr ⟨rfl, before⟩)
                  (congrArg (character :: ·))

/-! ## Numbers of one width -/

/-- The greater number stays the greater, whatever digits are put behind both, if there are as many
of them. -/
theorem ofDigitChars_lt_of_lt {first second : List Char} (same : first.length = second.length)
    (decimal : ∀ digit ∈ first, digit.isDigit = true) {value other : Nat} (less : value < other) :
    Nat.ofDigitChars 10 first value < Nat.ofDigitChars 10 second other := by
  induction first generalizing second value other with
  | nil =>
      cases List.length_eq_zero_iff.mp same.symm
      exact less
  | cons digit rest inductionHypothesis =>
      cases second with
      | nil => cases same
      | cons another more =>
          rcases List.forall_mem_cons.mp decimal with ⟨here, later⟩
          have range := Char.isDigit_iff_toNat.mp here
          have zero : ('0' : Char).toNat = 48 := rfl
          have nine : ('9' : Char).toNat = 57 := rfl
          rw [Nat.ofDigitChars_cons, Nat.ofDigitChars_cons]
          exact inductionHypothesis (Nat.succ.inj same) later (by omega)

/-- As many digits are the lesser number if they are the lesser text. -/
theorem ofDigitChars_lt {first second : List Char} (same : first.length = second.length)
    (decimal : ∀ digit ∈ first ++ second, digit.isDigit = true) (less : first < second)
    (value : Nat) : Nat.ofDigitChars 10 first value < Nat.ofDigitChars 10 second value := by
  induction first generalizing second value with
  | nil =>
      cases List.length_eq_zero_iff.mp same.symm
      exact absurd less (List.lt_irrefl [])
  | cons digit rest inductionHypothesis =>
      cases second with
      | nil => cases same
      | cons another more =>
          rcases List.forall_mem_append.mp decimal with ⟨firstDecimal, secondDecimal⟩
          rcases List.forall_mem_cons.mp firstDecimal with ⟨here, later⟩
          rcases List.forall_mem_cons.mp secondDecimal with ⟨there, behind⟩
          rw [Nat.ofDigitChars_cons, Nat.ofDigitChars_cons]
          rcases List.cons_lt_cons_iff.mp less with before | ⟨rfl, after⟩
          · have apart : digit.toNat < another.toNat := before
            have low := (Char.isDigit_iff_toNat.mp here).1
            exact ofDigitChars_lt_of_lt (Nat.succ.inj same) later (by omega)
          · exact inductionHypothesis (Nat.succ.inj same)
              (List.forall_mem_append.mpr ⟨later, behind⟩) after _

theorem zeroPadded_lt {width first second : Nat} (positive : 0 < width) (less : first < second)
    (fits : second < 10 ^ width) :
    (zeroPadded width first).toList < (zeroPadded width second).toList := by
  have value (number : Nat) :
      Nat.ofDigitChars 10 (zeroPadded width number).toList 0 = number := by
    rw [← digitsValue_eq isDigit_of_mem_zeroPadded, digitsValue_zeroPadded]
  rcases lt_trichotomy (zeroPadded width first).toList (zeroPadded width second).toList
    with before | same | after
  · exact before
  · have equal := congrArg (Nat.ofDigitChars 10 · 0) same
    simp only [value] at equal
    exact absurd equal (Nat.ne_of_lt less)
  · have greater := ofDigitChars_lt
      ((length_zeroPadded positive fits).trans
        (length_zeroPadded positive (Nat.lt_trans less fits)).symm)
      (List.forall_mem_append.mpr ⟨isDigit_of_mem_zeroPadded, isDigit_of_mem_zeroPadded⟩) after 0
    rw [value, value] at greater
    exact absurd greater (Nat.lt_asymm less)

/-! ## Several numbers -/

def markedNumbers : List (Nat × Char) → List Nat → List Char
  | (width, mark) :: fields, number :: numbers =>
      (zeroPadded width number).toList ++ mark :: markedNumbers fields numbers
  | _, _ => []

/-- There is a number for every field, and it has no more digits than the field is wide. -/
def Fit : List (Nat × Char) → List Nat → Prop :=
  List.Forall₂ fun field number => 0 < field.1 ∧ number < 10 ^ field.1

theorem length_markedNumbers {fields : List (Nat × Char)} {numbers : List Nat}
    (fit : Fit fields numbers) :
    (markedNumbers fields numbers).length = (fields.map (·.1 + 1)).sum := by
  induction fit with
  | nil => rfl
  | cons here _ inductionHypothesis =>
      rw [markedNumbers, List.length_append, List.length_cons, inductionHypothesis,
        length_zeroPadded here.1 here.2, List.map_cons, List.sum_cons]
      omega

theorem markedNumbers_lt {fields : List (Nat × Char)} {numbers others : List Nat}
    (fit : Fit fields numbers) (otherFit : Fit fields others) (less : numbers < others) :
    markedNumbers fields numbers < markedNumbers fields others := by
  induction fit generalizing others with
  | nil =>
      cases otherFit
      exact absurd less (List.lt_irrefl [])
  | cons here _ inductionHypothesis =>
      cases otherFit with
      | cons there later =>
          rw [markedNumbers, markedNumbers]
          rcases List.cons_lt_cons_iff.mp less with before | ⟨rfl, behind⟩
          · exact append_lt_append
              ((length_zeroPadded here.1 here.2).trans (length_zeroPadded here.1 there.2).symm)
              (zeroPadded_lt here.1 before there.2) _ _
          · exact List.append_left_lt (List.cons_lt_cons_iff.mpr
              (.inr ⟨rfl, inductionHypothesis later behind⟩))

end LogLayout.Text
