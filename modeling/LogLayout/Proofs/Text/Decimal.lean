import LogLayout.Text.Blank
import LogLayout.Text.Decimal
import Mathlib.Algebra.Group.Nat.Defs

namespace LogLayout.Text

/-!
# The range of a number in digits

Reading goes digit by digit and stops as soon as the number has left the range of
32 bits.  Digits only make a number larger in magnitude, so the intermediate checks
come to a single check of the whole number, whose value is the one that the core
library gives to a list of digits.
-/

theorem digitValue?_of_isDigit {digit : Char} (decimal : digit.isDigit = true) :
    digitValue? digit = some (digit.toNat - '0'.toNat) := by
  unfold digitValue?
  rw [if_pos decimal]
  rfl

/-- More digits never make a number smaller. -/
theorem le_ofDigitChars (digits : List Char) (value : Nat) :
    value ≤ Nat.ofDigitChars 10 digits value := by
  induction digits generalizing value with
  | nil => exact Nat.le_of_eq Nat.ofDigitChars_nil.symm
  | cons digit rest inductionHypothesis =>
      rw [Nat.ofDigitChars_cons]
      have step := inductionHypothesis (10 * value + (digit.toNat - '0'.toNat))
      omega

theorem signedDigits_positive {digits : List Char}
    (decimal : ∀ digit ∈ digits, digit.isDigit = true) {value : Nat}
    (within : (value : Int) ≤ greatestInt32) :
    signedDigits false value digits =
      if (Nat.ofDigitChars 10 digits value : Int) ≤ greatestInt32 then
        .ok (Nat.ofDigitChars 10 digits value : Int)
      else .error .tooLarge := by
  induction digits generalizing value with
  | nil => simp only [signedDigits, Nat.ofDigitChars_nil, if_pos within]
  | cons digit rest inductionHypothesis =>
      have here := digitValue?_of_isDigit (decimal digit List.mem_cons_self)
      have later := le_ofDigitChars rest (10 * value + (digit.toNat - '0'.toNat))
      have next : (value : Int) * 10 + ((digit.toNat - '0'.toNat : Nat) : Int) =
          ((10 * value + (digit.toNat - '0'.toNat) : Nat) : Int) := by
        omega
      simp only [signedDigits, here, Bool.false_eq_true, if_false, Nat.ofDigitChars_cons, next]
      split
      next beyond =>
        rw [if_neg (by omega)]
      next still =>
        exact inductionHypothesis (fun other member => decimal other
          (List.mem_cons_of_mem _ member)) (by omega)

/-- Behind a minus sign the only limit is the least number. -/
theorem signedDigits_negative {digits : List Char}
    (decimal : ∀ digit ∈ digits, digit.isDigit = true) {value : Nat}
    (within : leastInt32 ≤ -(value : Int)) :
    signedDigits true (-(value : Int)) digits =
      if leastInt32 ≤ -(Nat.ofDigitChars 10 digits value : Int) then
        .ok (-(Nat.ofDigitChars 10 digits value : Int))
      else .error .tooSmall := by
  induction digits generalizing value with
  | nil => simp only [signedDigits, Nat.ofDigitChars_nil, if_pos within]
  | cons digit rest inductionHypothesis =>
      have here := digitValue?_of_isDigit (decimal digit List.mem_cons_self)
      have later := le_ofDigitChars rest (10 * value + (digit.toNat - '0'.toNat))
      have next : -(value : Int) * 10 - ((digit.toNat - '0'.toNat : Nat) : Int) =
          -((10 * value + (digit.toNat - '0'.toNat) : Nat) : Int) := by
        omega
      simp only [signedDigits, here, if_true, Nat.ofDigitChars_cons, next]
      split
      next beyond =>
        rw [if_neg (by omega)]
      next still =>
        exact inductionHypothesis (fun other member => decimal other
          (List.mem_cons_of_mem _ member)) (by omega)

theorem isDigit_of_signedDigits {negative : Bool} {value result : Int} {digits : List Char}
    (read : signedDigits negative value digits = .ok result) :
    ∀ digit ∈ digits, digit.isDigit = true := by
  induction digits generalizing value with
  | nil => exact fun _ member => absurd member List.not_mem_nil
  | cons digit rest inductionHypothesis =>
      unfold signedDigits at read
      split at read
      next => cases read
      next here =>
        refine List.forall_mem_cons.mpr ⟨(Option.ite_none_right_eq_some.mp here).1, ?_⟩
        dsimp only at read
        split at read <;> split at read
        · cases read
        · exact inductionHypothesis read
        · cases read
        · exact inductionHypothesis read

/-- Digits without a sign are a number up to the greatest one. -/
theorem parseInt32Chars_digits {digits : List Char} (nonempty : digits ≠ [])
    (decimal : ∀ digit ∈ digits, digit.isDigit = true) :
    parseInt32Chars digits =
      if (Nat.ofDigitChars 10 digits 0 : Int) ≤ greatestInt32 then
        .ok (Nat.ofDigitChars 10 digits 0 : Int)
      else .error .tooLarge := by
  refine Eq.trans ?_ (signedDigits_positive decimal (by decide))
  cases digits with
  | nil => exact absurd rfl nonempty
  | cons first rest =>
      have plus : first ≠ '+' := fun same => by
        subst same
        exact absurd (decimal '+' List.mem_cons_self) (by decide)
      have minus : first ≠ '-' := fun same => by
        subst same
        exact absurd (decimal '-' List.mem_cons_self) (by decide)
      unfold parseInt32Chars
      split <;> simp_all

/-- Digits behind a minus sign are a number down to the least one. -/
theorem parseInt32Chars_minus {digits : List Char} (nonempty : digits ≠ [])
    (decimal : ∀ digit ∈ digits, digit.isDigit = true) :
    parseInt32Chars ('-' :: digits) =
      if leastInt32 ≤ -(Nat.ofDigitChars 10 digits 0 : Int) then
        .ok (-(Nat.ofDigitChars 10 digits 0 : Int))
      else .error .tooSmall := by
  refine Eq.trans ?_ (signedDigits_negative decimal (by decide))
  cases digits with
  | nil => exact absurd rfl nonempty
  | cons first rest => simp only [parseInt32Chars, Int.natCast_zero, Int.neg_zero]

/-! ## Numbers of a fixed width -/

/-- Digits write the number that the core library gives to them. -/
theorem digitsValue_eq {digits : List Char} (decimal : ∀ digit ∈ digits, digit.isDigit = true) :
    digitsValue digits = Nat.ofDigitChars 10 digits 0 := by
  have further (value : Nat) :
      digits.foldl (fun value digit => value * 10 + (digitValue? digit).getD 0) value =
        Nat.ofDigitChars 10 digits value := by
    induction digits generalizing value with
    | nil => rw [List.foldl_nil, Nat.ofDigitChars_nil]
    | cons digit rest inductionHypothesis =>
        rcases List.forall_mem_cons.mp decimal with ⟨first, others⟩
        rw [List.foldl_cons, inductionHypothesis others, Nat.ofDigitChars_cons,
          digitValue?_of_isDigit first, Option.getD_some, Nat.mul_comm]
  exact further 0

/-- Zeros behind digits multiply their number by ten each. -/
theorem digitsValue_append_zeros {digits : List Char}
    (decimal : ∀ digit ∈ digits, digit.isDigit = true) (count : Nat) :
    digitsValue (digits ++ List.replicate count '0') = digitsValue digits * 10 ^ count := by
  have zeros : ∀ digit ∈ List.replicate count '0', digit.isDigit = true := fun digit member =>
    List.eq_of_mem_replicate member ▸ rfl
  rw [digitsValue_eq (List.forall_mem_append.mpr ⟨decimal, zeros⟩), digitsValue_eq decimal,
    Nat.ofDigitChars_append, Nat.ofDigitChars_replicate_zero, Nat.mul_comm]

theorem toList_zeroPadded (width number : Nat) :
    (zeroPadded width number).toList =
      List.replicate (width - (Nat.toDigits 10 number).length) '0' ++ Nat.toDigits 10 number := by
  simp only [zeroPadded, String.toList_ofList, Nat.toString_eq_repr, Nat.toList_repr]

theorem isDigit_of_mem_zeroPadded {width number : Nat} :
    ∀ digit ∈ (zeroPadded width number).toList, digit.isDigit = true := by
  rw [toList_zeroPadded, List.forall_mem_append]
  exact ⟨fun digit member => List.eq_of_mem_replicate member ▸ rfl,
    fun digit member => Nat.isDigit_of_mem_toDigits (by decide) (by decide) member⟩

theorem digitsValue_zeroPadded (width number : Nat) :
    digitsValue (zeroPadded width number).toList = number := by
  rw [digitsValue_eq isDigit_of_mem_zeroPadded, toList_zeroPadded, Nat.ofDigitChars_append,
    Nat.ofDigitChars_replicate_zero, Nat.mul_zero, Nat.ofDigitChars_ten_toDigits]

/-- A number that has no more digits than that is padded to just the width. -/
theorem length_zeroPadded {width number : Nat} (positive : 0 < width)
    (fits : number < 10 ^ width) : (zeroPadded width number).toList.length = width := by
  have short := (Nat.length_toDigits_le_iff (by decide) positive).mpr fits
  rw [toList_zeroPadded, List.length_append, List.length_replicate]
  omega

theorem toList_zeroPadded_two {number : Nat} (fits : number < 100) :
    (zeroPadded 2 number).toList = [(number / 10).digitChar, (number % 10).digitChar] := by
  rw [toList_zeroPadded, Nat.toDigits_eq_if (by decide)]
  by_cases small : number < 10
  · rw [if_pos small, Nat.div_eq_of_lt small, Nat.mod_eq_of_lt small]
    rfl
  · rw [if_neg small, Nat.toDigits_of_lt_base (by omega : number / 10 < 10)]
    rfl

theorem exists_cons_zeroPadded {width number : Nat} (positive : 0 < width)
    (fits : number < 10 ^ width) :
    ∃ first others, (zeroPadded width number).toList = first :: others ∧
      first.isDigit = true := by
  have decimal := @isDigit_of_mem_zeroPadded width number
  have long := length_zeroPadded positive fits
  cases same : (zeroPadded width number).toList with
  | nil =>
      rw [same, List.length_nil] at long
      omega
  | cons first others =>
      rw [same] at decimal
      exact ⟨first, others, rfl, decimal first List.mem_cons_self⟩

theorem isBlank_of_isDigit {character : Char} (digit : character.isDigit = true) :
    isBlank character = false := by
  have range := Char.isDigit_iff_toNat.mp digit
  have low : ('0' : Char).toNat = 48 := rfl
  have high : ('9' : Char).toNat = 57 := rfl
  unfold isBlank
  simp only [Bool.or_eq_false_iff, Bool.and_eq_false_iff, decide_eq_false_iff_not,
    beq_eq_false_iff_ne]
  omega

end LogLayout.Text
