import LogLayout.Proofs.Toml.LineEnds
import LogLayout.Toml.Number

namespace LogLayout.Toml

/-!
# Numbers and dates with other line ends

Numbers and dates hold no line end, and no reader of them looks behind one.  So on two texts that
are equal up to a line end these readers do the same in every respect: they fail on both, or they
take the same characters of both.  That they fail alike matters where a date is tried first and a
number after it.
-/

/-! ## Texts that are equal up to a line end -/

/-- A text at the end of a line. -/
inductive Stops : List Char → Prop where
  | ended : Stops []
  | feed (behind : List Char) : Stops ('\n' :: behind)
  | carriage (behind : List Char) : Stops ('\r' :: behind)

/-- A character that may stand within a line. -/
def WithinLine (character : Char) : Prop := character ≠ '\n' ∧ character ≠ '\r'

instance (character : Char) : Decidable (WithinLine character) :=
  inferInstanceAs (Decidable (character ≠ '\n' ∧ character ≠ '\r'))

/-- Two texts are the same up to the ends of a line in each, in front of which so many characters
stand at most. -/
structure Aligned (left right : List Char) (bound : Nat) (text other : List Char) : Prop where
  leftStops : Stops left
  rightStops : Stops right
  equal : ∃ front : List Char, front.length ≤ bound ∧
    (∀ character ∈ front, WithinLine character) ∧ text = front ++ left ∧ other = front ++ right

namespace Aligned

variable {left right text other rest : List Char} {bound : Nat}

theorem symm (aligned : Aligned left right bound text other) :
    Aligned right left bound other text := by
  rcases aligned with ⟨leftStops, rightStops, front, short, within, same, sameToo⟩
  exact ⟨rightStops, leftStops, front, short, within, sameToo, same⟩

theorem mono {wider : Nat} (aligned : Aligned left right bound text other)
    (wide : bound ≤ wider) : Aligned left right wider text other := by
  rcases aligned with ⟨leftStops, rightStops, front, short, within, same⟩
  exact ⟨leftStops, rightStops, front, Nat.le_trans short wide, within, same⟩

/-- Both lines end, or the same character stands in front of both texts. -/
theorem cases (aligned : Aligned left right bound text other) :
    (Stops text ∧ Stops other) ∨
      ∃ character behind behindToo, text = character :: behind ∧
        other = character :: behindToo ∧ WithinLine character ∧ 0 < bound ∧
        Aligned left right (bound - 1) behind behindToo := by
  rcases aligned with ⟨leftStops, rightStops, front, short, within, rfl, rfl⟩
  cases front with
  | nil => exact .inl ⟨leftStops, rightStops⟩
  | cons character front =>
      rw [List.length_cons] at short
      rcases List.forall_mem_cons.mp within with ⟨first, later⟩
      exact .inr ⟨character, front ++ left, front ++ right, rfl, rfl, first, by omega,
        leftStops, rightStops, front, by omega, later, rfl, rfl⟩

/-- As many characters are taken of one text as of the other. -/
theorem length (aligned : Aligned left right bound text other) :
    text.length + right.length = other.length + left.length := by
  rcases aligned with ⟨-, -, front, -, -, rfl, rfl⟩
  simp only [List.length_append]
  omega

/-- What stands in front of one text within a line stands in front of the other. -/
theorem exists_append (aligned : Aligned left right bound text other) (front : List Char)
    {behind : List Char} (divided : text = front ++ behind) (noFeed : '\n' ∉ front)
    (noReturn : '\r' ∉ front) :
    ∃ behindToo, other = front ++ behindToo ∧ Aligned left right bound behind behindToo := by
  induction front generalizing text other bound with
  | nil => exact ⟨other, rfl, by rwa [divided] at aligned⟩
  | cons character front inductionHypothesis =>
      rcases List.ne_and_not_mem_of_not_mem_cons noFeed with ⟨firstFeed, laterFeed⟩
      rcases List.ne_and_not_mem_of_not_mem_cons noReturn with ⟨firstReturn, laterReturn⟩
      rcases aligned.cases with ⟨stops, -⟩ | ⟨same, tail, tailToo, rfl, rfl, -, -, lower⟩
      · rw [divided] at stops
        cases stops with
        | feed => exact absurd rfl firstFeed
        | carriage => exact absurd rfl firstReturn
      · rcases List.cons.inj divided with ⟨rfl, rest⟩
        rcases inductionHypothesis lower rest laterFeed laterReturn with ⟨behindToo, rfl, last⟩
        exact ⟨behindToo, rfl, last.mono (Nat.sub_le _ _)⟩

/-- What does not stand in front of one text does not stand in front of the other. -/
theorem missing (aligned : Aligned left right bound text other) (front : List Char)
    (noFeed : '\n' ∉ front) (noReturn : '\r' ∉ front)
    (absent : ∀ behind, text = front ++ behind → False) (behind : List Char)
    (divided : other = front ++ behind) : False := by
  rcases aligned.symm.exists_append front divided noFeed noReturn with ⟨first, dividedToo, -⟩
  exact absent first dividedToo

/-- A run within a line is the same in both texts. -/
theorem dropWhile (aligned : Aligned left right bound text other) {test : Char → Bool}
    (noFeed : test '\n' = false) (noReturn : test '\r' = false) :
    Aligned left right bound (text.dropWhile test) (other.dropWhile test) := by
  rcases aligned with ⟨leftStops, rightStops, front, short, within, rfl, rfl⟩
  have stops {last : List Char} (stops : Stops last) : last.dropWhile test = last := by
    cases stops <;> simp [noFeed, noReturn]
  induction front with
  | nil =>
      rw [List.nil_append, List.nil_append, stops leftStops, stops rightStops]
      exact ⟨leftStops, rightStops, [], Nat.zero_le _, within, rfl, rfl⟩
  | cons character front inductionHypothesis =>
      cases taken : test character with
      | true =>
          simp only [List.cons_append, List.dropWhile_cons, taken, if_true]
          exact inductionHypothesis (Nat.le_of_succ_le short) (List.forall_mem_cons.mp within).2
      | false =>
          simp only [List.cons_append, List.dropWhile_cons, taken, Bool.false_eq_true, if_false]
          exact ⟨leftStops, rightStops, character :: front, short, within, rfl, rfl⟩

/-- The text that was read is the same. -/
theorem writtenText {behind behindToo : List Char} {wide : Nat}
    (aligned : Aligned left right wide text other)
    (later : Aligned left right bound behind behindToo) :
    Toml.writtenText text behind = Toml.writtenText other behindToo := by
  rcases aligned with ⟨-, -, front, -, -, rfl, rfl⟩
  rcases later with ⟨-, -, last, -, -, rfl, rfl⟩
  have taken (ending : List Char) : (front ++ ending).take
      ((front ++ ending).length - (last ++ ending).length) =
      front.take (front.length - last.length) := by
    rw [List.length_append, List.length_append, Nat.add_sub_add_right,
      List.take_append_of_le_length (Nat.sub_le _ _)]
  rw [Toml.writtenText, Toml.writtenText, taken, taken]

end Aligned

/-! ## Readers that stay within a line -/

/-- Two outcomes of reading: failures, or the same value with texts that are equal up to the ends
of a line. -/
abbrev Together {Value : Type} (left right : List Char) (bound : Nat) :
    Option (Value × List Char) → Option (Value × List Char) → Prop :=
  Option.Rel fun first second =>
    first.1 = second.1 ∧ Aligned left right bound first.2 second.2

/-- A reader does the same on texts that are equal up to the ends of a line. -/
def StaysInLine {Value : Type} (read : Reader Value) : Prop :=
  ∀ ⦃left right bound text other⦄, Aligned left right bound text other →
    Together left right bound (read text) (read other)

/-- The same for a reader without a value. -/
def SkipsInLine (skip : List Char → Option (List Char)) : Prop :=
  ∀ ⦃left right bound text other⦄, Aligned left right bound text other →
    Option.Rel (Aligned left right bound) (skip text) (skip other)

section Outcomes

variable {First Second Third Fourth Value : Type} {left right : List Char} {bound : Nat}

/-- Related outcomes stay related if what is done next keeps them so. -/
theorem rel_bind {related : First → Second → Prop} {later : Third → Fourth → Prop}
    {first : Option First} {second : Option Second} {next : First → Option Third}
    {nextToo : Second → Option Fourth} (outcomes : Option.Rel related first second)
    (keeps : ∀ value other, related value other → Option.Rel later (next value) (nextToo other)) :
    Option.Rel later (first.bind next) (second.bind nextToo) := by
  cases outcomes with
  | none => exact .none
  | some values => exact keeps _ _ values

theorem together_consed (character : Char) {first second : Option (List Char × List Char)}
    (together : Together left right bound first second) :
    Together left right bound (consed character first) (consed character second) := by
  cases together with
  | none => exact .none
  | some values => exact .some ⟨congrArg (character :: ·) values.1, values.2⟩

theorem together_map {Result : Type} {first second : Option (Value × List Char)}
    (together : Together left right bound first second) (change : Value → Result) :
    Together left right bound (first.map fun (value, rest) => (change value, rest))
      (second.map fun (value, rest) => (change value, rest)) := by
  cases together with
  | none => exact .none
  | some values => exact .some ⟨congrArg change values.1, values.2⟩

/-- What may be missing at the end of a line is missing in both texts, and otherwise the first
character is the same. -/
theorem staysInLine_of_optional {read : Reader Value} {absent : Value}
    (ended : ∀ {last}, Stops last → read last = some (absent, last))
    (begun : ∀ {left right bound text other} (character : Char),
      Aligned left right bound text other →
      Aligned left right bound (character :: text) (character :: other) →
      Together left right bound (read (character :: text)) (read (character :: other))) :
    StaysInLine read := by
  intro left right bound text other aligned
  rcases aligned.cases with ⟨stops, stopsToo⟩ | ⟨character, text, other, rfl, rfl, -, -, tail⟩
  · rw [ended stops, ended stopsToo]
    exact .some ⟨rfl, aligned⟩
  · exact begun character (tail.mono (Nat.sub_le _ _)) aligned

theorem skipsInLine_of_optional {skip : List Char → Option (List Char)}
    (ended : ∀ {last}, Stops last → skip last = some last)
    (begun : ∀ {left right bound text other} (character : Char),
      Aligned left right bound text other →
      Aligned left right bound (character :: text) (character :: other) →
      Option.Rel (Aligned left right bound) (skip (character :: text))
        (skip (character :: other))) :
    SkipsInLine skip := by
  intro left right bound text other aligned
  rcases aligned.cases with ⟨stops, stopsToo⟩ | ⟨character, text, other, rfl, rfl, -, -, tail⟩
  · rw [ended stops, ended stopsToo]
    exact .some aligned
  · exact begun character (tail.mono (Nat.sub_le _ _)) aligned

end Outcomes

/-! ## Digits -/

section Digits

variable {left right text other : List Char} {bound : Nat} {test : Char → Bool}

theorem staysInLine_readMoreDigits (noFeed : test '\n' = false) (noReturn : test '\r' = false) :
    StaysInLine (readMoreDigits test) := by
  intro left right bound text
  induction length : text.length using Nat.strongRecOn generalizing text bound with
  | ind size shorter =>
      subst length
      intro other aligned
      rcases aligned.cases with ⟨stops, stopsToo⟩ | ⟨character, text, other, rfl, rfl, -, -, tail⟩
      · have ended {last : List Char} (stops : Stops last) :
            readMoreDigits test last = some ([], last) := by
          cases stops <;> simp [readMoreDigits, noFeed, noReturn]
        rw [ended stops, ended stopsToo]
        exact .some ⟨rfl, aligned⟩
      have wider := tail.mono (Nat.sub_le bound 1)
      by_cases underscore : character = '_'
      · subst underscore
        rcases wider.cases with ⟨stops, stopsToo⟩ | ⟨digit, text, other, rfl, rfl, -, -, last⟩
        · have lone {last : List Char} (stops : Stops last) :
              readMoreDigits test ('_' :: last) = none := by
            cases stops <;> simp [readMoreDigits, noFeed, noReturn]
          rw [lone stops, lone stopsToo]
          exact .none
        · rw [readMoreDigits, readMoreDigits]
          split
          next =>
            have fewer : text.length < ('_' :: digit :: text).length :=
              Nat.lt_succ_of_lt (Nat.lt_succ_self _)
            exact together_consed digit
              (shorter _ fewer rfl (last.mono (Nat.sub_le _ _)))
          next => exact .none
      · rw [readMoreDigits, readMoreDigits]
        · split
          next =>
            exact together_consed character
              (shorter _ (Nat.lt_succ_self _) rfl wider)
          next => exact .some ⟨rfl, aligned⟩
        all_goals exact fun _ => by simp_all

theorem staysInLine_readDigits (noFeed : test '\n' = false) (noReturn : test '\r' = false) :
    StaysInLine (readDigits test) := by
  intro left right bound text other aligned
  rcases aligned.cases with ⟨stops, stopsToo⟩ | ⟨digit, text, other, rfl, rfl, -, -, tail⟩
  · have ended {last : List Char} (stops : Stops last) : readDigits test last = none := by
      cases stops <;> simp [readDigits, noFeed, noReturn]
    rw [ended stops, ended stopsToo]
    exact .none
  · simp only [readDigits]
    split
    next =>
      exact together_consed digit (staysInLine_readMoreDigits noFeed noReturn
        (tail.mono (Nat.sub_le _ _)))
    next => exact .none

theorem staysInLine_decimals : StaysInLine (readDigits Char.isDigit) :=
  staysInLine_readDigits (by decide) (by decide)

theorem staysInLine_readWhole : StaysInLine readWhole := by
  intro left right bound text other aligned
  rcases aligned.cases with ⟨stops, stopsToo⟩ | ⟨digit, text, other, rfl, rfl, -, -, tail⟩
  · cases stops <;> cases stopsToo <;> exact .none
  · by_cases zero : digit = '0'
    · subst zero
      exact .some ⟨rfl, tail.mono (Nat.sub_le _ _)⟩
    · rw [readWhole, readWhole]
      · exact staysInLine_decimals aligned
      all_goals exact fun _ same => zero (List.cons.inj same).1

end Digits

/-! ## Numbers -/

section Numbers

variable {left right text other : List Char} {bound : Nat}

theorem staysInLine_readInteger {base : Nat} {test : Char → Bool} (noFeed : test '\n' = false)
    (noReturn : test '\r' = false) : StaysInLine (readInteger base test) := by
  intro left right bound text other aligned
  refine rel_bind (staysInLine_readDigits noFeed noReturn aligned) ?_
  rintro ⟨digits, rest⟩ ⟨_, restToo⟩ ⟨rfl, later⟩
  dsimp only
  cases integer? (numberOf base digits) with
  | none => exact .none
  | some value => exact .some ⟨rfl, later⟩

theorem staysInLine_readFraction : StaysInLine readFraction := by
  refine staysInLine_of_optional (fun stops => by cases stops <;> rfl) fun point tail aligned => ?_
  by_cases dot : point = '.'
  · subst dot
    exact staysInLine_decimals tail
  · rw [readFraction, readFraction]
    · exact .some ⟨rfl, aligned⟩
    all_goals exact fun _ same => dot (List.cons.inj same).1

theorem staysInLine_readSigned : StaysInLine readSigned := by
  intro left right bound text other aligned
  have digits {text other : List Char} (aligned : Aligned left right bound text other)
      (change : List Char → Int) :=
    together_map (staysInLine_decimals aligned) change
  rcases aligned.cases with ⟨stops, stopsToo⟩ | ⟨sign, text, other, rfl, rfl, -, -, tail⟩
  · cases stops <;> cases stopsToo <;> exact .none
  · have tail := tail.mono (Nat.sub_le bound 1)
    by_cases minus : sign = '-'
    · subst minus
      exact digits tail fun digits => -(Text.digitsValue digits : Int)
    by_cases plus : sign = '+'
    · subst plus
      exact digits tail fun digits => (Text.digitsValue digits : Int)
    rw [readSigned, readSigned]
    · exact digits aligned fun digits => (Text.digitsValue digits : Int)
    all_goals exact fun _ same => by simp_all

theorem staysInLine_readExponent : StaysInLine readExponent := by
  refine staysInLine_of_optional (fun stops => by cases stops <;> rfl) fun mark tail aligned => ?_
  by_cases small : mark = 'e'
  · subst small
    exact staysInLine_readSigned tail
  by_cases capital : mark = 'E'
  · subst capital
    exact staysInLine_readSigned tail
  rw [readExponent, readExponent]
  · exact .some ⟨rfl, aligned⟩
  all_goals exact fun _ same => by simp_all

/-- Whether a number is an integer is seen from what was taken for a fraction and an exponent, and
that is as much in both texts. -/
theorem staysInLine_readDecimal (negative : Bool) : StaysInLine (readDecimal negative) := by
  intro left right bound text other aligned
  refine rel_bind (staysInLine_readWhole aligned) ?_
  rintro ⟨whole, afterWhole⟩ ⟨_, afterWholeToo⟩ ⟨rfl, wholeAligned⟩
  refine rel_bind (staysInLine_readFraction wholeAligned) ?_
  rintro ⟨fraction, afterFraction⟩ ⟨_, afterFractionToo⟩ ⟨rfl, fractionAligned⟩
  refine rel_bind (staysInLine_readExponent fractionAligned) ?_
  rintro ⟨exponent, rest⟩ ⟨_, restToo⟩ ⟨rfl, later⟩
  have same : rest.length = afterWhole.length ↔ restToo.length = afterWholeToo.length := by
    have wholeLength := wholeAligned.length
    have restLength := later.length
    dsimp only at wholeLength restLength
    omega
  dsimp only
  by_cases integral : rest.length = afterWhole.length
  · rw [if_pos integral, if_pos (same.mp integral)]
    generalize (if negative = true then _ else _ : Int) = value
    cases integer? value with
    | none => exact .none
    | some value => exact .some ⟨rfl, later⟩
  · rw [if_neg integral, if_neg fun integralToo => integral (same.mpr integralToo)]
    split
    next => exact .none
    next => exact .some ⟨congrArg Value.float (aligned.writtenText later), later⟩

/-- A reader of several characters ahead, of which others are read if they are not there. -/
theorem staysInLine_readUnsigned (negative : Bool) : StaysInLine (readUnsigned negative) := by
  intro left right bound text other aligned
  unfold readUnsigned
  split
  next rest =>
    rcases aligned.exists_append ['i', 'n', 'f'] rfl (by decide) (by decide) with
      ⟨restToo, rfl, later⟩
    exact .some ⟨rfl, later⟩
  next rest =>
    rcases aligned.exists_append ['n', 'a', 'n'] rfl (by decide) (by decide) with
      ⟨restToo, rfl, later⟩
    exact .some ⟨rfl, later⟩
  next noInfinity noNumber =>
    split
    next rest =>
      exact (aligned.missing ['i', 'n', 'f'] (by decide) (by decide) noInfinity rest rfl).elim
    next rest =>
      exact (aligned.missing ['n', 'a', 'n'] (by decide) (by decide) noNumber rest rfl).elim
    next => exact staysInLine_readDecimal negative aligned

/-- A prefix of an integer in another base, if it stands in front of either text, stands in front
of both. -/
theorem staysInLine_readNumber : StaysInLine readNumber := by
  have hexadecimal : StaysInLine (readInteger 16 fun digit => (Text.hexValue? digit).isSome) :=
    staysInLine_readInteger (by decide) (by decide)
  have octal : StaysInLine (readInteger 8 fun digit => '0' ≤ digit && digit ≤ '7') :=
    staysInLine_readInteger (by decide) (by decide)
  have binary : StaysInLine (readInteger 2 fun digit => digit == '0' || digit == '1') :=
    staysInLine_readInteger (by decide) (by decide)
  intro left right bound text other aligned
  unfold readNumber
  split
  next rest =>
    rcases aligned.exists_append ['0', 'x'] rfl (by decide) (by decide) with ⟨restToo, rfl, later⟩
    exact hexadecimal later
  next rest =>
    rcases aligned.exists_append ['0', 'o'] rfl (by decide) (by decide) with ⟨restToo, rfl, later⟩
    exact octal later
  next rest =>
    rcases aligned.exists_append ['0', 'b'] rfl (by decide) (by decide) with ⟨restToo, rfl, later⟩
    exact binary later
  next rest =>
    rcases aligned.exists_append ['-'] rfl (by decide) (by decide) with ⟨restToo, rfl, later⟩
    exact staysInLine_readUnsigned true later
  next rest =>
    rcases aligned.exists_append ['+'] rfl (by decide) (by decide) with ⟨restToo, rfl, later⟩
    exact staysInLine_readUnsigned false later
  next noHexadecimal noOctal noBinary noMinus noPlus =>
    split
    next rest =>
      exact (aligned.missing ['0', 'x'] (by decide) (by decide) noHexadecimal rest rfl).elim
    next rest => exact (aligned.missing ['0', 'o'] (by decide) (by decide) noOctal rest rfl).elim
    next rest => exact (aligned.missing ['0', 'b'] (by decide) (by decide) noBinary rest rfl).elim
    next rest => exact (aligned.missing ['-'] (by decide) (by decide) noMinus rest rfl).elim
    next rest => exact (aligned.missing ['+'] (by decide) (by decide) noPlus rest rfl).elim
    next => exact staysInLine_readUnsigned false aligned

end Numbers

/-! ## Dates and times -/

section Dates

variable {left right text other : List Char} {bound : Nat}

/-- So many digits stand in front of both texts or of neither. -/
theorem Aligned.digits (aligned : Aligned left right bound text other) (count : Nat) :
    (text.take count = other.take count ∧
        Aligned left right bound (text.drop count) (other.drop count)) ∨
      (¬((text.take count).length = count ∧ (text.take count).all Char.isDigit = true) ∧
        ¬((other.take count).length = count ∧ (other.take count).all Char.isDigit = true)) := by
  rcases aligned with ⟨leftStops, rightStops, front, short, within, rfl, rfl⟩
  by_cases enough : count ≤ front.length
  · left
    simp only [List.take_append_of_le_length enough, List.drop_append_of_le_length enough]
    refine ⟨trivial, leftStops, rightStops, front.drop count, ?_, ?_, rfl, rfl⟩
    · exact Nat.le_trans (List.drop_sublist _ _).length_le short
    · exact fun character member => within character (List.mem_of_mem_drop member)
  · right
    have broken {last : List Char} (stops : Stops last) :
        ¬(((front ++ last).take count).length = count ∧
          ((front ++ last).take count).all Char.isDigit = true) := by
      rintro ⟨full, digits⟩
      rw [List.length_take, List.length_append] at full
      rw [List.take_append, List.all_append, Bool.and_eq_true] at digits
      have more : count - front.length = count - front.length - 1 + 1 := by omega
      rw [more] at digits
      cases stops with
      | ended =>
          rw [List.length_nil] at full
          omega
      | feed behind => simp [List.take_succ_cons] at digits
      | carriage behind => simp [List.take_succ_cons] at digits
    exact ⟨broken leftStops, broken rightStops⟩

theorem staysInLine_readFixed (count least greatest : Nat) :
    StaysInLine (readFixed count least greatest) := by
  intro left right bound text other aligned
  simp only [readFixed]
  rcases aligned.digits count with ⟨same, later⟩ | ⟨broken, brokenToo⟩
  · rw [same]
    split
    next => exact .some ⟨rfl, later⟩
    next => exact .none
  · rw [if_neg, if_neg]
    · exact .none
    · simp only [Bool.and_eq_true, decide_eq_true_eq]
      exact fun met => brokenToo met.1.1
    · simp only [Bool.and_eq_true, decide_eq_true_eq]
      exact fun met => broken met.1.1

theorem skipsInLine_readMark {mark : Char} (within : WithinLine mark) :
    SkipsInLine (readMark mark) := by
  intro left right bound text other aligned
  rcases aligned.cases with ⟨stops, stopsToo⟩ | ⟨character, text, other, rfl, rfl, -, -, tail⟩
  · have missing {last : List Char} (stops : Stops last) : readMark mark last = none := by
      cases stops with
      | ended => rfl
      | feed behind => exact if_neg (Ne.symm within.1)
      | carriage behind => exact if_neg (Ne.symm within.2)
    rw [missing stops, missing stopsToo]
    exact .none
  · simp only [readMark]
    split
    next => exact .some (tail.mono (Nat.sub_le _ _))
    next => exact .none

theorem skipsInLine_skipDay : SkipsInLine skipDay := by
  intro left right bound text other aligned
  have dash : SkipsInLine (readMark '-') := skipsInLine_readMark (by decide)
  refine rel_bind (staysInLine_readFixed 4 0 9999 aligned) ?_
  rintro ⟨year, behindYear⟩ ⟨_, behindYearToo⟩ ⟨rfl, yearAligned⟩
  refine rel_bind (dash yearAligned) fun first second marked => ?_
  refine rel_bind (staysInLine_readFixed 2 1 12 marked) ?_
  rintro ⟨month, behindMonth⟩ ⟨_, behindMonthToo⟩ ⟨rfl, monthAligned⟩
  refine rel_bind (dash monthAligned) fun first second marked => ?_
  refine rel_bind (staysInLine_readFixed 2 1 _ marked) ?_
  rintro ⟨day, behindDay⟩ ⟨_, behindDayToo⟩ ⟨rfl, dayAligned⟩
  exact .some dayAligned

theorem skipsInLine_skipSecondFraction : SkipsInLine skipSecondFraction := by
  refine skipsInLine_of_optional (fun stops => by cases stops <;> rfl) ?_
  intro left right bound text other point tail aligned
  by_cases dot : point = '.'
  · subst dot
    have digits : Aligned left right bound (text.dropWhile Char.isDigit)
        (other.dropWhile Char.isDigit) := tail.dropWhile (by decide) (by decide)
    have before := tail.length
    have after := digits.length
    simp only [skipSecondFraction]
    by_cases taken : (text.dropWhile Char.isDigit).length < text.length
    · rw [if_pos taken, if_pos (by omega)]
      exact .some digits
    · rw [if_neg taken, if_neg (by omega)]
      exact .none
  · rw [skipSecondFraction, skipSecondFraction]
    · exact .some aligned
    all_goals exact fun _ same => dot (List.cons.inj same).1

theorem skipsInLine_skipClock : SkipsInLine skipClock := by
  intro left right bound text other aligned
  have colon : SkipsInLine (readMark ':') := skipsInLine_readMark (by decide)
  refine rel_bind (staysInLine_readFixed 2 0 23 aligned) ?_
  rintro ⟨hour, behindHour⟩ ⟨_, behindHourToo⟩ ⟨rfl, hourAligned⟩
  refine rel_bind (colon hourAligned) fun first second marked => ?_
  refine rel_bind (staysInLine_readFixed 2 0 59 marked) ?_
  rintro ⟨minute, behindMinute⟩ ⟨_, behindMinuteToo⟩ ⟨rfl, minuteAligned⟩
  refine rel_bind (colon minuteAligned) fun first second marked => ?_
  refine rel_bind (staysInLine_readFixed 2 0 60 marked) ?_
  rintro ⟨second, behindSecond⟩ ⟨_, behindSecondToo⟩ ⟨rfl, secondAligned⟩
  exact skipsInLine_skipSecondFraction secondAligned

theorem skipsInLine_skipOffsetSize : SkipsInLine skipOffsetSize := by
  intro left right bound text other aligned
  have colon : SkipsInLine (readMark ':') := skipsInLine_readMark (by decide)
  refine rel_bind (staysInLine_readFixed 2 0 23 aligned) ?_
  rintro ⟨hour, behindHour⟩ ⟨_, behindHourToo⟩ ⟨rfl, hourAligned⟩
  refine rel_bind (colon hourAligned) fun first second marked => ?_
  refine rel_bind (staysInLine_readFixed 2 0 59 marked) ?_
  rintro ⟨minute, behindMinute⟩ ⟨_, behindMinuteToo⟩ ⟨rfl, minuteAligned⟩
  exact .some minuteAligned

theorem skipsInLine_skipOffset : SkipsInLine skipOffset := by
  refine skipsInLine_of_optional (fun stops => by cases stops <;> rfl) fun mark tail aligned => ?_
  by_cases capital : mark = 'Z'
  · subst capital
    exact .some tail
  by_cases small : mark = 'z'
  · subst small
    exact .some tail
  by_cases plus : mark = '+'
  · subst plus
    exact skipsInLine_skipOffsetSize tail
  by_cases minus : mark = '-'
  · subst minus
    exact skipsInLine_skipOffsetSize tail
  rw [skipOffset, skipOffset]
  · exact .some aligned
  all_goals exact fun _ same => by simp_all

theorem skipsInLine_skipClockOfDay : SkipsInLine skipClockOfDay := by
  refine skipsInLine_of_optional (fun stops => by cases stops <;> rfl) ?_
  intro left right bound text other mark tail aligned
  have clock := skipsInLine_skipClock tail
  simp only [skipClockOfDay]
  split
  next =>
    generalize skipClock text = first, skipClock other = second at clock ⊢
    cases clock with
    | none => exact .some aligned
    | some later => exact skipsInLine_skipOffset later
  next => exact .some aligned

theorem staysInLine_readDate : StaysInLine readDate := by
  intro left right bound text other aligned
  have dated {behind behindToo : List Char} (later : Aligned left right bound behind behindToo) :
      Together left right bound (some (Value.date (writtenText text behind), behind))
        (some (Value.date (writtenText other behindToo), behindToo)) :=
    .some ⟨congrArg Value.date (aligned.writtenText later), later⟩
  have day := skipsInLine_skipDay aligned
  simp only [readDate]
  generalize skipDay text = first, skipDay other = second at day ⊢
  cases day with
  | none =>
      exact rel_bind (skipsInLine_skipClock aligned) fun _ _ later => dated later
  | some later =>
      exact rel_bind (skipsInLine_skipClockOfDay later) fun _ _ later => dated later

end Dates

/-! ## The ends of a line -/

/-- Texts with the same lines are equal up to the end of the first line, and behind it they have
the same lines. -/
theorem SameLines.exists_aligned {text other : List Char} (same : SameLines text other) :
    ∃ left right bound, SameLines left right ∧ Aligned left right bound text other ∧
      bound + right.length = other.length := by
  have nothing {left right : List Char} (leftStops : Stops left) (rightStops : Stops right) :
      Aligned left right 0 left right :=
    ⟨leftStops, rightStops, [], Nat.le_refl 0, by simp, rfl, rfl⟩
  induction same with
  | nil => exact ⟨_, _, 0, .nil, nothing .ended .ended, rfl⟩
  | ended => exact ⟨_, _, 0, .ended, nothing .ended (.feed _), rfl⟩
  | feed lines => exact ⟨_, _, 0, .feed lines, nothing (.carriage _) (.feed _), Nat.zero_add _⟩
  | stray lone =>
      exact ⟨_, _, 0, .stray lone, nothing (.carriage _) (.carriage _), Nat.zero_add _⟩
  | @keep character text other plain lines inductionHypothesis =>
      by_cases feed : character = '\n'
      · subst feed
        exact ⟨_, _, 0, .keep plain lines, nothing (.feed _) (.feed _), Nat.zero_add _⟩
      · rcases inductionHypothesis with ⟨left, right, bound, last,
          ⟨leftStops, rightStops, front, short, within, rfl, rfl⟩, full⟩
        refine ⟨left, right, bound + 1, last, ⟨leftStops, rightStops, character :: front,
          Nat.succ_le_succ short, List.forall_mem_cons.mpr ⟨⟨feed, plain⟩, within⟩, rfl, rfl⟩, ?_⟩
        rw [List.length_cons]
        omega

namespace Aligned

variable {left right text other : List Char} {bound : Nat}

/-- Texts that are equal up to the ends of a line have the same lines if they have behind it. -/
theorem sameLines (aligned : Aligned left right bound text other)
    (behind : SameLines left right) : SameLines text other := by
  rcases aligned with ⟨-, -, front, -, within, rfl, rfl⟩
  induction front with
  | nil => exact behind
  | cons character front inductionHypothesis =>
      rcases List.forall_mem_cons.mp within with ⟨first, later⟩
      exact (inductionHypothesis later).keep first.2

theorem length_le (aligned : Aligned left right bound text other) :
    other.length ≤ bound + right.length := by
  rcases aligned with ⟨-, -, front, short, -, -, rfl⟩
  rw [List.length_append]
  exact Nat.add_le_add_right short _

end Aligned

/-- A reader that stays within a line does not see how the line ends. -/
theorem StaysInLine.ignoresLineEnds {Value : Type} {read : Reader Value}
    (stays : StaysInLine read) : IgnoresLineEnds read := by
  intro text other value rest same done
  rcases same.exists_aligned with ⟨left, right, bound, behind, aligned, full⟩
  have together := stays aligned
  rw [done] at together
  generalize read other = result at together ⊢
  cases together with
  | @some first second values =>
  rcases second with ⟨_, last⟩
  rcases values with ⟨rfl, later⟩
  exact ⟨last, rfl, later.sameLines behind, full ▸ later.length_le⟩

/-- Where no date stands in front of a text, none stands in front of the other, and a number is
read. -/
theorem ignoresLineEnds_readDate_orElse :
    IgnoresLineEnds fun text => (readDate text).orElse fun _ => readNumber text := by
  refine StaysInLine.ignoresLineEnds fun left right bound text other aligned => ?_
  have date := staysInLine_readDate aligned
  generalize readDate text = first, readDate other = second at date ⊢
  cases date with
  | none => exact staysInLine_readNumber aligned
  | some later => exact .some later

end LogLayout.Toml
