import LogLayout.Console

namespace LogLayout

/-!
# Sequences in decorated texts

Decoration puts whole sequences into a text: an escape character and an opening bracket, then
digits and semicolons, and the letter that ends them.  A reader of the text sees what is left
when they are taken out again.

Taking them out is a scan of the text, which need not know who put them in.  The relation
`Decorates` says it without a scan: one text is another one with whole sequences in between.
The scan gives the other text back, as long as no sequence was cut in two.
-/

namespace Console

/-! ## Taking sequences out -/

/-- Whether a character can stand between the bracket and the last letter of a sequence. -/
def isParameter (character : Char) : Bool := character.isDigit || character = ';'

/-- The text behind a sequence, from behind its bracket.  There is none if the characters do
not go on like a sequence. -/
def behindSequence? : List Char → Option (List Char)
  | [] => none
  | 'm' :: rest => some rest
  | character :: rest => if isParameter character then behindSequence? rest else none

theorem length_of_behindSequence? {text behind : List Char}
    (found : behindSequence? text = some behind) : behind.length < text.length := by
  fun_induction behindSequence? text with
  | case1 => cases found
  | case2 rest =>
      cases found
      exact Nat.lt_succ_self _
  | case3 character rest _ parameter inductionHypothesis =>
      exact Nat.lt_succ_of_lt (inductionHypothesis found)
  | case4 => cases found

def visibleChars (text : List Char) : List Char :=
  match text with
  | [] => []
  | '\x1b' :: '[' :: rest =>
      match found : behindSequence? rest with
      | some behind =>
          have : behind.length < rest.length := length_of_behindSequence? found
          visibleChars behind
      | none => '\x1b' :: visibleChars ('[' :: rest)
  | character :: rest => character :: visibleChars rest
termination_by text.length

/-- What a reader sees of a text: all sequences are taken out. -/
def visible (text : String) : String := String.ofList (visibleChars text.toList)

/-! ## Putting sequences in -/

/-- The first text is the second one with whole sequences put in.  The second one holds no
escape character. -/
inductive Decorates : List Char → List Char → Prop where
  | nil : Decorates [] []
  | plain {character : Char} {text shown : List Char} (ordinary : character ≠ '\x1b')
    (rest : Decorates text shown) : Decorates (character :: text) (character :: shown)
  | sequence {parameters text shown : List Char}
    (numbers : ∀ character ∈ parameters, isParameter character = true)
    (rest : Decorates text shown) :
    Decorates ('\x1b' :: '[' :: (parameters ++ 'm' :: text)) shown

namespace Decorates

variable {first second text shown other : List Char}

theorem append (decorates : Decorates text shown) (later : Decorates second other) :
    Decorates (text ++ second) (shown ++ other) := by
  induction decorates with
  | nil => exact later
  | plain ordinary rest inductionHypothesis => exact .plain ordinary inductionHypothesis
  | @sequence parameters text shown numbers rest inductionHypothesis =>
      rw [List.cons_append, List.cons_append, List.append_assoc, List.cons_append]
      exact .sequence numbers inductionHypothesis

theorem of_not_mem (absent : '\x1b' ∉ text) : Decorates text text := by
  induction text with
  | nil => exact .nil
  | cons character rest inductionHypothesis =>
      rcases not_or.mp (mt List.mem_cons.mpr absent) with ⟨ordinary, later⟩
      exact .plain (Ne.symm ordinary) (inductionHypothesis later)

theorem not_mem (decorates : Decorates text shown) : '\x1b' ∉ shown := by
  induction decorates with
  | nil => exact List.not_mem_nil
  | plain ordinary rest inductionHypothesis =>
      exact fun member => (List.mem_cons.mp member).elim (fun same => ordinary same.symm)
        inductionHypothesis
  | sequence numbers rest inductionHypothesis => exact inductionHypothesis

theorem behindSequence?_append {parameters : List Char}
    (numbers : ∀ character ∈ parameters, isParameter character = true) (rest : List Char) :
    behindSequence? (parameters ++ 'm' :: rest) = some rest := by
  induction parameters with
  | nil => rfl
  | cons character others inductionHypothesis =>
      rcases List.forall_mem_cons.mp numbers with ⟨number, later⟩
      have unlettered : character ≠ 'm' := fun same => by
        subst same
        exact absurd number (by decide)
      rw [List.cons_append, behindSequence?.eq_3 _ _ unlettered, if_pos number,
        inductionHypothesis later]

theorem visibleChars_eq (decorates : Decorates text shown) : visibleChars text = shown := by
  induction decorates with
  | nil => rw [visibleChars]
  | @plain character text shown ordinary rest inductionHypothesis =>
      rw [visibleChars, inductionHypothesis]
      exact fun _ same => absurd same ordinary
  | @sequence parameters text shown numbers rest inductionHypothesis =>
      rw [visibleChars]
      split
      next behind found =>
        rw [behindSequence?_append numbers] at found
        cases found
        exact inductionHypothesis
      next missing =>
        rw [behindSequence?_append numbers] at missing
        cases missing

end Decorates

/-! ## Decoration -/

theorem isParameter_of_parameters {emphasis : Option Emphasis} {color : Option Color}
    {chosen : String} (selected : parameters emphasis color = some chosen) :
    ∀ character ∈ chosen.toList, isParameter character = true := by
  have listed : ∀ emphasis : Option Emphasis, ∀ color : Option Color,
      ∀ chosen ∈ parameters emphasis color, chosen.toList.all isParameter = true := by
    rintro (_ | _ | _ | _) (_ | _ | _ | _ | _ | _ | _ | _ | _) _ ⟨⟩ <;> decide
  exact List.all_eq_true.mp (listed emphasis color chosen selected)

theorem toList_select (parameters : String) :
    (select parameters).toList = '\x1b' :: '[' :: (parameters.toList ++ ['m']) := by
  change ("\x1b[" ++ parameters ++ "m").toList = _
  simp only [String.toList_append, List.append_assoc]
  rfl

/-- A sequence decorates the text behind it. -/
theorem Decorates.select {text shown : List Char} (decorates : Decorates text shown)
    {parameters : String}
    (numbers : ∀ character ∈ parameters.toList, isParameter character = true) :
    Decorates ((Console.select parameters).toList ++ text) shown := by
  rw [toList_select, List.cons_append, List.cons_append, List.append_assoc]
  exact .sequence numbers decorates

/-- A decorated text is the text with whole sequences put in. -/
theorem Decorates.decorate {text : String} {shown : List Char}
    (decorates : Decorates text.toList shown) (console : Console) (color : Option Color)
    (emphasis : Option Emphasis) :
    Decorates (console.decorate color emphasis text).toList shown := by
  unfold Console.decorate
  split
  · split
    next chosen selected =>
      have ended : Decorates (reset.toList ++ []) [] :=
        Decorates.nil.select fun _ member => absurd member List.not_mem_nil
      have closed := decorates.append ended
      simp only [List.append_nil] at closed
      rw [String.toList_append, String.toList_append, List.append_assoc]
      exact closed.select (isParameter_of_parameters selected)
    next => exact decorates
  · exact decorates

end Console
end LogLayout
