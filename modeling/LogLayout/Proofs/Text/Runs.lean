import LogLayout.Text.Blank
import Mathlib.Data.List.TakeWhile

namespace LogLayout.Text

/-!
# Where a run of characters ends

A run is the longest stretch of characters that pass a test.  Characters that pass it are the
whole run if the text behind them is empty or goes on with one that does not.
-/

variable {test : Char → Bool} {text following : List Char}

theorem takeWhile_of_boundary (boundary : ∀ character ∈ following.head?, test character = false) :
    following.takeWhile test = [] := by
  cases following with
  | nil => rfl
  | cons first rest =>
      exact List.takeWhile_cons_of_neg (by rw [boundary first rfl]; exact Bool.false_ne_true)

theorem dropWhile_of_boundary (boundary : ∀ character ∈ following.head?, test character = false) :
    following.dropWhile test = following := by
  cases following with
  | nil => rfl
  | cons first rest =>
      exact List.dropWhile_cons_of_neg (by rw [boundary first rfl]; exact Bool.false_ne_true)

theorem takeWhile_append (inside : ∀ character ∈ text, test character = true)
    (boundary : ∀ character ∈ following.head?, test character = false) :
    (text ++ following).takeWhile test = text := by
  rw [List.takeWhile_append_of_pos inside, takeWhile_of_boundary boundary, List.append_nil]

theorem dropWhile_append (inside : ∀ character ∈ text, test character = true)
    (boundary : ∀ character ∈ following.head?, test character = false) :
    (text ++ following).dropWhile test = following := by
  rw [List.dropWhile_append_of_pos inside, dropWhile_of_boundary boundary]

/-- Blanks are taken off on both sides of a character that is none. -/
theorem trimChars_append_cons {middle : Char} (visible : isBlank middle = false)
    (before behind : List Char) :
    trimChars (before ++ middle :: behind) =
      dropBlanks before ++ middle :: dropFinalBlanks behind := by
  have kept (front rest : List Char) :
      (front ++ middle :: rest).dropWhile isBlank =
        front.dropWhile isBlank ++ middle :: rest := by
    rw [List.dropWhile_append,
      List.dropWhile_cons_of_neg (by rw [visible]; exact Bool.false_ne_true)]
    split
    next none => rw [List.isEmpty_iff.mp none, List.nil_append]
    next => rfl
  rw [trimChars, dropBlanks, kept, dropFinalBlanks, List.reverse_append,
    List.reverse_cons, List.append_assoc, List.singleton_append, kept, List.reverse_append,
    List.reverse_cons, List.reverse_reverse, List.append_assoc, List.singleton_append]
  rfl

/-- Nothing is left of a text exactly if it holds nothing but blanks. -/
theorem trimChars_eq_nil_iff :
    trimChars text = [] ↔ ∀ character ∈ text, isBlank character = true := by
  constructor
  · intro empty character member
    by_contra visible
    obtain ⟨before, behind, rfl⟩ := List.append_of_mem member
    rw [trimChars_append_cons (Bool.eq_false_iff.mpr visible)] at empty
    exact List.cons_ne_nil _ _ (List.append_eq_nil_iff.mp empty).2
  · intro blank
    rw [trimChars, dropBlanks, List.dropWhile_eq_nil_iff.mpr blank]
    rfl

/-- Blanks around a text that starts and ends with none are taken off, and nothing else. -/
theorem trimChars_around {first last : Char} {before inner behind : List Char}
    (firstVisible : isBlank first = false) (lastVisible : isBlank last = false)
    (blankBefore : ∀ character ∈ before, isBlank character = true)
    (blankBehind : ∀ character ∈ behind, isBlank character = true) :
    trimChars (before ++ first :: (inner ++ last :: behind)) = first :: (inner ++ [last]) := by
  have front : dropBlanks before = [] := List.dropWhile_eq_nil_iff.mpr blankBefore
  have final : (behind.reverse ++ last :: inner.reverse).dropWhile isBlank =
      last :: inner.reverse := by
    apply dropWhile_append
    · intro character member
      exact blankBehind character (List.mem_reverse.mp member)
    · intro character same
      rw [← Option.some.inj same]
      exact lastVisible
  have back : dropFinalBlanks (inner ++ last :: behind) = inner ++ [last] := by
    rw [dropFinalBlanks, List.reverse_append, List.reverse_cons, List.append_assoc,
      List.singleton_append, final, List.reverse_cons, List.reverse_reverse]
  rw [trimChars_append_cons firstVisible, front, back, List.nil_append]

end LogLayout.Text
