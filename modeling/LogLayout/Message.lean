namespace LogLayout.Message

/-!
Message templates, in which every `{}` stands for the next argument.

A backslash before a placeholder makes it literal, and a doubled backslash is a
backslash before an argument.  Placeholders for which no argument is left stay
as they are written.
-/

/-- Cut a text at its first placeholder: the text before it and the text behind
it. -/
def cutAtPlaceholder : List Char → Option (List Char × List Char)
  | [] => none
  | '\x7b' :: '\x7d' :: rest => some ([], rest)
  | character :: rest =>
      (cutAtPlaceholder rest).map fun (before, behind) => (character :: before, behind)

theorem length_of_cutAtPlaceholder {text before behind : List Char}
    (cut : cutAtPlaceholder text = some (before, behind)) :
    behind.length < text.length := by
  induction text using cutAtPlaceholder.induct generalizing before behind with
  | case1 => simp [cutAtPlaceholder] at cut
  | case2 rest =>
      simp only [cutAtPlaceholder, Option.some.injEq, Prod.mk.injEq] at cut
      simp only [List.length_cons, ← cut.2]
      omega
  | case3 character rest notPlaceholder inductionHypothesis =>
      rw [cutAtPlaceholder.eq_3 _ _ notPlaceholder, Option.map_eq_some_iff] at cut
      obtain ⟨⟨first, second⟩, found, same⟩ := cut
      simp only [Prod.mk.injEq] at same
      have shorter := inductionHypothesis found
      simp only [List.length_cons, ← same.2]
      omega

/-- How the text before a placeholder ends, which decides what the placeholder
is. -/
inductive Lead where
  /-- A single backslash, which is dropped and makes the placeholder literal. -/
  | escaped (kept : List Char)
  /-- Anything else; a last backslash, which then has another before it, is
  dropped. -/
  | fillable (kept : List Char)
  deriving DecidableEq

/-- Classify the text before a placeholder. -/
def lead (before : List Char) : Lead :=
  match before.reverse with
  | '\\' :: '\\' :: rest => .fillable ('\\' :: rest).reverse
  | '\\' :: rest => .escaped rest.reverse
  | _ => .fillable before

/-- Fill the placeholders of a template from left to right. -/
def fillChars (template : List Char) (arguments : List (List Char)) : List Char :=
  match cut : cutAtPlaceholder template with
  | none => template
  | some (before, behind) =>
      have : behind.length < template.length := length_of_cutAtPlaceholder cut
      match lead before with
      | .escaped kept => kept ++ '\x7b' :: '\x7d' :: fillChars behind arguments
      | .fillable kept =>
          match arguments with
          | [] => template
          | argument :: others => kept ++ argument ++ fillChars behind others
termination_by template.length

/-- Fill the placeholders of a template.  Without any argument the template is
left as it is, escapes included. -/
def fill (template : String) (arguments : List String) : String :=
  if arguments.isEmpty then template
  else String.ofList (fillChars template.toList (arguments.map String.toList))

end LogLayout.Message
