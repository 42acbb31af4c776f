import LogLayout.Proofs.Pattern.Enclosing
import LogLayout.Proofs.Pattern.Reaching

namespace LogLayout.Pattern

/-!
# Excerpts of a pattern

What a directive encloses is read from within a longer text, up to a closing parenthesis or
the end of that text.  The same characters can be cut out and compiled as a pattern of their
own.  This makes no difference: closing parentheses behind quotes or behind patterns further
inside belong to directives in both cases, and there are no others in what was read.
-/

variable {registry : Registry} {context : Context}

/-- The pieces that a text is cut into in front of a closing parenthesis make up a pattern of
their own. -/
theorem Splits.compile_alone (blind : registry.PositionBlind) {position : Nat}
    {pieces : List Piece} {following : List Char}
    (splits : Splits registry context (some ')') position pieces following) {pattern : String}
    (text : pattern.toList = pieceChars pieces) :
    registry.compile context pattern = .ok (compiledPieces pieces) := by
  have alone : Splits registry context none position pieces [] := (splits.disclose rfl).1
  apply (compile_eq_ok_iff pattern (compiledPieces pieces)).mpr
  exact ⟨pieces, alone.moveTo blind 0, text, rfl⟩

/-- What is compiled up to a closing parenthesis, from any place of a text, is compiled to the
very same parts if the characters in between are a pattern of their own.  So there are as many
parts, and they show the same of every record.  Compiling stops at a closing parenthesis or at
the end of the text. -/
theorem compile_excerpt (registry : Registry) (context : Context) (text : String) (start : Nat)
    (inside : Compiled) (behind : Cursor) (blind : registry.PositionBlind)
    (within : start ≤ text.length)
    (done : registry.compileUntil context (some ')') (.inText text start) =
      .ok (inside, behind)) :
    start ≤ behind.position ∧ behind.position ≤ text.length ∧
    behind = .inText text behind.position ∧
    registry.compile context (excerpt text start behind.position) = .ok inside ∧
    (text.toList[behind.position]? = some ')' ∨ behind.position = text.length) := by
  rcases exists_cuts _ _ _ _ done with ⟨pieces, splits, divided, length, parts⟩
  rcases behind with ⟨finish, rest⟩
  dsimp only [Cursor.inText] at splits divided length ⊢
  subst length parts
  have rest_eq := drop_of_divided divided
  have size : text.toList.length - start = (pieceChars pieces).length + rest.length := by
    rw [← List.length_drop, divided, List.length_append]
  rw [String.length_toList] at size
  refine ⟨Nat.le_add_right _ _, by omega, ?_, ?_, ?_⟩
  · exact congrArg (Cursor.mk _) rest_eq.symm
  · exact splits.compile_alone blind (toList_excerpt_of_divided divided)
  · cases rest with
    | nil =>
        right
        rw [List.length_nil] at size
        omega
    | cons closer others =>
        left
        have closes : ')' = closer := Option.some.inj (splits.stopped closer rfl).1
        rw [← List.head?_drop, rest_eq, closes]
        rfl

/-- Inside of the directive stand a closing parenthesis behind a pattern and one between
quotes, and the text goes on behind the third one. -/
theorem compile_excerpt_quoted :
    let context : Context := { application := "shop", node := "east", console := .plain }
    let text := "[%red(%bold(%level)%mdc\x7b')'\x7d) %thread]"
    ∃ inside, Registry.builtin.compileUntil context (some ')') (.inText text 6) =
        .ok (inside, .inText text 28) ∧
      Registry.builtin.compile context "%bold(%level)%mdc\x7b')'\x7d" = .ok inside := by
  intro context text
  have ended : (Registry.builtin.compileUntil context (some ')') (.inText text 6)).toOption.any
      (fun done => decide (done.2 = .inText text 28)) = true := by
    decide +kernel
  rcases exists_of_any_toOption ended with ⟨⟨inside, behind⟩, done, stopped⟩
  have here : behind = .inText text 28 := of_decide_eq_true stopped
  subst here
  have part : excerpt text 6 28 = "%bold(%level)%mdc\x7b')'\x7d" := by decide
  have alone := compile_excerpt Registry.builtin context text 6 inside (.inText text 28)
    positionBlind_builtin (by decide) done
  refine ⟨inside, done, ?_⟩
  rw [← part]
  exact alone.2.2.2.1

end LogLayout.Pattern
