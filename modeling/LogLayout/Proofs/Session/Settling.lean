import LogLayout.Config
import LogLayout.Proofs.Pattern.Justifying
import LogLayout.Proofs.Session.Commands
import Mathlib.Data.List.Induction

namespace LogLayout.Session

/-!
# What a session has come to

A session goes through its lines one by one, and every line finds the record that the lines before
it have left.  Which lines these were can be told without going through them again: each field that
commands set is as the last line that sets it has it, and as it was in the beginning if there is no
such line.  Nothing else of the record, of the registry and of the context ever changes.
-/

/-! ## The last line that counts -/

/-- A value is the one that the last of some lines sets, of all those that set any, or the one to
start with if none of them does. -/
inductive Settles {Value : Type} (sets : String → Value → Prop) (start : Value) :
    List String → Value → Prop where
  | unset {lines : List String} (never : ∀ line ∈ lines, ∀ value, ¬ sets line value) :
    Settles sets start lines start
  | set {before after : List String} {line : String} {value : Value} (here : sets line value)
    (never : ∀ later ∈ after, ∀ other, ¬ sets later other) :
    Settles sets start (before ++ line :: after) value

namespace Settles

variable {Value : Type} {sets : String → Value → Prop} {start value : Value}
  {lines : List String} {line : String}

theorem concat_set (here : sets line value) : Settles sets start (lines ++ [line]) value :=
  .set here fun _ member => absurd member List.not_mem_nil

theorem concat_keep (settles : Settles sets start lines value)
    (never : ∀ other, ¬ sets line other) : Settles sets start (lines ++ [line]) value := by
  cases settles with
  | unset unset =>
      refine .unset fun other member => ?_
      rcases List.mem_append.mp member with earlier | last
      · exact unset other earlier
      · rw [List.mem_singleton.mp last]
        exact never
  | @set before after other _ here later =>
      rw [List.append_assoc, List.cons_append]
      refine .set here fun final member => ?_
      rcases List.mem_append.mp member with earlier | last
      · exact later final earlier
      · rw [List.mem_singleton.mp last]
        exact never

end Settles

/-! ## Records -/

/-- What lines have made of a record.  The value of a key is missing or given. -/
structure Settled (start : Record) (entered : List String) (record : Record) : Prop where
  level : Settles (fun line level => Asks line (.level level)) start.level entered record.level
  logger : Settles (fun line name => Asks line (.logger name)) start.logger entered record.logger
  message : Settles (fun line text => Asks line (.message text)) start.formattedMessage entered
    record.formattedMessage
  pairs : ∀ key, Settles (fun line value => ∃ given, Asks line (.pair key given) ∧
    value = some given) (start.pairs.get? key) entered (record.pairs.get? key)
  others : record = { start with
    level := record.level
    logger := record.logger
    message := record.message
    arguments := record.arguments
    pairs := record.pairs }

namespace Settled

variable {start record : Record} {entered : List String} {line : String}

theorem nil (start : Record) : Settled start [] start where
  level := .unset fun _ member => absurd member List.not_mem_nil
  logger := .unset fun _ member => absurd member List.not_mem_nil
  message := .unset fun _ member => absurd member List.not_mem_nil
  pairs _ := .unset fun _ member => absurd member List.not_mem_nil
  others := rfl

/-- A line that asks for no change leaves everything settled as it is. -/
theorem concat_unasked (settled : Settled start entered record)
    (unasked : ∀ change, ¬ Asks line change) : Settled start (entered ++ [line]) record where
  level := settled.level.concat_keep fun level => unasked (.level level)
  logger := settled.logger.concat_keep fun name => unasked (.logger name)
  message := settled.message.concat_keep fun text => unasked (.message text)
  pairs key := (settled.pairs key).concat_keep fun _ ⟨given, asks, _⟩ =>
    unasked (.pair key given) asks
  others := settled.others

theorem concat_change (settled : Settled start entered record) {change : Change}
    (asks : Asks line change) : Settled start (entered ++ [line]) (change.apply record) where
  level := by
    cases change with
    | level => exact .concat_set asks
    | logger | message | pair => exact settled.level.concat_keep fun _ => asks.only nofun
  logger := by
    cases change with
    | logger => exact .concat_set asks
    | level | message | pair => exact settled.logger.concat_keep fun _ => asks.only nofun
  message := by
    cases change with
    | message => exact .concat_set asks
    | level | logger | pair => exact settled.message.concat_keep fun _ => asks.only nofun
  pairs key := by
    cases change with
    | pair changed given =>
        change Settles _ _ _ ((record.pairs.insert changed given).get? key)
        rw [Table.get?_insert]
        by_cases same : changed = key
        · subst same
          rw [if_pos rfl]
          exact .concat_set ⟨given, asks, rfl⟩
        · rw [if_neg same]
          refine (settled.pairs key).concat_keep fun _ ⟨value, again, _⟩ => ?_
          exact asks.only (fun alike => same (Change.pair.inj alike).1) again
    | level | logger | message =>
        exact (settled.pairs key).concat_keep fun _ ⟨_, again, _⟩ =>
          absurd again (asks.only nofun)
  others := by
    have others := congrArg (Change.apply · change) settled.others
    cases change <;> exact others

end Settled

/-! ## Runs -/

/-- The session behind some lines. -/
def after (session : Session) (entered : List String) : Session :=
  entered.foldl (fun session line => (session.handle line).1) session

section Runs

variable (session : Session)

theorem after_concat (entered : List String) (line : String) :
    session.after (entered ++ [line]) = ((session.after entered).handle line).1 := by
  rw [after, List.foldl_append]
  rfl

/-- A line leaves the registry and the context, and settles what it sets. -/
theorem settled_handle {start : Record} {entered : List String}
    (settled : Settled start entered session.record) (line : String) :
    (session.handle line).1 = { session with record := (session.handle line).1.record } ∧
      Settled start (entered ++ [line]) (session.handle line).1.record := by
  by_cases asks : ∃ change, Asks line change
  · rcases asks with ⟨change, asks⟩
    rw [session.handle_change asks]
    exact ⟨rfl, settled.concat_change asks⟩
  · have unasked (change : Change) : ¬ Asks line change := fun found => asks ⟨change, found⟩
    rw [session.handle_unasked unasked]
    exact ⟨rfl, settled.concat_unasked unasked⟩

theorem settled_after (entered : List String) :
    session.after entered = { session with record := (session.after entered).record } ∧
      Settled session.record entered (session.after entered).record := by
  induction entered using List.reverseRecOn with
  | nil => exact ⟨rfl, .nil session.record⟩
  | append_singleton entered line inductionHypothesis =>
      rcases inductionHypothesis with ⟨same, settled⟩
      have step := (session.after entered).settled_handle settled line
      rw [after_concat]
      refine ⟨?_, step.2⟩
      rw [step.1, same]

theorem run_cons {line : String} (goesOn : ¬ Quits line) (others : List (Option String)) :
    session.run (some line :: others) =
      (((session.handle line).1.run others).1, { ((session.handle line).1.run others).2 with
        output := (session.handle line).2.output ++ ((session.handle line).1.run others).2.output
        notices := (session.handle line).2.notices ++
          ((session.handle line).1.run others).2.notices }) := by
  rw [run]
  exact if_pos (session.handle_goesOn_iff.mpr goesOn)

theorem run_quit {line : String} (quits : Quits line) (others : List (Option String)) :
    session.run (some line :: others) = session.handle line := by
  rw [run]
  exact if_neg fun goesOn => session.handle_goesOn_iff.mp goesOn quits

/-- Lines that do not end the session are all answered before the lines behind them, which find
the session that they have left. -/
theorem run_append {entered : List String} (goOn : ∀ line ∈ entered, ¬ Quits line)
    (others : List (Option String)) :
    session.run (entered.map some ++ others) =
      (((session.after entered).run others).1, { ((session.after entered).run others).2 with
        output := (session.run (entered.map some)).2.output ++
          ((session.after entered).run others).2.output
        notices := (session.run (entered.map some)).2.notices ++
          ((session.after entered).run others).2.notices }) := by
  induction entered generalizing session with
  | nil =>
      rw [List.map_nil, run, String.empty_append]
      rfl
  | cons line entered inductionHypothesis =>
      rcases List.forall_mem_cons.mp goOn with ⟨here, later⟩
      rw [List.map_cons, List.cons_append, session.run_cons here, session.run_cons here,
        inductionHypothesis (session.handle line).1 later, String.append_assoc, List.append_assoc]
      rfl

theorem handle_field {word : String} (nonempty : word ≠ "")
    (letters : ∀ letter ∈ word.toList, Text.isAlphabetic letter = true)
    {shown : Pattern.Renderer}
    (resolved : session.registry.resolve? word = some (Pattern.Words.field shown)) :
    session.handle ("%" ++ word) = (session, { output := shown session.record ++ "\n" }) := by
  have chars : ("%" ++ word).toList = '%' :: word.toList := String.toList_append
  have opened : Text.dropBlanks ("%" ++ word).toList = '%' :: word.toList := by
    rw [chars]
    exact List.dropWhile_cons_of_neg (by decide)
  have other (name argument : String) : ¬ Gives ("%" ++ word) name argument := fun gives => by
    have found := directive?_eq_some_iff.mpr gives
    rw [directive?, opened] at found
    cases found
  have filled : Text.allBlank ("%" ++ word) = false := by
    rw [Text.allBlank, chars, List.all_cons]
    rfl
  have compiled : session.registry.compile session.context ("%" ++ word) =
      .ok (.single shown) := Pattern.compile_word nonempty letters resolved fun _ => rfl
  rw [session.handle_pattern other, filled, if_neg Bool.false_ne_true, renderPattern, compiled]
  dsimp only
  rw [Pattern.Compiled.render_single]

end Runs

/-- A session is a fold over its lines.  The lines up to the one that ends it, if one does, are all
answered, and whatever follows them finds the session that they have left.  This one has the
registry and the context of the beginning, and a record whose fields are settled by the last lines
that set them.  It is left as it is by a line that asks for no change and by a line that ends the
session.  A pattern is rendered with nothing but its registry, its context and its record, and the
message is shown as it was entered, as long as its word has not become an alias of another one. -/
theorem run_settled (session : Session) {entered : List String}
    (goOn : ∀ line ∈ entered, ¬ Quits line) :
    let last := session.after entered
    (∀ others, session.run (entered.map some ++ others) =
      ((last.run others).1, { (last.run others).2 with
        output := (session.run (entered.map some)).2.output ++ (last.run others).2.output
        notices := (session.run (entered.map some)).2.notices ++ (last.run others).2.notices })) ∧
    last = { session with record := last.record } ∧
    Settled session.record entered last.record ∧
    (∀ line, (∀ change, ¬ Asks line change) → (last.handle line).1 = last) ∧
    (∀ line, Quits line → ∀ others, (last.run (some line :: others)).1 = last) ∧
    (∀ pattern, Text.allBlank pattern = false → (∀ name argument, ¬ Gives pattern name argument) →
      last.handle pattern =
        (last, renderPattern ⟨session.registry, session.context, last.record⟩ pattern)) ∧
    (session.registry.resolve? "message" = some Pattern.Words.message →
      last.handle "%message" = (last, { output := last.record.formattedMessage ++ "\n" })) := by
  intro last
  rcases session.settled_after entered with ⟨same, settled⟩
  have registry : last.registry = session.registry := (congrArg Session.registry same :)
  refine ⟨session.run_append goOn, same, settled, fun _ => last.handle_unasked, ?_, ?_, ?_⟩
  · intro line quits others
    rw [last.run_quit quits]
    exact last.handle_unasked quits.unasked
  · intro pattern filled other
    rw [last.handle_pattern other, if_neg (by rw [filled]; exact Bool.false_ne_true)]
    exact congrArg (fun found => (last, renderPattern found pattern)) same
  · intro known
    exact last.handle_field (by decide) (List.all_eq_true.mp (by decide)) (registry ▸ known)

/-- Commands with blanks around their parts, some of which cannot be read, and a pattern. -/
def sampleLines : List String :=
  [":level warn", "\t:msg  say \\\x7b\x7d and \x7b\x7d ", ":mdc user = bob", ":mdc broken",
    ":level loud", "%-5level", ": quit", ":logger"]

/-- A session with the built-in words, and what its last lines make of its record. -/
theorem run_settled_sampleLines :
    let session : Session :=
      ⟨.builtin, { application := "shop", node := "east", console := .plain },
        .sample .epoch "main"⟩
    let last := session.after sampleLines
    last.record.level = .warn ∧ last.record.logger = "" ∧
      last.record.pairs.get? "user" = some " bob" ∧
      last.handle "%message" = (last, { output := "say \\\x7b\x7d and \x7b\x7d\n" }) ∧
      (session.run (sampleLines.map some ++ [some ":q now", some ":level error"])).1 = last := by
  intro session last
  have goOn : ∀ line ∈ sampleLines, ¬ Quits line := by decide +kernel
  obtain ⟨append, -, -, -, quit, -, shown⟩ := run_settled session goOn
  have quits : Quits ":q now" := by decide +kernel
  have text : last.record.formattedMessage = "say \\\x7b\x7d and \x7b\x7d" := by decide +kernel
  refine ⟨by decide +kernel, by decide +kernel, by decide +kernel, ?_, ?_⟩
  · rw [shown rfl, text]
    rfl
  · rw [append]
    exact quit ":q now" quits [some ":level error"]

/-- A session whose settings have made the word an alias of another one.  The message is entered,
and the level is shown. -/
theorem handle_message_redefined :
    let config : Config := { aliases := Table.ofList [("message", "level")] }
    let session : Session :=
      ⟨config.registry.result, { application := "shop", node := "east", console := .plain },
        .sample .epoch "main"⟩
    let last := session.after [":msg hello"]
    Asks ":msg hello" (.message "hello") ∧
      last.handle "%message" = (last, { output := "INFO\n" }) ∧
      last.handle "%message" ≠ (last, { output := "hello\n" }) := by
  intro config session last
  have gives : Gives ":msg hello" "msg" "hello" := directive?_eq_some_iff.mp (by decide +kernel)
  have resolved : last.registry.resolve? "message" = some Pattern.Words.level := rfl
  have shown : last.handle "%message" = (last, { output := "INFO\n" }) := by
    rw [show "%message" = "%" ++ "message" from rfl,
      last.handle_field (by decide) (List.all_eq_true.mp (by decide)) resolved]
    rfl
  refine ⟨.message gives, shown, fun other => ?_⟩
  have same : "INFO\n" = "hello\n" :=
    congrArg (fun answer => answer.2.output) (shown.symm.trans other)
  exact absurd same (by decide)

end LogLayout.Session
