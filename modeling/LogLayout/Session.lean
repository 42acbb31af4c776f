import LogLayout.Files
import LogLayout.Notice
import LogLayout.Pattern.Compile
import LogLayout.Record.Display
import LogLayout.Record.Pair

namespace LogLayout

/-!
Sessions, in which lines are entered one after another.

A line is a pattern, which is rendered with the record of the session, or a command
behind a colon, most of which change that record.
-/

/-- What a session keeps between lines. -/
structure Session where
  registry : Pattern.Registry
  context : Pattern.Context
  record : Record

/-- What a line is answered with. -/
structure Reply where
  output : String := ""
  notices : List Notice := []
  /-- Whether the session goes on. -/
  goesOn : Bool := true

namespace Session

/-- The line that opens a session. -/
def banner : String :=
  "patternlog shell - enter a pattern to render it, ':help' for commands\n"

/-- The text that explains the commands. -/
def help : String :=
  "Enter any pattern, e.g. %-5level [%thread] %logger\x7b20\x7d - %message

Commands:
  :level <level>        Set the sample record's level
  :logger <name>        Set the sample record's logger name
  :msg <text>           Set the sample record's message
  :mdc <key=value>      Add a contextual pair
  :record               Show the sample record
  :words                List conversion words
  :help, :?             Show this help
  :quit, :exit, :q      Exit shell

Levels: trace, debug, info, warn, error
"

/-- A command: its name and its argument. -/
structure Directive where
  name : String
  argument : String
  deriving DecidableEq, Repr

/-- The command that stands behind a colon: the name reaches to the first blank, and
the argument has no blanks around it. -/
def readDirective (text : List Char) : Directive :=
  match text.dropWhile fun character => !Text.isBlank character with
  | [] => ⟨String.ofList text, ""⟩
  | _ :: argument =>
      ⟨String.ofList (text.takeWhile fun character => !Text.isBlank character),
        String.ofList (Text.trimChars argument)⟩

def directive? (line : String) : Option Directive :=
  match Text.dropBlanks line.toList with
  | ':' :: text => some (readDirective text)
  | _ => none

/-- Carry out a command. -/
def obey (session : Session) (directive : Directive) : Session × Reply :=
  let record := session.record
  let changed (record : Record) : Session × Reply := ({ session with record }, {})
  let refused (message : String) : Session × Reply :=
    (session, { notices := [.error "SHELL" message] })
  match directive.name with
  | "quit" => (session, { goesOn := false })
  | "exit" => (session, { goesOn := false })
  | "q" => (session, { goesOn := false })
  | "help" => (session, { output := help })
  | "?" => (session, { output := help })
  | "words" =>
      (session, { output := String.intercalate " " session.registry.words ++ "\n" })
  | "level" =>
      match Level.parse directive.argument with
      | .ok level => changed { record with level }
      | .error unknown => refused unknown.message
  | "logger" => changed { record with logger := directive.argument }
  | "msg" => changed { record with message := directive.argument, arguments := [] }
  | "mdc" =>
      match readPair directive.argument with
      | .ok (key, value) => changed (record.withPair key value)
      | .error invalid => refused invalid.message
  | "record" => (session, { output := record.display ++ "\n" })
  | name =>
      (session, { notices := [.error "SHELL" s!"Unknown command: :{name}",
        .info "SHELL" "Type ':help' for available commands"] })

def renderPattern (session : Session) (pattern : String) : Reply :=
  match session.registry.compile session.context pattern with
  | .ok compiled => { output := compiled.render session.record ++ "\n" }
  | .error fault => { output := s!"error: {fault.message pattern}\n" }

/-- Answer a line. -/
def handle (session : Session) (line : String) : Session × Reply :=
  if Text.allBlank line then (session, {})
  else
    match directive? line with
    | none => (session, session.renderPattern line)
    | some directive =>
        let (next, reply) := session.obey directive
        (next, { reply with
          notices := .trace "SHELL" s!"Executing: :{directive.name}" :: reply.notices })

/-- Answer lines until one ends the session; a missing line encodes no text and ends it
too. -/
def run (session : Session) : List (Option String) → Session × Reply
  | [] => (session, {})
  | none :: _ =>
      (session, { notices := [.error "SHELL" s!"Readline error: {FileFlaw.notText.message}"]
                  goesOn := false })
  | some line :: others =>
      let (next, reply) := session.handle line
      if reply.goesOn then
        let (last, replies) := run next others
        (last, { replies with
          output := reply.output ++ replies.output
          notices := reply.notices ++ replies.notices })
      else (next, reply)

end Session
end LogLayout
