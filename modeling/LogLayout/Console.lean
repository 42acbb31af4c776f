import LogLayout.Level

namespace LogLayout

/-!
Colors and emphasis on a terminal.

Decoration puts a select-graphic-rendition sequence before a text and the reset
sequence behind it.  A console that is switched off leaves every text alone.
-/

/-- The eight basic colors. -/
inductive Color where
  | black
  | red
  | green
  | yellow
  | blue
  | magenta
  | cyan
  | white
  deriving DecidableEq, Repr

namespace Color

/-- Every color, in the order of its code. -/
def all : List Color := [black, red, green, yellow, blue, magenta, cyan, white]

def name : Color → String
  | black => "black"
  | red => "red"
  | green => "green"
  | yellow => "yellow"
  | blue => "blue"
  | magenta => "magenta"
  | cyan => "cyan"
  | white => "white"

def boldName : Color → String
  | black => "boldBlack"
  | red => "boldRed"
  | green => "boldGreen"
  | yellow => "boldYellow"
  | blue => "boldBlue"
  | magenta => "boldMagenta"
  | cyan => "boldCyan"
  | white => "boldWhite"

/-- The number that selects a color as foreground. -/
def code : Color → Nat
  | black => 30
  | red => 31
  | green => 32
  | yellow => 33
  | blue => 34
  | magenta => 35
  | cyan => 36
  | white => 37

end Color

/-- A way of emphasising text. -/
inductive Emphasis where
  | bold
  | italic
  | underline
  deriving DecidableEq, Repr

namespace Emphasis

def all : List Emphasis := [bold, italic, underline]

def name : Emphasis → String
  | bold => "bold"
  | italic => "italic"
  | underline => "underline"

def code : Emphasis → Nat
  | bold => 1
  | italic => 3
  | underline => 4

end Emphasis

/-- When to decorate. -/
inductive ColorMode where
  /-- On a terminal, unless `NO_COLOR` is set. -/
  | auto
  | always
  | never
  deriving DecidableEq, Repr

def ColorMode.name : ColorMode → String
  | auto => "auto"
  | always => "always"
  | never => "never"

def ColorMode.ofName? : String → Option ColorMode
  | "auto" => some auto
  | "always" => some always
  | "never" => some never
  | _ => none

/-- Where text is shown: with decoration or without. -/
structure Console where
  enabled : Bool
  deriving DecidableEq, Repr

namespace Console

def plain : Console := ⟨false⟩

/-- The console of a color mode, for an output that may be a terminal in an
environment that may ask for no colors. -/
def ofMode (mode : ColorMode) (terminal noColor : Bool) : Console :=
  match mode with
  | .always => ⟨true⟩
  | .never => ⟨false⟩
  | .auto => ⟨terminal && !noColor⟩

/-- The sequence that selects what the given parameters name. -/
def select (parameters : String) : String := s!"\x1b[{parameters}m"

/-- The sequence that ends all decoration. -/
def reset : String := select ""

/-- The parameters for an emphasis and a color; an emphasis is followed by a
semicolon even where no color comes behind it. -/
def parameters : Option Emphasis → Option Color → Option String
  | none, none => none
  | none, some color => some (toString color.code)
  | some emphasis, none => some s!"{emphasis.code};"
  | some emphasis, some color => some s!"{emphasis.code};{color.code}"

def decorate (console : Console) (color : Option Color) (emphasis : Option Emphasis)
    (text : String) : String :=
  if console.enabled then
    match parameters emphasis color with
    | some chosen => select chosen ++ text ++ reset
    | none => text
  else text

def colored (console : Console) (color : Color) (text : String) : String :=
  console.decorate (some color) none text

def boldColored (console : Console) (color : Color) (text : String) : String :=
  console.decorate (some color) (some .bold) text

/-- A text in the color of a level: errors bold red, warnings red, information
blue, everything below undecorated. -/
def highlight (console : Console) (level : Level) (text : String) : String :=
  match level with
  | .error => console.boldColored .red text
  | .warn => console.colored .red text
  | .info => console.colored .blue text
  | .debug => text
  | .trace => text

@[simp] theorem decorate_plain (color : Option Color) (emphasis : Option Emphasis)
    (text : String) : plain.decorate color emphasis text = text := rfl

end Console
end LogLayout
