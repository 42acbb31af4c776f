import LogLayout.Regex.Node

namespace LogLayout.Regex

/-!
Programs that a matcher runs.

A program is an array of instructions, each of which names where to go on.  It is
built from its end: to build an expression is to add instructions that end at a
given place and to return the place at which they begin.
-/

/-- One step of a matcher. -/
inductive Instruction where
  | accept
  /-- Take one character of a set. -/
  | take (members : CharSet) (next : Nat)
  /-- Try the first place, and the second if that fails. -/
  | fork (first second : Nat)
  /-- Note the present position in a slot. -/
  | note (slot next : Nat)
  | check (condition : Look) (next : Nat)
  deriving Repr

abbrev Program := Array Instruction

/-- Adds instructions that go on at a place; gives the place where they begin. -/
abbrev Fragment := Nat → Program → Nat × Program

def addInstruction (instruction : Instruction) (program : Program) : Nat × Program :=
  (program.size, program.push instruction)

/-- A fork that prefers to go in if greedy, and to go on otherwise. -/
def forkFor (greedy : Bool) (inside onward : Nat) : Instruction :=
  if greedy then .fork inside onward else .fork onward inside

/-- A fragment several times over. -/
def Fragment.exactly (inside : Fragment) : Nat → Fragment
  | 0 => fun next program => (next, program)
  | count + 1 => fun next program =>
      let (later, program) := inside.exactly count next program
      inside later program

/-- A fragment up to `count` times, each time only behind the one before. -/
def Fragment.atMost (inside : Fragment) (greedy : Bool) : Nat → Fragment
  | 0 => fun next program => (next, program)
  | count + 1 => fun next program =>
      let (later, program) := inside.atMost greedy count next program
      let (start, program) := inside later program
      addInstruction (forkFor greedy start next) program

def Fragment.onceOrMore (inside : Fragment) (greedy : Bool) : Fragment := fun next program =>
  let (loop, program) := addInstruction (.fork next next) program
  let (start, program) := inside loop program
  (start, program.setIfInBounds loop (forkFor greedy start next))

/-- A fragment any number of times.  If it can match the empty text, the loop
stands behind its first turn, which keeps the order of preference. -/
def Fragment.anyNumber (inside : Fragment) (proper greedy : Bool) : Fragment :=
  fun next program =>
    if proper then
      let (loop, program) := addInstruction (.fork next next) program
      let (start, program) := inside loop program
      (loop, program.setIfInBounds loop (forkFor greedy start next))
    else
      let (start, program) := inside.onceOrMore greedy next program
      addInstruction (forkFor greedy start next) program

def Node.fragment : Node → Fragment
  | empty => fun next program => (next, program)
  | set members => fun next program => addInstruction (.take members next) program
  | look condition => fun next program => addInstruction (.check condition next) program
  | capture index inside => fun next program =>
      let (close, program) := addInstruction (.note (2 * index + 1) next) program
      let (start, program) := inside.fragment close program
      addInstruction (.note (2 * index) start) program
  | follow first second => fun next program =>
      let (middle, program) := second.fragment next program
      first.fragment middle program
  | either first second => fun next program =>
      let (later, program) := second.fragment next program
      let (earlier, program) := first.fragment next program
      addInstruction (.fork earlier later) program
  | iterate inside least greatest greedy =>
      match greatest with
      | some limit => fun next program =>
          let (rest, program) := inside.fragment.atMost greedy (limit - least) next program
          inside.fragment.exactly least rest program
      | none =>
          if least = 0 then inside.fragment.anyNumber inside.isProper greedy
          else fun next program =>
            let (rest, program) := inside.fragment.onceOrMore greedy next program
            inside.fragment.exactly (least - 1) rest program

/-- The program of an expression, and the place at which it begins. -/
def Node.program (node : Node) : Nat × Program :=
  node.fragment 0 #[.accept]

/-- The number of instructions that a node needs, counted without building
them. -/
def Node.cost : Node → Nat
  | empty => 0
  | set members => 1 + members.ranges.length
  | look _ => 1
  | capture _ inside => inside.cost + 2
  | follow first second => first.cost + second.cost
  | either first second => first.cost + second.cost + 1
  | iterate inside least greatest _ => (inside.cost + 1) * max (greatest.getD (least + 1)) 1

end LogLayout.Regex
