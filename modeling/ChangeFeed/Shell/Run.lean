/-
# A system that runs shell scripts

One answer to how a system runs programs (`Processes`): a machine with a shell and the programs next
to it, on which a runner of commands can be tried out.  Nothing else in this library rests on it.

A program is started by a process that has three streams: the first one is empty, and what is
written to the other two is kept.
-/

import ChangeFeed.Service.Runner
import ChangeFeed.Shell.Evaluation

namespace ChangeFeed.Shell

/-- The number of the process that starts a program.  The program's own number is the next. -/
def processNumber : Nat := 999

/-- How deep commands can run within each other. -/
def maxDepth : Nat := 20000

/-- A world in which three files are open: one that is empty, and two that take what is written. -/
def firstWorld : World where
  texts := [{}, {}]
  openFiles :=
    [{ isReadable := true }, { kind := .text 0, isWritable := true, appends := true },
      { kind := .text 1, isWritable := true, appends := true }]
  processes := [processNumber]
  processCount := processNumber

/-- The process that starts a program. -/
def starter : Session where
  world := firstWorld
  name := []
  process := processNumber
  bindings := Evaluation.firstVariables (Tree.pathTo Tree.start) 1 []
  streams := [(0, 0), (1, 1), (2, 2)]

/-- The path of the program that a name stands for; one without slashes is looked for. -/
def programPath? (name : Bytes) : Option Bytes :=
  if name.contains '/' then
    if starter.fileAt? name = some .program then some name else none
  else (Builtin.findProgram starter name).toOption

/-- What a program leaves behind that is run with arguments. -/
def endOf (path name : Bytes) (arguments : List Bytes) : ProcessEnd :=
  let run := Evaluation.runner maxDepth
  let main := Evaluation.runProgramAt run true path name arguments
  let (result, session) := (main.run starter).run
  let written (number : Nat) : List UInt8 := Bytes.octets ((session.world.text? number).getD [])
  { status := result.toOption, stdout := written 0, stderr := written 1 }

/-- The most bytes of an argument, with the null character behind it. -/
def maxArgumentSize : Nat := 131072

/-- How this system runs programs.  A program can be handed texts without null characters only, which
must not be too long. -/
def processes : Processes := fun command args =>
  let canBePassed := (command :: args).all fun text =>
    text.utf8ByteSize < maxArgumentSize && !text.toList.contains '\x00'
  let name := Bytes.ofText command
  match if canBePassed then programPath? name else none with
  | none => none
  | some path => some (endOf path name (args.map Bytes.ofText))

end ChangeFeed.Shell
