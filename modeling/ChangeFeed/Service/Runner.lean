/-
# Running commands on the system

A command is run on the system by starting its program as a process, waiting for its end and keeping
what it wrote.  How the system runs programs is no part of this library: `Processes` is whatever it
answers.  The operations on services run their commands on a host (`Host.run`), whose answers are as
free.
-/

import ChangeFeed.Service.Host
import ChangeFeed.Text.Utf8

namespace ChangeFeed

/-- What a process leaves behind when it has ended. -/
structure ProcessEnd where
  /-- The status with which it ended, unless a signal ended it. -/
  status : Option Nat
  stdout : List UInt8
  stderr : List UInt8
  deriving DecidableEq, Repr

/-- What a system makes of a program with arguments: nothing if it cannot start the program. -/
abbrev Processes := String → List String → Option ProcessEnd

/-- The output of a command that has ended.  What it wrote is read as text, and what is no text in it
is replaced. -/
def ProcessEnd.output (ended : ProcessEnd) : CommandOutput where
  success := ended.status == some 0
  stdout := Text.ofBytes ended.stdout
  stderr := Text.ofBytes ended.stderr

/-- Runs a command on a system. -/
def Processes.run (processes : Processes) (program : String) (args : List String) :
    Except ServiceError CommandOutput :=
  match processes program args with
  | none => .error .io
  | some ended => .ok ended.output

end ChangeFeed
