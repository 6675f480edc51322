/-
# Signals

A signal has a number and, in most cases, a name.  Most signals end a process that does not catch
them.
-/

import ChangeFeed.Shell.Number

namespace ChangeFeed.Shell.Signal

/-- The names of the signals from 1 on. -/
def names : List String :=
  ["HUP", "INT", "QUIT", "ILL", "TRAP", "ABRT", "BUS", "FPE", "KILL", "USR1", "SEGV", "USR2",
    "PIPE", "ALRM", "TERM", "16", "CHLD", "CONT", "STOP", "TSTP", "TTIN", "TTOU", "URG", "XCPU",
    "XFSZ", "VTALRM", "PROF", "WINCH", "IO", "PWR", "SYS"]

/-- How many numbers there are. -/
def count : Nat := 65

/-- The name of a number, which is the number itself where there is no other; the number 0 is for
the end of a shell. -/
def name (number : Nat) : String :=
  if number = 0 then "EXIT"
  else if 34 ≤ number && number < count then
    if number = 34 then "RTMIN"
    else if number < 50 then "RTMIN+" ++ toString (number - 34)
    else if number = 64 then "RTMAX"
    else "RTMAX-" ++ toString (64 - number)
  else (names[number - 1]?).getD (toString number)

/-- The signal that a text names by its number or by its name in letters of any case.  The least
number that a name can stand for is given. -/
def ofText? (least : Nat) (text : Bytes) : Option Nat :=
  if !text.isEmpty && text.all Char.isDigit then
    let number := digitsValue 10 text
    if number < count then some number else none
  else
    let text := text.map Char.toUpper
    ((List.range count).drop least).find? fun number => (name number).toList = text

/-- Whether a process that does not catch the signal goes on. -/
def isHarmless (number : Nat) : Bool :=
  [0, 17, 18, 23, 28].contains number

/-- What is said of a process that a signal has ended. -/
def description (number : Nat) : String :=
  if 34 ≤ number && number < count then "Real-time signal " ++ toString (number - 34)
  else
    (["Hangup", "Interrupt", "Quit", "Illegal instruction", "Trace/breakpoint trap", "Aborted",
      "Bus error", "Floating point exception", "Killed", "User defined signal 1",
      "Segmentation fault", "User defined signal 2", "Broken pipe", "Alarm clock", "Terminated",
      "Stack fault", "Child exited", "Continued", "Stopped (signal)", "Stopped",
      "Stopped (tty input)", "Stopped (tty output)", "Urgent I/O condition",
      "CPU time limit exceeded", "File size limit exceeded", "Virtual timer expired",
      "Profiling timer expired", "Window changed", "I/O possible", "Power failure",
      "Bad system call"][number - 1]?).getD ("Unknown signal " ++ toString number)

end ChangeFeed.Shell.Signal
