/-
# Sending signals

Signals are named, listed, and sent to processes by their numbers.
-/

import ChangeFeed.Shell.Builtin.Jobs

namespace ChangeFeed.Shell.Builtin

def killUsage : String :=
  "Usage: kill [-s sigspec | -signum | -sigspec] [pid | job]... or\nkill -l [exitstatus]"

/-- The signal and the arguments behind it; no signal stands for a list of signals. -/
def killOptions : Nat → (signal? : Option Nat) → (lists : Bool) → List Bytes →
    Run (Option Nat × Bool × List Bytes)
  | 0, signal?, lists, arguments => return (signal?, lists, arguments)
  | fuel + 1, signal?, lists, arguments => do
    match arguments with
    | ['-', '-'] :: rest => return (signal?, lists, rest)
    | ('-' :: c :: more) :: rest =>
      if c = 'l' then
        if more.isEmpty then killOptions fuel signal? true rest
        else killOptions fuel signal? true (('-' :: more) :: rest)
      else if c = 's' then
        let (name, rest) ←
          if !more.isEmpty then pure (more, rest)
          else
            match rest with
            | name :: rest => pure (name, rest)
            | [] => Run.fail "No arg for -s option".toList
        match Signal.ofText? 1 name with
        | some signal => killOptions fuel (some signal) lists rest
        | none => Run.fail ("invalid signal number or name: ".toList ++ name)
      else Run.fail ("Illegal option -".toList ++ [c])
    | arguments => return (signal?, lists, arguments)

/-- Lists all signals, or names the one that has ended a process with a status. -/
def listSignals (arguments : List Bytes) : Run Nat := do
  match arguments with
  | [] =>
    let names := "0" :: ((List.range Signal.count).drop 1).map Signal.name
    emit "kill" (names.flatMap fun name => name.toList ++ ['\n']) 0
  | argument :: _ =>
    let number ← Run.count argument
    let signal := if 128 < number then number - 128 else number
    if 0 < signal && signal < Signal.count then
      emit "kill" ((Signal.name signal).toList ++ ['\n']) 0
    else Run.fail ("invalid signal number or exit status: ".toList ++ argument)

/-- Sends a signal to a process: whether there is one.  The number 0 stands for the shell's own
process, and for no signal. -/
def send (signal process : Nat) : Run Bool := do
  let session ← get
  let process := if process = 0 then session.process else process
  let isOwn := process = session.process && session.depth = 0
  if isOwn then
    if signal ≠ 0 then Run.receive signal
    return true
  else if session.world.processes.contains process then
    let signals := session.world.signals ++ if signal = 0 then [] else [(process, signal)]
    set { session with world := { session.world with signals } }
    return true
  else return false

/-- Sends a signal to processes by their numbers.  A job that is named is sought as a group of
processes, which none is. -/
def sendAll (signal : Nat) (status : Nat) : List Bytes → Run Nat
  | [] => return status
  | argument :: rest => do
    let isReached ←
      match argument with
      | '%' :: _ =>
        let _ ← jobNamed argument
        pure false
      | '-' :: group =>
        let _ ← Run.count group
        pure false
      | argument => send signal (← Run.count argument)
    if isReached then sendAll signal status rest
    else
      Run.warn "No such process\n".toList
      sendAll signal 1 rest

def kill (arguments : List Bytes) : Run Nat := do
  let (signal?, lists, processes) ←
    match arguments with
    | ('-' :: name) :: rest =>
      match Signal.ofText? 1 name with
      | some signal => pure (some signal, false, rest)
      | none => killOptions (arguments.flatten.length + 1) none false arguments
    | arguments => pure (none, false, arguments)
  let signal? := if lists then signal? else some (signal?.getD 15)
  if arguments.isEmpty || (signal?.isNone || processes.isEmpty) != lists then
    Run.fail killUsage.toList
  else
    match signal? with
    | some signal => if lists then listSignals processes else sendAll signal 0 processes
    | none => listSignals processes

end ChangeFeed.Shell.Builtin
