/-
# Running texts

A text is run line by line, each line when the one before it has been run.  The actions for signals
are texts, too.  What runs the commands themselves is given.
-/

import ChangeFeed.Shell.Builtin

namespace ChangeFeed.Shell

/-- How a command is run. -/
structure Flags where
  /-- Whether its status is tested, so that a failure does not end the shell. -/
  isTested : Bool := false
  /-- Whether the shell has nothing else to do. -/
  isLast : Bool := false
  deriving DecidableEq, Repr

/-- What runs commands, and those that run beside a shell to the end of theirs. -/
structure Runner where
  run : Flags → Command → Run Nat
  runJob : Command → Run Unit

instance : CoeFun Runner fun _ => Flags → Command → Run Nat := ⟨Runner.run⟩

namespace Run

/-- Runs to the end or not, and does something else behind it. -/
def endingWith {α : Type} (behind : Run Unit) (run : Run α) : Run α := do
  let result ← tryCatch (Except.ok <$> run) fun leave => return Except.error leave
  behind
  match result with
  | .ok value => return value
  | .error leave => throw leave

def setStatus (status : Nat) : Run Unit :=
  modify fun session => { session with status }

def setLine (line : Nat) : Run Unit :=
  modify fun session => { session with line }

/-- What follows the end of a shell that was not ended by a signal. -/
def unlessKilled (leave : Leave) (run : Run Unit) : Run Unit :=
  match leave with
  | .killed signal => throw (.killed signal)
  | _ => run

end Run

namespace Evaluation

/-! ## Texts -/

/-- Runs the lines that are left of the current script, in at most `fuel` steps. -/
def runLines (run : Runner) (flags : Flags) : Nat → (status : Nat) → Run Nat
  | 0, status => return status
  | fuel + 1, status => do
    let reader := (← get).reader
    match reader.nextLine? with
    | .error fault => Run.failReading fault.line fault.reason
    | .ok none => return status
    | .ok (some (command, reader)) =>
      modify fun session => { session with reader }
      let status ←
        match command with
        | .nothing => pure status
        | command => run { flags with isLast := false } command
      if (← get).skip?.isSome then return status
      runLines run flags fuel status

/-- Runs a text as a script of its own. -/
def runText (run : Runner) (flags : Flags) (text : Bytes) : Run Nat := do
  let reader := (← get).reader
  modify fun session =>
    { session with
      reader := { reader with rest := text, bound := text.length, line := 1, aliasesInUse := [] } }
  let goBack : Run Unit := modify fun session =>
    let { documents, documentCount, aliases, .. } := session.reader
    { session with reader := { reader with documents, documentCount, aliases } }
  Run.endingWith goBack (runLines run flags (text.length + 2) 0)

/-! ## Traps -/

/-- Runs the action for a signal that has been caught.  The status in front of it is kept, unless
the action returns from a function. -/
def runTrap (run : Runner) (signal : Nat) : Run Unit := do
  let session ← get
  match session.traps.lookup signal with
  | none => return ()
  | some action =>
    let status := session.trappedStatus?.getD session.status
    set { session with trappedStatus? := some status }
    let _ ← runText run {} action
    modify fun after =>
      let status := if after.skip? = some .returns then after.status else status
      { after with trappedStatus? := session.trappedStatus?, status }

/-- Runs the actions for the signals that have been caught. -/
def runTraps (run : Runner) : Run Unit := do
  Run.receiveAll
  let session ← get
  if session.skip?.isNone && !session.pending.isEmpty then
    set { session with pending := [] }
    ((List.range Signal.count).filter session.pending.contains).forM (runTrap run)

/-- Runs the action for the end of the shell, once. -/
def runExitTrap (run : Runner) : Run Unit := do
  let session ← get
  match session.traps.lookup 0 with
  | none => return ()
  | some action =>
    let others := session.traps.filter (·.1 ≠ 0)
    set { session with
      traps := others, skip? := none, trappedStatus? := some session.status, command? := none }
    tryCatch
      (do
        let _ ← runText run {} action
        Run.setStatus session.status)
      fun leave => Run.unlessKilled leave (return ())

end Evaluation

end ChangeFeed.Shell
