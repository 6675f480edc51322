/-
# Shells within shells, and beside them

Commands in parentheses, in pipelines and in words run in a shell of their own; what that writes
stays, and what it changes is lost.  The shell waits for them.  It does not wait for a job: a job
runs from its start to its end as soon as the shell has to wait for something that takes as long, or
when the shell ends.  A signal that has been sent to a job before it runs can end it.
-/

import ChangeFeed.Shell.Runner

namespace ChangeFeed.Shell.Evaluation

/-! ## Jobs -/

/-- How long it takes a shell to start a process, in microseconds. -/
def forkTime : Nat := 1000

/-- How long it takes until a process that has been started runs, in microseconds. -/
def startTime : Nat := 1500

/-- How long it takes until a shell goes on behind a process for which it has waited, in
microseconds. -/
def wakeTime : Nat := 1000

/-- Whether a signal ends a job.  At first a job does about signals what the shell does; when it has
begun it catches none, and ignores interrupts from the terminal. -/
def endsJob (scope : Scope) (job : Job) (signal : Nat) : Bool :=
  let passedOver := if job.hasBegun then [2, 3] else job.caught
  let stops := [19, 20, 21, 22].contains signal
  let isIgnored := (scope.traps.lookup signal).isSome
  signal = 9 ||
    !(Signal.isHarmless signal || stops || isIgnored || passedOver.contains signal)

/-- Whether a signal ends a process at once, even before another that has been sent earlier. -/
def isPrompt (signal : Nat) : Bool :=
  !([2, 3, 4, 5, 6, 7, 8, 11, 24, 25, 31].contains signal)

/-- The signal among those that have been sent to a job that ends it, if one does. -/
def deadlySignal? (scope : Scope) (job : Job) (signals : List Nat) : Option Nat :=
  let deadly := signals.filter (endsJob scope job)
  deadly.find? isPrompt <|> deadly.min?

/-- How a run has ended that has left a session behind. -/
def endingOf (result : Except Leave Unit) (session : Session) : Ending :=
  match result with
  | .error (.killed signal) => { status := 128 + signal, signal? := some signal }
  | _ => { status := session.status }

/-- How a job ends that runs now, if it has not ended, and the world behind it. -/
def forecast? (run : Runner) (world : World) (job : Job) : Option (Ending × World) :=
  match job.progress with
  | .ended _ => none
  | .started time scope command =>
    let (signals, rest) := world.takeSignals job.process
    let start := time + startTime
    match deadlySignal? scope job signals with
    | some signal =>
      some ({ status := 128 + signal, signal? := some signal },
        { rest with clock := max rest.clock start })
    | none =>
      let session : Session := { scope with world := { rest with clock := start } }
      let (result, session) := ((run.runJob command).run session).run
      some (endingOf result session, session.world)

/-- The next job that ends, the earliest first, with its end and the world behind it. -/
def nextEnd? (run : Runner) (session : Session) : Option (Job × Ending × World) :=
  let ends := session.jobs.reverse.filterMap fun job =>
    (forecast? run session.world job).map (job, ·)
  (ends.mergeSort fun (_, _, first) (_, _, second) => first.clock ≤ second.clock).head?

/-- Whether a signal has come for which there is an action, other than the end of a job. -/
def isInterrupted : Run Bool := do
  return (← get).pending.any (· ≠ 17)

/-- Runs the jobs that end up to a time, if one is given, in at most `fuel` steps.  Where signals
are taken meanwhile, one that is caught interrupts that. -/
def runJobsUntil (run : Runner) (time? : Option Nat) (takesSignals : Bool) : Nat → Run Unit
  | 0 => return ()
  | fuel + 1 => do
    let session ← get
    match nextEnd? run session with
    | none => return ()
    | some (job, ending, world) =>
      if time?.any (· < world.clock) then return ()
      let clock := max session.world.clock world.clock
      set { session with
        world := { world.endProcess job.process with clock }
        jobs := JobTable.setProgress session.jobs job.process (.ended ending) }
      Run.receive 17
      if takesSignals then
        Run.receiveAll
        if ← isInterrupted then return ()
      runJobsUntil run time? takesSignals fuel

/-- Runs the jobs that end up to a time, if one is given. -/
def runJobs (run : Runner) (time? : Option Nat) : Run Unit := do
  runJobsUntil run time? false (← get).jobs.length

/-- The jobs that run have begun by now, and have survived the signals that were sent to them. -/
def beginJobs : Run Unit :=
  modify fun session =>
    let running := (session.jobs.filter fun job => job.progress.isRunning).map Job.process
    let signals := session.world.signals.filter fun (process, _) => !running.contains process
    { session with
      jobs := session.jobs.map fun job => { job with hasBegun := true }
      world := { session.world with signals } }

def setClock (clock : Nat) : Run Unit :=
  modify fun session => { session with world := { session.world with clock } }

/-- Lets time pass, in microseconds. -/
def pass (run : Runner) (duration : Nat) : Run Unit := do
  let time := (← get).world.clock + duration
  runJobs run (some time)
  setClock time

/-! ## Ends -/

/-- Runs the jobs that are left when a shell has ended.  Signals do not reach it any more. -/
def runLeftJobs (run : Runner) : Run Unit := do
  modify fun session => { session with hasEnded := true }
  runJobs run none

/-- Runs to the end of a shell, behind which its jobs come to theirs. -/
def toEnd (run : Runner) (main : Run Unit) : Run Unit :=
  Run.endingWith (runLeftJobs run) do
    tryCatch main fun leave => Run.unlessKilled leave (return ())
    runExitTrap run
    modify fun session => { session with status := session.status % 256 }

/-- What is said of a process that a signal has ended; interrupts are passed over. -/
def reportSignal (signal : Nat) : Run Unit := do
  if signal ≠ 2 && signal ≠ 13 then
    let _ ← Run.write 2 ((Signal.description signal).toList ++ ['\n'])

/-! ## Shells within shells -/

/-- The time at which a process ends that runs now. -/
def endOf {α : Type} (process : Run α) (session : Session) : Nat :=
  (process.run session).run.2.world.clock

/-- Runs a process for which the shell waits, behind the jobs that end before it does.  Signals
reach the shell when the process has ended. -/
def waiting {α : Type} (run : Runner) (process : Run α) : Run α := do
  pass run (forkTime + startTime)
  beginJobs
  let session ← get
  if session.jobs.any fun job => job.progress.isRunning then
    runJobs run (some (endOf process session))
    setClock session.world.clock
  modify fun session => { session with jobs := (JobTable.makeRoom session.jobs).2 }
  let result ← process
  pass run wakeTime
  Run.receive 17
  Run.receiveAll
  return result

/-- Runs in a shell of its own up to its end: the status. -/
def runApart (run : Runner) (main : Run Unit) : Run Nat := do
  match ← Run.apart (toEnd run main) with
  | some (.killed signal) =>
    reportSignal signal
    return 128 + signal
  | _ => return (← get).status

/-- Runs in a shell of its own up to its end, for which the shell waits: the status. -/
def inSubshell (run : Runner) (main : Run Unit) : Run Nat :=
  waiting run (runApart run main)

/-- Runs in a shell of its own up to its end, in the place of the current one: the status. -/
def inPlace (run : Runner) (main : Run Unit) : Run Nat := do
  match ← Run.apart (toEnd run main) with
  | some (.killed signal) => throw (.killed signal)
  | _ => return (← get).status

/-- The output of a command that runs in a shell of its own. -/
def substitute (run : Runner) (command : Command) : Run Bytes := do
  let session ← get
  let (reading, writing, world) := session.world.openPipe
  set { session with world }
  let status ← inSubshell run do
    modify fun inner => inner.setStream 1 (some writing)
    let _ ← run { isLast := true } command
  let output := ((← get).world.unread? reading).getD []
  modify fun outer => { outer with
    substitutionStatus := status, status := session.status
    world := outer.world.closeSince session.world }
  return output

/-! ## Waiting for jobs -/

/-- Waits until a job has ended: how, unless a signal interrupts that.  What has ended it is told if
that happens meanwhile. -/
def waitForJob (run : Runner) (job : Job) : Run (Option Ending) := do
  let session ← get
  if let some (_, world) := forecast? run session.world job then
    runJobsUntil run (some (max session.world.clock world.clock)) true session.jobs.length
    pass run wakeTime
    beginJobs
  if ← isInterrupted then return none
  let now := (← get).jobs.find? (·.process = job.process)
  match now.map Job.progress with
  | some (.ended ending) =>
    if job.progress.isRunning then
      if let some signal := ending.signal? then reportSignal signal
    modify fun session => { session with jobs := JobTable.setWaited session.jobs job.process }
    return some ending
  | _ => return none

/-- The status of a command that has been interrupted by a signal. -/
def interruptedStatus : Run Nat := do
  return 128 + ((← get).pending.filter (· ≠ 17)).getLastD 0

/-- The last status of jobs that texts name, and which are waited for.  Those that are not known are
passed over. -/
def waitForEach (run : Runner) (status : Nat) : List Bytes → Run Nat
  | [] => return status
  | name :: rest => do
    let job? ←
      if name.head? = some '%' then some <$> Builtin.jobNamed name
      else
        let process ← Run.count name
        pure ((← get).jobs.find? (·.process = process))
    match job? with
    | none => waitForEach run status rest
    | some job =>
      match ← waitForJob run job with
      | some ending => waitForEach run ending.status rest
      | none => interruptedStatus

/-- Waits for all jobs, or for those that arguments name. -/
def wait (run : Runner) (arguments : List Bytes) : Run Nat := do
  let names := (← Builtin.takeOptions [] [] arguments).2
  if names.isEmpty then
    runJobsUntil run none true (← get).jobs.length
    if ← isInterrupted then return ← interruptedStatus
    modify fun session =>
      { session with jobs := session.jobs.map fun job => { job with isWaited := true } }
    return 0
  else waitForEach run 127 names

/-- Starts a command beside the shell. -/
def start (run : Runner) (command : Command) : Run Nat := do
  pass run forkTime
  let session ← get
  let (process, world) := session.world.addProcess
  let (file, world) := world.open { isReadable := true }
  let (number, jobs) := JobTable.makeRoom session.jobs
  let scope := (session.within.setStream 0 (some file)).toScope
  let caught := (session.traps.filter fun (_, action) => !action.isEmpty).map (·.1)
  let job : Job := { number, process, progress := .started world.clock scope command, caught }
  set { session with world, jobs := job :: jobs, lastProcess? := some process }
  return 0

end ChangeFeed.Shell.Evaluation
