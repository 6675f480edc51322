/-
# Builtin commands for jobs

The jobs beside a shell are listed, and those that have ended are forgotten then.  No job can be
brought to the front: that takes a terminal.
-/

import ChangeFeed.Shell.Builtin.Output
import ChangeFeed.Shell.JobTable

namespace ChangeFeed.Shell.Builtin

/-- The job that a text names. -/
def jobNamed (text : Bytes) : Run Job := do
  match JobTable.find (← get).jobs text with
  | .ok job => return job
  | .error reason => Run.fail (Bytes.ofText reason)

/-- Tells about a job, and forgets it if it has ended. -/
def showJob (letters : List Char) (job : Job) : Run Unit := do
  let jobs := (← get).jobs
  if letters.getLast? = some 'p' then
    let _ ← emit "jobs" (decimalText job.process ++ ['\n']) 0
  else
    let _ ← emit "jobs" (JobTable.line jobs (letters.getLast? = some 'l') job) 0
    if !job.progress.isRunning then
      modify fun session =>
        { session with jobs := session.jobs.filter (·.process ≠ job.process) }

def listJobs (arguments : List Bytes) : Run Nat := do
  let (letters, names) ← takeOptions ['l', 'p'] [] arguments
  if names.isEmpty then (← get).jobs.forM (showJob letters)
  else names.forM fun name => do showJob letters (← jobNamed name)
  return 0

/-- Fails, because no job has been started from a terminal. -/
def moveJob (arguments : List Bytes) : Run Nat := do
  let name := (← takeOptions [] [] arguments).2.head?
  match name with
  | none =>
    if (← get).jobs.isEmpty then Run.fail "No current job".toList
    else Run.fail "job (null) not created under job control".toList
  | some name =>
    let _ ← jobNamed name
    Run.fail ("job ".toList ++ name ++ " not created under job control".toList)

end ChangeFeed.Shell.Builtin
