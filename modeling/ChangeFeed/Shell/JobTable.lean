/-
# Jobs by their numbers

A job keeps its number until its end is known: a job whose end has been waited for gives its number
up to the next that needs one.  Texts name jobs by their numbers or as the last one and the one
before it.
-/

import ChangeFeed.Shell.Session

namespace ChangeFeed.Shell.JobTable

/-- Whether a job keeps its number. -/
def keepsNumber (job : Job) : Bool :=
  job.progress.isRunning || !job.isWaited

/-- The first number that no job keeps, and the jobs without the one that gives it up. -/
def makeRoom (jobs : List Job) : Nat × List Job :=
  let isFree (number : Nat) : Bool :=
    jobs.all fun job => job.number ≠ number || !keepsNumber job
  let numbers := (List.range (jobs.length + 1)).map (· + 1)
  let number := (numbers.find? isFree).getD (jobs.length + 1)
  (number, jobs.filter (·.number ≠ number))

/-- Says of one job how far it is. -/
def setProgress (jobs : List Job) (process : Nat) (progress : Progress) : List Job :=
  jobs.map fun job => if job.process = process then { job with progress } else job

/-- Takes note that a job has been waited for. -/
def setWaited (jobs : List Job) (process : Nat) : List Job :=
  jobs.map fun job => if job.process = process then { job with isWaited := true } else job

/-- The job that a text names, or why there is none. -/
def find (jobs : List Job) (text : Bytes) : Except String Job :=
  let orElse (job? : Option Job) (reason : String) : Except String Job :=
    match job? with
    | some job => .ok job
    | none => .error reason
  let noSuchJob := "No such job: " ++ Bytes.toText text
  match text with
  | ['%'] | ['%', '%'] | ['%', '+'] => orElse jobs.head? "No current job"
  | ['%', '-'] => orElse (jobs.drop 1).head? "No previous job"
  | '%' :: number =>
    if !number.isEmpty && number.all Char.isDigit then
      orElse (jobs.find? (·.number = digitsValue 10 number)) noSuchJob
    else .error noSuchJob
  | _ => .error noSuchJob

/-- How far a job is. -/
def describe : Progress → String
  | .started .. => "Running"
  | .ended { status, signal? } =>
    match signal? with
    | some signal => Signal.description signal
    | none => if status = 0 then "Done" else "Done(" ++ toString status ++ ")"

/-- The line that tells about a job, which may be the last one or the one before it.  The process is
named only where that is asked for. -/
def line (jobs : List Job) (namesProcess : Bool) (job : Job) : Bytes :=
  let isNth (place : Nat) : Bool := (jobs[place]?).any (·.process = job.process)
  let mark := if isNth 0 then '+' else if isNth 1 then '-' else ' '
  let process :=
    if namesProcess then (toString job.process ++ " ").toList else []
  let start :=
    "[".toList ++ decimalText job.number ++ "] ".toList ++ [mark, ' '] ++ process ++
      (describe job.progress).toList
  start ++ List.replicate (max (33 - start.length) 1) ' ' ++ ['\n']

end ChangeFeed.Shell.JobTable
