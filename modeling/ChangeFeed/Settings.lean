/-
# Settings

What can be set about a watcher and its poller, with the defaults, the order in which defects are
found, and the text that diagnostics show.  Durations are in milliseconds.  The retry policy of the
poller has defaults of its own; a policy given in part is filled up with the defaults of a policy.
-/

import ChangeFeed.Backoff
import ChangeFeed.Reconcile

namespace ChangeFeed

structure WatcherSettings where
  /-- The period of idle polls. -/
  pollInterval : Nat := 5000
  /-- How many requests may wait. -/
  commandBuffer : Nat := 1024
  /-- How many events may wait. -/
  readerBuffer : Nat := 16
  /-- The most changes in one batch. -/
  maxBatch : Nat := 1024
  /-- The strategy after a discontinuity. -/
  reconcile : Strategy := .snapshot
  /-- Whether known revisions are seeded from a snapshot at the start. -/
  primeFromSnapshot : Bool := true
  deriving DecidableEq, Repr

structure RetrySettings where
  /-- The policy for reading the change log. -/
  logReader : Backoff := { maxRetries := 10, baseDelay := 50, maxDelay := 5000 }
  deriving DecidableEq, Repr

structure Settings where
  watcher : WatcherSettings := {}
  retry : RetrySettings := {}
  deriving DecidableEq, Repr

/-- Why settings are refused. -/
inductive SettingsDefect where
  | zeroPollInterval
  | zeroCommandBuffer
  | zeroReaderBuffer
  | zeroMaxBatch
  | policy (defect : Backoff.Defect)
  deriving DecidableEq, Repr

def SettingsDefect.message : SettingsDefect → String
  | .zeroPollInterval => "poll_interval_ms must be at least 1ms"
  | .zeroCommandBuffer => "command_buffer_size must be greater than 0"
  | .zeroReaderBuffer => "reader_buffer_size must be greater than 0"
  | .zeroMaxBatch => "max_batch_size must be greater than 0"
  | .policy defect => defect.message

/-- The first defect of a watcher's settings, if they have one. -/
def WatcherSettings.defect? (settings : WatcherSettings) : Option SettingsDefect :=
  if settings.pollInterval = 0 then some .zeroPollInterval
  else if settings.commandBuffer = 0 then some .zeroCommandBuffer
  else if settings.readerBuffer = 0 then some .zeroReaderBuffer
  else if settings.maxBatch = 0 then some .zeroMaxBatch
  else none

/-- The first defect of the retry policies, if they have one. -/
def RetrySettings.defect? (settings : RetrySettings) : Option SettingsDefect :=
  settings.logReader.defect?.map .policy

/-- The first defect of all settings, the watcher's before the policies'. -/
def Settings.defect? (settings : Settings) : Option SettingsDefect :=
  settings.watcher.defect? <|> settings.retry.defect?

/-! ## Diagnostics -/

/-- A structure as diagnostics show it. -/
def debugStructure (name : String) (fields : List (String × String)) : String :=
  name ++ " \x7b " ++ ", ".intercalate (fields.map fun (field, value) => field ++ ": " ++ value) ++
    " \x7d"

def Backoff.debug (policy : Backoff) : String :=
  debugStructure "BackoffPolicy"
    [("max_retries", toString policy.maxRetries), ("base_delay_ms", toString policy.baseDelay),
      ("max_delay_ms", toString policy.maxDelay)]

def WatcherSettings.debug (settings : WatcherSettings) : String :=
  debugStructure "WatcherConfig"
    [("poll_interval_ms", toString settings.pollInterval),
      ("command_buffer_size", toString settings.commandBuffer),
      ("reader_buffer_size", toString settings.readerBuffer),
      ("max_batch_size", toString settings.maxBatch),
      ("reconcile", settings.reconcile.debug),
      ("prime_from_snapshot", toString settings.primeFromSnapshot)]

def RetrySettings.debug (settings : RetrySettings) : String :=
  debugStructure "RetryPolicies" [("log_reader", settings.logReader.debug)]

def Settings.debug (settings : Settings) : String :=
  debugStructure "StatewatchConfig"
    [("watcher", settings.watcher.debug), ("retry", settings.retry.debug)]

end ChangeFeed
