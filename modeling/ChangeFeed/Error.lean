/-
# Errors

Every error of the library under one type.  An error is terminal when it means that the watcher no
longer serves requests.
-/

import ChangeFeed.Service.Host
import ChangeFeed.Settings
import ChangeFeed.Watcher

namespace ChangeFeed

inductive Error where
  | settings (defect : SettingsDefect)
  | watcher (error : WatchError)
  | read (error : ReadError)
  | service (error : ServiceError)
  /-- The watcher has ended because its reader failed. -/
  | fatal (reason : String)
  deriving DecidableEq, Repr

namespace Error

/-- The name of a kind of error, under the name of the part that it comes from. -/
def kind : Error → String
  | settings _ => "Config"
  | watcher error => "Watcher." ++ error.kind
  | read error => "Read." ++ error.kind
  | service error => "Service." ++ error.kind
  | fatal _ => "Fatal"

def message : Error → String
  | settings defect => defect.message
  | watcher error => error.message
  | read error => error.message
  | service error => error.message
  | fatal reason => "Fatal error: " ++ reason

/-- Whether the watcher no longer serves requests. -/
def isTerminal : Error → Bool
  | fatal _ | watcher .stopped | read (.fatal _) => true
  | _ => false

end Error

/-- The error of an outcome, if it is a failure. -/
def Outcome.error? : Outcome → Option Error
  | .shutDown => none
  | .failed reason => some (.fatal reason)

end ChangeFeed
