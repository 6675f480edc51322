/-
# Loading settings

Settings are loaded in layers: what is there already, or the defaults, then a file, then the
environment.  The file is named by an environment variable, and may be left out; it can also be
given for settings that were loaded before.  How layers are made one is a parameter, and what comes
of them is read leniently.
-/

import ChangeFeed.Settings.Decode
import ChangeFeed.Settings.Files
import ChangeFeed.Settings.Variables
import ChangeFeed.Toml.Document

namespace ChangeFeed

/-- Where settings are loaded from. -/
structure Surroundings where
  files : Settings.Files := []
  /-- Environment variables by name. -/
  environment : List (String × String) := []

namespace Settings

/-- Why settings cannot be loaded. -/
inductive LoadFault where
  /-- A source cannot be read, or the settings do not have the values that they need. -/
  | unreadable
  /-- A value cannot be set. -/
  | path (fault : PathFault)
  deriving DecidableEq, Repr

/-- The variable that names the file of settings. -/
def fileVariable : String := "CONFIG_PATH"

/-- The layer of a file. -/
def ofFile? (files : Files) (path : String) : Option Layer := do
  Toml.read? (← files.find? path)

/-- Whether all numbers of some settings can take part in a layer, as numbers with a sign. -/
def fitsLayer (settings : Settings) : Bool :=
  [settings.watcher.pollInterval, settings.watcher.commandBuffer, settings.watcher.readerBuffer,
    settings.watcher.maxBatch, settings.retry.logReader.maxRetries,
    settings.retry.logReader.baseDelay, settings.retry.logReader.maxDelay].all fun number =>
      (number : Int) ≤ maxInt64

/-- Settings as a layer. -/
def ofSettings? (settings : Settings) : Option Layer :=
  match toValue settings with
  | .table entries => if settings.fitsLayer then some entries else none
  | _ => none

/-- A way to make one value of layers. -/
abbrev Merge := List Layer → Except PathFault Value

/-- The settings that layers amount to; a layer that is missing could not be read. -/
def ofLayers (merge : Merge) (layers : List (Option Layer)) : Except LoadFault Settings := do
  let some layers := layers.mapM id | throw .unreadable
  let values ← (merge layers).mapError .path
  let some settings := readSettings? lenient values | throw .unreadable
  return settings

/-- Lays a file and the environment over settings. -/
def override (merge : Merge) (settings : Settings) (surroundings : Surroundings) (file : String) :
    Except LoadFault Settings :=
  ofLayers merge [ofSettings? settings, ofFile? surroundings.files file,
    some (ofVariables surroundings.environment)]

/-- Lays the file that the environment names, and the environment, over the defaults. -/
def load (merge : Merge) (surroundings : Surroundings) : Except LoadFault Settings :=
  match surroundings.environment.lookup fileVariable with
  | some file => override merge {} surroundings file
  | none => ofLayers merge [ofSettings? {}, some (ofVariables surroundings.environment)]

end Settings

end ChangeFeed
