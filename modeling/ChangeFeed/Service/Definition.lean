/-
# Service definition files

The files that tell an init system about a service: a unit for systemd and a job for upstart, each
a fixed template with places for the description and the command line.  Neither is escaped.
-/

import ChangeFeed.Service.Spec
import ChangeFeed.Service.Status

namespace ChangeFeed

/-- A definition file by its name inside the init system's directory and its text. -/
structure DefinitionFile where
  name : String
  text : String
  deriving DecidableEq, Repr

namespace ServiceSpec

/-- The name of the service's unit. -/
def unitName (spec : ServiceSpec) : String :=
  spec.name ++ ".service"

/-- The name of the file of the service's job: what follows the last slash. -/
def jobFileName (spec : ServiceSpec) : String :=
  String.ofList ((spec.name ++ ".conf").toList.reverse.takeWhile (· ≠ '/')).reverse

/-- The lines of a systemd unit. -/
def unitLines (spec : ServiceSpec) : List String :=
  ["[Unit]",
    "Description=" ++ spec.description,
    "After=network-online.target",
    "",
    "[Service]",
    "ExecStart=" ++ spec.commandLine,
    "Restart=on-failure",
    "",
    "[Install]",
    "WantedBy=multi-user.target"]

/-- The lines of an upstart job. -/
def jobLines (spec : ServiceSpec) : List String :=
  ["description \"" ++ spec.description ++ "\"",
    "start on runlevel [2345]",
    "stop on runlevel [!2345]",
    "respawn",
    "",
    "exec " ++ spec.commandLine]

/-- Lines as a text, each with its line feed. -/
def textOf (lines : List String) : String :=
  String.join (lines.map (· ++ "\n"))

/-- The definition file of a service, where the init system uses one. -/
def definition? (spec : ServiceSpec) : InitSystem → Option DefinitionFile
  | .systemd => some ⟨spec.unitName, textOf spec.unitLines⟩
  | .upstart => some ⟨spec.jobFileName, textOf spec.jobLines⟩
  | .windows => none

end ServiceSpec

end ChangeFeed
