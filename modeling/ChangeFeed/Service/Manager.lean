/-
# Managing services

Installing, starting, stopping and observing a service with each of three init systems.  Systemd
and upstart keep a definition file, and a service without its file is not installed.  Windows keeps
services by itself: one that is there already is deleted before it is created again, and error 1060
says that there is none.  Upstart and Windows look at the status first, so that starting a running
service and stopping one that does not run do nothing.
-/

import ChangeFeed.Service.Host

namespace ChangeFeed

/-- A service on the init system of its host. -/
structure Service where
  init : InitSystem
  spec : ServiceSpec
  deriving DecidableEq, Repr

namespace Service

open Host

/-- Refuses a specification with a defect. -/
def checkSpec (service : Service) : HostAction Unit :=
  match service.spec.defect? with
  | some defect => throw (.invalidSpec defect.message)
  | none => return ()

/-- Runs a systemd verb on the service's unit. -/
def systemctl (service : Service) (verb : String) : HostAction Unit := do
  let _ ← runChecked "systemctl" [verb, service.spec.unitName]

/-- The error by which the service control manager says that there is no such service. -/
def doesNotExist : String := "1060"

/-- Whether a text occurs in another. -/
def occursIn (part : List Char) : List Char → Bool
  | [] => part.isEmpty
  | c :: rest => part.isPrefixOf (c :: rest) || occursIn part rest

/-- Whether an output speaks of a service that does not exist. -/
def reportsMissing (output : CommandOutput) : Bool :=
  occursIn doesNotExist.toList output.stdout.toList ||
    occursIn doesNotExist.toList output.stderr.toList

/-- Observes the service. -/
def status (service : Service) : HostAction ServiceStatus := do
  let name := service.spec.name
  match service.init with
  | .systemd =>
    if !(← hasFile) then return .notInstalled
    let output ← run "systemctl" ["status", service.spec.unitName]
    return .ofSystemd output.stdout
  | .upstart =>
    if !(← hasFile) then return .notInstalled
    let output ← runChecked "status" [name]
    return .ofUpstart name output.stdout
  | .windows =>
    let output ← run "sc.exe" ["query", name]
    if output.success then return .ofWindows output.stdout
    else if reportsMissing output then return .notInstalled
    else throw (failure "sc.exe" ["query", name] output)

/-- Writes the definition file, where the init system uses one. -/
def writeDefinition (service : Service) : HostAction Unit :=
  match service.spec.definition? service.init with
  | some file => writeFile file
  | none => return ()

/-- Registers the service; one that was registered before is overwritten. -/
def install (service : Service) : HostAction Unit := do
  service.checkSpec
  match service.init with
  | .systemd =>
    service.writeDefinition
    let _ ← runChecked "systemctl" ["daemon-reload"]
    service.systemctl "enable"
  | .upstart => service.writeDefinition
  | .windows =>
    let name := service.spec.name
    if (← service.status) ≠ .notInstalled then
      let _ ← runChecked "sc.exe" ["delete", name]
    let _ ← runChecked "sc.exe"
      ["create", name, "binPath=", service.spec.commandLine, "start=", "auto", "DisplayName=",
        service.spec.description]

/-- Starts the service. -/
def start (service : Service) : HostAction Unit := do
  let name := service.spec.name
  match service.init with
  | .systemd => service.systemctl "start"
  | .upstart =>
    if (← service.status) = .running then return ()
    let _ ← runChecked "start" [name]
  | .windows =>
    if (← service.status) = .running then return ()
    let _ ← runChecked "sc.exe" ["start", name]

/-- Stops the service. -/
def stop (service : Service) : HostAction Unit := do
  let name := service.spec.name
  match service.init with
  | .systemd => service.systemctl "stop"
  | .upstart =>
    if (← service.status) ≠ .running then return ()
    let _ ← runChecked "stop" [name]
  | .windows =>
    if (← service.status) ≠ .running then return ()
    let _ ← runChecked "sc.exe" ["stop", name]

/-- The service as diagnostics show it, with the directory of its definition file. -/
def debug (service : Service) (directory : String) : String :=
  let spec := "spec: " ++ service.spec.debug
  match service.init with
  | .systemd =>
    "Systemd(SystemdService \x7b " ++ spec ++ ", unit_dir: " ++ Text.quote directory ++ " \x7d)"
  | .upstart =>
    "Upstart(UpstartService \x7b " ++ spec ++ ", job_dir: " ++ Text.quote directory ++ " \x7d)"
  | .windows => "Windows(WindowsService \x7b " ++ spec ++ " \x7d)"

end Service

end ChangeFeed
