/-
# The tree of files

What a script finds when it starts: directories, devices, programs and other files.  A path leads
from a directory to a location, part by part, and every part but the last has to name a directory.
Links lead on to where they point.
-/

import ChangeFeed.Shell.Syntax

namespace ChangeFeed.Shell

/-- A place in the tree of files: the names on the way to it from the root. -/
abbrev Location := List Bytes

inductive FileKind where
  | directory
  /-- A file whose text, by its number, a script can read and write. -/
  | text (number : Nat)
  /-- A file that comes with the machine and counts as having no text that can be read. -/
  | document
  | program
  /-- A device that is empty and takes whatever is written to it. -/
  | sink
  /-- A device that takes nothing. -/
  | full
  /-- The terminal that a process does not have. -/
  | terminal
  /-- A stream of the process that asks for it. -/
  | stream (number : Nat)
  deriving DecidableEq, Repr

namespace Tree

/-- The texts between the slashes of a path. -/
def partsOf (path : Bytes) : List Bytes :=
  Bytes.splitOn '/' path

/-- The location of a path that starts at the root and takes no turns. -/
def locationOf (path : String) : Location :=
  (partsOf (Bytes.ofText path)).filter fun part => !part.isEmpty

/-- The path to a location. -/
def pathTo (location : Location) : Bytes :=
  match location with
  | [] => ['/']
  | names => names.flatMap ('/' :: ·)

def directories : List String :=
  ["/", "/boot", "/dev", "/dev/mqueue", "/dev/pts", "/dev/shm", "/etc", "/home", "/media", "/mnt",
    "/opt", "/proc", "/proc/self", "/proc/self/fd", "/root", "/run", "/srv", "/sys", "/tmp", "/usr",
    "/usr/bin", "/usr/games", "/usr/include", "/usr/lib", "/usr/lib64", "/usr/local",
    "/usr/local/bin", "/usr/local/sbin", "/usr/sbin", "/usr/share", "/usr/src", "/var",
    "/var/backups", "/var/cache", "/var/lib", "/var/local", "/var/log", "/var/mail", "/var/opt",
    "/var/spool", "/var/tmp", "/work"]

/-- The names of programs, all in one directory. -/
def programs : List String :=
  ["cat", "echo", "false", "printf", "sh", "sleep", "true"]

def documents : List String :=
  ["/etc/group", "/etc/hostname", "/etc/hosts", "/etc/os-release", "/etc/passwd", "/etc/profile",
    "/etc/resolv.conf", "/etc/shadow", "/etc/shells", "/proc/cpuinfo", "/proc/kcore",
    "/proc/meminfo", "/proc/uptime", "/proc/version"]

def devices : List (String × FileKind) :=
  [("/dev/full", .full), ("/dev/null", .sink), ("/dev/ptmx", .sink), ("/dev/random", .sink),
    ("/dev/tty", .terminal), ("/dev/urandom", .sink), ("/dev/zero", .sink)]

/-- Where the links among the files point. -/
def links : List (Location × Location) :=
  [("/bin", "/usr/bin"), ("/dev/core", "/proc/kcore"), ("/dev/fd", "/proc/self/fd"),
    ("/dev/stdin", "/proc/self/fd/0"), ("/dev/stdout", "/proc/self/fd/1"),
    ("/dev/stderr", "/proc/self/fd/2"), ("/lib", "/usr/lib"), ("/lib64", "/usr/lib64"),
    ("/sbin", "/usr/sbin"), ("/var/run", "/run")].map fun (link, target) =>
      (locationOf link, locationOf target)

/-- How many streams a process can have. -/
def streamCount : Nat := 10

/-- All files that are no links. -/
def files : List (Location × FileKind) :=
  (directories.map fun path => (locationOf path, .directory)) ++
    (programs.map fun name => (locationOf ("/usr/bin/" ++ name), .program)) ++
    (documents.map fun path => (locationOf path, .document)) ++
    (devices.map fun (path, kind) => (locationOf path, kind)) ++
    (List.range streamCount).map fun number =>
      (locationOf ("/proc/self/fd/" ++ toString number), .stream number)

/-- The directory in which a script starts. -/
def start : Location := locationOf "/work"

/-- The location to which the parts of a path lead from another, in at most `fuel` steps, if all
that have to be directories are.  There need not be a file at the end. -/
def walk (kindAt? : Location → Option FileKind) : Nat → Location → List Bytes → Option Location
  | _, location, [] => some location
  | 0, _, _ :: _ => none
  | fuel + 1, location, part :: rest =>
    if kindAt? location ≠ some .directory then none
    else if part.isEmpty || part = ['.'] then walk kindAt? fuel location rest
    else if part = ['.', '.'] then walk kindAt? fuel location.dropLast rest
    else
      let next := location ++ [part]
      match links.lookup next with
      | some target => walk kindAt? fuel target rest
      | none => walk kindAt? fuel next rest

/-- The location to which a path leads from a directory. -/
def locate? (kindAt? : Location → Option FileKind) (directory : Location) (path : Bytes) :
    Option Location :=
  let parts := partsOf path
  match path with
  | [] => none
  | '/' :: _ => walk kindAt? parts.length [] parts
  | _ => walk kindAt? parts.length directory parts

/-- The name of a location in a directory, if it is right there. -/
def nameIn? (directory location : Location) : Option Bytes :=
  if location.dropLast = directory then location.getLast? else none

/-- The names of the files and links that a script finds in a directory. -/
def namesIn (directory : Location) : List Bytes :=
  (files.map (·.1) ++ links.map (·.1)).filterMap (nameIn? directory)

end Tree

end ChangeFeed.Shell
