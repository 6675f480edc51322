/-
# Patterns of paths

A path whose names are patterns stands for the files that it matches, in the order of their bytes.
A name that starts with a full stop is matched only by a pattern that does, too.  In front of the
first pattern, and between patterns, the text of the path is kept as it is.
-/

import ChangeFeed.Shell.Pattern

namespace ChangeFeed.Shell.Glob

/-- Whether an opened bracket is closed behind at least one character. -/
def closes : Bytes → Bool
  | [] => false
  | '\\' :: _ :: rest => rest.head? = some ']' || closes rest
  | _ :: rest => rest.head? = some ']' || closes rest

/-- Whether a name is a pattern. -/
def isPattern : Bytes → Bool
  | [] => false
  | '*' :: _ | '?' :: _ => true
  | '[' :: '!' :: rest => closes rest || isPattern rest
  | '[' :: rest => closes rest || isPattern rest
  | '\\' :: _ :: rest => isPattern rest
  | _ :: rest => isPattern rest

/-- The name that is written as a pattern without wildcards. -/
def literal : Bytes → Bytes
  | [] => []
  | '\\' :: c :: rest => c :: literal rest
  | c :: rest => c :: literal rest

/-- The names between the slashes of a pattern, which backslashes may precede. -/
def names : Bytes → List Bytes
  | [] => [[]]
  | '\\' :: c :: rest =>
    if c = '/' then [] :: names rest else extend ['\\', c] (names rest)
  | c :: rest => if c = '/' then [] :: names rest else extend [c] (names rest)
where
  /-- Puts characters in front of the first name. -/
  extend (start : Bytes) : List Bytes → List Bytes
    | [] => [start]
    | name :: rest => (start ++ name) :: rest

/-- What can be asked about files by their paths: the names in a directory, and whether there is a
file. -/
structure Files where
  namesIn : Bytes → List Bytes
  isThere : Bytes → Bool

/-- Whether a pattern starts with a full stop. -/
def startsWithStop : Bytes → Bool
  | '\\' :: c :: _ | c :: _ => c = '.'
  | [] => false

/-- The names behind a path that a pattern matches. -/
def namesMatching (files : Files) (path pattern : Bytes) : List Bytes :=
  (files.namesIn path).filter fun name =>
    (name.head? ≠ some '.' || startsWithStop pattern) && Pattern.matches pattern name

/-- The files that patterns of names match behind a path. -/
def expand (files : Files) : (path : Bytes) → (patterns : List Bytes) → List Bytes
  | _, [] => []
  | path, [last] =>
    if isPattern last then (namesMatching files path last).map (path ++ ·)
    else [path ++ literal last].filter files.isThere
  | path, pattern :: rest =>
    if isPattern pattern then
      (namesMatching files path pattern).flatMap fun name =>
        expand files (path ++ name ++ ['/']) rest
    else expand files (path ++ literal pattern ++ ['/']) rest

/-- The files that a pattern matches; none if it has no wildcards. -/
def «matches» (files : Files) (pattern : Bytes) : List Bytes :=
  let patterns := names pattern
  if patterns.any isPattern then
    (expand files [] patterns).mergeSort fun first second => !decide (second < first)
  else []

end ChangeFeed.Shell.Glob
