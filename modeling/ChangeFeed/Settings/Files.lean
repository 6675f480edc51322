/-
# Files of settings

Files stand in a tree of directories, and a path leads to one from the root.  On its way a path may
stay where it is or go back, but only in directories.  A file of settings is found by its path or by
the path without the extension of such files; the extension goes behind the last part that is a
name.
-/

namespace ChangeFeed.Settings

/-- Files by the names that lead to them from the root, with their texts. -/
abbrev Files := List (List String × String)

namespace Files

/-- The parts of a path. -/
def parts (path : String) : List String :=
  (path.toList.splitOn '/').map String.ofList

/-- A part that stays in the directory. -/
def stays (part : String) : Bool :=
  part = "" || part = "."

/-- Files from texts by their paths. -/
def ofPaths (files : List (String × String)) : Files :=
  files.map fun (path, text) => ((parts path).filter (!stays ·), text)

/-- Whether files stand below a place. -/
def isDirectory (files : Files) (place : List String) : Bool :=
  files.any fun (file, _) => place.isPrefixOf file && place.length < file.length

/-- Follows the parts of a path from a place. -/
def follow? (files : Files) (place : List String) : List String → Option (List String)
  | [] => some place
  | part :: rest =>
    if !files.isDirectory place then none
    else if stays part then files.follow? place rest
    else if part = ".." then files.follow? place.dropLast rest
    else files.follow? (place ++ [part]) rest

/-- The text of the file that a path leads to. -/
def text? (files : Files) (path : List String) : Option String := do
  files.lookup (← files.follow? [] path)

/-- A path without the parts at its end that stay in the directory, last part first. -/
def namesBackward (path : List String) : List String :=
  path.reverse.dropWhile stays

/-- The end of the name of a file of settings. -/
def extension : String := ".toml"

/-- Whether the last name of a path ends with the extension, and is more than that. -/
def hasExtension (path : List String) : Bool :=
  (namesBackward path).head?.any fun name =>
    name ≠ extension && extension.toList.isSuffixOf name.toList

/-- The path with the extension behind its last name. -/
def withExtension (path : List String) : List String :=
  match namesBackward path with
  | [] => path
  | name :: before => if name = ".." then path else ((name ++ extension) :: before).reverse

/-- The text of the file of settings that a path stands for.  A file of that very path must have the
extension, and a path that does not start at the root leads nowhere. -/
def find? (files : Files) (path : String) : Option String :=
  if path.toList.head? ≠ some '/' then none
  else
    let path := parts path
    match files.text? path with
    | some text => if hasExtension path then some text else none
    | none => files.text? (withExtension path)

end Files

end ChangeFeed.Settings
