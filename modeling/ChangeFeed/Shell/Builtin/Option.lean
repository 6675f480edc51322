/-
# Options of builtin commands

Options stand in front of other arguments, each a letter behind a hyphen, and `--` ends them.
-/

import ChangeFeed.Shell.Session

namespace ChangeFeed.Shell.Builtin

/-- The letters of the options in a word, and the arguments behind them.  Those in `valued` take the
rest of the word or the next argument, which does not matter here. -/
def lettersOf (letters valued : List Char) : Bytes → List Bytes → Run (List Char × List Bytes)
  | [], arguments => return ([], arguments)
  | c :: more, arguments => do
    if valued.contains c then
      if more.isEmpty && arguments.isEmpty then
        Run.fail ("No arg for -".toList ++ c :: " option".toList)
      return ([c], if more.isEmpty then arguments.drop 1 else arguments)
    else if letters.contains c then
      let (behind, arguments) ← lettersOf letters valued more arguments
      return (c :: behind, arguments)
    else Run.fail ("Illegal option -".toList ++ [c])

/-- The letters of options and the arguments behind them, in at most `fuel` steps. -/
def options (letters valued : List Char) : Nat → List Bytes → Run (List Char × List Bytes)
  | 0, arguments => return ([], arguments)
  | fuel + 1, arguments => do
    match arguments with
    | ['-', '-'] :: rest => return ([], rest)
    | ('-' :: c :: more) :: rest =>
      let (letters', rest) ← lettersOf letters valued (c :: more) rest
      let (behind, rest) ← options letters valued fuel rest
      return (letters' ++ behind, rest)
    | arguments => return ([], arguments)

/-- Takes the options in front of arguments. -/
def takeOptions (letters valued : List Char) (arguments : List Bytes) :
    Run (List Char × List Bytes) :=
  options letters valued (arguments.length + 1) arguments

end ChangeFeed.Shell.Builtin
