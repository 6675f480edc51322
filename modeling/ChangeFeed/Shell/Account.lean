/-
# Accounts

The users of the machine that scripts run on, and the directories that belong to them.
-/

import ChangeFeed.Shell.Syntax

namespace ChangeFeed.Shell.Account

/-- The users and their directories. -/
def homes : List (String × String) :=
  [("root", "/root"), ("daemon", "/usr/sbin"), ("bin", "/bin"), ("sys", "/dev"), ("sync", "/bin"),
    ("games", "/usr/games"), ("man", "/var/cache/man"), ("lp", "/var/spool/lpd"),
    ("mail", "/var/mail"), ("news", "/var/spool/news"), ("uucp", "/var/spool/uucp"),
    ("proxy", "/bin"), ("www-data", "/var/www"), ("backup", "/var/backups"),
    ("list", "/var/list"), ("irc", "/run/ircd"), ("_apt", "/nonexistent"),
    ("nobody", "/nonexistent")]

/-- The directory of a user, if there is one of that name. -/
def home? (user : Bytes) : Option Bytes :=
  (homes.lookup (Bytes.toText user)).map Bytes.ofText

end ChangeFeed.Shell.Account
