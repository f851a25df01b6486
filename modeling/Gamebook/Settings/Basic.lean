import Gamebook.Text.Basic

/-!
# Settings

What holds for a whole program: the extensions of the markup, the stem of the
identifiers of tables, how many rolls a session remembers, and from which level on
messages are logged.
-/

namespace Gamebook

/-- What can be set from outside. -/
structure Settings where
  extensions : List Text
  tableIdStem : Text
  /-- The greatest number of rolls that are remembered; nothing for no bound. -/
  historyLimit : Option Int
  logLevel : Text
deriving DecidableEq

namespace Settings

/-- The settings where nothing is set. -/
def standard : Settings where
  extensions := ["tables", "nl2br", "fenced_code", "sane_lists"].map String.toList
  tableIdStem := "table".toList
  historyLimit := none
  logLevel := "INFO".toList

end Settings

end Gamebook
