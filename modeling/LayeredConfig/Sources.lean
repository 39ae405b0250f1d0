import LayeredConfig.Journal
import LayeredConfig.Path
import LayeredConfig.Table

/-!
# Sources

Where the overlays lie: one for the system, below a prefix that the environment may give, and one
for the user, in the home directory unless another place is named.
-/

namespace LayeredConfig

structure Sources where
  systemPath : String := "/etc/delayrc"
  userFilename : String := ".delayrc"
  prefixVariable : String := "EPREFIX"
  rootVariable : String := "CONFIGROOT"
  useUser : Bool := true
  userPath : Option String := none
  deriving DecidableEq, Repr

namespace Sources

def rootPrefix (s : Sources) (env : Table String) : String :=
  env.getD s.prefixVariable "" ++ env.getD s.rootVariable ""

def systemFile (s : Sources) (env : Table String) : Path :=
  Path.ofString (s.rootPrefix env ++ s.systemPath)

/-- The overlay of the user, if there is to be one; without a home directory there is none, and a
record says so. -/
def userFile (s : Sources) (env : Table String) : Option Path × Journal :=
  if !s.useUser then (none, [])
  else match s.userPath with
    | some p => (some (Path.ofString p), [])
    | none =>
      let home := env.getD "HOME" ""
      if home = "" then (none, [.homeUnknown])
      else (some ((Path.ofString home).join (Path.ofString s.userFilename)), [])

end Sources

end LayeredConfig
