/-!
# The journal

What a run has to report beside its result: warnings, and notes on how it went. Each record knows
its wording and the part of the library that wrote it.
-/

namespace LayeredConfig

inductive Channel where
  | overlay
  | layering
  | resolver
  | store
  | redundancy
  deriving DecidableEq, Repr

def Channel.name : Channel → String
  | overlay => "overlay"
  | layering => "layering"
  | resolver => "resolver"
  | store => "store"
  | redundancy => "redundancy"

inductive Record where
  | overlayMissing (path : String)
  | overlayRead (path : String)
  | sourceIgnored (path : String) (line : Nat) (target : String)
  | sourceMissing (path : String) (line : Nat) (included : String)
  | homeUnknown
  | adHocAdded (key : String)
  | layered (settings pending : Nat)
  | cycle (target within : String)
  | resolved (count : Nat)
  | ruleUnknown (key value fallback : String)
  deriving DecidableEq, Repr

/-- Records in the order in which they were written. -/
abbrev Journal := List Record

namespace Record

/-- The record warns of something; the others only say how the run went. -/
def isWarning : Record → Bool
  | sourceIgnored .. | sourceMissing .. | homeUnknown | ruleUnknown .. => true
  | _ => false

def channel : Record → Channel
  | overlayMissing _ | overlayRead _ | sourceIgnored .. | sourceMissing .. => .overlay
  | homeUnknown | adHocAdded _ | layered .. => .layering
  | cycle .. => .resolver
  | resolved _ => .store
  | ruleUnknown .. => .redundancy

def place (path : String) (line : Nat) : String :=
  path ++ ":" ++ toString line ++ ": "

def text : Record → String
  | overlayMissing path => "Overlay not found, skipping: " ++ path
  | overlayRead path => "Reading overlay: " ++ path
  | sourceIgnored path line target => place path line ++ "source ignored: " ++ target
  | sourceMissing path line included => place path line ++ "cannot source " ++ included
  | homeUnknown => "No $HOME found in environment."
  | adHocAdded key => "Registering local option " ++ key
  | layered settings pending =>
    "Layered " ++ toString settings ++ " options, " ++ toString pending ++
      " with delayed references"
  | cycle target within => "Cycle through " ++ target ++ " while expanding " ++ within
  | resolved count => "Resolved " ++ toString count ++ " configuration keys"
  | ruleUnknown key value fallback =>
    key ++ " has unknown value \"" ++ value ++ "\"; assuming value \"" ++ fallback ++
      "\" instead."

end Record

end LayeredConfig
