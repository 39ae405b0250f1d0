import LayeredConfig.Fault
import LayeredConfig.Redundancy
import LayeredConfig.Setting.Listing
import LayeredConfig.Setting.Truth
import LayeredConfig.Table
import LayeredConfig.Text.Integer

/-!
# Resolved configurations

A configuration that has been resolved: the final value of every key, and the settings that the
keys belong to. It is only read.
-/

namespace LayeredConfig

structure Config where
  values : Table String
  /-- The table's settings, then the ad hoc ones. -/
  settings : List Setting

namespace Config

/-- Of several settings with one key the last one is the key's. -/
def setting? (c : Config) (key : String) : Option Setting :=
  c.settings.reverse.find? (·.key == key)

def setting (c : Config) (key : String) : Except Fault Setting :=
  match c.setting? key with
  | some s => .ok s
  | none => .error (.unknownKey key)

/-- The value of a key as an item; an unknown key is a failure. -/
def item (c : Config) (key : String) : Except Fault String :=
  match c.values.get? key with
  | some v => .ok v
  | none => .error (.failure .noSuchItem)

def require (c : Config) (key : String) : Except Fault String := do
  c.item (← c.setting key).key

def getBool (c : Config) (key : String) (default : Bool) : Bool :=
  match c.values.get? key with
  | some v => Setting.isTrue v
  | none => default

def getInteger (c : Config) (key : String) (default : Int) : Except Fault Int :=
  match c.values.get? key with
  | none => .ok default
  | some v =>
    match Text.leadingInteger v with
    | .ok i => .ok i
    | .error e => .error (.failure (.numeral e))

def getRedundancy (c : Config) (key : String) (categories : Redundancy.Categories)
    (p : Redundancy.Pair) : Redundancy.Pair × Journal :=
  Redundancy.parse (c.values.getD key "") categories p key

def listing (c : Config) (useDefaults : Bool) : String :=
  Setting.listAll useDefaults c.settings

def describe (c : Config) : String :=
  "ResolvedConfig(" ++ toString c.values.size ++ " keys)"

end Config

end LayeredConfig
