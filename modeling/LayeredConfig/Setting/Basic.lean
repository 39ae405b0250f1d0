/-!
# Settings

One entry of the configuration table: its key and kind, the default, the value the layers gave it
and the text it has now. Entries that are only referenced by other values are ad hoc; they carry
neither default nor description.
-/

namespace LayeredConfig

inductive Kind where
  | boolean
  | string
  | integer
  | adHoc
  deriving DecidableEq, Repr

namespace Kind

def name : Kind → String
  | boolean => "boolean"
  | string => "string"
  | integer => "integer"
  | adHoc => "local"

def ofName? (s : String) : Option Kind :=
  [boolean, string, integer, adHoc].find? (·.name == s)

end Kind

structure Setting where
  key : String
  kind : Kind
  default : String
  current : String
  description : String
  /-- The layered value, before expansion. -/
  raw : String
  deriving DecidableEq, Repr

namespace Setting

def orElse (s t : String) : String := if s = "" then t else s

/-- A new entry. An empty current value is the default, an empty raw value the current one; an ad
hoc entry then loses its default and its description. -/
def make (key : String) (kind : Kind) (default current description raw : String) : Setting :=
  let current := orElse current default
  let raw := orElse raw current
  if kind = .adHoc then ⟨key, kind, "", current, "", raw⟩
  else ⟨key, kind, default, current, description, raw⟩

def adHoc (key value : String) : Setting := make key .adHoc "" value "" ""

def changed (s : Setting) : Bool := s.raw != s.default

def layer (s : Setting) (value : String) : Setting :=
  { s with current := value, raw := value }

end Setting

end LayeredConfig
