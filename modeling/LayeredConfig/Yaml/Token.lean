/-!
# YAML tokens

The marks and words a document consists of, each with the line on which it starts.
-/

namespace LayeredConfig.Yaml

/-- A tag as it is written: a handle, unless it is given in full, and a suffix. -/
structure TagName where
  handle : Option String
  suffix : String
  deriving DecidableEq, Repr

inductive Mark where
  | streamEnd
  | versionDirective (major : Nat)
  | tagDirective (handle meaning : String)
  | otherDirective
  | documentStart
  | documentEnd
  | blockSequenceStart
  | blockMappingStart
  | blockEnd
  | flowSequenceStart
  | flowMappingStart
  | flowSequenceEnd
  | flowMappingEnd
  | blockEntry
  | flowEntry
  | key
  | value
  | alias (name : String)
  | anchor (name : String)
  | tag (name : TagName)
  | scalar (text : String) (plain : Bool)
  deriving DecidableEq, Repr

structure Token where
  mark : Mark
  line : Nat
  deriving DecidableEq, Repr

end LayeredConfig.Yaml
