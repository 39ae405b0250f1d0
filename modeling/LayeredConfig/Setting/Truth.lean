import LayeredConfig.Text.Lowercase

/-!
# Truth of a value

Configuration values are texts. Five words, in any case, count as true; everything else is false.
-/

namespace LayeredConfig.Setting

def trueWords : List String := ["true", "1", "yes", "y", "on"]

/-- The value is one of the true words, in any case. -/
def isTrue (value : String) : Bool :=
  trueWords.contains (Text.lowerAscii value)

end LayeredConfig.Setting
