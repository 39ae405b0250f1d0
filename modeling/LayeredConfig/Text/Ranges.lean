/-!
# Ranges of characters

A class of characters is given by ranges of their numbers, each with its first and its last one.
-/

namespace LayeredConfig.Text

def inRanges (rs : List (Nat × Nat)) (c : Char) : Bool :=
  rs.any (fun r => r.1 ≤ c.toNat && c.toNat ≤ r.2)

end LayeredConfig.Text
