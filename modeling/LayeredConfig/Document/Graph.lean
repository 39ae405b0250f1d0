import LayeredConfig.Document.Value

/-!
# Documents as graphs

A collection of a document may stand in several places, and inside itself. So collections are
numbered, and a place holds a value or the number of a collection. The value of a place is what is
seen from there: collections are entered, but not one that lies around the place where it is met.
-/

namespace LayeredConfig.Document

inductive Part where
  /-- A value that is given in full. -/
  | whole (v : Value)
  /-- An entry of an ordered mapping. -/
  | pair (k v : Part)
  | numbered (n : Nat)

inductive Collection where
  | list (items : List Part)
  | set (keys : List Value)
  | mapping (entries : List (Value × Part))

structure Graph where
  /-- The collections by their numbers. -/
  collections : Array (Option Collection) := #[]
  root : Part

def Part.value (collection : Nat → Value) : Part → Value
  | whole v => v
  | pair k v => .pair (value collection k) (value collection v)
  | numbered n => collection n

namespace Graph

def ofValue (v : Value) : Graph := { root := .whole v }

def collection? (g : Graph) (n : Nat) : Option Collection := (g.collections[n]?).join

/-- The value of a collection inside those of `path`; at most `levels` collections are entered. -/
def collectionValue (g : Graph) : (levels : Nat) → (path : List Nat) → Nat → Value
  | 0, _, _ => .null
  | levels + 1, path, n =>
    let inner := Part.value (g.collectionValue levels (n :: path))
    match g.collection? n with
    | none => .null
    | some (.set ks) => .set ks
    | some (.list ps) => if path.contains n then .again false else .list (ps.map inner)
    | some (.mapping es) =>
      if path.contains n then .again true
      else .mapping (es.map (fun e => (e.1, inner e.2)))

/-- The value that is seen from a place. The numbers on the way are different, so no path is longer
than there are collections. -/
def value (g : Graph) (p : Part) : Value :=
  p.value (g.collectionValue (g.collections.size + 1) [])

def items? (g : Graph) : Part → Option (List Part)
  | .whole (.list vs) => some (vs.map .whole)
  | .numbered n =>
    match g.collection? n with
    | some (.list ps) => some ps
    | _ => none
  | _ => none

def entries? (g : Graph) : Part → Option (List (Value × Part))
  | .whole (.mapping es) => some (es.map (fun e => (e.1, .whole e.2)))
  | .numbered n =>
    match g.collection? n with
    | some (.mapping es) => some es
    | _ => none
  | _ => none

end Graph

end LayeredConfig.Document
