import LayeredConfig.Document.Graph
import LayeredConfig.Document.Slots
import LayeredConfig.Yaml.Merge
import LayeredConfig.Yaml.Scalar

/-!
# YAML documents

The nodes of a document as values. Scalars are read where they are met, collections are entered
later, in the order in which they were met; so of several nodes at fault the one reported is the
first in level order. A mapping is spread when it is entered.
-/

namespace LayeredConfig.Yaml

open Document (Value Part Collection Graph)

def isCollectionTag : Tag → Bool
  | .seq | .map | .set | .omap | .pairs => true
  | _ => false

/-- The text of a node that has to be a scalar; a mapping may have a default value. -/
def Nodes.scalarText (ns : Nodes) : (levels : Nat) → Nat → Except Fault String
  | 0, n => ns.fail n
  | levels + 1, n =>
    match ns.content n with
    | .scalar text => .ok text
    | .sequence _ => ns.fail n
    | .mapping es =>
      match es.find? (fun e => ns.tag e.1 = .value) with
      | none => ns.fail n
      | some (_, v) => scalarText ns levels v

def Nodes.scalarValue (ns : Nodes) (n : Nat) : Except Fault Value := do
  let tag := ns.tag n
  if tag matches .merge | .value | .unknown then ns.fail n
  else
    let text ← ns.scalarText (ns.size + 1) n
    match tag, ns.content n with
    | .timestamp, .mapping _ => unfit .noPlainTimestamp
    | _, _ => readScalar tag text (ns.line n) n

/-- What the nodes have become so far, and the collections that wait to be entered. -/
structure Construction where
  nodes : Nodes
  parts : Array (Option Part)
  collections : Array (Option Collection)
  waiting : List Nat := []

namespace Construction

def start (ns : Nodes) : Construction :=
  ⟨ns, Array.replicate ns.size none, Array.replicate ns.size none, []⟩

/-- Meets a node: a scalar is read, a collection is left for later. -/
def meet (c : Construction) (n : Nat) : Except Fault (Part × Construction) := do
  match (c.parts[n]?).join with
  | some p => return (p, c)
  | none =>
    if isCollectionTag (c.nodes.tag n) then
      let p := Part.numbered n
      return (p, { c with parts := c.parts.modify n (fun _ => some p), waiting := c.waiting ++ [n] })
    else
      let p := Part.whole (← c.nodes.scalarValue n)
      return (p, { c with parts := c.parts.modify n (fun _ => some p) })

def meetAll : List Nat → Construction → Except Fault (List Part × Construction)
  | [], c => return ([], c)
  | n :: ns, c => do
    let (p, c) ← c.meet n
    let (ps, c) ← meetAll ns c
    return (p :: ps, c)

def meetKey (c : Construction) (n : Nat) : Except Fault (Value × Construction) := do
  match ← c.meet n with
  | (.whole v, c) => return (v, c)
  | _ => c.nodes.fail n

def meetEntries : List (Nat × Nat) → Construction →
    Except Fault (List (Value × Part) × Construction)
  | [], c => return ([], c)
  | (k, v) :: es, c => do
    let (key, c) ← c.meetKey k
    let (p, c) ← c.meet v
    let (rest, c) ← meetEntries es c
    return ((key, p) :: rest, c)

/-- Meets the entries of an ordered mapping: mappings of one entry each. -/
def meetPairs : List Nat → Construction → Except Fault (List Part × Construction)
  | [], c => return ([], c)
  | n :: ns, c => do
    match c.nodes.content n with
    | .mapping [(k, v)] =>
      let (key, c) ← c.meet k
      let (p, c) ← c.meet v
      let (rest, c) ← meetPairs ns c
      return (.pair key p :: rest, c)
    | _ => c.nodes.fail n

def enterMapping (c : Construction) (merges n : Nat) :
    Except Fault (List (Value × Part) × Construction) := do
  let ns ← c.nodes.spread merges n
  let (es, c) ← meetEntries (ns.entries n) { c with nodes := ns }
  return (Value.ofEntries es, c)

def enter (c : Construction) (merges n : Nat) : Except Fault (Collection × Construction) := do
  match c.nodes.tag n, c.nodes.content n with
  | .seq, .sequence items =>
    let (ps, c) ← meetAll items c
    return (.list ps, c)
  | .omap, .sequence items | .pairs, .sequence items =>
    let (ps, c) ← meetPairs items c
    return (.list ps, c)
  | .map, .mapping _ =>
    let (es, c) ← c.enterMapping merges n
    return (.mapping es, c)
  | .set, .mapping _ =>
    let (es, c) ← c.enterMapping merges n
    return (.set (Document.bySlot (es.map (·.1))), c)
  | _, _ => c.nodes.fail n

/-- Enters the collections that wait, and those met on the way; each is met for the first time only
once, so there are at most as many steps as nodes. -/
def enterAll (merges : Nat) : (steps : Nat) → Construction → Except Fault Construction
  | 0, c => .ok c
  | steps + 1, c =>
    match c.waiting with
    | [] => .ok c
    | n :: ns => do
      let (made, c) ← { c with waiting := ns }.enter merges n
      enterAll merges steps { c with collections := c.collections.modify n (fun _ => some made) }

end Construction

/-- The document of a source; a source without a document has nothing. -/
def read (s : Source) : Except Fault Graph := do
  match ← Layout.ofSource? s with
  | none => return .ofValue .null
  | some layout =>
    let ns := layout.nodes
    let (root, c) ← (Construction.start ns).meet layout.root
    let c ← c.enterAll (ns.entryCount + 1) (ns.size + 1)
    return ⟨c.collections, root⟩

end LayeredConfig.Yaml
