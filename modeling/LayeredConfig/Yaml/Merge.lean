import LayeredConfig.Yaml.Node

/-!
# Merged mappings

A mapping may have entries with the merge key, whose values are mappings or sequences of mappings.
Spreading a mapping takes these entries out one after the other and puts the entries of their values
in front of its own; of a sequence of mappings the last one comes first. A value is spread before
its entries are taken, as far as that has not begun: where it lies around the mapping, it has the
entries it has come to so far.
-/

namespace LayeredConfig.Yaml.Nodes

def takeMerge? (ns : Nodes) (n : Nat) : Option (Nat × Nodes) :=
  let es := ns.entries n
  let front := es.takeWhile (fun e => ns.tag e.1 != .merge)
  match es.drop front.length with
  | [] => none
  | (_, v) :: rest => some (v, ns.setContent n (.mapping (front ++ rest)))

/-- Keys of a mapping that are the mark of a default value become ordinary texts. -/
def plainKeys (ns : Nodes) (n : Nat) : Nodes :=
  (ns.entries n).foldl (fun ns e => if ns.tag e.1 = .value then ns.setTag e.1 .str else ns) ns

def mergedFrom (spread : Nat → Nodes → Except Fault Nodes) (v : Nat) (ns : Nodes) :
    Except Fault (List (Nat × Nat) × Nodes) :=
  match ns.content v with
  | .scalar _ => ns.fail v
  | .mapping _ => do
    let ns ← spread v ns
    return (ns.entries v, ns)
  | .sequence items =>
    items.foldlM (fun (merged, ns) item =>
      match ns.content item with
      | .mapping _ => do
        let ns ← spread item ns
        return (ns.entries item ++ merged, ns)
      | _ => ns.fail item) ([], ns)

/-- Spreads a mapping. Every step takes out an entry, so no more than `merges` steps follow upon one
another if there are that many entries in all. -/
def spread : (merges : Nat) → Nat → Nodes → Except Fault Nodes
  | 0, _, ns => .ok ns
  | m + 1, n, ns =>
    match ns.takeMerge? n with
    | none => .ok (ns.plainKeys n)
    | some (v, ns) => do
      let (merged, ns) ← mergedFrom (spread m) v ns
      let ns ← spread m n ns
      return ns.setContent n (.mapping (merged ++ ns.entries n))

def entryCount (ns : Nodes) : Nat :=
  ns.foldl (fun count node => match node.content with
    | .mapping es => count + es.length
    | _ => count) 0

end LayeredConfig.Yaml.Nodes
