import LayeredConfig.Yaml.Event
import LayeredConfig.Yaml.Tag

/-!
# YAML nodes

`Layout.ofSource?` composes the one document of a source into nodes. Nodes are numbered in the order
in which they start, and a collection holds the numbers of its nodes; an alias is the number of the
node it names, which may be a collection around it.
-/

namespace LayeredConfig.Yaml

inductive Content where
  | scalar (text : String)
  | sequence (items : List Nat)
  | mapping (entries : List (Nat × Nat))

structure Node where
  tag : Tag
  content : Content
  /-- The line on which the node starts. -/
  line : Nat

abbrev Nodes := Array Node

namespace Nodes

def tag (ns : Nodes) (n : Nat) : Tag := (ns[n]?.map (·.tag)).getD .unknown

def line (ns : Nodes) (n : Nat) : Nat := (ns[n]?.map (·.line)).getD 0

def content (ns : Nodes) (n : Nat) : Content := (ns[n]?.map (·.content)).getD (.sequence [])

def entries (ns : Nodes) (n : Nat) : List (Nat × Nat) :=
  match ns.content n with
  | .mapping es => es
  | _ => []

def setContent (ns : Nodes) (n : Nat) (c : Content) : Nodes :=
  ns.modify n (fun node => { node with content := c })

def setTag (ns : Nodes) (n : Nat) (t : Tag) : Nodes :=
  ns.modify n (fun node => { node with tag := t })

def fail {α : Type} (ns : Nodes) (n : Nat) : Except Fault α := .error (.atLine (ns.line n))

end Nodes

structure Layout where
  nodes : Nodes
  root : Nat

/-- A collection whose end has not come: its number and its nodes so far, the last one first. -/
structure Opened where
  number : Nat
  isMapping : Bool
  nodes : List Nat := []

/-- What a document has come to: all nodes, the collections that are open, the innermost first, the
nodes by their anchors, and the root once it is complete. -/
structure Composition where
  nodes : Nodes := #[]
  opened : List Opened := []
  anchors : List (String × Nat) := []
  root : Option Nat := none

def pairUp : List Nat → List (Nat × Nat)
  | k :: v :: ns => (k, v) :: pairUp ns
  | _ => []

def Opened.content (o : Opened) : Content :=
  if o.isMapping then .mapping (pairUp o.nodes.reverse) else .sequence o.nodes.reverse

namespace Composition

def place (c : Composition) (n : Nat) : Composition :=
  match c.opened with
  | [] => { c with root := some n }
  | o :: os => { c with opened := { o with nodes := n :: o.nodes } :: os }

def checkAnchor (c : Composition) (p : Properties) : Except Fault Unit :=
  match p.anchor with
  | none => .ok ()
  | some a => if (c.anchors.lookup a).isSome then .error (.atLine p.line) else .ok ()

def add (c : Composition) (p : Properties) (tag : Tag) (content : Content) : Composition :=
  { c with
    nodes := c.nodes.push ⟨tag, content, p.line⟩
    anchors := match p.anchor with
      | none => c.anchors
      | some a => (a, c.nodes.size) :: c.anchors }

/-- The type of a collection: the one its tag gives, or the usual one. -/
def collectionTag (p : Properties) (usual : Tag) : Tag :=
  match p.tag with
  | none | some "!" => usual
  | some t => .ofName t

/-- The type of a scalar: the one its tag gives, or the one its text shows. -/
def scalarTag (p : Properties) (text : String) (implicit : Bool) : Tag :=
  match p.tag with
  | none | some "!" => if implicit then .ofText text else .str
  | some t => .ofName t

def openCollection (c : Composition) (isMapping : Bool) (p : Properties) :
    Except Fault Composition := do
  c.checkAnchor p
  let tag := collectionTag p (if isMapping then .map else .seq)
  let o : Opened := ⟨c.nodes.size, isMapping, []⟩
  return { c.add p tag o.content with opened := o :: c.opened }

def step (c : Composition) : Event → Except Fault Composition
  | .documentStart line => if c.root.isSome then .error (.atLine line) else .ok c
  | .documentEnd => .ok { c with anchors := [] }
  | .alias name line =>
    match c.anchors.lookup name with
    | none => .error (.atLine line)
    | some n => .ok (c.place n)
  | .scalar p text implicit => do
    c.checkAnchor p
    return (c.add p (scalarTag p text implicit) (.scalar text)).place c.nodes.size
  | .sequenceStart p => c.openCollection false p
  | .mappingStart p => c.openCollection true p
  | .collectionEnd =>
    match c.opened with
    | [] => .ok c
    | o :: os =>
      .ok ({ c with nodes := c.nodes.setContent o.number o.content, opened := os }.place o.number)

end Composition

/-- The nodes of the document of a source, if it has one. A second document is a fault. -/
def Layout.ofSource? (s : Source) : Except Fault (Option Layout) := do
  let (events, fault) := Event.stream s
  let c ← events.foldlM Composition.step {}
  match fault with
  | some e => .error e
  | none => return c.root.map (⟨c.nodes, ·⟩)

end LayeredConfig.Yaml
