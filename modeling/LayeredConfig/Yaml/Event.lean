import LayeredConfig.Yaml.Token.Stream

/-!
# YAML events

`Event.stream` turns tokens into the events of a document: where it, its sequences and its
mappings start and end, and the scalars and aliases between them. Tags are given in full here. A
fault ends the stream behind the events that were complete before it.
-/

namespace LayeredConfig.Yaml

/-- What may stand in front of a node, and the line on which the node starts. -/
structure Properties where
  anchor : Option String := none
  tag : Option String := none
  line : Nat

inductive Event where
  | documentStart (line : Nat)
  | documentEnd
  | alias (name : String) (line : Nat)
  /-- `implicit` says that the text alone decides what the scalar is. -/
  | scalar (props : Properties) (text : String) (implicit : Bool)
  | sequenceStart (props : Properties)
  | mappingStart (props : Properties)
  | collectionEnd

inductive Expect where
  | document (first : Bool)
  | documentContent
  | documentEnd
  | blockNode
  | blockEntry
  | indentlessEntry
  | blockKey
  | blockValue
  | flowEntry (first : Bool)
  | flowPairKey
  | flowPairValue
  | flowPairEnd
  | flowKey (first : Bool)
  | flowValue
  | flowEmptyValue
  deriving DecidableEq, Repr

/-- The tokens left and what they are to be looked at as, now and after what is open. -/
structure Outline where
  tokens : List Token
  fault : Option Fault
  handles : List (String × String)
  expect : Expect
  outer : List Expect

namespace Outline

abbrev Step := Except Fault (Event × Outline)

/-- The next token; a stream without one ends in its fault. -/
def peek (o : Outline) : Except Fault Token :=
  match o.tokens, o.fault with
  | t :: _, _ => .ok t
  | [], some e => .error e
  | [], none => .ok ⟨.streamEnd, 0⟩

def drop (o : Outline) : Outline := { o with tokens := o.tokens.tail }

def leave (o : Outline) : Outline :=
  { o with expect := o.outer.headD (.document false), outer := o.outer.tail }

def later (o : Outline) (e : Expect) : Outline := { o with outer := e :: o.outer }

def goTo (o : Outline) (e : Expect) : Outline := { o with expect := e }

def emptyScalar (line : Nat) : Event := .scalar ⟨none, none, line⟩ "" true

/-! ## Nodes -/

/-- Reads an anchor and a tag, in either order. -/
def readProperties (o : Outline) :
    Except Fault (Option String × Option (TagName × Nat) × Option Nat × Outline) := do
  let t ← o.peek
  match t.mark with
  | .anchor name =>
    let o := o.drop
    let u ← o.peek
    match u.mark with
    | .tag tag => return (some name, some (tag, u.line), some t.line, o.drop)
    | _ => return (some name, none, some t.line, o)
  | .tag tag =>
    let o := o.drop
    let u ← o.peek
    match u.mark with
    | .anchor name => return (some name, some (tag, t.line), some t.line, o.drop)
    | _ => return (none, some (tag, t.line), some t.line, o)
  | _ => return (none, none, none, o)

/-- A tag in full: its handle stands for what the document gave it. -/
def fullTag (o : Outline) : Option (TagName × Nat) → Except Fault (Option String)
  | none => .ok none
  | some (tag, line) =>
    match tag.handle with
    | none => .ok (some tag.suffix)
    | some handle =>
      match o.handles.lookup handle with
      | none => .error (.atLine line)
      | some meaning => .ok (some (meaning ++ tag.suffix))

/-- Without content, an anchor or a tag stands for an empty scalar. -/
def withoutContent (o : Outline) (props : Properties) (t : Token) : Step :=
  if props.anchor.isSome || props.tag.isSome then
    .ok (.scalar props "" (props.tag.all (· == "!")), o.leave)
  else .error (.atLine t.line)

/-- Reads a node; in a block it may be a block collection, and where it hangs on a key, a sequence
that is no further right than the key. -/
def node (block indentless : Bool) (o : Outline) : Step := do
  let t ← o.peek
  match t.mark with
  | .alias name => return (.alias name t.line, o.drop.leave)
  | _ =>
    let (anchor, tagName, start, o) ← o.readProperties
    let tag ← o.fullTag tagName
    let t ← o.peek
    let props : Properties := ⟨anchor, tag, start.getD t.line⟩
    match t.mark with
    | .blockEntry =>
      if indentless then return (.sequenceStart props, o.goTo .indentlessEntry)
      else o.withoutContent props t
    | .scalar text plain =>
      let implicit := (plain && tag.isNone) || tag == some "!"
      return (.scalar props text implicit, o.drop.leave)
    | .flowSequenceStart => return (.sequenceStart props, o.drop.goTo (.flowEntry true))
    | .flowMappingStart => return (.mappingStart props, o.drop.goTo (.flowKey true))
    | .blockSequenceStart =>
      if block then return (.sequenceStart props, o.drop.goTo .blockEntry)
      else o.withoutContent props t
    | .blockMappingStart =>
      if block then return (.mappingStart props, o.drop.goTo .blockKey)
      else o.withoutContent props t
    | _ => o.withoutContent props t

/-- Reads a node, or takes an empty scalar if one of the marks in `ends` comes first. -/
def nodeOrEmpty (o : Outline) (ends : List Mark) (line : Nat) (next : Expect)
    (block indentless : Bool) : Step := do
  let t ← o.peek
  if ends.contains t.mark then return (emptyScalar line, o.goTo next)
  else (o.later next).node block indentless

/-! ## Documents -/

def standardHandles : List (String × String) := [("!", "!"), ("!!", "tag:yaml.org,2002:")]

/-- Reads directives; there may be one version, of the first major number, and one meaning for
each handle. -/
def readDirectives (version : Bool) (handles : List (String × String)) :
    List Token → Option Fault → Except Fault (List (String × String) × List Token)
  | [], some e => .error e
  | [], none => .ok (handles, [])
  | t :: ts, fault =>
    match t.mark with
    | .versionDirective major =>
      if version || major != 1 then .error (.atLine t.line)
      else readDirectives true handles ts fault
    | .tagDirective handle meaning =>
      if (handles.lookup handle).isSome then .error (.atLine t.line)
      else readDirectives version ((handle, meaning) :: handles) ts fault
    | .otherDirective => readDirectives version handles ts fault
    | _ => .ok (handles, t :: ts)

def isDirective : Mark → Bool
  | .versionDirective _ | .tagDirective .. | .otherDirective => true
  | _ => false

/-- Starts a document that has its mark, after any end marks and directives; nothing at the end of
the stream. -/
def markedDocument (o : Outline) : Except Fault (Option (Event × Outline)) := do
  let o := { o with tokens := o.tokens.dropWhile (·.mark == Mark.documentEnd) }
  let start ← o.peek
  if start.mark == .streamEnd then return none
  else
    let (handles, tokens) ← readDirectives false [] o.tokens o.fault
    let o := { o with tokens := tokens, handles := handles ++ standardHandles }
    let t ← o.peek
    if t.mark != .documentStart then .error (.atLine t.line)
    else
      let o := (o.drop.later .documentEnd).goTo .documentContent
      return some (.documentStart start.line, o)

def document (first : Bool) (o : Outline) : Except Fault (Option (Event × Outline)) := do
  let t ← o.peek
  if first && !(isDirective t.mark || t.mark == .documentStart || t.mark == .streamEnd) then
    let o := { o with handles := standardHandles }
    return some (.documentStart t.line, (o.later .documentEnd).goTo .blockNode)
  else o.markedDocument

/-! ## Events -/

def blockItem (o : Outline) (ends : List Mark) (line : Nat) (next : Expect)
    (indentless : Bool) : Step :=
  o.nodeOrEmpty ends line next true indentless

def flowItem (o : Outline) (ends : List Mark) (line : Nat) (next : Expect) : Step :=
  o.nodeOrEmpty ends line next false false

def endCollection (o : Outline) : Step := .ok (.collectionEnd, o.drop.leave)

/-- Passes the comma between two items; the first one has none in front. -/
def passComma (o : Outline) (first : Bool) : Except Fault Outline := do
  if first then return o
  else
    let t ← o.peek
    if t.mark == .flowEntry then return o.drop else .error (.atLine t.line)

def next (o : Outline) : Except Fault (Option (Event × Outline)) := do
  match o.expect with
  | .document first => o.document first
  | .documentContent =>
    let t ← o.peek
    if isDirective t.mark || [.documentStart, .documentEnd, .streamEnd].contains t.mark then
      return some (emptyScalar t.line, o.leave)
    else return some (← o.node true false)
  | .documentEnd =>
    let t ← o.peek
    let o := if t.mark == .documentEnd then o.drop else o
    return some (.documentEnd, o.goTo (.document false))
  | .blockNode => return some (← o.node true false)
  | .blockEntry =>
    let t ← o.peek
    if t.mark == .blockEntry then
      return some (← o.drop.blockItem [.blockEntry, .blockEnd] t.line .blockEntry false)
    else if t.mark == .blockEnd then return some (← o.endCollection)
    else .error (.atLine t.line)
  | .indentlessEntry =>
    let t ← o.peek
    if t.mark == .blockEntry then
      return some (← o.drop.blockItem [.blockEntry, .key, .value, .blockEnd] t.line
        .indentlessEntry false)
    else return some (.collectionEnd, o.leave)
  | .blockKey =>
    let t ← o.peek
    if t.mark == .key then
      return some (← o.drop.blockItem [.key, .value, .blockEnd] t.line .blockValue true)
    else if t.mark == .blockEnd then return some (← o.endCollection)
    else .error (.atLine t.line)
  | .blockValue =>
    let t ← o.peek
    if t.mark == .value then
      return some (← o.drop.blockItem [.key, .value, .blockEnd] t.line .blockKey true)
    else return some (emptyScalar t.line, o.goTo .blockKey)
  | .flowEntry first =>
    let t ← o.peek
    if t.mark == .flowSequenceEnd then return some (← o.endCollection)
    else
      let o ← o.passComma first
      let t ← o.peek
      if t.mark == .key then return some (.mappingStart ⟨none, none, t.line⟩, o.goTo .flowPairKey)
      else if t.mark == .flowSequenceEnd then return some (← o.endCollection)
      else return some (← (o.later (.flowEntry false)).node false false)
  | .flowPairKey =>
    let t ← o.peek
    return some (← o.drop.flowItem [.value, .flowEntry, .flowSequenceEnd] t.line .flowPairValue)
  | .flowPairValue =>
    let t ← o.peek
    if t.mark == .value then
      return some (← o.drop.flowItem [.flowEntry, .flowSequenceEnd] t.line .flowPairEnd)
    else return some (emptyScalar t.line, o.goTo .flowPairEnd)
  | .flowPairEnd => do
    let _ ← o.peek
    return some (.collectionEnd, o.goTo (.flowEntry false))
  | .flowKey first =>
    let t ← o.peek
    if t.mark == .flowMappingEnd then return some (← o.endCollection)
    else
      let o ← o.passComma first
      let t ← o.peek
      if t.mark == .key then
        return some (← o.drop.flowItem [.value, .flowEntry, .flowMappingEnd] t.line .flowValue)
      else if t.mark == .flowMappingEnd then return some (← o.endCollection)
      else return some (← (o.later .flowEmptyValue).node false false)
  | .flowValue =>
    let t ← o.peek
    if t.mark == .value then
      return some (← o.drop.flowItem [.flowEntry, .flowMappingEnd] t.line (.flowKey false))
    else return some (emptyScalar t.line, o.goTo (.flowKey false))
  | .flowEmptyValue =>
    let t ← o.peek
    return some (emptyScalar t.line, o.goTo (.flowKey false))

def events : (fuel : Nat) → Outline → List Event × Option Fault
  | 0, _ => ([], none)
  | n + 1, o =>
    match o.next with
    | .error e => ([], some e)
    | .ok none => ([], none)
    | .ok (some (e, o)) =>
      let (more, fault) := events n o
      (e :: more, fault)

end Outline

/-- The events of a source. Every token gives rise to at most four of them. -/
def Event.stream (s : Source) : List Event × Option Fault :=
  let (tokens, fault) := Token.stream s
  Outline.events (4 * tokens.length + 16) ⟨tokens, fault, [], .document true, []⟩

end LayeredConfig.Yaml
