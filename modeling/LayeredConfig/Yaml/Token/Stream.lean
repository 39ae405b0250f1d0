import LayeredConfig.Yaml.Source
import LayeredConfig.Yaml.Token.Name
import LayeredConfig.Yaml.Token.Scalar

/-!
# The tokens of YAML text

`Token.stream` turns text into tokens. Block structure is found from columns; a word is known to
be a key only once the colon behind it has been met, so the tokens of a possible key are held
back until that is decided. A fault ends the stream behind the tokens that could be handed out
before it showed.
-/

namespace LayeredConfig.Yaml

/-- A place where a key may have started: the number of its first token, whether only a key can
stand there, and its position. -/
structure PossibleKey where
  number : Nat
  required : Bool
  index : Nat
  line : Nat
  column : Nat

structure Scanner where
  cursor : Cursor
  /-- The column of the current block, and of those around it. -/
  indent : Int := -1
  indents : List Int := []
  /-- How many brackets are open. -/
  flow : Int := 0
  keyAllowed : Bool := true
  /-- The possible keys, by the number of open brackets. -/
  keys : List (Int × PossibleKey) := []
  /-- How many tokens have been handed out. -/
  taken : Nat := 1
  queue : List Token := []
  done : Bool := false

namespace Scanner

def inFlow (s : Scanner) : Bool := s.flow != 0

def push (s : Scanner) (m : Mark) (line : Nat) : Scanner :=
  { s with queue := s.queue ++ [⟨m, line⟩] }

def pushHere (s : Scanner) (m : Mark) : Scanner := s.push m s.cursor.line

def pushMark (s : Scanner) (m : Mark) (width : Nat) : Scanner :=
  { s.pushHere m with cursor := s.cursor.advance width }

def insertAt (s : Scanner) (number : Nat) (t : Token) : Scanner :=
  let k := number - s.taken
  { s with queue := s.queue.take k ++ t :: s.queue.drop k }

/-! ## Possible keys -/

/-- A key ends on its line and within 1024 characters. -/
def isStale (s : Scanner) (k : PossibleKey) : Bool :=
  k.line != s.cursor.line || s.cursor.index - k.index > 1024

def dropStale (s : Scanner) : Except Fault Scanner :=
  if s.keys.any (fun k => s.isStale k.2 && k.2.required) then s.cursor.fail
  else .ok { s with keys := s.keys.filter (fun k => !s.isStale k.2) }

/-- Gives up the possible key between the current brackets. -/
def dropKey (s : Scanner) : Except Fault Scanner :=
  if s.keys.any (fun k => k.1 == s.flow && k.2.required) then s.cursor.fail
  else .ok { s with keys := s.keys.filter (fun k => k.1 != s.flow) }

def noteKey (s : Scanner) : Except Fault Scanner :=
  if s.keyAllowed then do
    let required := !s.inFlow && s.indent == s.cursor.column
    let key := ⟨s.taken + s.queue.length, required, s.cursor.index, s.cursor.line, s.cursor.column⟩
    let s ← s.dropKey
    return { s with keys := s.keys ++ [(s.flow, key)] }
  else .ok s

def firstKey? (s : Scanner) : Option Nat := (s.keys.map (·.2.number)).min?

/-! ## Blocks -/

/-- Leaves the blocks that a column ends, given the columns around the current one. -/
def leaveBlocks (column : Int) : List Int → Scanner → Scanner
  | [], s => s
  | i :: is, s =>
    if s.indent > column then
      leaveBlocks column is { s.pushHere .blockEnd with indent := i, indents := is }
    else s

def unwind (s : Scanner) (column : Int) : Scanner :=
  if s.inFlow then s else leaveBlocks column s.indents s

/-- Enters a block at a column, unless the current one is as far right. -/
def enterBlock (s : Scanner) (column : Int) : Option Scanner :=
  if s.indent < column then some { s with indents := s.indent :: s.indents, indent := column }
  else none

/-- Enters a block at the cursor, where one may start only if a key may. -/
def startBlock (s : Scanner) (m : Mark) : Except Fault Scanner :=
  if s.inFlow then .ok s
  else if !s.keyAllowed then s.cursor.fail
  else match s.enterBlock s.cursor.column with
    | some s => .ok (s.pushHere m)
    | none => .ok s

/-! ## One token -/

/-- Skips blanks, comments and line breaks; behind a line break a key may start. -/
def skipToToken : (fuel : Nat) → Scanner → Scanner
  | 0, s => s
  | n + 1, s =>
    let c := s.cursor.skip (· == ' ')
    let c := if c.peek == some '#' then c.skip (!isBreak ·) else c
    match c.readBreak with
    | none => { s with cursor := c }
    | some (_, c) => skipToToken n { s with cursor := c, keyAllowed := s.keyAllowed || !s.inFlow }

def skipByteOrderMark (s : Scanner) : Scanner :=
  if s.cursor.index == 0 && s.cursor.peek == some '\ufeff' then { s with cursor := s.cursor.next }
  else s

def fetchEnd (s : Scanner) : Except Fault Scanner := do
  let s ← (s.unwind (-1)).dropKey
  return { s.pushHere .streamEnd with keyAllowed := false, keys := [], done := true }

/-- What starts in the first column ends every block and is no key. -/
def atMargin (s : Scanner) : Except Fault Scanner := do
  let s ← (s.unwind (-1)).dropKey
  return { s with keyAllowed := false }

def fetchDirective (s : Scanner) : Except Fault Scanner := do
  let s ← s.atMargin
  let (mark, c) ← readDirective s.cursor.next
  return { s.pushHere mark with cursor := c }

def fetchOpening (s : Scanner) (m : Mark) : Except Fault Scanner := do
  let s ← s.noteKey
  return { s.pushMark m 1 with flow := s.flow + 1, keyAllowed := true }

def fetchClosing (s : Scanner) (m : Mark) : Except Fault Scanner := do
  let s ← s.dropKey
  return { s.pushMark m 1 with flow := s.flow - 1, keyAllowed := false }

def fetchComma (s : Scanner) : Except Fault Scanner := do
  let s ← { s with keyAllowed := true }.dropKey
  return s.pushMark .flowEntry 1

def fetchBlockEntry (s : Scanner) : Except Fault Scanner := do
  let s ← s.startBlock .blockSequenceStart
  let s ← { s with keyAllowed := true }.dropKey
  return s.pushMark .blockEntry 1

def fetchKey (s : Scanner) : Except Fault Scanner := do
  let s ← s.startBlock .blockMappingStart
  let s ← { s with keyAllowed := !s.inFlow }.dropKey
  return s.pushMark .key 1

/-- A colon makes the possible key in front of it a key, or stands for a value without a key. -/
def fetchValue (s : Scanner) : Except Fault Scanner :=
  match s.keys.find? (fun k => k.1 == s.flow) with
  | some (_, k) =>
    let s := { s with keys := s.keys.filter (fun j => j.1 != s.flow), keyAllowed := false }
    let s := s.insertAt k.number ⟨.key, k.line⟩
    let s :=
      if s.inFlow then s
      else match s.enterBlock k.column with
        | some s => s.insertAt k.number ⟨.blockMappingStart, k.line⟩
        | none => s
    .ok (s.pushMark .value 1)
  | none => do
    let s ← s.startBlock .blockMappingStart
    let s ← { s with keyAllowed := !s.inFlow }.dropKey
    return s.pushMark .value 1

def fetchWord (s : Scanner) (read : Cursor → Except Fault (Mark × Cursor)) :
    Except Fault Scanner := do
  let s ← s.noteKey
  let (mark, c) ← read s.cursor
  return { s.pushHere mark with cursor := c, keyAllowed := false }

def fetchPlain (s : Scanner) : Except Fault Scanner := do
  let s ← s.noteKey
  let p := readPlain s.inFlow (s.indent + 1) s.cursor
  return { s.pushHere (.scalar (String.ofList p.text) true) with
    cursor := p.cursor, keyAllowed := p.newLine }

def fetchBlock (s : Scanner) (folded : Bool) : Except Fault Scanner := do
  let s ← { s with keyAllowed := true }.dropKey
  let (text, c) ← readBlock folded s.indent s.cursor.next
  return { s.pushHere (.scalar (String.ofList text) false) with cursor := c }

def readQuotedMark (q : Char) (c : Cursor) : Except Fault (Mark × Cursor) := do
  let (text, c) ← readQuoted q (q == '"') (c.rest.length + 1) c.next
  return (.scalar (String.ofList text) false, c)

def startsPlain (inFlow : Bool) (d : Char) (next : Option Char) : Bool :=
  !("-?:,[]\x7b\x7d#&*!|>'\"%@`".toList.contains d) ||
    (!endsWord next && (d == '-' || (!inFlow && (d == '?' || d == ':'))))

def fetch (s : Scanner) : Except Fault Scanner := do
  let s ← (skipToToken (s.cursor.rest.length + 1) s.skipByteOrderMark).dropStale
  let s := s.unwind s.cursor.column
  let c := s.cursor
  let standsAlone := s.inFlow || endsWord (c.peekAt 1)
  match c.peek with
  | none => s.fetchEnd
  | some d =>
    if d == '%' && c.column == 0 then s.fetchDirective
    else if c.column == 0 && c.isMarker '-' then return (← s.atMargin).pushMark .documentStart 3
    else if c.column == 0 && c.isMarker '.' then return (← s.atMargin).pushMark .documentEnd 3
    else if d == '[' then s.fetchOpening .flowSequenceStart
    else if d == '{' then s.fetchOpening .flowMappingStart
    else if d == ']' then s.fetchClosing .flowSequenceEnd
    else if d == '}' then s.fetchClosing .flowMappingEnd
    else if d == ',' then s.fetchComma
    else if d == '-' && endsWord (c.peekAt 1) then s.fetchBlockEntry
    else if d == '?' && standsAlone then s.fetchKey
    else if d == ':' && standsAlone then s.fetchValue
    else if d == '*' then s.fetchWord (fun c =>
      (readAnchor c.next).map (fun r => (.alias (String.ofList r.1), r.2)))
    else if d == '&' then s.fetchWord (fun c =>
      (readAnchor c.next).map (fun r => (.anchor (String.ofList r.1), r.2)))
    else if d == '!' then s.fetchWord (fun c => (readTag c).map (fun r => (.tag r.1, r.2)))
    else if d == '|' && !s.inFlow then s.fetchBlock false
    else if d == '>' && !s.inFlow then s.fetchBlock true
    else if d == '\'' || d == '"' then s.fetchWord (readQuotedMark d)
    else if !endsWord (some d) && startsPlain s.inFlow d (c.peekAt 1) then s.fetchPlain
    else c.fail

def needsMore (s : Scanner) : Except Fault (Bool × Scanner) :=
  if s.done then .ok (false, s)
  else if s.queue.isEmpty then .ok (true, s)
  else do
    let s ← s.dropStale
    return (s.firstKey? == some s.taken, s)

def handOut : (fuel : Nat) → Scanner → List Token × Option Fault
  | 0, _ => ([], none)
  | n + 1, s =>
    match s.needsMore with
    | .error e => ([], some e)
    | .ok (true, s) =>
      match s.fetch with
      | .error e => ([], some e)
      | .ok s =>
        match s.cursor.ending? with
        | some e => ([], some e)
        | none => handOut n s
    | .ok (false, s) =>
      match s.queue with
      | [] => ([], none)
      | t :: ts =>
        let (more, fault) := handOut n { s with queue := ts, taken := s.taken + 1 }
        (t :: more, fault)

end Scanner

/-- The tokens of a source. Every character gives rise to at most four of them. -/
def Token.stream (s : Source) : List Token × Option Fault :=
  Scanner.handOut (6 * s.text.length + 16) { cursor := Cursor.ofText s.text s.ending }

end LayeredConfig.Yaml
