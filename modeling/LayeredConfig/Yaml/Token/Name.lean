import LayeredConfig.Text.Integer
import LayeredConfig.Text.Utf8
import LayeredConfig.Yaml.Cursor
import LayeredConfig.Yaml.Token

/-!
# Names in YAML text

Anchors and aliases, tags with their handles, and the directives in front of a document.
-/

namespace LayeredConfig.Yaml

def isWordChar (c : Char) : Bool := c.isAlphanum || c == '-' || c == '_'

/-- The characters of a tag's suffix; a percent sign starts a byte by its number. -/
def isUriChar (c : Char) : Bool :=
  c.isAlphanum || "-;/?:@&=+$,_.!~*'()[]%".toList.contains c

def readName (c : Cursor) : Except Fault (List Char × Cursor) :=
  let (name, end_) := c.span isWordChar
  if name.isEmpty then c.fail else .ok (name, end_)

def readAnchor (c : Cursor) : Except Fault (List Char × Cursor) := do
  let (name, c) ← readName c
  if endsWord c.peek || c.peek.any ("?:,]\x7d%@`".toList.contains ·) then return (name, c)
  else c.fail

/-! ## Tags -/

def readUriBytes : (fuel : Nat) → Cursor → Except Fault (List UInt8 × Cursor)
  | 0, c => .ok ([], c)
  | n + 1, c =>
    if c.peek != some '%' then .ok ([], c)
    else
      match (c.next.rest.take 2).mapM Text.hexValue? with
      | some [a, b] => do
        let (bs, c) ← readUriBytes n (c.advance 3)
        return (UInt8.ofNat (16 * a + b) :: bs, c)
      | _ => c.next.fail

def readUriChars : (fuel : Nat) → Cursor → Except Fault (List Char × Cursor)
  | 0, c => .ok ([], c)
  | n + 1, c =>
    match c.peek with
    | none => .ok ([], c)
    | some d =>
      if d == '%' then do
        let (bs, end_) ← readUriBytes n c
        match Text.decodeUtf8 bs with
        | .error _ => c.fail
        | .ok cs =>
          let (more, end_) ← readUriChars n end_
          return (cs ++ more, end_)
      else if isUriChar d then do
        let (more, c) ← readUriChars n c.next
        return (d :: more, c)
      else .ok ([], c)

def readUri (c : Cursor) : Except Fault (List Char × Cursor) := do
  let (cs, end_) ← readUriChars (c.rest.length + 1) c
  if end_.index == c.index then end_.fail else return (cs, end_)

/-- Reads a handle: an exclamation mark, or a name between two. -/
def readHandle (c : Cursor) : Except Fault (List Char × Cursor) :=
  if c.peek != some '!' then c.fail
  else if c.peekAt 1 == some ' ' then .ok (['!'], c.next)
  else
    let (name, end_) := c.next.span isWordChar
    if end_.peek == some '!' then .ok ('!' :: name ++ ['!'], end_.next)
    else end_.fail

/-- Reads a tag: in full between angle brackets, the mark alone, or a handle and a suffix. -/
def readTag (c : Cursor) : Except Fault (TagName × Cursor) := do
  let (tag, c) ←
    if c.peekAt 1 == some '<' then do
      let (uri, c) ← readUri (c.advance 2)
      if c.peek != some '>' then c.fail
      else pure (⟨none, String.ofList uri⟩, c.next)
    else if endsWord (c.peekAt 1) then pure (⟨none, "!"⟩, c.next)
    else do
      let word := (c.rest.drop 1).takeWhile (fun d => !endsItem (some d))
      let (handle, c) ← if word.contains '!' then readHandle c else pure (['!'], c.next)
      let (uri, c) ← readUri c
      pure (⟨some (String.ofList handle), String.ofList uri⟩, c)
  if endsItem c.peek then return (tag, c) else c.fail

/-! ## Directives -/

def readNumber (c : Cursor) : Except Fault (Nat × Cursor) :=
  let (ds, end_) := c.span Text.isAsciiDigit
  if ds.isEmpty then c.fail
  else match Text.ofNumeral (ds.map (fun d => d.toNat - 48)) with
    | .error .tooLong => .error (.unfit .numeralTooLong)
    | .ok n => .ok (n, end_)

/-- Reads a version of two numbers; only the first one matters. -/
def readVersion (c : Cursor) : Except Fault (Nat × Cursor) := do
  let (major, c) ← readNumber (c.skip (· == ' '))
  if c.peek != some '.' then c.fail
  else
    let (_, c) ← readNumber c.next
    if endsItem c.peek then return (major, c) else c.fail

def readTagMeaning (c : Cursor) : Except Fault (Mark × Cursor) := do
  let (handle, c) ← readHandle (c.skip (· == ' '))
  if c.peek != some ' ' then c.fail
  else
    let (uri, c) ← readUri (c.skip (· == ' '))
    if endsItem c.peek then
      return (.tagDirective (String.ofList handle) (String.ofList uri), c)
    else c.fail

def readDirective (c : Cursor) : Except Fault (Mark × Cursor) := do
  let (name, c) ← readName c
  if !endsItem c.peek then c.fail
  else
    let (mark, c) ←
      if name = "YAML".toList then do
        let (major, c) ← readVersion c
        pure (.versionDirective major, c)
      else if name = "TAG".toList then readTagMeaning c
      else pure (.otherDirective, c.skip (!isBreak ·))
    let c ← c.readLineEnd
    return (mark, c)

end LayeredConfig.Yaml
