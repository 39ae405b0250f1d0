import LayeredConfig.Text.Digit
import LayeredConfig.Yaml.Cursor

/-!
# Scalars in YAML text

How the three kinds of scalars are read: plain words that may run over several lines, quoted texts
with folded line breaks and escapes, and indented blocks that keep or fold their lines.
-/

namespace LayeredConfig.Yaml

/-! ## Line breaks inside scalars -/

/-- A folded line break: a single line feed becomes a space, of several the first is dropped. -/
def foldBreaks (first : Char) (more : List Char) : List Char :=
  if first != '\n' then first :: more
  else if more.isEmpty then [' ']
  else more

/-! ## Plain scalars -/

/-- The word at the front of a text; inside brackets more characters end it. -/
def plainWord (inFlow : Bool) : List Char → List Char
  | [] => []
  | c :: cs =>
    let next := cs.head?
    let endsAtColon := c == ':' &&
      (endsWord next || (inFlow && next.any (",[]\x7b\x7d".toList.contains ·)))
    if endsWord (some c) || endsAtColon || (inFlow && ",?[]\x7b\x7d".toList.contains c) then []
    else c :: plainWord inFlow cs

/-- What stands between two words of a plain scalar: the text it counts as, and whether a line
ended. Without a text the scalar is over. -/
structure Gap where
  text : Option (List Char)
  newLine : Bool
  cursor : Cursor

/-- Line breaks and the spaces around them, up to a document marker or another character. -/
def gapBreaks : (fuel : Nat) → Cursor → Option (List Char) × Cursor
  | 0, c => (some [], c)
  | n + 1, c =>
    if c.peek == some ' ' then gapBreaks n c.next
    else match c.readBreak with
      | none => (some [], c)
      | some (b, c) =>
        if c.isSeparator then (none, c)
        else
          let (bs, c) := gapBreaks n c
          (bs.map (b :: ·), c)

def readGap (c : Cursor) : Gap :=
  let (blanks, c) := c.span (· == ' ')
  match c.readBreak with
  | none => ⟨some blanks, false, c⟩
  | some (b, c) =>
    if c.isSeparator then ⟨none, true, c⟩
    else
      let (bs, c) := gapBreaks (c.rest.length + 1) c
      ⟨bs.map (foldBreaks b), true, c⟩

/-- A plain scalar's text, whether a line ended behind its last word, and where it ends. -/
structure Plain where
  text : List Char
  newLine : Bool
  cursor : Cursor

/-- Reads words and the gaps between them; `gap` is the one in front of the next word. -/
def readWords (inFlow : Bool) (indent : Int) :
    (fuel : Nat) → (gap : List Char) → (newLine : Bool) → Cursor → Plain
  | 0, _, newLine, c => ⟨[], newLine, c⟩
  | n + 1, gap, newLine, c =>
    let word := if c.peek == some '#' then [] else plainWord inFlow c.rest
    if word.isEmpty then ⟨[], newLine, c⟩
    else
      let g := readGap (c.advance word.length)
      let more := match g.text with
        | none => none
        | some t =>
          if t.isEmpty || g.cursor.peek == some '#' || (!inFlow && g.cursor.column < indent) then
            none
          else some t
      match more with
      | none => ⟨gap ++ word, g.newLine, g.cursor⟩
      | some t =>
        let p := readWords inFlow indent n t g.newLine g.cursor
        ⟨gap ++ word ++ p.text, p.newLine, p.cursor⟩

def readPlain (inFlow : Bool) (indent : Int) (c : Cursor) : Plain :=
  readWords inFlow indent (c.rest.length + 1) [] false c

/-! ## Quoted scalars -/

def escapeLetters : List (Char × Char) := [
  ('0', '\x00'), ('a', '\x07'), ('b', '\x08'), ('t', '\t'), ('\t', '\t'), ('n', '\n'),
  ('v', '\x0b'), ('f', '\x0c'), ('r', '\r'), ('e', '\x1b'), (' ', ' '), ('"', '"'),
  ('\\', '\\'), ('/', '/'), ('N', '\u0085'), ('_', '\u00a0'), ('L', '\u2028'), ('P', '\u2029')]

/-- How many hexadecimal digits follow the letter of a numbered escape. -/
def escapeWidth? : Char → Option Nat
  | 'x' => some 2
  | 'u' => some 4
  | 'U' => some 8
  | _ => none

/-- The character with a given number; surrogates stand for no character. -/
def characterOf (code : Nat) : Except Fault Char :=
  if code < 0x110000 then
    .ok (if 0xd800 ≤ code && code < 0xe000 then Char.ofNat 0xfffd else Char.ofNat code)
  else .error (.unfit (.noCharacter code))

/-- Empty lines inside a quoted scalar; a document marker may not stand there. -/
def quotedBreaks : (fuel : Nat) → Cursor → Except Fault (List Char × Cursor)
  | 0, c => .ok ([], c)
  | n + 1, c =>
    if c.isSeparator then c.fail
    else
      let c := c.skip (fun d => d == ' ' || d == '\t')
      match c.readBreak with
      | none => .ok ([], c)
      | some (b, c) => do
        let (bs, c) ← quotedBreaks n c
        return (b :: bs, c)

def readEscape (c : Cursor) : Except Fault (List Char × Cursor) :=
  match c.peek with
  | none => c.fail
  | some d =>
    match escapeLetters.lookup d, escapeWidth? d with
    | some e, _ => .ok ([e], c.next)
    | none, some width =>
      match ((c.next.rest.take width).mapM Text.hexValue?) with
      | none => c.next.fail
      | some ds =>
        if ds.length < width then c.next.fail
        else (characterOf (Text.ofDigits 16 ds)).map (fun e => ([e], c.next.advance width))
    | none, none =>
      match c.readBreak with
      | none => c.fail
      | some (_, c) => quotedBreaks (c.rest.length + 1) c

def readQuotedGap (c : Cursor) : Except Fault (List Char × Cursor) :=
  let (blanks, c) := c.span (fun d => d == ' ' || d == '\t')
  if c.rest.isEmpty then c.fail
  else match c.readBreak with
    | none => .ok (blanks, c)
    | some (b, c) => do
      let (bs, c) ← quotedBreaks (c.rest.length + 1) c
      return (foldBreaks b bs, c)

/-- Reads a quoted scalar behind its opening quote `q`; `double` says that escapes are read. -/
def readQuoted (q : Char) (double : Bool) :
    (fuel : Nat) → Cursor → Except Fault (List Char × Cursor)
  | 0, c => c.fail
  | n + 1, c =>
    match c.peek with
    | none => c.fail
    | some d => do
      if d == q && !(!double && c.peekAt 1 == some q) then return ([], c.next)
      let (cs, c) ←
        if d == q then pure ([q], c.advance 2)
        else if double && d == '\\' then readEscape c.next
        else if endsWord (some d) then readQuotedGap c
        else pure ([d], c.next)
      let (more, c) ← readQuoted q double n c
      return (cs ++ more, c)

/-! ## Block scalars -/

inductive Chomping where
  | strip
  | clip
  | keep
  deriving DecidableEq, Repr

def readChomping (c : Cursor) : Option Chomping × Cursor :=
  match c.peek with
  | some '+' => (some .keep, c.next)
  | some '-' => (some .strip, c.next)
  | _ => (none, c)

/-- The indentation that a block asks for; zero is none. -/
def readIncrement (c : Cursor) : Except Fault (Option Nat × Cursor) :=
  match c.peek with
  | some d =>
    if d == '0' then c.fail
    else if Text.isAsciiDigit d then .ok (some (d.toNat - 48), c.next)
    else .ok (none, c)
  | none => .ok (none, c)

def readBlockHeader (c : Cursor) : Except Fault (Chomping × Option Nat × Cursor) := do
  let (before, c) := readChomping c
  let (increment, c) ← readIncrement c
  let (after, c) := if before.isNone && increment.isSome then readChomping c else (none, c)
  if !endsItem c.peek then c.fail
  else return ((before.or after).getD .clip, increment, c)

/-- The empty lines in front of a block whose indentation is to be found: their breaks and the
widest indentation among them and the first line. -/
def blockIndentation : (fuel : Nat) → (widest : Nat) → Cursor → List Char × Nat × Cursor
  | 0, widest, c => ([], widest, c)
  | n + 1, widest, c =>
    if c.peek == some ' ' then blockIndentation n (max widest c.next.column) c.next
    else match c.readBreak with
      | none => ([], widest, c)
      | some (b, c) =>
        let (bs, widest, c) := blockIndentation n widest c
        (b :: bs, widest, c)

def skipIndent (indent : Int) (c : Cursor) : Cursor :=
  let room := (indent - c.column).toNat
  c.advance ((c.rest.take room).takeWhile (· == ' ')).length

def blockBreaks (indent : Int) : (fuel : Nat) → Cursor → List Char × Cursor
  | 0, c => ([], c)
  | n + 1, c =>
    let c := skipIndent indent c
    match c.readBreak with
    | none => ([], c)
    | some (b, c) =>
      let (bs, c) := blockBreaks indent n c
      (b :: bs, c)

structure Block where
  text : List Char
  lastBreak : List Char
  breaks : List Char
  cursor : Cursor

/-- Reads the lines of a block; `breaks` are the empty lines in front of the next one. -/
def readBlockLines (folded : Bool) (indent : Int) :
    (fuel : Nat) → (lastBreak breaks : List Char) → Cursor → Block
  | 0, last, breaks, c => ⟨[], last, breaks, c⟩
  | n + 1, last, breaks, c =>
    if (c.column : Int) = indent ∧ c.peek.isSome then
      let indented := c.peek.any (fun d => d == ' ' || d == '\t')
      let (line, c) := c.span (!isBreak ·)
      let (last, c) := match c.readBreak with
        | none => ([], c)
        | some (b, c) => ([b], c)
      let (more, c) := blockBreaks indent (c.rest.length + 1) c
      let goesOn := (c.column : Int) = indent ∧ c.peek.isSome
      let between :=
        if goesOn then
          if folded && last == ['\n'] && !indented &&
              !c.peek.any (fun d => d == ' ' || d == '\t') then
            if more.isEmpty then [' '] else []
          else last
        else []
      let b := readBlockLines folded indent n last more c
      { b with text := breaks ++ line ++ between ++ b.text }
    else ⟨[], last, breaks, c⟩

/-- Reads a block scalar behind its sign; `indent` is the indentation of what holds it. -/
def readBlock (folded : Bool) (indent : Int) (c : Cursor) : Except Fault (List Char × Cursor) := do
  let (chomping, increment, c) ← readBlockHeader c
  let c ← c.readLineEnd
  let least : Int := max 1 (indent + 1)
  let (breaks, column, c) := match increment with
    | none =>
      let (bs, widest, c) := blockIndentation (c.rest.length + 1) 0 c
      (bs, max least widest, c)
    | some k =>
      let column := least + k - 1
      let (bs, c) := blockBreaks column (c.rest.length + 1) c
      (bs, column, c)
  let b := readBlockLines folded column (c.rest.length + 1) [] breaks c
  let tail := match chomping with
    | .strip => []
    | .clip => b.lastBreak
    | .keep => b.lastBreak ++ b.breaks
  return (b.text ++ tail, b.cursor)

end LayeredConfig.Yaml
