import LayeredConfig.Text.Utf8

/-!
# A cursor over YAML text

The unread text with its position: the count of characters read, the line and the column. Lines
end at a line feed, a carriage return (one with a line feed behind it counts once), a next-line
character or a Unicode line or paragraph separator. Where a fault waits behind the text, reaching
the end of the text is that fault.
-/

namespace LayeredConfig.Yaml

/-- What goes wrong with a document as text: the line at which it shows, if it has one. -/
structure Malformed where
  line : Option Nat
  deriving DecidableEq, Repr

inductive Unfit where
  | numeralTooLong
  | noNumber
  | emptyNumber
  | noTruthValue
  | noTimestamp
  | noDate
  /-- The timestamp is the default value of a mapping. -/
  | noPlainTimestamp
  | tooLarge
  | noCharacter (code : Nat)
  deriving DecidableEq, Repr

inductive Fault where
  | malformed (m : Malformed)
  | unfit (u : Unfit)
  | notUtf8 (f : Text.Utf8Fault)
  deriving DecidableEq, Repr

def Fault.atLine (line : Nat) : Fault := .malformed ⟨some line⟩

structure Cursor where
  rest : List Char
  index : Nat
  line : Nat
  column : Nat
  /-- The fault that waits behind the text. -/
  ending : Option Fault := none

def isBreak (c : Char) : Bool :=
  c == '\n' || c == '\r' || c == '\u0085' || c == '\u2028' || c == '\u2029'

def endsLine (c : Option Char) : Bool := c.all isBreak

def endsItem (c : Option Char) : Bool := c.all (fun c => c == ' ' || isBreak c)

def endsWord (c : Option Char) : Bool := c.all (fun c => c == ' ' || c == '\t' || isBreak c)

namespace Cursor

def ofText (cs : List Char) (ending : Option Fault) : Cursor := ⟨cs, 0, 1, 0, ending⟩

def peek (c : Cursor) : Option Char := c.rest.head?

def peekAt (c : Cursor) (n : Nat) : Option Char := c.rest[n]?

/-- A carriage return counts as part of the line feed behind it. -/
def endsHere (d : Char) (cs : List Char) : Bool :=
  isBreak d && !(d == '\r' && cs.head? == some '\n')

/-- The cursor behind the next character. A byte order mark takes no column. -/
def next (c : Cursor) : Cursor :=
  match c.rest with
  | [] => c
  | d :: cs =>
    if endsHere d cs then ⟨cs, c.index + 1, c.line + 1, 0, c.ending⟩
    else ⟨cs, c.index + 1, c.line, if d == '\ufeff' then c.column else c.column + 1, c.ending⟩

def advance (c : Cursor) : Nat → Cursor
  | 0 => c
  | n + 1 => c.next.advance n

def span (c : Cursor) (p : Char → Bool) : List Char × Cursor :=
  let cs := c.rest.takeWhile p
  (cs, c.advance cs.length)

def skip (c : Cursor) (p : Char → Bool) : Cursor := (c.span p).2

/-- Reads a line break; all but the separators count as a line feed. -/
def readBreak (c : Cursor) : Option (Char × Cursor) :=
  match c.rest with
  | '\r' :: '\n' :: _ => some ('\n', c.advance 2)
  | d :: _ =>
    if d == '\u2028' || d == '\u2029' then some (d, c.next)
    else if isBreak d then some ('\n', c.next)
    else none
  | [] => none

def isMarker (c : Cursor) (d : Char) : Bool :=
  [d, d, d].isPrefixOf c.rest && endsWord (c.peekAt 3)

def isSeparator (c : Cursor) : Bool := c.isMarker '-' || c.isMarker '.'

def ending? (c : Cursor) : Option Fault := if c.rest.isEmpty then c.ending else none

def fail {α : Type} (c : Cursor) : Except Fault α := .error (c.ending?.getD (.atLine c.line))

/-- Skips blanks and a comment up to the end of the line, which is read; nothing else may stand
there. -/
def readLineEnd (c : Cursor) : Except Fault Cursor :=
  let c := c.skip (· == ' ')
  let c := if c.peek == some '#' then c.skip (!isBreak ·) else c
  if endsLine c.peek then .ok ((c.readBreak.map (·.2)).getD c) else c.fail

end Cursor

end LayeredConfig.Yaml
