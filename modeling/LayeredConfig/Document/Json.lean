import LayeredConfig.Document.Value

/-!
# JSON documents

Reads a document of one JSON value. Beside the standard's values it takes `NaN`, `Infinity` and
`-Infinity`; integers are exact, and of two entries with one name the later value counts. A
malformed document is reported with the line at which reading stopped.
-/

namespace LayeredConfig.Document.Json

inductive Problem where
  | noValue
  | noName
  | noColon
  | noComma
  | unterminated
  | controlCharacter
  | badEscape
  | badUnicodeEscape
  | extraData
  | byteOrderMark
  deriving DecidableEq, Repr

def Problem.message : Problem → String
  | noValue => "Expecting value"
  | noName => "Expecting property name enclosed in double quotes"
  | noColon => "Expecting ':' delimiter"
  | noComma => "Expecting ',' delimiter"
  | unterminated => "Unterminated string starting at"
  | controlCharacter => "Invalid control character at"
  | badEscape => "Invalid \\escape"
  | badUnicodeEscape => "Invalid \\uXXXX escape"
  | extraData => "Extra data"
  | byteOrderMark => "Unexpected UTF-8 BOM (decode using utf-8-sig)"

inductive Fault where
  | malformed (problem : Problem) (line : Nat)
  | numeral (fault : Text.NumeralFault)

structure Cursor where
  rest : List Char
  line : Nat

abbrev Reading := Except Fault

def Cursor.fail {α : Type} (c : Cursor) (p : Problem) : Reading α :=
  .error (.malformed p c.line)

/-- Skips blanks; only here do lines end. -/
def skipBlanks (line : Nat) : List Char → Cursor
  | '\n' :: cs => skipBlanks (line + 1) cs
  | ' ' :: cs | '\t' :: cs | '\r' :: cs => skipBlanks line cs
  | cs => ⟨cs, line⟩

def Cursor.skip (c : Cursor) : Cursor := skipBlanks c.line c.rest

/-! ## Texts -/

def simpleEscape? : Char → Option Char
  | '"' => some '"'
  | '\\' => some '\\'
  | '/' => some '/'
  | 'b' => some '\x08'
  | 'f' => some '\x0c'
  | 'n' => some '\n'
  | 'r' => some '\r'
  | 't' => some '\t'
  | _ => none

def hexQuad? : List Char → Option (Nat × List Char)
  | a :: b :: c :: d :: cs => do
    let ds ← [a, b, c, d].mapM Text.hexValue?
    return (Text.ofDigits 16 ds, cs)
  | _ => none

/-- Half of a surrogate pair stands for no character. -/
def unpaired : Char := Char.ofNat 0xfffd

/-- Reads the second half of a pair whose first half is `high`; without one, the first half stands
alone and nothing is read. -/
def readLow (high : Nat) (cs : List Char) : Option (Char × List Char) :=
  match cs with
  | '\\' :: 'u' :: ds =>
    if cs.length ≤ 6 then some (unpaired, cs)
    else match hexQuad? ds with
      | none => none
      | some (low, rest) =>
        if 0xdc00 ≤ low && low < 0xe000 then
          some (Char.ofNat (0x10000 + (high - 0xd800) * 0x400 + (low - 0xdc00)), rest)
        else some (unpaired, cs)
  | _ => some (unpaired, cs)

/-- Reads an escape after its `u`; a text has to go on behind it. -/
def readUnicode (cs : List Char) : Option (Char × List Char) :=
  match hexQuad? cs with
  | none => none
  | some (_, []) => none
  | some (n, rest) =>
    if 0xd800 ≤ n && n < 0xdc00 then readLow n rest
    else if 0xdc00 ≤ n && n < 0xe000 then some (unpaired, rest)
    else some (Char.ofNat n, rest)

/-- Reads a text after its opening quote; `fuel` bounds the number of characters. -/
def readText (line : Nat) : (fuel : Nat) → List Char → Reading (List Char × Cursor)
  | 0, _ | _, [] => .error (.malformed .unterminated line)
  | n + 1, c :: cs =>
    if c == '"' then .ok ([], ⟨cs, line⟩)
    else if c == '\\' then
      match cs with
      | [] => .error (.malformed .unterminated line)
      | 'u' :: ds =>
        match readUnicode ds with
        | none => .error (.malformed .badUnicodeEscape line)
        | some (d, rest) => do
          let (s, cur) ← readText line n rest
          return (d :: s, cur)
      | e :: ds =>
        match simpleEscape? e with
        | none => .error (.malformed .badEscape line)
        | some d => do
          let (s, cur) ← readText line n ds
          return (d :: s, cur)
    else if c.toNat < 0x20 then .error (.malformed .controlCharacter line)
    else do
      let (s, cur) ← readText line n cs
      return (c :: s, cur)

def Cursor.readText (c : Cursor) : Reading (String × Cursor) := do
  let (s, cur) ← Json.readText c.line (c.rest.length + 1) c.rest
  return (String.ofList s, cur)

/-! ## Numbers -/

def splitDigits (cs : List Char) : List Char × List Char :=
  (cs.takeWhile Text.isAsciiDigit, cs.dropWhile Text.isAsciiDigit)

def digitValues (cs : List Char) : List Nat := cs.map (fun c => c.toNat - 48)

def readWhole? : List Char → Option (List Char × List Char)
  | '0' :: cs => some (['0'], cs)
  | c :: cs => if Text.isAsciiDigit c then some (splitDigits (c :: cs)) else none
  | [] => none

def readFraction (cs : List Char) : Option (List Char) × List Char :=
  match cs with
  | '.' :: ds =>
    match splitDigits ds with
    | ([], _) => (none, cs)
    | (f, rest) => (some f, rest)
  | _ => (none, cs)

def readExponent (cs : List Char) : Option Int × List Char :=
  match cs with
  | c :: ds =>
    if c == 'e' || c == 'E' then
      let (negative, ds) := Text.splitSign ds
      match splitDigits ds with
      | ([], _) => (none, cs)
      | (e, rest) => (some (Text.signed negative (Text.ofDigits 10 (digitValues e))), rest)
    else (none, cs)
  | [] => (none, cs)

/-- Reads a number; one without fraction and exponent is an integer. -/
def Cursor.readNumber (c : Cursor) : Reading (Value × Cursor) :=
  let (negative, cs) := match c.rest with
    | '-' :: cs => (true, cs)
    | cs => (false, cs)
  match readWhole? cs with
  | none => c.fail .noValue
  | some (whole, cs) =>
    let (fraction, cs) := readFraction cs
    let (exponent, cs) := readExponent cs
    if fraction.isNone && exponent.isNone then
      match Text.ofNumeral (digitValues whole) with
      | .error e => .error (.numeral e)
      | .ok n => .ok (.int (Text.signed negative n), ⟨cs, c.line⟩)
    else
      let f := fraction.getD []
      let x := Number.ofDecimal (Text.ofDigits 10 (digitValues (whole ++ f)))
        (exponent.getD 0 - f.length)
      .ok (.float (if negative then -x else x), ⟨cs, c.line⟩)

def words : List (String × Value) := [
  ("null", .null), ("true", .bool true), ("false", .bool false), ("NaN", .nan none),
  ("Infinity", .float (1.0 / 0.0)), ("-Infinity", .float (-1.0 / 0.0))]

def readWord? (cs : List Char) : Option (Value × List Char) :=
  (words.find? (fun w => w.1.toList.isPrefixOf cs)).map (fun w => (w.2, cs.drop w.1.length))

/-! ## Values -/

mutual

/-- Reads a value; `fuel` bounds the number of readers called inside one another. -/
def readValue : (fuel : Nat) → Cursor → Reading (Value × Cursor)
  | 0, c => c.fail .noValue
  | n + 1, c =>
    match c.rest with
    | '"' :: cs => do
      let (s, cur) ← Cursor.readText ⟨cs, c.line⟩
      return (.text s, cur)
    | '{' :: cs =>
      let cur := Cursor.skip ⟨cs, c.line⟩
      match cur.rest with
      | '}' :: rest => .ok (.mapping [], ⟨rest, cur.line⟩)
      | _ => do
        let (es, cur) ← readEntries n cur
        return (.mapping (Value.ofEntries es), cur)
    | '[' :: cs =>
      let cur := Cursor.skip ⟨cs, c.line⟩
      match cur.rest with
      | ']' :: rest => .ok (.list [], ⟨rest, cur.line⟩)
      | _ => do
        let (vs, cur) ← readItems n cur
        return (.list vs, cur)
    | cs =>
      match readWord? cs with
      | some (v, rest) => .ok (v, ⟨rest, c.line⟩)
      | none => c.readNumber

def readItems : (fuel : Nat) → Cursor → Reading (List Value × Cursor)
  | 0, c => c.fail .noValue
  | n + 1, c => do
    let (v, cur) ← readValue n c
    let cur := cur.skip
    match cur.rest with
    | ']' :: rest => return ([v], ⟨rest, cur.line⟩)
    | ',' :: rest => do
      let (vs, cur) ← readItems n (Cursor.skip ⟨rest, cur.line⟩)
      return (v :: vs, cur)
    | _ => cur.fail .noComma

def readEntries : (fuel : Nat) → Cursor → Reading (List (Value × Value) × Cursor)
  | 0, c => c.fail .noName
  | n + 1, c =>
    match c.rest with
    | '"' :: cs => do
      let (k, cur) ← Cursor.readText ⟨cs, c.line⟩
      let cur := cur.skip
      match cur.rest with
      | ':' :: rest => do
        let (v, cur) ← readValue n (Cursor.skip ⟨rest, cur.line⟩)
        let cur := cur.skip
        match cur.rest with
        | '}' :: rest => return ([(.text k, v)], ⟨rest, cur.line⟩)
        | ',' :: rest => do
          let (es, cur) ← readEntries n (Cursor.skip ⟨rest, cur.line⟩)
          return ((.text k, v) :: es, cur)
        | _ => cur.fail .noComma
      | _ => cur.fail .noColon
    | _ => c.fail .noName

end

/-- Reads a document: one value with blanks around it. Every reader called inside another one has
a character less to read. -/
def read (cs : List Char) : Reading Value :=
  match cs with
  | '\ufeff' :: _ => .error (.malformed .byteOrderMark 1)
  | _ => do
    let (v, cur) ← readValue (2 * cs.length + 2) (Cursor.skip ⟨cs, 1⟩)
    let cur := cur.skip
    if cur.rest.isEmpty then return v else cur.fail .extraData

end LayeredConfig.Document.Json
