import LayeredConfig.Text.Digit

/-!
# YAML tags

The types a node can have, and the type that the text of an untagged plain scalar shows.
-/

namespace LayeredConfig.Yaml

inductive Tag where
  | null
  | bool
  | int
  | float
  | binary
  | timestamp
  | str
  | seq
  | map
  | set
  /-- An ordered mapping: a sequence of mappings of one entry. -/
  | omap
  | pairs
  /-- The key under which other mappings are merged in. -/
  | merge
  /-- The key of the default value of a mapping. -/
  | value
  | unknown
  deriving DecidableEq, Repr

namespace Tag

def standard : List (String × Tag) := [
  ("null", null), ("bool", bool), ("int", int), ("float", float), ("binary", binary),
  ("timestamp", timestamp), ("str", str), ("seq", seq), ("map", map), ("set", set),
  ("omap", omap), ("pairs", pairs), ("merge", merge), ("value", value)]

def ofName (name : String) : Tag :=
  let stem := "tag:yaml.org,2002:".toList
  let cs := name.toList
  if stem.isPrefixOf cs then (standard.lookup (String.ofList (cs.drop stem.length))).getD unknown
  else unknown

/-! ## The shapes of plain scalars -/

def boolWords : List String :=
  ["yes", "Yes", "YES", "no", "No", "NO", "true", "True", "TRUE", "false", "False", "FALSE",
    "on", "On", "ON", "off", "Off", "OFF"]

def nullWords : List String := ["", "~", "null", "Null", "NULL"]

def dropSign : List Char → List Char
  | '+' :: cs | '-' :: cs => cs
  | cs => cs

def isDigitOr (c : Char) : Bool := Text.isAsciiDigit c || c == '_'

def isSixtieth : List Char → Bool
  | [a] => Text.isAsciiDigit a
  | [a, b] => '0' ≤ a && a ≤ '5' && Text.isAsciiDigit b
  | _ => false

def splitColons : List Char → List (List Char)
  | [] => [[]]
  | c :: cs =>
    if c == ':' then [] :: splitColons cs
    else match splitColons cs with
      | [] => [[c]]
      | p :: ps => (c :: p) :: ps

def isWhole : List Char → Bool
  | c :: cs => Text.isAsciiDigit c && c != '0' && cs.all isDigitOr
  | [] => false

/-- A number without a sign: binary, octal, decimal, hexadecimal, or in sixtieths. -/
def isUnsignedInt : List Char → Bool
  | ['0'] => true
  | '0' :: 'b' :: cs => !cs.isEmpty && cs.all (fun c => c == '0' || c == '1' || c == '_')
  | '0' :: 'x' :: cs => !cs.isEmpty && cs.all (fun c => (Text.hexValue? c).isSome || c == '_')
  | '0' :: cs => cs.all (fun c => ('0' ≤ c && c ≤ '7') || c == '_')
  | cs =>
    match splitColons cs with
    | w :: ws => isWhole w && ws.all isSixtieth
    | [] => false

/-- An exponent with its sign, or nothing. -/
def isExponent : List Char → Bool
  | [] => true
  | e :: s :: cs =>
    (e == 'e' || e == 'E') && (s == '+' || s == '-') && !cs.isEmpty && cs.all Text.isAsciiDigit
  | _ => false

def startsWithDigit (cs : List Char) : Bool := cs.head?.any Text.isAsciiDigit

/-- Digits, a point, and perhaps more digits and an exponent. -/
def isPointNumber (cs : List Char) : Bool :=
  startsWithDigit cs &&
    match cs.dropWhile isDigitOr with
    | '.' :: rest => isExponent (rest.dropWhile isDigitOr)
    | _ => false

/-- A number in sixtieths whose last part has a point. -/
def isSixtiethsNumber (cs : List Char) : Bool :=
  let whole := cs.takeWhile (· != '.')
  match cs.dropWhile (· != '.') with
  | '.' :: rest =>
    rest.all isDigitOr &&
      match splitColons whole with
      | w :: p :: ps => startsWithDigit w && w.all isDigitOr && (p :: ps).all isSixtieth
      | _ => false
  | _ => false

def isFloat (cs : List Char) : Bool :=
  let unsigned := dropSign cs
  isPointNumber unsigned || isSixtiethsNumber unsigned ||
    [".inf".toList, ".Inf".toList, ".INF".toList].contains unsigned ||
    [".nan".toList, ".NaN".toList, ".NAN".toList].contains cs ||
    match cs with
    | '.' :: rest => startsWithDigit rest && isExponent (rest.dropWhile isDigitOr)
    | _ => false

end Tag

/-! ## Timestamps -/

/-- The parts of a timestamp as digits; without an hour it is a date. -/
structure Stamp where
  year : List Char
  month : List Char
  day : List Char
  time : Option (List Char × List Char × List Char)
  fraction : List Char := []
  /-- A sign, hours and minutes; without a sign it is universal time. -/
  zone : Option (Option Char × List Char × List Char) := none

def takeOneOrTwo (cs : List Char) : Option (List Char × List Char) :=
  match (cs.take 2).takeWhile Text.isAsciiDigit with
  | [] => none
  | ds => some (ds, cs.drop ds.length)

def takeExactly (n : Nat) (cs : List Char) : Option (List Char × List Char) :=
  let ds := (cs.take n).takeWhile Text.isAsciiDigit
  if ds.length == n then some (ds, cs.drop n) else none

def takeChar (d : Char) : List Char → Option (List Char)
  | c :: cs => if c == d then some cs else none
  | [] => none

def takeTimeMark : List Char → Option (List Char)
  | 'T' :: cs | 't' :: cs => some cs
  | cs =>
    match cs.takeWhile (fun c => c == ' ' || c == '\t') with
    | [] => none
    | bs => some (cs.drop bs.length)

/-- Reads the rest of a timestamp: nothing, or a zone with blanks in front. -/
def readZone (cs : List Char) : Option (Option (Option Char × List Char × List Char)) :=
  if cs.isEmpty then some none
  else match cs.dropWhile (fun c => c == ' ' || c == '\t') with
    | ['Z'] => some (some (none, [], []))
    | s :: ds =>
      if s == '+' || s == '-' then do
        let (hour, rest) ← takeOneOrTwo ds
        match rest with
        | [] => some (some (some s, hour, []))
        | _ => do
          let (minute, rest) ← takeExactly 2 (← takeChar ':' rest)
          if rest.isEmpty then some (some (some s, hour, minute)) else none
      else none
    | [] => none

/-- Reads a timestamp: a date, then perhaps a time with a fraction and a zone. -/
def readStamp (cs : List Char) : Option Stamp := do
  let (year, cs) ← takeExactly 4 cs
  let (month, cs) ← takeOneOrTwo (← takeChar '-' cs)
  let (day, cs) ← takeOneOrTwo (← takeChar '-' cs)
  if cs.isEmpty then return ⟨year, month, day, none, [], none⟩
  let (hour, cs) ← takeOneOrTwo (← takeTimeMark cs)
  let (minute, cs) ← takeExactly 2 (← takeChar ':' cs)
  let (second, cs) ← takeExactly 2 (← takeChar ':' cs)
  let (fraction, cs) := match cs with
    | '.' :: rest => (rest.takeWhile Text.isAsciiDigit, rest.dropWhile Text.isAsciiDigit)
    | cs => ([], cs)
  let zone ← readZone cs
  return ⟨year, month, day, some (hour, minute, second), fraction, zone⟩

/-- A date alone shows itself as one only with two digits for month and day. -/
def isTimestamp (cs : List Char) : Bool :=
  match readStamp cs with
  | none => false
  | some s => s.time.isSome || (s.month.length == 2 && s.day.length == 2)

def dropFinalLineFeed (cs : List Char) : List Char :=
  if cs.getLast? == some '\n' then cs.dropLast else cs

/-- The type that a text shows; a line feed at its end does not matter. -/
def Tag.ofText (text : String) : Tag :=
  let cs := dropFinalLineFeed text.toList
  let word := String.ofList cs
  if boolWords.contains word then .bool
  else if isFloat cs then .float
  else if isUnsignedInt (dropSign cs) then .int
  else if word = "<<" then .merge
  else if nullWords.contains word then .null
  else if isTimestamp cs then .timestamp
  else if word = "=" then .value
  else if ["!", "&", "*"].contains word then .unknown
  else .str

end LayeredConfig.Yaml
