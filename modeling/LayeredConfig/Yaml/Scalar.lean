import LayeredConfig.Document.Value
import LayeredConfig.Text.Lowercase
import LayeredConfig.Yaml.Tag
import LayeredConfig.Yaml.Cursor

/-!
# The values of YAML scalars

What a scalar's text is worth as the type its tag gives. A text that does not fit the type is a
fault; a tag without a meaning is one of the document.
-/

namespace LayeredConfig.Yaml

open Document (Value Date Moment)

def unfit {α : Type} (u : Unfit) : Except Fault α := .error (.unfit u)

/-! ## Numbers -/

/-- The value of a digit in bases up to sixteen; decimal digits may be of any script. -/
def digitIn (base : Nat) (c : Char) : Option Nat :=
  ((Text.digitValue? c).or (Text.hexValue? c)).filter (· < base)

def basePrefix : Nat → Char
  | 2 => 'b'
  | 8 => 'o'
  | _ => 'x'

def dropBasePrefix (base : Nat) : List Char → List Char
  | '0' :: c :: cs => if base != 10 && c.toLower == basePrefix base then cs else '0' :: c :: cs
  | cs => cs

/-- An integer of some base, with white space around it and a sign in front allowed. -/
def readInteger (base : Nat) (cs : List Char) : Except Fault Int :=
  let (negative, cs) := Text.splitSign (Text.trim cs)
  match (dropBasePrefix base cs).mapM (digitIn base) with
  | none | some [] => unfit .noNumber
  | some ds =>
    if base == 10 && ds.length > Text.maxNumeralDigits then unfit .numeralTooLong
    else .ok (Text.signed negative (Text.ofDigits base ds))

/-- A number in sixtieths, the last part counting one each. -/
def sixtieths (parts : List Int) : Int :=
  parts.foldl (fun n p => n * 60 + p) 0

def readUnsignedInt (cs : List Char) : Except Fault Int :=
  match cs with
  | [] => unfit .emptyNumber
  | ['0'] => .ok 0
  | '0' :: 'b' :: ds => readInteger 2 ds
  | '0' :: 'x' :: ds => readInteger 16 ds
  | '0' :: _ => readInteger 8 cs
  | _ =>
    if cs.contains ':' then return sixtieths (← (Tag.splitColons cs).mapM (readInteger 10))
    else readInteger 10 cs

/-- The sign of a number without underscores, `true` for minus, and the rest; there has to be
something. -/
def signOf (cs : List Char) : Except Fault (Bool × List Char) :=
  match cs.filter (· != '_') with
  | [] => unfit .emptyNumber
  | ds => .ok (Text.splitSign ds)

def readInt (cs : List Char) : Except Fault Value := do
  let (negative, cs) ← signOf cs
  let i ← readUnsignedInt cs
  return .int (if negative then -i else i)

def readFloatPart (cs : List Char) : Except Fault Float :=
  match Number.read? cs with
  | some x => .ok x
  | none => unfit .noNumber

/-- A number in sixtieths from its parts, the last one first, each of which counts `weight`; there
has to be a floating-point number for every weight. -/
def sixtiethsFrom (sum : Float) (weight : Nat) : List Float → Except Fault Float
  | [] => .ok sum
  | x :: xs =>
    let w := Number.ofInteger weight
    if w.isInf then unfit .tooLarge else sixtiethsFrom (sum + x * w) (weight * 60) xs

def readUnsignedFloat (cs : List Char) : Except Fault Float := do
  if cs = ".inf".toList then return 1.0 / 0.0
  else if cs.contains ':' then
    sixtiethsFrom 0.0 1 (← (Tag.splitColons cs).mapM readFloatPart).reverse
  else readFloatPart cs

/-- A floating-point number from a source; the word for what is no number stands for one source of
its own. -/
def readFloat (cs : List Char) (source : Nat) : Except Fault Value := do
  let (negative, cs) ← signOf (Text.lower cs)
  if cs = ".nan".toList then return .nan none
  else
    let x ← readUnsignedFloat cs
    return .ofFloat (some source) (if negative then -x else x)

/-! ## Truth values and timestamps -/

def readBool (cs : List Char) : Except Fault Value :=
  let word := String.ofList (Text.lower cs)
  if ["yes", "true", "on"].contains word then .ok (.bool true)
  else if ["no", "false", "off"].contains word then .ok (.bool false)
  else unfit .noTruthValue

def ofAsciiDigits (cs : List Char) : Nat :=
  Text.ofDigits 10 (cs.map (fun c => c.toNat - 48))

def microseconds (fraction : List Char) : Nat :=
  let ds := fraction.take 6
  ofAsciiDigits (ds ++ List.replicate (6 - ds.length) '0')

def zoneOffset : Option (Option Char × List Char × List Char) → Option Int
  | none => none
  | some (none, _, _) => some 0
  | some (some sign, hour, minute) =>
    some (Text.signed (sign == '-') (ofAsciiDigits hour * 3600 + ofAsciiDigits minute * 60))

def readTimestamp (cs : List Char) : Except Fault Value :=
  match readStamp (dropFinalLineFeed cs) with
  | none => unfit .noTimestamp
  | some s =>
    let date : Date := ⟨ofAsciiDigits s.year, ofAsciiDigits s.month, ofAsciiDigits s.day⟩
    match s.time with
    | none => if date.isValid then .ok (.date date) else unfit .noDate
    | some (hour, minute, second) =>
      let moment : Moment := ⟨date, ofAsciiDigits hour, ofAsciiDigits minute,
        ofAsciiDigits second, microseconds s.fraction, zoneOffset s.zone⟩
      if moment.isValid then .ok (.moment moment) else unfit .noDate

/-! ## Bytes -/

def base64Value? (c : Char) : Option Nat :=
  if 'A' ≤ c && c ≤ 'Z' then some (c.toNat - 65)
  else if 'a' ≤ c && c ≤ 'z' then some (c.toNat - 71)
  else if '0' ≤ c && c ≤ '9' then some (c.toNat + 4)
  else if c == '+' then some 62
  else if c == '/' then some 63
  else none

/-- Decodes base 64: `place` counts the characters since the last whole byte group, `left` holds
the bits that wait for the next byte, and `pads` counts the padding signs met in a row. Characters
outside the alphabet are passed over; enough padding ends the text. -/
def decodeBase64 (place left pads : Nat) : List Char → Option (List UInt8)
  | [] => if place == 0 then some [] else none
  | c :: cs =>
    if c == '=' then
      if place ≥ 2 then
        if place + (pads + 1) ≥ 4 then some [] else decodeBase64 place left (pads + 1) cs
      else decodeBase64 place left pads cs
    else match base64Value? c with
      | none => decodeBase64 place left pads cs
      | some v =>
        match place with
        | 0 => decodeBase64 1 v 0 cs
        | 1 => (decodeBase64 2 (v % 16) 0 cs).map (UInt8.ofNat (left * 4 + v / 16) :: ·)
        | 2 => (decodeBase64 3 (v % 4) 0 cs).map (UInt8.ofNat (left * 16 + v / 4) :: ·)
        | _ => (decodeBase64 0 0 0 cs).map (UInt8.ofNat (left * 64 + v) :: ·)

def readBinary (line : Nat) (cs : List Char) : Except Fault Value :=
  if cs.any (fun c => c.toNat ≥ 0x80) then .error (.atLine line)
  else match decodeBase64 0 0 0 cs with
    | none => .error (.atLine line)
    | some bs => .ok (.bytes bs)

/-! ## All scalars -/

/-- The value of a text as a type that is no collection, from the node numbered `source`. -/
def readScalar (tag : Tag) (text : String) (line source : Nat) : Except Fault Value :=
  let cs := text.toList
  match tag with
  | .null => .ok .null
  | .bool => readBool cs
  | .int => readInt cs
  | .float => readFloat cs source
  | .binary => readBinary line cs
  | .timestamp => readTimestamp cs
  | .str => .ok (.text text)
  | _ => .error (.atLine line)

end LayeredConfig.Yaml
