import LayeredConfig.Number.Shortest
import LayeredConfig.Text.Integer

/-!
# Reading floating-point numbers

A decimal numeral becomes the nearest double-precision number; numerals far outside the range are
infinite or zero without a computation of their power of ten.
-/

namespace LayeredConfig.Number

/-- The nearest number to `n * 10 ^ e`. -/
def ofDecimal (n : Nat) (e : Int) : Float :=
  let size : Int := (Nat.toDigits 10 n).length
  if n = 0 ∨ size + e < -400 then 0.0
  else if 400 < size + e then 1.0 / 0.0
  else Float.ofScientific n (e < 0) e.natAbs

def ofInteger (i : Int) : Float :=
  let x := ofDecimal i.natAbs 0
  if i < 0 then -x else x

def toInteger? (x : Float) : Option Int :=
  match decode x.toBits.toNat with
  | (negative, .finite b) =>
    let down := twoTo (-b.exponent).toNat
    if b.mantissa % down == 0 then
      some (Text.signed negative (b.mantissa / down * twoTo b.exponent.toNat))
    else none
  | _ => none

def takeDigits (cs : List Char) : List Nat × List Char :=
  ((cs.takeWhile Text.isDecimal).filterMap Text.digitValue?, cs.dropWhile Text.isDecimal)

def readExponent? : List Char → Option Int
  | 'e' :: cs =>
    let (negative, cs) := Text.splitSign cs
    match takeDigits cs with
    | ([], _) => none
    | (ds, []) => some (Text.signed negative (Text.ofDigits 10 ds))
    | _ => none
  | [] => some 0
  | _ => none

/-- Reads an unsigned numeral in lower case: digits with at most one point, then at most one
exponent. -/
def readUnsigned? (cs : List Char) : Option Float :=
  let (whole, cs) := takeDigits cs
  let (fraction, cs) := match cs with
    | '.' :: cs => takeDigits cs
    | cs => ([], cs)
  if whole.isEmpty && fraction.isEmpty then none
  else (readExponent? cs).map (fun e =>
    ofDecimal (Text.ofDigits 10 (whole ++ fraction)) (e - fraction.length))

/-- Reads a number in lower case, with white space around it and a sign in front allowed. -/
def read? (cs : List Char) : Option Float :=
  let (negative, cs) := Text.splitSign (Text.trim cs)
  let magnitude :=
    if cs = "inf".toList ∨ cs = "infinity".toList then some (1.0 / 0.0)
    else if cs = "nan".toList then some (0.0 / 0.0)
    else readUnsigned? cs
  magnitude.map (fun x => if negative then -x else x)

end LayeredConfig.Number
