import LayeredConfig.Text.Digit
import LayeredConfig.Text.Space

/-!
# Integers in text

Decimal numerals are read up to a limit on the number of their digits; leading zeros count.
-/

namespace LayeredConfig.Text

def maxNumeralDigits : Nat := 4300

inductive NumeralFault where
  | tooLong

def ofNumeral (ds : List Nat) : Except NumeralFault Nat :=
  if ds.length > maxNumeralDigits then .error .tooLong else .ok (ofDigits 10 ds)

/-- A sign in front of a numeral, `true` for minus, and the text after it. -/
def splitSign : List Char → Bool × List Char
  | '-' :: cs => (true, cs)
  | '+' :: cs => (false, cs)
  | cs => (false, cs)

def signed (negative : Bool) (n : Nat) : Int :=
  if negative then -(n : Int) else n

/-- The integer a text starts with, after white space and a sign; zero when it starts with none. -/
def leadingInteger (s : String) : Except NumeralFault Int :=
  let (negative, rest) := splitSign (trimLeft s.toList)
  let ds := (rest.takeWhile isDecimal).filterMap digitValue?
  (ofNumeral ds).map (signed negative)

def ofInteger (i : Int) : Except NumeralFault (List Char) :=
  let ds := Nat.toDigits 10 i.natAbs
  if ds.length > maxNumeralDigits then .error .tooLong
  else .ok (if i < 0 then '-' :: ds else ds)

end LayeredConfig.Text
