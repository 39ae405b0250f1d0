import LayeredConfig.Text.Digit
import LayeredConfig.Text.Printable

/-!
# Quoted literals

A text between quotes, with everything escaped that could not be told apart otherwise. Single
quotes are preferred; double quotes are taken when the text has a single quote and no double one.
-/

namespace LayeredConfig.Text

def quoteFor (cs : List Char) : Char :=
  if cs.contains '\'' && !cs.contains '"' then '"' else '\''

/-- An unprintable character by its number: two, four or eight hexadecimal digits. -/
def numberedEscape (n : Nat) : List Char :=
  if n < 0x100 then '\\' :: 'x' :: hexDigits 2 n
  else if n < 0x10000 then '\\' :: 'u' :: hexDigits 4 n
  else '\\' :: 'U' :: hexDigits 8 n

def quotedChar (q : Char) (c : Char) : List Char :=
  if c == q || c == '\\' then ['\\', c]
  else if c == '\n' then ['\\', 'n']
  else if c == '\r' then ['\\', 'r']
  else if c == '\t' then ['\\', 't']
  else if isPrintable c then [c]
  else numberedEscape c.toNat

def quoted (cs : List Char) : List Char :=
  let q := quoteFor cs
  q :: cs.flatMap (quotedChar q) ++ [q]

/-- One byte inside quotes `q`: ASCII as it is, all else by number. -/
def quotedByte (q : Char) (b : UInt8) : List Char :=
  let c := Char.ofNat b.toNat
  if c == q || c == '\\' then ['\\', c]
  else if c == '\n' then ['\\', 'n']
  else if c == '\r' then ['\\', 'r']
  else if c == '\t' then ['\\', 't']
  else if 0x20 ≤ b && b < 0x7f then [c]
  else '\\' :: 'x' :: hexDigits 2 b.toNat

/-- Bytes as a quoted literal, marked by a leading `b`. -/
def quotedBytes (bs : List UInt8) : List Char :=
  let q := quoteFor (bs.map (fun b => Char.ofNat b.toNat))
  'b' :: q :: bs.flatMap (quotedByte q) ++ [q]

end LayeredConfig.Text
