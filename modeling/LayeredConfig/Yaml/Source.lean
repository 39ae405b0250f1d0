import LayeredConfig.Text.Utf8
import LayeredConfig.Yaml.Cursor

/-!
# Sources of YAML text

A document is read from a text that is there as a whole, or from bytes that are read in blocks. A
text that is there is checked before anything else. Bytes are decoded and checked block by block,
the first two blocks at the start and each further one when the reading comes to it; so a fault in
a later block shows only if nothing in front of that block ends the reading.
-/

namespace LayeredConfig.Yaml

def isDocumentChar (c : Char) : Bool :=
  let n := c.toNat
  n == 9 || n == 10 || n == 13 || (0x20 ≤ n && n ≤ 0x7e) || n == 0x85 ||
    (0xa0 ≤ n && n ≤ 0xfffd) || 0x10000 ≤ n

/-- The text that can be read, and the fault that waits behind it. -/
structure Source where
  text : List Char
  ending : Option Fault := none

namespace Source

def ofText (cs : List Char) : Source :=
  if cs.all isDocumentChar then ⟨cs, none⟩ else ⟨[], some (.malformed ⟨none⟩)⟩

def byteBlock : Nat := 8192

def charBlock : Nat := 4096

/-- The block with the character at a place; the first two are one. -/
def blockOf (place : Nat) : Nat := max 1 (place / charBlock)

/-- The characters that bytes give as long as more may follow: what is incomplete at the end waits,
and so does a carriage return. -/
def decodedSoFar (bs : List UInt8) : List Char :=
  let cs := (Text.decodePrefix bs).1
  Text.unifyLineEnds (if cs.getLast? == some '\r' then cs.dropLast else cs)

/-- The block of characters that cannot be had because of a fault in the encoding: the one for which
the bytes with the fault are read. -/
def faultBlock (bs : List UInt8) (fault : Text.FaultAt) : Nat :=
  let place := bs.length - fault.2.length
  let read :=
    if fault.2.isEmpty then (bs.length + byteBlock - 1) / byteBlock * byteBlock
    else place / byteBlock * byteBlock
  blockOf (decodedSoFar (bs.take read)).length

def cut (cs : List Char) (block : Nat) (fault : Fault) : Source :=
  ⟨if block ≤ 1 then [] else cs.take (block * charBlock), some fault⟩

def ofBytes (bs : List UInt8) : Source :=
  let (cs, fault) := Text.decodePrefix bs
  let cs := Text.unifyLineEnds cs
  let checked := (cs.takeWhile isDocumentChar).length
  let unfit := if checked < cs.length then some (blockOf checked) else none
  match fault, unfit with
  | none, none => ⟨cs, none⟩
  | none, some block => cut cs block (.malformed ⟨none⟩)
  | some f, none => cut cs (faultBlock bs f) (.notUtf8 f.1)
  | some f, some block =>
    if faultBlock bs f ≤ block then cut cs (faultBlock bs f) (.notUtf8 f.1)
    else cut cs block (.malformed ⟨none⟩)

end Source

end LayeredConfig.Yaml
