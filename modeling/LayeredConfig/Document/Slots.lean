import LayeredConfig.Document.Value

/-!
# The order of members

A set has no order of its own; its members are shown by their slots in a table that is at most half
full. A number asks for the slot that its residue modulo the size of the table names; if that one
is taken, it goes on to others. Other values have no slots, and a set that holds one keeps the order
in which its members are given.
-/

namespace LayeredConfig.Document

open Number (twoTo Magnitude)

/-! ## Residues -/

/-- The prime that residues are taken by; `2 ^ 61` leaves one. -/
def residuePrime : Nat := twoTo 61 - 1

/-- The residue of `m * 2 ^ e` with a sign; minus one is set apart for faults. -/
def residue (negative : Bool) (m : Nat) (e : Int) : Int :=
  let r : Int := m % residuePrime * twoTo (e % 61).toNat % residuePrime
  if !negative then r else if r = 1 then -2 else -r

/-- The residue of what is no finite number but has a sign. -/
def infiniteResidue : Int := 314159

def residue? (v : Value) : Option Int :=
  match v with
  | .bool b => some (if b then 1 else 0)
  | .int i => some (residue (i < 0) i.natAbs 0)
  | .float x =>
    match Number.decode x.toBits.toNat with
    | (negative, .finite b) => some (residue negative b.mantissa b.exponent)
    | (negative, .infinite) => some (if negative then -infiniteResidue else infiniteResidue)
    | (_, .notANumber) => none
  | _ => none

/-! ## Slots -/

/-- The size of a table for some members: a power of two above their number twice over, and eight
for up to four of them. -/
def tableSize (members : Nat) : Nat :=
  if members ≤ 4 then 8 else twoTo ((2 * members).log2 + 1)

/-- The slots to try from slot `i` on: the next nine as well, if the table has them all. -/
def slotRun (size i : Nat) : List Nat :=
  if i + 9 < size then (List.range 10).map (i + ·) else [i]

/-- The first slot in the runs from `i` on that is not taken. From run to run what is left of the
residue, `spread`, shrinks by five bits; once it is gone, the runs reach every slot. -/
def freeSlot (size : Nat) (taken : List Nat) : (runs : Nat) → (i spread : Nat) → Nat
  | 0, i, _ => i
  | runs + 1, i, spread =>
    match (slotRun size i).find? (!taken.contains ·) with
    | some slot => slot
    | none =>
      let spread := spread / 32
      freeSlot size taken runs ((5 * i + 1 + spread) % size) spread

def slotsOf (size : Nat) (residues : List Int) : List Nat :=
  residues.foldl (fun taken (r : Int) =>
    let spread := (r % twoTo 64).toNat
    taken ++ [freeSlot size taken (size + 13) (spread % size) spread]) []

/-- Members in the order in which a set shows them. -/
def bySlot (vs : List Value) : List Value :=
  match vs.mapM residue? with
  | none => vs
  | some rs =>
    let placed := (slotsOf (tableSize vs.length) rs).zip vs
    (placed.mergeSort (fun a b => decide (a.1 ≤ b.1))).map (·.2)

end LayeredConfig.Document
