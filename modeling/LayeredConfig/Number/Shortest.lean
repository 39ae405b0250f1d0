/-!
# Shortest decimals

A finite binary floating-point number is a natural number times a power of two. The reals that
round to it form an interval, whose ends belong to it if that natural number is even. The shortest
decimal is the one with the fewest digits in the interval, and of those the nearest.
-/

namespace LayeredConfig.Number

def twoTo (n : Nat) : Nat := Nat.pow 2 n

def tenTo (n : Nat) : Nat := Nat.pow 10 n

/-- The number `mantissa * 2 ^ exponent`; `lowEdge` says that the next smaller number is only half
as far away as the next larger one. -/
structure Binary where
  mantissa : Nat
  exponent : Int
  lowEdge : Bool

/-- What the bits of a double-precision number stand for, apart from the sign. -/
inductive Magnitude where
  | finite (b : Binary)
  | infinite
  | notANumber

/-- Splits bits into sign, `true` for minus, and magnitude. -/
def decode (bits : Nat) : Bool × Magnitude :=
  let e : Nat := bits / twoTo 52 % twoTo 11
  let f : Nat := bits % twoTo 52
  (bits / twoTo 63 % 2 == 1,
    if e == 2047 then (if f == 0 then .infinite else .notANumber)
    else if e == 0 then .finite ⟨f, -1074, false⟩
    else .finite ⟨twoTo 52 + f, (e : Int) - 1075, f == 0 && e > 1⟩)

/-- Decimal digits as one number, and the power of ten the point stands behind: the value is
`0.digits * 10 ^ point`. -/
structure Decimal where
  digits : List Nat
  point : Int
  deriving DecidableEq, Repr

/-- A number and the ends of its interval, all over one denominator. -/
structure Span where
  low : Nat
  value : Nat
  high : Nat
  denominator : Nat
  closed : Bool

def Binary.span (b : Binary) : Span :=
  let q := b.exponent - 2
  let up := twoTo q.toNat
  ⟨(4 * b.mantissa - if b.lowEdge then 1 else 2) * up, 4 * b.mantissa * up,
    (4 * b.mantissa + 2) * up, twoTo (-q).toNat, b.mantissa % 2 == 0⟩

def digitsOf (n : Nat) : List Nat :=
  (Nat.toDigits 10 n).map (fun c => c.toNat - 48)

/-- The power of ten just above the value: `10 ^ (k - 1) ≤ value < 10 ^ k`. -/
def Span.point (s : Span) : Int :=
  let k := ((digitsOf s.value).length : Int) - (digitsOf s.denominator).length
  if s.value * tenTo (-k).toNat < s.denominator * tenTo k.toNat then k else k + 1

/-- The multiple `c * 10 ^ unit` lies in the interval. -/
def Span.contains (s : Span) (unit : Int) (c : Nat) : Bool :=
  let x := c * tenTo unit.toNat * s.denominator
  let scale := tenTo (-unit).toNat
  if s.closed then s.low * scale ≤ x && x ≤ s.high * scale
  else s.low * scale < x && x < s.high * scale

/-- The multiple of `10 ^ unit` in the interval that is nearest to the value, if there is one; of
two equally near ones the even. -/
def Span.nearest? (s : Span) (unit : Int) : Option Nat :=
  let num := s.value * tenTo (-unit).toNat
  let den := s.denominator * tenTo unit.toNat
  let below := num / den
  let twice := 2 * (num % den)
  let upFirst := den < twice || (twice == den && below % 2 == 1)
  let (a, b) := if upFirst then (below + 1, below) else (below, below + 1)
  if a != 0 && s.contains unit a then some a
  else if b != 0 && s.contains unit b then some b
  else none

def dropZeros (ds : List Nat) : List Nat :=
  (ds.reverse.dropWhile (· == 0)).reverse

/-- The shortest decimal with at least `17 - more` digits; seventeen always suffice. -/
def Span.shortestFrom (s : Span) (point : Int) : (more : Nat) → Decimal
  | 0 => ⟨[], point⟩
  | more + 1 =>
    let unit := point - (17 - more : Nat)
    match s.nearest? unit with
    | some c =>
      let ds := digitsOf c
      ⟨dropZeros ds, unit + ds.length⟩
    | none => s.shortestFrom point more

def Binary.shortest (b : Binary) : Decimal :=
  let s := b.span
  s.shortestFrom s.point 17

end LayeredConfig.Number
