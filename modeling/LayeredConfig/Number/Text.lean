import LayeredConfig.Number.Shortest

/-!
# The text of a floating-point number

Numbers from `10 ^ -4` on and below `10 ^ 16` are written positionally, with at least one digit
after the point. All others have an exponent of at least two digits with its sign.
-/

namespace LayeredConfig.Number

structure Layout where
  /-- The smallest power of ten of a leading digit that is written positionally. -/
  least : Int
  /-- The first power of ten of a leading digit that is not. -/
  limit : Int
  /-- How many digits an exponent has at least. -/
  exponentWidth : Nat

def Layout.value : Layout := ⟨-4, 16, 2⟩

def digitChars (ds : List Nat) : List Char :=
  ds.map (fun d => Char.ofNat (48 + d))

def zeros (n : Nat) : List Char := List.replicate n '0'

/-- The digits with the point after the first `n` of them. -/
def positional (ds : List Char) (n : Int) : List Char :=
  if n ≤ 0 then '0' :: '.' :: zeros (-n).toNat ++ ds
  else
    let k := n.toNat
    if ds.length ≤ k then ds ++ zeros (k - ds.length) ++ ['.', '0']
    else ds.take k ++ '.' :: ds.drop k

def exponential (width : Nat) (ds : List Char) (e : Int) : List Char :=
  let mantissa := match ds with
    | d :: (r :: rs) => d :: '.' :: r :: rs
    | ds => ds
  let es := Nat.toDigits 10 e.natAbs
  mantissa ++ 'e' :: (if e < 0 then '-' else '+') :: zeros (width - es.length) ++ es

def Decimal.text (l : Layout) (d : Decimal) : List Char :=
  let e := d.point - 1
  if l.least ≤ e ∧ e < l.limit then positional (digitChars d.digits) d.point
  else exponential l.exponentWidth (digitChars d.digits) e

def Magnitude.text (l : Layout) : Magnitude → List Char
  | .infinite => "inf".toList
  | .notANumber => "nan".toList
  | .finite b => if b.mantissa = 0 then "0.0".toList else b.shortest.text l

/-- The text of a number: the fewest digits that read back as the same number. -/
def text (x : Float) : List Char :=
  let (negative, m) := decode x.toBits.toNat
  let cs := m.text .value
  match m with
  | .notANumber => cs
  | _ => if negative then '-' :: cs else cs

end LayeredConfig.Number
