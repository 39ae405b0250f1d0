/-!
# Dates and moments

Days of the proleptic Gregorian calendar from year 1 to 9999, and moments on them with
microseconds and perhaps an offset from universal time.
-/

namespace LayeredConfig.Document

structure Date where
  year : Nat
  month : Nat
  day : Nat
  deriving DecidableEq, Repr

/-- `offset` is the distance to universal time in seconds, if one is given. -/
structure Moment where
  date : Date
  hour : Nat
  minute : Nat
  second : Nat
  micro : Nat
  offset : Option Int
  deriving DecidableEq, Repr

def isLeapYear (y : Nat) : Bool :=
  y % 4 == 0 && (y % 100 != 0 || y % 400 == 0)

def daysInMonth (y m : Nat) : Nat :=
  if m == 2 then (if isLeapYear y then 29 else 28)
  else if m == 4 || m == 6 || m == 9 || m == 11 then 30
  else 31

namespace Date

def isValid (d : Date) : Bool :=
  1 ≤ d.year && d.year ≤ 9999 && 1 ≤ d.month && d.month ≤ 12 && 1 ≤ d.day &&
    d.day ≤ daysInMonth d.year d.month

/-- The number of a day in the calendar; the first day is day one. -/
def ordinal (d : Date) : Nat :=
  let y := d.year - 1
  y * 365 + y / 4 - y / 100 + y / 400 +
    (List.range (d.month - 1)).foldl (fun n m => n + daysInMonth d.year (m + 1)) d.day

end Date

def padded (width n : Nat) : List Char :=
  let ds := Nat.toDigits 10 n
  List.replicate (width - ds.length) '0' ++ ds

namespace Moment

def isValid (t : Moment) : Bool :=
  t.date.isValid && t.hour < 24 && t.minute < 60 && t.second < 60 && t.micro < 1000000 &&
    match t.offset with
    | none => true
    | some o => -86400 < o && o < 86400

/-- The microsecond count of a moment, in universal time if it has an offset. -/
def instant (t : Moment) : Int :=
  let seconds : Int := t.date.ordinal * 86400 + t.hour * 3600 + t.minute * 60 + t.second
  (seconds - t.offset.getD 0) * 1000000 + t.micro

/-- Two moments are the same if both or neither have an offset and their instants agree. -/
def same (t u : Moment) : Bool :=
  t.offset.isSome == u.offset.isSome && t.instant == u.instant

end Moment

/-! ## Text -/

def Date.text (d : Date) : List Char :=
  padded 4 d.year ++ '-' :: padded 2 d.month ++ '-' :: padded 2 d.day

def offsetText (o : Int) : List Char :=
  let n := o.natAbs
  (if o < 0 then '-' else '+') :: padded 2 (n / 3600) ++ ':' :: padded 2 (n / 60 % 60)

def Moment.text (t : Moment) : List Char :=
  t.date.text ++ ' ' :: padded 2 t.hour ++ ':' :: padded 2 t.minute ++ ':' :: padded 2 t.second ++
    (if t.micro = 0 then [] else '.' :: padded 6 t.micro) ++
    (match t.offset with
      | none => []
      | some o => offsetText o)

def numberList (ns : List Nat) : List Char :=
  [',', ' '].intercalate (ns.map (Nat.toDigits 10))

def Date.literal (d : Date) : List Char :=
  "datetime.date(".toList ++ numberList [d.year, d.month, d.day] ++ [')']

/-- An offset as a literal: whole days, rounded down, and the seconds left. -/
def offsetLiteral (o : Int) : List Char :=
  if o = 0 then "datetime.timezone.utc".toList
  else
    let days := Int.fdiv o 86400
    let seconds := Int.fmod o 86400
    "datetime.timezone(datetime.timedelta(".toList ++
      (if days < 0 then "days=-1, ".toList else []) ++ "seconds=".toList ++
      Nat.toDigits 10 seconds.toNat ++ "))".toList

/-- A moment as a literal that spells out its parts; seconds and microseconds are left out when
nothing but zeros would follow. -/
def Moment.literal (t : Moment) : List Char :=
  let small :=
    if t.micro != 0 then [t.second, t.micro] else if t.second != 0 then [t.second] else []
  "datetime.datetime(".toList ++
    numberList ([t.date.year, t.date.month, t.date.day, t.hour, t.minute] ++ small) ++
    (match t.offset with
      | none => []
      | some o => ", tzinfo=".toList ++ offsetLiteral o) ++ [')']

end LayeredConfig.Document
