/-!
# UTF-8

Bytes as text. Decoding either gives the text or says what the first bytes are that no text
encodes to: a byte that starts no character, a byte that does not continue one, or an end in the
middle of one. Line ends are then unified.
-/

namespace LayeredConfig.Text

inductive Utf8Fault where
  | start
  | continuation
  | ended
  deriving DecidableEq, Repr

def Utf8Fault.reason : Utf8Fault → String
  | start => "invalid start byte"
  | continuation => "invalid continuation byte"
  | ended => "unexpected end of data"

/-- The first and last byte that may follow the lead byte `b` of a character. -/
def secondRange (b : Nat) : Nat × Nat :=
  if b == 0xe0 then (0xa0, 0xbf)
  else if b == 0xed then (0x80, 0x9f)
  else if b == 0xf0 then (0x90, 0xbf)
  else if b == 0xf4 then (0x80, 0x8f)
  else (0x80, 0xbf)

/-- The number of bytes that follow the lead byte `b`, and the bits it contributes. -/
def leadByte? (b : Nat) : Option (Nat × Nat) :=
  if b < 0x80 then some (0, b)
  else if b < 0xc2 then none
  else if b < 0xe0 then some (1, b - 0xc0)
  else if b < 0xf0 then some (2, b - 0xe0)
  else if b < 0xf5 then some (3, b - 0xf0)
  else none

/-- A fault with the bytes from the one on at which it shows. -/
abbrev FaultAt := Utf8Fault × List UInt8

/-- Reads continuation bytes; the first of them has to lie in `range`. -/
def readContinuation (range : Nat × Nat) (bits : Nat) :
    Nat → List UInt8 → Except FaultAt (Nat × List UInt8)
  | 0, bs => .ok (bits, bs)
  | _ + 1, [] => .error (.ended, [])
  | n + 1, b :: bs =>
    let v := b.toNat
    if range.1 ≤ v && v ≤ range.2 then
      readContinuation (0x80, 0xbf) (bits * 64 + (v - 0x80)) n bs
    else .error (.continuation, b :: bs)

theorem readContinuation_length {range : Nat × Nat} {bits n v : Nat} {bs rest : List UInt8}
    (h : readContinuation range bits n bs = .ok (v, rest)) : rest.length ≤ bs.length := by
  induction n generalizing range bits bs with
  | zero =>
    simp only [readContinuation, Except.ok.injEq, Prod.mk.injEq] at h
    exact h.2 ▸ Nat.le_refl _
  | succ n ih =>
    cases bs with
    | nil => simp [readContinuation] at h
    | cons b bs =>
      simp only [readContinuation] at h
      split at h
      · exact Nat.le_succ_of_le (ih h)
      · simp at h

def decodePrefix (bs : List UInt8) : List Char × Option FaultAt :=
  match bs with
  | [] => ([], none)
  | b :: bs =>
    match leadByte? b.toNat with
    | none => ([], some (.start, b :: bs))
    | some (n, bits) =>
      match _h : readContinuation (secondRange b.toNat) bits n bs with
      | .error e => ([], some e)
      | .ok (v, rest) =>
        let (cs, fault) := decodePrefix rest
        (Char.ofNat v :: cs, fault)
termination_by bs.length
decreasing_by
  have := readContinuation_length _h
  simp only [List.length_cons]
  omega

def decodeUtf8 (bs : List UInt8) : Except Utf8Fault (List Char) :=
  match decodePrefix bs with
  | (cs, none) => .ok cs
  | (_, some (fault, _)) => .error fault

/-- Every carriage return, with a line feed behind it or not, becomes one line feed. -/
def unifyLineEnds : List Char → List Char
  | '\r' :: '\n' :: cs => '\n' :: unifyLineEnds cs
  | '\r' :: cs => '\n' :: unifyLineEnds cs
  | c :: cs => c :: unifyLineEnds cs
  | [] => []

end LayeredConfig.Text
