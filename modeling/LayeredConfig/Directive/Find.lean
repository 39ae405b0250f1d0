import LayeredConfig.Directive.Basic
import LayeredConfig.Text.Space

/-!
# Finding directives

A directive is found at the first place where one can be read and where the character in front is
no percent sign. What follows a found directive is strictly shorter than the text searched.
-/

namespace LayeredConfig.Directive

/-- A directive in a text: what stands in front of it, how long it is, and what follows it. -/
structure Found where
  before : List Char
  directive : Directive
  length : Nat
  after : List Char
  deriving DecidableEq

def Found.push (c : Char) (f : Found) : Found :=
  { f with before := c :: f.before }

/-- Finds the first directive; `escaped` says that a percent sign stands in front of the text. -/
def find (escaped : Bool) : List Char → Option Found
  | [] => none
  | c :: cs =>
    match (if escaped then none else read? (c :: cs)) with
    | some (d, rest) => some ⟨[], d, (c :: cs).length - rest.length, rest⟩
    | none => (find (c == '%') cs).map (Found.push c)

theorem find_lengths {escaped : Bool} {cs : List Char} {f : Found}
    (h : find escaped cs = some f) : f.before.length + f.after.length < cs.length := by
  induction cs generalizing escaped f with
  | nil => simp [find] at h
  | cons c cs ih =>
    simp only [find] at h
    split at h
    · rename_i d rest hr
      simp only [Option.some.injEq] at h
      subst h
      split at hr
      · simp at hr
      · simpa using read?_length hr
    · obtain ⟨g, hg, rfl⟩ := Option.map_eq_some_iff.1 h
      have := ih hg
      simp only [Found.push, List.length_cons]
      omega

theorem find_length {escaped : Bool} {cs : List Char} {f : Found}
    (h : find escaped cs = some f) : f.after.length < cs.length := by
  have := find_lengths h
  omega

structure Span where
  start : Nat
  length : Nat
  directive : Directive
  deriving DecidableEq

def Span.stop (s : Span) : Nat := s.start + s.length

/-- Where a search starts: a negative position counts from the end of the text. -/
def startOf (size : Nat) (pos : Int) : Nat :=
  if pos < 0 then (size + pos).toNat else pos.toNat

/-- The first directive at or after a position. -/
def next? (text : String) (pos : Int) : Option Span :=
  let cs := text.toList
  let start := startOf cs.length pos
  let escaped := Text.endsIn (· == '%') (cs.take start)
  (find escaped (cs.drop start)).map (fun f => ⟨start + f.before.length, f.length, f.directive⟩)

def spansFrom (offset : Nat) (cs : List Char) : List Span :=
  match _h : find false cs with
  | none => []
  | some f =>
    let start := offset + f.before.length
    ⟨start, f.length, f.directive⟩ :: spansFrom (start + f.length) f.after
termination_by cs.length
decreasing_by exact find_length _h

def spans (text : String) : List Span :=
  spansFrom 0 text.toList

def references (text : String) : List Reference :=
  (spans text).filterMap (·.directive.reference?)

end LayeredConfig.Directive
