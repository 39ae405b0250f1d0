/-!
# Directives

A value may hold directives between `%{` and `}`: a reference to another key, the start of a
conditional block, its alternative branch, and its end. `Directive.read?` reads the one at the
front of a text.
-/

namespace LayeredConfig

/-- A key named in a directive: outright, or by the text that follows the value of a prefix key. -/
inductive Reference where
  | direct (name : String)
  | indirect (suffix : String)
  deriving DecidableEq, Repr

/-- A reference as it is written; an indirect one has a leading star. -/
def Reference.spelling : Reference → String
  | .direct name => name
  | .indirect suffix => "*" ++ suffix

inductive Directive where
  /-- Stands for the value of a key. -/
  | substitute (ref : Reference)
  /-- Opens a block whose first branch is kept if the key is true. -/
  | whenTrue (ref : Reference)
  /-- Opens a block whose first branch is kept if the key is not true. -/
  | whenFalse (ref : Reference)
  /-- Starts the second branch of the enclosing block. -/
  | otherwise
  /-- Ends the enclosing block. -/
  | close
  deriving DecidableEq, Repr

namespace Directive

def reference? : Directive → Option Reference
  | substitute ref | whenTrue ref | whenFalse ref => some ref
  | otherwise | close => none

/-- The first character of a name may also be the star of an indirect reference. -/
def isNameStart (c : Char) : Bool :=
  c == '*' || c == '_' || c.isAlpha

def isNameChar (c : Char) : Bool :=
  c == '_' || c.isAlphanum

def toReference : List Char → Reference
  | '*' :: cs => .indirect (String.ofList cs)
  | cs => .direct (String.ofList cs)

/-- Reads a name and the brace that must follow it; also gives the text after the brace. -/
def readName? : List Char → Option (List Char × List Char)
  | [] => none
  | c :: cs =>
    if isNameStart c then
      match cs.dropWhile isNameChar with
      | '}' :: rest => some (c :: cs.takeWhile isNameChar, rest)
      | _ => none
    else none

/-- An unmarked name is a reference, except `else` in any case. -/
def ofName (name : List Char) : Directive :=
  if name.map Char.toLower = "else".toList then otherwise else substitute (toReference name)

def readBody? : List Char → Option (Directive × List Char)
  | '}' :: rest => some (close, rest)
  | '?' :: cs => (readName? cs).map (fun r => (whenTrue (toReference r.1), r.2))
  | '!' :: cs => (readName? cs).map (fun r => (whenFalse (toReference r.1), r.2))
  | cs => (readName? cs).map (fun r => (ofName r.1, r.2))

/-- Reads the directive a text starts with, and gives the text after it. -/
def read? : List Char → Option (Directive × List Char)
  | '%' :: '{' :: cs => readBody? cs
  | _ => none

/-! ## A directive is not empty -/

theorem readName?_length {cs name rest : List Char} (h : readName? cs = some (name, rest)) :
    rest.length < cs.length := by
  cases cs with
  | nil => simp [readName?] at h
  | cons c cs =>
    simp only [readName?] at h
    split at h
    · split at h
      · rename_i hd
        have hl : (cs.dropWhile isNameChar).length ≤ cs.length :=
          (List.dropWhile_suffix isNameChar).length_le
        simp only [Option.some.injEq, Prod.mk.injEq] at h
        obtain ⟨-, rfl⟩ := h
        rw [hd] at hl
        simp only [List.length_cons] at hl ⊢
        omega
      · simp at h
    · simp at h

theorem readBody?_length {cs rest : List Char} {d : Directive}
    (h : readBody? cs = some (d, rest)) : rest.length < cs.length := by
  unfold readBody? at h
  split at h
  · simp only [Option.some.injEq, Prod.mk.injEq] at h
    obtain ⟨-, rfl⟩ := h
    simp
  all_goals
    obtain ⟨⟨name, rest'⟩, hr, he⟩ := Option.map_eq_some_iff.1 h
    simp only [Prod.mk.injEq] at he
    obtain ⟨-, rfl⟩ := he
    have := readName?_length hr
    grind

theorem read?_length {cs rest : List Char} {d : Directive}
    (h : read? cs = some (d, rest)) : rest.length < cs.length := by
  unfold read? at h
  split at h
  · have := readBody?_length h
    simp only [List.length_cons]
    omega
  · simp at h

end Directive

end LayeredConfig
