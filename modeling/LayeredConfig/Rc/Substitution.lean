/-!
# Substitution

`${NAME}` and `${NAME:-default}` in a value stand for other values. Text that has neither form
stands for itself.
-/

namespace LayeredConfig.Rc

/-- A piece of a value: a character that stands for itself, or a name with a default. -/
inductive Piece where
  | char (c : Char)
  | variable (name : List Char) (default : Option (List Char))
  deriving DecidableEq, Repr

def readDefault? (cs : List Char) : Option (List Char × List Char) :=
  match cs.dropWhile (· != '}') with
  | _ :: rest => some (cs.takeWhile (· != '}'), rest)
  | [] => none

def readVariable? (cs : List Char) : Option (Piece × List Char) :=
  let name := cs.takeWhile (fun c => c != '}' && c != ':')
  match cs.dropWhile (fun c => c != '}' && c != ':') with
  | '}' :: rest => some (.variable name none, rest)
  | ':' :: '-' :: ds => (readDefault? ds).map (fun r => (.variable name (some r.1), r.2))
  | _ => none

theorem readVariable?_length {cs rest : List Char} {p : Piece}
    (h : readVariable? cs = some (p, rest)) : rest.length < cs.length := by
  have hs := (List.dropWhile_suffix (fun c => c != '}' && c != ':') (l := cs)).length_le
  unfold readVariable? at h
  simp only at h
  split at h
  · rename_i r hd
    simp only [Option.some.injEq, Prod.mk.injEq] at h
    obtain ⟨-, rfl⟩ := h
    rw [hd] at hs
    simp only [List.length_cons] at hs
    omega
  · rename_i ds hd
    obtain ⟨⟨a, b⟩, hr, he⟩ := Option.map_eq_some_iff.1 h
    simp only [Prod.mk.injEq] at he
    obtain ⟨-, rfl⟩ := he
    rw [hd] at hs
    unfold readDefault? at hr
    have hs' := (List.dropWhile_suffix (fun c => c != '}') (l := ds)).length_le
    split at hr
    · rename_i hd'
      simp only [Option.some.injEq, Prod.mk.injEq] at hr
      obtain ⟨-, rfl⟩ := hr
      rw [hd'] at hs'
      simp only [List.length_cons] at hs hs'
      omega
    · simp at hr
  · simp at h

def pieces (cs : List Char) : List Piece :=
  match cs with
  | [] => []
  | '$' :: '{' :: ds =>
    match _h : readVariable? ds with
    | some (p, rest) => p :: pieces rest
    | none => .char '$' :: pieces ('{' :: ds)
  | c :: ds => .char c :: pieces ds
termination_by cs.length
decreasing_by
  · have := readVariable?_length _h
    simp only [List.length_cons]
    omega
  · simp
  · simp

def isNameStart (c : Char) : Bool := c == '_' || c.isAlpha

/-- The names that can be assigned: letters, digits and underscores, no digit first. -/
def isName : List Char → Bool
  | c :: cs => isNameStart c && cs.all (fun c => c == '_' || c.isAlphanum)
  | [] => false

/-- Puts values in place of names; `look` finds them. A name that cannot be assigned is a fault. -/
def substitute (look : String → Option String → String) :
    List Piece → Except (List Char) (List Char)
  | [] => .ok []
  | .char c :: ps => (substitute look ps).map (c :: ·)
  | .variable name default :: ps =>
    if isName name then
      (substitute look ps).map
        ((look (String.ofList name) (default.map String.ofList)).toList ++ ·)
    else .error name

end LayeredConfig.Rc
