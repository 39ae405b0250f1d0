import LayeredConfig.Directive.Find

/-!
# Conditional blocks

A conditional block runs from its opening directive to the matching close, with at most one
`otherwise` at its own depth. `Block.read` splits the text behind an opener into the two branches
and what follows the block; `Block.select` keeps one branch.
-/

namespace LayeredConfig.Directive

structure Block where
  first : List Char
  second : List Char
  after : List Char

inductive BlockFault where
  | unclosed
  | doubleElse
  deriving DecidableEq, Repr

/-- One branch: its text, whether `otherwise` ended it, and the text after its end. -/
structure Branch where
  text : List Char
  hasOther : Bool
  after : List Char

def Branch.prepend (cs : List Char) (b : Branch) : Branch :=
  { b with text := cs ++ b.text }

/-- The text of a found directive together with what stands in front of it. -/
def Found.upTo (f : Found) (cs : List Char) : List Char :=
  cs.take (cs.length - f.after.length)

/-- Reads one branch; `depth` blocks are open inside it. -/
def readBranch (depth : Nat) (cs : List Char) : Option Branch :=
  match _h : find false cs with
  | none => none
  | some f =>
    match f.directive, depth with
    | .close, 0 => some ⟨f.before, false, f.after⟩
    | .otherwise, 0 => some ⟨f.before, true, f.after⟩
    | .close, d + 1 => (readBranch d f.after).map (Branch.prepend (f.upTo cs))
    | .whenTrue _, d | .whenFalse _, d =>
      (readBranch (d + 1) f.after).map (Branch.prepend (f.upTo cs))
    | _, d => (readBranch d f.after).map (Branch.prepend (f.upTo cs))
termination_by cs.length
decreasing_by all_goals exact find_length _h

def Block.read (cs : List Char) : Except BlockFault Block :=
  match readBranch 0 cs with
  | none => .error .unclosed
  | some b =>
    if b.hasOther then
      match readBranch 0 b.after with
      | none => .error .unclosed
      | some c => if c.hasOther then .error .doubleElse else .ok ⟨b.text, c.text, c.after⟩
    else .ok ⟨b.text, [], b.after⟩

def Block.select (keepFirst : Bool) (b : Block) : List Char :=
  (if keepFirst then b.first else b.second) ++ b.after

/-! ## A block is shorter without its markers -/

theorem Found.upTo_length (f : Found) (cs : List Char) (h : f.after.length ≤ cs.length) :
    (f.upTo cs).length + f.after.length = cs.length := by
  simp only [Found.upTo, List.length_take]
  omega

theorem readBranch_length {depth : Nat} {cs : List Char} {b : Branch}
    (h : readBranch depth cs = some b) : b.text.length + b.after.length < cs.length := by
  fun_induction readBranch depth cs generalizing b with
  | case1 => simp at h
  | case2 cs f hf hd =>
    simp only [Option.some.injEq] at h
    subst h
    exact find_lengths hf
  | case3 cs f hf hd =>
    simp only [Option.some.injEq] at h
    subst h
    exact find_lengths hf
  | _ =>
    rename_i ih
    obtain ⟨c, hc, rfl⟩ := Option.map_eq_some_iff.1 h
    have := ih hc
    have hl := find_length (by assumption)
    have := Found.upTo_length _ _ (Nat.le_of_lt hl)
    simp only [Branch.prepend, List.length_append]
    omega

theorem Block.select_length {cs : List Char} {b : Block} (h : Block.read cs = .ok b)
    (keepFirst : Bool) : (b.select keepFirst).length < cs.length := by
  unfold Block.read at h
  split at h
  · simp at h
  · rename_i c hc
    have h1 := readBranch_length hc
    split at h
    · split at h
      · simp at h
      · rename_i d hd
        have h2 := readBranch_length hd
        split at h
        · simp at h
        · simp only [Except.ok.injEq] at h
          subst h
          cases keepFirst <;> simp [Block.select] <;> omega
    · simp only [Except.ok.injEq] at h
      subst h
      cases keepFirst <;> simp [Block.select] <;> omega

end LayeredConfig.Directive
