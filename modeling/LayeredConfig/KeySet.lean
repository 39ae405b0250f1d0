/-!
# Sets of names

A finite set of names, held as a list without repetitions.
-/

namespace LayeredConfig

/-- Pairwise distinct names. -/
structure KeySet where
  elems : List String := []
  nodup : elems.Nodup := by decide

namespace KeySet

def empty : KeySet := ⟨[], List.nodup_nil⟩

instance : Inhabited KeySet := ⟨empty⟩

instance : Membership String KeySet := ⟨fun s k => k ∈ s.elems⟩

instance (k : String) (s : KeySet) : Decidable (k ∈ s) :=
  inferInstanceAs (Decidable (k ∈ s.elems))

def size (s : KeySet) : Nat := s.elems.length

def insert (s : KeySet) (k : String) : KeySet :=
  if h : k ∈ s.elems then s else ⟨k :: s.elems, List.nodup_cons.2 ⟨h, s.nodup⟩⟩

def erase (s : KeySet) (k : String) : KeySet :=
  ⟨s.elems.filter (· ≠ k), s.nodup.filter _⟩

def ofList (ks : List String) : KeySet :=
  ks.foldl insert empty

@[simp] theorem not_mem_empty (k : String) : k ∉ empty := List.not_mem_nil

@[simp] theorem mem_insert {s : KeySet} {k j : String} : j ∈ s.insert k ↔ j = k ∨ j ∈ s := by
  unfold insert
  split
  · rename_i h
    exact ⟨Or.inr, fun hj => hj.elim (fun e => e ▸ h) id⟩
  · exact List.mem_cons

@[simp] theorem mem_erase {s : KeySet} {k j : String} : j ∈ s.erase k ↔ j ∈ s ∧ j ≠ k := by
  show j ∈ s.elems.filter _ ↔ j ∈ s.elems ∧ j ≠ k
  simp

end KeySet

end LayeredConfig
