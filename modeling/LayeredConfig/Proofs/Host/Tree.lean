import LayeredConfig.Proofs.Host.Place

/-!
# Following paths

A path is followed through so many symbolic links at most. Where it leads with more of them is what
counts when two paths are compared, since one of them may have spent more links on its way to the
same directory.

* `follow_append`: what parts lead to is where the parts behind them start from, with the links that
  are left.
* `Ends`: what parts come to if enough links may be followed; `Ends.follow` says that with fewer
  there are too many of them on the way, or it is the same.
* `Closed`: the names on the way to a place are those of directories.
-/

namespace LayeredConfig.Tree

variable {t : Tree} {here there parts : List (List Char)} {links : Nat}

theorem stretch_append (here parts parts' : List (List Char)) :
    t.stretch here (parts ++ parts') =
      match t.stretch here parts with
      | .place there => t.stretch there parts'
      | .link dir target rest => .link dir target (rest ++ parts')
      | .fault e => .fault e := by
  induction parts generalizing here with
  | nil => rfl
  | cons p ps ih =>
    rw [List.cons_append, stretch, stretch]
    split
    · rfl
    · split
      · exact ih _
      · split
        · rfl
        · split
          · rfl
          · exact ih _

theorem follow_of_place (hs : t.stretch here parts = .place there) (links : Nat) :
    t.follow links here parts = .ok there := by
  unfold follow
  rw [hs]

theorem follow_of_fault {e : PathFault} (hs : t.stretch here parts = .fault e) (links : Nat) :
    t.follow links here parts = .error e := by
  unfold follow
  rw [hs]

theorem follow_of_link {dir rest : List (List Char)} {target : Path}
    (hs : t.stretch here parts = .link dir target rest) (links : Nat) :
    t.follow (links + 1) here parts = t.follow links (start dir target) (target.parts ++ rest) := by
  rw [follow, hs]

theorem follow_append (h : t.follow links here parts = .ok there) :
    ∃ left ≤ links, ∀ more parts',
      t.follow (links + more) here (parts ++ parts') = t.follow (left + more) there parts' := by
  fun_induction t.follow links here parts with
  | case1 links here parts _ hs =>
    obtain rfl := Except.ok.inj h
    refine ⟨links, Nat.le_refl links, fun more parts' => ?_⟩
    rw [follow, stretch_append, hs, ← follow]
  | case2 | case3 => cases h
  | case4 here parts dir target rest hs n ih =>
    obtain ⟨left, hle, hleft⟩ := ih h
    refine ⟨left, Nat.le_succ_of_le hle, fun more parts' => ?_⟩
    have hs' : t.stretch here (parts ++ parts') = .link dir target (rest ++ parts') := by
      rw [stretch_append, hs]
    rw [Nat.succ_add, follow_of_link hs', ← List.append_assoc]
    exact hleft more parts'

theorem follow_append_error {e : PathFault} (h : t.follow links here parts = .error e)
    (parts' : List (List Char)) : t.follow links here (parts ++ parts') = .error e := by
  fun_induction t.follow links here parts with
  | case1 => cases h
  | case2 links here parts _ hs =>
    rw [follow, stretch_append, hs]
    exact h
  | case3 here parts dir target rest hs =>
    rw [follow, stretch_append, hs]
    exact h
  | case4 here parts dir target rest hs n ih =>
    have hs' : t.stretch here (parts ++ parts') = .link dir target (rest ++ parts') := by
      rw [stretch_append, hs]
    rw [follow_of_link hs', ← List.append_assoc]
    exact ih h

/-- Where enough links may be followed, more of them change nothing. -/
theorem follow_mono {more : Nat} (hle : links ≤ more)
    (hne : t.follow links here parts ≠ .error .manyLinks) :
    t.follow more here parts = t.follow links here parts := by
  fun_induction t.follow links here parts generalizing more with
  | case1 _ _ _ _ hs => exact follow_of_place hs more
  | case2 _ _ _ _ hs => exact follow_of_fault hs more
  | case3 => exact absurd rfl hne
  | case4 here parts dir target rest hs n ih =>
    obtain ⟨m, rfl⟩ := Nat.exists_eq_add_of_le hle
    rw [Nat.succ_add, follow_of_link hs]
    exact ih (Nat.le_add_right n m) hne

/-! ## With enough links -/

/-- What parts come to from the directory `here`, if enough symbolic links may be followed. -/
def Ends (t : Tree) (here parts : List (List Char))
    (o : Except PathFault (List (List Char))) : Prop :=
  ∃ links, ∀ more, links ≤ more → t.follow more here parts = o

variable {o o' : Except PathFault (List (List Char))}

theorem Ends.unique (h : t.Ends here parts o) (h' : t.Ends here parts o') : o = o' := by
  obtain ⟨m, hm⟩ := h
  obtain ⟨n, hn⟩ := h'
  rw [← hm (m + n) (Nat.le_add_right m n), ← hn (m + n) (Nat.le_add_left n m)]

theorem ends_of_follow (h : t.follow links here parts = o) (hne : o ≠ .error .manyLinks) :
    t.Ends here parts o := by
  refine ⟨links, fun more hle => ?_⟩
  rw [follow_mono hle (h ▸ hne), h]

theorem Ends.follow (h : t.Ends here parts o) (links : Nat) :
    t.follow links here parts = o ∨ t.follow links here parts = .error .manyLinks := by
  by_cases hmany : t.follow links here parts = .error .manyLinks
  · exact .inr hmany
  · exact .inl ((ends_of_follow rfl hmany).unique h)

theorem ends_append (h : t.Ends here parts (.ok there)) (parts' : List (List Char)) :
    t.Ends here (parts ++ parts') o ↔ t.Ends there parts' o := by
  obtain ⟨links, hlinks⟩ := h
  obtain ⟨left, hle, hleft⟩ := follow_append (hlinks links (Nat.le_refl links))
  constructor
  · rintro ⟨m, hm⟩
    refine ⟨left + m, fun n hn => ?_⟩
    obtain ⟨k, rfl⟩ := Nat.exists_eq_add_of_le hn
    rw [Nat.add_assoc, ← hleft]
    exact hm _ (by omega)
  · rintro ⟨m, hm⟩
    refine ⟨links + m, fun n hn => ?_⟩
    obtain ⟨k, rfl⟩ := Nat.exists_eq_add_of_le hn
    rw [Nat.add_assoc, hleft]
    exact hm _ (by omega)

theorem follow_concat {name : List Char} (h : t.follow links here (parts ++ [name]) = .ok there) :
    ∃ dir left, t.follow links here parts = .ok dir ∧ t.isDirectory dir = true ∧
      t.follow left dir [name] = .ok there := by
  rcases hparts : t.follow links here parts with e | dir
  · rw [follow_append_error hparts] at h
    cases h
  · obtain ⟨left, -, hleft⟩ := follow_append hparts
    have hlast := (hleft 0 [name]).symm.trans h
    refine ⟨dir, left, rfl, ?_, hlast⟩
    cases hdir : t.isDirectory dir with
    | true => rfl
    | false =>
      unfold Tree.follow at hlast
      simp only [stretch, barrier?, hdir, Bool.not_false, if_true] at hlast
      cases hlast

theorem follow_name {dir : List (List Char)} {name : List Char}
    (h : t.follow links dir [name] = .ok there)
    (hdirect : t.links.get? (Path.placeOf (dir ++ [name])) = none) :
    there = dir.dropLast ∨ there = dir ++ [name] := by
  unfold Tree.follow at h
  simp only [stretch] at h
  rcases hbarrier : t.barrier? dir with _ | e <;> rw [hbarrier] at h
  · by_cases hdots : name = ['.', '.']
    · simp only [if_pos hdots] at h
      exact .inl (Except.ok.inj h).symm
    · simp only [if_neg hdots, hdirect] at h
      split at h
      · rename_i hs
        split at hs
        · cases hs
        · rw [← Stretch.place.inj hs] at h
          exact .inr (Except.ok.inj h).symm
      · cases h
      · rename_i hs
        split at hs <;> cases hs
  · cases h

/-! ## What is on the way -/

/-- What is in front of the names is a directory. -/
def Closed (t : Tree) (here : List (List Char)) : Prop :=
  ∀ front, front <+: here → front ≠ here → t.isDirectory front = true

theorem closed_nil : t.Closed [] := fun _ hfront hne => absurd (List.prefix_nil.1 hfront) hne

theorem Closed.dropLast (h : t.Closed here) : t.Closed here.dropLast := by
  intro front hfront hne
  refine h front (hfront.trans (List.dropLast_prefix here)) ?_
  rintro rfl
  have hlast := (List.dropLast_prefix front).length_le
  exact hne (hfront.eq_of_length (Nat.le_antisymm hfront.length_le hlast))

theorem Closed.concat (h : t.Closed here) (hhere : t.isDirectory here = true) (name : List Char) :
    t.Closed (here ++ [name]) := by
  intro front hfront hne
  rcases List.prefix_concat_iff.1 hfront with rfl | hprefix
  · exact absurd rfl hne
  · by_cases he : front = here
    · rw [he]
      exact hhere
    · exact h front hprefix he

theorem Closed.isDirectory_dropLast (h : t.Closed here) (hhere : t.isDirectory here = true) :
    t.isDirectory here.dropLast = true := by
  by_cases he : here.dropLast = here
  · rw [he]
    exact hhere
  · exact h _ (List.dropLast_prefix here) he

theorem isDirectory_of_barrier (h : t.barrier? here = none) : t.isDirectory here = true := by
  unfold barrier? at h
  split at h
  · cases h
  · rename_i hdirectory
    simpa using hdirectory

section Induction

variable {P : List (List Char) → Prop} {Q : List Char → Prop}

/-- A property of places that steps keep holds up to the first link on the way. -/
theorem stretch_induction (hout : ∀ dir, P dir → P dir.dropLast)
    (hin : ∀ dir name, t.isDirectory dir = true → P dir → Q name → P (dir ++ [name]))
    (hlinks : ∀ place target, t.links.get? place = some target → ∀ part ∈ target.parts, Q part)
    (hhere : P here) (hparts : ∀ part ∈ parts, Q part) :
    match t.stretch here parts with
    | .place there => P there
    | .link dir target rest => P dir ∧ ∀ part ∈ target.parts ++ rest, Q part
    | .fault _ => True := by
  fun_induction t.stretch here parts with
  | case1 here => exact hhere
  | case2 | case4 => trivial
  | case3 here ps hbarrier ih => exact ih (hout here hhere) (List.forall_mem_cons.1 hparts).2
  | case5 here p ps hbarrier hname hshort target htarget =>
    exact ⟨hhere, List.forall_mem_append.2 ⟨hlinks _ _ htarget, (List.forall_mem_cons.1 hparts).2⟩⟩
  | case6 here p ps hbarrier hname hshort hdirect ih =>
    obtain ⟨hp, hps⟩ := List.forall_mem_cons.1 hparts
    exact ih (hin here p (isDirectory_of_barrier hbarrier) hhere hp) hps

/-- A property of places that steps keep holds where parts lead, if it holds where they start. -/
theorem follow_induction (hroot : P []) (hout : ∀ dir, P dir → P dir.dropLast)
    (hin : ∀ dir name, t.isDirectory dir = true → P dir → Q name → P (dir ++ [name]))
    (hlinks : ∀ place target, t.links.get? place = some target → ∀ part ∈ target.parts, Q part)
    (hhere : P here) (hparts : ∀ part ∈ parts, Q part)
    (h : t.follow links here parts = .ok there) : P there := by
  fun_induction t.follow links here parts with
  | case1 links here parts _ hs =>
    have hstretch := stretch_induction hout hin hlinks hhere hparts
    rw [hs] at hstretch
    exact Except.ok.inj h ▸ hstretch
  | case2 | case3 => cases h
  | case4 here parts dir target rest hs n ih =>
    have hstretch := stretch_induction hout hin hlinks hhere hparts
    rw [hs] at hstretch
    refine ih ?_ hstretch.2 h
    unfold start
    split
    · exact hroot
    · exact hstretch.1

end Induction

theorem Closed.follow (hhere : t.Closed here) (h : t.follow links here parts = .ok there) :
    t.Closed there :=
  follow_induction (Q := fun _ => True) closed_nil (fun _ => Closed.dropLast)
    (fun _ name hdir hclosed _ => hclosed.concat hdir name) (fun _ _ _ _ _ => trivial) hhere
    (fun _ _ => trivial) h

end LayeredConfig.Tree
