import LayeredConfig.Host

/-!
# Where paths lead

* `Path.Split`: no part of the path holds a slash; this is so of all paths that come from texts.
* `suffix_of_place`: without symbolic links, the suffix of a path is that of the place it leads to,
  unless it ends in double dots and has none.
* `withFile`: a host on which a file has been written; only paths to its place see it.
-/

namespace LayeredConfig

namespace Path

/-! ## Paths from texts -/

theorem splitSlashes_ne_nil (cs : List Char) : splitSlashes cs ≠ [] := by
  cases cs with
  | nil => simp [splitSlashes]
  | cons c cs =>
    unfold splitSlashes
    split
    · simp
    · split <;> simp

theorem splitSlashes_append (cs ds : List Char) :
    splitSlashes (cs ++ '/' :: ds) = splitSlashes cs ++ splitSlashes ds := by
  induction cs with
  | nil => simp [splitSlashes]
  | cons c cs ih =>
    rw [List.cons_append, splitSlashes, splitSlashes, ih]
    split
    · rfl
    · cases hcs : splitSlashes cs with
      | nil => exact absurd hcs (splitSlashes_ne_nil cs)
      | cons p ps => rfl

theorem splitSlashes_of_not_mem {cs : List Char} (h : '/' ∉ cs) : splitSlashes cs = [cs] := by
  induction cs with
  | nil => rfl
  | cons c cs ih =>
    rw [List.mem_cons, not_or] at h
    rw [splitSlashes, if_neg (by simpa using Ne.symm h.1), ih h.2]

theorem not_mem_splitSlashes {cs p : List Char} (h : p ∈ splitSlashes cs) : '/' ∉ p := by
  induction cs generalizing p with
  | nil => simp_all [splitSlashes]
  | cons c cs ih =>
    unfold splitSlashes at h
    split at h
    · rcases List.mem_cons.1 h with rfl | h
      · simp
      · exact ih h
    · rename_i hc
      split at h
      · rename_i hcs
        exact absurd hcs (splitSlashes_ne_nil cs)
      · rename_i q ps hcs
        rw [hcs] at ih
        rcases List.mem_cons.1 h with rfl | h
        · rw [List.mem_cons, not_or]
          exact ⟨fun he => hc (by simp [← he]), ih List.mem_cons_self⟩
        · exact ih (List.mem_cons_of_mem _ h)

def Split (p : Path) : Prop := ∀ part ∈ p.parts, '/' ∉ part

theorem split_ofString (s : String) : (ofString s).Split := fun _ hp =>
  not_mem_splitSlashes (List.mem_filter.1 hp).1

theorem Split.join {p q : Path} (hp : p.Split) (hq : q.Split) : (p.join q).Split := by
  unfold Path.join
  split
  · exact hq
  · exact fun part h => (List.mem_append.1 h).elim (hp part) (hq part)

theorem Split.parent {p : Path} (hp : p.Split) : p.parent.Split := fun part h =>
  hp part ((List.dropLast_sublist _).subset h)

/-! ## Suffixes -/

theorem placeOf_concat (parts : List (List Char)) (name : List Char) :
    ∃ front, (placeOf (parts ++ [name])).toList = front ++ '/' :: name := by
  have hfront : ∃ front, '/' :: ['/'].intercalate (parts ++ [name]) = front ++ '/' :: name := by
    induction parts with
    | nil => exact ⟨[], by simp [List.intercalate]⟩
    | cons p ps ih =>
      obtain ⟨front, hfront⟩ := ih
      refine ⟨'/' :: p ++ front, ?_⟩
      rw [List.append_assoc, ← hfront]
      cases ps <;> simp [List.intercalate]
  rw [placeOf, String.toList_ofList]
  exact hfront

theorem suffix_cases (p : Path) : p.suffix = "" ∨ ∃ parts name, p.parts = parts ++ [name] ∧
    name ≠ [] ∧ name ≠ ['.'] ∧ name ≠ ['.', '.'] := by
  unfold suffix
  split
  · exact .inl rfl
  · rename_i name hlast
    obtain ⟨parts, hparts⟩ := List.getLast?_eq_some_iff.1 hlast
    dsimp only
    split
    · rename_i hcond
      refine .inr ⟨parts, name, hparts, ?_, ?_, ?_⟩ <;> rintro rfl <;>
        exact absurd hcond (by decide)
    · exact .inl rfl

theorem suffix_congr {p q : Path} (h : p.parts.getLast? = q.parts.getLast?) :
    p.suffix = q.suffix := by
  rw [suffix, suffix, h]

theorem resolveParts_concat (parts : List (List Char)) {name : List Char} (h : name ≠ ['.', '.']) :
    resolveParts (parts ++ [name]) = resolveParts parts ++ [name] := by
  rw [resolveParts, List.foldl_append]
  simp [h]

theorem join_parts_concat {p q : Path} {parts : List (List Char)} {name : List Char}
    (h : q.parts = parts ++ [name]) : ∃ parts', (p.join q).parts = parts' ++ [name] := by
  unfold join
  split
  · exact ⟨parts, h⟩
  · exact ⟨p.parts ++ parts, by rw [h, List.append_assoc]⟩

end Path

namespace Tree

variable {t : Tree} {here there parts : List (List Char)}

theorem stretch_concat {name : List Char} (hname : name ≠ ['.', '.'])
    (h : t.stretch here (parts ++ [name]) = .place there) : ∃ here', there = here' ++ [name] := by
  induction parts generalizing here with
  | nil =>
    rw [List.nil_append, stretch] at h
    split at h
    · cases h
    · rw [if_neg hname] at h
      split at h
      · cases h
      · split at h
        · cases h
        · exact ⟨here, (Stretch.place.inj h).symm⟩
  | cons p ps ih =>
    rw [List.cons_append, stretch] at h
    split at h
    · cases h
    · split at h
      · exact ih h
      · split at h
        · cases h
        · split at h
          · cases h
          · exact ih h

def Linkless (t : Tree) : Prop := ∀ place, t.links.get? place = none

theorem Linkless.stretch_ne_link (hl : t.Linkless) {rest : List (List Char)} {target : Path} :
    t.stretch here parts ≠ .link there target rest := by
  fun_induction t.stretch here parts with
  | case1 | case2 | case4 => nofun
  | case3 _ _ _ ih => exact ih
  | case5 _ _ _ _ _ _ _ htarget =>
    rw [hl] at htarget
    cases htarget
  | case6 _ _ _ _ _ _ _ ih => exact ih

theorem Linkless.stretch_of_follow (hl : t.Linkless) {links : Nat}
    (h : t.follow links here parts = .ok there) : t.stretch here parts = .place there := by
  unfold follow at h
  split at h
  · rename_i hs
    rw [hs, Except.ok.inj h]
  · cases h
  · rename_i hs
    exact absurd hs hl.stretch_ne_link

theorem barrier_ne_manyLinks : t.barrier? here ≠ some .manyLinks := by
  unfold barrier?
  split
  · nofun
  · split <;> nofun

theorem stretch_ne_manyLinks : t.stretch here parts ≠ .fault .manyLinks := by
  fun_induction t.stretch here parts with
  | case1 | case4 | case5 => nofun
  | case2 here p ps e hbarrier =>
    rintro ⟨⟩
    exact barrier_ne_manyLinks hbarrier
  | case3 _ _ _ ih => exact ih
  | case6 _ _ _ _ _ _ _ ih => exact ih

theorem Linkless.locate_ne_manyLinks (hl : t.Linkless) (here : List (List Char)) (p : Path) :
    t.locate here p ≠ .error .manyLinks := by
  unfold locate
  split
  · nofun
  · unfold follow
    split
    · nofun
    · rename_i hs
      rintro ⟨⟩
      exact stretch_ne_manyLinks hs
    · rename_i hs
      exact absurd hs hl.stretch_ne_link

theorem follow_of_locate {p : Path} (h : t.locate here p = .ok there) :
    t.follow maxLinks (start here p) p.parts = .ok there := by
  unfold locate at h
  split at h
  · cases h
  · exact h

end Tree

namespace Host

theorem place?_eq_some {h : Host} {t : Tree} {p : Path} {place : String} (ht : h.tree = some t)
    (hp : h.place? p = .ok (some place)) :
    ∃ there, t.locate h.here p = .ok there ∧ place = Path.placeOf there := by
  simp only [place?, ht] at hp
  split at hp
  · cases hp
  · split at hp
    · rename_i there hlocate
      exact ⟨there, hlocate, (Option.some.inj (Except.ok.inj hp)).symm⟩
    · cases hp
    · cases hp
    · cases hp

theorem exists_place {h : Host} {p : Path} {body : FileBody} (hp : h.file? p = .ok (some body)) :
    ∃ place, h.place? p = .ok (some place) ∧ h.files.get? place = some body := by
  rw [file?] at hp
  rcases hplace : h.place? p with e | _ | place <;> rw [hplace] at hp
  · cases hp
  · cases hp
  · exact ⟨place, rfl, Except.ok.inj hp⟩

def Linkless (h : Host) : Prop := ∀ t ∈ h.tree, t.Linkless

theorem place?_concat {h : Host} (hl : h.Linkless) {p : Path} {place : String}
    {parts : List (List Char)} {name : List Char} (hp : h.place? p = .ok (some place))
    (hparts : p.parts = parts ++ [name]) (hname : name ≠ ['.', '.']) :
    ∃ front, place.toList = front ++ '/' :: name := by
  rcases ht : h.tree with _ | t
  · obtain ⟨parts', hjoin⟩ := Path.join_parts_concat (p := h.cwd) hparts
    simp only [place?, ht, Path.place, hjoin, Path.resolveParts_concat _ hname] at hp
    obtain rfl := Option.some.inj (Except.ok.inj hp)
    exact Path.placeOf_concat _ name
  · obtain ⟨there, hlocate, rfl⟩ := place?_eq_some ht hp
    have hfollow := Tree.follow_of_locate hlocate
    rw [hparts] at hfollow
    obtain ⟨here, rfl⟩ := Tree.stretch_concat hname ((hl t ht).stretch_of_follow hfollow)
    exact Path.placeOf_concat here name

/-- The suffix of a path is that of its place, if it has one. -/
theorem suffix_of_place {h : Host} (hl : h.Linkless) {p : Path} {place : String}
    (hsplit : p.Split) (hp : h.place? p = .ok (some place)) :
    p.suffix = "" ∨ p.suffix = (Path.ofString place).suffix := by
  rcases p.suffix_cases with he | ⟨parts, name, hparts, hne, hdot, hdots⟩
  · exact .inl he
  · obtain ⟨front, hfront⟩ := place?_concat hl hp hparts hdots
    have hslash : '/' ∉ name := hsplit name (by simp [hparts])
    refine .inr (Path.suffix_congr ?_)
    rw [hparts, Path.ofString, Path.partsOf, hfront, Path.splitSlashes_append,
      Path.splitSlashes_of_not_mem hslash, List.filter_append]
    simp [hne, hdot]

theorem split_expandHome {h : Host} {p q : Path} (hp : p.Split) (hq : h.expandHome p = .ok q) :
    q.Split := by
  unfold expandHome at hq
  split at hq
  · rename_i user rest _ hparts
    have hrest : ∀ part ∈ rest, '/' ∉ part := fun part hpart =>
      hp part (by rw [hparts]; exact List.mem_cons_of_mem _ hpart)
    split at hq
    · cases hq
    · split at hq
      · obtain rfl := Except.ok.inj hq
        exact hrest
      · cases hq
      · obtain rfl := Except.ok.inj hq
        intro part hpart
        exact (List.mem_append.1 hpart).elim (Path.split_ofString _ part) (hrest part)
  · obtain rfl := Except.ok.inj hq
    exact hp

/-! ## Writing a file -/

/-- The host with a file written, in place of one that may be there. -/
def withFile (h : Host) (place : String) (body : FileBody) : Host :=
  { h with files := h.files.insert place body }

theorem file?_withFile {h : Host} {place : String} {p : Path}
    (hp : h.place? p = .ok (some place)) (body : FileBody) :
    (h.withFile place body).file? p = .ok (some body) := by
  have hplace : (h.withFile place body).place? p = .ok (some place) := hp
  rw [file?, hplace]
  show Except.ok ((h.files.insert place body).get? place) = _
  rw [Table.get?_insert, if_pos rfl]

theorem file?_withFile_of_ne {h : Host} {place : String} {p : Path}
    (hp : h.place? p ≠ .ok (some place)) (body : FileBody) :
    (h.withFile place body).file? p = h.file? p := by
  have hplace : (h.withFile place body).place? p = h.place? p := rfl
  unfold file?
  rw [hplace]
  rcases hq : h.place? p with e | _ | q
  · rfl
  · rfl
  · show Except.ok ((h.files.insert place body).get? q) = .ok (h.files.get? q)
    rw [Table.get?_insert, if_neg]
    rintro rfl
    exact hp hq

end Host

end LayeredConfig
