import LayeredConfig.Proofs.Host.Tree

/-!
# Paths to the same file

On a machine, paths are followed from one directory to the next, so two paths with other letters may
lead to the same file. A path behind the directory of the one leads to where it leads behind the
directory of the other, if they lead to it by the same name in the same directory.

* `Regular`: what a machine has to be like: directories are no files, and home directories are
  absolute. `regular_ofTree` and `Regular.addFile` say that this is so of the hosts that the program
  runs on.
* `Twins`: two paths that lead to the same place, and under the same name in the same directory if
  that is no directory; `Twins.join` says that they stay twins behind the directories of twins.
* `twins_of_place`, `twins_of_entry`: paths to the same file are twins if no symbolic link stands at
  their ends, or if it is the same one.
-/

namespace LayeredConfig

namespace Path

/-- The path does not start with a tilde. -/
def Plain (p : Path) : Prop :=
  p.root = .relative → ∀ part ∈ p.parts.head?, part.head? ≠ some '~'

def HasNull (p : Path) : Prop := ∃ part ∈ p.parts, '\x00' ∈ part

theorem Plain.join {p q : Path} (hp : p.Plain) (hq : q.Plain) : (p.join q).Plain := by
  unfold Path.join
  split
  · exact hq
  · rename_i habsolute
    have hroot : q.root = .relative := by simpa [isAbsolute] using habsolute
    intro hrelative part hpart
    rcases hparts : p.parts with _ | ⟨first, rest⟩
    · rw [hparts] at hpart
      exact hq hroot part hpart
    · rw [hparts] at hpart
      refine hp hrelative part ?_
      rw [hparts]
      exact hpart

theorem Plain.parent {p : Path} (hp : p.Plain) : p.parent.Plain := by
  intro hroot part hpart
  refine hp hroot part ?_
  rcases hparts : p.parts with _ | ⟨first, _ | ⟨second, rest⟩⟩ <;>
    rw [Path.parent, hparts] at hpart
  · exact hpart
  · cases hpart
  · exact hpart

theorem mem_intercalate_iff {parts : List (List Char)} :
    '\x00' ∈ ['/'].intercalate parts ↔ ∃ part ∈ parts, '\x00' ∈ part := by
  induction parts with
  | nil => simp [List.intercalate]
  | cons part parts ih =>
    rcases parts with _ | ⟨part', parts⟩
    · simp [List.intercalate]
    · rw [List.intercalate_cons_cons, List.append_assoc, List.mem_append, List.mem_append, ih]
      simp

theorem mem_toString_iff (p : Path) : '\x00' ∈ p.toString.toList ↔ p.HasNull := by
  unfold Path.toString HasNull
  split
  · rename_i hempty
    simp [hempty.2]
  · rw [String.toList_ofList, List.mem_append, mem_intercalate_iff]
    have hroot : '\x00' ∉ rootText p.root := by cases p.root <;> decide
    simp [hroot]

theorem join_relative (p : Path) {q : Path} (hq : q.isAbsolute = false) :
    p.join q = ⟨p.root, p.parts ++ q.parts⟩ := if_neg (by simp [hq])

theorem join_absolute (p : Path) {q : Path} (hq : q.isAbsolute = true) : p.join q = q := if_pos hq

theorem hasNull_behind {p q : Path} (hq : q.isAbsolute = false) (hp : ¬p.HasNull) :
    (p.parent.join q).HasNull ↔ q.HasNull := by
  rw [join_relative _ hq]
  constructor
  · rintro ⟨part, hpart, hmem⟩
    rcases List.mem_append.1 hpart with hpart | hpart
    · exact absurd ⟨part, (List.dropLast_sublist _).subset hpart, hmem⟩ hp
    · exact ⟨part, hpart, hmem⟩
  · rintro ⟨part, hpart, hmem⟩
    exact ⟨part, List.mem_append_right _ hpart, hmem⟩

theorem parts_of_last {p : Path} {name : List Char} (h : p.parts.getLast? = some name) :
    p.parts = p.parent.parts ++ [name] := by
  obtain ⟨front, hfront⟩ := List.getLast?_eq_some_iff.1 h
  rw [parent, hfront, List.dropLast_concat]

/-- One part more, where double dots take the last one back. -/
def putPart (here : List (List Char)) (part : List Char) : List (List Char) :=
  if part = ['.', '.'] then here.dropLast else here ++ [part]

theorem prefix_putPart {front here : List (List Char)} {part : List Char}
    (h : front <+: putPart here part) : front <+: here ∨ front = putPart here part := by
  unfold putPart at h ⊢
  split at h
  · exact .inl (h.trans (List.dropLast_prefix here))
  · rename_i hdots
    rw [if_neg hdots]
    exact (List.prefix_concat_iff.1 h).symm

theorem exists_take_of_prefix {here parts front : List (List Char)}
    (h : front <+: parts.foldl putPart here) :
    front <+: here ∨ ∃ n ≤ parts.length, front = (parts.take n).foldl putPart here := by
  induction parts generalizing here with
  | nil => exact .inl h
  | cons p ps ih =>
    rcases ih h with hfront | ⟨n, hn, he⟩
    · rcases prefix_putPart hfront with hfront | he
      · exact .inl hfront
      · exact .inr ⟨1, by simp, he⟩
    · exact .inr ⟨n + 1, Nat.succ_le_succ hn, he⟩

theorem exists_resolveParts {parts front : List (List Char)} (h : front <+: resolveParts parts) :
    ∃ n ≤ parts.length, front = resolveParts (parts.take n) := by
  rcases exists_take_of_prefix h with hnil | hfront
  · exact ⟨0, Nat.zero_le _, List.prefix_nil.1 hnil⟩
  · exact hfront

theorem not_mem_foldl_putPart {here parts : List (List Char)} (hhere : ∀ part ∈ here, '/' ∉ part)
    (hparts : ∀ part ∈ parts, '/' ∉ part) : ∀ part ∈ parts.foldl putPart here, '/' ∉ part := by
  induction parts generalizing here with
  | nil => exact hhere
  | cons p ps ih =>
    rw [List.forall_mem_cons] at hparts
    refine ih ?_ hparts.2
    unfold putPart
    split
    · exact fun part hpart => hhere part ((List.dropLast_sublist here).subset hpart)
    · exact List.forall_mem_append.2 ⟨hhere, List.forall_mem_singleton.2 hparts.1⟩

theorem Split.resolveParts {p : Path} (hp : p.Split) :
    ∀ part ∈ Path.resolveParts p.parts, '/' ∉ part :=
  not_mem_foldl_putPart (List.forall_mem_nil _) hp

end Path

namespace Host

/-! ## Machines -/

/-- A machine: paths are followed through its directories, which are no files; the root, the current
directory and those around it are among them, and home directories are absolute. -/
structure Regular (h : Host) (t : Tree) : Prop where
  tree : h.tree = some t
  files : ∀ here, t.isDirectory here = true → h.files.get? (Path.placeOf here) = none
  root : t.isDirectory [] = true
  here : ∀ front, front <+: h.here → t.isDirectory front = true
  cwd : h.cwd.Split
  links : ∀ place target, t.links.get? place = some target → target.Split
  homes : ∀ user dir, h.homeOf user = .ok dir → dir.toList.head? = some '/'

theorem mem_of_lookup {α : Type} {key : String} {value : α} {es : List (String × α)}
    (h : Table.lookup key es = some value) : (key, value) ∈ es := by
  induction es with
  | nil => cases h
  | cons e es ih =>
    rw [Table.lookup] at h
    split at h
    · rename_i hkey
      obtain rfl := Option.some.inj h
      exact hkey ▸ List.mem_cons_self
    · exact List.mem_cons_of_mem _ (ih h)

/-- The host that the program starts with is a machine. -/
theorem regular_ofTree {cwd : Path} (hcwd : cwd.Split) (habsolute : cwd.isAbsolute = true)
    {env : Table String} (hhome : (env.getD "HOME" "/root").toList.head? = some '/') :
    (ofTree cwd env).Regular
      { directories := cwd.place cwd :: cwd.passed cwd ++ standardDirectories } := by
  refine ⟨rfl, fun _ _ => rfl, ?root, ?here, hcwd, nofun, ?homes⟩
  case root =>
    refine List.contains_iff_mem.2 (List.mem_append_right _ ?_)
    exact (by decide : "/" ∈ standardDirectories)
  case here =>
    intro front hfront
    obtain ⟨n, hn, rfl⟩ := Path.exists_resolveParts hfront
    refine List.contains_iff_mem.2 (List.mem_append_left _ ?_)
    have hjoin : cwd.join cwd = cwd := Path.join_absolute cwd habsolute
    rcases Nat.lt_or_eq_of_le hn with hlt | rfl
    · refine List.mem_cons_of_mem _ ?_
      rw [Path.passed, hjoin]
      exact List.mem_map.2 ⟨n, List.mem_range.2 hlt, rfl⟩
    · rw [Path.place, hjoin]
      exact (List.take_length (l := cwd.parts)).symm ▸ List.mem_cons_self
  case homes =>
    intro user dir hdir
    have hall : ∀ e ∈ standardHomes.entries, e.2.toList.head? = some '/' := by decide +kernel
    unfold homeOf at hdir
    split at hdir
    · obtain rfl := Except.ok.inj hdir
      exact hhome
    · split at hdir
      · cases hdir
      · split at hdir
        · cases hdir
        · rename_i dir' hlookup
          obtain rfl := Except.ok.inj hdir
          exact hall _ (mem_of_lookup hlookup)

variable {t : Tree}

theorem Regular.addFile {h : Host} (hreg : h.Regular t) {p : Path}
    (hplace : p.place h.cwd ∉ p.passed h.cwd ++ t.directories)
    (hway : ∀ place ∈ p.passed h.cwd, h.files.get? place = none) (body : FileBody) :
    (h.addFile p body).Regular { t with directories := p.passed h.cwd ++ t.directories } := by
  have hmore : ∀ here, t.isDirectory here = true →
      { t with directories := p.passed h.cwd ++ t.directories }.isDirectory here = true :=
    fun here hhere => List.contains_iff_mem.2
      (List.mem_append_right _ (List.contains_iff_mem.1 hhere))
  refine ⟨?tree, ?files, hmore _ hreg.root, fun front hfront => hmore _ (hreg.here front hfront),
    hreg.cwd, hreg.links, hreg.homes⟩
  case tree =>
    show h.tree.map _ = _
    rw [hreg.tree]
    rfl
  case files =>
    intro here hhere
    have hmem := List.contains_iff_mem.1 hhere
    have hne : p.place h.cwd ≠ Path.placeOf here := by
      intro he
      exact hplace (he ▸ hmem)
    show (h.files.insert (p.place h.cwd) body).get? (Path.placeOf here) = none
    rw [Table.get?_insert, if_neg hne]
    rcases List.mem_append.1 hmem with hway' | hold
    · exact hway _ hway'
    · exact hreg.files here (List.contains_iff_mem.2 hold)

theorem expandHome_of_plain {h : Host} {p : Path} (hp : p.Plain) : h.expandHome p = .ok p := by
  unfold expandHome
  split
  · rename_i user rest hroot hparts
    exact absurd rfl (hp hroot ('~' :: user) (by rw [hparts]; rfl))
  · rfl

theorem dropSlashes_prefix (cs : List Char) : dropSlashes cs <+: cs := by
  rw [dropSlashes, ← List.reverse_suffix, List.reverse_reverse]
  exact List.dropWhile_suffix _

theorem root_of_slash {cs : List Char} (h : cs.head? = some '/') :
    (Path.ofString (String.ofList cs)).root ≠ .relative := by
  obtain ⟨ds, rfl⟩ := List.head?_eq_some_iff.1 h
  rw [Path.ofString, String.toList_ofList]
  show Path.rootOf ('/' :: ds) ≠ .relative
  unfold Path.rootOf
  split
  · decide
  · decide
  · decide
  · rename_i hslash
    exact absurd rfl (hslash ds)

/-- What a path comes to if enough symbolic links may be followed. -/
def Resolves (h : Host) (t : Tree) (p : Path)
    (o : Except PathFault (List (List Char))) : Prop :=
  t.Ends (Tree.start h.here p) p.parts o

/-- The path leads to something that is no directory, by a name in the directory `dir`. -/
structure Found (h : Host) (t : Tree) (p : Path) (dir : List (List Char)) : Prop where
  null : ¬p.HasNull
  name : p.parts.getLast? ≠ none
  there : ∃ there, h.Resolves t p (.ok there) ∧ t.isDirectory there = false
  parent : h.Resolves t p.parent (.ok dir)
  directory : t.isDirectory dir = true

section regular
variable {h : Host} (hreg : h.Regular t)
include hreg

theorem plain_expandHome {p q : Path} (hq : h.expandHome p = .ok q) : q.Plain := by
  unfold expandHome at hq
  split at hq
  · rename_i user rest _ _
    split at hq
    · cases hq
    · rename_i dir hdir
      have hslash := hreg.homes user dir hdir
      split at hq
      · obtain rfl := Except.ok.inj hq
        nofun
      · cases hq
      · rename_i hne _
        obtain rfl := Except.ok.inj hq
        have hhead : (dropSlashes dir.toList).head? = some '/' := by
          obtain ⟨slashes, hsplit⟩ := dropSlashes_prefix dir.toList
          obtain ⟨c, cs, hcs⟩ := List.exists_cons_of_ne_nil hne
          rw [← hsplit, hcs] at hslash
          rw [hcs]
          exact hslash
        intro hroot
        dsimp only at hroot
        exact absurd hroot (root_of_slash hhead)
  · rename_i hother
    obtain rfl := Except.ok.inj hq
    intro hroot part hpart htilde
    obtain ⟨rest, hparts⟩ := List.head?_eq_some_iff.1 hpart
    obtain ⟨user, rfl⟩ := List.head?_eq_some_iff.1 htilde
    exact hother user rest hroot hparts

theorem place?_of_null {p : Path} (hp : p.HasNull) : h.place? p = .ok none := by
  simp only [place?, hreg.tree]
  exact if_pos (List.contains_iff_mem.2 ((Path.mem_toString_iff p).2 hp))

theorem place?_of_not_null {p : Path} (hp : ¬p.HasNull) : h.place? p =
    match t.locate h.here p with
    | .ok there => .ok (some (Path.placeOf there))
    | .error .tooLong => .error .nameTooLong
    | .error .closed => .error .noPermission
    | .error _ => .ok none := by
  simp only [place?, hreg.tree]
  exact if_neg fun hnull => hp ((Path.mem_toString_iff p).1 (List.contains_iff_mem.1 hnull))

theorem not_hasNull_of_place {p : Path} {place : String} (hp : h.place? p = .ok (some place)) :
    ¬p.HasNull := fun hnull => by
  rw [place?_of_null hreg hnull] at hp
  cases hp

theorem resolves_of_place {p : Path} {place : String} (hp : h.place? p = .ok (some place)) :
    ∃ there, t.follow Tree.maxLinks (Tree.start h.here p) p.parts = .ok there ∧
      h.Resolves t p (.ok there) ∧ place = Path.placeOf there := by
  obtain ⟨there, hlocate, hplace⟩ := place?_eq_some hreg.tree hp
  have hfollow := Tree.follow_of_locate hlocate
  exact ⟨there, hfollow, Tree.ends_of_follow hfollow nofun, hplace⟩

theorem exists_found {p : Path} {body : FileBody} (hp : h.file? p = .ok (some body)) :
    ∃ dir, h.Found t p dir := by
  obtain ⟨place, hplace, hbody⟩ := exists_place hp
  obtain ⟨there, hfollow, hthere, rfl⟩ := resolves_of_place hreg hplace
  have hout : t.isDirectory there = false := by
    cases hin : t.isDirectory there with
    | false => rfl
    | true =>
      rw [hreg.files there hin] at hbody
      cases hbody
  rcases hlast : p.parts.getLast? with _ | name
  · -- a path with nothing in it leads to a directory
    rw [List.getLast?_eq_none_iff.1 hlast] at hfollow
    obtain rfl := Except.ok.inj hfollow
    have hstart : t.isDirectory (Tree.start h.here p) = true := by
      unfold Tree.start
      split
      · exact hreg.root
      · exact hreg.here _ (List.prefix_refl _)
    rw [hstart] at hout
    cases hout
  · rw [Path.parts_of_last hlast] at hfollow
    obtain ⟨dir, left, hparent, hdir, -⟩ := Tree.follow_concat hfollow
    exact ⟨dir, not_hasNull_of_place hreg hplace, by rw [hlast]; nofun, ⟨there, hthere, hout⟩,
      Tree.ends_of_follow hparent nofun, hdir⟩

end regular

/-! ## Twins -/

/-- Two paths that lead to the same place; if that is no directory, then under the same name in the
same directory. Their texts may be of different lengths, and so many symbolic links on the way of
the one need not be on that of the other. -/
structure Twins (h : Host) (t : Tree) (p p' : Path) : Prop where
  plain : p.Plain
  plain' : p'.Plain
  null : p.HasNull ↔ p'.HasNull
  resolves : ∀ o, h.Resolves t p o ↔ h.Resolves t p' o
  entry : ∀ there, h.Resolves t p (.ok there) → t.isDirectory there = false →
    p.parts.getLast? = p'.parts.getLast? ∧
      ∀ o, h.Resolves t p.parent o ↔ h.Resolves t p'.parent o

theorem Twins.refl {h : Host} {p : Path} (hp : p.Plain) : h.Twins t p p :=
  ⟨hp, hp, Iff.rfl, fun _ => Iff.rfl, fun _ _ _ => ⟨rfl, fun _ => Iff.rfl⟩⟩

theorem Twins.trans {h : Host} {p p' p'' : Path} (hp : h.Twins t p p') (hp' : h.Twins t p' p'') :
    h.Twins t p p'' := by
  refine ⟨hp.plain, hp'.plain', hp.null.trans hp'.null,
    fun o => (hp.resolves o).trans (hp'.resolves o), fun there hthere hout => ?_⟩
  obtain ⟨hname, hparent⟩ := hp.entry there hthere hout
  obtain ⟨hname', hparent'⟩ := hp'.entry there ((hp.resolves _).1 hthere) hout
  exact ⟨hname.trans hname', fun o => (hparent o).trans (hparent' o)⟩

theorem resolves_congr {h : Host} {p p' : Path} {dir : List (List Char)}
    (hp : h.Resolves t p (.ok dir)) (hp' : h.Resolves t p' (.ok dir))
    (o : Except PathFault (List (List Char))) : h.Resolves t p o ↔ h.Resolves t p' o :=
  ⟨fun ho => hp.unique ho ▸ hp', fun ho => hp'.unique ho ▸ hp⟩

theorem resolves_concat {h : Host} {p : Path} {name : List Char} {dir : List (List Char)}
    (hlast : p.parts.getLast? = some name) (hp : h.Resolves t p.parent (.ok dir))
    (o : Except PathFault (List (List Char))) : h.Resolves t p o ↔ t.Ends dir [name] o := by
  rw [Resolves, Path.parts_of_last hlast]
  exact Tree.ends_append hp [name]

theorem resolves_join {h : Host} {p q : Path} {dir : List (List Char)}
    (hq : q.isAbsolute = false) (hp : h.Resolves t p (.ok dir))
    (o : Except PathFault (List (List Char))) :
    h.Resolves t (p.join q) o ↔ t.Ends dir q.parts o := by
  rw [Path.join_relative p hq]
  exact Tree.ends_append hp q.parts

theorem Twins.join {h : Host} {p p' : Path} (hp : h.Twins t p p') {dir dir' : List (List Char)}
    (hfound : h.Found t p dir) (hfound' : h.Found t p' dir') {q : Path} (hq : q.Plain) :
    h.Twins t (p.parent.join q) (p'.parent.join q) := by
  cases habsolute : q.isAbsolute with
  | true =>
    rw [Path.join_absolute _ habsolute, Path.join_absolute _ habsolute]
    exact .refl hq
  | false =>
    obtain ⟨there, hthere, hout⟩ := hfound.there
    have hparent : h.Resolves t p'.parent (.ok dir) :=
      ((hp.entry there hthere hout).2 _).1 hfound.parent
    have hbehind : ∀ {q : Path}, q.isAbsolute = false → ∀ o,
        h.Resolves t (p.parent.join q) o ↔ h.Resolves t (p'.parent.join q) o := fun hq o =>
      (resolves_join hq hfound.parent o).trans (resolves_join hq hparent o).symm
    refine ⟨hp.plain.parent.join hq, hp.plain'.parent.join hq,
      (Path.hasNull_behind habsolute hfound.null).trans
        (Path.hasNull_behind habsolute hfound'.null).symm,
      hbehind habsolute, fun there hthere hout => ?_⟩
    -- the path goes on behind the directory, which is no file
    have hne : q.parts ≠ [] := by
      intro hnil
      rw [resolves_join habsolute hfound.parent, hnil] at hthere
      obtain rfl := Except.ok.inj (hthere.unique ⟨0, fun more _ => by cases more <;> rfl⟩)
      rw [hfound.directory] at hout
      cases hout
    have hlast : ∀ d : Path, (d.join q).parts.getLast? = q.parts.getLast? := by
      intro d
      rw [Path.join_relative _ habsolute, List.getLast?_append, List.getLast?_eq_some_getLast hne]
      rfl
    have hfront : ∀ d : Path, (d.join q).parent = d.join q.parent := by
      intro d
      rw [Path.join_relative _ habsolute, Path.join_relative d (q := q.parent) habsolute,
        Path.parent, Path.parent, List.dropLast_append_of_ne_nil hne]
    refine ⟨(hlast _).trans (hlast _).symm, fun o => ?_⟩
    rw [hfront, hfront]
    exact hbehind (q := q.parent) habsolute o

section regular
variable {h : Host} (hreg : h.Regular t) {p p' : Path}
include hreg

/-- What one of two twins leads to, the other does too, unless it is too long or there are too many
symbolic links on its way. -/
theorem Twins.file?_eq (hp : h.Twins t p p') {found : Option FileBody}
    (hfound : h.file? p = .ok found) (hmany : t.locate h.here p ≠ .error .manyLinks) :
    h.file? p' = .ok found ∨ h.file? p' = .error .nameTooLong ∨
      t.locate h.here p' = .error .manyLinks := by
  by_cases hnull : p.HasNull
  · rw [file?, place?_of_null hreg hnull] at hfound
    rw [file?, place?_of_null hreg (hp.null.1 hnull)]
    exact .inl hfound
  have hnull' : ¬p'.HasNull := mt hp.null.2 hnull
  rw [file?, place?_of_not_null hreg hnull] at hfound
  rw [file?, place?_of_not_null hreg hnull']
  by_cases hlong : p'.toString.utf8ByteSize > Tree.maxPathBytes
  · rw [Tree.locate, if_pos hlong]
    exact .inr (.inl rfl)
  have hlocate' : t.locate h.here p' =
      t.follow Tree.maxLinks (Tree.start h.here p') p'.parts := if_neg hlong
  by_cases hlong' : p.toString.utf8ByteSize > Tree.maxPathBytes
  · rw [Tree.locate, if_pos hlong'] at hfound
    cases hfound
  have hlocate : t.locate h.here p =
      t.follow Tree.maxLinks (Tree.start h.here p) p.parts := if_neg hlong'
  have hends := (hp.resolves _).1 (Tree.ends_of_follow hlocate.symm hmany)
  rcases hends.follow Tree.maxLinks with he | he
  · rw [hlocate', he]
    exact .inl hfound
  · exact .inr (.inr (hlocate'.trans he))

theorem Twins.suffix_eq (hp : h.Twins t p p') {body : FileBody}
    (hbody : h.file? p = .ok (some body)) : p.suffix = p'.suffix := by
  obtain ⟨dir, hfound⟩ := exists_found hreg hbody
  obtain ⟨there, hthere, hout⟩ := hfound.there
  exact Path.suffix_congr (hp.entry there hthere hout).1

end regular

/-! ## The same file -/

def SameEntry (h : Host) (t : Tree) (p p' : Path) : Prop :=
  p.parts.getLast? = p'.parts.getLast? ∧
    ∃ dir, h.Resolves t p.parent (.ok dir) ∧ h.Resolves t p'.parent (.ok dir)

def Direct (h : Host) (t : Tree) (p : Path) : Prop :=
  ∀ dir name, h.Resolves t p.parent (.ok dir) → p.parts.getLast? = some name →
    t.links.get? (Path.placeOf (dir ++ [name])) = none

theorem placeOf_injective {here here' : List (List Char)} {name name' : List Char}
    (hhere : ∀ part ∈ here ++ [name], '/' ∉ part) (hhere' : ∀ part ∈ here' ++ [name'], '/' ∉ part)
    (h : Path.placeOf (here ++ [name]) = Path.placeOf (here' ++ [name'])) :
    here = here' ∧ name = name' := by
  have htext := (List.cons.inj (String.ofList_injective h)).2
  have hparts := congrArg (List.splitOn '/') htext
  rw [List.splitOn_intercalate '/' hhere (List.concat_ne_nil name here),
    List.splitOn_intercalate '/' hhere' (List.concat_ne_nil name' here')] at hparts
  exact List.append_inj' hparts rfl |>.imp_right fun he => (List.cons.inj he).1

section regular
variable {h : Host} (hreg : h.Regular t) {p p' : Path} {place : String}
include hreg

theorem twins_of_entry (hp : p.Plain) (hp' : p'.Plain) (hplace : h.place? p = .ok (some place))
    (hplace' : h.place? p' = .ok (some place)) (hentry : h.SameEntry t p p') :
    h.Twins t p p' := by
  obtain ⟨hlast, dir, hparent, hparent'⟩ := hentry
  refine ⟨hp, hp', iff_of_false (not_hasNull_of_place hreg hplace)
    (not_hasNull_of_place hreg hplace'), fun o => ?_,
    fun _ _ _ => ⟨hlast, resolves_congr hparent hparent'⟩⟩
  rcases hname : p.parts.getLast? with _ | name
  · have hself : ∀ {q : Path}, q.parts.getLast? = none → q.parent = q := by
      rintro ⟨root, parts⟩ hq
      obtain rfl := List.getLast?_eq_none_iff.1 hq
      rfl
    rw [hself hname] at hparent
    rw [hself (hlast ▸ hname)] at hparent'
    exact resolves_congr hparent hparent' o
  · rw [resolves_concat hname hparent, resolves_concat (hlast ▸ hname) hparent']

/-- Where no symbolic link stands at the end, the place of a file is a name in a directory. -/
theorem exists_entry (hsplit : p.Split) (hdirect : h.Direct t p)
    (hplace : h.place? p = .ok (some place)) {body : FileBody}
    (hbody : h.file? p = .ok (some body)) :
    ∃ dir name, h.Resolves t p.parent (.ok dir) ∧ p.parts.getLast? = some name ∧
      place = Path.placeOf (dir ++ [name]) ∧ ∀ part ∈ dir ++ [name], '/' ∉ part := by
  obtain ⟨dir, hfound⟩ := exists_found hreg hbody
  obtain ⟨there, hthere, hout⟩ := hfound.there
  obtain ⟨there', hfollow, hthere', rfl⟩ := resolves_of_place hreg hplace
  obtain rfl := Except.ok.inj (hthere'.unique hthere)
  have hclosed : t.Closed (Tree.start h.here p) := by
    unfold Tree.start
    split
    · exact Tree.closed_nil
    · exact fun front hfront _ => hreg.here front hfront
  have hhere : ∀ part ∈ Tree.start h.here p, '/' ∉ part := by
    unfold Tree.start
    split
    · exact List.forall_mem_nil _
    · exact hreg.cwd.resolveParts
  have hparts : ∀ part ∈ there', '/' ∉ part := by
    refine Tree.follow_induction (P := fun there => ∀ part ∈ there, '/' ∉ part)
      (List.forall_mem_nil _) (fun dir hdir part hpart => ?_) (fun dir name _ hdir hname => ?_)
      hreg.links hhere hsplit hfollow
    · exact hdir part ((List.dropLast_sublist dir).subset hpart)
    · exact List.forall_mem_append.2 ⟨hdir, List.forall_mem_singleton.2 hname⟩
  rcases hlast : p.parts.getLast? with _ | name
  · exact absurd hlast hfound.name
  · rw [Path.parts_of_last hlast] at hfollow
    obtain ⟨dir', left, hparent, hdir, hstep⟩ := Tree.follow_concat hfollow
    obtain rfl := Except.ok.inj
      ((Tree.ends_of_follow hparent nofun).unique hfound.parent)
    rcases Tree.follow_name hstep (hdirect _ _ hfound.parent hlast) with rfl | rfl
    · rw [(hclosed.follow hparent).isDirectory_dropLast hdir] at hout
      cases hout
    · exact ⟨_, name, hfound.parent, rfl, rfl, hparts⟩

/-- **Paths to the same file are twins.** -/
theorem twins_of_place (hp : p.Plain) (hp' : p'.Plain) (hsplit : p.Split) (hsplit' : p'.Split)
    (hdirect : h.Direct t p) (hdirect' : h.Direct t p') {body : FileBody}
    (hbody : h.file? p = .ok (some body)) (hplace : h.place? p = .ok (some place))
    (hplace' : h.place? p' = .ok (some place)) : h.Twins t p p' := by
  have hbody' : h.file? p' = .ok (some body) := by
    rw [file?, hplace', ← hplace]
    exact hbody
  obtain ⟨dir, name, hparent, hlast, he, hparts⟩ := exists_entry hreg hsplit hdirect hplace hbody
  obtain ⟨dir', name', hparent', hlast', he', hparts'⟩ :=
    exists_entry hreg hsplit' hdirect' hplace' hbody'
  -- places are texts; the names that they are made of hold no slashes, so they can be compared
  obtain ⟨rfl, rfl⟩ := placeOf_injective hparts hparts' (he.symm.trans he')
  exact twins_of_entry hreg hp hp' hplace hplace'
    ⟨hlast.trans hlast'.symm, dir, hparent, hparent'⟩

end regular

end Host

end LayeredConfig
