import Mathlib.Logic.Relation
import LayeredConfig.Proofs.Overlay.Repetition
import LayeredConfig.Proofs.Rc.Command

/-!
# Files that source one another in a circle

Reading a file that leads into a circle goes round and round: each time a file is reached, it leads
on to the next one, unless a fault comes before. The only faults on the way are that levels run out,
and that paths, which grow with every round, get too long. With every round there may also be more
symbolic links on the way of a path, and when there are too many of them reading goes on as if there
were no file.

* `Leads`: reading a file comes to a statement that sources another one.
* `givesOut_of_closed`: files that lead to one another without end are not read to their ends.
* `inclusion_bounded`: how deeply files are nested, and when this is reported.
* `circle`: a file that sources itself with as many detours as wanted.
-/

namespace LayeredConfig.Overlay

open Document (Format)
open Relation (ReflTransGen TransGen)

variable {h : Host} {t : Tree}

/-! ## From one file to the next -/

/-- Laying the file at `path` over values comes in the state `s'` to a statement that sources the
target, and no path that is read before strays; the path leads to `q`. -/
structure Approaches (r : Reader) (h : Host) (t : Tree) (levels : Nat) (path : Path) (s : State)
    (q : Path) (target : List Char) (s' : State) : Prop where
  comes : ∃ cs before st after, Opens h path q cs ∧ Rc.statements cs = before ++ st :: after ∧
    runStatements (sourcing r h levels) r h q before (s.note (.overlayRead q.toString)) =
      (.ok (), s') ∧
    ¬StatementsStray r h t levels q before (s.note (.overlayRead q.toString)) ∧
    Includes r st target
  format : Format.ofSuffix? q.suffix = none

/-- From some values, and with some number of levels, reading the file at `path` comes to a
statement that sources the file at `path'`. -/
def Leads (r : Reader) (h : Host) (t : Tree) (path path' : Path) : Prop :=
  ∃ levels s q target s' included, Approaches r h t levels path s q target s' ∧
    h.expandHome (Path.ofString (String.ofList target)) = .ok included ∧
    path' = q.parent.join included

def Exhausts {α : Type} (a : Except Fault α) : Prop := ∃ e, a = .error e ∧ Exhausted e

theorem Includes.runStatement_eq {readFile : Option (Path → State → Outcome Bool)} {r : Reader}
    {st : Rc.Statement} {target : List Char} (hst : Includes r st target) (path : Path)
    (s : State) : runStatement readFile r h path st s =
      source readFile r h path st.startLine (String.ofList target) s := by
  simp only [runStatement, hst.command, hst.target]

theorem exhausts_source {r : Reader} (hallow : r.allowSource = true) (path : Path) (line : Nat)
    (target : String) (s : State) :
    Exhausts (source (sourcing r h 0) r h path line target s).1 := by
  refine ⟨.file path.toString line .nestedTooDeep, ?_, .inl ⟨_, _, rfl⟩⟩
  simp [source, sourcing, hallow]

theorem source_error {r : Reader} {path included : Path} {target : String} {levels : Nat}
    {e : Fault} (hallow : r.allowSource = true)
    (hincluded : h.expandHome (Path.ofString target) = .ok included) (line : Nat) {s : State}
    (he : (readFile r h levels (path.parent.join included) s).1 = .error e) :
    (source (sourcing r h (levels + 1)) r h path line target s).1 = .error e := by
  rcases hr : readFile r h levels (path.parent.join included) s with ⟨e' | found, t⟩ <;>
    rw [hr] at he
  · simp [source, sourcing, hallow, hincluded, hr, ← Except.error.inj he]
  · cases he

section text
variable {r : Reader} {path q : Path} {cs : List Char} (hq : Opens h path q cs)
  (hformat : Format.ofSuffix? q.suffix = none) {levels : Nat} {s : State} {e : Fault}
include hq hformat

theorem readFile_error {front after : List Rc.Statement} (hsts : Rc.statements cs = front ++ after)
    (he : (runStatements (sourcing r h levels) r h q front
      (s.note (.overlayRead q.toString))).1 = .error e) :
    (readFile r h levels path s).1 = .error e := by
  rw [readFile_text hq hformat, runText, hsts, runStatements_append]
  rcases hrun : runStatements (sourcing r h levels) r h q front
    (s.note (.overlayRead q.toString)) with ⟨e' | _, t⟩ <;> rw [hrun] at he
  · obtain rfl := Except.error.inj he
    rfl
  · cases he

theorem readFile_error_of_source {before after : List Rc.Statement} {st : Rc.Statement}
    {target : List Char} {t : State} (hsts : Rc.statements cs = before ++ st :: after)
    (hrun : runStatements (sourcing r h levels) r h q before
      (s.note (.overlayRead q.toString)) = (.ok (), t)) (hst : Includes r st target)
    (he : (source (sourcing r h levels) r h q st.startLine (String.ofList target) t).1 =
      .error e) : (readFile r h levels path s).1 = .error e := by
  refine readFile_error hq hformat (hsts.trans (List.append_cons before st after)) ?_
  rw [runStatements_append, hrun]
  dsimp only
  rw [runStatements, hst.runStatement_eq]
  rcases hsource : source (sourcing r h levels) r h q st.startLine (String.ofList target) t
    with ⟨e' | _, t'⟩ <;> rw [hsource] at he
  · exact he
  · cases he

end text

/-- Reading the file runs out of levels or bytes, or comes to a path that strays. -/
def GivesOut (r : Reader) (h : Host) (t : Tree) (levels : Nat) (path : Path) (s : State) : Prop :=
  Exhausts (readFile r h levels path s).1 ∨ Strays r h t levels path s

section regular
variable (hreg : h.Regular t) {r : Reader}
include hreg

theorem leads_again {p p' p₁ : Path} (hleads : Leads r h t p p₁) (hakin : Akin h t p p')
    (levels : Nat) (s : State) :
    GivesOut r h t levels p' s ∨ ∃ n p₁' u, levels = n + 1 ∧ Akin h t p₁ p₁' ∧
      (GivesOut r h t n p₁' u → GivesOut r h t levels p' s) := by
  obtain ⟨m, s₀, q, target, s₁, included,
    ⟨⟨cs, before, st, after, hq, hsts, hrun, hstay, hst⟩, hformat⟩, hincluded, rfl⟩ := hleads
  obtain ⟨body, hfile, hbody⟩ := hq.text
  obtain ⟨q', hhome', htwins⟩ := hakin q hq.home
  have hmany : t.locate h.here q ≠ .error .manyLinks := by
    intro hmany
    obtain ⟨place, hplace, -⟩ := Host.exists_place hfile
    obtain ⟨there, hlocate, -⟩ := Host.place?_eq_some hreg.tree hplace
    rw [hlocate] at hmany
    cases hmany
  rcases htwins.file?_eq hreg hfile hmany with hfile' | hlong | hmany'
  · have hbeside := beside_of_file hreg htwins hfile hfile'
    have hformat' : Format.ofSuffix? q'.suffix = none := by
      rw [← htwins.suffix_eq hreg hfile]
      exact hformat
    have hq' : Opens h p' q' cs := ⟨hhome', body, hfile', hbody⟩
    have hrepeats : ∀ n k, m = n + 1 → levels = k + 1 → Repeats r h t n k :=
      fun n k _ _ => repeats hreg r n k
    rcases runStatements_again hreg hrepeats hbeside (.of_ok hrun) hstay
      (s.note (.overlayRead q'.toString)) with hagain | hstrays
    · rcases hrun' : runStatements (sourcing r h levels) r h q' before
        (s.note (.overlayRead q'.toString)) with ⟨e | _, u⟩
      · rw [hrun'] at hagain
        exact .inl (.inl ⟨e, readFile_error hq' hformat' hsts (by rw [hrun']), hagain e rfl⟩)
      rcases levels with _ | n
      · obtain ⟨e, he, hexhausted⟩ :=
          exhausts_source hst.allowed q' st.startLine (String.ofList target) u
        exact .inl (.inl
          ⟨e, readFile_error_of_source hq' hformat' hsts hrun' hst he, hexhausted⟩)
      · refine .inr ⟨n, q'.parent.join included, u, rfl, ?_, ?_⟩
        · exact akin_of_twins (hbeside included (Host.plain_expandHome hreg hincluded))
        · rintro (⟨e, he, hexhausted⟩ | hstrays)
          · exact .inl ⟨e, readFile_error_of_source hq' hformat' hsts hrun' hst
              (source_error hst.allowed hincluded st.startLine he), hexhausted⟩
          · exact .inr (strays_of_statements hq' hformat'
              ⟨target, u, ⟨before, st, after, hsts, hrun', hst⟩, n, included, rfl, hincluded,
                hstrays⟩)
    · have hmore := hstrays.append (st :: after)
      rw [← hsts] at hmore
      exact .inl (.inr (strays_of_statements hq' hformat' hmore))
  · refine .inl (.inl ⟨.failure .nameTooLong, ?_, .inr rfl⟩)
    simp only [readFile_eq, mergeFile, hhome', hlong]
  · exact .inl (.inr (strays_of_winding ⟨q', hhome', hmany'⟩ s))

/-- Files that lead to one another without end run out of levels or bytes, or a path strays. -/
theorem givesOut_of_closed {S : Path → Prop}
    (hclosed : ∀ p, S p → ∃ p₁ p₂, Leads r h t p p₁ ∧ S p₂ ∧ Akin h t p₂ p₁) (levels : Nat)
    {p p' : Path} (hp : S p) (hakin : Akin h t p p') (s : State) :
    GivesOut r h t levels p' s := by
  -- every level leads on to a file of the set, up to its path; at level zero there is no way on
  induction levels generalizing p p' s with
  | zero =>
    obtain ⟨p₁, p₂, hleads, -, -⟩ := hclosed p hp
    rcases leads_again hreg hleads hakin 0 s with h | ⟨n, p₁', u, hn, -, -⟩
    · exact h
    · cases hn
  | succ n ih =>
    obtain ⟨p₁, p₂, hleads, hp₂, hakin₂⟩ := hclosed p hp
    rcases leads_again hreg hleads hakin (n + 1) s with h | ⟨m, p₁', u, hm, hakin₁, hout⟩
    · exact h
    · obtain rfl := Nat.succ.inj hm
      exact hout (ih hp₂ (hakin₂.trans hakin₁) u)

end regular

/-! ## Circles -/

/-- With their tildes replaced, the two paths lead to the same file: by the same name in the same
directory, or no symbolic link stands at the end of either. -/
def SameFile (h : Host) (t : Tree) (p p' : Path) : Prop :=
  ∃ q q' place, h.expandHome p = .ok q ∧ h.expandHome p' = .ok q' ∧
    h.place? q = .ok (some place) ∧ h.place? q' = .ok (some place) ∧
    (h.SameEntry t q q' ∨ h.Direct t q ∧ h.Direct t q')

theorem Leads.split {r : Reader} {p p' : Path} (hleads : Leads r h t p p') (hp : p.Split) :
    p'.Split := by
  obtain ⟨levels, s, q, target, s', included, ⟨⟨cs, before, st, after, hq, -⟩, -⟩, hincluded,
    rfl⟩ := hleads
  exact (Host.split_expandHome hp hq.home).parent.join
    (Host.split_expandHome (Path.split_ofString _) hincluded)

theorem split_of_leads {r : Reader} {p p' : Path} (hleads : ReflTransGen (Leads r h t) p p')
    (hp : p.Split) : p'.Split := by
  induction hleads with
  | refl => exact hp
  | tail _ hstep ih => exact hstep.split ih

section regular
variable (hreg : h.Regular t) {r : Reader}
include hreg

theorem akin_of_sameFile {p p' p₁ : Path} (hsame : SameFile h t p p') (hp : p.Split)
    (hp' : p'.Split) (hleads : Leads r h t p p₁) : Akin h t p p' := by
  obtain ⟨q, q', place, hhome, hhome', hplace, hplace', hentry⟩ := hsame
  obtain ⟨levels, s, q₁, target, s', included, ⟨⟨cs, before, st, after, hq, -⟩, -⟩, -⟩ := hleads
  obtain ⟨body, hbody, -⟩ := hq.text
  obtain rfl := Except.ok.inj (hhome.symm.trans hq.home)
  have hplain := Host.plain_expandHome hreg hhome
  have hplain' := Host.plain_expandHome hreg hhome'
  intro q₂ hq₂
  obtain rfl := Except.ok.inj (hhome.symm.trans hq₂)
  refine ⟨q', hhome', ?_⟩
  rcases hentry with hentry | ⟨hdirect, hdirect'⟩
  · exact Host.twins_of_entry hreg hplain hplain' hplace hplace' hentry
  · exact Host.twins_of_place hreg hplain hplain' (Host.split_expandHome hp hhome)
      (Host.split_expandHome hp' hhome') hdirect hdirect' hbody hplace hplace'

theorem givesOut_of_circle {path p p' : Path} (hpath : path.Split)
    (hstart : ReflTransGen (Leads r h t) path p) (hcircle : TransGen (Leads r h t) p p')
    (hsame : SameFile h t p p') (levels : Nat) (s : State) : GivesOut r h t levels path s := by
  have hsplit := split_of_leads hstart hpath
  have hakin : Akin h t p p' := by
    obtain ⟨p₁, hleads, -⟩ := TransGen.head'_iff.1 hcircle
    exact akin_of_sameFile hreg hsame hsplit (split_of_leads hcircle.to_reflTransGen hsplit) hleads
  -- the files from which the circle is reached lead to one another without end
  refine givesOut_of_closed hreg (S := fun x => TransGen (Leads r h t) x p') ?_ levels
    (TransGen.trans_right hstart hcircle) (akin_refl hreg path) s
  intro x hx
  obtain ⟨x₁, hleads, hrest⟩ := TransGen.head'_iff.1 hx
  rcases ReflTransGen.cases_head hrest with rfl | ⟨x₂, hleads₂, hrest₂⟩
  · exact ⟨x₁, p, hleads, hcircle, hakin⟩
  · exact ⟨x₁, x₁, hleads, TransGen.head' hleads₂ hrest₂, akin_refl hreg x₁⟩

end regular

/-! ## A file that sources itself -/

def detour : Nat → List (List Char)
  | 0 => []
  | n + 1 => ['d'] :: ['.', '.'] :: detour n

def detourName : Nat → List Char
  | 0 => ['r', 'c']
  | n + 1 => 'd' :: '/' :: '.' :: '.' :: '/' :: detourName n

def roundabout (n : Nat) : Path := ⟨.relative, detour n ++ [['r', 'c']]⟩

def circleTree : Tree where
  directories := ["/", "/d"]

/-- A host with a file that sources itself with so many detours. -/
def circle (n : Nat) : Host where
  files := Table.ofList
    [("/rc", .bytes (String.ofList (Rc.sourceLine (detourName n))).toUTF8.toList)]
  tree := some circleTree
  homes := Table.empty

theorem regular_circle (n : Nat) : (circle n).Regular circleTree := by
  have hroot : circleTree.isDirectory [] = true := by decide
  refine ⟨rfl, ?files, hroot, ?here, nofun, nofun, ?homes⟩
  case files =>
    intro here hhere
    have hplace := List.contains_iff_mem.1 hhere
    simp only [circleTree, List.mem_cons, List.not_mem_nil, or_false] at hplace
    rcases hplace with h | h <;> rw [h] <;> rfl
  case here =>
    intro front hfront
    rw [List.prefix_nil.1 hfront]
    exact hroot
  case homes =>
    intro user dir hdir
    unfold Host.homeOf at hdir
    split at hdir
    · obtain rfl := Except.ok.inj hdir
      show "/root".toList.head? = some '/'
      decide
    · split at hdir <;> cases hdir

theorem detour_add (m n : Nat) : detour m ++ detour n = detour (m + n) := by
  induction m with
  | zero => rw [Nat.zero_add, detour, List.nil_append]
  | succ m ih => rw [Nat.succ_add, detour, detour, ← ih, List.cons_append, List.cons_append]

theorem mem_detourName {c : Char} {n : Nat} (hc : c ∈ detourName n) :
    c ∈ ['d', '/', '.', 'r', 'c'] := by
  induction n with
  | zero => exact (by decide : detourName 0 ⊆ ['d', '/', '.', 'r', 'c']) hc
  | succ n ih =>
    have hcons : c ∈ ['d', '/', '.', '.', '/'] ∨ c ∈ detourName n := List.mem_append.1 hc
    rcases hcons with hc | hc
    · exact (by decide : ['d', '/', '.', '.', '/'] ⊆ ['d', '/', '.', 'r', 'c']) hc
    · exact ih hc

theorem plainWord_detourName (n : Nat) : Rc.PlainWord (detourName n) := by
  have hplain : ∀ c ∈ ['d', '/', '.', 'r', 'c'], c ≠ '=' ∧ Text.isSpace c = false ∧
      Rc.placeAfter? c = none := by
    simp only [List.forall_mem_cons]
    exact ⟨by decide, by decide, by decide, by decide, by decide, nofun⟩
  refine ⟨by cases n <;> nofun, fun hsign => ?_, fun c hc => (hplain c (mem_detourName hc)).2⟩
  exact (hplain _ (mem_detourName (List.mem_of_mem_head? hsign))).1 rfl

theorem utf8ByteSize_detourName (n : Nat) :
    (String.ofList (detourName n)).utf8ByteSize = 5 * n + 2 := by
  induction n with
  | zero => rfl
  | succ n ih =>
    have hsize : Char.utf8Size 'd' = 1 ∧ Char.utf8Size '/' = 1 ∧ Char.utf8Size '.' = 1 := by decide
    simp only [detourName, String.ofList_cons, String.utf8ByteSize_append,
      String.utf8ByteSize_singleton, hsize, ih]
    omega

theorem ofString_detourName (n : Nat) :
    Path.ofString (String.ofList (detourName n)) = roundabout n := by
  have hparts : Path.partsOf (detourName n) = detour n ++ [['r', 'c']] := by
    induction n with
    | zero => rfl
    | succ n ih =>
      have hsplit : Path.splitSlashes (detourName (n + 1)) =
          ['d'] :: ['.', '.'] :: Path.splitSlashes (detourName n) := rfl
      rw [Path.partsOf, hsplit]
      exact congrArg (['d'] :: ['.', '.'] :: ·) ih
  have hroot : Path.rootOf (detourName n) = .relative := by cases n <;> rfl
  rw [Path.ofString, String.toList_ofList, hroot, hparts, roundabout]

theorem toString_roundabout (n : Nat) :
    (roundabout n).toString = String.ofList (detourName n) := by
  have hjoin : ['/'].intercalate (detour n ++ [['r', 'c']]) = detourName n := by
    induction n with
    | zero => rfl
    | succ n ih =>
      have hcons : ['/'].intercalate (detour (n + 1) ++ [['r', 'c']]) =
          'd' :: '/' :: '.' :: '.' :: '/' :: ['/'].intercalate (detour n ++ [['r', 'c']]) := by
        cases n <;> rfl
      rw [hcons, ih, detourName]
  rw [Path.toString, if_neg (by simp [roundabout]), roundabout, hjoin]
  rfl

theorem suffix_roundabout (n : Nat) : (roundabout n).suffix = "" := by
  have hlast : (roundabout n).parts.getLast? = (Path.ofString "rc").parts.getLast? :=
    List.getLast?_concat
  rw [Path.suffix_congr hlast]
  decide

theorem join_roundabout (m n : Nat) :
    (roundabout m).parent.join (roundabout n) = roundabout (m + n) := by
  rw [Path.join_relative _ rfl]
  simp [roundabout, Path.parent, ← detour_add]

section circle
variable (n m : Nat)

theorem expandHome_roundabout : (circle n).expandHome (roundabout m) = .ok (roundabout m) := by
  cases m <;> rfl

theorem place?_roundabout : (circle n).place? (roundabout m) =
    if 5 * m + 2 > Tree.maxPathBytes then .error .nameTooLong else .ok (some "/rc") := by
  have hnull : ¬(roundabout m).HasNull := by
    rw [← Path.mem_toString_iff, toString_roundabout, String.toList_ofList]
    exact fun hmem => absurd (mem_detourName hmem) (by decide)
  have hstretch : ∀ k, circleTree.stretch [] (detour k ++ [['r', 'c']]) = .place [['r', 'c']] := by
    intro k
    induction k with
    | zero => rfl
    | succ k ih => exact ih
  have hfollow : circleTree.follow Tree.maxLinks (Tree.start (circle n).here (roundabout m))
      (roundabout m).parts = .ok [['r', 'c']] := by
    show circleTree.follow Tree.maxLinks [] (detour m ++ [['r', 'c']]) = _
    rw [Tree.follow, hstretch]
  rw [Host.place?_of_not_null (regular_circle n) hnull, Tree.locate, toString_roundabout,
    utf8ByteSize_detourName, hfollow]
  by_cases hlong : 5 * m + 2 > Tree.maxPathBytes
  · simp only [if_pos hlong]
  · simp only [if_neg hlong]
    rfl

variable {n m}

theorem opens_roundabout (hm : 5 * m + 2 ≤ Tree.maxPathBytes) :
    Opens (circle n) (roundabout m) (roundabout m) (Rc.sourceLine (detourName n)) := by
  refine ⟨expandHome_roundabout n m,
    .bytes (String.ofList (Rc.sourceLine (detourName n))).toUTF8.toList, ?_, ?_⟩
  · rw [Host.file?, place?_roundabout, if_neg (by omega)]
    rfl
  · have hreturn : '\r' ∉ detourName n := fun hmem => absurd (mem_detourName hmem) (by decide)
    rw [Host.readText_toUTF8 (by simpa using Rc.not_mem_sourceLine hreturn), String.toList_ofList]

theorem comesTo_circle (readFile : Option (Path → State → Outcome Bool)) (path : Path) (s : State) :
    ComesTo readFile {} (circle n) path (Rc.statements (Rc.sourceLine (detourName n))) s
      (detourName n) s := by
  rw [Rc.statements_sourceLine (plainWord_detourName n)]
  refine ⟨[], _, [], rfl, rfl, rfl, rfl, sourceTarget_eq_ok.2 ⟨"source".toList, by decide, ?_⟩⟩
  exact Rc.splitWords_sourceLine (plainWord_detourName n)

theorem expandHome_detourName : (circle n).expandHome
    (Path.ofString (String.ofList (detourName n))) = .ok (roundabout n) := by
  rw [ofString_detourName, expandHome_roundabout]

theorem leads_circle (hm : 5 * m + 2 ≤ Tree.maxPathBytes) :
    Leads {} (circle n) circleTree (roundabout m) (roundabout (m + n)) := by
  obtain ⟨before, st, after, hsts, hrun, hst⟩ := comesTo_circle (n := n) none (roundabout m)
    (State.note ⟨Table.empty, []⟩ (.overlayRead (roundabout m).toString))
  refine ⟨0, ⟨Table.empty, []⟩, roundabout m, detourName n, _, roundabout n,
    ⟨⟨_, before, st, after, opens_roundabout hm, hsts, hrun, ?_, hst⟩,
      by rw [suffix_roundabout]; decide⟩, expandHome_detourName, (join_roundabout m n).symm⟩
  rintro ⟨target, s', -, k, included, hlevels, -⟩
  cases hlevels

theorem sameFile_circle (hn : 5 * n + 2 ≤ Tree.maxPathBytes) :
    SameFile (circle n) circleTree (roundabout 0) (roundabout n) :=
  ⟨_, _, "/rc", expandHome_roundabout n 0, expandHome_roundabout n n,
    by rw [place?_roundabout, if_neg (by decide)], by rw [place?_roundabout, if_neg (by omega)],
    .inr ⟨fun _ _ _ _ => rfl, fun _ _ _ _ => rfl⟩⟩

theorem breaks_circle {levels : Nat} (hlong : 5 * (m + levels * n) + 2 > Tree.maxPathBytes)
    (s : State) : Breaks {} (circle n) levels (roundabout m) s .nameTooLong := by
  have htoolong : ∀ k, 5 * k + 2 > Tree.maxPathBytes →
      Unreachable (circle n) (roundabout k) .nameTooLong := by
    intro k hk
    refine .inr ⟨_, expandHome_roundabout n k, ?_⟩
    rw [Host.file?, place?_roundabout, if_pos hk]
    rfl
  induction levels generalizing m s with
  | zero => exact .unreachable (htoolong m (by simpa using hlong))
  | succ k ih =>
    by_cases hm : 5 * m + 2 > Tree.maxPathBytes
    · exact .unreachable (htoolong m hm)
    · refine .sourced (opens_roundabout (by omega)) (by rw [suffix_roundabout]; decide)
        (comesTo_circle ..) expandHome_detourName ?_
      rw [join_roundabout]
      have hsucc : (k + 1) * n = k * n + n := Nat.succ_mul k n
      exact ih (by omega) _

end circle

/-! ## How deeply files are nested -/

/-- **However files source one another, reading ends.** At most seventeen of them are processed one
inside the other. The report that they are nested too deep comes exactly if seventeen are, and the
last one comes to a statement that sources another. On a machine, files that lead back to one that
is being processed come to this report, unless on the way a path gets too long, or symbolic links
get too many. -/
theorem inclusion_bounded (r : Reader) (h : Host) (path : Path) (s : State) :
    (∀ files levels path' s', Processing r h maxSourceDepth path s files levels path' s' →
      files.length ≤ 17) ∧
    (TooDeep (read r h path s).1 ↔ ∃ files path' s' q target s'',
      Processing r h maxSourceDepth path s files 0 path' s' ∧ files.length = 17 ∧
        Reaches r h 0 path' s' q target s'') ∧
    ∀ t p p', h.Regular t → path.Split → ReflTransGen (Leads r h t) path p →
      TransGen (Leads r h t) p p' → SameFile h t p p' →
      TooDeep (read r h path s).1 ∨ ((read r h path s).1 = .error (.failure .nameTooLong) ∧
        Breaks r h maxSourceDepth path s .nameTooLong) ∨ Strays r h t maxSourceDepth path s := by
  refine ⟨fun files levels path' s' hfiles => ?_, ?_, ?_⟩
  · have hlength : files.length + levels = 17 := hfiles.length
    omega
  · refine tooDeep_iff.trans ⟨?_, ?_⟩
    · rintro ⟨files, path', s', q, target, s'', hfiles, hreaches⟩
      exact ⟨files, path', s', q, target, s'', hfiles, hfiles.length, hreaches⟩
    · rintro ⟨files, path', s', q, target, s'', hfiles, -, hreaches⟩
      exact ⟨files, path', s', q, target, s'', hfiles, hreaches⟩
  · intro t p p' hreg hpath hstart hcircle hsame
    rcases givesOut_of_circle hreg hpath hstart hcircle hsame maxSourceDepth s with
      ⟨e, he, ⟨file, line, rfl⟩ | rfl⟩ | hstrays
    · exact .inl ⟨file, line, he⟩
    · exact .inr (.inl ⟨he, ((readFile_failsOnly r h maxSourceDepth path s).fails _).1 he⟩)
    · exact .inr (.inr hstrays)

/-- A file that sources itself by way of a directory is nested too deep. -/
theorem circle_reported : (circle 1).Regular circleTree ∧ (Path.ofString "rc").Split ∧
    TransGen (Leads {} (circle 1) circleTree) (Path.ofString "rc") (Path.ofString "d/../rc") ∧
    SameFile (circle 1) circleTree (Path.ofString "rc") (Path.ofString "d/../rc") ∧
    TooDeep (read {} (circle 1) (Path.ofString "rc") ⟨Table.empty, []⟩).1 := by
  have hleads : TransGen (Leads {} (circle 1) circleTree) (Path.ofString "rc")
      (Path.ofString "d/../rc") := .single (leads_circle (m := 0) (n := 1) (by decide))
  have hsame : SameFile (circle 1) circleTree (Path.ofString "rc") (Path.ofString "d/../rc") :=
    sameFile_circle (by decide)
  refine ⟨regular_circle 1, Path.split_ofString _, hleads, hsame, ?_⟩
  rcases (inclusion_bounded {} (circle 1) (Path.ofString "rc") ⟨Table.empty, []⟩).2.2 _ _ _
    (regular_circle 1) (Path.split_ofString _) .refl hleads hsame with h | ⟨hlong, -⟩ | hstrays
  · exact h
  · have hreported : (failure? (read {} (circle 1) (Path.ofString "rc")
        ⟨Table.empty, []⟩).1).isSome = false := by decide +kernel
    rw [hlong] at hreported
    cases hreported
  · exact absurd hstrays (not_strays fun _ => rfl)

/-- With sixty detours in every round, a path gets too long before levels run out, and this is not
reported as a fault of a file. -/
theorem long_circle_not_reported : (circle 60).Regular circleTree ∧
    TransGen (Leads {} (circle 60) circleTree) (Path.ofString "rc") (roundabout 60) ∧
    SameFile (circle 60) circleTree (Path.ofString "rc") (roundabout 60) ∧
    (read {} (circle 60) (Path.ofString "rc") ⟨Table.empty, []⟩).1 =
      .error (.failure .nameTooLong) := by
  refine ⟨regular_circle 60, .single (leads_circle (m := 0) (by decide)),
    sameFile_circle (by decide), ?_⟩
  exact ((readFile_failsOnly {} (circle 60) maxSourceDepth _ _).fails _).2
    (breaks_circle (m := 0) (by decide) _)

/-- A file that sources itself by way of a symbolic link to the directory that they are in. -/
def windingCircle : Host where
  files := Table.ofList [("/rc", .bytes "source d/d/d/rc\n".toUTF8.toList)]
  tree := some { directories := ["/"], links := Table.ofList [("/d", Path.ofString ".")] }
  homes := Table.empty

-- fourteen files inside one another, and the next one is on a way with forty-two links
example :
    (read {} windingCircle (Path.ofString "rc") ⟨Table.empty, []⟩).1.toOption = some true := by
  decide +kernel

end LayeredConfig.Overlay
