import LayeredConfig.Proofs.Host.Directory
import LayeredConfig.Proofs.Overlay.Nesting

/-!
# Reading a file once more

The same file can be read again under another path, with other values and another number of
levels. If it was read without a fault, then it is so again, or else levels or bytes run out:
whether statements are at fault depends neither on the values nor on the path of the file, and the
files that they source are the same. Symbolic links are what this does not hold for: with too many
of them on the way of a path, the file at its end counts as missing, which is no fault.

* `Strays`: reading a file comes to a path with too many symbolic links on its way.
* `Akin`: paths to the same file, under each of which it finds the same files beside it.
* `repeats`: a file that is read without a fault is so once more.
-/

namespace LayeredConfig.Overlay

open Document (Format Graph Part Value)

/-- The fault is that files are nested too deep, or that a path is too long. -/
def Exhausted (e : Fault) : Prop :=
  (∃ path line, e = .file path line .nestedTooDeep) ∨ e = .failure .nameTooLong

def OnlyExhausts {α : Type} (a : Except Fault α) : Prop := ∀ e, a = .error e → Exhausted e

theorem onlyExhausts_ok {α : Type} {a : α} : OnlyExhausts (.ok a : Except Fault α) := nofun

theorem onlyExhausts_of_succeeds {α : Type} {o : Outcome α} (h : Succeeds o) :
    OnlyExhausts o.1 := by
  obtain ⟨a, ha⟩ := h
  rw [ha]
  exact onlyExhausts_ok

theorem Exhausted.only {α : Type} {e : Fault} (he : Exhausted e) :
    OnlyExhausts (.error e : Except Fault α) := fun _ he' => Except.error.inj he' ▸ he

/-! ## The path of a file does not matter -/

theorem scalarText_path {path : String} {g : Graph} {k : Value} {p : Part} {text : String}
    (h : scalarText path g k p = .ok text) (path' : String) :
    scalarText path' g k p = .ok text := by
  unfold scalarText at h ⊢
  split at h
  · rcases hk : written k.display with e | shown <;> rw [hk] at h <;> cases h
  · rename_i hnested
    rw [if_neg hnested]
    exact h

theorem mergeEntries_path {path : String} {g : Graph} {es : List (Value × Part)} {s : State}
    (h : Succeeds (mergeEntries path g es s)) (path' : String) (s' : State) :
    Succeeds (mergeEntries path' g es s') := by
  induction es generalizing s s' with
  | nil => exact ⟨(), rfl⟩
  | cons e es ih =>
    obtain ⟨k, p⟩ := e
    rw [mergeEntries] at h ⊢
    rcases htext : scalarText path g k p with e | text <;> rw [htext] at h
    · exact absurd h not_succeeds_error
    · rw [scalarText_path htext path']
      rcases hk : written k.display with e | key <;> rw [hk] at h
      · exact absurd h not_succeeds_error
      · exact ih h _

theorem mergeDocument_path {path : String} {g : Graph} {s : State}
    (h : Succeeds (mergeDocument path g s)) (path' : String) (s' : State) :
    Succeeds (mergeDocument path' g s') := by
  revert h
  unfold mergeDocument
  split
  · exact id
  · exact fun h => mergeEntries_path h path' s'
  · exact fun h => absurd h not_succeeds_error

theorem readText_path {format : Format} {path : String} {cs : List Char} {g : Graph}
    (h : format.readText path cs = .ok g) (path' : String) : format.readText path' cs = .ok g := by
  cases format with
  | yaml =>
    rw [Format.readText] at h ⊢
    rcases hr : Yaml.read (.ofText cs) with e | g' <;> rw [hr] at h
    · cases h
    · exact h
  | json =>
    rw [Format.readText] at h ⊢
    rcases hr : Document.Json.read cs with e | v <;> rw [hr] at h
    · cases h
    · exact h

theorem assign_path {r : Reader} {env : Table String} {path : String} {st : Rc.Statement}
    {name value : List Char} {s : State} (h : Succeeds (assign r env path st name value s))
    (path' : String) (s' : State) : Succeeds (assign r env path' st name value s') := by
  have hsame : Succeeds (assign r env path' st name value s) := by
    unfold assign at h ⊢
    split at h
    · exact absurd h not_succeeds_error
    · rename_i hname
      rw [if_neg hname]
      dsimp only at h ⊢
      split at h
      · exact absurd h not_succeeds_error
      · exact ⟨(), rfl⟩
  exact succeeds_of_follows (assign_follows r path' st name value) hsame s'

/-! ## Symbolic links -/

def Winding (h : Host) (t : Tree) (path : Path) : Prop :=
  ∃ q, h.expandHome path = .ok q ∧ t.locate h.here q = .error .manyLinks

/-- Laying the file at `path` over values comes to a path with too many symbolic links on its way,
so what stands there counts as missing. -/
def Strays (r : Reader) (h : Host) (t : Tree) (levels : Nat) (path : Path) (s : State) : Prop :=
  ∃ files levels' path' s', Processing r h levels path s files levels' path' s' ∧
    Winding h t path'

def TargetStrays (r : Reader) (h : Host) (t : Tree) (levels : Nat) (path : Path)
    (target : List Char) (s : State) : Prop :=
  ∃ n included, levels = n + 1 ∧ h.expandHome (Path.ofString (String.ofList target)) =
    .ok included ∧ Strays r h t n (path.parent.join included) s

def StatementsStray (r : Reader) (h : Host) (t : Tree) (levels : Nat) (path : Path)
    (sts : List Rc.Statement) (s : State) : Prop :=
  ∃ target s', ComesTo (sourcing r h levels) r h path sts s target s' ∧
    TargetStrays r h t levels path target s'

variable {r : Reader} {h : Host} {t : Tree} {levels levels' : Nat}

theorem strays_of_winding {path : Path} (hpath : Winding h t path) (s : State) :
    Strays r h t levels path s := ⟨_, levels, path, s, .start levels path s, hpath⟩

theorem not_strays (hl : t.Linkless) {path : Path} {s : State} : ¬Strays r h t levels path s := by
  rintro ⟨files, levels', path', s', -, q, -, hmany⟩
  exact hl.locate_ne_manyLinks h.here q hmany

theorem strays_of_statements {path q : Path} {cs : List Char} {s : State} (hq : Opens h path q cs)
    (hformat : Format.ofSuffix? q.suffix = none)
    (hs : StatementsStray r h t levels q (Rc.statements cs) (s.note (.overlayRead q.toString))) :
    Strays r h t levels path s := by
  obtain ⟨target, s', hcomes, n, included, rfl, hincluded, files, levels', path', s'', hfiles,
    hlast⟩ := hs
  exact ⟨_, _, _, _, .source ⟨⟨cs, hq, hcomes⟩, hformat⟩ hincluded hfiles, hlast⟩

theorem StatementsStray.of_first {path : Path} {st : Rc.Statement} {target : List Char} {s : State}
    (hst : Includes r st target) (hs : TargetStrays r h t levels path target s)
    (sts : List Rc.Statement) : StatementsStray r h t levels path (st :: sts) s :=
  ⟨target, s, ComesTo.cons_iff.2 (.inl ⟨hst, rfl⟩), hs⟩

theorem StatementsStray.of_rest {path : Path} {st : Rc.Statement} {sts : List Rc.Statement}
    {s s₁ : State} (hst : runStatement (sourcing r h levels) r h path st s = (.ok (), s₁))
    (hs : StatementsStray r h t levels path sts s₁) :
    StatementsStray r h t levels path (st :: sts) s := by
  obtain ⟨target, s', hcomes, hstrays⟩ := hs
  exact ⟨target, s', ComesTo.cons_iff.2 (.inr ⟨s₁, hst, hcomes⟩), hstrays⟩

theorem StatementsStray.append {path : Path} {sts : List Rc.Statement} {s : State}
    (hs : StatementsStray r h t levels path sts s) (sts' : List Rc.Statement) :
    StatementsStray r h t levels path (sts ++ sts') s := by
  obtain ⟨target, s', ⟨before, st, after, rfl, hrun, hst⟩, hstrays⟩ := hs
  exact ⟨target, s', ⟨before, st, after ++ sts', by simp, hrun, hst⟩, hstrays⟩

/-! ## Twins -/

/-- With their tildes replaced, the paths are twins. -/
def Akin (h : Host) (t : Tree) (p p' : Path) : Prop :=
  ∀ q, h.expandHome p = .ok q → ∃ q', h.expandHome p' = .ok q' ∧ h.Twins t q q'

theorem Akin.trans {p p' p'' : Path} (hp : Akin h t p p') (hp' : Akin h t p' p'') :
    Akin h t p p'' := by
  intro q hq
  obtain ⟨q', hq', htwins⟩ := hp q hq
  obtain ⟨q'', hq'', htwins'⟩ := hp' q' hq'
  exact ⟨q'', hq'', htwins.trans htwins'⟩

theorem akin_of_twins {p p' : Path} (hp : h.Twins t p p') : Akin h t p p' := by
  intro q hq
  rw [Host.expandHome_of_plain hp.plain] at hq
  obtain rfl := Except.ok.inj hq
  exact ⟨p', Host.expandHome_of_plain hp.plain', hp⟩

def Beside (h : Host) (t : Tree) (q q' : Path) : Prop :=
  ∀ included : Path, included.Plain → h.Twins t (q.parent.join included) (q'.parent.join included)

/-- Files that are read without a fault with so many levels are so with the other number of levels
under all paths that lead to them, unless levels or bytes run out, or a path strays. -/
def Repeats (r : Reader) (h : Host) (t : Tree) (levels levels' : Nat) : Prop :=
  ∀ p p' s s', Akin h t p p' → Succeeds (readFile r h levels p s) → ¬Strays r h t levels p s →
    OnlyExhausts (readFile r h levels' p' s').1 ∨ Strays r h t levels' p' s'

section regular
variable (hreg : h.Regular t)
include hreg

theorem akin_refl (p : Path) : Akin h t p p := fun q hq =>
  ⟨q, hq, .refl (Host.plain_expandHome hreg hq)⟩

/-! ## The same statements once more -/

theorem beside_of_file {q q' : Path} (hq : h.Twins t q q') {body : FileBody}
    (hbody : h.file? q = .ok (some body)) (hbody' : h.file? q' = .ok (some body)) :
    Beside h t q q' := by
  obtain ⟨dir, hfound⟩ := Host.exists_found hreg hbody
  obtain ⟨dir', hfound'⟩ := Host.exists_found hreg hbody'
  exact fun included hplain => hq.join hfound hfound' hplain

section files
variable (hread : ∀ n m, levels = n + 1 → levels' = m + 1 → Repeats r h t n m)
include hread

section text
variable {q q' : Path} (hbeside : Beside h t q q')
include hbeside

theorem source_again {line : Nat} {target : List Char} {s : State}
    (hs : Succeeds (source (sourcing r h levels) r h q line (String.ofList target) s))
    (hstay : ¬TargetStrays r h t levels q target s) (line' : Nat) (s' : State) :
    OnlyExhausts (source (sourcing r h levels') r h q' line' (String.ofList target) s').1 ∨
      TargetStrays r h t levels' q' target s' := by
  unfold source at hs ⊢
  split at hs
  · rename_i hallow
    rw [if_pos hallow]
    exact .inl onlyExhausts_ok
  · rename_i hallow
    rw [if_neg hallow]
    rcases levels with _ | n
    · exact absurd hs not_succeeds_error
    rcases levels' with _ | m
    · exact .inl (Exhausted.only (.inl ⟨_, _, rfl⟩))
    simp only [sourcing] at hs ⊢
    rcases hhome : h.expandHome (Path.ofString (String.ofList target)) with e | included <;>
      rw [hhome] at hs
    · exact absurd hs not_succeeds_error
    have hfound : Succeeds (readFile r h n (q.parent.join included) s) := by
      dsimp only at hs
      split at hs
      · exact absurd hs not_succeeds_error
      · rename_i heq
        exact .of_ok heq
      · rename_i heq
        exact .of_ok heq
    have hagain := hread n m rfl rfl _ (q'.parent.join included) s s'
      (akin_of_twins (hbeside included (Host.plain_expandHome hreg hhome))) hfound
      fun hstrays => hstay ⟨n, included, rfl, hhome, hstrays⟩
    rcases hagain with hagain | hstrays
    · dsimp only
      rcases hr : readFile r h m (q'.parent.join included) s' with ⟨e | found, u⟩ <;>
        rw [hr] at hagain
      · exact .inl (Exhausted.only (hagain e rfl))
      · cases found <;> exact .inl onlyExhausts_ok
    · exact .inr ⟨m, included, rfl, hhome, hstrays⟩

theorem runStatement_again {st : Rc.Statement} {s : State}
    (hs : Succeeds (runStatement (sourcing r h levels) r h q st s))
    (hstay : ∀ target, Includes r st target → ¬TargetStrays r h t levels q target s) (s' : State) :
    OnlyExhausts (runStatement (sourcing r h levels') r h q' st s').1 ∨
      ∃ target, Includes r st target ∧ TargetStrays r h t levels' q' target s' := by
  unfold runStatement at hs ⊢
  dsimp only at hs ⊢
  split at hs
  · exact .inl onlyExhausts_ok
  · exact .inl (onlyExhausts_of_succeeds (assign_path hs _ s'))
  · split at hs <;> exact absurd hs not_succeeds_error
  · rename_i hform
    rcases htarget : sourceTarget st.text with problem | target <;> rw [htarget] at hs
    · exact absurd hs not_succeeds_error
    by_cases hallow : r.allowSource = true
    · have hst : Includes r st target := ⟨hallow, hform, htarget⟩
      rcases source_again hreg hread hbeside hs (hstay target hst) st.startLine s' with
        hagain | hstrays
      · exact .inl hagain
      · exact .inr ⟨target, hst, hstrays⟩
    · refine .inl ?_
      unfold source
      dsimp only
      rw [if_pos (by simpa using hallow)]
      exact onlyExhausts_ok

theorem runStatements_again {sts : List Rc.Statement} {s : State}
    (hs : Succeeds (runStatements (sourcing r h levels) r h q sts s))
    (hstay : ¬StatementsStray r h t levels q sts s) (s' : State) :
    OnlyExhausts (runStatements (sourcing r h levels') r h q' sts s').1 ∨
      StatementsStray r h t levels' q' sts s' := by
  induction sts generalizing s s' with
  | nil => exact .inl onlyExhausts_ok
  | cons st sts ih =>
    rw [runStatements] at hs ⊢
    rcases hst : runStatement (sourcing r h levels) r h q st s with ⟨e | _, s₁⟩ <;> rw [hst] at hs
    · exact absurd hs not_succeeds_error
    rcases runStatement_again hreg hread hbeside (.of_ok hst)
      (fun target hincludes hstrays => hstay (.of_first hincludes hstrays sts)) s' with
      hagain | ⟨target, hincludes, hstrays⟩
    · rcases hst' : runStatement (sourcing r h levels') r h q' st s' with ⟨e | _, s₂⟩ <;>
        rw [hst'] at hagain
      · exact .inl (Exhausted.only (hagain e rfl))
      · rcases ih hs (fun hrest => hstay (.of_rest hst hrest)) s₂ with hrest | hrest
        · exact .inl hrest
        · exact .inr (.of_rest hst' hrest)
    · exact .inr (.of_first hincludes hstrays sts)

end text

/-- A file that can be opened under two paths. -/
theorem readFile_again {p p' q q' : Path} {cs : List Char} (hq : Opens h p q cs)
    (hq' : Opens h p' q' cs) (hbeside : Beside h t q q') (hsuffix : q.suffix = q'.suffix)
    {s : State} (hs : Succeeds (readFile r h levels p s)) (hstay : ¬Strays r h t levels p s)
    (s' : State) :
    OnlyExhausts (readFile r h levels' p' s').1 ∨ Strays r h t levels' p' s' := by
  rcases hformat : Format.ofSuffix? q.suffix with _ | format
  · have hformat' : Format.ofSuffix? q'.suffix = none := hsuffix ▸ hformat
    rw [readFile_text hq hformat] at hs
    rw [readFile_text hq' hformat']
    rcases runStatements_again hreg hread hbeside (succeeds_found.1 hs)
      (fun hstrays => hstay (strays_of_statements hq hformat hstrays))
      (s'.note (.overlayRead q'.toString)) with hagain | hstrays
    · rw [runText]
      rcases hrun : runStatements (sourcing r h levels') r h q' (Rc.statements cs)
        (s'.note (.overlayRead q'.toString)) with ⟨e | _, u⟩ <;> rw [hrun] at hagain
      · exact .inl (Exhausted.only (hagain e rfl))
      · exact .inl onlyExhausts_ok
    · exact .inr (strays_of_statements hq' hformat' hstrays)
  · refine .inl (onlyExhausts_of_succeeds ?_)
    obtain ⟨body, hfile, hbody⟩ := hq.text
    obtain ⟨body', hfile', hbody'⟩ := hq'.text
    simp only [readFile_eq, mergeFile, hq.home, hfile, hbody, mergeText, hformat] at hs
    simp only [readFile_eq, mergeFile, hq'.home, hfile', hbody', mergeText, ← hsuffix, hformat]
    rcases hg : format.readText q.toString cs with e | g <;> rw [hg] at hs
    · exact absurd hs not_succeeds_error
    · rw [readText_path hg q'.toString]
      exact succeeds_found.2 (mergeDocument_path (succeeds_found.1 hs) _ _)

end files

/-- A file that is read without a fault is so once more, under every path that leads to it. -/
theorem repeats (r : Reader) (levels levels' : Nat) : Repeats r h t levels levels' := by
  -- on the levels of the first reading; the second one may have fewer or more
  induction levels using Nat.strongRecOn generalizing levels' with
  | ind levels ih =>
    intro p p' s s' hakin hs hstay
    have hmerge := hs
    rw [readFile_eq, mergeFile] at hmerge
    rcases hhome : h.expandHome p with e | q <;> rw [hhome] at hmerge
    · exact absurd hmerge not_succeeds_error
    obtain ⟨q', hhome', htwins⟩ := hakin q hhome
    have hmany : t.locate h.here q ≠ .error .manyLinks := fun hmany =>
      hstay (strays_of_winding ⟨q, hhome, hmany⟩ s)
    dsimp only at hmerge
    rcases hfile : h.file? q with e | found <;> rw [hfile] at hmerge
    · exact absurd hmerge not_succeeds_error
    rcases htwins.file?_eq hreg hfile hmany with hfile' | hlong | hmany'
    · rcases found with _ | body
      · refine .inl (onlyExhausts_of_succeeds ⟨false, ?_⟩)
        simp only [readFile_eq, mergeFile, hhome', hfile']
      · dsimp only at hmerge
        rcases hbody : Host.readText body with problem | cs <;> rw [hbody] at hmerge
        · exact absurd hmerge not_succeeds_error
        · exact readFile_again hreg (fun n m hn _ => ih n (by omega) m) ⟨hhome, body, hfile, hbody⟩
            ⟨hhome', body, hfile', hbody⟩ (beside_of_file hreg htwins hfile hfile')
            (htwins.suffix_eq hreg hfile) hs hstay s'
    · refine .inl ?_
      simp only [readFile_eq, mergeFile, hhome', hlong]
      exact Exhausted.only (.inr rfl)
    · exact .inr (strays_of_winding ⟨q', hhome', hmany'⟩ s')

end regular

end LayeredConfig.Overlay
