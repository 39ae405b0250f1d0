import LayeredConfig.Overlay
import LayeredConfig.Proofs.Document.Failure

/-!
# Which overlays cannot be read

Reading an overlay ends well, or with the report of a place in a file, or with a failure, which is
no report. `Breaks` lists the failures: a path that cannot be looked up, a document that holds what
cannot be represented, an entry that cannot be written, and what goes wrong in a file that is
sourced. `readFile_failsOnly` says that there are no others, by induction on how deeply files may
still source one another; the functions that work inside a file get what sourcing does as a
hypothesis.
-/

namespace LayeredConfig.Overlay

open Document (Format Graph Overlong Part Value)

/-! ## Documents -/

def Nested (g : Graph) (p : Part) : Prop := ((g.items? p).isSome || (g.entries? p).isSome) = true

structure Laid (g : Graph) (e : Value × Part) : Prop where
  key : ¬Overlong e.1
  scalar : ¬Nested g e.2
  value : ¬Overlong (g.value e.2)

/-- The entry of a mapping cannot be written: its key, or its value, which is not looked at if it is
a list or a mapping. -/
def Unwritable (g : Graph) (e : Value × Part) : Prop :=
  Overlong e.1 ∨ (¬Nested g e.2 ∧ Overlong (g.value e.2))

def EntriesBreak (g : Graph) (es : List (Value × Part)) (f : Failure) : Prop :=
  f = .numeral .tooLong ∧ Meets (Laid g) (Unwritable g) es

theorem mergeEntries_cons (path : String) (g : Graph) (k : Value) (p : Part)
    (es : List (Value × Part)) (s : State) :
    (Laid g (k, p) ∧
      ∃ key text, mergeEntries path g ((k, p) :: es) s = mergeEntries path g es (s.put key text)) ∨
    (Unwritable g (k, p) ∧
      mergeEntries path g ((k, p) :: es) s = (.error (.failure (.numeral .tooLong)), s)) ∨
    ((¬Laid g (k, p) ∧ ¬Unwritable g (k, p)) ∧ ∃ shown,
      mergeEntries path g ((k, p) :: es) s = (.error (.file path 0 (.noScalar shown)), s)) := by
  rw [mergeEntries, scalarText]
  by_cases hnested : Nested g p
  · rw [if_pos (show _ = true from hnested)]
    rcases Document.display_cases k with ⟨shown, hk, hkey⟩ | ⟨hk, hkey⟩ <;> rw [hk]
    · refine .inr (.inr ⟨⟨fun h => h.scalar hnested, ?_⟩, shown, rfl⟩)
      rintro (h | h)
      · exact hkey h
      · exact h.1 hnested
    · exact .inr (.inl ⟨.inl hkey, rfl⟩)
  · rw [if_neg (show ¬_ = true from hnested)]
    rcases Document.settingText_cases (g.value p) with ⟨text, hp, hvalue⟩ | ⟨hp, hvalue⟩ <;> rw [hp]
    · rcases Document.display_cases k with ⟨key, hk, hkey⟩ | ⟨hk, hkey⟩ <;> rw [hk]
      · exact .inl ⟨⟨hkey, hnested, hvalue⟩, key, text, rfl⟩
      · exact .inr (.inl ⟨.inl hkey, rfl⟩)
    · exact .inr (.inl ⟨.inr ⟨hnested, hvalue⟩, rfl⟩)

theorem not_unwritable_of_laid {g : Graph} {e : Value × Part} (h : Laid g e) : ¬Unwritable g e := by
  rintro (hk | ⟨-, hv⟩)
  · exact h.key hk
  · exact h.value hv

theorem mergeEntries_failsOnly (path : String) (g : Graph) (es : List (Value × Part)) (s : State) :
    FailsOnly [.fileSyntax] (EntriesBreak g es) (mergeEntries path g es s).1 := by
  induction es generalizing s with
  | nil =>
    refine .of_ok fun f => ?_
    rintro ⟨-, h⟩
    exact Meets.not_nil h
  | cons e es ih =>
    obtain ⟨k, p⟩ := e
    have hcons : ∀ f, EntriesBreak g ((k, p) :: es) f ↔ f = .numeral .tooLong ∧
        (Unwritable g (k, p) ∨ (Laid g (k, p) ∧ Meets (Laid g) (Unwritable g) es)) := by
      intro f
      rw [EntriesBreak, Meets.cons_iff]
    rcases mergeEntries_cons path g k p es s with
      ⟨hlaid, key, text, h⟩ | ⟨hunwritable, h⟩ | ⟨⟨hlaid, hunwritable⟩, shown, h⟩ <;> rw [h]
    · refine (ih (s.put key text)).congr fun f => (hcons f).trans (and_congr_right fun _ => ?_)
      rw [or_iff_right (not_unwritable_of_laid hlaid), and_iff_right hlaid]
    · exact .of_failure fun f => (hcons f).trans (and_iff_left (.inl hunwritable))
    · refine .of_file fun f hf => ?_
      rcases ((hcons f).1 hf).2 with h | h
      · exact hunwritable h
      · exact hlaid h.1

theorem mergeDocument_failsOnly (path : String) (g : Graph) (s : State) :
    FailsOnly [.fileSyntax] (fun f => ∃ es, g.entries? g.root = some es ∧ EntriesBreak g es f)
      (mergeDocument path g s).1 := by
  unfold mergeDocument
  split
  · rename_i hroot
    refine .of_ok ?_
    rintro f ⟨es, hes, -⟩
    rw [hroot] at hes
    cases hes
  · rename_i es hes _
    refine (mergeEntries_failsOnly path g es s).congr fun f => ?_
    simp only [hes, Option.some.injEq, exists_eq_left']
  · rename_i hes _
    refine .of_file ?_
    rintro f ⟨es, hes', -⟩
    cases hes.symm.trans hes'

/-- Laying the text of a structured document over values ends in the failure: it holds what cannot
be represented, or is a mapping with an entry that cannot be written. -/
def DocumentBreaks (format : Format) (path : Path) (cs : List Char) (f : Failure) : Prop :=
  format.Refuses cs f ∨ ∃ g es, format.readText path.toString cs = .ok g ∧
    g.entries? g.root = some es ∧ EntriesBreak g es f

/-! ## Statements -/

theorem assign_failsOnly (r : Reader) (env : Table String) (path : String) (st : Rc.Statement)
    (name value : List Char) (s : State) :
    FailsOnly [.fileSyntax] (fun _ => False) (assign r env path st name value s).1 := by
  unfold assign
  split
  · exact .of_file fun _ => id
  · dsimp only
    split
    · exact .of_file fun _ => id
    · exact .of_ok fun _ => id

/-- The statement is a command that sources a file, and other files may be sourced. -/
structure Includes (r : Reader) (st : Rc.Statement) (target : List Char) : Prop where
  allowed : r.allowSource = true
  command : st.form = .command
  target : sourceTarget st.text = .ok target

def TargetBreaks (breaks : Path → State → Failure → Prop) (h : Host) (path : Path)
    (target : List Char) (s : State) (f : Failure) : Prop :=
  h.expandHome (Path.ofString (String.ofList target)) = .error f ∨
    ∃ included, h.expandHome (Path.ofString (String.ofList target)) = .ok included ∧
      breaks (path.parent.join included) s f

/-- Running the statements comes, in the state `s'`, to one that sources the target. -/
def ComesTo (readFile : Option (Path → State → Outcome Bool)) (r : Reader) (h : Host) (path : Path)
    (sts : List Rc.Statement) (s : State) (target : List Char) (s' : State) : Prop :=
  ∃ before st after, sts = before ++ st :: after ∧
    runStatements readFile r h path before s = (.ok (), s') ∧ Includes r st target

theorem ComesTo.cons_iff {readFile : Option (Path → State → Outcome Bool)} {r : Reader}
    {h : Host} {path : Path} {st : Rc.Statement} {sts : List Rc.Statement} {s s' : State}
    {target : List Char} :
    ComesTo readFile r h path (st :: sts) s target s' ↔ (Includes r st target ∧ s' = s) ∨
      ∃ s₁, runStatement readFile r h path st s = (.ok (), s₁) ∧
        ComesTo readFile r h path sts s₁ target s' := by
  constructor
  · rintro ⟨before, st', after, heq, hrun, hst⟩
    cases before with
    | nil =>
      obtain ⟨rfl, -⟩ := List.cons.inj heq
      obtain ⟨-, rfl⟩ := Prod.mk.inj hrun
      exact .inl ⟨hst, rfl⟩
    | cons st₁ before =>
      obtain ⟨rfl, rfl⟩ := List.cons.inj heq
      rw [runStatements] at hrun
      split at hrun
      · rename_i s₁ hs₁
        exact .inr ⟨s₁, hs₁, before, st', after, rfl, hrun, hst⟩
      · cases hrun
  · rintro (⟨hst, rfl⟩ | ⟨s₁, hs₁, before, st', after, rfl, hrun, hst⟩)
    · exact ⟨[], st, sts, rfl, rfl, hst⟩
    · refine ⟨st :: before, st', after, rfl, ?_, hst⟩
      rw [runStatements, hs₁]
      exact hrun

/-! ## Files -/

structure Opens (h : Host) (path p : Path) (cs : List Char) : Prop where
  home : h.expandHome path = .ok p
  text : ∃ body, h.file? p = .ok (some body) ∧ Host.readText body = .ok cs

def Unreachable (h : Host) (path : Path) (f : Failure) : Prop :=
  h.expandHome path = .error f ∨ ∃ p, h.expandHome path = .ok p ∧ h.file? p = .error f

theorem unreachable_iff {h : Host} {path p : Path} {f : Failure} (hp : h.expandHome path = .ok p) :
    Unreachable h path f ↔ h.file? p = .error f := by
  constructor
  · rintro (hf | ⟨q, hq, hf⟩)
    · cases hp.symm.trans hf
    · obtain rfl := Except.ok.inj (hp.symm.trans hq)
      exact hf
  · exact fun hf => .inr ⟨p, hp, hf⟩

theorem opens_iff {h : Host} {path p q : Path} {cs : List Char} (hp : h.expandHome path = .ok p) :
    Opens h path q cs ↔
      q = p ∧ ∃ body, h.file? p = .ok (some body) ∧ Host.readText body = .ok cs := by
  constructor
  · intro hq
    obtain rfl := Except.ok.inj (hp.symm.trans hq.home)
    exact ⟨rfl, hq.text⟩
  · rintro ⟨rfl, htext⟩
    exact ⟨hp, htext⟩

def TextBreaks (readFile : Option (Path → State → Outcome Bool))
    (breaks : Path → State → Failure → Prop) (r : Reader) (h : Host) (path : Path) (cs : List Char)
    (s : State) (f : Failure) : Prop :=
  match Format.ofSuffix? path.suffix with
  | none => readFile.isSome ∧
      ∃ target s', ComesTo readFile r h path (Rc.statements cs) s target s' ∧
        TargetBreaks breaks h path target s' f
  | some format => DocumentBreaks format path cs f

def FileBreaks (readFile : Option (Path → State → Outcome Bool))
    (breaks : Path → State → Failure → Prop) (r : Reader) (h : Host) (path : Path) (s : State)
    (f : Failure) : Prop :=
  Unreachable h path f ∨ ∃ p cs, Opens h path p cs ∧
    TextBreaks readFile breaks r h p cs (s.note (.overlayRead p.toString)) f

theorem fileBreaks_iff {readFile : Option (Path → State → Outcome Bool)}
    {breaks : Path → State → Failure → Prop} {r : Reader} {h : Host} {path p : Path}
    {body : FileBody} {s : State} {f : Failure} (hp : h.expandHome path = .ok p)
    (hfile : h.file? p = .ok (some body)) :
    FileBreaks readFile breaks r h path s f ↔ ∃ cs, Host.readText body = .ok cs ∧
      TextBreaks readFile breaks r h p cs (s.note (.overlayRead p.toString)) f := by
  constructor
  · rintro (hf | ⟨q, cs, hq, hf⟩)
    · cases hfile.symm.trans ((unreachable_iff hp).1 hf)
    · obtain ⟨rfl, body', hbody, hcs⟩ := (opens_iff hp).1 hq
      obtain rfl := Option.some.inj (Except.ok.inj (hfile.symm.trans hbody))
      exact ⟨cs, hcs, hf⟩
  · rintro ⟨cs, hcs, hf⟩
    exact .inr ⟨p, cs, ⟨hp, body, hfile, hcs⟩, hf⟩

section files
variable {readFile : Option (Path → State → Outcome Bool)} {breaks : Path → State → Failure → Prop}
  (hread : ∀ read ∈ readFile, ∀ path s, FailsOnly [.fileSyntax] (breaks path s) (read path s).1)
include hread

theorem source_failsOnly (r : Reader) (h : Host) (path : Path) (line : Nat) (target : List Char)
    (s : State) :
    FailsOnly [.fileSyntax]
      (fun f => (readFile.isSome ∧ r.allowSource = true) ∧ TargetBreaks breaks h path target s f)
      (source readFile r h path line (String.ofList target) s).1 := by
  unfold source
  split
  · rename_i hallow
    refine .of_ok fun f hf => ?_
    rw [hf.1.2] at hallow
    cases hallow
  · rename_i hallow
    have hallowed : r.allowSource = true := by simpa using hallow
    split
    · refine .of_file fun f hf => ?_
      cases hf.1.1
    · rename_i read
      have htarget : ∀ f, ((some read).isSome ∧ r.allowSource = true) ∧
          TargetBreaks breaks h path target s f ↔ TargetBreaks breaks h path target s f :=
        fun f => and_iff_right ⟨rfl, hallowed⟩
      split
      · rename_i e he
        refine .of_failure fun f => ?_
        rw [htarget, TargetBreaks, he]
        constructor
        · rintro (h | ⟨included, h, -⟩)
          · exact (Except.error.inj h).symm
          · cases h
        · rintro rfl
          exact .inl rfl
      · rename_i included hincluded
        have hs := hread read rfl (path.parent.join included) s
        have hbreaks : ∀ f, ((some read).isSome ∧ r.allowSource = true) ∧
            TargetBreaks breaks h path target s f ↔ breaks (path.parent.join included) s f := by
          intro f
          rw [htarget, TargetBreaks, hincluded]
          constructor
          · rintro (h | ⟨included', h, hf⟩)
            · cases h
            · obtain rfl := Except.ok.inj h
              exact hf
          · exact fun hf => .inr ⟨included, rfl, hf⟩
        dsimp only
        split <;> rename_i heq <;> rw [heq] at hs
        · exact hs.of_error.congr hbreaks
        · exact .of_ok fun f hf => hs.not_of_ok f ((hbreaks f).1 hf)
        · exact .of_ok fun f hf => hs.not_of_ok f ((hbreaks f).1 hf)

theorem runStatement_failsOnly (r : Reader) (h : Host) (path : Path) (st : Rc.Statement)
    (s : State) :
    FailsOnly [.fileSyntax]
      (fun f => readFile.isSome ∧
        ∃ target, Includes r st target ∧ TargetBreaks breaks h path target s f)
      (runStatement readFile r h path st s).1 := by
  have hother : st.form ≠ .command → ∀ f,
      ¬(readFile.isSome ∧
        ∃ target, Includes r st target ∧ TargetBreaks breaks h path target s f) := by
    rintro hform f ⟨-, target, hst, -⟩
    exact hform hst.command
  unfold runStatement
  dsimp only
  split
  · rename_i hform
    refine .of_ok (hother ?_)
    rw [hform]
    nofun
  · rename_i hform
    refine (assign_failsOnly ..).congr fun f => iff_of_false (hother ?_ f) id
    rw [hform]
    nofun
  · rename_i hform
    have hne : st.form ≠ .command := by
      rw [hform]
      nofun
    split <;> exact .of_file (hother hne)
  · rename_i hform
    split
    · rename_i htarget
      refine .of_file ?_
      rintro f ⟨-, target, hst, -⟩
      rw [hst.target] at htarget
      cases htarget
    · rename_i target htarget
      refine (source_failsOnly hread r h path st.startLine target s).congr fun f => ⟨?_, ?_⟩
      · rintro ⟨hsome, target', hst, hf⟩
        rw [hst.target] at htarget
        obtain rfl := Except.ok.inj htarget
        exact ⟨⟨hsome, hst.allowed⟩, hf⟩
      · rintro ⟨⟨hsome, hallow⟩, hf⟩
        exact ⟨hsome, target, ⟨hallow, hform, htarget⟩, hf⟩

theorem runStatements_failsOnly (r : Reader) (h : Host) (path : Path) (sts : List Rc.Statement)
    (s : State) :
    FailsOnly [.fileSyntax]
      (fun f => readFile.isSome ∧ ∃ target s', ComesTo readFile r h path sts s target s' ∧
        TargetBreaks breaks h path target s' f)
      (runStatements readFile r h path sts s).1 := by
  induction sts generalizing s with
  | nil =>
    refine .of_ok ?_
    rintro f ⟨-, target, s', ⟨before, st, after, heq, -⟩, -⟩
    cases before <;> cases heq
  | cons st sts ih =>
    have hst := runStatement_failsOnly hread r h path st s
    rw [runStatements]
    split <;> rename_i heq <;> rw [heq] at hst
    · rename_i s₁
      refine (ih s₁).congr fun f => and_congr_right fun hsome => ⟨?_, ?_⟩
      · rintro ⟨target, s', hcome, hf⟩
        rcases ComesTo.cons_iff.1 hcome with ⟨hsources, rfl⟩ | ⟨s₂, hs₂, hcome⟩
        · exact absurd ⟨hsome, target, hsources, hf⟩ (hst.not_of_ok f)
        · rw [heq] at hs₂
          obtain ⟨-, rfl⟩ := Prod.mk.inj hs₂
          exact ⟨target, s', hcome, hf⟩
      · rintro ⟨target, s', hcome, hf⟩
        exact ⟨target, s', ComesTo.cons_iff.2 (.inr ⟨s₁, heq, hcome⟩), hf⟩
    · refine hst.of_error.congr fun f => and_congr_right fun hsome => ⟨?_, ?_⟩
      · rintro ⟨target, s', hcome, hf⟩
        rcases ComesTo.cons_iff.1 hcome with ⟨hsources, rfl⟩ | ⟨s₂, hs₂, -⟩
        · exact ⟨target, hsources, hf⟩
        · rw [heq] at hs₂
          cases hs₂
      · rintro ⟨target, hsources, hf⟩
        exact ⟨target, s, ComesTo.cons_iff.2 (.inl ⟨hsources, rfl⟩), hf⟩

theorem mergeText_failsOnly (r : Reader) (h : Host) (path : Path) (cs : List Char) (s : State) :
    FailsOnly [.fileSyntax] (TextBreaks readFile breaks r h path cs s)
      (mergeText readFile r h path cs s).1 := by
  unfold mergeText TextBreaks
  rcases Format.ofSuffix? path.suffix with _ | format
  · exact runStatements_failsOnly hread r h path _ s
  · have hd := Document.readText_failsOnly format path.toString cs
    dsimp only
    split <;> rename_i heq <;> rw [heq] at hd
    · refine hd.of_error.congr fun f => or_iff_left ?_
      rintro ⟨g, es, hg, -⟩
      cases heq.symm.trans hg
    · rename_i g
      refine (mergeDocument_failsOnly path.toString g s).congr fun f => ?_
      rw [DocumentBreaks, or_iff_right (hd.not_of_ok f)]
      constructor
      · rintro ⟨g', es, hg, h⟩
        obtain rfl := Except.ok.inj (heq.symm.trans hg)
        exact ⟨es, h⟩
      · rintro ⟨es, h⟩
        exact ⟨g, es, heq, h⟩

theorem mergeFile_failsOnly (r : Reader) (h : Host) (path : Path) (s : State) :
    FailsOnly [.fileSyntax] (FileBreaks readFile breaks r h path s)
      (mergeFile readFile r h path s).1 := by
  unfold mergeFile
  split
  · rename_i e he
    refine .of_failure fun f => ⟨?_, ?_⟩
    · rintro ((hf | ⟨q, hq, -⟩) | ⟨q, cs, hq, -⟩)
      · exact Except.error.inj (hf.symm.trans he)
      · cases he.symm.trans hq
      · cases he.symm.trans hq.home
    · rintro rfl
      exact .inl (.inl he)
  · rename_i p hp
    split
    · rename_i e he
      refine .of_failure fun f => ⟨?_, ?_⟩
      · rintro (hf | ⟨q, cs, hq, -⟩)
        · exact Except.error.inj (((unreachable_iff hp).1 hf).symm.trans he)
        · obtain ⟨-, body, hbody, -⟩ := (opens_iff hp).1 hq
          cases he.symm.trans hbody
      · rintro rfl
        exact .inl (.inr ⟨p, hp, he⟩)
    · rename_i hfile
      refine .of_ok ?_
      rintro f (hf | ⟨q, cs, hq, -⟩)
      · cases hfile.symm.trans ((unreachable_iff hp).1 hf)
      · obtain ⟨-, body, hbody, -⟩ := (opens_iff hp).1 hq
        cases hfile.symm.trans hbody
    · rename_i body hfile
      dsimp only
      split
      · rename_i problem hproblem
        refine .of_file fun f hf => ?_
        obtain ⟨cs, hcs, -⟩ := (fileBreaks_iff hp hfile).1 hf
        cases hproblem.symm.trans hcs
      · rename_i cs hcs
        have hbreaks : ∀ f, FileBreaks readFile breaks r h path s f ↔
            TextBreaks readFile breaks r h p cs (s.note (.overlayRead p.toString)) f := by
          intro f
          rw [fileBreaks_iff hp hfile, hcs]
          simp only [Except.ok.injEq, exists_eq_left']
        have ht := mergeText_failsOnly hread r h p cs (s.note (.overlayRead p.toString))
        split <;> rename_i heq <;> rw [heq] at ht
        · exact ht.of_error.congr hbreaks
        · exact .of_ok fun f hf => ht.not_of_ok f ((hbreaks f).1 hf)

end files

/-! ## Files that source one another -/

/-- Laying a file over values, where files may source one another this deep, ends in a failure. -/
inductive Breaks (r : Reader) (h : Host) : Nat → Path → State → Failure → Prop
  | unreachable {n : Nat} {path : Path} {s : State} {f : Failure} (hf : Unreachable h path f) :
      Breaks r h n path s f
  | document {n : Nat} {path p : Path} {cs : List Char} {format : Format} {s : State} {f : Failure}
      (hp : Opens h path p cs) (hformat : Format.ofSuffix? p.suffix = some format)
      (hf : DocumentBreaks format p cs f) : Breaks r h n path s f
  /-- There is no home directory for the tilde in front of a file name. -/
  | target {n : Nat} {path p : Path} {cs target : List Char} {s s' : State} {f : Failure}
      (hp : Opens h path p cs) (hformat : Format.ofSuffix? p.suffix = none)
      (hcome : ComesTo (some (readFile r h n)) r h p (Rc.statements cs)
        (s.note (.overlayRead p.toString)) target s')
      (hf : h.expandHome (Path.ofString (String.ofList target)) = .error f) :
      Breaks r h (n + 1) path s f
  | sourced {n : Nat} {path p included : Path} {cs target : List Char} {s s' : State} {f : Failure}
      (hp : Opens h path p cs) (hformat : Format.ofSuffix? p.suffix = none)
      (hcome : ComesTo (some (readFile r h n)) r h p (Rc.statements cs)
        (s.note (.overlayRead p.toString)) target s')
      (hincluded : h.expandHome (Path.ofString (String.ofList target)) = .ok included)
      (hf : Breaks r h n (p.parent.join included) s' f) : Breaks r h (n + 1) path s f

theorem breaks_zero_iff {r : Reader} {h : Host} {path : Path} {s : State} {f : Failure} :
    Breaks r h 0 path s f ↔ FileBreaks none (fun _ _ _ => False) r h path s f := by
  constructor
  · intro hf
    cases hf with
    | unreachable hf => exact .inl hf
    | document hp hformat hf =>
      refine .inr ⟨_, _, hp, ?_⟩
      rw [TextBreaks, hformat]
      exact hf
  · rintro (hf | ⟨p, cs, hp, hf⟩)
    · exact .unreachable hf
    · unfold TextBreaks at hf
      split at hf
      · cases hf.1
      · rename_i format hformat
        exact .document hp hformat hf

theorem breaks_succ_iff {r : Reader} {h : Host} {n : Nat} {path : Path} {s : State} {f : Failure} :
    Breaks r h (n + 1) path s f ↔
      FileBreaks (some (readFile r h n)) (Breaks r h n) r h path s f := by
  constructor
  · intro hf
    cases hf with
    | unreachable hf => exact .inl hf
    | document hp hformat hf =>
      refine .inr ⟨_, _, hp, ?_⟩
      rw [TextBreaks, hformat]
      exact hf
    | target hp hformat hcome hf =>
      refine .inr ⟨_, _, hp, ?_⟩
      rw [TextBreaks, hformat]
      exact ⟨rfl, _, _, hcome, .inl hf⟩
    | sourced hp hformat hcome hincluded hf =>
      refine .inr ⟨_, _, hp, ?_⟩
      rw [TextBreaks, hformat]
      exact ⟨rfl, _, _, hcome, .inr ⟨_, hincluded, hf⟩⟩
  · rintro (hf | ⟨p, cs, hp, hf⟩)
    · exact .unreachable hf
    · unfold TextBreaks at hf
      split at hf
      · rename_i hformat
        obtain ⟨-, target, s', hcome, hf | ⟨included, hincluded, hf⟩⟩ := hf
        · exact .target hp hformat hcome hf
        · exact .sourced hp hformat hcome hincluded hf
      · rename_i format hformat
        exact .document hp hformat hf

theorem readFile_failsOnly (r : Reader) (h : Host) (levels : Nat) (path : Path) (s : State) :
    FailsOnly [.fileSyntax] (Breaks r h levels path s) (readFile r h levels path s).1 := by
  induction levels generalizing path s with
  | zero =>
    have hnone : ∀ read ∈ (none : Option (Path → State → Outcome Bool)), ∀ path s,
        FailsOnly [.fileSyntax] (fun _ => False) (read path s).1 := nofun
    exact (mergeFile_failsOnly hnone r h path s).congr fun f => breaks_zero_iff
  | succ n ih =>
    refine (mergeFile_failsOnly (fun read hr => ?_) r h path s).congr fun f => breaks_succ_iff
    obtain rfl := Option.some.inj hr
    exact ih

-- The file that is sourced is looked for in the home directory of a user that there is not.
example :
    let bytes := "source ~nemo/b".toList.map fun c => UInt8.ofNat c.toNat
    let h : Host := { files := Table.ofList [("/a", .bytes bytes)] }
    (failure? (read {} h (Path.ofString "/a") ⟨Table.empty, []⟩).1).isSome = true := by
  decide +kernel

end LayeredConfig.Overlay
