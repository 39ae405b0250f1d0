import LayeredConfig.Proofs.Overlay.Run

/-!
# How deeply files source one another

Files are processed one inside the other, each sourced by a statement of the one before it. The
level goes down by one with every file, so there are at most as many files as levels, and one more.
At level zero a statement that sources a file is at fault.

* `Reaches`: reading a file comes to a statement that sources another one.
* `Processing`: the files that are being processed, one inside the other.
* `tooDeep_iff`: reading a file ends in the report that files are nested too deep exactly if such
  files lead down to level zero, and the last one comes to a statement that sources another one.
-/

namespace LayeredConfig.Overlay

open Document (Format Graph Part Value)

def TooDeep {α : Type} (a : Except Fault α) : Prop :=
  ∃ path line, a = .error (.file path line .nestedTooDeep)

theorem not_tooDeep_ok {α : Type} {a : α} : ¬TooDeep (.ok a : Except Fault α) := by
  rintro ⟨path, line, he⟩
  cases he

theorem not_tooDeep_failure {α : Type} {f : Failure} :
    ¬TooDeep (.error (.failure f) : Except Fault α) := by
  rintro ⟨path, line, he⟩
  cases he

theorem not_tooDeep_file {α : Type} {path : String} {line : Nat} {problem : FileProblem}
    (h : problem ≠ .nestedTooDeep) :
    ¬TooDeep (.error (.file path line problem) : Except Fault α) := by
  rintro ⟨path', line', he⟩
  exact h (Fault.file.inj (Except.error.inj he)).2.2

theorem tooDeep_error {α β : Type} {e : Fault} :
    TooDeep (.error e : Except Fault α) ↔ TooDeep (.error e : Except Fault β) := by
  simp only [TooDeep, Except.error.injEq]

/-! ## Documents -/

theorem not_tooDeep_mergeEntries (path : String) (g : Graph) (es : List (Value × Part))
    (s : State) : ¬TooDeep (mergeEntries path g es s).1 := by
  induction es generalizing s with
  | nil => exact not_tooDeep_ok
  | cons e es ih =>
    obtain ⟨k, p⟩ := e
    rcases mergeEntries_cons path g k p es s with
      ⟨-, key, text, h⟩ | ⟨-, h⟩ | ⟨-, shown, h⟩ <;> rw [h]
    · exact ih _
    · exact not_tooDeep_failure
    · exact not_tooDeep_file nofun

theorem not_tooDeep_mergeDocument (path : String) (g : Graph) (s : State) :
    ¬TooDeep (mergeDocument path g s).1 := by
  unfold mergeDocument
  split
  · exact not_tooDeep_ok
  · exact not_tooDeep_mergeEntries path g _ s
  · exact not_tooDeep_file nofun

theorem not_tooDeep_readText (format : Format) (path : String) (cs : List Char) :
    ¬TooDeep (format.readText path cs) := by
  cases format with
  | yaml =>
    rw [Format.readText]
    rcases Yaml.read (.ofText cs) with f | g
    · cases f with
      | malformed m => exact not_tooDeep_file nofun
      | unfit u => exact not_tooDeep_failure
      | notUtf8 f => exact not_tooDeep_file nofun
    · exact not_tooDeep_ok
  | json =>
    rw [Format.readText]
    rcases Document.Json.read cs with f | v
    · cases f with
      | malformed p line => exact not_tooDeep_file nofun
      | numeral n => exact not_tooDeep_failure
    · exact not_tooDeep_ok

theorem not_tooDeep_mergeText {path : Path} {format : Format}
    (hformat : Format.ofSuffix? path.suffix = some format)
    (readFile : Option (Path → State → Outcome Bool)) (r : Reader) (h : Host) (cs : List Char)
    (s : State) : ¬TooDeep (mergeText readFile r h path cs s).1 := by
  have hread := not_tooDeep_readText format path.toString cs
  simp only [mergeText, hformat]
  rcases hr : format.readText path.toString cs with e | g <;> rw [hr] at hread
  · exact mt tooDeep_error.1 hread
  · exact not_tooDeep_mergeDocument path.toString g s

/-! ## Statements -/

theorem not_nestedTooDeep {cs : List Char} : sourceTarget cs ≠ .error .nestedTooDeep := by
  unfold sourceTarget noAssignment
  split
  · split
    · split <;> nofun
    · nofun
  · nofun

theorem not_tooDeep_assign (r : Reader) (env : Table String) (path : String) (st : Rc.Statement)
    (name value : List Char) (s : State) : ¬TooDeep (assign r env path st name value s).1 := by
  unfold assign
  split
  · exact not_tooDeep_file nofun
  · dsimp only
    split
    · exact not_tooDeep_file nofun
    · exact not_tooDeep_ok

def TargetTooDeep (readFile : Option (Path → State → Outcome Bool)) (h : Host) (path : Path)
    (target : List Char) (s : State) : Prop :=
  ∀ read ∈ readFile, ∃ included,
    h.expandHome (Path.ofString (String.ofList target)) = .ok included ∧
      TooDeep (read (path.parent.join included) s).1

section statements
variable {readFile : Option (Path → State → Outcome Bool)} {r : Reader} {h : Host} {path : Path}

theorem tooDeep_source {line : Nat} {target : List Char} {s : State}
    (hallow : r.allowSource = true) :
    TooDeep (source readFile r h path line (String.ofList target) s).1 ↔
      TargetTooDeep readFile h path target s := by
  unfold source TargetTooDeep
  rw [if_neg (by simp [hallow])]
  rcases readFile with _ | read
  · exact iff_of_true ⟨_, _, rfl⟩ nofun
  · simp only [Option.mem_def, Option.some.injEq, forall_eq']
    rcases h.expandHome (Path.ofString (String.ofList target)) with f | included
    · exact iff_of_false not_tooDeep_failure nofun
    · simp only [Except.ok.injEq, exists_eq_left']
      rcases read (path.parent.join included) s with ⟨e | found, t⟩
      · exact tooDeep_error
      · cases found <;> exact iff_of_false not_tooDeep_ok not_tooDeep_ok

theorem tooDeep_runStatement {st : Rc.Statement} {s : State} :
    TooDeep (runStatement readFile r h path st s).1 ↔
      ∃ target, Includes r st target ∧ TargetTooDeep readFile h path target s := by
  have hother : st.form ≠ .command →
      ¬∃ target, Includes r st target ∧ TargetTooDeep readFile h path target s := by
    rintro hform ⟨target, hst, -⟩
    exact hform hst.command
  unfold runStatement
  dsimp only
  split
  · rename_i hform
    exact iff_of_false not_tooDeep_ok (hother (by rw [hform]; nofun))
  · rename_i hform
    exact iff_of_false (not_tooDeep_assign _ _ _ _ _ _ _) (hother (by rw [hform]; nofun))
  · rename_i hform
    refine iff_of_false ?_ (hother (by rw [hform]; nofun))
    split <;> exact not_tooDeep_file nofun
  · rename_i hform
    split
    · rename_i problem hproblem
      refine iff_of_false (not_tooDeep_file ?_) ?_
      · rintro rfl
        exact not_nestedTooDeep hproblem
      · rintro ⟨target, hst, -⟩
        rw [hst.target] at hproblem
        cases hproblem
    · rename_i target htarget
      by_cases hallow : r.allowSource = true
      · rw [tooDeep_source hallow]
        constructor
        · exact fun hdeep => ⟨target, ⟨hallow, hform, htarget⟩, hdeep⟩
        · rintro ⟨target', hst, hdeep⟩
          rw [hst.target] at htarget
          obtain rfl := Except.ok.inj htarget
          exact hdeep
      · refine iff_of_false ?_ ?_
        · unfold source
          rw [if_pos (by simpa using hallow)]
          exact not_tooDeep_ok
        · rintro ⟨target', hst, -⟩
          exact hallow hst.allowed

theorem tooDeep_runStatements {sts : List Rc.Statement} {s : State} :
    TooDeep (runStatements readFile r h path sts s).1 ↔
      ∃ target s', ComesTo readFile r h path sts s target s' ∧
        TargetTooDeep readFile h path target s' := by
  induction sts generalizing s with
  | nil =>
    refine iff_of_false not_tooDeep_ok ?_
    rintro ⟨target, s', ⟨before, st, after, heq, -⟩, -⟩
    cases before <;> cases heq
  | cons st sts ih =>
    have hst : TooDeep (runStatement readFile r h path st s).1 ↔ _ := tooDeep_runStatement
    rw [runStatements]
    rcases hrun : runStatement readFile r h path st s with ⟨e | _, s₁⟩ <;> rw [hrun] at hst
    · rw [tooDeep_error, hst]
      constructor
      · rintro ⟨target, hincludes, hdeep⟩
        exact ⟨target, s, ComesTo.cons_iff.2 (.inl ⟨hincludes, rfl⟩), hdeep⟩
      · rintro ⟨target, s', hcome, hdeep⟩
        rcases ComesTo.cons_iff.1 hcome with ⟨hincludes, rfl⟩ | ⟨s₂, hs₂, -⟩
        · exact ⟨target, hincludes, hdeep⟩
        · rw [hrun] at hs₂
          cases hs₂
    · rw [ih]
      constructor
      · rintro ⟨target, s', hcome, hdeep⟩
        exact ⟨target, s', ComesTo.cons_iff.2 (.inr ⟨s₁, hrun, hcome⟩), hdeep⟩
      · rintro ⟨target, s', hcome, hdeep⟩
        rcases ComesTo.cons_iff.1 hcome with ⟨hincludes, rfl⟩ | ⟨s₂, hs₂, hcome⟩
        · exact absurd (hst.2 ⟨target, hincludes, hdeep⟩) not_tooDeep_ok
        · rw [hrun] at hs₂
          obtain ⟨-, rfl⟩ := Prod.mk.inj hs₂
          exact ⟨target, s', hcome, hdeep⟩

end statements

/-! ## Files -/

/-- Laying the file at `path` over values, where files may source one another this deep, comes in
the state `s'` to a statement that sources the target; the path leads to `q`. -/
structure Reaches (r : Reader) (h : Host) (levels : Nat) (path : Path) (s : State) (q : Path)
    (target : List Char) (s' : State) : Prop where
  comes : ∃ cs, Opens h path q cs ∧ ComesTo (sourcing r h levels) r h q (Rc.statements cs)
    (s.note (.overlayRead q.toString)) target s'
  format : Format.ofSuffix? q.suffix = none

theorem unreadable_ne {body : FileBody} {problem : FileProblem}
    (h : Host.readText body = .error problem) : problem ≠ .nestedTooDeep := by
  rintro rfl
  unfold Host.readText at h
  split at h
  · cases h
  · split at h <;> cases h

theorem Opens.unique {h : Host} {path q q' : Path} {cs cs' : List Char} (hq : Opens h path q cs)
    (hq' : Opens h path q' cs') : q' = q ∧ cs' = cs := by
  obtain ⟨body, hbody, hcs⟩ := hq.text
  obtain ⟨he, body', hbody', hcs'⟩ := (opens_iff hq.home).1 hq'
  obtain rfl := Option.some.inj (Except.ok.inj (hbody.symm.trans hbody'))
  exact ⟨he, Except.ok.inj (hcs'.symm.trans hcs)⟩

section files
variable {r : Reader} {h : Host} {levels : Nat} {path : Path} {s : State}

theorem not_tooDeep_unopened (hopens : ∀ q cs, ¬Opens h path q cs) :
    ¬TooDeep (readFile r h levels path s).1 := by
  rw [readFile_eq, mergeFile]
  rcases hhome : h.expandHome path with f | q
  · exact not_tooDeep_failure
  dsimp only
  rcases hfile : h.file? q with f | _ | body
  · exact not_tooDeep_failure
  · exact not_tooDeep_ok
  dsimp only
  rcases hbody : Host.readText body with problem | cs
  · exact not_tooDeep_file (unreadable_ne hbody)
  · exact absurd ⟨hhome, body, hfile, hbody⟩ (hopens q cs)

theorem not_tooDeep_document {q : Path} {cs : List Char} {format : Format}
    (hq : Opens h path q cs) (hformat : Format.ofSuffix? q.suffix = some format) :
    ¬TooDeep (readFile r h levels path s).1 := by
  obtain ⟨body, hfile, hbody⟩ := hq.text
  have htext := not_tooDeep_mergeText hformat (sourcing r h levels) r h cs
    (s.note (.overlayRead q.toString))
  simp only [readFile_eq, mergeFile, hq.home, hfile, hbody]
  rcases hm : mergeText (sourcing r h levels) r h q cs (s.note (.overlayRead q.toString)) with
    ⟨e | _, t⟩ <;> rw [hm] at htext
  · exact mt tooDeep_error.1 htext
  · exact not_tooDeep_ok

theorem tooDeep_text {q : Path} {cs : List Char} (hq : Opens h path q cs)
    (hformat : Format.ofSuffix? q.suffix = none) : TooDeep (readFile r h levels path s).1 ↔
      TooDeep (runText r h levels q cs (s.note (.overlayRead q.toString))).1 := by
  rw [readFile_text hq hformat]
  rcases runText r h levels q cs (s.note (.overlayRead q.toString)) with ⟨e | _, t⟩
  · exact tooDeep_error
  · exact iff_of_false not_tooDeep_ok not_tooDeep_ok

theorem tooDeep_readFile :
    TooDeep (readFile r h levels path s).1 ↔ ∃ q target s', Reaches r h levels path s q target s' ∧
      TargetTooDeep (sourcing r h levels) h q target s' := by
  by_cases hopens : ∃ q cs, Opens h path q cs
  · obtain ⟨q, cs, hq⟩ := hopens
    rcases hformat : Format.ofSuffix? q.suffix with _ | format
    · rw [tooDeep_text hq hformat, runText, tooDeep_runStatements]
      constructor
      · rintro ⟨target, s', hcome, hdeep⟩
        exact ⟨q, target, s', ⟨⟨cs, hq, hcome⟩, hformat⟩, hdeep⟩
      · rintro ⟨q', target, s', ⟨⟨cs', hq', hcome⟩, -⟩, hdeep⟩
        obtain ⟨rfl, rfl⟩ := hq.unique hq'
        exact ⟨target, s', hcome, hdeep⟩
    · refine iff_of_false (not_tooDeep_document hq hformat) ?_
      rintro ⟨q', target, s', ⟨⟨cs', hq', -⟩, hnone⟩, -⟩
      obtain ⟨rfl, -⟩ := hq.unique hq'
      cases hnone.symm.trans hformat
  · refine iff_of_false (not_tooDeep_unopened fun q cs hq => hopens ⟨q, cs, hq⟩) ?_
    rintro ⟨q, target, s', ⟨⟨cs, hq, -⟩, -⟩, -⟩
    exact hopens ⟨q, cs, hq⟩

end files

/-! ## Files inside one another -/

/-- While the file at `path` is laid over the values of `s`, the files that are processed one inside
the other come to `files`, the last of which is at `path'` and starts in the state `s'`; each is
sourced by the one before it, with one level less. -/
inductive Processing (r : Reader) (h : Host) :
    Nat → Path → State → List Path → Nat → Path → State → Prop
  | start (levels : Nat) (path : Path) (s : State) :
      Processing r h levels path s [path] levels path s
  | source {levels levels' : Nat} {path q included path' : Path} {s s₁ s' : State}
      {target : List Char} {files : List Path}
      (hreaches : Reaches r h (levels + 1) path s q target s₁)
      (hincluded : h.expandHome (Path.ofString (String.ofList target)) = .ok included)
      (hrest : Processing r h levels (q.parent.join included) s₁ files levels' path' s') :
      Processing r h (levels + 1) path s (path :: files) levels' path' s'

variable {r : Reader} {h : Host} {levels levels' : Nat} {path path' : Path} {s s' : State}
  {files : List Path}

theorem Processing.length (hfiles : Processing r h levels path s files levels' path' s') :
    files.length + levels' = levels + 1 := by
  induction hfiles with
  | start => rw [List.length_singleton, Nat.add_comm]
  | source _ _ _ ih =>
    rw [List.length_cons]
    omega

/-- Reading a file ends in the report that files are nested too deep exactly if files inside one
another lead down to level zero, and the last one comes to a statement that sources another one. -/
theorem tooDeep_iff : TooDeep (readFile r h levels path s).1 ↔
    ∃ files path' s' q target s'', Processing r h levels path s files 0 path' s' ∧
      Reaches r h 0 path' s' q target s'' := by
  induction levels generalizing path s with
  | zero =>
    rw [tooDeep_readFile]
    constructor
    · rintro ⟨q, target, s', hreaches, -⟩
      exact ⟨[path], path, s, q, target, s', .start 0 path s, hreaches⟩
    · rintro ⟨files, path', s', q, target, s'', hfiles, hreaches⟩
      cases hfiles
      exact ⟨q, target, s'', hreaches, nofun⟩
  | succ n ih =>
    rw [tooDeep_readFile]
    constructor
    · rintro ⟨q, target, s₁, hreaches, hdeep⟩
      obtain ⟨included, hincluded, hdeep⟩ := hdeep _ rfl
      obtain ⟨files, path', s', q', target', s'', hfiles, hlast⟩ := ih.1 hdeep
      exact ⟨path :: files, path', s', q', target', s'', .source hreaches hincluded hfiles, hlast⟩
    · rintro ⟨files, path', s', q', target', s'', hfiles, hlast⟩
      cases hfiles with
      | source hreaches hincluded hrest =>
        refine ⟨_, _, _, hreaches, fun read hread => ?_⟩
        obtain rfl := Option.some.inj hread
        exact ⟨_, hincluded, ih.2 ⟨_, path', s', q', target', s'', hrest, hlast⟩⟩

end LayeredConfig.Overlay
