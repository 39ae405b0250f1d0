import LayeredConfig.Proofs.Overlay.Failure
import LayeredConfig.Proofs.Overlay.Replacement
import LayeredConfig.Proofs.Rc.Boundary
import LayeredConfig.Proofs.Text.Utf8

/-!
# How the statements of a file run

* `sourcing`: how a file's statements source other files, by how deeply files may still do so; then
  reading a file is one definition for every depth.
* `runStatements_append`, `runStatements_error`: statements run one after the other, up to one that
  is at fault.
* `runStatement_error`: a statement at fault reports its own place and changes nothing, unless it
  hands over to a file that it sources.
-/

namespace LayeredConfig

theorem Host.not_mem_readText {body : FileBody} {cs : List Char}
    (h : Host.readText body = .ok cs) : '\r' ∉ cs := by
  unfold Host.readText at h
  split at h
  · cases h
  · split at h
    · cases h
    · obtain rfl := Except.ok.inj h
      exact Text.not_mem_unifyLineEnds _

theorem Host.readText_toUTF8 {text : String} (h : '\r' ∉ text.toList) :
    Host.readText (.bytes text.toUTF8.toList) = .ok text.toList := by
  simp only [Host.readText, Text.decodeUtf8_toUTF8, Text.unifyLineEnds_of_not_mem h]

namespace Overlay

/-- How the statements of a file source other files, where files may source one another this
deep. -/
def sourcing (r : Reader) (h : Host) : (levels : Nat) → Option (Path → State → Outcome Bool)
  | 0 => none
  | n + 1 => some (readFile r h n)

theorem readFile_eq (r : Reader) (h : Host) (levels : Nat) :
    readFile r h levels = mergeFile (sourcing r h levels) r h := by
  cases levels <;> rfl

/-- The effect of an rc text, where files may source one another this deep. -/
def runText (r : Reader) (h : Host) (levels : Nat) (path : Path) (cs : List Char) :
    State → Outcome Unit :=
  runStatements (sourcing r h levels) r h path (Rc.statements cs)

theorem readText_eq (r : Reader) (h : Host) (text : String) (path : Path) :
    readText r h text path = runText r h maxSourceDepth path text.toList := rfl

theorem readFile_text {r : Reader} {h : Host} {path q : Path} {cs : List Char}
    (hq : Opens h path q cs) (hformat : Document.Format.ofSuffix? q.suffix = none) (levels : Nat)
    (s : State) :
    readFile r h levels path s =
      match runText r h levels q cs (s.note (.overlayRead q.toString)) with
      | (.error e, s) => (.error e, s)
      | (.ok (), s) => (.ok true, s) := by
  obtain ⟨body, hfile, hbody⟩ := hq.text
  rw [readFile_eq]
  exact mergeFile_text hq.home hfile hbody hformat s

theorem sourceTarget_eq_ok {cs target : List Char} : sourceTarget cs = .ok target ↔
    ∃ command ∈ sourceCommands, Rc.splitWords cs = some [command, target] := by
  unfold sourceTarget
  constructor
  · intro h
    split at h
    · rename_i command args hwords
      split at h
      · rename_i hcommand
        split at h
        · obtain rfl := Except.ok.inj h
          exact ⟨command, by simpa using hcommand, hwords⟩
        · cases h
      · cases h
    · cases h
  · rintro ⟨command, hcommand, hwords⟩
    rw [hwords]
    simp [hcommand]

section statements
variable {readFile : Option (Path → State → Outcome Bool)} {r : Reader} {h : Host} {path : Path}

theorem runStatements_append (sts sts' : List Rc.Statement) (s : State) :
    runStatements readFile r h path (sts ++ sts') s =
      match runStatements readFile r h path sts s with
      | (.ok (), s) => runStatements readFile r h path sts' s
      | (.error e, s) => (.error e, s) := by
  induction sts generalizing s with
  | nil => rfl
  | cons st sts ih =>
    simp only [List.cons_append, runStatements]
    rcases runStatement readFile r h path st s with ⟨_ | _, s'⟩
    · rfl
    · exact ih s'

theorem runStatements_spaces {ws : List Char} (hws : ∀ c ∈ ws, Text.isSpace c = true) (n : Nat)
    (s : State) : runStatements readFile r h path (Rc.statementsFrom n ws) s = (.ok (), s) := by
  by_cases hne : ws = []
  · rw [hne, Rc.statementsFrom_nil]
    rfl
  · rw [Rc.statementsFrom_spaces hws hne]
    rfl

theorem runStatements_error {sts : List Rc.Statement} {s s' : State} {e : Fault}
    (hrun : runStatements readFile r h path sts s = (.error e, s')) :
    ∃ before st after t, sts = before ++ st :: after ∧
      runStatements readFile r h path before s = (.ok (), t) ∧
      runStatement readFile r h path st t = (.error e, s') := by
  induction sts generalizing s with
  | nil => cases hrun
  | cons st sts ih =>
    rw [runStatements] at hrun
    split at hrun
    · rename_i t ht
      obtain ⟨before, st', after, t', rfl, hbefore, hst⟩ := ih hrun
      refine ⟨st :: before, st', after, t', rfl, ?_, hst⟩
      rw [runStatements, ht]
      exact hbefore
    · rename_i hst
      exact ⟨[], st, sts, s, rfl, rfl, hst.trans hrun⟩

def HandsOver (readFile : Option (Path → State → Outcome Bool)) (r : Reader) (st : Rc.Statement) :
    Prop := readFile.isSome ∧ ∃ target, Includes r st target

theorem runStatement_error {st : Rc.Statement} {s s' : State} {e : Fault}
    (hrun : runStatement readFile r h path st s = (.error e, s'))
    (hown : ¬HandsOver readFile r st) :
    ∃ problem, e = .file path.toString st.startLine problem ∧ s' = s := by
  have hreport : ∀ {problem}, ((.error (.file path.toString st.startLine problem), s) :
      Outcome Unit) = (.error e, s') → ∃ problem, e = .file path.toString st.startLine problem ∧
        s' = s := by
    intro problem heq
    obtain ⟨he, hs⟩ := Prod.mk.inj heq
    exact ⟨problem, (Except.error.inj he).symm, hs.symm⟩
  unfold runStatement at hrun
  dsimp only at hrun
  split at hrun
  · cases hrun
  · unfold assign at hrun
    split at hrun
    · exact hreport hrun
    · dsimp only at hrun
      split at hrun
      · exact hreport hrun
      · cases hrun
  · split at hrun <;> exact hreport hrun
  · rename_i hform
    split at hrun
    · exact hreport hrun
    · rename_i target htarget
      unfold source at hrun
      split at hrun
      · cases hrun
      · rename_i hallow
        split at hrun
        · exact hreport hrun
        · exact absurd ⟨rfl, target, by simpa using hallow, hform, htarget⟩ hown

end statements

end Overlay

end LayeredConfig
