import LayeredConfig.Proofs.Host.Place
import LayeredConfig.Proofs.Overlay.Writes

/-!
# Writing another file

Whether an overlay can be read depends on the files only, never on the values read so far. So an
overlay that can be read still can after one file is replaced, if the new file is an rc file whose
statements always succeed, wherever the overlay sources it.

* `Succeeds`: an attempt without a fault.
* `succeeds_of_follows`: what is read succeeds over all values or over none.
* `readFile_succeeds`: by induction on how deeply files may still source one another; for the
  functions that work inside a file, what sourcing does is a hypothesis, `Covered`.
* `mergeFile_text`: what reading an rc file comes to.
-/

namespace LayeredConfig.Overlay

def Succeeds {α : Type} (o : Outcome α) : Prop := ∃ a, o.1 = .ok a

theorem Succeeds.of_ok {α : Type} {o : Outcome α} {a : α} {s : State} (h : o = (.ok a, s)) :
    Succeeds o := ⟨a, by rw [h]⟩

theorem not_succeeds_error {α : Type} {e : Fault} {s : State} :
    ¬ Succeeds ((.error e, s) : Outcome α) := by
  rintro ⟨a, ha⟩
  cases ha

theorem succeeds_found {o : Outcome Unit} :
    Succeeds (match o with
      | (.error e, s) => (.error e, s)
      | (.ok (), s) => ((.ok true, s) : Outcome Bool)) ↔ Succeeds o := by
  rcases o with ⟨e | _, s⟩
  · exact iff_of_false not_succeeds_error not_succeeds_error
  · exact iff_of_true ⟨true, rfl⟩ ⟨(), rfl⟩

/-! ## The values so far do not matter -/

theorem succeeds_of_follows {α : Type} {env : Table String} {o : State → Outcome α} {x : Script α}
    (h : Follows env o x) {s : State} (hs : Succeeds (o s)) (s' : State) : Succeeds (o s') := by
  obtain ⟨a, ha⟩ := hs
  exact ⟨a, (h.answer s' s).trans ha⟩

/-! ## One file is replaced -/

/-- Where the one way of reading files succeeds, the other does, from every state. -/
def Covered (readFile readFile' : Option (Path → State → Outcome Bool)) : Prop :=
  ∀ read ∈ readFile, ∃ read' ∈ readFile', ∀ path : Path, path.Split → ∀ s s',
    Succeeds (read path s) → Succeeds (read' path s')

section files
variable {h : Host} {place : String} {body : FileBody}
  {readFile readFile' : Option (Path → State → Outcome Bool)} (hread : Covered readFile readFile')
  {r : Reader} {path : Path} (hpath : path.Split)
include hread hpath

theorem source_succeeds {line : Nat} {target : String} {s : State}
    (hs : Succeeds (source readFile r h path line target s)) (s' : State) :
    Succeeds (source readFile' r (h.withFile place body) path line target s') := by
  unfold source at hs ⊢
  split at hs
  · rename_i hallow
    rw [if_pos hallow]
    exact ⟨(), rfl⟩
  · rename_i hallow
    rw [if_neg hallow]
    split at hs
    · exact absurd hs not_succeeds_error
    · rename_i read
      obtain ⟨read', hread', hsame⟩ := hread read rfl
      obtain rfl := Option.mem_def.1 hread'
      split at hs
      · exact absurd hs not_succeeds_error
      · rename_i included hhome
        have hhome' : (h.withFile place body).expandHome (Path.ofString target) = .ok included :=
          hhome
        have hfound : Succeeds (read (path.parent.join included) s) := by
          dsimp only at hs
          split at hs
          · exact absurd hs not_succeeds_error
          · rename_i heq
            exact .of_ok heq
          · rename_i heq
            exact .of_ok heq
        have hincluded := Host.split_expandHome (Path.split_ofString target) hhome
        obtain ⟨found, hanswer⟩ := hsame _ (hpath.parent.join hincluded) s s' hfound
        rw [hhome']
        dsimp only
        rcases heq : read' (path.parent.join included) s' with ⟨answer, s''⟩
        rw [heq] at hanswer
        obtain rfl : answer = .ok found := hanswer
        cases found <;> exact ⟨(), rfl⟩

theorem runStatement_succeeds {st : Rc.Statement} {s : State}
    (hs : Succeeds (runStatement readFile r h path st s)) (s' : State) :
    Succeeds (runStatement readFile' r (h.withFile place body) path st s') := by
  unfold runStatement at hs ⊢
  dsimp only at hs ⊢
  split at hs
  · exact ⟨(), rfl⟩
  · exact succeeds_of_follows (assign_follows r _ st _ _) hs s'
  · split at hs <;> exact absurd hs not_succeeds_error
  · split at hs
    · exact absurd hs not_succeeds_error
    · exact source_succeeds hread hpath hs s'

theorem runStatements_succeeds {sts : List Rc.Statement} {s : State}
    (hs : Succeeds (runStatements readFile r h path sts s)) (s' : State) :
    Succeeds (runStatements readFile' r (h.withFile place body) path sts s') := by
  induction sts generalizing s s' with
  | nil => exact ⟨(), rfl⟩
  | cons st sts ih =>
    simp only [runStatements] at hs ⊢
    rcases hfirst : runStatement readFile r h path st s with ⟨e | _, s₁⟩ <;> rw [hfirst] at hs
    · exact absurd hs not_succeeds_error
    · obtain ⟨_, hanswer⟩ := runStatement_succeeds hread hpath (.of_ok hfirst) s'
      rcases hfirst' : runStatement readFile' r (h.withFile place body) path st s' with ⟨e | _, s₂⟩
      · rw [hfirst'] at hanswer
        cases hanswer
      · exact ih hs s₂

theorem mergeText_succeeds {cs : List Char} {s : State}
    (hs : Succeeds (mergeText readFile r h path cs s)) (s' : State) :
    Succeeds (mergeText readFile' r (h.withFile place body) path cs s') := by
  unfold mergeText at hs ⊢
  split at hs
  · exact runStatements_succeeds hread hpath hs s'
  · split at hs
    · exact absurd hs not_succeeds_error
    · rename_i g _
      have hfollows : Follows h.env (mergeDocument path.toString g) _ :=
        mergeDocument_follows path.toString g
      exact succeeds_of_follows hfollows hs s'

end files

theorem mergeFile_text {readFile : Option (Path → State → Outcome Bool)} {r : Reader} {h : Host}
    {path q : Path} {body : FileBody} {cs : List Char} (hhome : h.expandHome path = .ok q)
    (hfile : h.file? q = .ok (some body)) (hbody : Host.readText body = .ok cs)
    (hsuffix : Document.Format.ofSuffix? q.suffix = none) (s : State) :
    mergeFile readFile r h path s =
      match runStatements readFile r h q (Rc.statements cs) (s.note (.overlayRead q.toString)) with
      | (.error e, s) => (.error e, s)
      | (.ok (), s) => (.ok true, s) := by
  have htext := mergeText.eq_1 readFile r h q cs (s.note (.overlayRead q.toString))
  rw [hsuffix] at htext
  have hmerge := mergeFile.eq_1 readFile r h path s
  simp only [hhome, hfile, hbody, htext] at hmerge
  exact hmerge

/-- No path with the suffix of a structured document leads to the place. -/
def Unstructured (h : Host) (place : String) : Prop :=
  ∀ p : Path, p.Split → h.place? p = .ok (some place) →
    Document.Format.ofSuffix? p.suffix = none

/-- Without symbolic links only the suffix of the place itself counts. -/
theorem unstructured_of_suffix {h : Host} (hl : h.Linkless) {place : String}
    (hplace : Document.Format.ofSuffix? (Path.ofString place).suffix = none) :
    Unstructured h place := by
  intro p hsplit hp
  rcases Host.suffix_of_place hl hsplit hp with he | he <;> rw [he]
  · decide
  · exact hplace

/-- A file whose text is read as that of an rc file, with statements that always succeed. -/
structure Harmless (h : Host) (place : String) (body : FileBody) (text : List Char) : Prop where
  body : Host.readText body = .ok text
  suffix : Unstructured h place
  succeeds : ∀ readFile r h path s,
    Succeeds (runStatements readFile r h path (Rc.statements text) s)

section harmless
variable {h : Host} {place : String} {body : FileBody} {text : List Char}
  (hfile : Harmless h place body text)
include hfile

theorem mergeFile_succeeds {readFile readFile' : Option (Path → State → Outcome Bool)}
    (hread : Covered readFile readFile') {r : Reader} {path : Path} (hpath : path.Split) {s : State}
    (hs : Succeeds (mergeFile readFile r h path s)) (s' : State) :
    Succeeds (mergeFile readFile' r (h.withFile place body) path s') := by
  rcases hhome : h.expandHome path with e | q
  · simp only [mergeFile, hhome] at hs
    exact absurd hs not_succeeds_error
  have hhome' : (h.withFile place body).expandHome path = .ok q := hhome
  have hq := Host.split_expandHome hpath hhome
  by_cases hplace : h.place? q = .ok (some place)
  · -- the path leads to the new file, and what was there before does not matter
    rw [mergeFile_text hhome' (Host.file?_withFile hplace body) hfile.body
      (hfile.suffix q hq hplace)]
    exact succeeds_found.2 (hfile.succeeds _ _ _ _ _)
  · simp only [mergeFile, hhome, hhome', Host.file?_withFile_of_ne hplace] at hs ⊢
    rcases hold : h.file? q with e | _ | old <;> rw [hold] at hs
    · exact absurd hs not_succeeds_error
    · exact ⟨false, rfl⟩
    · dsimp only at hs ⊢
      rcases hcs : Host.readText old with problem | cs <;> rw [hcs] at hs
      · exact absurd hs not_succeeds_error
      · exact succeeds_found.2 (mergeText_succeeds hread hq (succeeds_found.1 hs) _)

/-- An overlay that can be read still can, from every state, after the file is replaced. -/
theorem readFile_succeeds {r : Reader} {levels : Nat} {path : Path} (hpath : path.Split) {s : State}
    (hs : Succeeds (readFile r h levels path s)) (s' : State) :
    Succeeds (readFile r (h.withFile place body) levels path s') := by
  induction levels generalizing path s s' with
  | zero =>
    have hnone : Covered none none := fun _ hr => absurd hr (Option.not_mem_none _)
    exact mergeFile_succeeds hfile hnone hpath hs s'
  | succ n ih =>
    refine mergeFile_succeeds hfile (fun read hr => ?_) hpath hs s'
    obtain rfl := Option.some.inj hr
    exact ⟨_, rfl, fun path hsplit s s' h => ih hsplit h s'⟩

end harmless

end LayeredConfig.Overlay
