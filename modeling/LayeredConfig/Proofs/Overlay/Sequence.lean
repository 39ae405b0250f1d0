import Mathlib.Data.List.Forall2
import LayeredConfig.Proofs.Overlay.Run
import LayeredConfig.Proofs.Rc.Command

/-!
# Reading one text behind another

Which statements a text has does not depend on the text behind it, and statements take effect one
after the other, so two texts can be read one after the other. One thing stands in the way: white
space at the end of the first text becomes part of the first statement of the second one. This does
no harm, but for a command that sources a file: its words are split in the way of a shell, for which
most white space is part of a word.

* `SameEffect`: two attempts leave the same values, and both end well or neither does.
* `runMoved`: lines and earlier reports do not matter for what statements do.
* `runSpaces_same`, `runSpaces_error`: what white space in front of a text changes.
* `reading_sequential`: a text behind another one, and a file that is sourced between them.
-/

namespace LayeredConfig.Overlay

/-! ## The same effect -/

/-- Both end well or neither does, and they leave the same values; the reports may differ. -/
structure SameEffect {α β : Type} (o : Outcome α) (o' : Outcome β) : Prop where
  succeeds : Succeeds o ↔ Succeeds o'
  values : o.2.values = o'.2.values

namespace SameEffect

variable {α β γ : Type} {o : Outcome α} {o' : Outcome β} {o'' : Outcome γ} {s s' : State}

theorem trans (h : SameEffect o o') (h' : SameEffect o' o'') : SameEffect o o'' :=
  ⟨h.1.trans h'.1, h.2.trans h'.2⟩

theorem ok {a : α} {b : β} (hs : s.values = s'.values) :
    SameEffect ((.ok a, s) : Outcome α) ((.ok b, s') : Outcome β) :=
  ⟨iff_of_true ⟨a, rfl⟩ ⟨b, rfl⟩, hs⟩

theorem error {e e' : Fault} (hs : s.values = s'.values) :
    SameEffect ((.error e, s) : Outcome α) ((.error e', s') : Outcome β) :=
  ⟨iff_of_false not_succeeds_error not_succeeds_error, hs⟩

theorem cases (h : SameEffect o o') :
    (∃ a b t t', o = (.ok a, t) ∧ o' = (.ok b, t') ∧ t.values = t'.values) ∨
      ∃ e e' t t', o = (.error e, t) ∧ o' = (.error e', t') ∧ t.values = t'.values := by
  obtain ⟨answer, t⟩ := o
  obtain ⟨answer', t'⟩ := o'
  obtain ⟨hsucceeds, hvalues⟩ := h
  rcases answer with e | a <;> rcases answer' with e' | b
  · exact .inr ⟨e, e', t, t', rfl, rfl, hvalues⟩
  · exact absurd (hsucceeds.2 ⟨b, rfl⟩) not_succeeds_error
  · exact absurd (hsucceeds.1 ⟨a, rfl⟩) not_succeeds_error
  · exact .inl ⟨a, b, t, t', rfl, rfl, hvalues⟩

end SameEffect

/-! ## The reports so far do not matter -/

/-- A statement that does the same as another one: in another line perhaps, and with other white
space in front. -/
structure Moved (st st' : Rc.Statement) : Prop where
  form : st.form = st'.form
  literal : st.isLiteral = st'.isLiteral
  target : st.form = .command →
    ∀ target, sourceTarget st.text = .ok target ↔ sourceTarget st'.text = .ok target

theorem Moved.refl (st : Rc.Statement) : Moved st st := ⟨rfl, rfl, fun _ _ => Iff.rfl⟩

section effects
variable {s s' : State} (hs : s.values = s'.values)
include hs

theorem assign_same (r : Reader) (env : Table String) (path : String) {st st' : Rc.Statement}
    (hst : st.isLiteral = st'.isLiteral) (name value : List Char) :
    SameEffect (assign r env path st name value s) (assign r env path st' name value s') := by
  unfold assign
  rw [hst, hs]
  split
  · exact .error hs
  · dsimp only
    split
    · exact .error hs
    · rename_i text _
      exact .ok (congrArg (Table.insert · (String.ofList name) (String.ofList text)) hs)

section files
variable {readFile : Option (Path → State → Outcome Bool)}
  (hread : ∀ read ∈ readFile, ∀ path s s', s.values = s'.values →
    SameEffect (read path s) (read path s'))
include hread

theorem source_same (r : Reader) (h : Host) (path : Path) (line line' : Nat) (target : String) :
    SameEffect (source readFile r h path line target s)
      (source readFile r h path line' target s') := by
  unfold source
  split
  · exact .ok hs
  · split
    · exact .error hs
    · rename_i read
      split
      · exact .error hs
      · rename_i included _
        have hincluded := hread read rfl (path.parent.join included) s s' hs
        rcases hincluded.cases with ⟨a, b, t, t', ho, ho', ht⟩ | ⟨e, e', t, t', ho, ho', ht⟩
        · dsimp only
          rw [ho, ho']
          cases a <;> cases b <;> exact .ok ht
        · dsimp only
          rw [ho, ho']
          exact .error ht

theorem runStatement_same (r : Reader) (h : Host) (path : Path) {st st' : Rc.Statement}
    (hst : Moved st st') :
    SameEffect (runStatement readFile r h path st s) (runStatement readFile r h path st' s') := by
  unfold runStatement
  rw [← hst.form]
  dsimp only
  split
  · exact .ok hs
  · exact assign_same hs r h.env _ hst.literal _ _
  · split <;> exact .error hs
  · rename_i hform
    rcases htarget : sourceTarget st.text with problem | target
    · rcases htarget' : sourceTarget st'.text with problem' | target'
      · exact .error hs
      · cases htarget.symm.trans ((hst.target hform target').2 htarget')
    · rw [(hst.target hform target).1 htarget]
      exact source_same hs hread r h path _ _ _

theorem runStatements_same (r : Reader) (h : Host) (path : Path) {sts sts' : List Rc.Statement}
    (hsts : List.Forall₂ Moved sts sts') :
    SameEffect (runStatements readFile r h path sts s)
      (runStatements readFile r h path sts' s') := by
  induction hsts generalizing s s' with
  | nil => exact .ok hs
  | cons hst hsts ih =>
    rw [runStatements, runStatements]
    rcases (runStatement_same hs hread r h path hst).cases with
      ⟨a, b, t, t', ho, ho', ht⟩ | ⟨e, e', t, t', ho, ho', ht⟩
    · rw [ho, ho']
      exact ih ht
    · rw [ho, ho']
      exact .error ht

end files

theorem readFile_same (r : Reader) (h : Host) (levels : Nat) (path : Path) :
    SameEffect (readFile r h levels path s) (readFile r h levels path s') := by
  have hfollows := readFile_follows r h levels path
  refine ⟨⟨fun hgood => succeeds_of_follows hfollows hgood s',
    fun hgood => succeeds_of_follows hfollows hgood s⟩, ?_⟩
  rw [(hfollows s).2, (hfollows s').2, hs]

theorem runMoved (r : Reader) (h : Host) (levels : Nat) (path : Path)
    {sts sts' : List Rc.Statement} (hsts : List.Forall₂ Moved sts sts') :
    SameEffect (runStatements (sourcing r h levels) r h path sts s)
      (runStatements (sourcing r h levels) r h path sts' s') := by
  refine runStatements_same hs (fun read hr path s s' hs => ?_) r h path hsts
  cases levels with
  | zero => cases hr
  | succ n =>
    obtain rfl := Option.some.inj hr
    exact readFile_same hs r h n path

end effects

/-! ## Statements in another place -/

theorem statementsFrom_moved (n m : Nat) (cs : List Char) :
    List.Forall₂ Moved (Rc.statementsFrom n cs) (Rc.statementsFrom m cs) := by
  induction n, cs using Rc.reading_induction generalizing m with
  | nil n =>
    rw [Rc.statementsFrom_nil, Rc.statementsFrom_nil]
    exact .nil
  | statement n form text rest htext hread ih =>
    rw [Rc.statementsFrom_append hread htext, Rc.statementsFrom_append hread htext]
    exact .cons ⟨rfl, rfl, fun _ _ => Iff.rfl⟩ (ih _)

theorem statements_moved (cs : List Char) :
    List.Forall₂ Moved (Rc.statements cs) (Rc.statements cs) :=
  List.forall₂_same.2 fun st _ => .refl st

def SourcesFirst (cs : List Char) : Prop :=
  ∃ st, (Rc.statements cs).head? = some st ∧ st.form = .command ∧
    ∃ target, sourceTarget st.text = .ok target

section spaces
variable {ws : List Char} (hws : ∀ c ∈ ws, Text.isSpace c = true)
include hws

theorem isLiteral_spaces (form : Rc.Form) (text : List Char) (n m : Nat) :
    Rc.Statement.isLiteral ⟨form, ws ++ text, n⟩ = Rc.Statement.isLiteral ⟨form, text, m⟩ := by
  have hsign : (ws ++ text).dropWhile (· != '=') = text.dropWhile (· != '=') := by
    refine List.dropWhile_append_of_pos fun c hc => ?_
    rw [bne_iff_ne]
    rintro rfl
    exact absurd (hws _ hc) (by decide)
  simp only [Rc.Statement.isLiteral, hsign]

theorem not_sourceTarget_odd (hodd : ¬∀ c ∈ ws, Rc.isBlank c = true) (text target : List Char) :
    sourceTarget (ws ++ text) ≠ .ok target := by
  intro htarget
  obtain ⟨command, hcommand, hwords⟩ := sourceTarget_eq_ok.1 htarget
  obtain ⟨c, word, rest, heq, hspace⟩ := Rc.splitWords_odd hws hodd hwords
  obtain ⟨rfl, -⟩ := List.cons.inj heq
  have hname : c = 's' ∨ c = '.' := by
    rcases List.mem_cons.1 hcommand with he | he
    · exact .inl (List.cons.inj he).1
    · exact .inr (List.cons.inj (List.mem_singleton.1 he)).1
  rcases hname with rfl | rfl <;> exact absurd hspace (by decide)

theorem moved_spaces {form : Rc.Form} {text : List Char}
    (hplain : (∀ c ∈ ws, Rc.isBlank c = true) ∨
      (form = .command → ∀ target, sourceTarget text ≠ .ok target)) (n m : Nat) :
    Moved ⟨form, ws ++ text, n⟩ ⟨form, text, m⟩ := by
  refine ⟨rfl, isLiteral_spaces hws form text n m, fun hform target => ?_⟩
  by_cases hblanks : ∀ c ∈ ws, Rc.isBlank c = true
  · simp only [sourceTarget_eq_ok, Rc.splitWords_blanks hblanks]
  · exact iff_of_false (not_sourceTarget_odd hws hblanks text target)
      (hplain.resolve_left hblanks hform target)

theorem statementsFrom_spaces_append {form : Rc.Form} {text rest : List Char} (htext : text ≠ [])
    (hread : Rc.readStatement (text ++ rest) = (form, rest)) (n : Nat) :
    Rc.statementsFrom n (ws ++ (text ++ rest)) =
      ⟨form, ws ++ text, n⟩ :: Rc.statementsFrom (n + Rc.countLineEnds (ws ++ text)) rest := by
  have hspaces : Rc.readStatement ((ws ++ text) ++ rest) = (form, rest) := by
    rw [List.append_assoc, Rc.readStatement_spaces hws, hread]
  rw [← List.append_assoc, Rc.statementsFrom_append hspaces (by simp [htext])]

variable {r : Reader} {h : Host} {levels : Nat} {path : Path} {s s' : State} {cs : List Char}
  (hmark : cs.head? ≠ some '\ufeff')
include hmark

/-- A text has the same effect behind white space, if that is blanks, or if the text does not start
with a command that sources a file. -/
theorem runSpaces_same (hs : s.values = s'.values)
    (hplain : (∀ c ∈ ws, Rc.isBlank c = true) ∨ ¬SourcesFirst cs) (n : Nat) :
    SameEffect
      (runStatements (sourcing r h levels) r h path (Rc.statementsFrom n (ws ++ cs)) s)
      (runText r h levels path cs s') := by
  rw [runText]
  by_cases hne : cs = []
  · rw [hne, List.append_nil, runStatements_spaces hws, Rc.statements_nil]
    exact .ok hs
  obtain ⟨form, text, rest, rfl, htext, hread⟩ := Rc.exists_statement hne
  have hstatements := (Rc.statements_of_head hmark).trans (Rc.statementsFrom_append hread htext 1)
  rw [statementsFrom_spaces_append hws htext hread, hstatements]
  refine runMoved hs r h levels path (.cons (moved_spaces hws ?_ n 1) (statementsFrom_moved ..))
  refine hplain.imp_right fun hfirst hform target htarget => hfirst ?_
  exact ⟨_, by rw [hstatements]; rfl, hform, target, htarget⟩

theorem runSpaces_error (hodd : ¬∀ c ∈ ws, Rc.isBlank c = true) (hfirst : SourcesFirst cs)
    (n : Nat) :
    ∃ e, runStatements (sourcing r h levels) r h path (Rc.statementsFrom n (ws ++ cs)) s =
      (.error e, s) := by
  obtain ⟨st, hhead, hform, -⟩ := hfirst
  have hne : cs ≠ [] := by
    rintro rfl
    rw [Rc.statements_nil] at hhead
    cases hhead
  obtain ⟨form, text, rest, rfl, htext, hread⟩ := Rc.exists_statement hne
  rw [Rc.statements_of_head hmark, Rc.statementsFrom_append hread htext] at hhead
  obtain rfl := Option.some.inj hhead
  obtain rfl : form = .command := hform
  rw [statementsFrom_spaces_append hws htext hread, runStatements]
  rcases htarget : sourceTarget (ws ++ text) with problem | target
  · simp only [runStatement, htarget]
    exact ⟨_, rfl⟩
  · exact absurd htarget (not_sourceTarget_odd hws hodd text target)

end spaces

/-! ## One text behind another -/

/-- White space that stands at the end as a statement of its own consists of blanks. -/
def PlainEnd (cs : List Char) : Prop :=
  ∀ st ∈ Rc.statements cs, Text.trimLeft st.text = [] → ∀ c ∈ st.text, Rc.isBlank c = true

instance (cs : List Char) : Decidable (PlainEnd cs) :=
  have (st : Rc.Statement) : Decidable (∀ c ∈ st.text, Rc.isBlank c = true) :=
    List.decidableBAll (fun c => Rc.isBlank c = true) st.text
  inferInstanceAs (Decidable (∀ st ∈ Rc.statements cs,
    Text.trimLeft st.text = [] → ∀ c ∈ st.text, Rc.isBlank c = true))

/-- The statements of a text that ends in a line feed and has no commands, with more text behind
it: only white space at the end becomes part of what stands behind. -/
theorem exists_end {cs : List Char} (hend : Rc.EndsLine cs)
    (hcommand : ∀ st ∈ Rc.statements cs, st.form ≠ .command) :
    ∃ busy m ws, (∀ c ∈ ws, Text.isSpace c = true) ∧
      (PlainEnd cs ↔ ∀ c ∈ ws, Rc.isBlank c = true) ∧
      Rc.statements cs = busy ++ Rc.statementsFrom m ws ∧
      ∀ more, Rc.statements (cs ++ more) = busy ++ Rc.statementsFrom m (ws ++ more) := by
  -- a byte order mark in front is none of the text
  obtain ⟨ds, hds, hstatements⟩ : ∃ ds, Rc.EndsLine ds ∧
      ∀ more, Rc.statements (cs ++ more) = Rc.statementsFrom 1 (ds ++ more) := by
    by_cases hmark : cs.head? = some '\ufeff'
    · obtain ⟨ds, rfl⟩ := List.head?_eq_some_iff.1 hmark
      exact ⟨ds, hend.of_cons_suffix (List.suffix_refl _) (by decide), fun _ => rfl⟩
    · refine ⟨cs, hend, fun more => Rc.statements_of_head ?_⟩
      cases cs with
      | nil => exact absurd hend Rc.not_endsLine_nil
      | cons c cs => exact hmark
  obtain ⟨busy, m, ws, hws, hbusy, hsplit, happend⟩ := Rc.exists_statementsFrom_append 1 (.inr hds)
  have hcs : Rc.statements cs = busy ++ Rc.statementsFrom m ws := by
    rw [← List.append_nil cs, hstatements, List.append_nil, hsplit]
  refine ⟨busy, m, ws, hws, ⟨fun hplain => ?_, fun hplain st hst hspaces => ?_⟩, hcs,
    fun more => ?_⟩
  · by_cases hne : ws = []
    · simp [hne]
    · refine hplain ⟨.blank, ws, m⟩ ?_ (Rc.trimLeft_eq_nil_iff.2 hws)
      rw [hcs, Rc.statementsFrom_spaces hws hne]
      simp
  · rw [hcs] at hst
    rcases List.mem_append.1 hst with hst | hst
    · exact absurd hspaces (hbusy st hst)
    · by_cases hne : ws = []
      · rw [hne, Rc.statementsFrom_nil] at hst
        cases hst
      · rw [Rc.statementsFrom_spaces hws hne, List.mem_singleton] at hst
        rw [hst]
        exact hplain
  · rw [hstatements, happend more (.inl fun st hst => hcommand st ?_)]
    rw [hcs]
    exact List.mem_append_left _ hst

section sequence
variable {r : Reader} {h : Host} {levels : Nat} {path : Path} {cs : List Char} {s s₁ : State}
  (hend : Rc.EndsLine cs) (hcommand : ∀ st ∈ Rc.statements cs, st.form ≠ .command)
  (hrun : runText r h levels path cs s = (.ok (), s₁))
include hend hcommand hrun

theorem exists_run : ∃ m ws, (∀ c ∈ ws, Text.isSpace c = true) ∧
    (PlainEnd cs ↔ ∀ c ∈ ws, Rc.isBlank c = true) ∧
    ∀ more, runText r h levels path (cs ++ more) s =
      runStatements (sourcing r h levels) r h path (Rc.statementsFrom m (ws ++ more)) s₁ := by
  obtain ⟨busy, m, ws, hws, hplain, hcs, happend⟩ := exists_end hend hcommand
  refine ⟨m, ws, hws, hplain, fun more => ?_⟩
  rw [runText, hcs, runStatements_append] at hrun
  rw [runText, happend, runStatements_append]
  rcases hbusy : runStatements (sourcing r h levels) r h path busy s with ⟨e | _, t⟩ <;>
    rw [hbusy] at hrun
  · cases hrun
  · simp only [runStatements_spaces hws] at hrun
    obtain ⟨-, rfl⟩ := Prod.mk.inj hrun
    rfl

end sequence

/-! ## A file that is sourced -/

/-- The word names an rc file from the file at `path`, which may source it: the one at `q`, with the
text `u`. -/
structure NamesFile (r : Reader) (h : Host) (path : Path) (word : List Char) (q : Path)
    (u : List Char) : Prop where
  allowed : r.allowSource = true
  plain : Rc.PlainWord word
  opens : ∃ included, h.expandHome (Path.ofString (String.ofList word)) = .ok included ∧
    Opens h (path.parent.join included) q u
  format : Document.Format.ofSuffix? q.suffix = none

theorem readFile_same_text {r : Reader} {h : Host} {path q : Path} {cs : List Char}
    (hq : Opens h path q cs) (hformat : Document.Format.ofSuffix? q.suffix = none) (levels : Nat)
    {s s' : State} (hs : s.values = s'.values) :
    SameEffect (readFile r h levels path s) (runText r h levels q cs s') := by
  have hnoted : (s.note (.overlayRead q.toString)).values = s'.values := hs
  rw [readFile_text hq hformat, runText]
  rcases (runMoved hnoted r h levels q (statements_moved cs)).cases with
    ⟨a, b, t, t', ho, ho', ht⟩ | ⟨e, e', t, t', ho, ho', ht⟩
  · rw [ho, ho']
    exact .ok ht
  · rw [ho, ho']
    exact .error ht

section source
variable {r : Reader} {h : Host} {path q : Path} {word u : List Char}
  (hfile : NamesFile r h path word q u)
include hfile

theorem source_same_text (levels line : Nat) (s : State) :
    SameEffect (source (sourcing r h (levels + 1)) r h path line (String.ofList word) s)
      (runText r h levels q u s) := by
  obtain ⟨included, hincluded, hopens⟩ := hfile.opens
  unfold source
  rw [if_neg (by simp [hfile.allowed])]
  simp only [sourcing, hincluded]
  rcases (readFile_same_text (r := r) hopens hfile.format levels (s := s) rfl).cases with
    ⟨a, b, t, t', ho, ho', ht⟩ | ⟨e, e', t, t', ho, ho', ht⟩
  · rw [ho, ho']
    cases a <;> exact .ok ht
  · rw [ho, ho']
    exact .error ht

theorem runSource_same {ws cs : List Char} (hws : ∀ c ∈ ws, Text.isSpace c = true)
    (hplain : ∀ c ∈ ws, Rc.isBlank c = true) (hmark : cs.head? ≠ some '\ufeff') (levels n : Nat)
    (s : State) :
    SameEffect
      (runStatements (sourcing r h (levels + 1)) r h path
        (Rc.statementsFrom n (ws ++ (Rc.sourceLine word ++ cs))) s)
      (match runText r h levels q u s with
        | (.error e, s) => (.error e, s)
        | (.ok (), s) => runText r h (levels + 1) path cs s) := by
  have htarget : sourceTarget (ws ++ Rc.sourceLine word) = .ok word := by
    refine sourceTarget_eq_ok.2 ⟨"source".toList, by decide, ?_⟩
    rw [Rc.splitWords_blanks hplain, Rc.splitWords_sourceLine hfile.plain]
  rw [statementsFrom_spaces_append hws (Rc.sourceLine_ne_nil word)
    (Rc.readStatement_source hfile.plain cs), runStatements]
  simp only [runStatement, htarget]
  rcases (source_same_text hfile levels _ s).cases with
    ⟨a, b, t, t', ho, ho', ht⟩ | ⟨e, e', t, t', ho, ho', ht⟩
  · rw [ho, ho', runText, Rc.statements_of_head hmark]
    exact runMoved ht r h (levels + 1) path (statementsFrom_moved ..)
  · rw [ho, ho']
    exact .error ht

end source

/-- **Reading is sequential, and sourcing is inlining.** A text that ends in a line feed, has no
commands and is read without a fault can be read first and what stands behind it then, to the same
effect, unless white space other than blanks stands at its end as a statement of its own, and the
text behind it starts with a command that sources a file: that command is at fault then. If the
white space is plain, then a file with a line between the two texts that names an rc file has the
effect of the first text, the text of that file and the second text. -/
theorem reading_sequential {r : Reader} {h : Host} {levels : Nat} {path : Path} {cs ds : List Char}
    {s s₁ : State} (hend : Rc.EndsLine cs) (hcommand : ∀ st ∈ Rc.statements cs, st.form ≠ .command)
    (hrun : runText r h levels path cs s = (.ok (), s₁)) (hmark : ds.head? ≠ some '\ufeff') :
    (PlainEnd cs ∨ ¬SourcesFirst ds →
      SameEffect (runText r h levels path (cs ++ ds) s) (runText r h levels path ds s₁)) ∧
    (¬PlainEnd cs → SourcesFirst ds →
      ∃ e, runText r h levels path (cs ++ ds) s = (.error e, s₁)) ∧
    ∀ (n : Nat) (start q : Path) (word u : List Char), levels = n + 1 → PlainEnd cs →
      NamesFile r h path word q u → Document.Format.ofSuffix? path.suffix = none →
      Opens h start path (cs ++ (Rc.sourceLine word ++ ds)) →
      SameEffect (readFile r h levels start s)
        (match runText r h n q u s₁ with
          | (.error e, s) => (.error e, s)
          | (.ok (), s) => runText r h levels path ds s) := by
  obtain ⟨m, ws, hws, hplain, hbehind⟩ := exists_run hend hcommand hrun
  refine ⟨fun hgood => ?_, fun hodd hfirst => ?_, ?_⟩
  · rw [hbehind]
    exact runSpaces_same hws hmark rfl (hgood.imp_left hplain.1) m
  · rw [hbehind]
    exact runSpaces_error hws hmark (mt hplain.2 hodd) hfirst m
  · rintro n start q word u rfl hblanks hfile hformat hopens
    refine (readFile_same_text hopens hformat (n + 1) rfl).trans ?_
    rw [hbehind]
    exact runSource_same hfile hws (hplain.1 hblanks) hmark n m s₁

def inlined : Host where
  files := Table.ofList [("/rc", .bytes "A=1\n\nsource F\nB=${A}\n".toUTF8.toList),
    ("/F", .bytes "A=2\n".toUTF8.toList)]

/-- The file that is sourced comes between the two assignments. -/
theorem inlined_sequential : ∃ s₁,
    runText {} inlined 16 (Path.ofString "/rc") "A=1\n\n".toList ⟨Table.empty, []⟩ = (.ok (), s₁) ∧
    SameEffect
      (runText {} inlined 16 (Path.ofString "/rc") ("A=1\n\n".toList ++ "B=${A}\n".toList)
        ⟨Table.empty, []⟩)
      (runText {} inlined 16 (Path.ofString "/rc") "B=${A}\n".toList s₁) ∧
    SameEffect (read {} inlined (Path.ofString "/rc") ⟨Table.empty, []⟩)
      (match runText {} inlined 15 (Path.ofString "/F") "A=2\n".toList s₁ with
        | (.error e, s) => (.error e, s)
        | (.ok (), s) => runText {} inlined 16 (Path.ofString "/rc") "B=${A}\n".toList s) ∧
    (read {} inlined (Path.ofString "/rc") ⟨Table.empty, []⟩).2.values.entries =
      [("A", "2"), ("B", "2")] := by
  have hgood : (runText {} inlined 16 (Path.ofString "/rc") "A=1\n\n".toList
      ⟨Table.empty, []⟩).1.toBool = true := by decide +kernel
  rcases hrun : runText {} inlined 16 (Path.ofString "/rc") "A=1\n\n".toList
      ⟨Table.empty, []⟩ with ⟨e | _, s₁⟩ <;> rw [hrun] at hgood
  · cases hgood
  have hend : Rc.EndsLine "A=1\n\n".toList := ⟨"A=1\n".toList, by decide⟩
  have hplain : PlainEnd "A=1\n\n".toList := by decide +kernel
  have hfile : NamesFile {} inlined (Path.ofString "/rc") "F".toList (Path.ofString "/F")
      "A=2\n".toList := by
    refine ⟨rfl, ⟨by decide, by decide, List.forall_mem_singleton.2 (by decide)⟩,
      ⟨_, rfl, rfl, _, rfl, ?_⟩, by decide⟩
    exact Host.readText_toUTF8 (by decide)
  obtain ⟨happend, -, hsource⟩ := reading_sequential hend (by decide +kernel) hrun
    (show "B=${A}\n".toList.head? ≠ some '\ufeff' by decide)
  refine ⟨s₁, rfl, happend (.inl hplain), ?_, by decide +kernel⟩
  exact hsource 15 (Path.ofString "/rc") _ _ _ rfl hplain hfile (by decide)
    ⟨rfl, _, rfl, Host.readText_toUTF8 (by decide)⟩

/-- A form feed in a line of its own, in front of a command that sources a file: the two texts can
be read one after the other, but the command is at fault if they are one text. -/
theorem form_feed_not_sequential :
    Rc.EndsLine "\x0c\n".toList ∧ (∀ st ∈ Rc.statements "\x0c\n".toList, st.form ≠ .command) ∧
    (∀ s, readText {} inlined "\x0c\n" (Path.ofString "/rc") s = (.ok (), s)) ∧
    (readText {} inlined "source F\n" (Path.ofString "/rc") ⟨Table.empty, []⟩).1.toBool = true ∧
    (readText {} inlined "source F\n" (Path.ofString "/rc") ⟨Table.empty, []⟩).2.values.entries =
      [("A", "2")] ∧
    (readText {} inlined "\x0c\nsource F\n" (Path.ofString "/rc")
      ⟨Table.empty, []⟩).1.toBool = false ∧
    (readText {} inlined "\x0c\nsource F\n" (Path.ofString "/rc")
      ⟨Table.empty, []⟩).2.values.entries = [] := by
  refine ⟨⟨['\x0c'], by decide⟩, by decide +kernel, fun s => ?_, by decide +kernel,
    by decide +kernel, by decide +kernel, by decide +kernel⟩
  rw [readText_eq, runText, Rc.statements_of_head (by decide)]
  exact runStatements_spaces (List.all_eq_true.1 (by decide)) 1 s

end LayeredConfig.Overlay
