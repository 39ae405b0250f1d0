import LayeredConfig.Proofs.Overlay.Run

/-!
# Where the reading of an rc file stops

Statements take effect one after the other, up to the first that is at fault. What stands in front
of that statement could be read alone, to the same effect: `StopsAt`. If the statement does not hand
over to another file, then its report gives the file and the line of its first character, and the
values are those that the text in front of it leaves: `fault_located`.
-/

namespace LayeredConfig.Overlay

/-- Reading the text from the state `s`, where files may source one another this deep, stops at a
statement `st`, to which it comes in the state `t`; in the text, the statement's first character
other than white space stands behind `ahead`. -/
structure StopsAt (r : Reader) (h : Host) (levels : Nat) (path : Path) (cs : List Char) (s : State)
    (e : Fault) (s' : State) (ahead : List Char) (st : Rc.Statement) (t : State) : Prop where
  place : ∃ front behind after, cs = front ++ (st.text ++ behind) ∧
    Rc.statements cs = Rc.statements front ++ st :: after ∧
    ahead = front ++ st.text.takeWhile Text.isSpace
  busy : Text.trimLeft st.text ≠ []
  /-- The text in front of the statement, read alone. -/
  front : runText r h levels path ahead s = (.ok (), t)
  fault : runStatement (sourcing r h levels) r h path st t = (.error e, s')
  /-- What a statement of the file itself reports and leaves. -/
  own : ¬HandsOver (sourcing r h levels) r st → s' = t ∧
    ∃ problem, e = .file path.toString (1 + Text.countLineFeeds ahead) problem

theorem runStatements_append_spaces {readFile : Option (Path → State → Outcome Bool)} {r : Reader}
    {h : Host} {path : Path} {cs ws : List Char} (hcs : cs = [] ∨ Rc.EndsLine cs)
    (hws : ∀ c ∈ ws, Text.isSpace c = true) (n : Nat) (s : State) :
    runStatements readFile r h path (Rc.statementsFrom n (cs ++ ws)) s =
      runStatements readFile r h path (Rc.statementsFrom n cs) s := by
  obtain ⟨busy, m, spaces, hspaces, -, hsplit, happend⟩ := Rc.exists_statementsFrom_append n hcs
  have hquotes : ¬Rc.Quotes ws := by
    rintro (hq | hq) <;> exact absurd (hws _ hq) (by decide)
  have hboth : ∀ c ∈ spaces ++ ws, Text.isSpace c = true := fun c hc =>
    (List.mem_append.1 hc).elim (hspaces c) (hws c)
  rw [happend ws (.inr hquotes), hsplit, runStatements_append, runStatements_append]
  simp only [runStatements_spaces hspaces, runStatements_spaces hboth]

theorem stopsAt_of_error {r : Reader} {h : Host} {levels : Nat} {path : Path} {cs : List Char}
    (hcs : '\r' ∉ cs) {s s' : State} {e : Fault}
    (hrun : runText r h levels path cs s = (.error e, s')) :
    ∃ ahead st t, StopsAt r h levels path cs s e s' ahead st t := by
  obtain ⟨before, st, after, t, hsts, hbefore, hst⟩ := runStatements_error hrun
  obtain ⟨mark, ds, rfl, hmark, hstatements⟩ := Rc.exists_mark cs
  have hall := hstatements ds [] (List.append_nil ds).symm
  rw [hall] at hsts
  obtain ⟨front, behind, rfl, rfl, hline, hfront⟩ :=
    Rc.statementsFrom_split (fun hr => hcs (List.mem_append_right _ hr)) hsts
  have hbusy : Text.trimLeft st.text ≠ [] := by
    refine Rc.busy_of_mem (hsts ▸ List.mem_append_right _ List.mem_cons_self) fun hblank => ?_
    simp only [runStatement, hblank] at hst
    cases hst
  have hblanks : ∀ c ∈ st.text.takeWhile Text.isSpace, Text.isSpace c = true := fun _ hc =>
    List.mem_takeWhile_imp hc
  have htext : st.text = st.text.takeWhile Text.isSpace ++ Text.trimLeft st.text :=
    List.takeWhile_append_dropWhile.symm
  refine ⟨mark ++ (front ++ st.text.takeWhile Text.isSpace), st, t, ?_, hbusy, ?_, hst, ?_⟩
  · refine ⟨mark ++ front, behind, after, (List.append_assoc ..).symm, ?_,
      (List.append_assoc ..).symm⟩
    rw [hall, hsts, hstatements front _ rfl]
  · rw [runText, hstatements _ (Text.trimLeft st.text ++ behind),
      runStatements_append_spaces hfront hblanks]
    · exact hbefore
    · rw [List.append_assoc, ← List.append_assoc (st.text.takeWhile Text.isSpace), ← htext]
  · intro hown
    obtain ⟨problem, he, hs⟩ := runStatement_error hst hown
    refine ⟨hs, problem, ?_⟩
    rw [he, Rc.Statement.startLine, hline, Text.countLineFeeds, Text.countLineFeeds,
      Text.countLineFeeds, List.countP_append, List.countP_append,
      show List.countP _ mark = 0 from hmark, Nat.zero_add, Nat.add_assoc]

/-- **Faults point at their statement and leave what is in front of it.** Reading an rc text without
carriage returns, or an rc file, which has none once its line ends are unified, stops at a fault at
one of its statements. The text in front of the statement's first character can be read alone
without a fault. If the statement does not hand over to a file that it sources, then the fault names
the file, and the line of that character, and the state is the one that the text in front leaves. -/
theorem fault_located (r : Reader) (h : Host) :
    (∀ (text : String) (path : Path) (s s' : State) (e : Fault), '\r' ∉ text.toList →
      readText r h text path s = (.error e, s') →
      ∃ ahead st t, StopsAt r h maxSourceDepth path text.toList s e s' ahead st t) ∧
    ∀ (levels : Nat) (path q : Path) (cs : List Char) (s s' : State) (e : Fault),
      Opens h path q cs → Document.Format.ofSuffix? q.suffix = none →
      readFile r h levels path s = (.error e, s') →
      ∃ ahead st t,
        StopsAt r h levels q cs (s.note (.overlayRead q.toString)) e s' ahead st t := by
  refine ⟨fun text path s s' e hreturn hread => stopsAt_of_error hreturn hread,
    fun levels path q cs s s' e hq hformat hread => ?_⟩
  obtain ⟨body, -, hbody⟩ := hq.text
  refine stopsAt_of_error (Host.not_mem_readText hbody) ?_
  rw [readFile_text hq hformat] at hread
  split at hread
  · rename_i heq
    obtain ⟨he, hs⟩ := Prod.mk.inj hread
    obtain rfl := Except.error.inj he
    rw [heq, hs]
  · cases hread

def reported? {α : Type} : Except Fault α → Option (String × Nat)
  | .error (.file path line _) => some (path, line)
  | _ => none

/-- A host whose file `/rc` holds an assignment over two lines, a comment between blank lines, and a
command that is none. -/
def misplaced : Host where
  files := Table.ofList [("/rc", .bytes "A='x\ny'\n\n# c\n\n  echo hello\n".toUTF8.toList)]

/-- The command stands in the sixth line, and the assignment in front of it has taken effect. -/
theorem misplaced_located : ∃ e s' ahead st t,
    read {} misplaced (Path.ofString "/rc") ⟨Table.empty, []⟩ = (.error e, s') ∧
      StopsAt {} misplaced maxSourceDepth (Path.ofString "/rc")
        "A='x\ny'\n\n# c\n\n  echo hello\n".toList ⟨Table.empty, [.overlayRead "/rc"]⟩ e s' ahead st
        t ∧
      reported? (.error e : Except Fault Bool) = some ("/rc", 6) ∧
      s'.values.entries = [("A", "x\ny")] := by
  have hopens : Opens misplaced (Path.ofString "/rc") (Path.ofString "/rc")
      "A='x\ny'\n\n# c\n\n  echo hello\n".toList :=
    ⟨rfl, _, rfl, Host.readText_toUTF8 (by decide)⟩
  have hplace : reported? (read {} misplaced (Path.ofString "/rc") ⟨Table.empty, []⟩).1 =
      some ("/rc", 6) := by decide +kernel
  have hvalues : (read {} misplaced (Path.ofString "/rc") ⟨Table.empty, []⟩).2.values.entries =
      [("A", "x\ny")] := by decide +kernel
  rcases hread : read {} misplaced (Path.ofString "/rc") ⟨Table.empty, []⟩ with ⟨e | found, s'⟩ <;>
    rw [hread] at hplace hvalues
  · obtain ⟨ahead, st, t, hstops⟩ := (fault_located {} misplaced).2 maxSourceDepth
      (Path.ofString "/rc") _ _ ⟨Table.empty, []⟩ s' e hopens (by decide) hread
    exact ⟨e, s', ahead, st, t, rfl, hstops, hplace, hvalues⟩
  · cases hplace

end LayeredConfig.Overlay
