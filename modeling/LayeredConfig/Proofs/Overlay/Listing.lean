import LayeredConfig.Overlay
import LayeredConfig.Proofs.Setting.Listing

/-!
# Reading a listing back

A listing is laid over a table of values like any other rc file.

* `runStatements_assignments`: statements that only assign values as they stand put these in the
  table, whatever the reader and the table are.
* `runStatements_listAll`: so a legible listing gives each of its keys the value shown for it.
* `listing_read_back`: into an empty table it gives just its entries; which lines are read as they
  are meant is said there line by line.
-/

namespace LayeredConfig

theorem Table.entries_ofList {α : Type} {es : List (String × α)} (h : (es.map (·.1)).Nodup) :
    (Table.ofList es).entries = es := by
  have hfold : ∀ (es : List (String × α)) (t : Table α),
      ((t.entries ++ es).map (·.1)).Nodup →
        (es.foldl (fun t e => t.insert e.1 e.2) t).entries = t.entries ++ es := by
    intro es
    induction es with
    | nil => simp
    | cons e es ih =>
      intro t ht
      have hnew : e.1 ∉ t.entries.map (·.1) := by
        intro hin
        rw [List.map_append, List.nodup_append] at ht
        exact ht.2.2 _ hin _ (by simp) rfl
      have hput : (t.insert e.1 e.2).entries = t.entries ++ [e] := Table.put_of_not_mem hnew
      rw [List.foldl_cons, ih _ (by rwa [hput, List.append_assoc]), hput, List.append_assoc]
      rfl
  exact hfold es Table.empty h

namespace Overlay

def State.putAll (s : State) (es : List (String × String)) : State :=
  { s with values := es.foldl (fun t e => t.insert e.1 e.2) s.values }

section statements
variable (readFile : Option (Path → State → Outcome Bool)) (r : Reader) (h : Host) (path : Path)

theorem runStatements_assignments {sts : List Rc.Statement} {es : List (String × String)}
    (hnames : ∀ e ∈ es, Rc.isName e.1.toList = true)
    (heffects : Rc.effectsOf sts =
      es.map fun e => (.assign e.1.toList e.2.toList .single, true)) (s : State) :
    runStatements readFile r h path sts s = (.ok (), s.putAll es) := by
  induction sts generalizing es s with
  | nil =>
    obtain rfl : es = [] := List.map_eq_nil_iff.1 heffects.symm
    rfl
  | cons st sts ih =>
    rw [Rc.effectsOf_cons] at heffects
    by_cases hblank : st.form = .blank
    · have hnone : Rc.effectsOf [st] = [] := by simp [Rc.effectsOf, hblank]
      rw [hnone, List.nil_append] at heffects
      simp only [runStatements, runStatement, hblank, ih hnames heffects s]
    · have hhead : Rc.effectsOf [st] = [(st.form, st.isLiteral)] := by simp [Rc.effectsOf, hblank]
      rw [hhead, List.singleton_append] at heffects
      cases es with
      | nil => cases heffects
      | cons e es =>
        rw [List.map_cons, List.cons.injEq, Prod.mk.injEq] at heffects
        obtain ⟨⟨hform, hliteral⟩, hrest⟩ := heffects
        have hstep : runStatement readFile r h path st s = (.ok (), s.put e.1 e.2) := by
          simp [runStatement, hform, assign, hnames e (by simp), hliteral]
        simp only [runStatements, hstep, ih (fun e he => hnames e (by simp [he])) hrest]
        rfl

variable {useDefaults : Bool} {ss : List Setting}

def shownEntries (useDefaults : Bool) (ss : List Setting) : List (String × String) :=
  ss.map fun s => (s.key, s.shown useDefaults)

theorem statements_listAll (hkeys : ∀ s ∈ ss, Rc.isName s.key.toList = true) :
    Rc.statements (Setting.listAll useDefaults ss).toList =
      Rc.statementsFrom 1 (Setting.listAll useDefaults ss).toList := by
  cases ss with
  | nil => rfl
  | cons s ss =>
    obtain ⟨cs, hcs⟩ : ∃ cs, (Setting.listAll useDefaults (s :: ss)).toList = '#' :: cs := by
      rw [Setting.listAll, List.map_cons, String.join_cons, String.toList_append,
        Setting.listing_eq (hkeys s (by simp)), Setting.heading]
      split <;> exact ⟨_, rfl⟩
    rw [hcs]
    rfl

theorem runStatements_listAll (hkeys : ∀ s ∈ ss, Rc.isName s.key.toList = true)
    (hlegible : ∀ s ∈ ss, s.Legible useDefaults) (s : State) :
    runStatements readFile r h path (Rc.statements (Setting.listAll useDefaults ss).toList) s =
      (.ok (), s.putAll (shownEntries useDefaults ss)) := by
  rw [statements_listAll hkeys]
  refine runStatements_assignments readFile r h path ?_ ?_ s
  · intro e he
    obtain ⟨t, ht, rfl⟩ := List.mem_map.1 he
    exact hkeys t ht
  · rw [shownEntries, List.map_map]
    exact Setting.effects_listAll hkeys hlegible

end statements

/-- **Legible listings are read back.** For settings with distinct names as keys, an assignment in
their listing is read as it is written, whatever follows it, exactly if its value can stand for
itself between single quotes, and a comment does nothing, whatever follows it, exactly if its text
may stand there. If this is so of all entries, then the listing as a whole assigns the values that
are shown, in order, and does nothing else, so reading it into an empty table succeeds and leaves
just these. -/
theorem listing_read_back (r : Reader) (h : Host) (path : Path) {useDefaults : Bool}
    {ss : List Setting} (hkeys : ∀ s ∈ ss, Rc.isName s.key.toList = true)
    (hdistinct : (ss.map (·.key)).Nodup) :
    (∀ s ∈ ss,
      ((∀ tail, Rc.readStatement
          (Rc.assignment s.key.toList (s.shown useDefaults).toList ++ '\n' :: tail) =
            (.assign s.key.toList (s.shown useDefaults).toList .single, tail)) ↔
        Rc.isQuotable (s.shown useDefaults).toList = true) ∧
      ∀ text ∈ s.heading ++ s.remark useDefaults,
        ((∀ tail, Rc.effects (Setting.commentOf text ++ tail) = Rc.effects tail) ↔
          Rc.isCommentable text.toList = true)) ∧
    ((∀ s ∈ ss, s.Legible useDefaults) →
      Rc.effects (Setting.listAll useDefaults ss).toList =
        ss.map (fun s => (.assign s.key.toList (s.shown useDefaults).toList .single, true)) ∧
      ∃ values, readText r h (Setting.listAll useDefaults ss) path ⟨Table.empty, []⟩ =
          (.ok (), ⟨values, []⟩) ∧
        values.entries = ss.map fun s => (s.key, s.shown useDefaults)) := by
  refine ⟨fun s hs => ⟨Rc.readStatement_assignment_iff (hkeys s hs) _,
    fun text _ => Setting.effects_commentOf_iff text⟩, fun hlegible =>
    ⟨Setting.effects_listAll hkeys hlegible, _,
      runStatements_listAll _ r h path hkeys hlegible _, ?_⟩⟩
  have hnames : ((shownEntries useDefaults ss).map (·.1)).Nodup := by
    rw [shownEntries, List.map_map]
    exact hdistinct
  exact Table.entries_ofList hnames

/-- Settings with line feeds, references, comment signs and single backslashes in their texts, a
carriage return in front of a comment, and an ad hoc one. -/
def motley : List Setting := [
  Setting.make "A" .string "d'd" "" "two\nlines" "x\n#${A}",
  Setting.make "export" .boolean "" "" "blank\r \r# comment" "%{?A}\\n%{}",
  Setting.adHoc "_1" "=\""]

/-- The default of `A` holds a quote, but stands in a comment only. -/
theorem motley_read_back : ∃ values,
    readText {} {} (Setting.listAll false motley) (Path.ofString "listing") ⟨Table.empty, []⟩ =
        (.ok (), ⟨values, []⟩) ∧
      values.entries = [("A", "x\n#${A}"), ("export", "%{?A}\\n%{}"), ("_1", "=\"")] := by
  have hkeys : ∀ s ∈ motley, Rc.isName s.key.toList = true := by decide
  have hlegible : ∀ s ∈ motley, s.Legible false := by decide
  obtain ⟨-, hwhole⟩ := listing_read_back {} {} (Path.ofString "listing") hkeys (by decide)
  obtain ⟨-, values, hread, hentries⟩ := hwhole hlegible
  exact ⟨values, hread, hentries.trans (by decide)⟩

def apology : List Setting := [Setting.make "K" .string "it's" "" "" ""]

def smuggler : List Setting := [Setting.make "K" .string "v" "" "x\rEVIL=1" ""]

/-- The listing of the one is rejected as a file, and a comment in that of the other assigns a
value to a name that is no key. -/
theorem apology_not_read_back :
    (∀ s ∈ apology ++ smuggler, Rc.isName s.key.toList = true) ∧
    (∀ s, readText {} {} (Setting.listAll false apology) (Path.ofString "listing")
      ⟨Table.empty, []⟩ ≠ (.ok (), s)) ∧
    ∃ s, readText {} {} (Setting.listAll false smuggler) (Path.ofString "listing")
        ⟨Table.empty, []⟩ = (.ok (), s) ∧
      s.values.entries = [("EVIL", "1"), ("K", "v")] := by
  have hrejected : (readText {} {} (Setting.listAll false apology) (Path.ofString "listing")
      ⟨Table.empty, []⟩).1.toBool = false := by decide +kernel
  have hread : (readText {} {} (Setting.listAll false smuggler) (Path.ofString "listing")
      ⟨Table.empty, []⟩).1.toBool = true := by decide +kernel
  refine ⟨by decide +kernel, fun s hs => ?_, _, Prod.ext ?_ rfl, by decide +kernel⟩
  · rw [hs] at hrejected
    cases hrejected
  · rcases he : (readText {} {} (Setting.listAll false smuggler) (Path.ofString "listing")
      ⟨Table.empty, []⟩).1 with e | _
    · rw [he] at hread
      cases hread
    · rfl

end Overlay

end LayeredConfig
