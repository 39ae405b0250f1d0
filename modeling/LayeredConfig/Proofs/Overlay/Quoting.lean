import LayeredConfig.Proofs.Overlay.Run

/-!
# Which values are taken as they stand

How a value is written is seen twice: by the reader of statements, which skips any white space
behind the equals sign, and by `Rc.Statement.isLiteral`, which looks for a quote behind blanks and
tabs only.

* `Passes`: a reader passes over no equals sign. With it, `readStatement_assign` finds the value of
  an assignment in its text.
* `isLiteral_iff`: the two agree, but for a single quote behind other white space.
* `single_quoted_literal`: what follows for the value that a name gets.
-/

namespace LayeredConfig

namespace Rc

/-! ## The equals sign of an assignment -/

/-- What is left of the text stands behind a part of it without an equals sign. -/
def Passes (cs rest : List Char) : Prop := ∃ front, cs = front ++ rest ∧ '=' ∉ front

theorem Passes.refl (cs : List Char) : Passes cs cs := ⟨[], rfl, List.not_mem_nil⟩

theorem Passes.trans {cs ds es : List Char} (h : Passes cs ds) (h' : Passes ds es) :
    Passes cs es := by
  obtain ⟨front, rfl, hfront⟩ := h
  obtain ⟨front', rfl, hfront'⟩ := h'
  exact ⟨front ++ front', (List.append_assoc ..).symm,
    fun hmem => (List.mem_append.1 hmem).elim hfront hfront'⟩

theorem passes_dropWhile {p : Char → Bool} (hp : p '=' = false) (cs : List Char) :
    Passes cs (cs.dropWhile p) := by
  refine ⟨cs.takeWhile p, List.takeWhile_append_dropWhile.symm, fun hmem => ?_⟩
  rw [List.mem_takeWhile_imp hmem] at hp
  cases hp

theorem passes_skipBlanks (cs : List Char) : Passes cs (skipBlanks cs) :=
  passes_dropWhile (by decide) cs

theorem passes_skipExport (cs : List Char) : Passes cs (skipExport cs) := by
  unfold skipExport
  split
  · rename_i hword
    obtain ⟨ds, rfl⟩ := List.isPrefixOf_iff_prefix.1 hword.1
    exact Passes.trans ⟨"export".toList, rfl, by decide⟩ (passes_skipBlanks ds)
  · exact .refl cs

theorem passes_readName {cs name rest : List Char} (h : readName cs = .ok (name, rest))
    (hname : '=' ∉ name) : Passes cs rest := by
  rcases cs with _ | ⟨c, ds⟩
  · cases h
  by_cases hc : c = '\''
  · subst hc
    rw [readName] at h
    split at h
    · rename_i d name' e rest' htake hdrop
      obtain ⟨rfl, rfl⟩ := Prod.mk.inj (Except.ok.inj h)
      have hquote := List.head?_dropWhile_not (fun c => c != '\'') ds
      rw [hdrop] at hquote
      obtain rfl : e = '\'' := by simpa using hquote
      have hsplit := List.takeWhile_append_dropWhile (p := fun c => c != '\'') (l := ds)
      rw [htake, hdrop] at hsplit
      refine ⟨'\'' :: (d :: name') ++ ['\''], by rw [← hsplit]; simp, fun hmem => hname ?_⟩
      simpa using hmem
    · cases h
  · rw [readName_other hc] at h
    split at h
    · obtain ⟨rfl, rfl⟩ := Prod.mk.inj (Except.ok.inj h)
      refine ⟨c :: ds.takeWhile isNameChar, ?_, hname⟩
      rw [List.cons_append, List.takeWhile_append_dropWhile]
    · cases h

theorem form_of_finish {form form' : Form} {cs rest : List Char}
    (h : finish form cs = .ok (form', rest)) : form' = form := by
  unfold finish at h
  rcases hr : readLineEnd (skipComment cs) with stop | r <;> rw [hr] at h
  · cases h
  · exact (Prod.mk.inj (Except.ok.inj h)).1.symm

theorem readRest_eq_assign {name name' cs value rest : List Char} {quoting : Quoting}
    (h : readRest name cs = .ok (.assign name' value quoting, rest)) : name = name' ∧
      ∃ ds behind, skipBlanks cs = '=' :: ds ∧ readValue ds = .ok ((value, quoting), behind) ∧
        rest <:+ behind := by
  by_cases heq : (skipBlanks cs).head? = some '='
  · obtain ⟨ds, hds⟩ := List.head?_eq_some_iff.1 heq
    rw [readRest_assign hds] at h
    rcases hv : readValue ds with stop | ⟨v, behind⟩ <;> rw [hv] at h
    · cases h
    · obtain ⟨rfl, rfl, rfl⟩ := Form.assign.inj (form_of_finish h)
      exact ⟨rfl, ds, behind, hds, hv, (finish_suffix h).trans (skipComment_suffix behind)⟩
  · rw [readRest_bare heq] at h
    cases form_of_finish h

theorem readStatement_assign {cs name value rest : List Char} {quoting : Quoting}
    (h : readStatement cs = (.assign name value quoting, rest)) (hname : '=' ∉ name) :
    ∃ ds behind, Passes cs ('=' :: ds) ∧ readValue ds = .ok ((value, quoting), behind) ∧
      rest <:+ behind := by
  have htrim : Passes cs (Text.trimLeft cs) := passes_dropWhile (by decide) cs
  rw [readStatement] at h
  rcases hd : Text.trimLeft cs with _ | ⟨d, ds⟩ <;> rw [hd] at h htrim
  · cases h
  dsimp only at h
  rcases hr : readForm (d :: ds) with stop | r <;> rw [hr] at h
  · cases h
  obtain rfl : r = (.assign name value quoting, rest) := h
  have hexport := passes_skipExport (d :: ds)
  by_cases heq : (skipExport (d :: ds)).head? = some '#'
  · obtain ⟨es, hes⟩ := List.head?_eq_some_iff.1 heq
    rw [readForm_comment hes] at hr
    cases form_of_finish hr
  · rw [readForm_name heq] at hr
    rcases hn : readName (skipExport (d :: ds)) with stop | ⟨name', rest'⟩ <;> rw [hn] at hr
    · cases hr
    obtain ⟨rfl, es, behind, hblanks, hvalue, hrest⟩ := readRest_eq_assign hr
    have hassign := passes_skipBlanks rest'
    rw [hblanks] at hassign
    exact ⟨es, behind, htrim.trans (hexport.trans ((passes_readName hn hname).trans hassign)),
      hvalue, hrest⟩

theorem readValue_single {cs value rest : List Char} {quoting : Quoting}
    (h : readValue cs = .ok ((value, quoting), rest)) :
    (quoting = .single ↔ (skipBlanks cs).head? = some '\'') ∧
      ∀ ds, skipBlanks cs = '\'' :: ds → rest <:+ ds := by
  rcases hb : skipBlanks cs with _ | ⟨d, ds⟩
  · rw [readValue, hb] at h
    cases h
    exact ⟨by simp, fun ds hds => absurd hds.symm (List.cons_ne_nil _ _)⟩
  rw [readValue_cons hb] at h
  split at h
  · rename_i hcomment
    cases h
    simp [hcomment.1]
  · split at h
    · rename_i hquote
      split at h
      · rename_i raw rest' hread
        cases h
        refine ⟨iff_of_true rfl (congrArg some hquote), fun es hes => ?_⟩
        obtain ⟨-, rfl⟩ := List.cons.inj hes
        exact readQuoted_suffix hread
      · cases h
    · rename_i hquote
      have hother : ∀ es, d :: ds = '\'' :: es → rest <:+ es := fun es hes =>
        absurd (List.cons.inj hes).1 hquote
      have hhead : (d :: ds).head? ≠ some '\'' := fun hhead => hquote (Option.some.inj hhead)
      split at h
      · split at h
        · cases h
          exact ⟨iff_of_false (by decide) hhead, hother⟩
        · cases h
      · cases h
        exact ⟨iff_of_false (by decide) hhead, hother⟩

/-! ## Two ways to skip blanks -/

theorem head?_dropWhile_iff {p q : Char → Bool} (hpq : ∀ c, p c = true → q c = true) {x : Char}
    (hx : q x = false) (cs : List Char) :
    (cs.dropWhile p).head? = some x ↔
      (cs.dropWhile q).head? = some x ∧ ∀ c ∈ cs.takeWhile q, p c = true := by
  induction cs with
  | nil => simp
  | cons c cs ih =>
    by_cases hp : p c = true
    · rw [List.dropWhile_cons_of_pos hp, List.dropWhile_cons_of_pos (hpq c hp),
        List.takeWhile_cons_of_pos (hpq c hp), List.forall_mem_cons, ih, and_iff_right hp]
    · rw [List.dropWhile_cons_of_neg hp]
      by_cases hq : q c = true
      · rw [List.takeWhile_cons_of_pos hq, List.forall_mem_cons]
        refine iff_of_false (fun hhead => ?_) fun hboth => hp hboth.2.1
        obtain rfl := Option.some.inj hhead
        rw [hq] at hx
        cases hx
      · rw [List.dropWhile_cons_of_neg hq, List.takeWhile_cons_of_neg hq]
        simp

namespace Statement

def behindSign (st : Statement) : List Char := (st.text.dropWhile (· != '=')).drop 1

/-- Only blanks and tabs stand in front of the value. -/
def PlainBlanks (st : Statement) : Prop :=
  ∀ c ∈ st.behindSign.takeWhile Text.isInlineSpace, c = ' ' ∨ c = '\t'

instance (st : Statement) : Decidable st.PlainBlanks :=
  List.decidableBAll (fun c => c = ' ' ∨ c = '\t') _

end Statement

theorem isInlineSpace_of_plain {c : Char} (h : (c == ' ' || c == '\t') = true) :
    Text.isInlineSpace c = true := by
  rcases Bool.or_eq_true_iff.1 h with hc | hc <;> rw [eq_of_beq hc] <;> decide

theorem exists_value {cs name value : List Char} {quoting : Quoting} {st : Statement}
    (hst : st ∈ statements cs) (hform : st.form = .assign name value quoting)
    (hname : isName name = true) : ∃ rest behind,
      readValue (st.behindSign ++ rest) = .ok ((value, quoting), behind) ∧ rest <:+ behind := by
  obtain ⟨mark, ds, rfl, -, hstatements⟩ := exists_mark cs
  rw [hstatements ds [] (List.append_nil ds).symm] at hst
  obtain ⟨rest, -, hread⟩ := readStatement_of_mem hst
  rw [hform] at hread
  have hsign : '=' ∉ name := by
    obtain ⟨c, ds, rfl, hchars⟩ := isName_cons hname
    exact fun hmem => absurd (hchars '=' hmem).1 (by decide)
  obtain ⟨ds, behind, ⟨front, hfront, hpass⟩, hvalue, hrest⟩ := readStatement_assign hread hsign
  obtain ⟨es, rfl⟩ := hrest.trans (readValue_suffix hvalue)
  -- the text of the statement itself, without what stands behind it
  have htext : st.text = front ++ '=' :: es := by
    rw [← List.cons_append, ← List.append_assoc] at hfront
    exact List.append_cancel_right hfront
  have hbehind : st.behindSign = es := by
    rw [Statement.behindSign, htext, dropWhile_append_stop (by decide),
      List.dropWhile_eq_nil_iff.2, List.nil_append, List.drop_one, List.tail_cons]
    intro c hc
    rw [bne_iff_ne]
    rintro rfl
    exact hpass hc
  rw [hbehind]
  exact ⟨rest, behind, hvalue, hrest⟩

theorem readValue_append_single {cs value rest behind : List Char} {quoting : Quoting}
    (hvalue : readValue (cs ++ rest) = .ok ((value, quoting), behind)) (hrest : rest <:+ behind) :
    quoting = .single ↔ (skipBlanks cs).head? = some '\'' := by
  obtain ⟨hsingle, hquote⟩ := readValue_single hvalue
  rw [hsingle]
  by_cases hblank : skipBlanks cs = []
  · have hall : skipBlanks (cs ++ rest) = skipBlanks rest :=
      List.dropWhile_append.trans (if_pos (List.isEmpty_iff.2 hblank))
    rw [hblank, iff_false_right (by simp)]
    intro hhead
    obtain ⟨ds, hds⟩ := List.head?_eq_some_iff.1 hhead
    have hlong := (hrest.trans (hquote ds hds)).length_le
    have hshort := (skipBlanks_suffix rest).length_le
    rw [← hall, hds, List.length_cons] at hshort
    omega
  · have hall : skipBlanks (cs ++ rest) = skipBlanks cs ++ rest :=
      List.dropWhile_append.trans (if_neg (mt List.isEmpty_iff.1 hblank))
    obtain ⟨c, ds, hcons⟩ := List.exists_cons_of_ne_nil hblank
    rw [hall, hcons]
    rfl

/-- A value is taken as it stands exactly if it is read by the rule for single quotes and there are
only blanks and tabs in front of it. -/
theorem isLiteral_iff {cs name value : List Char} {quoting : Quoting} {st : Statement}
    (hst : st ∈ statements cs) (hform : st.form = .assign name value quoting)
    (hname : isName name = true) :
    st.isLiteral = true ↔ quoting = .single ∧ st.PlainBlanks := by
  obtain ⟨rest, behind, hvalue, hrest⟩ := exists_value hst hform hname
  rw [readValue_append_single hvalue hrest, Statement.PlainBlanks, Statement.isLiteral]
  show ((st.behindSign.dropWhile _).head? == some '\'') = true ↔ _
  rw [beq_iff_eq, head?_dropWhile_iff (fun c hc => isInlineSpace_of_plain hc) (by decide)]
  simp only [Bool.or_eq_true, beq_iff_eq]
  rfl

end Rc

namespace Overlay

/-- **Which values are taken as they stand.** An assignment of an rc text to a name that is valid is
taken as it stands exactly if its value is read by the rule for single quotes and only blanks and
tabs stand between the equals sign and the quote: there may be other white space, which the rule
skips as well. If references are replaced, then the name gets the value unchanged in that case, and
else the value with its references replaced, or a fault if one of them is bad. -/
theorem single_quoted_literal {readFile : Option (Path → State → Outcome Bool)} {r : Reader}
    {h : Host} {path : Path} {cs name value : List Char} {quoting : Rc.Quoting} {st : Rc.Statement}
    (hst : st ∈ Rc.statements cs) (hform : st.form = .assign name value quoting)
    (hname : Rc.isName name = true) (hsubstitute : r.substitute = true) (s : State) :
    (st.isLiteral = true ↔ quoting = .single ∧ st.PlainBlanks) ∧
      (quoting = .single ∧ st.PlainBlanks → runStatement readFile r h path st s =
        (.ok (), s.put (String.ofList name) (String.ofList value))) ∧
      (¬(quoting = .single ∧ st.PlainBlanks) → runStatement readFile r h path st s =
        match Rc.substitute (lookup h.env s.values) (Rc.pieces value) with
        | .ok text => (.ok (), s.put (String.ofList name) (String.ofList text))
        | .error bad => (.error (.file path.toString st.startLine
            (.badSubstitution (String.ofList bad))), s)) := by
  have hliteral := Rc.isLiteral_iff hst hform hname
  have hrun : runStatement readFile r h path st s =
      assign r h.env path.toString st name value s := by
    simp only [runStatement, hform]
  refine ⟨hliteral, fun hplain => ?_, fun hother => ?_⟩
  · simp [hrun, assign, hname, hliteral.2 hplain]
  · have hreplaced : st.isLiteral = false := by
      simpa using mt hliteral.1 hother
    simp only [hrun, assign, hname, hsubstitute, hreplaced]
    simp only [Bool.not_true, Bool.false_eq_true, if_false, Bool.not_false, Bool.and_self, if_true]
    rcases Rc.substitute (lookup h.env s.values) (Rc.pieces value) with bad | text <;> rfl

def exported : Rc.Statement :=
  ⟨.assign ['A'] "${B}".toList .single, "export A\u00a0= \t'${B}' # c\n".toList, 2⟩

/-- White space in front of the equals sign and a comment behind the quotes do not matter. -/
theorem exported_literal :
    exported ∈ Rc.statements "B=1\nexport A\u00a0= \t'${B}' # c\n".toList ∧
      exported.isLiteral = true ∧
      runStatement none {} {} (Path.ofString "rc") exported ⟨Table.empty, []⟩ =
        (.ok (), ⟨Table.empty.insert "A" "${B}", []⟩) := by
  have hst : exported ∈ Rc.statements "B=1\nexport A\u00a0= \t'${B}' # c\n".toList := by
    decide +kernel
  obtain ⟨hliteral, hunchanged, -⟩ := @single_quoted_literal none {} {} (Path.ofString "rc")
    _ _ _ _ _ hst rfl (by decide) rfl ⟨Table.empty, []⟩
  exact ⟨hst, hliteral.2 ⟨rfl, by decide⟩, hunchanged ⟨rfl, by decide⟩⟩

/-- A no-break space between the equals sign and the quote: the value is read by the rule for single
quotes, and the reference in it is replaced all the same. -/
theorem shifted_quote_replaced :
    (∃ st ∈ Rc.statements "A=\u00a0'${B}'\n".toList,
      st.form = .assign ['A'] "${B}".toList .single ∧ Rc.isName ['A'] = true ∧
        st.isLiteral = false) ∧
    (readText {} {} "A=\u00a0'${B}'\n" (Path.ofString "rc") ⟨Table.empty, []⟩).2.values.entries =
      [("A", "")] := by
  decide +kernel

end Overlay

end LayeredConfig
