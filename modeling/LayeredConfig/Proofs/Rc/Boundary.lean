import LayeredConfig.Proofs.Rc.Continuation

/-!
# Where statements begin and end

A statement with more text behind it ends in a line break, and the next one begins there.

* `exists_statement`: a text that is not empty is its first statement and the rest.
* `statementsFrom_split`: without carriage returns, the statements in front of a statement are those
  of the text in front of it alone, and its line is counted by the line feeds there.
* `exists_statementsFrom_append`: statements stay the same when more text is put behind them, if
  they are no commands or there is no quote behind them; but white space at the end goes to the
  statement behind.
-/

namespace LayeredConfig.Rc

/-! ## Where a statement ends -/

/-- The rest of the text stands behind a line break. -/
def BreaksAt (rest cs : List Char) : Prop := ∃ b, isLineBreak b = true ∧ b :: rest <:+ cs

theorem BreaksAt.trans {rest cs ds : List Char} (h : BreaksAt rest cs) (hds : cs <:+ ds) :
    BreaksAt rest ds := h.imp fun _ hb => ⟨hb.1, hb.2.trans hds⟩

theorem BreaksAt.suffix {rest cs : List Char} (h : BreaksAt rest cs) : rest <:+ cs :=
  h.elim fun b hb => (List.suffix_cons b rest).trans hb.2

theorem readLineEnd_breaks {cs rest : List Char} (h : readLineEnd cs = .ok rest) :
    rest = [] ∨ BreaksAt rest cs := by
  have hb := skipBlanks_suffix cs
  unfold readLineEnd at h
  split at h <;> rename_i heq
  · exact .inl (Except.ok.inj h).symm
  · obtain rfl := Except.ok.inj h
    exact .inr ⟨'\n', by decide, (List.suffix_cons _ _).trans (heq ▸ hb)⟩
  · obtain rfl := Except.ok.inj h
    exact .inr ⟨'\r', by decide, heq ▸ hb⟩
  · obtain rfl := Except.ok.inj h
    exact .inr ⟨'\n', by decide, heq ▸ hb⟩
  · cases h

theorem finish_breaks {form form' : Form} {cs rest : List Char}
    (h : finish form cs = .ok (form', rest)) : rest = [] ∨ BreaksAt rest cs := by
  unfold finish at h
  rcases hr : readLineEnd (skipComment cs) with stop | r <;> rw [hr] at h
  · cases h
  · obtain ⟨-, rfl⟩ := Prod.mk.inj (Except.ok.inj h)
    exact (readLineEnd_breaks hr).imp_right fun hb => hb.trans (skipComment_suffix cs)

theorem readRest_breaks {name cs rest : List Char} {form : Form}
    (h : readRest name cs = .ok (form, rest)) : rest = [] ∨ BreaksAt rest cs := by
  have hb := skipBlanks_suffix cs
  by_cases heq : (skipBlanks cs).head? = some '='
  · obtain ⟨ds, hds⟩ := List.head?_eq_some_iff.1 heq
    rw [readRest_assign hds] at h
    rcases hv : readValue ds with stop | ⟨v, rest'⟩ <;> rw [hv] at h
    · cases h
    · refine (finish_breaks h).imp_right fun hbreak => hbreak.trans ?_
      exact (readValue_suffix hv).trans ((List.suffix_cons _ _).trans (hds ▸ hb))
  · rw [readRest_bare heq] at h
    exact (finish_breaks h).imp_right fun hbreak => hbreak.trans hb

theorem readName_suffix {cs name rest : List Char} (h : readName cs = .ok (name, rest)) :
    rest <:+ cs := by
  rcases cs with _ | ⟨c, ds⟩
  · cases h
  by_cases hc : c = '\''
  · subst hc
    rw [readName] at h
    split at h
    · rename_i hd
      obtain ⟨-, rfl⟩ := Prod.mk.inj (Except.ok.inj h)
      have hsuffix := List.dropWhile_suffix (fun d => d != '\'') (l := ds)
      rw [hd] at hsuffix
      exact (List.suffix_cons _ _).trans (hsuffix.trans (List.suffix_cons _ _))
    · cases h
  · rw [readName_other hc] at h
    split at h
    · obtain ⟨-, rfl⟩ := Prod.mk.inj (Except.ok.inj h)
      exact (List.dropWhile_suffix _).trans (List.suffix_cons _ _)
    · cases h

theorem readForm_breaks {cs rest : List Char} {form : Form}
    (h : readForm cs = .ok (form, rest)) : rest = [] ∨ BreaksAt rest cs := by
  have hb := skipExport_suffix cs
  by_cases heq : (skipExport cs).head? = some '#'
  · obtain ⟨ds, hds⟩ := List.head?_eq_some_iff.1 heq
    rw [readForm_comment hds] at h
    exact (finish_breaks h).imp_right fun hbreak => hbreak.trans (hds ▸ hb)
  · rw [readForm_name heq] at h
    rcases hn : readName (skipExport cs) with stop | ⟨name, rest'⟩ <;> rw [hn] at h
    · cases h
    · exact (readRest_breaks h).imp_right fun hbreak =>
        hbreak.trans ((readName_suffix hn).trans hb)

theorem readForm_stop {cs stop : List Char} (h : readForm cs = .error stop) : stop <:+ cs := by
  have hb := skipExport_suffix cs
  by_cases heq : (skipExport cs).head? = some '#'
  · obtain ⟨ds, hds⟩ := List.head?_eq_some_iff.1 heq
    rw [readForm_comment hds] at h
    exact finish_stop h ▸ (skipComment_suffix _).trans (hds ▸ hb)
  · rw [readForm_name heq] at h
    rcases hn : readName (skipExport cs) with stop' | ⟨name, rest'⟩ <;> rw [hn] at h
    · obtain rfl : stop' = stop := Except.error.inj h
      exact readName_stop hn ▸ hb
    · exact (readRest_stop h).trans ((readName_suffix hn).trans hb)

theorem skipLine_breaks (cs : List Char) : skipLine cs = [] ∨ BreaksAt (skipLine cs) cs := by
  have hb := List.dropWhile_suffix (fun c => !isLineBreak c) (l := cs)
  have hhead := List.head?_dropWhile_not (fun c => !isLineBreak c) cs
  rw [skipLine]
  rcases hd : cs.dropWhile (fun c => !isLineBreak c) with _ | ⟨d, ds⟩ <;> rw [hd] at hb hhead
  · exact .inl rfl
  · exact .inr ⟨d, by simpa using hhead, hb⟩

theorem readStatement_breaks (cs : List Char) :
    (readStatement cs).2 = [] ∨ BreaksAt (readStatement cs).2 cs := by
  have htrim : Text.trimLeft cs <:+ cs := List.dropWhile_suffix _
  rw [readStatement]
  rcases hd : Text.trimLeft cs with _ | ⟨d, ds⟩ <;> rw [hd] at htrim
  · exact .inl rfl
  dsimp only
  rcases hr : readForm (d :: ds) with stop | r
  · exact (skipLine_breaks stop).imp_right fun hbreak =>
      hbreak.trans ((readForm_stop hr).trans htrim)
  · exact (readForm_breaks hr).imp_right fun hbreak => hbreak.trans htrim

theorem readStatement_suffix (cs : List Char) : (readStatement cs).2 <:+ cs := by
  rcases readStatement_breaks cs with he | hbreak
  · rw [he]
    exact List.nil_suffix
  · exact hbreak.suffix

theorem consumed_append {cs rest : List Char} (h : rest <:+ cs) :
    consumed cs rest ++ rest = cs := by
  obtain ⟨front, rfl⟩ := h
  rw [consumed, List.length_append, Nat.add_sub_cancel, List.take_left]

theorem consumed_of_append (front rest : List Char) : consumed (front ++ rest) rest = front := by
  rw [consumed, List.length_append, Nat.add_sub_cancel, List.take_left]

theorem endsLine_of_readStatement {text rest : List Char} {form : Form}
    (htext : '\r' ∉ text ++ rest) (h : readStatement (text ++ rest) = (form, rest))
    (hne : rest ≠ []) : EndsLine text := by
  have hbreaks := readStatement_breaks (text ++ rest)
  rw [h] at hbreaks
  obtain ⟨b, hb, front, hfront⟩ := hbreaks.resolve_left hne
  obtain rfl : b = '\n' := by
    refine (isLineBreak_cases hb).resolve_left ?_
    rintro rfl
    exact htext (hfront ▸ by simp)
  rw [← List.singleton_append, ← List.append_assoc] at hfront
  exact ⟨front, List.append_cancel_right hfront⟩

theorem countLineEnds_eq {cs : List Char} (h : '\r' ∉ cs) :
    countLineEnds cs = Text.countLineFeeds cs := by
  fun_induction countLineEnds cs with
  | case1 cs ih => simp at h
  | case2 c cs hpair hbreak ih =>
    rw [List.mem_cons, not_or] at h
    obtain rfl : c = '\n' := (isLineBreak_cases hbreak).resolve_left (Ne.symm h.1)
    rw [ih h.2]
    simp [Text.countLineFeeds]
  | case3 c cs hpair hbreak ih =>
    rw [List.mem_cons, not_or] at h
    have hc : c ≠ '\n' := by
      rintro rfl
      exact hbreak rfl
    rw [ih h.2]
    simp [Text.countLineFeeds, hc]
  | case4 => rfl

/-! ## All statements -/

theorem statementsFrom_nil (n : Nat) : statementsFrom n [] = [] := by rw [statementsFrom]

theorem statements_nil : statements [] = [] := statementsFrom_nil 1

theorem statementsFrom_append {text rest : List Char} {form : Form}
    (h : readStatement (text ++ rest) = (form, rest)) (hne : text ≠ []) (n : Nat) :
    statementsFrom n (text ++ rest) =
      ⟨form, text, n⟩ :: statementsFrom (n + countLineEnds text) rest := by
  obtain ⟨c, ds, rfl⟩ := List.exists_cons_of_ne_nil hne
  have hconsumed := consumed_of_append (c :: ds) rest
  rw [List.cons_append] at h hconsumed ⊢
  rw [statementsFrom, h]
  simp only [hconsumed]

theorem exists_statement {cs : List Char} (hne : cs ≠ []) : ∃ form text rest,
    cs = text ++ rest ∧ text ≠ [] ∧ readStatement (text ++ rest) = (form, rest) := by
  obtain ⟨c, ds, rfl⟩ := List.exists_cons_of_ne_nil hne
  have hsplit := consumed_append (readStatement_suffix (c :: ds))
  have hlen : (readStatement (c :: ds)).2.length < (c :: ds).length := readStatement_length
  refine ⟨(readStatement (c :: ds)).1, _, (readStatement (c :: ds)).2, hsplit.symm, ?_, ?_⟩
  · intro he
    rw [he, List.nil_append] at hsplit
    rw [hsplit] at hlen
    exact absurd hlen (lt_irrefl _)
  · rw [hsplit]

/-- Induction along the statements of a text. -/
@[elab_as_elim]
theorem reading_induction {motive : Nat → List Char → Prop} (nil : ∀ n, motive n [])
    (statement : ∀ n form text rest, text ≠ [] → readStatement (text ++ rest) = (form, rest) →
      motive (n + countLineEnds text) rest → motive n (text ++ rest)) (n : Nat) (cs : List Char) :
    motive n cs := by
  induction hlen : cs.length using Nat.strong_induction_on generalizing n cs with
  | _ len ih =>
    by_cases hne : cs = []
    · rw [hne]
      exact nil n
    · obtain ⟨form, text, rest, rfl, htext, hread⟩ := exists_statement hne
      refine statement n form text rest htext hread (ih _ ?_ _ rest rfl)
      have hpos := List.length_pos_iff.2 htext
      rw [← hlen, List.length_append]
      omega

/-- Where a statement stands in a text without carriage returns: the statements in front of it are
those of the text in front of it alone. -/
theorem statementsFrom_split {n : Nat} {cs : List Char} (hcs : '\r' ∉ cs)
    {before after : List Statement} {st : Statement}
    (h : statementsFrom n cs = before ++ st :: after) :
    ∃ front behind, cs = front ++ (st.text ++ behind) ∧ statementsFrom n front = before ∧
      st.line = n + Text.countLineFeeds front ∧ (front = [] ∨ EndsLine front) := by
  induction n, cs using reading_induction generalizing before with
  | nil n =>
    rw [statementsFrom_nil] at h
    cases before <;> cases h
  | statement n form text rest htext hread ih =>
    rw [statementsFrom_append hread htext] at h
    cases before with
    | nil =>
      obtain ⟨rfl, -⟩ := List.cons.inj h
      exact ⟨[], rest, rfl, statementsFrom_nil n, rfl, .inl rfl⟩
    | cons b before =>
      obtain ⟨rfl, hrest⟩ := List.cons.inj h
      have hreturn := not_or.1 (mt List.mem_append.2 hcs)
      obtain ⟨front, behind, hsplit, hbefore, hline, hfront⟩ := ih hreturn.2 hrest
      have hrestne : rest ≠ [] := by
        rintro rfl
        rw [statementsFrom_nil] at hrest
        cases before <;> cases hrest
      -- the first statement is read the same in the text in front: both end in a line feed
      have hend := endsLine_of_readStatement hcs hread hrestne
      have hend' : EndsLine (text ++ front) := by
        rcases hfront with rfl | hfront
        · rwa [List.append_nil]
        · exact hfront.trans (List.suffix_append _ _)
      have hwhole : readStatement ((text ++ front) ++ (st.text ++ behind)) =
          (form, front ++ (st.text ++ behind)) := by
        rw [List.append_assoc, ← hsplit, hread]
      have hcut := readStatement_cut hend' hwhole
      rw [countLineEnds_eq hreturn.1] at hbefore hline
      refine ⟨text ++ front, behind, by rw [hsplit, List.append_assoc], ?_, ?_, .inr hend'⟩
      · rw [statementsFrom_append hcut htext, countLineEnds_eq hreturn.1, hbefore]
      · rw [hline, Text.countLineFeeds, Text.countLineFeeds, Text.countLineFeeds,
          List.countP_append, Nat.add_assoc]

theorem readStatement_of_mem {n : Nat} {cs : List Char} {st : Statement}
    (h : st ∈ statementsFrom n cs) :
    ∃ rest, st.text ≠ [] ∧ readStatement (st.text ++ rest) = (st.form, rest) := by
  induction n, cs using reading_induction with
  | nil n =>
    rw [statementsFrom_nil] at h
    cases h
  | statement n form text rest htext hread ih =>
    rw [statementsFrom_append hread htext, List.mem_cons] at h
    rcases h with rfl | h
    · exact ⟨rest, htext, hread⟩
    · exact ih h

theorem readStatement_eq_of_spaces {text rest : List Char} {form : Form}
    (h : readStatement (text ++ rest) = (form, rest)) (hspaces : Text.trimLeft text = []) :
    form = .blank ∧ rest = [] := by
  rw [readStatement_spaces (trimLeft_eq_nil_iff.1 hspaces)] at h
  cases rest with
  | nil => exact ⟨(Prod.mk.inj h).1.symm, rfl⟩
  | cons c ds =>
    have hlen : (readStatement (c :: ds)).2.length < (c :: ds).length := readStatement_length
    rw [h] at hlen
    exact absurd hlen (lt_irrefl _)

theorem busy_of_mem {n : Nat} {cs : List Char} {st : Statement} (h : st ∈ statementsFrom n cs)
    (hform : st.form ≠ .blank) : Text.trimLeft st.text ≠ [] := by
  intro hspaces
  obtain ⟨rest, -, hread⟩ := readStatement_of_mem h
  exact hform (readStatement_eq_of_spaces hread hspaces).1

/-- More text behind a text: its statements stay the same, if they are no commands or there is no
quote behind them. But white space at the end goes to the first statement of the text behind. -/
theorem exists_statementsFrom_append (n : Nat) {cs : List Char} (h : cs = [] ∨ EndsLine cs) :
    ∃ busy m ws, (∀ c ∈ ws, Text.isSpace c = true) ∧
      (∀ st ∈ busy, Text.trimLeft st.text ≠ []) ∧
      statementsFrom n cs = busy ++ statementsFrom m ws ∧
      ∀ more, (∀ st ∈ busy, st.form ≠ .command) ∨ ¬Quotes more →
        statementsFrom n (cs ++ more) = busy ++ statementsFrom m (ws ++ more) := by
  induction n, cs using reading_induction with
  | nil n => exact ⟨[], n, [], nofun, nofun, rfl, fun _ _ => rfl⟩
  | statement n form text rest htext hread ih =>
    -- once only white space is left, it is the part that goes to the text behind
    by_cases hbusy : Text.trimLeft (text ++ rest) = []
    · exact ⟨[], n, _, trimLeft_eq_nil_iff.1 hbusy, nofun, rfl, fun _ _ => rfl⟩
    have hend : EndsLine (text ++ rest) := h.resolve_left fun he => hbusy (by rw [he]; rfl)
    have hrest : rest = [] ∨ EndsLine rest :=
      or_iff_not_imp_left.2 (hend.of_suffix (List.suffix_append _ _))
    have htextbusy : Text.trimLeft text ≠ [] := by
      intro hspaces
      obtain ⟨-, rfl⟩ := readStatement_eq_of_spaces hread hspaces
      exact hbusy (by rwa [List.append_nil])
    obtain ⟨busy, m, ws, hspace, hnonblank, hsplit, happend⟩ := ih hrest
    refine ⟨⟨form, text, n⟩ :: busy, m, ws, hspace, List.forall_mem_cons.2 ⟨htextbusy, hnonblank⟩,
      ?_, fun more hfar => ?_⟩
    · rw [statementsFrom_append hread htext, hsplit, List.cons_append]
    · rw [List.forall_mem_cons] at hfar
      have hmore : readStatement (text ++ (rest ++ more)) = (form, rest ++ more) := by
        rw [← List.append_assoc,
          readStatement_append hend hbusy (by rw [hread]; exact hfar.imp_left (·.1)), hread]
      rw [List.append_assoc, statementsFrom_append hmore htext, happend more (hfar.imp_left (·.2)),
        List.cons_append]

/-! ## White space and byte order marks -/

theorem statementsFrom_spaces {ws : List Char} (hws : ∀ c ∈ ws, Text.isSpace c = true)
    (hne : ws ≠ []) (n : Nat) : statementsFrom n ws = [⟨.blank, ws, n⟩] := by
  have hread : readStatement (ws ++ []) = (.blank, []) := by
    rw [List.append_nil, readStatement, trimLeft_eq_nil_iff.2 hws]
  have hstatement := statementsFrom_append hread hne n
  rw [List.append_nil] at hstatement
  rw [hstatement, statementsFrom_nil]

theorem statements_of_head {cs : List Char} (h : cs.head? ≠ some '\ufeff') :
    statements cs = statementsFrom 1 cs := by
  unfold statements
  split
  · exact absurd rfl h
  · rfl

/-- The statements of a text, and of the texts that it starts with, are read behind its byte order
mark, if it has one. -/
theorem exists_mark (cs : List Char) : ∃ mark ds, cs = mark ++ ds ∧
    Text.countLineFeeds mark = 0 ∧
    ∀ front behind, ds = front ++ behind → statements (mark ++ front) = statementsFrom 1 front := by
  by_cases hmark : cs.head? = some '\ufeff'
  · obtain ⟨ds, rfl⟩ := List.head?_eq_some_iff.1 hmark
    exact ⟨['\ufeff'], ds, rfl, by decide, fun _ _ _ => rfl⟩
  · refine ⟨[], cs, rfl, rfl, fun front behind h => statements_of_head ?_⟩
    rw [h] at hmark
    cases front with
    | nil => simp
    | cons c front => exact hmark

end LayeredConfig.Rc
