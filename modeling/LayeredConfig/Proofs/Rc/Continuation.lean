import LayeredConfig.Proofs.Rc.Assignment

/-!
# Statements with more text behind them

A statement ends with its line, and what stands behind a line feed is not looked at, with one
exception: if a statement is left to be read as a command because of a quote that is nowhere closed,
then it is read in another way when a text behind it closes the quote.

* `EndsLine`: a text that ends in a line feed.
* `Continues`: what becomes of a reader when more text stands behind the one it read. There is one
  lemma for each reader, and `Continues.andThen` for one reader behind another.
* `readStatement_append`: a statement is read the same with more text behind it, if it is no command
  or there is no quote behind it.
* `readStatement_cut`: any statement is read the same if the text behind it is taken away.
-/

namespace LayeredConfig.Rc

/-! ## Texts that end in a line feed -/

def EndsLine (cs : List Char) : Prop := ['\n'] <:+ cs

theorem not_endsLine_nil : ¬EndsLine [] := fun h => absurd (List.suffix_nil.1 h) (by simp)

theorem EndsLine.of_suffix {cs ds : List Char} (h : EndsLine cs) (hds : ds <:+ cs)
    (hne : ds ≠ []) : EndsLine ds :=
  List.suffix_of_suffix_length_le h hds (List.length_pos_iff.2 hne)

theorem EndsLine.of_cons_suffix {cs ds : List Char} {c : Char} (h : EndsLine cs)
    (hds : c :: ds <:+ cs) (hc : c ≠ '\n') : EndsLine ds := by
  refine h.of_suffix ((List.suffix_cons c ds).trans hds) ?_
  rintro rfl
  obtain ⟨line, hline⟩ := h.of_suffix hds (by simp)
  exact hc (by simpa using (congrArg List.getLast? hline).symm)

section scan
variable {p : Char → Bool} (hp : p '\n' = false) {cs : List Char} (h : EndsLine cs)
include hp h

theorem takeWhile_append (more : List Char) : (cs ++ more).takeWhile p = cs.takeWhile p := by
  obtain ⟨line, rfl⟩ := h
  rw [List.append_assoc, List.singleton_append, takeWhile_append_stop hp,
    takeWhile_append_stop hp]

theorem dropWhile_append (more : List Char) :
    (cs ++ more).dropWhile p = cs.dropWhile p ++ more := by
  obtain ⟨line, rfl⟩ := h
  rw [List.append_assoc, List.singleton_append, dropWhile_append_stop hp,
    dropWhile_append_stop hp, List.append_assoc, List.singleton_append]

theorem endsLine_dropWhile : EndsLine (cs.dropWhile p) := by
  obtain ⟨line, rfl⟩ := h
  rw [dropWhile_append_stop hp]
  exact List.suffix_append _ _

end scan

/-! ## The pieces of a statement -/

/-- What is left of the text, also where reading had to stop. -/
def left {α : Type} : Reading (α × List Char) → List Char
  | .ok r => r.2
  | .error stop => stop

def Quotes (cs : List Char) : Prop := '\'' ∈ cs ∨ '"' ∈ cs

/-- How reading goes, `o'`, when more text stands behind the one that was read to `o`: in the same
way, or, where it had to stop, perhaps on to a quote in the text behind. -/
def Continues {α : Type} (more : List Char) (o o' : Reading (α × List Char)) : Prop :=
  match o with
  | .ok (a, rest) => o' = .ok (a, rest ++ more)
  | .error stop => EndsLine stop ∧
      (o' = .error (stop ++ more) ∨ (Quotes more ∧ (left o').length < more.length))

theorem readQuoted_more {q : Char} (hq : q ≠ '\\') (cs more : List Char) :
    match readQuoted q cs with
    | some (raw, rest) => readQuoted q (cs ++ more) = some (raw, rest ++ more)
    | none => ∀ r, readQuoted q (cs ++ more) = some r → q :: r.2 <:+ more := by
  have hsuffix : ∀ {cs r}, readQuoted q cs = some r → q :: r.2 <:+ cs := fun {_ r} hr =>
    ⟨r.1, (readQuoted_append hr).symm⟩
  fun_induction readQuoted q cs with
  | case1 => exact fun r hr => hsuffix hr
  | case2 c cs ih =>
    rw [List.cons_append, List.cons_append, readQuoted]
    rcases hr : readQuoted q cs with _ | ⟨raw, rest⟩ <;> rw [hr] at ih
    · intro r hmore
      obtain ⟨r', hr', rfl⟩ := Option.map_eq_some_iff.1 hmore
      exact ih r' hr'
    · simp only [Option.map_some, ih]
  | case3 c cs hpair hc =>
    obtain rfl : c = q := by simpa using hc
    rw [List.cons_append, readQuoted, if_pos hc]
    exact fun _ _ he _ => hq he
  | case4 c cs hpair hc hslash =>
    -- a backslash at the end takes the first character of the text behind along
    obtain rfl : c = '\\' := by simpa using hslash
    obtain rfl : cs = [] := by
      cases cs with
      | nil => rfl
      | cons d ds => exact absurd rfl (hpair d ds rfl)
    cases more with
    | nil => simp [readQuoted, Ne.symm hq]
    | cons d ds =>
      intro r hmore
      obtain ⟨r', hr', rfl⟩ := Option.map_eq_some_iff.1 hmore
      exact (hsuffix hr').trans (List.suffix_cons d ds)
  | case5 c cs hpair hc hslash ih =>
    have hcons := readQuoted_cons (by simpa using hslash) (by simpa using hc) (cs ++ more)
    rw [List.cons_append, hcons]
    rcases hr : readQuoted q cs with _ | ⟨raw, rest⟩ <;> rw [hr] at ih
    · intro r hmore
      obtain ⟨r', hr', rfl⟩ := Option.map_eq_some_iff.1 hmore
      exact ih r' hr'
    · simp only [Option.map_some, ih]

theorem readName_other {c : Char} (hc : c ≠ '\'') (cs : List Char) :
    readName (c :: cs) =
      if isNameChar c then .ok (c :: cs.takeWhile isNameChar, cs.dropWhile isNameChar)
      else .error (c :: cs) := by
  rw [readName]
  exact fun he => hc he

theorem readValue_cons {cs ds : List Char} {d : Char} (h : skipBlanks cs = d :: ds) :
    readValue cs =
      if d = '#' ∧ (d :: ds).length < cs.length then .ok (([], .none), d :: ds)
      else if d = '\'' then
        match readQuoted '\'' ds with
        | some (raw, rest) => .ok ((unescape singleEscape? raw, .single), rest)
        | none => .error (d :: ds)
      else if d = '"' then
        match readQuoted '"' ds with
        | some (raw, rest) => .ok ((unescape doubleEscape? raw, .double), rest)
        | none => .error (d :: ds)
      else
        .ok ((Text.trimRight (dropComment ((d :: ds).takeWhile (!isLineBreak ·))), .none),
          (d :: ds).dropWhile (!isLineBreak ·)) := by
  rw [readValue, h]
  simp only [List.head?_cons, Option.some.injEq]
  split
  · rfl
  · split
    · rename_i heq
      obtain ⟨rfl, rfl⟩ := List.cons.inj heq
      rfl
    · rename_i heq
      obtain ⟨rfl, rfl⟩ := List.cons.inj heq
      rfl
    · rename_i hsingle hdouble
      rw [if_neg fun he => hsingle ds (by rw [he]), if_neg fun he => hdouble ds (by rw [he])]

section pieces
variable {cs : List Char} (h : EndsLine cs) (more : List Char)
include h

theorem skipBlanks_append : skipBlanks (cs ++ more) = skipBlanks cs ++ more :=
  dropWhile_append (by decide) h more

omit more in
theorem endsLine_skipBlanks : EndsLine (skipBlanks cs) := endsLine_dropWhile (by decide) h

theorem readName_continues : Continues more (readName cs) (readName (cs ++ more)) := by
  rcases cs with _ | ⟨c, ds⟩
  · exact absurd h not_endsLine_nil
  by_cases hc : c = '\''
  · subst hc
    have hds : EndsLine ds := h.of_cons_suffix (List.suffix_refl _) (by decide)
    rw [List.cons_append, readName, readName, List.takeWhile_append, List.dropWhile_append]
    have hsplit := List.takeWhile_append_dropWhile (p := fun d => d != '\'') (l := ds)
    rcases hd : ds.dropWhile (fun d => d != '\'') with _ | ⟨e, es⟩
    · -- the quote is not closed in front of the text behind
      rw [hd, List.append_nil] at hsplit
      rw [hsplit, if_pos rfl, if_pos List.isEmpty_nil]
      rcases ds with _ | ⟨d, ds⟩
      · exact absurd hds not_endsLine_nil
      refine ⟨h, ?_⟩
      rcases hm : more.dropWhile (fun d => d != '\'') with _ | ⟨f, fs⟩
      · exact .inl rfl
      · have hsuffix := List.dropWhile_suffix (fun d => d != '\'') (l := more)
        have hquote := List.head?_dropWhile_not (fun d => d != '\'') more
        rw [hm] at hsuffix hquote
        obtain rfl : f = '\'' := by simpa using hquote
        exact .inr ⟨.inl (hsuffix.mem List.mem_cons_self), hsuffix.length_le⟩
    · have hlong : (ds.takeWhile fun d => d != '\'').length ≠ ds.length := by
        intro he
        have hlen := congrArg List.length hsplit
        rw [hd, List.length_append, he, List.length_cons] at hlen
        omega
      rw [if_neg hlong, if_neg (by simp)]
      cases ds.takeWhile (fun d => d != '\'') with
      | nil => exact ⟨h, .inl rfl⟩
      | cons d name => rfl
  · rw [List.cons_append, readName_other hc, readName_other hc]
    split
    · rename_i hname
      have hds : EndsLine ds := h.of_cons_suffix (List.suffix_refl _) (by rintro rfl; cases hname)
      rw [takeWhile_append (by decide) hds, dropWhile_append (by decide) hds]
      rfl
    · exact ⟨h, .inl rfl⟩

omit more in
theorem readName_endsLine {name rest : List Char} (hr : readName cs = .ok (name, rest)) :
    EndsLine rest := by
  rcases cs with _ | ⟨c, ds⟩
  · cases hr
  by_cases hc : c = '\''
  · subst hc
    rw [readName] at hr
    split at hr
    · rename_i hd
      obtain ⟨-, rfl⟩ := Prod.mk.inj (Except.ok.inj hr)
      have hsuffix := List.dropWhile_suffix (fun d => d != '\'') (l := ds)
      rw [hd] at hsuffix
      have hquote := List.head?_dropWhile_not (fun d => d != '\'') ds
      rw [hd] at hquote
      exact h.of_cons_suffix (hsuffix.trans (List.suffix_cons _ ds)) (by rintro rfl; cases hquote)
    · cases hr
  · rw [readName_other hc] at hr
    split at hr
    · rename_i hname
      obtain ⟨-, rfl⟩ := Prod.mk.inj (Except.ok.inj hr)
      exact endsLine_dropWhile (by decide)
        (h.of_cons_suffix (List.suffix_refl _) (by rintro rfl; cases hname))
    · cases hr

omit h in
theorem quoted_continues {q : Char} (hq : q = '\'' ∨ q = '"') (f : Char → Option Char)
    (quoting : Quoting) (hend : EndsLine (q :: cs)) :
    Continues more
      (match readQuoted q cs with
        | some (raw, rest) => .ok ((unescape f raw, quoting), rest)
        | none => .error (q :: cs))
      (match readQuoted q (cs ++ more) with
        | some (raw, rest) => .ok ((unescape f raw, quoting), rest)
        | none => .error (q :: (cs ++ more))) := by
  have hslash : q ≠ '\\' := by rcases hq with rfl | rfl <;> decide
  have hmore := readQuoted_more hslash cs more
  rcases hr : readQuoted q cs with _ | ⟨raw, rest⟩ <;> rw [hr] at hmore
  · refine ⟨hend, ?_⟩
    rcases hm : readQuoted q (cs ++ more) with _ | r
    · exact .inl rfl
    · have hsuffix := hmore r hm
      have hmem : q ∈ more := hsuffix.mem List.mem_cons_self
      refine .inr ⟨?_, hsuffix.length_le⟩
      rcases hq with rfl | rfl
      · exact .inl hmem
      · exact .inr hmem
  · rw [hmore]
    rfl

theorem readValue_continues : Continues more (readValue cs) (readValue (cs ++ more)) := by
  have hblanks := endsLine_skipBlanks h
  rcases hb : skipBlanks cs with _ | ⟨d, ds⟩ <;> rw [hb] at hblanks
  · exact absurd hblanks not_endsLine_nil
  have hb' : skipBlanks (cs ++ more) = d :: (ds ++ more) := by
    rw [skipBlanks_append h, hb, List.cons_append]
  have hlen : (d :: (ds ++ more)).length < (cs ++ more).length ↔
      (d :: ds).length < cs.length := by
    simp only [List.length_append, List.length_cons]
    omega
  rw [readValue_cons hb, readValue_cons hb']
  by_cases hcomment : d = '#' ∧ (d :: ds).length < cs.length
  · rw [if_pos hcomment, if_pos ⟨hcomment.1, hlen.2 hcomment.2⟩]
    rfl
  have hcomment' : ¬(d = '#' ∧ (d :: (ds ++ more)).length < (cs ++ more).length) :=
    fun hc => hcomment ⟨hc.1, hlen.1 hc.2⟩
  rw [if_neg hcomment, if_neg hcomment']
  by_cases hsingle : d = '\''
  · subst hsingle
    rw [if_pos rfl, if_pos rfl]
    exact quoted_continues more (.inl rfl) singleEscape? .single hblanks
  rw [if_neg hsingle, if_neg hsingle]
  by_cases hdouble : d = '"'
  · subst hdouble
    rw [if_pos rfl, if_pos rfl]
    exact quoted_continues more (.inr rfl) doubleEscape? .double hblanks
  rw [if_neg hdouble, if_neg hdouble, ← List.cons_append, takeWhile_append (by decide) hblanks,
    dropWhile_append (by decide) hblanks]
  rfl

omit more in
theorem readValue_endsLine {v : List Char × Quoting} {rest : List Char}
    (hr : readValue cs = .ok (v, rest)) : EndsLine rest := by
  have hblanks := endsLine_skipBlanks h
  rcases hb : skipBlanks cs with _ | ⟨d, ds⟩ <;> rw [hb] at hblanks
  · exact absurd hblanks not_endsLine_nil
  rw [readValue_cons hb] at hr
  have hquoted : ∀ {q : Char} {raw rest : List Char}, q ≠ '\n' →
      readQuoted q ds = some (raw, rest) → EndsLine rest := by
    intro q raw rest hq hread
    have hds := hblanks.of_suffix (List.suffix_cons d ds) (by rintro rfl; cases hread)
    have hsuffix : q :: rest <:+ ds := ⟨raw, (readQuoted_append hread).symm⟩
    exact hds.of_cons_suffix hsuffix hq
  split at hr
  · obtain ⟨-, rfl⟩ := Prod.mk.inj (Except.ok.inj hr)
    exact hblanks
  · split at hr
    · split at hr
      · rename_i hread
        obtain ⟨-, rfl⟩ := Prod.mk.inj (Except.ok.inj hr)
        exact hquoted (by decide) hread
      · cases hr
    · split at hr
      · split at hr
        · rename_i hread
          obtain ⟨-, rfl⟩ := Prod.mk.inj (Except.ok.inj hr)
          exact hquoted (by decide) hread
        · cases hr
      · obtain ⟨-, rfl⟩ := Prod.mk.inj (Except.ok.inj hr)
        exact endsLine_dropWhile (by decide) hblanks

theorem skipComment_append : skipComment (cs ++ more) = skipComment cs ++ more := by
  have hblanks := endsLine_skipBlanks h
  have hhead : (skipBlanks cs ++ more).head? = (skipBlanks cs).head? := by
    rcases hb : skipBlanks cs with _ | ⟨d, ds⟩
    · exact absurd (hb ▸ hblanks) not_endsLine_nil
    · rfl
  rw [skipComment, skipComment, skipBlanks_append h, hhead]
  split
  · exact dropWhile_append (by decide) hblanks more
  · rfl

omit more in
theorem endsLine_skipComment : EndsLine (skipComment cs) := by
  rw [skipComment]
  split
  · exact endsLine_dropWhile (by decide) (endsLine_skipBlanks h)
  · exact h

theorem readLineEnd_append : readLineEnd (cs ++ more) =
    match readLineEnd cs with
    | .ok rest => .ok (rest ++ more)
    | .error stop => .error (stop ++ more) := by
  have hblanks := endsLine_skipBlanks h
  rw [readLineEnd, readLineEnd, skipBlanks_append h]
  rcases hb : skipBlanks cs with _ | ⟨d, ds⟩ <;> rw [hb] at hblanks
  · exact absurd hblanks not_endsLine_nil
  rw [List.cons_append]
  by_cases hfeed : d = '\n'
  · subst hfeed
    rfl
  by_cases hreturn : d = '\r'
  · subst hreturn
    rcases ds with _ | ⟨e, es⟩
    · exact absurd (hblanks.of_cons_suffix (List.suffix_refl _) hfeed) not_endsLine_nil
    by_cases he : e = '\n'
    · subst he
      rfl
    · simp [he]
  · simp [hfeed, hreturn]

theorem finish_continues (form : Form) :
    Continues more (finish form cs) (finish form (cs ++ more)) := by
  rw [finish, finish, skipComment_append h, readLineEnd_append (endsLine_skipComment h)]
  rcases hr : readLineEnd (skipComment cs) with stop | rest
  · obtain rfl := readLineEnd_stop hr
    exact ⟨endsLine_skipComment h, .inl rfl⟩
  · rfl

end pieces

/-! ## One statement -/

def andThen {α β : Type} (o : Reading (α × List Char))
    (f : α → List Char → Reading (β × List Char)) : Reading (β × List Char) :=
  match o with
  | .ok (a, rest) => f a rest
  | .error stop => .error stop

theorem Continues.andThen {α β : Type} {more : List Char} {o o' : Reading (α × List Char)}
    {f : α → List Char → Reading (β × List Char)} (h : Continues more o o')
    (hok : ∀ a rest, o = .ok (a, rest) → Continues more (f a rest) (f a (rest ++ more)))
    (hleft : ∀ a rest, (left (f a rest)).length ≤ rest.length) :
    Continues more (andThen o f) (andThen o' f) := by
  rcases o with stop | ⟨a, rest⟩
  · refine ⟨h.1, h.2.imp (fun he => ?_) fun ⟨hquotes, hlt⟩ => ⟨hquotes, ?_⟩⟩
    · rw [he]
      rfl
    · rcases o' with stop' | ⟨a, rest⟩
      · exact hlt
      · exact (hleft a rest).trans_lt hlt
  · rw [show o' = .ok (a, rest ++ more) from h]
    exact hok a rest rfl

theorem left_finish (form : Form) (cs : List Char) :
    (left (finish form cs)).length ≤ cs.length := by
  have hcomment := (skipComment_suffix cs).length_le
  rcases hr : finish form cs with stop | ⟨form', rest⟩
  · rw [finish_stop hr]
    exact hcomment
  · exact (finish_suffix hr).length_le.trans hcomment

theorem left_readRest (name cs : List Char) : (left (readRest name cs)).length ≤ cs.length := by
  rcases hr : readRest name cs with stop | ⟨form, rest⟩
  · exact (readRest_stop hr).length_le
  · exact (readRest_suffix hr).length_le

theorem readRest_assign {name cs ds : List Char} (h : skipBlanks cs = '=' :: ds) :
    readRest name cs = andThen (readValue ds) fun v rest => finish (.assign name v.1 v.2) rest := by
  rw [readRest, h]
  rcases hv : readValue ds with stop | ⟨⟨value, quoting⟩, rest⟩ <;> simp only [hv] <;> rfl

theorem readRest_bare {name cs : List Char} (h : (skipBlanks cs).head? ≠ some '=') :
    readRest name cs = finish (.bare name) (skipBlanks cs) := by
  rw [readRest]
  split
  · rename_i heq
    exact absurd (heq ▸ rfl) h
  · rfl

theorem readForm_comment {cs ds : List Char} (h : skipExport cs = '#' :: ds) :
    readForm cs = finish .blank ('#' :: ds) := by
  simp only [readForm, h]

theorem readForm_name {cs : List Char} (h : (skipExport cs).head? ≠ some '#') :
    readForm cs = andThen (readName (skipExport cs)) readRest := by
  rw [readForm]
  split
  · rename_i heq
    exact absurd (heq ▸ rfl) h
  · rcases readName (skipExport cs) with stop | ⟨name, rest⟩ <;> rfl

theorem skipLine_suffix (cs : List Char) : skipLine cs <:+ cs :=
  (List.drop_suffix 1 _).trans (List.dropWhile_suffix _)

section statement
variable {cs : List Char} (h : EndsLine cs) (more : List Char)
include h

theorem readRest_continues (name : List Char) :
    Continues more (readRest name cs) (readRest name (cs ++ more)) := by
  have hblanks := endsLine_skipBlanks h
  have hmore := skipBlanks_append h more
  by_cases heq : (skipBlanks cs).head? = some '='
  · obtain ⟨ds, hds⟩ := List.head?_eq_some_iff.1 heq
    rw [hds] at hmore hblanks
    have hend : EndsLine ds := hblanks.of_cons_suffix (List.suffix_refl _) (by decide)
    rw [readRest_assign hds, readRest_assign hmore]
    refine (readValue_continues hend more).andThen (fun v rest hr => ?_) fun v rest =>
      left_finish _ rest
    exact finish_continues (readValue_endsLine hend hr) more _
  · have heq' : (skipBlanks (cs ++ more)).head? ≠ some '=' := by
      rw [hmore]
      rcases hd : skipBlanks cs with _ | ⟨d, ds⟩ <;> rw [hd] at hblanks heq
      · exact absurd hblanks not_endsLine_nil
      · exact heq
    rw [readRest_bare heq, readRest_bare heq', hmore]
    exact finish_continues hblanks more _

theorem skipExport_more : skipExport (cs ++ more) = skipExport cs ++ more ∧
    EndsLine (skipExport cs) := by
  obtain ⟨line, rfl⟩ := h
  have happend := fun tail => skipExport_append (b := '\n') (by decide) (by decide) line tail
  rw [List.append_assoc, List.singleton_append, happend, happend]
  exact ⟨by simp, List.suffix_append _ _⟩

theorem readForm_continues : Continues more (readForm cs) (readForm (cs ++ more)) := by
  obtain ⟨hexport, hend⟩ := skipExport_more h more
  by_cases heq : (skipExport cs).head? = some '#'
  · obtain ⟨ds, hds⟩ := List.head?_eq_some_iff.1 heq
    have hds' : skipExport (cs ++ more) = '#' :: (ds ++ more) := by
      rw [hexport, hds, List.cons_append]
    rw [readForm_comment hds, readForm_comment hds']
    exact finish_continues (hds ▸ hend) more _
  · have heq' : (skipExport (cs ++ more)).head? ≠ some '#' := by
      rw [hexport]
      rcases hd : skipExport cs with _ | ⟨d, ds⟩ <;> rw [hd] at hend heq
      · exact absurd hend not_endsLine_nil
      · exact heq
    rw [readForm_name heq, readForm_name heq', hexport]
    refine (readName_continues hend more).andThen (fun name rest hr => ?_) left_readRest
    exact readRest_continues (readName_endsLine hend hr) more name

theorem skipLine_append : skipLine (cs ++ more) = skipLine cs ++ more := by
  have hbreak := endsLine_dropWhile (p := fun c => !isLineBreak c) (by decide) h
  rw [skipLine, skipLine, dropWhile_append (by decide) h]
  rcases hd : cs.dropWhile (fun c => !isLineBreak c) with _ | ⟨d, ds⟩
  · exact absurd (hd ▸ hbreak) not_endsLine_nil
  · rfl

/-- A statement is read the same with more text behind it, or it is a command that becomes another
statement, which goes on to a quote in the text behind. -/
theorem readStatement_more (hbusy : Text.trimLeft cs ≠ []) :
    readStatement (cs ++ more) = ((readStatement cs).1, (readStatement cs).2 ++ more) ∨
      ((readStatement cs).1 = .command ∧ Quotes more ∧
        (readStatement (cs ++ more)).2.length < more.length) := by
  have htrim : Text.trimLeft (cs ++ more) = Text.trimLeft cs ++ more := by
    rw [Text.trimLeft, List.dropWhile_append, if_neg (by simpa [Text.trimLeft] using hbusy)]
    rfl
  have hend : EndsLine (Text.trimLeft cs) := h.of_suffix (List.dropWhile_suffix _) hbusy
  rw [readStatement, readStatement, htrim]
  rcases hd : Text.trimLeft cs with _ | ⟨d, ds⟩
  · exact absurd hd hbusy
  have hform := readForm_continues (hd ▸ hend) more
  rw [List.cons_append] at hform ⊢
  dsimp only
  rcases hr : readForm (d :: ds) with stop | ⟨form, rest⟩ <;> rw [hr] at hform
  · obtain ⟨hstop, hsame | ⟨hquotes, hbehind⟩⟩ := hform
    · rw [hsame]
      exact .inl (congrArg _ (skipLine_append hstop more))
    · refine .inr ⟨rfl, hquotes, ?_⟩
      rcases hr' : readForm (d :: (ds ++ more)) with stop' | r <;> rw [hr'] at hbehind
      · exact (skipLine_suffix stop').length_le.trans_lt hbehind
      · exact hbehind
  · rw [show readForm (d :: (ds ++ more)) = .ok (form, rest ++ more) from hform]
    exact .inl rfl

end statement

theorem readStatement_spaces {ws : List Char} (hws : ∀ c ∈ ws, Text.isSpace c = true)
    (cs : List Char) : readStatement (ws ++ cs) = readStatement cs := by
  induction ws with
  | nil => rfl
  | cons c ws ih =>
    rw [List.cons_append, readStatement_space (hws c (by simp)),
      ih fun d hd => hws d (by simp [hd])]

theorem trimLeft_eq_nil_iff {cs : List Char} :
    Text.trimLeft cs = [] ↔ ∀ c ∈ cs, Text.isSpace c = true := by
  rw [Text.trimLeft, List.dropWhile_eq_nil_iff]

/-- A statement is read the same with more text behind it, if it is no command or there is no quote
in the text behind. -/
theorem readStatement_append {cs more : List Char} (h : EndsLine cs)
    (hbusy : Text.trimLeft cs ≠ []) (hfar : (readStatement cs).1 ≠ .command ∨ ¬Quotes more) :
    readStatement (cs ++ more) = ((readStatement cs).1, (readStatement cs).2 ++ more) := by
  refine (readStatement_more h more hbusy).resolve_right ?_
  rintro ⟨hcommand, hquotes, -⟩
  exact hfar.elim (· hcommand) (· hquotes)

theorem readStatement_cut {cs more rest : List Char} {form : Form} (h : EndsLine cs)
    (hr : readStatement (cs ++ more) = (form, rest ++ more)) :
    readStatement cs = (form, rest) := by
  rcases more with _ | ⟨c, ds⟩
  · simpa using hr
  have hlong : (c :: ds).length ≤ (readStatement (cs ++ c :: ds)).2.length := by
    rw [hr, List.length_append]
    omega
  by_cases hbusy : Text.trimLeft cs = []
  · have hlen : (readStatement (c :: ds)).2.length < (c :: ds).length := readStatement_length
    rw [← readStatement_spaces (trimLeft_eq_nil_iff.1 hbusy)] at hlen
    omega
  rcases readStatement_more h (c :: ds) hbusy with hsame | ⟨-, -, hbehind⟩
  · rw [hr] at hsame
    obtain ⟨hform, hrest⟩ := Prod.mk.inj hsame
    exact Prod.ext hform.symm (List.append_cancel_right hrest).symm
  · omega

end LayeredConfig.Rc
