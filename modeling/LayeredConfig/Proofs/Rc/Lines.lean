import Mathlib.Data.List.TakeWhile
import LayeredConfig.Rc.Statement
import LayeredConfig.Rc.Substitution

/-!
# What the lines of an rc file do

Blank lines and comments do nothing. The other statements of a text are its effects, in order.

* `effects`: the statements of a text that do something; white space in front of a text is no part
  of them.
* `isIdle`: a line that does nothing; `effects_idle` and `effects_busy` say that it is just this.
* `isCommentable`: a text that may stand in a comment, over as many lines as it has;
  `effects_comment_iff` says that it is just this.
-/

namespace LayeredConfig.Rc

/-- The statements that do something: what each is, and whether its value is taken as it stands. -/
def effectsOf (sts : List Statement) : List (Form × Bool) :=
  (sts.filter (·.form ≠ .blank)).map fun st => (st.form, st.isLiteral)

def effects (cs : List Char) : List (Form × Bool) := effectsOf (statementsFrom 1 cs)

/-! ## One statement after the other -/

theorem effectsOf_cons (st : Statement) (sts : List Statement) :
    effectsOf (st :: sts) = effectsOf [st] ++ effectsOf sts := by
  rw [← List.singleton_append, effectsOf, List.filter_append, List.map_append]
  rfl

theorem effectsOf_line (form : Form) (text : List Char) (n m : Nat) :
    effectsOf [⟨form, text, n⟩] = effectsOf [⟨form, text, m⟩] := by
  cases form <;> rfl

theorem effectsOf_statementsFrom (n m : Nat) (cs : List Char) :
    effectsOf (statementsFrom n cs) = effectsOf (statementsFrom m cs) := by
  fun_induction statementsFrom n cs generalizing m with
  | case1 => rw [statementsFrom]
  | case2 n c ds r text ih =>
    rw [statementsFrom.eq_2, effectsOf_cons, effectsOf_cons ⟨_, _, m⟩, effectsOf_line _ _ n m]
    exact congrArg _ (ih _)

theorem effects_cons {c : Char} {cs rest : List Char} {form : Form}
    (h : readStatement (c :: cs) = (form, rest)) :
    effects (c :: cs) = effectsOf [⟨form, consumed (c :: cs) rest, 1⟩] ++ effects rest := by
  rw [effects, statementsFrom, h, effectsOf_cons]
  exact congrArg _ (effectsOf_statementsFrom _ 1 rest)

theorem effects_blank {cs rest : List Char} (hne : cs ≠ [])
    (h : readStatement cs = (.blank, rest)) : effects cs = effects rest := by
  obtain ⟨c, ds, rfl⟩ := List.exists_cons_of_ne_nil hne
  rw [effects_cons h]
  rfl

theorem readStatement_space {c : Char} (hc : Text.isSpace c = true) (cs : List Char) :
    readStatement (c :: cs) = readStatement cs := by
  unfold readStatement Text.trimLeft
  rw [List.dropWhile_cons_of_pos hc]

theorem effects_space {c : Char} (hc : Text.isSpace c = true) (cs : List Char) :
    effects (c :: cs) = effects cs := by
  cases cs with
  | nil => exact effects_blank (by simp) (by rw [readStatement_space hc]; rfl)
  | cons d ds =>
    have hlen : (readStatement (d :: ds)).2.length < (d :: ds).length := readStatement_length
    rcases hr : readStatement (d :: ds) with ⟨form, rest⟩
    rw [hr] at hlen
    rw [effects_cons ((readStatement_space hc _).trans hr), effects_cons hr]
    -- the statement is the same but for the white space in front, where no equals sign is
    have hne : (c != '=') = true := by
      rw [bne_iff_ne]
      rintro rfl
      exact absurd hc (by decide)
    have htext : consumed (c :: d :: ds) rest = c :: consumed (d :: ds) rest := by
      have hsub : (c :: d :: ds).length - rest.length = (d :: ds).length - rest.length + 1 := by
        simp only [List.length_cons] at hlen ⊢
        omega
      rw [consumed, hsub, List.take_succ_cons, consumed]
    have hliteral : (Statement.mk form (c :: consumed (d :: ds) rest) 1).isLiteral =
        (Statement.mk form (consumed (d :: ds) rest) 1).isLiteral := by
      simp only [Statement.isLiteral, List.dropWhile_cons, hne, if_true]
    rw [htext]
    cases form <;> simp [effectsOf, hliteral]

theorem effects_spaces {ws : List Char} (hws : ∀ c ∈ ws, Text.isSpace c = true) (cs : List Char) :
    effects (ws ++ cs) = effects cs := by
  induction ws with
  | nil => rfl
  | cons c ws ih =>
    rw [List.cons_append, effects_space (hws c (by simp)), ih fun d hd => hws d (by simp [hd])]

/-! ## Lines that do nothing -/

/-- Nothing stands on the line but white space and perhaps a comment. -/
def isIdle (line : List Char) : Bool :=
  let cs := Text.trimLeft line
  cs.isEmpty || (skipExport cs).head? == some '#'

theorem takeWhile_append_stop {p : Char → Bool} {b : Char} (hb : p b = false)
    (cs tail : List Char) : (cs ++ b :: tail).takeWhile p = cs.takeWhile p := by
  rw [List.takeWhile_append, List.takeWhile_cons_of_neg (by simp [hb]), List.append_nil]
  split
  · rename_i hlength
    exact ((List.takeWhile_prefix p).eq_of_length hlength).symm
  · rfl

theorem dropWhile_append_stop {p : Char → Bool} {b : Char} (hb : p b = false)
    (cs tail : List Char) : (cs ++ b :: tail).dropWhile p = cs.dropWhile p ++ b :: tail := by
  rw [List.dropWhile_append, List.dropWhile_cons_of_neg (by simp [hb])]
  split
  · rename_i hempty
    rw [List.isEmpty_iff.1 hempty, List.nil_append]
  · rfl

theorem prefix_of_prefix_append {p cs tail : List Char} {b : Char} (hb : b ∉ p)
    (h : p <+: cs ++ b :: tail) : p <+: cs := by
  rcases List.prefix_or_prefix_of_prefix h (List.prefix_append cs (b :: tail)) with hp | hc
  · exact hp
  · -- the part of `p` behind `cs` would start with `b`
    obtain ⟨more, rfl⟩ := hc
    rw [List.prefix_append_right_inj] at h
    cases more with
    | nil => simp
    | cons m ms =>
      obtain ⟨rfl, -⟩ := List.cons_prefix_cons.1 h
      exact absurd (by simp) hb

theorem isLineBreak_cases {b : Char} (hb : isLineBreak b = true) : b = '\r' ∨ b = '\n' := by
  simpa only [isLineBreak, Bool.or_eq_true, beq_iff_eq] using hb

theorem isInlineSpace_of_isLineBreak {b : Char} (hb : isLineBreak b = true) :
    Text.isInlineSpace b = false := by
  rcases isLineBreak_cases hb with rfl | rfl <;> decide

theorem isSpace_of_isLineBreak {b : Char} (hb : isLineBreak b = true) :
    Text.isSpace b = true := by
  rcases isLineBreak_cases hb with rfl | rfl <;> decide

theorem skipExport_word (cs : List Char) :
    skipExport ("export".toList ++ cs) =
      if cs.head?.any Text.isInlineSpace then skipBlanks cs else "export".toList ++ cs := by
  have hpre : "export".toList.isPrefixOf ("export".toList ++ cs) = true :=
    List.isPrefixOf_iff_prefix.2 (List.prefix_append _ cs)
  have hdrop : ("export".toList ++ cs).drop 6 = cs := rfl
  rw [skipExport, hpre, hdrop]
  simp only [true_and]

theorem skipExport_other {cs : List Char} (h : ¬ "export".toList <+: cs) : skipExport cs = cs := by
  rw [← List.isPrefixOf_iff_prefix] at h
  exact if_neg fun hp => h hp.1

theorem skipExport_append {b : Char} (hb : Text.isInlineSpace b = false)
    (hexport : b ∉ "export".toList) (cs tail : List Char) :
    skipExport (cs ++ b :: tail) = skipExport cs ++ b :: tail := by
  by_cases hp : "export".toList <+: cs
  · obtain ⟨r, rfl⟩ := hp
    have hhead : (r ++ b :: tail).head?.any Text.isInlineSpace =
        r.head?.any Text.isInlineSpace := by
      cases r <;> simp [hb]
    rw [List.append_assoc, skipExport_word, skipExport_word, hhead]
    split
    · exact dropWhile_append_stop hb r tail
    · rw [List.append_assoc]
  · rw [skipExport_other hp, skipExport_other fun h => hp (prefix_of_prefix_append hexport h)]

theorem readLineEnd_break {b : Char} (hb : isLineBreak b = true) (tail : List Char) :
    ∃ rest, readLineEnd (b :: tail) = .ok rest ∧ effects rest = effects tail := by
  have hblank : skipBlanks (b :: tail) = b :: tail :=
    List.dropWhile_cons_of_neg (by simp [isInlineSpace_of_isLineBreak hb])
  unfold readLineEnd
  rw [hblank]
  rcases isLineBreak_cases hb with rfl | rfl
  · -- a carriage return takes the line feed behind it along
    cases tail with
    | nil => exact ⟨[], rfl, rfl⟩
    | cons d ds =>
      by_cases hd : d = '\n'
      · subst hd
        exact ⟨ds, rfl, (effects_space (by decide) ds).symm⟩
      · refine ⟨d :: ds, ?_, rfl⟩
        split <;> simp_all
  · exact ⟨tail, rfl, rfl⟩

theorem readForm_blank {cs rest : List Char} (h : readForm cs = .ok (.blank, rest)) :
    (skipExport cs).head? = some '#' := by
  have hfinish : ∀ {form : Form} {ds : List Char}, finish form ds = .ok (.blank, rest) →
      form = .blank := by
    intro form ds hf
    unfold finish at hf
    cases hr : readLineEnd (skipComment ds) <;> simp_all [Except.map]
  unfold readForm at h
  split at h
  · rename_i ds heq
    rw [heq]
    rfl
  · split at h
    · rename_i name ds _
      unfold readRest at h
      split at h
      · split at h
        · exact absurd (hfinish h) (by simp)
        · cases h
      · exact absurd (hfinish h) (by simp)
    · cases h

theorem isSpace_of_trimLeft {cs ds : List Char} {d : Char} (h : Text.trimLeft cs = d :: ds) :
    Text.isSpace d = false := by
  have hhead := List.head?_dropWhile_not Text.isSpace cs
  rw [Text.trimLeft] at h
  rwa [h] at hhead

theorem readStatement_cons {c : Char} (hc : Text.isSpace c = false) (cs : List Char) :
    readStatement (c :: cs) =
      match readForm (c :: cs) with
      | .ok r => r
      | .error rest => (.command, skipLine rest) := by
  have htrim : Text.trimLeft (c :: cs) = c :: cs :=
    List.dropWhile_cons_of_neg (by simp [hc])
  have hread := readStatement.eq_1 (c :: cs)
  rw [htrim] at hread
  exact hread

section line
variable {line : List Char} (hline : ∀ c ∈ line, isLineBreak c = false)
  {b : Char} (hb : isLineBreak b = true)

include hb in
theorem skipExport_line (tail : List Char) :
    skipExport (line ++ b :: tail) = skipExport line ++ b :: tail := by
  refine skipExport_append (isInlineSpace_of_isLineBreak hb) (fun h => ?_) line tail
  rcases isLineBreak_cases hb with rfl | rfl <;> exact absurd h (by decide)

theorem effects_trimLeft (line tail : List Char) :
    effects (line ++ tail) = effects (Text.trimLeft line ++ tail) := by
  have hsplit := List.takeWhile_append_dropWhile (p := Text.isSpace) (l := line)
  have hspace : ∀ c ∈ line.takeWhile Text.isSpace, Text.isSpace c = true := fun c hc =>
    List.all_eq_true.1 List.all_takeWhile c hc
  calc effects (line ++ tail)
      = effects (line.takeWhile Text.isSpace ++ (Text.trimLeft line ++ tail)) := by
        rw [← List.append_assoc, Text.trimLeft, hsplit]
    _ = effects (Text.trimLeft line ++ tail) := effects_spaces hspace _

include hline hb in
theorem effects_idle (hidle : isIdle line = true) (tail : List Char) :
    effects (line ++ b :: tail) = effects tail := by
  rw [effects_trimLeft]
  cases hd : Text.trimLeft line with
  | nil => exact effects_space (isSpace_of_isLineBreak hb) tail
  | cons d ds =>
    obtain ⟨es, hes⟩ : ∃ es, skipExport (d :: ds) = '#' :: es := by
      have hcomment : (skipExport (d :: ds)).head? = some '#' := by simpa [isIdle, hd] using hidle
      cases hse : skipExport (d :: ds) <;> simp_all
    have hstay : ∀ c ∈ '#' :: es, isLineBreak c = false := fun c hc =>
      hline c ((List.dropWhile_suffix _).mem (hd ▸ (skipExport_suffix _).mem (hes ▸ hc)))
    obtain ⟨rest, hrest, heffects⟩ := readLineEnd_break hb tail
    have hskip : skipComment ('#' :: es ++ b :: tail) = b :: tail := by
      have hblank : skipBlanks ('#' :: es ++ b :: tail) = '#' :: es ++ b :: tail :=
        List.dropWhile_cons_of_neg (by decide)
      rw [skipComment, hblank, if_pos (by rfl), dropWhile_append_stop (by simp [hb]),
        List.dropWhile_eq_nil_iff.2 fun c hc => by simp [hstay c hc], List.nil_append]
    have hform : readForm (d :: (ds ++ b :: tail)) = .ok (.blank, rest) := by
      rw [readForm, ← List.cons_append, skipExport_line hb, hes]
      show finish .blank ('#' :: es ++ b :: tail) = _
      rw [finish, hskip, hrest]
      rfl
    have hread : readStatement (d :: ds ++ b :: tail) = (.blank, rest) := by
      rw [List.cons_append, readStatement_cons (isSpace_of_trimLeft hd), hform]
    rw [effects_blank (by simp) hread, heffects]

include hb in
theorem effects_busy (hbusy : isIdle line = false) (tail : List Char) :
    effects (line ++ b :: tail) ≠ [] := by
  rw [effects_trimLeft]
  simp only [isIdle, Bool.or_eq_false_iff] at hbusy
  obtain ⟨hne, hhead⟩ := hbusy
  cases hd : Text.trimLeft line with
  | nil => simp [hd] at hne
  | cons d ds =>
    have hother : (skipExport (d :: ds ++ b :: tail)).head? ≠ some '#' := by
      rw [skipExport_line hb]
      cases hse : skipExport (d :: ds) with
      | nil =>
        rcases isLineBreak_cases hb with rfl | rfl <;> simp
      | cons e es => simpa [hd, hse] using hhead
    have hform : (readStatement (d :: ds ++ b :: tail)).1 ≠ .blank := by
      rw [List.cons_append, readStatement_cons (isSpace_of_trimLeft hd)]
      cases hr : readForm (d :: (ds ++ b :: tail)) with
      | error rest => simp
      | ok r =>
        obtain ⟨form, rest⟩ := r
        rintro rfl
        exact hother (readForm_blank hr)
    rcases hread : readStatement (d :: (ds ++ b :: tail)) with ⟨form, rest⟩
    rw [List.cons_append, hread] at hform
    rw [List.cons_append, effects_cons hread]
    simp [effectsOf, hform]

end line

/-! ## Comments over several lines -/

def commented (text : List Char) : List Char :=
  text.flatMap fun c => if c == '\n' then ['\n', '#', ' '] else [c]

/-- The text may stand in a comment: what is behind a carriage return, which ends a line as well,
does nothing. -/
def isCommentable : List Char → Bool
  | [] => true
  | c :: cs => (c != '\r' || isIdle (cs.takeWhile (!isLineBreak ·))) && isCommentable cs

theorem isIdle_comment (line : List Char) : isIdle ('#' :: line) = true := by
  have htrim : Text.trimLeft ('#' :: line) = '#' :: line :=
    List.dropWhile_cons_of_neg (by decide)
  have hexport : skipExport ('#' :: line) = '#' :: line := skipExport_other (by simp)
  simp [isIdle, htrim, hexport]

theorem isCommentable_of_not_mem {text : List Char} (h : '\r' ∉ text) :
    isCommentable text = true := by
  induction text with
  | nil => rfl
  | cons c cs ih =>
    rw [List.mem_cons, not_or] at h
    simp [isCommentable, Ne.symm h.1, ih h.2]

theorem stays_of_not_isLineBreak {c : Char} (hc : isLineBreak c = false) (cs : List Char) :
    commented (c :: cs) = c :: commented cs ∧ isCommentable (c :: cs) = isCommentable cs := by
  simp only [isLineBreak, Bool.or_eq_false_iff, beq_eq_false_iff_ne] at hc
  simp [commented, isCommentable, hc]

theorem not_isLineBreak_mark : ∀ c ∈ "# ".toList, isLineBreak c = false := by
  simp [isLineBreak]

section comment
variable {line : List Char} (hline : ∀ c ∈ line, isLineBreak c = false)
include hline

theorem not_isLineBreak_concat {c : Char} (hc : isLineBreak c = false) :
    ∀ d ∈ line ++ [c], isLineBreak d = false := by
  intro d hd
  rcases List.mem_append.1 hd with hd | hd
  · exact hline d hd
  · rwa [List.mem_singleton.1 hd]

theorem effects_commented {text : List Char}
    (hidle : isIdle (line ++ text.takeWhile (!isLineBreak ·)) = true)
    (htext : isCommentable text = true) (tail : List Char) :
    effects (line ++ (commented text ++ '\n' :: tail)) = effects tail := by
  induction text generalizing line with
  | nil => exact effects_idle hline rfl (by simpa using hidle) tail
  | cons c cs ih =>
    cases hc : isLineBreak c with
    | true =>
      have hhere : isIdle line = true := by simpa [hc] using hidle
      simp only [isCommentable, Bool.and_eq_true, Bool.or_eq_true, bne_iff_ne] at htext
      obtain ⟨hreturn, hcs⟩ := htext
      rcases isLineBreak_cases hc with rfl | rfl
      · have hbehind := @ih [] (by simp) (hreturn.resolve_left (by simp)) hcs
        exact (effects_idle hline (by decide) hhere _).trans hbehind
      · have hbehind := @ih ['#', ' '] not_isLineBreak_mark (isIdle_comment _) hcs
        exact (effects_idle hline (by decide) hhere _).trans hbehind
    | false =>
      obtain ⟨hcommented, hsame⟩ := stays_of_not_isLineBreak hc cs
      have hmore := ih (not_isLineBreak_concat hline hc) (by simpa [hc] using hidle)
        (hsame ▸ htext)
      simpa [hcommented] using hmore

theorem idle_of_effects_commented {text : List Char}
    (h : effects (line ++ (commented text ++ ['\n'])) = []) :
    isIdle (line ++ text.takeWhile (!isLineBreak ·)) = true ∧ isCommentable text = true := by
  induction text generalizing line with
  | nil =>
    refine ⟨?_, rfl⟩
    rw [List.takeWhile_nil, List.append_nil]
    by_contra hbusy
    exact effects_busy rfl (by simpa using hbusy) [] h
  | cons c cs ih =>
    cases hc : isLineBreak c with
    | true =>
      have hhere : isIdle line = true := by
        by_contra hbusy
        rcases isLineBreak_cases hc with rfl | rfl <;>
          exact effects_busy (by decide) (by simpa using hbusy) _ h
      refine ⟨by simpa [hc] using hhere, ?_⟩
      rcases isLineBreak_cases hc with rfl | rfl
      · obtain ⟨hidle, hcs⟩ := @ih [] (by simp)
          ((effects_idle hline (by decide) hhere _).symm.trans h)
        simp only [isCommentable, hcs, Bool.and_true, Bool.or_eq_true]
        exact .inr hidle
      · obtain ⟨-, hcs⟩ := @ih ['#', ' '] not_isLineBreak_mark
          ((effects_idle hline (by decide) hhere _).symm.trans h)
        simp [isCommentable, hcs]
    | false =>
      obtain ⟨hcommented, hsame⟩ := stays_of_not_isLineBreak hc cs
      obtain ⟨hidle, hcs⟩ := ih (not_isLineBreak_concat hline hc) (by simpa [hcommented] using h)
      exact ⟨by simpa [hc] using hidle, hsame.trans hcs⟩

end comment

/-- A text in a comment does nothing exactly if it may stand there. -/
theorem effects_comment_iff (text : List Char) :
    (∀ tail, effects ("# ".toList ++ (commented text ++ '\n' :: tail)) = effects tail) ↔
      isCommentable text = true := by
  refine ⟨fun h => ?_, effects_commented not_isLineBreak_mark (isIdle_comment _)⟩
  have hnil : effects ([] : List Char) = [] := by rw [effects, statementsFrom]; rfl
  exact (idle_of_effects_commented not_isLineBreak_mark ((h []).trans hnil)).2

end LayeredConfig.Rc
