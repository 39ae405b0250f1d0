import LayeredConfig.Proofs.Rc.Boundary
import LayeredConfig.Rc.Words

/-!
# Commands

A command is split into words in the way of a shell, which knows four blanks, while any white space
in front of a statement is part of its text.

* `splitWords_blanks`, `splitWords_odd`: blanks in front of a command do not change its words, but
  other white space starts its first word.
* `readStatement_source`: a line that sources a file whose name is a plain word.
-/

namespace LayeredConfig.Rc

/-! ## White space in front of a command -/

theorem splitWords_blanks {ws : List Char} (hws : ∀ c ∈ ws, isBlank c = true) (cs : List Char) :
    splitWords (ws ++ cs) = splitWords cs := by
  induction ws with
  | nil => rfl
  | cons c ws ih =>
    rw [List.forall_mem_cons] at hws
    rw [← ih hws.2, splitWords, List.cons_append, splitFrom, placeAfter?, if_pos hws.1]
    rfl

theorem prefix_of_splitFrom {place : Place} {w cs : List Char} {words : List (List Char)}
    (hplace : place.endsWord = false) (h : splitFrom place w cs = some words) :
    ∃ word rest, words = word :: rest ∧ w <+: word := by
  fun_induction splitFrom place w cs with
  | case1 | case2 => cases hplace
  | case3 w => exact ⟨w, [], (Option.some.inj h).symm, List.prefix_refl w⟩
  | case4 | case5 => cases h
  | case6 | case7 | case8 => cases hplace
  | case9 w c cs p hp hends =>
    obtain ⟨rest, -, rfl⟩ := Option.map_eq_some_iff.1 h
    exact ⟨w, rest, rfl, List.prefix_refl w⟩
  | case10 w c cs p hp hgoes ih => exact ih (by simpa using hgoes) h
  | case11 w c cs hp ih =>
    obtain ⟨word, rest, rfl, hword⟩ := ih rfl h
    exact ⟨word, rest, rfl, (List.prefix_append w [c]).trans hword⟩
  | case12 q w c cs hq ih => exact ih rfl h
  | case13 q w c cs hq hslash ih => exact ih rfl h
  | case14 q w c cs hq hslash ih =>
    obtain ⟨word, rest, rfl, hword⟩ := ih rfl h
    exact ⟨word, rest, rfl, (List.prefix_append w [c]).trans hword⟩
  | case15 q w c cs kept ih =>
    obtain ⟨word, rest, rfl, hword⟩ := ih (by cases q <;> rfl) h
    exact ⟨word, rest, rfl, (List.prefix_append w kept).trans hword⟩

theorem placeAfter?_of_space {c : Char} (hc : Text.isSpace c = true) (hblank : isBlank c = false) :
    placeAfter? c = none := by
  have hne : ∀ d : Char, Text.isSpace d = false → c ≠ d := by
    rintro d hd rfl
    rw [hc] at hd
    cases hd
  simp [placeAfter?, hblank, hne '#' (by decide), hne '\'' (by decide), hne '"' (by decide),
    hne '\\' (by decide)]

theorem splitWords_odd {ws cs : List Char} (hws : ∀ c ∈ ws, Text.isSpace c = true)
    (hodd : ¬∀ c ∈ ws, isBlank c = true) {words : List (List Char)}
    (h : splitWords (ws ++ cs) = some words) :
    ∃ c word rest, words = (c :: word) :: rest ∧ Text.isSpace c = true := by
  induction ws with
  | nil => exact absurd nofun hodd
  | cons c ws ih =>
    rw [List.forall_mem_cons] at hws hodd
    by_cases hblank : isBlank c = true
    · rw [← List.singleton_append, List.append_assoc, splitWords_blanks (by simpa)] at h
      exact ih hws.2 (fun hall => hodd ⟨hblank, hall⟩) h
    · rw [splitWords, List.cons_append, splitFrom,
        placeAfter?_of_space hws.1 (by simpa using hblank)] at h
      obtain ⟨word, rest, rfl, tail, rfl⟩ := prefix_of_splitFrom rfl h
      exact ⟨c, tail, rest, rfl, hws.1⟩

/-! ## Sourcing a file -/

theorem finish_busy {c : Char} (hspace : Text.isSpace c = false) (hcomment : c ≠ '#') (form : Form)
    (cs : List Char) : finish form (c :: cs) = .error (c :: cs) := by
  have hblanks : skipBlanks (c :: cs) = c :: cs :=
    List.dropWhile_cons_of_neg (by simp [Text.isInlineSpace, hspace])
  have hne : ∀ d : Char, isLineBreak d = true → c ≠ d := by
    rintro d hd rfl
    rw [isSpace_of_isLineBreak hd] at hspace
    cases hspace
  have hskip : skipComment (c :: cs) = c :: cs := by
    rw [skipComment, hblanks, if_neg (by simpa using hcomment)]
  have hend : readLineEnd (c :: cs) = .error (c :: cs) := by
    rw [readLineEnd, hblanks]
    split <;> rename_i heq
    · cases heq
    · exact absurd (List.cons.inj heq).1 (hne '\r' (by decide))
    · exact absurd (List.cons.inj heq).1 (hne '\r' (by decide))
    · exact absurd (List.cons.inj heq).1 (hne '\n' (by decide))
    · rfl
  rw [finish, hskip, hend]
  rfl

theorem skipLine_line {line : List Char} (hline : ∀ c ∈ line, isLineBreak c = false)
    (tail : List Char) : skipLine (line ++ '\n' :: tail) = tail := by
  rw [skipLine, dropWhile_append_stop (by decide), List.dropWhile_eq_nil_iff.2]
  · rfl
  · exact fun c hc => by rw [hline c hc]; rfl

/-- No character of the word has a meaning to a shell, and an equals sign does not start it. -/
structure PlainWord (w : List Char) : Prop where
  ne_nil : w ≠ []
  sign : w.head? ≠ some '='
  plain : ∀ c ∈ w, Text.isSpace c = false ∧ placeAfter? c = none

def sourceLine (w : List Char) : List Char := "source".toList ++ ' ' :: (w ++ ['\n'])

theorem sourceLine_ne_nil (w : List Char) : sourceLine w ≠ [] :=
  List.append_ne_nil_of_right_ne_nil _ (List.cons_ne_nil _ _)

theorem not_mem_sourceLine {w : List Char} (hw : '\r' ∉ w) : '\r' ∉ sourceLine w := by
  intro hmem
  rcases List.mem_append.1 hmem with hmem | hmem
  · exact absurd hmem (by decide)
  · rcases List.mem_append.1 (List.mem_of_ne_of_mem (by decide) hmem) with hmem | hmem
    · exact hw hmem
    · exact absurd hmem (by decide)

theorem readForm_source (cs : List Char) :
    readForm ("source".toList ++ ' ' :: cs) = readRest "source".toList (' ' :: cs) := by
  have hexport : skipExport ("source".toList ++ ' ' :: cs) = "source".toList ++ ' ' :: cs := rfl
  have hname : readName ("source".toList ++ ' ' :: cs) = .ok ("source".toList, ' ' :: cs) := by
    show readName ('s' :: ("ource".toList ++ ' ' :: cs)) = _
    rw [readName_other (by decide), if_pos (by decide), takeWhile_append_stop (by decide),
      dropWhile_append_stop (by decide)]
    rfl
  rw [readForm_name (by rw [hexport]; nofun), hexport, hname, andThen]

section source
variable {w : List Char} (hw : PlainWord w)
include hw

theorem splitWords_sourceLine : splitWords (sourceLine w) = some ["source".toList, w] := by
  have hword : ∀ v u : List Char, (∀ c ∈ u, placeAfter? c = none) →
      splitFrom .word v (u ++ ['\n']) = some [v ++ u] := by
    intro v u hu
    induction u generalizing v with
    | nil => simp [splitFrom, placeAfter?, isBlank, Place.endsWord]
    | cons c u ih =>
      rw [List.forall_mem_cons] at hu
      rw [List.cons_append, splitFrom, hu.1]
      simpa using ih (v ++ [c]) hu.2
  obtain ⟨c, u, rfl⟩ := List.exists_cons_of_ne_nil hw.ne_nil
  have hplain := List.forall_mem_cons.1 fun d hd => (hw.plain d hd).2
  have hbehind : splitFrom .between [] (c :: u ++ ['\n']) = some [c :: u] := by
    rw [List.cons_append, splitFrom, hplain.1]
    exact hword [c] u hplain.2
  have hsource : splitWords (sourceLine (c :: u)) =
      (splitFrom .between [] (c :: u ++ ['\n'])).map ("source".toList :: ·) := rfl
  rw [hsource, hbehind]
  rfl

theorem readStatement_source (tail : List Char) :
    readStatement (sourceLine w ++ tail) = (.command, tail) := by
  obtain ⟨c, u, rfl⟩ := List.exists_cons_of_ne_nil hw.ne_nil
  obtain ⟨hspace, hplain⟩ := hw.plain c List.mem_cons_self
  have hcomment : c ≠ '#' := by
    rintro rfl
    cases hplain
  have hbreaks : ∀ d ∈ c :: u, isLineBreak d = false := by
    intro d hd
    by_contra hbreak
    exact absurd (isSpace_of_isLineBreak (by simpa using hbreak)) (by simp [(hw.plain d hd).1])
  have hskip : skipBlanks (' ' :: (c :: u ++ '\n' :: tail)) = c :: (u ++ '\n' :: tail) := by
    rw [skipBlanks, List.dropWhile_cons_of_pos (by decide)]
    exact List.dropWhile_cons_of_neg (by simp [Text.isInlineSpace, hspace])
  have hrest : readRest "source".toList (' ' :: (c :: u ++ '\n' :: tail)) =
      .error (c :: u ++ '\n' :: tail) := by
    rw [readRest_bare (by rw [hskip]; exact hw.sign), hskip, finish_busy hspace hcomment]
    rfl
  have htext : sourceLine (c :: u) ++ tail =
      "source".toList ++ ' ' :: (c :: u ++ '\n' :: tail) := by
    refine (List.append_assoc ..).trans (congrArg ("source".toList ++ ·) ?_)
    simp
  have hform : readForm ('s' :: ("ource".toList ++ ' ' :: (c :: u ++ '\n' :: tail))) =
      .error (c :: u ++ '\n' :: tail) := (readForm_source _).trans hrest
  rw [htext]
  show readStatement ('s' :: ("ource".toList ++ ' ' :: (c :: u ++ '\n' :: tail))) = _
  rw [readStatement_cons (by decide), hform]
  exact congrArg _ (skipLine_line hbreaks tail)

theorem statements_sourceLine : statements (sourceLine w) = [⟨.command, sourceLine w, 1⟩] := by
  have hstatement := statementsFrom_append (readStatement_source hw []) (sourceLine_ne_nil w) 1
  have hhead : (sourceLine w).head? = some 's' := rfl
  rw [List.append_nil] at hstatement
  rw [statements_of_head (by simp [hhead]), hstatement, statementsFrom_nil]

end source

end LayeredConfig.Rc
