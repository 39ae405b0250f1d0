import LayeredConfig.Proofs.Rc.Lines

/-!
# Quoted assignments

A value between single quotes is read up to the next quote that no backslash protects, and a
backslash in front of a quote or another backslash is dropped. So not every value stands for itself.

* `isQuotable`: the values that do.
* `readStatement_assignment_iff`: an assignment of a value between single quotes is read as it is
  written exactly if the value is one of them.
* `effects_assignment`: what it does then.
-/

namespace LayeredConfig.Rc

/-- A value that stands for itself between single quotes: it holds no quote, no backslash with
another one behind it and none at its end. -/
def isQuotable : List Char → Bool
  | [] => true
  | ['\\'] => false
  | '\\' :: c :: cs => c != '\\' && c != '\'' && isQuotable cs
  | c :: cs => c != '\'' && isQuotable cs

def assignment (name value : List Char) : List Char := name ++ ('=' :: '\'' :: value ++ ['\''])

/-! ## Values between quotes -/

theorem isQuotable_of_plain {value : List Char} (h : ∀ c ∈ value, c ≠ '\'' ∧ c ≠ '\\') :
    isQuotable value = true := by
  fun_induction isQuotable value with
  | case1 => rfl
  | case2 => exact absurd rfl (h '\\' (by simp)).2
  | case3 => exact absurd rfl (h '\\' (by simp)).2
  | case4 c cs _ _ ih =>
    rw [ih fun d hd => h d (by simp [hd])]
    simp [(h c (by simp)).1]

theorem ne_backslash {c : Char} {cs : List Char} (hend : c = '\\' → cs = [] → False)
    (hpair : ∀ d ds, c = '\\' → cs = d :: ds → False) : c ≠ '\\' := by
  intro hc
  cases cs with
  | nil => exact hend hc rfl
  | cons d ds => exact hpair d ds hc rfl

theorem singleEscape?_eq_none {c : Char} (hslash : c ≠ '\\') (hquote : c ≠ '\'') :
    singleEscape? c = none := by
  simp [singleEscape?, hslash, hquote]

theorem unescape_cons {f : Char → Option Char} {c : Char} (hc : c ≠ '\\') (cs : List Char) :
    unescape f (c :: cs) = c :: unescape f cs := by
  rw [unescape]
  exact fun _ _ he _ => hc he

theorem readQuoted_cons {q c : Char} (hslash : c ≠ '\\') (hq : c ≠ q) (cs : List Char) :
    readQuoted q (c :: cs) = (readQuoted q cs).map fun r => (c :: r.1, r.2) := by
  rw [readQuoted, if_neg (by simpa using hq), if_neg (by simpa using hslash)]
  exact fun _ _ he _ => hslash he

theorem unescape_length (f : Char → Option Char) (cs : List Char) :
    (unescape f cs).length ≤ cs.length := by
  fun_induction unescape f cs with
  | case1 c cs d _ ih => simp only [List.length_cons] at *; omega
  | case2 c cs _ ih => simp only [List.length_cons] at *; omega
  | case3 c cs _ ih => simp only [List.length_cons] at *; omega
  | case4 => simp

theorem readQuoted_of_isQuotable {value : List Char} (h : isQuotable value = true)
    (tail : List Char) :
    readQuoted '\'' (value ++ '\'' :: tail) = some (value, tail) ∧
      unescape singleEscape? value = value := by
  fun_induction isQuotable value with
  | case1 => exact ⟨rfl, rfl⟩
  | case2 => cases h
  | case3 c cs ih =>
    simp only [Bool.and_eq_true, bne_iff_ne] at h
    obtain ⟨⟨hslash, hquote⟩, hcs⟩ := h
    obtain ⟨hread, hsame⟩ := ih hcs
    refine ⟨by simp [readQuoted, hread], ?_⟩
    rw [unescape, singleEscape?_eq_none hslash hquote]
    simp only [unescape_cons hslash, hsame]
  | case4 c cs hend hpair ih =>
    simp only [Bool.and_eq_true, bne_iff_ne] at h
    obtain ⟨hquote, hcs⟩ := h
    have hslash := ne_backslash hend hpair
    obtain ⟨hread, hsame⟩ := ih hcs
    exact ⟨by simp [readQuoted_cons hslash hquote, hread], by rw [unescape_cons hslash, hsame]⟩

theorem readQuoted_append {q : Char} {cs raw rest : List Char}
    (h : readQuoted q cs = some (raw, rest)) : cs = raw ++ q :: rest := by
  fun_induction readQuoted q cs generalizing raw rest with
  | case1 => cases h
  | case2 c cs ih =>
    obtain ⟨⟨raw', rest'⟩, hr, he⟩ := Option.map_eq_some_iff.1 h
    obtain ⟨rfl, rfl⟩ := Prod.mk.inj he
    simp [ih hr]
  | case3 c cs _ hc =>
    obtain ⟨rfl, rfl⟩ := Prod.mk.inj (Option.some.inj h)
    simpa using hc
  | case4 => cases h
  | case5 c cs _ _ _ ih =>
    obtain ⟨⟨raw', rest'⟩, hr, he⟩ := Option.map_eq_some_iff.1 h
    obtain ⟨rfl, rfl⟩ := Prod.mk.inj he
    simp [ih hr]

theorem isQuotable_of_readQuoted {value tail rest : List Char}
    (hread : readQuoted '\'' (value ++ '\'' :: tail) = some (value, rest))
    (hsame : unescape singleEscape? value = value) : isQuotable value = true := by
  fun_induction isQuotable value with
  | case1 => rfl
  | case2 =>
    obtain ⟨r, -, he⟩ := Option.map_eq_some_iff.1 hread
    simp at he
  | case3 c cs ih =>
    obtain ⟨⟨raw, rest'⟩, hr, he⟩ := Option.map_eq_some_iff.1 hread
    simp only [Prod.mk.injEq, List.cons.injEq, true_and] at he
    obtain ⟨rfl, rfl⟩ := he
    rw [unescape] at hsame
    cases hescape : singleEscape? c with
    | some d =>
      -- the backslash was dropped, so the value became shorter
      have hlen := unescape_length singleEscape? raw
      rw [hescape] at hsame
      have := congrArg List.length hsame
      simp only [List.length_cons] at this
      omega
    | none =>
      have hc : c ≠ '\\' ∧ c ≠ '\'' := by simpa [singleEscape?] using hescape
      simp only [hescape, unescape_cons hc.1, List.cons.injEq, true_and] at hsame
      simp [hc, ih hr hsame]
  | case4 c cs hend hpair ih =>
    have hslash := ne_backslash hend hpair
    have hquote : c ≠ '\'' := by
      rintro rfl
      simp [readQuoted] at hread
    rw [List.cons_append, readQuoted_cons hslash hquote] at hread
    obtain ⟨⟨raw, rest'⟩, hr, he⟩ := Option.map_eq_some_iff.1 hread
    simp only [Prod.mk.injEq, List.cons.injEq, true_and] at he
    obtain ⟨rfl, rfl⟩ := he
    rw [unescape_cons hslash, List.cons.injEq] at hsame
    simp [hquote, ih hr hsame.2]

/-! ## Names in front of an equals sign -/

theorem toNat_of_isAlphanum {c : Char} (h : c.isAlphanum = true) :
    (48 ≤ c.toNat ∧ c.toNat ≤ 57) ∨ (65 ≤ c.toNat ∧ c.toNat ≤ 90) ∨
      (97 ≤ c.toNat ∧ c.toNat ≤ 122) := by
  rcases Bool.or_eq_true_iff.1 h with hletter | hdigit
  · rcases Bool.or_eq_true_iff.1 hletter with hupper | hlower
    · exact .inr (.inl (of_decide_eq_true hupper))
    · obtain ⟨hlow, hhigh⟩ := Bool.and_eq_true_iff.1 hlower
      exact .inr (.inr ⟨of_decide_eq_true hlow, of_decide_eq_true hhigh⟩)
  · exact .inl (Char.isDigit_iff_toNat.1 hdigit)

theorem isNameChar_of_alphanum {c : Char} (h : c = '_' ∨ c.isAlphanum = true) :
    isNameChar c = true ∧ Text.isSpace c = false ∧ c ≠ '\'' := by
  rcases h with rfl | h
  · decide
  · have hrange := toNat_of_isAlphanum h
    have hne : ∀ d : Char, d.toNat = 61 ∨ d.toNat = 35 ∨ d.toNat = 39 → c ≠ d := by
      rintro d hd rfl
      omega
    have hspace : Text.isSpace c = false := by
      simp only [Text.isSpace, Bool.or_eq_false_iff, Bool.and_eq_false_iff, beq_eq_false_iff_ne,
        decide_eq_false_iff_not]
      omega
    refine ⟨?_, hspace, hne '\'' (.inr (.inr rfl))⟩
    simp [isNameChar, hspace, hne '=' (.inl rfl), hne '#' (.inr (.inl rfl))]

theorem isName_cons {name : List Char} (h : isName name = true) :
    ∃ c cs, name = c :: cs ∧
      ∀ d ∈ c :: cs, isNameChar d = true ∧ Text.isSpace d = false ∧ d ≠ '\'' := by
  cases name with
  | nil => cases h
  | cons c cs =>
    simp only [isName, isNameStart, Bool.and_eq_true, Bool.or_eq_true, beq_iff_eq,
      List.all_eq_true] at h
    refine ⟨c, cs, rfl, fun d hd => isNameChar_of_alphanum ?_⟩
    rcases List.mem_cons.1 hd with rfl | hd
    · exact h.1.imp_right fun ha => by simp [Char.isAlphanum, ha]
    · exact h.2 d hd

theorem readLineEnd_length {cs rest : List Char} {c : Char}
    (h : readLineEnd cs = .ok (c :: rest)) : (c :: rest).length < cs.length := by
  have hb := (skipBlanks_suffix cs).length_le
  unfold readLineEnd at h
  split at h <;> rename_i heq
  · cases h
  · rw [heq, Except.ok.inj h] at hb
    simp only [List.length_cons] at hb ⊢
    omega
  · rw [heq, Except.ok.inj h] at hb
    exact hb
  · rw [heq, Except.ok.inj h] at hb
    exact hb
  · cases h

section assignment
variable {name : List Char} (hname : isName name = true)
include hname

theorem readStatement_name (cs : List Char) :
    readStatement (name ++ '=' :: cs) =
      match readRest name ('=' :: cs) with
      | .ok r => r
      | .error rest => (.command, skipLine rest) := by
  obtain ⟨c, ds, rfl, hchars⟩ := isName_cons hname
  have hexport : skipExport (c :: ds ++ '=' :: cs) = c :: ds ++ '=' :: cs := by
    rw [skipExport_append (by decide) (by decide)]
    by_cases hp : "export".toList <+: c :: ds
    · obtain ⟨r, hr⟩ := hp
      rw [← hr, skipExport_word, if_neg]
      cases r with
      | nil => simp
      | cons d r =>
        have hd := (hchars d (by simp [← hr])).2.1
        simp [Text.isInlineSpace, hd]
    · rw [skipExport_other hp]
  have htake : (ds ++ '=' :: cs).takeWhile isNameChar = ds := by
    rw [takeWhile_append_stop (by decide)]
    exact List.takeWhile_eq_self_iff.2 fun d hd => (hchars d (by simp [hd])).1
  have hdrop : (ds ++ '=' :: cs).dropWhile isNameChar = '=' :: cs := by
    rw [dropWhile_append_stop (by decide), List.dropWhile_eq_nil_iff.2, List.nil_append]
    exact fun d hd => (hchars d (by simp [hd])).1
  obtain ⟨hc, hspace, hquote⟩ := hchars c (by simp)
  have hcomment : c ≠ '#' := by
    rintro rfl
    cases hc
  have hread : readName (c :: (ds ++ '=' :: cs)) = .ok (c :: ds, '=' :: cs) := by
    unfold readName
    split
    · rename_i heq
      exact absurd (List.cons.inj heq).1 hquote
    · simp_all
    · rename_i heq
      obtain ⟨rfl, rfl⟩ := List.cons.inj heq
      rw [if_pos hc, htake, hdrop]
  have hform : readForm (c :: (ds ++ '=' :: cs)) = readRest (c :: ds) ('=' :: cs) := by
    unfold readForm
    rw [← List.cons_append, hexport]
    split
    · rename_i heq
      exact absurd (List.cons.inj heq).1 hcomment
    · rw [List.cons_append, hread]
  have hstatement := readStatement_cons hspace (ds ++ '=' :: cs)
  rw [hform] at hstatement
  exact hstatement

theorem readStatement_quoted (cs : List Char) :
    readStatement (name ++ '=' :: '\'' :: cs) =
      match readQuoted '\'' cs with
      | some (raw, rest) =>
        match readLineEnd (skipComment rest) with
        | .ok rest => (.assign name (unescape singleEscape? raw) .single, rest)
        | .error rest => (.command, skipLine rest)
      | none => (.command, skipLine ('\'' :: cs)) := by
  have hblanks : skipBlanks ('=' :: '\'' :: cs) = '=' :: '\'' :: cs :=
    List.dropWhile_cons_of_neg (by decide)
  have hvalue : skipBlanks ('\'' :: cs) = '\'' :: cs := List.dropWhile_cons_of_neg (by decide)
  rw [readStatement_name hname, readRest, hblanks]
  simp only [readValue, hvalue, List.head?_cons, Option.some.injEq, Char.reduceEq, false_and,
    if_false]
  cases readQuoted '\'' cs with
  | none => rfl
  | some r =>
    simp only [finish]
    cases readLineEnd (skipComment r.2) <;> rfl

/-- An assignment of a value between single quotes is read as it is written, with nothing of what
follows, exactly if the value can stand for itself. -/
theorem readStatement_assignment_iff (value : List Char) :
    (∀ tail, readStatement (assignment name value ++ '\n' :: tail) =
      (.assign name value .single, tail)) ↔ isQuotable value = true := by
  have htext : ∀ tail, assignment name value ++ '\n' :: tail =
      name ++ '=' :: '\'' :: (value ++ '\'' :: '\n' :: tail) := fun tail => by
    simp [assignment]
  have hend : ∀ tail, skipComment ('\n' :: tail) = '\n' :: tail := fun tail => rfl
  constructor
  · intro h
    have hx := h ['x']
    rw [htext, readStatement_quoted hname] at hx
    cases hq : readQuoted '\'' (value ++ '\'' :: '\n' :: ['x']) with
    | none => simp [hq] at hx
    | some r =>
      obtain ⟨raw, rest⟩ := r
      simp only [hq] at hx
      cases hl : readLineEnd (skipComment rest) with
      | error e => simp [hl] at hx
      | ok rest' =>
        simp only [hl, Prod.mk.injEq, Form.assign.injEq, true_and, and_true] at hx
        obtain ⟨hvalue, rfl⟩ := hx
        -- no line end is read inside the value, so all of it was between the quotes
        have hbehind := readLineEnd_length hl
        have hcomment := (skipComment_suffix rest).length_le
        have hshort := unescape_length singleEscape? raw
        have hsplit := readQuoted_append hq
        have hsame : raw.length = value.length := by
          have hlen := congrArg List.length hsplit
          rw [hvalue] at hshort
          simp only [List.length_append, List.length_cons, List.length_nil] at hlen hbehind
          omega
        obtain ⟨rfl, -⟩ := List.append_inj hsplit hsame.symm
        exact isQuotable_of_readQuoted hq hvalue
  · intro h tail
    obtain ⟨hread, hsame⟩ := readQuoted_of_isQuotable h ('\n' :: tail)
    rw [htext, readStatement_quoted hname, hread]
    simp only [hend, hsame]
    rfl

theorem effects_assignment {value : List Char} (h : isQuotable value = true) (tail : List Char) :
    effects (assignment name value ++ '\n' :: tail) =
      (.assign name value .single, true) :: effects tail := by
  have hread := (readStatement_assignment_iff hname value).2 h tail
  have hconsumed : consumed (assignment name value ++ '\n' :: tail) tail =
      name ++ '=' :: ('\'' :: (value ++ ['\'', '\n'])) := by
    have htext : assignment name value ++ '\n' :: tail =
        (name ++ '=' :: ('\'' :: (value ++ ['\'', '\n']))) ++ tail := by
      simp [assignment]
    rw [consumed, htext, List.length_append, Nat.add_sub_cancel, List.take_left]
  have hliteral : (Statement.mk (.assign name value .single)
      (consumed (assignment name value ++ '\n' :: tail) tail) 1).isLiteral = true := by
    obtain ⟨c, ds, rfl, hchars⟩ := isName_cons hname
    have hnone : (c :: ds).dropWhile (· != '=') = [] := by
      refine List.dropWhile_eq_nil_iff.2 fun d hd => ?_
      have hd := (hchars d hd).1
      simp only [isNameChar, Bool.and_eq_true] at hd
      exact hd.1.1
    rw [Statement.isLiteral]
    dsimp only
    rw [hconsumed, dropWhile_append_stop (by decide), hnone]
    rfl
  obtain ⟨c, ds, hcs⟩ : ∃ c ds, assignment name value ++ '\n' :: tail = c :: ds := by
    cases name <;> exact ⟨_, _, rfl⟩
  rw [hcs] at hread hliteral ⊢
  rw [effects_cons hread]
  simp [effectsOf, hliteral]

end assignment

end LayeredConfig.Rc
