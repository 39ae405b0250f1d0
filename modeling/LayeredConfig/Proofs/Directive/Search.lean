import LayeredConfig.Proofs.Directive.Scan

/-!
# Searching by index

`find` reads a text from place to place. The same directives come out of a search by index: the next
opener is sought in the text; one behind a percent sign, or behind which nothing can be read, is
passed over with both its characters, and the search goes on from there.

* `firstAt?`: the first place of a word at or behind a position.
* `readAt?`: reads the directive of the opener at a place, with one index that runs over the name.
* `nextFrom?`: the search; `nextFrom?_eq` says that it finds what `find` finds, and `next?_eq` that
  this is what `next?` gives.
-/

namespace LayeredConfig.Directive

variable {word cs us vs : List Char} {i n pos : Nat}

/-! ## Words -/

/-- The first place of a word at or behind a position. -/
def firstAt? (word cs : List Char) (pos : Nat) : Option Nat :=
  (List.range' pos (cs.length - pos)).find? (word <+: cs.drop ·)

theorem firstAt?_eq_some (h : firstAt? word cs pos = some i) :
    word <+: cs.drop i ∧ pos ≤ i ∧ i < cs.length ∧ ∀ j, pos ≤ j → j < i → ¬word <+: cs.drop j := by
  obtain ⟨hi, hm, hbefore⟩ := List.find?_range'_eq_some.1 h
  rw [List.mem_range'_1] at hm
  refine ⟨by simpa using hi, by omega, by omega, fun j hj hji => ?_⟩
  simpa using hbefore j hj hji

theorem firstAt?_eq_none (hw : word ≠ []) (h : firstAt? word cs pos = none) {j : Nat}
    (hj : pos ≤ j) : ¬word <+: cs.drop j := by
  intro hat
  have hlt : j < cs.length := by
    have hlen := hat.length_le
    have hpos := List.length_pos_iff.2 hw
    rw [List.length_drop] at hlen
    omega
  have hnone := List.find?_range'_eq_none.1 h j hj (by omega)
  simp [hat] at hnone

/-! ## The search -/

def nameStop (cs : List Char) (i : Nat) : Nat :=
  match _h : cs[i]? with
  | none => i
  | some c => if isNameChar c then nameStop cs (i + 1) else i
termination_by cs.length - i
decreasing_by
  obtain ⟨hlt, -⟩ := List.getElem?_eq_some_iff.1 _h
  omega

/-- Reads the name that starts at a place, and gives the place behind its brace. -/
def readNameAt? (cs : List Char) (start : Nat) : Option (List Char × Nat) :=
  if cs[start]?.any isNameStart then
    let stop := nameStop cs (start + 1)
    if cs[stop]? = some '}' then some (cs.extract start stop, stop + 1) else none
  else none

def readAt? (cs : List Char) (pos : Nat) : Option Span :=
  match cs[pos + 2]? with
  | some '}' => some ⟨pos, 3, close⟩
  | some '?' =>
    (readNameAt? cs (pos + 3)).map (fun r => ⟨pos, r.2 - pos, whenTrue (toReference r.1)⟩)
  | some '!' =>
    (readNameAt? cs (pos + 3)).map (fun r => ⟨pos, r.2 - pos, whenFalse (toReference r.1)⟩)
  | _ => (readNameAt? cs (pos + 2)).map (fun r => ⟨pos, r.2 - pos, ofName r.1⟩)

def opener : List Char := ['%', '{']

def nextFrom? (cs : List Char) (pos : Nat) : Option Span :=
  match _h : firstAt? opener cs pos with
  | none => none
  | some i =>
    if 0 < i ∧ cs[i - 1]? = some '%' then nextFrom? cs (i + 2)
    else
      match readAt? cs i with
      | some s => some s
      | none => nextFrom? cs (i + 2)
termination_by cs.length - pos
decreasing_by
  all_goals
    obtain ⟨-, hle, hlt, -⟩ := firstAt?_eq_some _h
    omega

/-! ## Reading by index -/

theorem nameStop_eq (cs : List Char) (i : Nat) :
    nameStop cs i = i + ((cs.drop i).takeWhile isNameChar).length := by
  fun_induction nameStop cs i with
  | case1 i hnone =>
    rw [List.drop_eq_nil_of_le (List.getElem?_eq_none_iff.1 hnone)]
    rfl
  | case2 i c hsome hc ih =>
    obtain ⟨hlt, rfl⟩ := List.getElem?_eq_some_iff.1 hsome
    rw [ih, List.drop_eq_getElem_cons hlt, List.takeWhile_cons_of_pos hc, List.length_cons]
    omega
  | case3 i c hsome hc =>
    obtain ⟨hlt, rfl⟩ := List.getElem?_eq_some_iff.1 hsome
    rw [List.drop_eq_getElem_cons hlt, List.takeWhile_cons_of_neg hc]
    rfl

theorem drop_nameStop (cs : List Char) (i : Nat) :
    cs.drop (nameStop cs i) = (cs.drop i).dropWhile isNameChar := by
  rw [nameStop_eq, ← List.drop_drop]
  calc (cs.drop i).drop ((cs.drop i).takeWhile isNameChar).length
      = ((cs.drop i).takeWhile isNameChar ++ (cs.drop i).dropWhile isNameChar).drop
          ((cs.drop i).takeWhile isNameChar).length := by rw [List.takeWhile_append_dropWhile]
    _ = (cs.drop i).dropWhile isNameChar := List.drop_left

theorem extract_nameStop {start : Nat} (h : start < cs.length) :
    cs.extract start (nameStop cs (start + 1)) =
      cs[start] :: (cs.drop (start + 1)).takeWhile isNameChar := by
  rw [List.extract_eq_take_drop, nameStop_eq, List.drop_eq_getElem_cons h,
    show start + 1 + ((cs.drop (start + 1)).takeWhile isNameChar).length - start =
      ((cs.drop (start + 1)).takeWhile isNameChar).length + 1 by omega, List.take_succ_cons]
  rw [← List.prefix_iff_eq_take.1 (List.takeWhile_prefix isNameChar)]

theorem readNameAt?_eq (cs : List Char) (start : Nat) :
    readNameAt? cs start =
      (readName? (cs.drop start)).map (fun r => (r.1, cs.length - r.2.length)) := by
  rcases Nat.lt_or_ge start cs.length with hlt | hge
  · have hhead : cs[start]? = some cs[start] := List.getElem?_eq_getElem hlt
    -- what stands behind the name characters
    have hbehind := drop_nameStop cs (start + 1)
    rw [readNameAt?, hhead, List.drop_eq_getElem_cons hlt, readName?, Option.any_some]
    split
    · show (if cs[nameStop cs (start + 1)]? = some '}' then _ else _) = _
      rw [← List.head?_drop, hbehind, extract_nameStop hlt]
      split
      · rename_i hbrace
        obtain ⟨rest, hrest⟩ := List.head?_eq_some_iff.1 hbrace
        have hlen := congrArg List.length (hbehind.trans hrest)
        rw [List.length_drop, List.length_cons] at hlen
        rw [hrest]
        show some (_, nameStop cs (start + 1) + 1) = some (_, cs.length - rest.length)
        congr 2
        omega
      · rename_i hbrace
        split
        · rename_i rest hrest
          rw [hrest] at hbrace
          exact absurd rfl hbrace
        · rfl
    · rfl
  · rw [readNameAt?, List.getElem?_eq_none hge, List.drop_eq_nil_of_le hge]
    rfl

theorem readNameAt?_span (kind : List Char → Directive) (cs : List Char) (pos start : Nat) :
    (readNameAt? cs start).map (fun r => (⟨pos, r.2 - pos, kind r.1⟩ : Span)) =
      ((readName? (cs.drop start)).map (fun r => (kind r.1, r.2))).map
        (fun r => ⟨pos, cs.length - r.2.length - pos, r.1⟩) := by
  rw [readNameAt?_eq, Option.map_map, Option.map_map]
  rfl

theorem readAt?_eq (cs : List Char) (pos : Nat) :
    readAt? cs pos = (readBody? (cs.drop (pos + 2))).map
      (fun r => ⟨pos, cs.length - r.2.length - pos, r.1⟩) := by
  have htail : cs.drop (pos + 3) = (cs.drop (pos + 2)).tail := by rw [List.tail_drop]
  rw [readAt?, ← List.head?_drop]
  split
  · rename_i hbrace
    obtain ⟨rest, hrest⟩ := List.head?_eq_some_iff.1 hbrace
    have hlen := congrArg List.length hrest
    rw [List.length_drop, List.length_cons] at hlen
    rw [hrest]
    show some _ = some (Span.mk pos (cs.length - rest.length - pos) close)
    congr 2
    omega
  · rename_i hmark
    obtain ⟨rest, hrest⟩ := List.head?_eq_some_iff.1 hmark
    rw [readNameAt?_span (fun name => whenTrue (toReference name)), htail, hrest]
    rfl
  · rename_i hmark
    obtain ⟨rest, hrest⟩ := List.head?_eq_some_iff.1 hmark
    rw [readNameAt?_span (fun name => whenFalse (toReference name)), htail, hrest]
    rfl
  · rename_i hbrace hif hnot
    rw [readNameAt?_span ofName, readBody?]
    · exact fun rest hrest => hbrace (by rw [hrest]; rfl)
    · exact fun rest hrest => hif (by rw [hrest]; rfl)
    · exact fun rest hrest => hnot (by rw [hrest]; rfl)

/-! ## The search finds the same -/

theorem find_of_firstAt?_none {e : Bool} (h : firstAt? opener cs pos = none) :
    find e (cs.drop pos) = none := by
  refine find_eq_none_iff.2 fun us vs hsplit hread => ?_
  obtain ⟨⟨d, rest⟩, hd⟩ := Option.ne_none_iff_exists'.1 hread
  refine absurd ?_ (firstAt?_eq_none (List.cons_ne_nil _ _) h (Nat.le_add_right pos us.length))
  rw [← List.drop_drop, hsplit, List.drop_left]
  exact read?_opens hd

theorem find_behind_openerless {e : Bool} (n : Nat) (h : ∀ j < n, ¬opener <+: cs.drop j) :
    find e cs = (find (escapes e (cs.take n)) (cs.drop n)).map (Found.prepend (cs.take n)) := by
  induction n generalizing e cs with
  | zero =>
    show find e cs = (find e cs).map _
    cases find e cs <;> rfl
  | succ n ih =>
    cases cs with
    | nil => rfl
    | cons c cs =>
      have hread : read? (c :: cs) = none := by
        rcases hr : read? (c :: cs) with _ | ⟨d, rest⟩
        · rfl
        · exact absurd (read?_opens hr) (h 0 (Nat.succ_pos n))
      have htail : ∀ j < n, ¬opener <+: cs.drop j := fun j hj => h (j + 1) (Nat.succ_lt_succ hj)
      rw [find, hread, ite_self, ih htail]
      show ((find _ _).map _).map _ = _
      rw [Option.map_map]
      rfl

theorem escapes_take_iff (h : i < cs.length) :
    escapes false (cs.take i) = true ↔ 0 < i ∧ cs[i - 1]? = some '%' := by
  cases i with
  | zero => simp [escapes]
  | succ i =>
    have hlt : i < cs.length := Nat.lt_of_succ_lt h
    rw [List.take_succ_eq_append_getElem hlt, escapes_append, Nat.add_sub_cancel,
      List.getElem?_eq_getElem hlt]
    simp [escapes]

/-- What is found behind a position, as a place of the whole text. -/
def Found.at (pos : Nat) (f : Found) : Span := ⟨pos + f.before.length, f.length, f.directive⟩

theorem Found.at_prepend (xs : List Char) (f : Found) :
    (f.prepend xs).at pos = f.at (pos + xs.length) := by
  simp only [Found.at, Found.prepend, List.length_append, Nat.add_assoc]

theorem find_of_firstAt?_some (h : firstAt? opener cs pos = some i) :
    (find (escapes false (cs.take pos)) (cs.drop pos)).map (Found.at pos) =
      (find (escapes false (cs.take i)) ('%' :: '{' :: cs.drop (i + 2))).map (Found.at i) := by
  obtain ⟨⟨tail, htail⟩, hle, hlt, hbefore⟩ := firstAt?_eq_some h
  have hskip : ∀ j < i - pos, ¬opener <+: (cs.drop pos).drop j := by
    intro j hj
    rw [List.drop_drop]
    exact hbefore (pos + j) (Nat.le_add_right pos j) (by omega)
  have hopener : cs.drop i = '%' :: '{' :: cs.drop (i + 2) := by
    rw [← List.drop_drop, ← htail]
    rfl
  have htake : cs.take pos ++ (cs.drop pos).take (i - pos) = cs.take i := by
    rw [← List.take_add, Nat.add_sub_cancel' hle]
  have hlen : ((cs.drop pos).take (i - pos)).length = i - pos := by
    rw [List.length_take, List.length_drop]
    omega
  rw [find_behind_openerless (i - pos) hskip, ← escapes_append, htake, List.drop_drop,
    Nat.add_sub_cancel' hle, hopener, Option.map_map]
  refine congrArg (Option.map · _) (funext fun f => ?_)
  rw [Function.comp_apply, Found.at_prepend, hlen, Nat.add_sub_cancel' hle]

/-- An opener that is passed over is passed over with its brace, which escapes nothing. -/
theorem find_passed_over (h : firstAt? opener cs pos = some i)
    (hpass : escapes false (cs.take i) = true ∨ readBody? (cs.drop (i + 2)) = none) :
    (find (escapes false (cs.take pos)) (cs.drop pos)).map (Found.at pos) =
      (find (escapes false (cs.take (i + 2))) (cs.drop (i + 2))).map (Found.at (i + 2)) := by
  obtain ⟨⟨tail, htail⟩, -, -, -⟩ := firstAt?_eq_some h
  have hplain : escapes false (cs.take (i + 2)) = false := by
    rw [List.take_add, ← htail, escapes_append]
    rfl
  rw [find_of_firstAt?_some h, find_opener hpass, hplain, Option.map_map]
  exact congrArg (Option.map · _) (funext fun f => f.at_prepend ['%', '{'])

/-- The search by index finds what the search from place to place finds. -/
theorem nextFrom?_eq (cs : List Char) (pos : Nat) : nextFrom? cs pos =
    (find (escapes false (cs.take pos)) (cs.drop pos)).map (Found.at pos) := by
  fun_induction nextFrom? cs pos with
  | case1 pos hnone =>
    rw [find_of_firstAt?_none hnone]
    rfl
  | case2 pos i hsome hescaped ih =>
    obtain ⟨-, -, hlt, -⟩ := firstAt?_eq_some hsome
    rw [ih, find_passed_over hsome (.inl ((escapes_take_iff hlt).2 hescaped))]
  | case3 pos i hsome hplain s hread =>
    obtain ⟨-, -, hlt, -⟩ := firstAt?_eq_some hsome
    rw [← escapes_take_iff hlt, Bool.not_eq_true] at hplain
    rw [readAt?_eq] at hread
    obtain ⟨⟨d, rest⟩, hbody, rfl⟩ := Option.map_eq_some_iff.1 hread
    have hlen := readBody?_length hbody
    rw [List.length_drop] at hlen
    have hfind : find false ('%' :: '{' :: cs.drop (i + 2)) =
        some ⟨[], d, ('%' :: '{' :: cs.drop (i + 2)).length - rest.length, rest⟩ := by
      have hfirst : read? ('%' :: '{' :: cs.drop (i + 2)) = some (d, rest) := hbody
      simp only [find, Bool.false_eq_true, if_false, hfirst]
    rw [find_of_firstAt?_some hsome, hplain, hfind, List.length_cons, List.length_cons,
      List.length_drop]
    have hlength : cs.length - rest.length - i = cs.length - (i + 2) + 1 + 1 - rest.length := by
      omega
    exact congrArg (fun length => some (Span.mk i length d)) hlength
  | case4 pos i hsome hplain hread ih =>
    rw [readAt?_eq, Option.map_eq_none_iff] at hread
    rw [ih, find_passed_over hsome (.inr hread)]

theorem nextFrom?_bounds {s : Span} (h : nextFrom? cs pos = some s) :
    pos ≤ s.start ∧ s.start < s.stop ∧ s.stop ≤ cs.length := by
  rw [nextFrom?_eq] at h
  obtain ⟨f, hf, rfl⟩ := Option.map_eq_some_iff.1 h
  obtain ⟨m, hcs, hm, hlength, -, -⟩ := find_marks hf
  obtain ⟨ds, rfl, -, -⟩ := hm.opens
  have hlen := congrArg List.length hcs
  simp only [List.length_drop, List.length_append, List.length_cons] at hlen hlength
  simp only [Found.at, Span.stop]
  omega

theorem next?_eq (text : String) (pos : Int) :
    next? text pos = nextFrom? text.toList (startOf text.toList.length pos) := by
  rw [nextFrom?_eq, escapes_false]
  rfl

/-- The percent sign escapes the opener behind it, and the one inside is read. -/
example : nextFrom? "%%\x7b%\x7b1\x7d%\x7bA\x7d".toList 0 =
    some ⟨7, 4, .substitute (.direct "A")⟩ := by cbv

end LayeredConfig.Directive
