import LayeredConfig.Proofs.Directive.Nesting

/-!
# Where a scan finds directives

A search reads on from place to place, and looks one character back. What it finds is said here by
the grammar alone, as a set of places in the text: the search gives the first of them at or after
its position, and the scan of a whole text gives all of them.

* `Stands cs s`: a directive is written at the span, and no percent sign is in front of it.
* `Stands.disjoint`: such places do not overlap, as no directive has a percent sign inside.
* `find_first`: what is found is the first place (`find_stands` is its soundness, `find_least` that
  no place before it is missed); `next?_iff` says the same of a position.
* `mem_spansFrom`, `spansFrom_ordered`, `next?_eq_find?`: the scan of a text gives every place, in
  order, and is the search taken again and again.
-/

namespace LayeredConfig.Directive

/-! ## Places in a text -/

/-- A directive is written at the span, and no percent sign stands in front of it. -/
def Stands (cs : List Char) (s : Span) : Prop :=
  ∃ us body rest, cs = us ++ '%' :: '{' :: (body ++ '}' :: rest) ∧ Body body s.directive ∧
    us.length = s.start ∧ body.length + 3 = s.length ∧ us.getLast? ≠ some '%'

theorem escapes_eq_false_iff {us : List Char} :
    escapes false us = false ↔ us.getLast? ≠ some '%' := by
  rw [escapes_false]
  cases h : us.getLast? <;> simp [Text.endsIn, h]

theorem stands_iff {cs : List Char} {s : Span} :
    Stands cs s ↔ ∃ us vs rest, cs = us ++ vs ∧ escapes false us = false ∧
      read? vs = some (s.directive, rest) ∧ us.length = s.start ∧
      s.length + rest.length = vs.length := by
  constructor
  · rintro ⟨us, body, rest, rfl, hbody, hstart, hlength, hlast⟩
    refine ⟨us, _, rest, rfl, escapes_eq_false_iff.2 hlast, read?_iff.2 ⟨body, rfl, hbody⟩,
      hstart, ?_⟩
    simp only [List.length_cons, List.length_append]
    omega
  · rintro ⟨us, vs, rest, rfl, hesc, hread, hstart, hlength⟩
    obtain ⟨body, rfl, hbody⟩ := read?_iff.1 hread
    refine ⟨us, body, rest, rfl, hbody, hstart, ?_, escapes_eq_false_iff.1 hesc⟩
    simp only [List.length_cons, List.length_append] at hlength
    omega

theorem Stands.stop_le {cs : List Char} {s : Span} (h : Stands cs s) : s.stop ≤ cs.length := by
  obtain ⟨us, body, rest, rfl, -, hstart, hlength, -⟩ := h
  simp only [Span.stop, List.length_append, List.length_cons]
  omega

theorem Stands.start_lt {cs : List Char} {s : Span} (h : Stands cs s) : s.start < s.stop := by
  obtain ⟨us, body, rest, -, -, -, hlength, -⟩ := h
  simp only [Span.stop]
  omega

theorem Stands.unique {cs : List Char} {s t : Span} (hs : Stands cs s) (ht : Stands cs t)
    (h : s.start = t.start) : s = t := by
  obtain ⟨us, vs, rest, rfl, -, hread, hstart, hlength⟩ := stands_iff.1 hs
  obtain ⟨us', vs', rest', he, -, hread', hstart', hlength'⟩ := stands_iff.1 ht
  obtain ⟨rfl, rfl⟩ := List.append_inj he (by omega)
  rw [hread] at hread'
  simp only [Option.some.injEq, Prod.mk.injEq] at hread'
  obtain ⟨hd, rfl⟩ := hread'
  obtain ⟨start, length, directive⟩ := s
  obtain ⟨start', length', directive'⟩ := t
  simp only [Span.mk.injEq]
  exact ⟨h, by simp only at hlength hlength'; omega, hd⟩

/-- A percent sign opens a place, and a place has no other, so no place begins inside another. -/
theorem Stands.disjoint {cs : List Char} {s t : Span} (hs : Stands cs s) (ht : Stands cs t)
    (h : s.start < t.start) : s.stop ≤ t.start := by
  apply Nat.le_of_not_lt
  intro hlt
  obtain ⟨us, body, rest, rfl, hbody, hstart, hlength, -⟩ := hs
  obtain ⟨us', body', rest', he, -, hstart', -, -⟩ := ht
  -- the character at the start of `t`, counted from behind the percent sign of `s`
  obtain ⟨k, hk⟩ : ∃ k, t.start = us.length + (k + 1) := ⟨t.start - us.length - 1, by omega⟩
  have hmark : (us ++ '%' :: '{' :: (body ++ '}' :: rest))[t.start]? = some '%' := by
    rw [he, ← hstart', List.getElem?_append_right (Nat.le_refl _), Nat.sub_self]
    rfl
  rw [hk, List.getElem?_append_right (Nat.le_add_right _ _), Nat.add_sub_cancel_left,
    List.getElem?_cons_succ] at hmark
  have hinside : '%' ∈ '{' :: (body ++ ['}']) := by
    have hsplit : '{' :: (body ++ '}' :: rest) = '{' :: (body ++ ['}']) ++ rest := by simp
    rw [hsplit, List.getElem?_append_left] at hmark
    · exact List.mem_of_getElem? hmark
    · simp only [List.length_cons, List.length_append, List.length_nil]
      simp only [Span.stop] at hlt
      omega
  simp [hbody.not_mem] at hinside

theorem Stands.behind {us vs : List Char} {s : Span} (hs : Stands (us ++ vs) s)
    (hle : us.length ≤ s.start) : ∃ as ws rest, vs = as ++ ws ∧ us.length + as.length = s.start ∧
      escapes (escapes false us) as = false ∧ read? ws = some (s.directive, rest) ∧
      s.length + rest.length = ws.length := by
  obtain ⟨us', ws, rest, he, hesc, hread, hstart, hlength⟩ := stands_iff.1 hs
  obtain ⟨as, rfl, rfl⟩ : ∃ as, us' = us ++ as ∧ vs = as ++ ws := by
    rcases List.append_eq_append_iff.1 he with ⟨as, rfl, rfl⟩ | ⟨bs, rfl, rfl⟩
    · exact ⟨as, rfl, rfl⟩
    · obtain rfl : bs = [] := by
        rw [List.length_append] at hle
        exact List.length_eq_zero_iff.1 (by omega)
      exact ⟨[], by simp, rfl⟩
  rw [List.length_append] at hstart
  rw [escapes_append] at hesc
  exact ⟨as, ws, rest, rfl, hstart, hesc, hread, hlength⟩

/-! ## Searching -/

theorem find_opener {e : Bool} {cs : List Char} (h : e = true ∨ readBody? cs = none) :
    find e ('%' :: '{' :: cs) = (find false cs).map (Found.prepend ['%', '{']) := by
  have hfirst : (if e then none else read? ('%' :: '{' :: cs)) = none := by
    rcases h with rfl | h
    · rfl
    · show (if e then none else readBody? cs) = none
      rw [h, ite_self]
  have hbrace : (if true then none else read? ('{' :: cs)) = none := rfl
  rw [find, hfirst]
  show (find true ('{' :: cs)).map _ = _
  rw [find, hbrace]
  show ((find false cs).map _).map _ = _
  rw [Option.map_map]
  rfl

theorem find_stands {us vs : List Char} {f : Found} (h : find (escapes false us) vs = some f) :
    Stands (us ++ vs) ⟨us.length + f.before.length, f.length, f.directive⟩ := by
  obtain ⟨m, rfl, hm, hlength, -, hesc⟩ := find_marks h
  refine stands_iff.2 ⟨us ++ f.before, m ++ f.after, f.after, by simp, ?_, hm.reads _, by simp, ?_⟩
  · rw [escapes_append, hesc]
  · rw [List.length_append, hlength]

theorem find_least {us vs : List Char} {f : Found} (h : find (escapes false us) vs = some f)
    {t : Span} (ht : Stands (us ++ vs) t) (hle : us.length ≤ t.start) :
    us.length + f.before.length ≤ t.start := by
  apply Nat.le_of_not_lt
  intro hlt
  obtain ⟨m, rfl, hm, -, hnone, -⟩ := find_marks h
  obtain ⟨as, ws, rest, he, hstart, hesc, hread, -⟩ := ht.behind hle
  -- the place begins in `f.before`, which is cut there
  obtain ⟨bs, hbefore, rfl⟩ : ∃ bs, f.before = as ++ bs ∧ ws = bs ++ (m ++ f.after) := by
    rcases List.append_eq_append_iff.1 he with ⟨cs, rfl, -⟩ | ⟨bs, hbefore, rfl⟩
    · rw [List.length_append] at hstart
      omega
    · exact ⟨bs, hbefore, rfl⟩
  have hne : bs ≠ [] := by
    rintro rfl
    rw [hbefore, List.append_nil] at hlt
    omega
  obtain ⟨cs, rfl, -, -⟩ := hm.opens
  -- no directive reaches over the percent sign of what is found, so it is read in `f.before`
  have hshort := seamless_percent _ f.before (cs ++ f.after) as bs hbefore hne hesc _ _ hread
  obtain ⟨r, -, hr⟩ := read?_of_append hread hshort
  have hescaped := find_eq_none_iff.1 hnone as bs hbefore (by rw [hr]; exact Option.some_ne_none _)
  rw [hesc] at hescaped
  cases hescaped

theorem find_first (us vs : List Char) (s : Span) :
    (find (escapes false us) vs).map (fun f => ⟨us.length + f.before.length, f.length, f.directive⟩)
        = some s ↔
      Stands (us ++ vs) s ∧ us.length ≤ s.start ∧
        ∀ t, Stands (us ++ vs) t → us.length ≤ t.start → s.start ≤ t.start := by
  constructor
  · intro h
    obtain ⟨f, hf, rfl⟩ := Option.map_eq_some_iff.1 h
    exact ⟨find_stands hf, Nat.le_add_right _ _, fun t ht hle => find_least hf ht hle⟩
  · rintro ⟨hs, hle, hleast⟩
    rcases hf : find (escapes false us) vs with _ | f
    · -- where `s` stands, something can be read
      obtain ⟨as, ws, rest, he, -, hesc, hread, -⟩ := hs.behind hle
      have hescaped := find_eq_none_iff.1 hf as ws he (by rw [hread]; exact Option.some_ne_none _)
      rw [hesc] at hescaped
      cases hescaped
    · have hfound := find_stands hf
      refine congrArg some (hfound.unique hs ?_)
      exact Nat.le_antisymm (find_least hf hs hle) (hleast _ hfound (Nat.le_add_right _ _))

theorem exists_first {cs : List Char} {pos : Nat} {s : Span} (hs : Stands cs s)
    (hle : pos ≤ s.start) : ∃ t, Stands cs t ∧ pos ≤ t.start ∧
      ∀ u, Stands cs u → pos ≤ u.start → t.start ≤ u.start := by
  induction hn : s.start using Nat.strongRecOn generalizing s with
  | _ n ih =>
  by_cases h : ∃ u, Stands cs u ∧ pos ≤ u.start ∧ u.start < s.start
  · obtain ⟨u, hu, hpos, hlt⟩ := h
    exact ih _ (hn ▸ hlt) hu hpos rfl
  · refine ⟨s, hs, hle, fun u hu hpos => ?_⟩
    apply Nat.le_of_not_lt
    intro hlt
    exact h ⟨u, hu, hpos, hlt⟩

theorem next?_iff {text : String} {pos : Nat} {s : Span} :
    next? text pos = some s ↔ Stands text.toList s ∧ pos ≤ s.start ∧
      ∀ t, Stands text.toList t → pos ≤ t.start → s.start ≤ t.start := by
  have hstart : startOf text.toList.length pos = pos := by
    rw [startOf, if_neg (by omega), Int.toNat_natCast]
  simp only [next?, hstart, ← escapes_false]
  by_cases hpos : pos ≤ text.toList.length
  · have hlen : (text.toList.take pos).length = pos := by
      rw [List.length_take, Nat.min_eq_left hpos]
    have h := find_first (text.toList.take pos) (text.toList.drop pos) s
    rwa [List.take_append_drop, hlen] at h
  · -- behind the end of the text there is nothing
    rw [List.drop_eq_nil_of_le (by omega)]
    constructor
    · intro h
      cases h
    · rintro ⟨hs, hle, -⟩
      have h₁ := hs.stop_le
      have h₂ := hs.start_lt
      omega

theorem next?_eq_none_iff {text : String} {pos : Nat} :
    next? text pos = none ↔ ∀ s, Stands text.toList s → s.start < pos := by
  constructor
  · intro h s hs
    apply Nat.lt_of_not_le
    intro hle
    obtain ⟨t, ht⟩ := exists_first hs hle
    rw [next?_iff.2 ht] at h
    cases h
  · intro h
    rcases hn : next? text pos with _ | s
    · rfl
    · obtain ⟨hs, hle, -⟩ := next?_iff.1 hn
      exact absurd hle (Nat.not_le.2 (h s hs))

/-! ## Scanning -/

theorem spansFrom_of_none {offset : Nat} {cs : List Char} (h : find false cs = none) :
    spansFrom offset cs = [] := by
  unfold spansFrom
  split
  · rfl
  · simp_all

theorem spansFrom_of_some {offset : Nat} {cs : List Char} {f : Found}
    (h : find false cs = some f) :
    spansFrom offset cs = ⟨offset + f.before.length, f.length, f.directive⟩ ::
      spansFrom (offset + f.before.length + f.length) f.after := by
  rw [spansFrom]
  split
  · simp_all
  · rename_i g hg
    obtain rfl := Option.some.inj (h.symm.trans hg)
    rfl

theorem find_behind_plain (us : List Char) {vs : List Char} {f : Found}
    (hf : find false vs = some f) :
    ∃ ws, us ++ vs = ws ++ f.after ∧ escapes false ws = false ∧
      ws.length = us.length + f.before.length + f.length := by
  obtain ⟨m, hvs, hm, hlength, -, -⟩ := find_marks hf
  refine ⟨us ++ f.before ++ m, ?_, ?_, ?_⟩
  · rw [List.append_assoc, List.append_assoc, ← hvs]
  · rw [escapes_append, hm.escapes]
  · rw [List.length_append, List.length_append, hlength]

theorem mem_spansFrom {us vs : List Char} (he : escapes false us = false) {s : Span} :
    s ∈ spansFrom us.length vs ↔ Stands (us ++ vs) s ∧ us.length ≤ s.start := by
  -- the induction cuts off what was found with all that is in front of it
  induction hn : vs.length using Nat.strongRecOn generalizing us vs with
  | _ n ih =>
  have hfirst := find_first us vs
  rw [he] at hfirst
  rcases hf : find false vs with _ | f
  · rw [spansFrom_of_none hf]
    refine iff_of_false List.not_mem_nil ?_
    rintro ⟨hs, hle⟩
    obtain ⟨t, ht⟩ := exists_first hs hle
    have := (hfirst t).2 ht
    rw [hf] at this
    cases this
  · rw [spansFrom_of_some hf]
    obtain ⟨hstands, -, hleast⟩ := (hfirst _).1 (by rw [hf]; rfl)
    obtain ⟨ws, htext, hplain, hlen⟩ := find_behind_plain us hf
    have hrest := ih _ (hn ▸ find_length hf) hplain rfl
    rw [hlen, ← htext] at hrest
    rw [List.mem_cons, hrest]
    constructor
    · rintro (rfl | ⟨hs, hle⟩)
      · exact ⟨hstands, Nat.le_add_right _ _⟩
      · exact ⟨hs, by omega⟩
    · rintro ⟨hs, hle⟩
      rcases Nat.lt_or_eq_of_le (hleast s hs hle) with hlt | heq
      · exact .inr ⟨hs, hstands.disjoint hs hlt⟩
      · exact .inl (hs.unique hstands heq.symm)

theorem spansFrom_ordered (us vs : List Char) :
    (spansFrom us.length vs).Pairwise (fun s t => s.stop ≤ t.start) := by
  induction hn : vs.length using Nat.strongRecOn generalizing us vs with
  | _ n ih =>
  rcases hf : find false vs with _ | f
  · rw [spansFrom_of_none hf]
    exact .nil
  · rw [spansFrom_of_some hf]
    obtain ⟨ws, -, hplain, hlen⟩ := find_behind_plain us hf
    have hrest := ih _ (hn ▸ find_length hf) ws f.after rfl
    have hmem : ∀ s, s ∈ spansFrom ws.length f.after ↔
        Stands (ws ++ f.after) s ∧ ws.length ≤ s.start := fun s => mem_spansFrom hplain
    rw [hlen] at hrest hmem
    exact .cons (fun s hs => ((hmem s).1 hs).2) hrest

theorem mem_spans {text : String} {s : Span} : s ∈ spans text ↔ Stands text.toList s := by
  rw [spans, ← List.length_nil (α := Char), mem_spansFrom rfl]
  exact and_iff_left (Nat.zero_le _)

theorem spans_ordered (text : String) : (spans text).Pairwise (fun s t => s.stop ≤ t.start) :=
  spansFrom_ordered [] text.toList

theorem next?_eq_find? (text : String) (pos : Nat) :
    next? text pos = (spans text).find? (pos ≤ ·.start) := by
  cases hf : (spans text).find? (fun s => decide (pos ≤ s.start)) with
  | none =>
    refine next?_eq_none_iff.2 fun s hs => ?_
    have := List.find?_eq_none.1 hf s (mem_spans.2 hs)
    simpa using this
  | some s =>
    obtain ⟨hpos, as, bs, hsplit, has⟩ := List.find?_eq_some_iff_append.1 hf
    have hordered := spans_ordered text
    rw [hsplit, List.pairwise_append] at hordered
    obtain ⟨-, hbs, -⟩ := hordered
    refine next?_iff.2 ⟨mem_spans.1 (List.mem_of_find?_eq_some hf), by simpa using hpos, ?_⟩
    intro t ht hle
    have hmem := mem_spans.2 ht
    rw [hsplit] at hmem
    rcases List.mem_append.1 hmem with hmem | hmem
    · have := has t hmem
      simp [hle] at this
    · rcases List.mem_cons.1 hmem with rfl | hmem
      · exact Nat.le_refl _
      · have h₁ := List.rel_of_pairwise_cons hbs hmem
        have h₂ := (mem_spans.1 (List.mem_of_find?_eq_some hf)).start_lt
        omega

theorem next?_stop {text : String} {us vs : List Span} {s : Span}
    (h : spans text = us ++ s :: vs) : next? text s.stop = vs.head? := by
  have hordered := spans_ordered text
  rw [h, List.pairwise_append] at hordered
  obtain ⟨-, hvs, hus⟩ := hordered
  have hbefore : ∀ t ∈ us ++ [s], ¬ s.stop ≤ t.start := by
    intro t ht
    have hlt := (mem_spans.1 (h ▸ List.mem_append_right us List.mem_cons_self)).start_lt
    rcases List.mem_append.1 ht with ht | ht
    · have h₁ := hus t ht s List.mem_cons_self
      have h₂ := (mem_spans.1 (h ▸ List.mem_append_left (s :: vs) ht)).start_lt
      omega
    · obtain rfl := List.mem_singleton.1 ht
      omega
  rw [next?_eq_find?, h, List.append_cons, List.find?_append,
    List.find?_eq_none.2 (by simpa using hbefore), Option.none_or]
  cases vs with
  | nil => rfl
  | cons t vs =>
    have : s.stop ≤ t.start := List.rel_of_pairwise_cons hvs List.mem_cons_self
    rw [List.find?_cons_of_pos (by simpa using this)]
    rfl

/-- The scanner accepts exactly the grammar. A search gives the place with the least start at or
after its position, and nothing exactly if there is none; a scan gives every place of the text,
in increasing order and without overlap, and is the search taken again from the end of what was
found. -/
theorem scan_exact (text : String) :
    (∀ (pos : Nat) (s : Span), next? text pos = some s ↔
      Stands text.toList s ∧ pos ≤ s.start ∧
        ∀ t, Stands text.toList t → pos ≤ t.start → s.start ≤ t.start) ∧
    (∀ pos : Nat, next? text pos = none ↔ ¬∃ s, Stands text.toList s ∧ pos ≤ s.start) ∧
    (∀ s, s ∈ spans text ↔ Stands text.toList s) ∧
    (spans text).Pairwise (fun s t => s.start < t.start ∧ s.stop ≤ t.start) ∧
    (spans text).head? = next? text (0 : Nat) ∧
    ∀ us s vs, spans text = us ++ s :: vs → vs.head? = next? text s.stop := by
  refine ⟨fun pos s => next?_iff, fun pos => ?_, fun s => mem_spans, ?_, ?_, ?_⟩
  · rw [next?_eq_none_iff]
    constructor
    · rintro h ⟨s, hs, hle⟩
      exact absurd (h s hs) (Nat.not_lt.2 hle)
    · intro h s hs
      apply Nat.lt_of_not_le
      intro hle
      exact h ⟨s, hs, hle⟩
  · refine (spans_ordered text).imp_of_mem ?_
    intro s t hs _ hle
    exact ⟨Nat.lt_of_lt_of_le (mem_spans.1 hs).start_lt hle, hle⟩
  · rw [next?_eq_find?]
    cases spans text <;> simp
  · intro us s vs h
    exact (next?_stop h).symm

end LayeredConfig.Directive
