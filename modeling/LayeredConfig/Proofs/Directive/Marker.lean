import LayeredConfig.Directive.Find
import LayeredConfig.Proofs.Directive.Grammar

/-!
# Where directives stand

A written directive has one percent sign, in front, and ends with its brace. So what stands behind
the brace does not change how it is read, and what stands in front does so only if it ends in a
percent sign, which escapes the directive.

* `Marks m d`: the text `m` writes the directive `d`; `substitution` is the text of a reference.
* `read?_marks`, `find_marks`: what is read or found is written in the text.
* `Seamless e x y`: no directive begins in `x` and ends in `y`.
* `find_append`: over a seam of that kind, directives are found as in the two parts.
-/

namespace LayeredConfig.Directive

/-- The text writes the directive: its only percent sign is in front, more follows, and it is read
as the directive whatever stands behind it. -/
structure Marks (m : List Char) (d : Directive) : Prop where
  opens : ∃ cs, m = '%' :: cs ∧ cs ≠ [] ∧ '%' ∉ cs
  reads : ∀ rest, read? (m ++ rest) = some (d, rest)

def substitution (name : String) : String := "%\x7b" ++ name ++ "\x7d"

/-! ## Reading -/

theorem read?_marks {cs rest : List Char} {d : Directive} (h : read? cs = some (d, rest)) :
    ∃ m, cs = m ++ rest ∧ Marks m d := by
  obtain ⟨body, rfl, hbody⟩ := read?_iff.1 h
  refine ⟨'%' :: '{' :: (body ++ ['}']), by simp, ⟨_, rfl, by simp, ?_⟩, fun rest' => ?_⟩
  · simpa using hbody.not_mem
  · exact read?_iff.2 ⟨body, by simp, hbody⟩

theorem read?_opens {cs rest : List Char} {d : Directive} (h : read? cs = some (d, rest)) :
    ['%', '{'] <+: cs := by
  unfold read? at h
  split at h
  · exact ⟨_, rfl⟩
  · cases h

theorem read?_append {cs rest : List Char} {d : Directive} (h : read? cs = some (d, rest))
    (ys : List Char) : read? (cs ++ ys) = some (d, rest ++ ys) := by
  obtain ⟨m, rfl, hm⟩ := read?_marks h
  rw [List.append_assoc]
  exact hm.reads _

theorem read?_of_append {cs ys rest : List Char} {d : Directive}
    (h : read? (cs ++ ys) = some (d, rest)) (hl : ys.length ≤ rest.length) :
    ∃ r, rest = r ++ ys ∧ read? cs = some (d, r) := by
  obtain ⟨m, he, hm⟩ := read?_marks h
  rcases List.append_eq_append_iff.1 he with ⟨as, rfl, rfl⟩ | ⟨bs, rfl, rfl⟩
  · obtain rfl : as = [] := by
      rw [List.length_append] at hl
      exact List.length_eq_zero_iff.1 (by omega)
    exact ⟨[], rfl, by simpa using hm.reads []⟩
  · exact ⟨bs, rfl, hm.reads bs⟩

/-! ## Finding -/

/-- Whether a percent sign stands in front of what follows a text; `escaped` says so for the text
itself. -/
def escapes (escaped : Bool) : List Char → Bool
  | [] => escaped
  | c :: cs => escapes (c == '%') cs

theorem escapes_append (e : Bool) (xs ys : List Char) :
    escapes e (xs ++ ys) = escapes (escapes e xs) ys := by
  induction xs generalizing e with
  | nil => rfl
  | cons c xs ih => exact ih _

theorem escapes_false (cs : List Char) : escapes false cs = Text.endsIn (· == '%') cs := by
  have hcons : ∀ (e : Bool) (c : Char) (cs : List Char),
      escapes e (c :: cs) = Text.endsIn (· == '%') (c :: cs) := by
    intro e c cs
    induction cs generalizing e c with
    | nil => rfl
    | cons c' cs ih =>
      rw [escapes, ih, Text.endsIn, Text.endsIn, List.getLast?_cons_cons]
  cases cs with
  | nil => rfl
  | cons c cs => exact hcons false c cs

theorem Marks.escapes {m : List Char} {d : Directive} (h : Marks m d) (e : Bool) :
    escapes e m = false := by
  obtain ⟨cs, rfl, hne, hp⟩ := h.opens
  clear h
  rw [← List.singleton_append, escapes_append]
  generalize Directive.escapes e ['%'] = e'
  induction cs generalizing e' with
  | nil => exact absurd rfl hne
  | cons c cs ih =>
    simp only [List.mem_cons, not_or] at hp
    by_cases hcs : cs = []
    · subst hcs
      simpa [Directive.escapes] using Ne.symm hp.1
    · exact ih hcs hp.2 _

def Found.prepend (xs : List Char) (f : Found) : Found :=
  { f with before := xs ++ f.before }

def Found.append (f : Found) (ys : List Char) : Found :=
  { f with after := f.after ++ ys }

/-- No directive begins in the first text and ends in the second. -/
def Seamless (e : Bool) (xs ys : List Char) : Prop :=
  ∀ us vs, xs = us ++ vs → vs ≠ [] → escapes e us = false →
    ∀ d rest, read? (vs ++ ys) = some (d, rest) → ys.length ≤ rest.length

theorem Seamless.tail {e : Bool} {c : Char} {xs ys : List Char} (h : Seamless e (c :: xs) ys) :
    Seamless (c == '%') xs ys :=
  fun us vs hx hv he => h (c :: us) vs (by rw [hx]; rfl) hv he

theorem Seamless.behind {us vs ys : List Char} (h : Seamless false (us ++ vs) ys)
    (he : escapes false us = false) : Seamless false vs ys := by
  intro as bs hv hb ha
  exact h (us ++ as) bs (by rw [hv, List.append_assoc]) hb (by rw [escapes_append, he, ha])

/-- A directive has no percent sign inside, so none reaches over one. -/
theorem seamless_percent (e : Bool) (xs ys : List Char) : Seamless e xs ('%' :: ys) := by
  intro us vs _ hv _ d rest h
  obtain ⟨m, he, hm⟩ := read?_marks h
  rcases List.append_eq_append_iff.1 he with ⟨as, rfl, hys⟩ | ⟨bs, rfl, rfl⟩
  · cases as with
    | nil => simp_all
    | cons a as =>
      exfalso
      obtain ⟨cs, hcs, -, hp⟩ := hm.opens
      obtain ⟨v, vs, rfl⟩ := List.exists_cons_of_ne_nil hv
      simp only [List.cons_append, List.cons.injEq] at hys hcs
      exact hp (by rw [← hcs.2, ← hys.1]; simp)
  · simp

/-- Over a seam without a directive across it, directives are found as in the two parts. -/
theorem find_append {e : Bool} {xs ys : List Char} (h : Seamless e xs ys) :
    find e (xs ++ ys) =
      match find e xs with
      | some f => some (f.append ys)
      | none => (find (escapes e xs) ys).map (Found.prepend xs) := by
  induction xs generalizing e with
  | nil =>
    simp only [List.nil_append, find, escapes]
    cases find e ys <;> rfl
  | cons c xs ih =>
    have hskip : (find (c == '%') (xs ++ ys)).map (Found.push c) =
        match (find (c == '%') xs).map (Found.push c) with
        | some f => some (f.append ys)
        | none => (find (escapes e (c :: xs)) ys).map (Found.prepend (c :: xs)) := by
      rw [ih h.tail]
      cases find (c == '%') xs with
      | some f => rfl
      | none =>
        simp only [Option.map_none, Option.map_map]
        rfl
    cases e with
    | true => simpa [find] using hskip
    | false =>
      rcases hx : read? (c :: xs) with _ | ⟨d, r⟩
      · have hnone : read? (c :: (xs ++ ys)) = none := by
          rcases hy : read? (c :: (xs ++ ys)) with _ | ⟨d, rest⟩
          · rfl
          · rw [← List.cons_append] at hy
            obtain ⟨r, -, hr⟩ := read?_of_append hy
              (h [] (c :: xs) rfl (by simp) rfl d rest hy)
            rw [hx] at hr
            cases hr
        simpa [find, hx, hnone] using hskip
      · have hy := read?_append hx ys
        rw [List.cons_append] at hy
        simp only [List.cons_append, find, Bool.false_eq_true, if_false, hx, hy, Found.append,
          List.length_cons, List.length_append, Option.some.injEq, Found.mk.injEq, and_true,
          true_and]
        omega

theorem find_of_marks {e : Bool} {xs m : List Char} {d : Directive} (hx : find e xs = none)
    (he : escapes e xs = false) (hm : Marks m d) (ys : List Char) :
    find e (xs ++ (m ++ ys)) = some ⟨xs, d, m.length, ys⟩ := by
  obtain ⟨cs, rfl, -, -⟩ := hm.opens
  rw [List.cons_append, find_append (seamless_percent e xs _), hx, he]
  have hr := hm.reads ys
  rw [List.cons_append] at hr
  simp [find, hr, Found.prepend]
  omega

/-- What is found is written in the text, behind a part that holds no directive. -/
theorem find_marks {e : Bool} {cs : List Char} {f : Found} (h : find e cs = some f) :
    ∃ m, cs = f.before ++ (m ++ f.after) ∧ Marks m f.directive ∧ f.length = m.length ∧
      find e f.before = none ∧ escapes e f.before = false := by
  induction cs generalizing e f with
  | nil => simp [find] at h
  | cons c cs ih =>
    simp only [find] at h
    split at h
    · rename_i d rest hr
      simp only [Option.some.injEq] at h
      subst h
      cases e with
      | true => simp at hr
      | false =>
        obtain ⟨m, he, hm⟩ := read?_marks (by simpa using hr)
        refine ⟨m, by simpa using he, hm, ?_, rfl, rfl⟩
        simp [he]
    · rename_i hr
      obtain ⟨g, hg, rfl⟩ := Option.map_eq_some_iff.1 h
      obtain ⟨m, he, hm, hl, hn, hesc⟩ := ih hg
      refine ⟨m, by rw [he]; rfl, hm, hl, ?_, hesc⟩
      show find e (c :: g.before) = none
      cases e with
      | true => simp [find, hn]
      | false =>
        have hnone : read? (c :: g.before) = none := by
          rcases hb : read? (c :: g.before) with _ | ⟨d, r⟩
          · rfl
          · have := read?_append hb (m ++ g.after)
            rw [List.cons_append, ← he] at this
            simp [this] at hr
        simp [find, hnone, hn]

theorem find_local {e : Bool} {cs : List Char} {f : Found} (h : find e cs = some f) :
    ∃ m, cs = f.before ++ (m ++ f.after) ∧ Marks m f.directive ∧ escapes e f.before = false ∧
      ∀ ys, find e (f.before ++ (m ++ ys)) = some ⟨f.before, f.directive, m.length, ys⟩ := by
  obtain ⟨m, he, hm, -, hn, hesc⟩ := find_marks h
  exact ⟨m, he, hm, hesc, fun ys => find_of_marks hn hesc hm ys⟩

theorem find_behind {xs : List Char} (hx : '%' ∉ xs) (e : Bool) (ys : List Char) :
    find e (xs ++ ys) = (find (escapes e xs) ys).map (Found.prepend xs) := by
  induction xs generalizing e with
  | nil =>
    rw [List.nil_append, escapes]
    cases find e ys <;> rfl
  | cons c xs ih =>
    obtain ⟨hc, hxs⟩ := not_or.1 (mt List.mem_cons.2 hx)
    have hread : read? (c :: (xs ++ ys)) = none := by
      unfold read?
      split <;> simp_all
    have hrest := ih hxs (c == '%')
    simp only [List.cons_append, find, hread, ite_self, hrest, Option.map_map]
    rfl

theorem find_skips {m : List Char} {d : Directive} (hm : Marks m d) (ys : List Char) :
    find true (m ++ ys) = (find false ys).map (Found.prepend m) := by
  have hesc := hm.escapes true
  obtain ⟨cs, rfl, -, hp⟩ := hm.opens
  rw [escapes, show ('%' == '%') = true from rfl] at hesc
  simp only [List.cons_append, find, if_true, show ('%' == '%') = true from rfl,
    find_behind hp, hesc, Option.map_map]
  rfl

/-! ## What stands in front of a text -/

theorem find_of_read?_none {cs : List Char} (h : read? cs = none) (e : Bool) :
    find e cs = find false cs := by
  cases cs with
  | nil => rfl
  | cons c cs => cases e <;> simp [find, h]

theorem before_ne_nil {e : Bool} {cs : List Char} {f : Found} (hf : find e cs = some f)
    (h : read? cs = none) : f.before ≠ [] := by
  obtain ⟨m, he, hm, -, -, -⟩ := find_marks hf
  intro hb
  rw [he, hb, List.nil_append, hm.reads] at h
  cases h

theorem escapes_of_ne_nil {xs : List Char} (h : xs ≠ []) (e e' : Bool) :
    escapes e xs = escapes e' xs := by
  cases xs with
  | nil => exact absurd rfl h
  | cons c xs => rfl

theorem find_of_spans_nil {text : String} (h : spans text = []) :
    find false text.toList = none := by
  unfold spans spansFrom at h
  split at h
  · assumption
  · cases h

theorem reference_mem_references {text : String} {f : Found} {ref : Reference}
    (hf : find false text.toList = some f) (hd : f.directive.reference? = some ref) :
    ref ∈ references text := by
  refine List.mem_filterMap.2 ⟨⟨0 + f.before.length, f.length, f.directive⟩, ?_, hd⟩
  unfold spans spansFrom
  split
  · simp_all
  · rename_i g hg
    obtain rfl := Option.some.inj (hf.symm.trans hg)
    exact List.mem_cons_self

theorem mem_references_of_read? {text : String} {rest : List Char} {d : Directive}
    {ref : Reference} (hr : read? text.toList = some (d, rest)) (hd : d.reference? = some ref) :
    ref ∈ references text := by
  obtain ⟨m, hm, hmarks⟩ := read?_marks hr
  have hfind : find false ([] ++ (m ++ rest)) = some ⟨[], d, m.length, rest⟩ :=
    find_of_marks rfl rfl hmarks rest
  rw [List.nil_append, ← hm] at hfind
  exact reference_mem_references hfind hd

end LayeredConfig.Directive
