import Mathlib
import LayeredConfig.Expansion
import LayeredConfig.Proofs.Directive.Scan

/-!
# Cutting a block down to one branch

A conditional opener may stand in any text. Which directives behind it delimit its block is said
here by counting: a directive is outside of all blocks that are opened behind the opener if as many
were closed as were opened in between, and at no place more.

* `cut`: the text with the block of an opener cut down to one branch; `expandRest_condition`: this
  is what an expansion goes on with.
* `Outer n ss d s`: the directive `d` stands at `s` outside of the blocks that `ss` opens.
* `readBranch_exact`: reading a branch ends at the first such `otherwise` or close.
* `spansFrom_append`: over a seam the places are those of the two parts, and between them at most
  one that lies across.
* `cut_exact`: which fault the cut gives, or which parts of the text are left, and where directives
  stand in the result.
-/

namespace LayeredConfig.Directive

/-- The text with the block that `opener` opens cut down to one branch. -/
def cut (text : String) (opener : Span) (keepFirst : Bool) : Except BlockFault String :=
  (Block.read (text.toList.drop opener.stop)).map fun b =>
    String.ofList (text.toList.take opener.start ++ b.select keepFirst)

/-! ## Counting blocks -/

def weight : Directive → Int
  | whenTrue _ | whenFalse _ => 1
  | close => -1
  | substitute _ | otherwise => 0

def depth (ss : List Span) : Int := (ss.map (·.directive.weight)).sum

/-- With `n` blocks open in front of `ss`, the directive `d` stands at `s` outside of every block,
and none is closed before it that was not open. -/
def Outer (n : Int) (ss : List Span) (d : Directive) (s : Span) : Prop :=
  ∃ as bs, ss = as ++ s :: bs ∧ s.directive = d ∧ n + depth as = 0 ∧
    ∀ cs, cs <+: as → 0 ≤ n + depth cs

def Delimits (d : Directive) : Prop := d = .otherwise ∨ d = .close

theorem Outer.mem {n : Int} {ss : List Span} {d : Directive} {s : Span} (h : Outer n ss d s) :
    s ∈ ss := by
  obtain ⟨as, bs, rfl, -⟩ := h
  exact List.mem_append_right _ List.mem_cons_self

theorem not_outer_nil {n : Int} {d : Directive} {s : Span} : ¬Outer n [] d s :=
  fun h => List.not_mem_nil h.mem

theorem not_outer_of_neg {n : Int} (hn : n < 0) {ss : List Span} {d : Directive} {s : Span} :
    ¬Outer n ss d s := by
  rintro ⟨as, bs, -, -, -, hall⟩
  have hnil : 0 ≤ n + depth [] := hall [] (List.nil_prefix)
  simp only [depth, List.map_nil, List.sum_nil] at hnil
  omega

theorem outer_cons {n : Int} {t : Span} {ss : List Span} {d : Directive} {s : Span} :
    Outer n (t :: ss) d s ↔ (s = t ∧ t.directive = d ∧ n = 0) ∨
      (0 ≤ n ∧ Outer (n + t.directive.weight) ss d s) := by
  have hdepth : ∀ cs, n + depth (t :: cs) = n + t.directive.weight + depth cs := by
    intro cs
    simp only [depth, List.map_cons, List.sum_cons]
    omega
  constructor
  · rintro ⟨as, bs, he, hd, hzero, hall⟩
    cases as with
    | nil =>
      obtain ⟨rfl, rfl⟩ := List.cons.inj he
      exact .inl ⟨rfl, hd, by simpa [depth] using hzero⟩
    | cons a as =>
      obtain ⟨rfl, rfl⟩ := List.cons.inj he
      refine .inr ⟨by simpa [depth] using hall [] List.nil_prefix, as, bs, rfl, hd, ?_, ?_⟩
      · rw [← hdepth, hzero]
      · intro cs hcs
        rw [← hdepth]
        exact hall _ (List.cons_prefix_cons.2 ⟨rfl, hcs⟩)
  · rintro (⟨rfl, hd, rfl⟩ | ⟨hn, as, bs, rfl, hd, hzero, hall⟩)
    · refine ⟨[], ss, rfl, hd, rfl, ?_⟩
      intro cs hcs
      rw [List.prefix_nil.1 hcs]
      exact Int.le_refl 0
    · refine ⟨t :: as, bs, rfl, hd, by rw [hdepth, hzero], ?_⟩
      intro cs hcs
      cases cs with
      | nil => simpa [depth] using hn
      | cons c cs =>
        obtain ⟨rfl, hpre⟩ := List.cons_prefix_cons.1 hcs
        rw [hdepth]
        exact hall cs hpre

/-! ## Reading a branch -/

/-- A branch of a text that starts at `offset` ends at `m`: it is what is in front of `m`, and what
is outer is `m`, or stands behind it if `m` starts another branch. -/
structure Branch.EndsAt (offset n : Nat) (cs : List Char) (b : Branch) (m : Span) : Prop where
  ending : m.directive = b.ending
  le_start : offset ≤ m.start
  start_lt : m.start < m.stop
  text : b.text = cs.take (m.start - offset)
  after : b.after = cs.drop (m.stop - offset)
  outer : ∀ d s, Delimits d → (Outer n (spansFrom offset cs) d s ↔
    (s = m ∧ m.directive = d) ∨
      (m.directive = .otherwise ∧ Outer 0 (spansFrom m.stop b.after) d s))

/-- What reading a branch gives: none if nothing that ends a branch is outer. -/
def Reading (n : Nat) (cs : List Char) : Option Branch → Prop
  | none => ∀ offset d s, Delimits d → ¬Outer n (spansFrom offset cs) d s
  | some b => ∀ offset, ∃ m, b.EndsAt offset n cs m

theorem Reading.here {cs : List Char} {f : Found} {other : Bool} (hf : find false cs = some f)
    (hd : f.directive = if other then .otherwise else .close) :
    Reading 0 cs (some ⟨f.before, other, f.after⟩) := by
  intro offset
  obtain ⟨m, hcs, hm, hlength, -, -⟩ := find_marks hf
  have hpos : 0 < f.length := by
    obtain ⟨cs, rfl, -, -⟩ := hm.opens
    rw [hlength]
    exact Nat.succ_pos _
  refine ⟨⟨offset + f.before.length, f.length, f.directive⟩, hd, Nat.le_add_right _ _,
    Nat.lt_add_of_pos_right hpos, ?_, ?_, ?_⟩
  · rw [hcs, Nat.add_sub_cancel_left, List.take_left]
  · show f.after = cs.drop (offset + f.before.length + f.length - offset)
    rw [Nat.add_assoc, Nat.add_sub_cancel_left, hlength, ← List.length_append, hcs,
      ← List.append_assoc, List.drop_left]
  · intro d s _
    rw [spansFrom_of_some hf, outer_cons]
    show _ ∨ (_ ∧ Outer (0 + f.directive.weight) _ d s) ↔ _ ∨ (f.directive = _ ∧ _)
    cases other with
    | true =>
      rw [show f.directive = .otherwise from hd]
      simp [weight, Span.stop]
    | false =>
      rw [show f.directive = .close from hd]
      simp [weight, not_outer_of_neg]

theorem Reading.step {cs : List Char} {f : Found} {n inner : Nat} {r : Option Branch}
    (hf : find false cs = some f) (hw : (inner : Int) = n + f.directive.weight)
    (hd : Delimits f.directive → n ≠ 0) (h : Reading inner f.after r) :
    Reading n cs (r.map (Branch.prepend (f.upTo cs))) := by
  obtain ⟨mark, hcs, -, hlength, -, -⟩ := find_marks hf
  have houter : ∀ offset d s, Delimits d → (Outer n (spansFrom offset cs) d s ↔
      Outer inner (spansFrom (offset + f.before.length + f.length) f.after) d s) := by
    intro offset d s hdelim
    rw [spansFrom_of_some hf, outer_cons, hw]
    constructor
    · rintro (⟨-, rfl, hn⟩ | ⟨-, h⟩)
      · exact absurd (Int.natCast_eq_zero.1 hn) (hd hdelim)
      · exact h
    · exact fun h => .inr ⟨Int.natCast_nonneg n, h⟩
  cases r with
  | none => exact fun offset d s hdelim => mt (houter offset d s hdelim).1 (h _ d s hdelim)
  | some b =>
    intro offset
    obtain ⟨m, hm⟩ := h (offset + f.before.length + f.length)
    have hle := hm.le_start
    have hlen : (f.before ++ mark).length = f.before.length + f.length := by
      rw [List.length_append, hlength]
    have hup : f.upTo cs = f.before ++ mark := by
      rw [Found.upTo, hcs, ← List.append_assoc, List.length_append, Nat.add_sub_cancel,
        List.take_left]
    refine ⟨m, hm.ending, by omega, hm.start_lt, ?_, ?_, fun d s hdelim => ?_⟩
    · obtain ⟨k, hk⟩ : ∃ k, m.start - offset = (f.before ++ mark).length + k :=
        ⟨m.start - offset - (f.before ++ mark).length, by omega⟩
      have hk' : m.start - (offset + f.before.length + f.length) = k := by omega
      show f.upTo cs ++ b.text = _
      rw [hm.text, hk', hk, hup, hcs, ← List.append_assoc, List.take_length_add_append]
    · have hstop : m.start ≤ m.stop := Nat.le_add_right _ _
      obtain ⟨k, hk⟩ : ∃ k, m.stop - offset = (f.before ++ mark).length + k :=
        ⟨m.stop - offset - (f.before ++ mark).length, by omega⟩
      have hk' : m.stop - (offset + f.before.length + f.length) = k := by omega
      show b.after = _
      rw [hm.after, hk', hk, hcs, ← List.append_assoc, List.drop_length_add_append]
    · rw [houter offset d s hdelim, hm.outer d s hdelim]
      rfl

theorem readBranch_exact (n : Nat) (cs : List Char) : Reading n cs (readBranch n cs) := by
  fun_induction readBranch n cs with
  | case1 n cs hf =>
    intro offset d s _
    rw [spansFrom_of_none hf]
    exact not_outer_nil
  | case2 cs f hf hd | case3 cs f hf hd => exact .here hf hd
  | case4 cs f hf depth hd ih =>
    refine ih.step hf ?_ fun _ => Nat.succ_ne_zero depth
    rw [hd, weight]
    omega
  | case5 cs f hf ref depth hd ih | case6 cs f hf ref depth hd ih =>
    refine ih.step hf ?_ ?_
    · rw [hd]
      rfl
    · rw [hd]
      rintro (h | h) <;> cases h
  | case7 cs f hf depth hclose helse hclose' htrue hfalse ih =>
    refine ih.step hf ?_ ?_
    · rcases hd : f.directive with ref | ref | ref | _ | _
      · rfl
      · exact (htrue ref hd).elim
      · exact (hfalse ref hd).elim
      · rfl
      · cases depth with
        | zero => exact (hclose hd rfl).elim
        | succ d => exact (hclose' d hd rfl).elim
    · rintro (hd | hd) rfl
      · exact helse hd rfl
      · exact hclose hd rfl

/-- What reading a block gives: a fault, or the text in front of the first outer `otherwise` and
of the first outer close. -/
theorem Block.read_exact (offset : Nat) (cs : List Char) :
    let outer := fun d s => Outer 0 (spansFrom offset cs) d s
    (Block.read cs = .error .unclosed ∧ (∀ f, ¬outer .close f) ∧
      ∀ e e', outer .otherwise e → outer .otherwise e' → e = e') ∨
    (Block.read cs = .error .doubleElse ∧
      ∃ e e', e ≠ e' ∧ outer .otherwise e ∧ outer .otherwise e') ∨
    (∃ f, (∀ s, outer .close s ↔ s = f) ∧ (∀ e, ¬outer .otherwise e) ∧ offset ≤ f.start ∧
      Block.read cs = .ok ⟨cs.take (f.start - offset), [], cs.drop (f.stop - offset)⟩) ∨
    ∃ e f, (∀ s, outer .close s ↔ s = f) ∧ (∀ s, outer .otherwise s ↔ s = e) ∧
      offset ≤ e.start ∧ e.stop ≤ f.start ∧
      Block.read cs = .ok ⟨cs.take (e.start - offset),
        (cs.drop (e.stop - offset)).take (f.start - e.stop),
        (cs.drop (e.stop - offset)).drop (f.stop - e.stop)⟩ := by
  intro outer
  have hfirst := readBranch_exact 0 cs
  rcases hb : readBranch 0 cs with _ | b <;> rw [hb] at hfirst
  · refine .inl ⟨by rw [Block.read, hb], fun f => hfirst offset _ f (.inr rfl), ?_⟩
    intro e e' he
    exact absurd he (hfirst offset _ e (.inl rfl))
  obtain ⟨m, hm⟩ := hfirst offset
  have hclose : ∀ s, outer .close s ↔ _ := fun s => hm.outer .close s (.inr rfl)
  have hother : ∀ s, outer .otherwise s ↔ _ := fun s => hm.outer .otherwise s (.inl rfl)
  cases hbo : b.hasOther with
  | false =>
    have hend : m.directive = .close := by rw [hm.ending, Branch.ending, hbo]; rfl
    refine .inr (.inr (.inl ⟨m, fun s => ?_, fun e => ?_, hm.le_start, ?_⟩))
    · simp [hclose, hend]
    · simp [hother, hend]
    · simp only [Block.read, hb, hbo, ← hm.text, ← hm.after]
      rfl
  | true =>
    have hend : m.directive = .otherwise := by rw [hm.ending, Branch.ending, hbo]; rfl
    simp only [hend, reduceCtorEq, and_false, false_or, true_and, and_true] at hclose hother
    have hsecond := readBranch_exact 0 b.after
    rcases hc : readBranch 0 b.after with _ | c <;> rw [hc] at hsecond
    · refine .inl ⟨by simp only [Block.read, hb, hbo, hc, if_true], fun f hf => ?_, ?_⟩
      · exact hsecond m.stop _ f (.inr rfl) ((hclose f).1 hf)
      · have hm' : ∀ e, outer .otherwise e → e = m := fun e he =>
          ((hother e).1 he).resolve_right (hsecond m.stop _ e (.inl rfl))
        intro e e' he he'
        rw [hm' e he, hm' e' he']
    obtain ⟨m', hm'⟩ := hsecond m.stop
    have hclose' : ∀ s, Outer 0 _ .close s ↔ _ := fun s => hm'.outer .close s (.inr rfl)
    have hother' : ∀ s, Outer 0 _ .otherwise s ↔ _ := fun s => hm'.outer .otherwise s (.inl rfl)
    cases hco : c.hasOther with
    | true =>
      have hend' : m'.directive = .otherwise := by rw [hm'.ending, Branch.ending, hco]; rfl
      refine .inr (.inl ⟨by simp only [Block.read, hb, hbo, hc, hco, if_true], m, m', ?_,
        (hother m).2 (.inl rfl), (hother m').2 (.inr ((hother' m').2 (.inl ⟨rfl, hend'⟩)))⟩)
      rintro rfl
      exact absurd hm'.le_start (Nat.not_le.2 hm.start_lt)
    | false =>
      have hend' : m'.directive = .close := by rw [hm'.ending, Branch.ending, hco]; rfl
      simp only [hend', reduceCtorEq, and_false, false_and, or_false, and_true] at hclose' hother'
      refine .inr (.inr (.inr ⟨m, m', fun s => ?_, fun s => ?_, hm.le_start, hm'.le_start, ?_⟩))
      · exact (hclose s).trans (hclose' s)
      · rw [hother, hother', or_false]
      · rw [← hm.after, ← hm.text, ← hm'.text, ← hm'.after]
        simp only [Block.read, hb, hbo, hc, hco, if_true]
        rfl

/-! ## Places in joined texts -/

theorem spans_ext {ss ts : List Span} (hs : ss.Pairwise (fun s t => s.start < t.start))
    (ht : ts.Pairwise (fun s t => s.start < t.start)) (h : ∀ s, s ∈ ss ↔ s ∈ ts) : ss = ts := by
  have : Std.Irrefl (fun s t : Span => s.start < t.start) := ⟨fun s => Nat.lt_irrefl _⟩
  have : Std.Antisymm (fun s t : Span => s.start < t.start) :=
    ⟨fun s t h₁ h₂ => absurd h₁ (Nat.lt_asymm h₂)⟩
  exact hs.eq_of_mem_iff ht h

theorem length_le_one {ss : List Span} (h : ss.Pairwise (fun s t => s.start < t.start))
    (hsame : ∀ s ∈ ss, ∀ t ∈ ss, s = t) : ss.length ≤ 1 := by
  match ss, h, hsame with
  | [], _, _ => exact Nat.zero_le 1
  | [_], _, _ => exact Nat.le_refl 1
  | s :: t :: ss, h, hsame =>
    have hlt : s.start < t.start := List.rel_of_pairwise_cons h List.mem_cons_self
    rw [hsame s List.mem_cons_self t (List.mem_cons_of_mem _ List.mem_cons_self)] at hlt
    exact absurd hlt (Nat.lt_irrefl _)

theorem spansFrom_increasing {us vs : List Char} (he : escapes false us = false) :
    (spansFrom us.length vs).Pairwise (fun s t => s.start < t.start) := by
  refine (spansFrom_ordered us vs).imp_of_mem ?_
  intro s t hs _ hle
  exact Nat.lt_of_lt_of_le ((mem_spansFrom he).1 hs).1.start_lt hle

theorem stands_append {xs ys : List Char} {s : Span} :
    Stands xs s ↔ Stands (xs ++ ys) s ∧ s.stop ≤ xs.length := by
  constructor
  · intro h
    refine ⟨?_, h.stop_le⟩
    obtain ⟨us, body, rest, rfl, h⟩ := h
    exact ⟨us, body, rest ++ ys, by simp, h⟩
  · rintro ⟨h, hle⟩
    obtain ⟨us, body, rest, he, hbody, hstart, hlength, hlast⟩ := h
    have hsplit : xs ++ ys = us ++ '%' :: '{' :: (body ++ ['}']) ++ rest := by simpa using he
    have hlen : (us ++ '%' :: '{' :: (body ++ ['}'])).length = s.stop := by
      simp only [List.length_append, List.length_cons, List.length_nil, Span.stop]
      omega
    rcases List.append_eq_append_iff.1 hsplit with ⟨as, hxs, rfl⟩ | ⟨bs, rfl, rfl⟩
    · have hnil : as = [] := by
        have := congrArg List.length hxs
        rw [hlen, List.length_append] at this
        exact List.length_eq_zero_iff.1 (by omega)
      subst hnil
      exact ⟨us, body, [], by simpa using hxs.symm, hbody, hstart, hlength, hlast⟩
    · exact ⟨us, body, bs, by simp, hbody, hstart, hlength, hlast⟩

theorem Stands.across_unique {cs : List Char} {s t : Span} {k : Nat} (hs : Stands cs s)
    (ht : Stands cs t) (hsk : s.start < k ∧ k < s.stop) (htk : t.start < k ∧ k < t.stop) :
    s = t := by
  rcases Nat.lt_trichotomy s.start t.start with h | h | h
  · have := hs.disjoint ht h
    omega
  · exact hs.unique ht h
  · have := ht.disjoint hs h
    omega

theorem seamless_iff {us xs ys : List Char} (hus : escapes false us = false) :
    Seamless false xs ys ↔ ∀ s, Stands (us ++ (xs ++ ys)) s → us.length ≤ s.start →
      s.start < (us ++ xs).length → s.stop ≤ (us ++ xs).length := by
  constructor
  · intro hs s hstands hle hlt
    obtain ⟨as, ws, rest, he, hstart, hesc, hread, hlength⟩ := hstands.behind hle
    rw [hus] at hesc
    rw [List.length_append] at hlt
    obtain ⟨bs, rfl, rfl⟩ : ∃ bs, xs = as ++ bs ∧ ws = bs ++ ys := by
      rcases List.append_eq_append_iff.1 he with ⟨cs, rfl, -⟩ | ⟨bs, hxs, rfl⟩
      · rw [List.length_append] at hstart
        omega
      · exact ⟨bs, hxs, rfl⟩
    have hne : bs ≠ [] := by
      rintro rfl
      rw [List.append_nil] at hlt
      omega
    have hshort := hs as bs rfl hne hesc _ _ hread
    simp only [Span.stop, List.length_append] at hlength ⊢
    omega
  · rintro hall as bs rfl hne hesc d rest hread
    have hlen := read?_length hread
    have hpos := List.length_pos_iff.2 hne
    have hstands : Stands (us ++ (as ++ bs ++ ys))
        ⟨(us ++ as).length, (bs ++ ys).length - rest.length, d⟩ := by
      refine stands_iff.2 ⟨us ++ as, bs ++ ys, rest, by simp, ?_, hread, rfl, ?_⟩
      · rw [escapes_append, hus, hesc]
      · show (bs ++ ys).length - rest.length + rest.length = _
        omega
    have hstop := hall _ hstands
    simp only [Span.stop, List.length_append] at hlen hstop
    have := hstop (by omega) (by omega)
    omega

/-- Over a seam the places are those of the two parts, and at most one that lies across; there is
none exactly if the seam makes no directive. -/
theorem spansFrom_append {us xs : List Char} (ys : List Char) (hus : escapes false us = false)
    (hxs : escapes false xs = false) : ∃ across : List Span, across.length ≤ 1 ∧
      (∀ s ∈ across, s.start < (us ++ xs).length ∧ (us ++ xs).length < s.stop) ∧
      (across = [] ↔ Seamless false xs ys) ∧
      spansFrom us.length (xs ++ ys) =
        spansFrom us.length xs ++ (across ++ spansFrom (us ++ xs).length ys) := by
  have hseam : escapes false (us ++ xs) = false := by rw [escapes_append, hus, hxs]
  let across := (spansFrom us.length (xs ++ ys)).filter fun s =>
    s.start < (us ++ xs).length ∧ (us ++ xs).length < s.stop
  have hmem : ∀ s, s ∈ across ↔ Stands (us ++ (xs ++ ys)) s ∧ us.length ≤ s.start ∧
      s.start < (us ++ xs).length ∧ (us ++ xs).length < s.stop := by
    intro s
    rw [List.mem_filter, mem_spansFrom hus, decide_eq_true_eq, and_assoc]
  have hleft : ∀ s, s ∈ spansFrom us.length xs ↔
      (Stands (us ++ (xs ++ ys)) s ∧ s.stop ≤ (us ++ xs).length) ∧ us.length ≤ s.start := by
    intro s
    rw [mem_spansFrom hus, ← List.append_assoc, stands_append]
  have hright : ∀ s, s ∈ spansFrom (us ++ xs).length ys ↔
      Stands (us ++ (xs ++ ys)) s ∧ (us ++ xs).length ≤ s.start := by
    intro s
    rw [mem_spansFrom hseam, List.append_assoc]
  have hordered : across.Pairwise (fun s t => s.start < t.start) :=
    (spansFrom_increasing hus).filter _
  refine ⟨across, ?_, fun s hs => ((hmem s).1 hs).2.2, ?_, ?_⟩
  · have hsame : ∀ s ∈ across, ∀ t ∈ across, s = t := fun s hs t ht =>
      ((hmem s).1 hs).1.across_unique ((hmem t).1 ht).1 ((hmem s).1 hs).2.2 ((hmem t).1 ht).2.2
    exact length_le_one hordered hsame
  · rw [seamless_iff hus, List.eq_nil_iff_forall_not_mem]
    simp only [hmem, not_and, Nat.not_lt]
  · refine spans_ext (spansFrom_increasing hus) ?_ fun s => ?_
    · refine List.pairwise_append.2 ⟨spansFrom_increasing hus, List.pairwise_append.2
        ⟨hordered, spansFrom_increasing hseam, ?_⟩, ?_⟩
      · intro s hs t ht
        exact Nat.lt_of_lt_of_le ((hmem s).1 hs).2.2.1 ((hright t).1 ht).2
      · intro s hs t ht
        obtain ⟨⟨hs, hstop⟩, -⟩ := (hleft s).1 hs
        have hlt := hs.start_lt
        rcases List.mem_append.1 ht with ht | ht
        · -- `t` ends behind the seam, so it is not in front of `s`
          obtain ⟨ht, -, -, hbehind⟩ := (hmem t).1 ht
          rcases Nat.lt_trichotomy s.start t.start with h | h | h
          · exact h
          · rw [hs.unique ht h] at hstop
            omega
          · have := ht.disjoint hs h
            omega
        · have := ((hright t).1 ht).2
          omega
    · rw [List.mem_append, List.mem_append, mem_spansFrom hus, hleft, hmem, hright]
      constructor
      · rintro ⟨hs, hle⟩
        by_cases h₁ : s.stop ≤ (us ++ xs).length
        · exact .inl ⟨⟨hs, h₁⟩, hle⟩
        · by_cases h₂ : s.start < (us ++ xs).length
          · exact .inr (.inl ⟨hs, hle, h₂, Nat.lt_of_not_le h₁⟩)
          · exact .inr (.inr ⟨hs, Nat.le_of_not_lt h₂⟩)
      · rintro (⟨⟨hs, -⟩, hle⟩ | ⟨hs, hle, -⟩ | ⟨hs, hle⟩)
        · exact ⟨hs, hle⟩
        · exact ⟨hs, hle⟩
        · rw [List.length_append] at hle
          exact ⟨hs, by omega⟩

/-- The directive begins in the first text and ends in the second. -/
def Across (d : Directive) (xs ys : List Char) : Prop :=
  ∃ s, Stands (xs ++ ys) s ∧ s.directive = d ∧ s.start < xs.length ∧ xs.length < s.stop

/-- The directives of joined texts are those of the two parts, and the one across the seam. -/
theorem mem_directives_append {d : Directive} {xs : List Char} (ys : List Char)
    (hxs : escapes false xs = false) :
    d ∈ directives (xs ++ ys) ↔ d ∈ directives xs ∨ Across d xs ys ∨ d ∈ directives ys := by
  obtain ⟨across, -, hacross, -, hspans⟩ := @spansFrom_append [] xs ys rfl hxs
  have hall : ∀ s, s ∈ spansFrom 0 (xs ++ ys) ↔ Stands (xs ++ ys) s := by
    intro s
    rw [← List.length_nil (α := Char), mem_spansFrom rfl]
    exact and_iff_left (Nat.zero_le _)
  have hmem : ∀ (n : Nat) (cs : List Char),
      d ∈ directives cs ↔ ∃ s ∈ spansFrom n cs, s.directive = d := by
    intro n cs
    rw [directives, pieces_directives cs n, List.mem_map]
  rw [List.nil_append] at hacross
  rw [List.nil_append, List.length_nil] at hspans
  rw [hmem 0 (xs ++ ys), hmem 0 xs, hmem xs.length ys]
  constructor
  · rintro ⟨s, hs, hd⟩
    have hstands := (hall s).1 hs
    rw [hspans] at hs
    rcases List.mem_append.1 hs with hs | hs
    · exact .inl ⟨s, hs, hd⟩
    · rcases List.mem_append.1 hs with hs | hs
      · exact .inr (.inl ⟨s, hstands, hd, hacross s hs⟩)
      · exact .inr (.inr ⟨s, hs, hd⟩)
  · rintro (⟨s, hs, hd⟩ | ⟨s, hstands, hd, -⟩ | ⟨s, hs, hd⟩)
    · exact ⟨s, hspans ▸ List.mem_append_left _ hs, hd⟩
    · exact ⟨s, (hall s).2 hstands, hd⟩
    · exact ⟨s, hspans ▸ List.mem_append_right _ (List.mem_append_right _ hs), hd⟩

/-! ## The cut -/

def spansBehind (text : String) (pos : Nat) : List Span := (spans text).filter (pos ≤ ·.start)

def spansBetween (text : String) (low high : Nat) : List Span :=
  (spans text).filter fun s => low ≤ s.start ∧ s.stop ≤ high

theorem spans_increasing (text : String) :
    (spans text).Pairwise (fun s t => s.start < t.start) :=
  spansFrom_increasing (show escapes false [] = false from rfl)

theorem spansBehind_eq {text : String} {us vs : List Char} (ht : text.toList = us ++ vs)
    (he : escapes false us = false) : spansBehind text us.length = spansFrom us.length vs := by
  refine spans_ext ((spans_increasing text).filter _) (spansFrom_increasing he) fun s => ?_
  rw [spansBehind, List.mem_filter, mem_spans, mem_spansFrom he, ht, decide_eq_true_eq]

theorem spansBetween_eq {text : String} {us xs vs : List Char}
    (ht : text.toList = us ++ (xs ++ vs)) (he : escapes false us = false) :
    spansBetween text us.length (us ++ xs).length = spansFrom us.length xs := by
  refine spans_ext ((spans_increasing text).filter _) (spansFrom_increasing he) fun s => ?_
  rw [spansBetween, List.mem_filter, mem_spans, mem_spansFrom he, decide_eq_true_eq, ht,
    ← List.append_assoc, @stands_append (us ++ xs) vs, and_assoc,
    and_comm (a := us.length ≤ s.start)]

/-- Cutting gives the text in front of the opener, the part from `low` to `high` and the text from
`stop` on. The directives of these parts stand where they were, moved with their part, and besides
there is at most one, which begins in the middle part and ends behind it. -/
def Leaves (text : String) (opener : Span) (keepFirst : Bool) (low high stop : Nat) : Prop :=
  opener.stop ≤ low ∧ low ≤ high ∧ high ≤ stop ∧ stop ≤ text.toList.length ∧
    ∃ front branch rest across result, front = text.toList.take opener.start ∧
      branch = text.toList.extract low high ∧ rest = text.toList.drop stop ∧
      cut text opener keepFirst = .ok result ∧ result.toList = front ++ (branch ++ rest) ∧
      spansBetween text low high = spansFrom low branch ∧
      spansBehind text stop = spansFrom stop rest ∧
      spansBehind result opener.start = spansFrom opener.start branch ++
        (across ++ spansFrom (opener.start + branch.length) rest) ∧
      across.length ≤ 1 ∧ (across = [] ↔ Seamless false branch rest) ∧
      ∀ s ∈ across, s.start < opener.start + branch.length ∧
        opener.start + branch.length < s.stop

theorem Stands.plain_start {cs : List Char} {s : Span} (h : Stands cs s) :
    escapes false (cs.take s.start) = false := by
  obtain ⟨us, vs, rest, rfl, hesc, -, hstart, -⟩ := stands_iff.1 h
  rw [← hstart, List.take_left]
  exact hesc

theorem Stands.plain_stop {cs : List Char} {s : Span} (h : Stands cs s) :
    escapes false (cs.take s.stop) = false := by
  obtain ⟨us, vs, rest, rfl, -, hread, hstart, hlength⟩ := stands_iff.1 h
  obtain ⟨m, rfl, hm⟩ := read?_marks hread
  have hstop : s.stop = (us ++ m).length := by
    rw [List.length_append] at hlength
    rw [List.length_append, Span.stop]
    omega
  rw [hstop, ← List.append_assoc, List.take_left, escapes_append, hm.escapes]

theorem leaves_of_cut {text : String} {o : Span} {keepFirst : Bool} {low high stop : Nat}
    (ho : Stands text.toList o) (hlow : escapes false (text.toList.take low) = false)
    (hhigh : escapes false (text.toList.take high) = false)
    (hplain : escapes false (text.toList.take stop) = false) (h₁ : o.stop ≤ low) (h₂ : low ≤ high)
    (h₃ : high ≤ stop) (h₄ : stop ≤ text.toList.length)
    (hcut : cut text o keepFirst = .ok (String.ofList (text.toList.take o.start ++
      (text.toList.extract low high ++ text.toList.drop stop)))) :
    Leaves text o keepFirst low high stop := by
  have hlt := ho.start_lt
  -- the parts of the text
  have hlen : ∀ k, k ≤ stop → (text.toList.take k).length = k := by
    intro k hk
    rw [List.length_take]
    omega
  have hjoin : text.toList.take low ++ text.toList.extract low high = text.toList.take high := by
    rw [List.extract_eq_take_drop, ← List.take_add]
    congr 1
    omega
  have hbranch : escapes false (text.toList.extract low high) = false := by
    rw [← hjoin, escapes_append, hlow] at hhigh
    exact hhigh
  have hstart : (text.toList.take o.start).length = o.start := hlen _ (by omega)
  obtain ⟨across, hone, hacross, hseam, hspans⟩ :=
    spansFrom_append (text.toList.drop stop) ho.plain_start hbranch
  rw [List.length_append, hstart] at hacross hspans
  refine ⟨h₁, h₂, h₃, h₄, _, _, _, across, _, rfl, rfl, rfl, hcut, String.toList_ofList, ?_, ?_, ?_,
    hone, hseam, hacross⟩
  · have htext : text.toList = text.toList.take low ++
        (text.toList.extract low high ++ text.toList.drop high) := by
      rw [← List.append_assoc, hjoin, List.take_append_drop]
    have h := spansBetween_eq htext hlow
    rwa [hjoin, hlen low (by omega), hlen high h₃] at h
  · have h := spansBehind_eq (List.take_append_drop stop text.toList).symm hplain
    rwa [hlen stop (Nat.le_refl _)] at h
  · have h := spansBehind_eq (String.toList_ofList (l := text.toList.take o.start ++
      (text.toList.extract low high ++ text.toList.drop stop))) ho.plain_start
    rw [hstart] at h
    rw [h, hspans]

theorem leaves_one_branch {text : String} {o f : Span} (ho : Stands text.toList o)
    (hf : Stands text.toList f) (hle : o.stop ≤ f.start)
    (hread : Block.read (text.toList.drop o.stop) =
      .ok ⟨text.toList.extract o.stop f.start, [], text.toList.drop f.stop⟩) :
    Leaves text o true o.stop f.start f.stop ∧ Leaves text o false f.start f.start f.stop := by
  have hlt : f.start ≤ f.stop := Nat.le_of_lt hf.start_lt
  constructor
  · refine leaves_of_cut ho ho.plain_stop hf.plain_start hf.plain_stop (Nat.le_refl _) hle hlt
      hf.stop_le ?_
    rw [cut, hread]
    rfl
  · refine leaves_of_cut ho hf.plain_start hf.plain_start hf.plain_stop hle (Nat.le_refl _) hlt
      hf.stop_le ?_
    have hempty : text.toList.extract f.start f.start = [] := by
      rw [List.extract_eq_take_drop, Nat.sub_self, List.take_zero]
    rw [cut, hread, hempty]
    rfl

theorem leaves_two_branches {text : String} {o e f : Span} (ho : Stands text.toList o)
    (he : Stands text.toList e) (hf : Stands text.toList f) (hle : o.stop ≤ e.start)
    (hle' : e.stop ≤ f.start)
    (hread : Block.read (text.toList.drop o.stop) =
      .ok ⟨text.toList.extract o.stop e.start, text.toList.extract e.stop f.start,
        text.toList.drop f.stop⟩) :
    Leaves text o true o.stop e.start f.stop ∧ Leaves text o false e.stop f.start f.stop := by
  have hlt : e.start < e.stop := he.start_lt
  have hlt' : f.start < f.stop := hf.start_lt
  constructor
  · refine leaves_of_cut ho ho.plain_stop he.plain_start hf.plain_stop (Nat.le_refl _) hle
      (by omega) hf.stop_le ?_
    rw [cut, hread]
    rfl
  · refine leaves_of_cut ho he.plain_stop hf.plain_start hf.plain_stop (by omega) hle'
      (by omega) hf.stop_le ?_
    rw [cut, hread]
    rfl

theorem next?_stands {text : String} {pos : Int} {s : Span} (h : next? text pos = some s) :
    Stands text.toList s := by
  have hstart : next? text pos = next? text (startOf text.toList.length pos : Nat) := by
    have hid : startOf text.toList.length (startOf text.toList.length pos : Nat) =
        startOf text.toList.length pos := by
      rw [startOf, if_neg (by omega), Int.toNat_natCast]
    rw [next?, next?, hid]
  rw [hstart] at h
  exact (next?_iff.1 h).1

/-- Cutting is exact. With the directives behind the opener counted from there: a second outer
`otherwise` is a fault; else so is a missing outer close; else what is left is the text in front of
the opener, the branch that is kept and the text behind the close, and the directives of the result
are theirs and at most one that begins in the branch and ends behind it. -/
theorem cut_exact {text : String} {pos : Int} {o : Span} (ho : next? text pos = some o) :
    let outer := fun d s => Outer 0 (spansBehind text o.stop) d s
    ((∃ e e', e ≠ e' ∧ outer .otherwise e ∧ outer .otherwise e') →
      ∀ keepFirst, cut text o keepFirst = .error .doubleElse) ∧
    ((∀ e e', outer .otherwise e → outer .otherwise e' → e = e') → (∀ f, ¬outer .close f) →
      ∀ keepFirst, cut text o keepFirst = .error .unclosed) ∧
    (∀ f, outer .close f → (∀ e, ¬outer .otherwise e) →
      Leaves text o true o.stop f.start f.stop ∧ Leaves text o false f.start f.start f.stop) ∧
    (∀ e f, outer .close f → (∀ s, outer .otherwise s ↔ s = e) →
      Leaves text o true o.stop e.start f.stop ∧ Leaves text o false e.stop f.start f.stop) := by
  intro outer
  have hs := next?_stands ho
  have hplain := hs.plain_stop
  have hlen : (text.toList.take o.stop).length = o.stop := by
    rw [List.length_take, Nat.min_eq_left hs.stop_le]
  have hbehind := spansBehind_eq (List.take_append_drop o.stop text.toList).symm hplain
  rw [hlen] at hbehind
  have hstands : ∀ {d s}, outer d s → Stands text.toList s := fun h =>
    mem_spans.1 (List.mem_of_mem_filter h.mem)
  have hread := Block.read_exact o.stop (text.toList.drop o.stop)
  simp only [← hbehind] at hread
  -- the parts in the whole text
  have htake : ∀ low high, ((text.toList.drop low).take (high - low)) =
      text.toList.extract low high := fun low high => (List.extract_eq_take_drop ..).symm
  have hdrop : ∀ low high, low ≤ high → (text.toList.drop low).drop (high - low) =
      text.toList.drop high := by
    intro low high hle
    rw [List.drop_drop, Nat.add_sub_cancel' hle]
  rcases hread with ⟨hr, hnone, hsame⟩ | ⟨hr, e, e', hne, he, he'⟩ | ⟨f, hf, hnone, hle, hr⟩ |
    ⟨e, f, hf, he, hle, hle', hr⟩
  · refine ⟨?_, ?_, fun f h => absurd h (hnone f), fun e f h => absurd h (hnone f)⟩
    · rintro ⟨e, e', hne, he, he'⟩
      exact absurd (hsame e e' he he') hne
    · intro _ _ keepFirst
      rw [cut, hr]
      rfl
  · refine ⟨?_, fun h => absurd (h e e' he he') hne, fun f _ h => absurd he (h e), ?_⟩
    · intro _ keepFirst
      rw [cut, hr]
      rfl
    · intro e₀ f _ h
      exact absurd (((h e).1 he).trans ((h e').1 he').symm) hne
  · refine ⟨?_, fun _ h => absurd ((hf f).2 rfl) (h f), ?_, ?_⟩
    · rintro ⟨e, -, -, he, -⟩
      exact absurd he (hnone e)
    · intro g hg _
      obtain rfl := (hf g).1 hg
      have hg' := hstands hg
      rw [htake, hdrop _ _ (by have := hg'.start_lt; omega)] at hr
      exact leaves_one_branch hs hg' hle hr
    · intro e g _ h
      exact absurd ((h e).2 rfl) (hnone e)
  · refine ⟨?_, fun _ h => absurd ((hf f).2 rfl) (h f),
      fun _ _ h => absurd ((he e).2 rfl) (h e), ?_⟩
    · rintro ⟨e₁, e₂, hne, h₁, h₂⟩
      exact absurd (((he e₁).1 h₁).trans ((he e₂).1 h₂).symm) hne
    · intro e₀ g hg h
      obtain rfl := (hf g).1 hg
      obtain rfl := (h e).1 ((he e).2 rfl)
      have he' := hstands ((he e).2 rfl)
      have hg' := hstands hg
      have hlt := he'.start_lt
      have hlt' := hg'.start_lt
      rw [htake, hdrop _ _ (by omega), htake, hdrop _ _ (by omega)] at hr
      exact leaves_two_branches hs he' hg' hle hle' hr

/-- A block in which nothing is nested: the first branch is kept, or the second. -/
theorem cut_plain_block :
    next? "%\x7b?X\x7da%\x7belse\x7db%\x7b\x7dc" 0 = some ⟨0, 5, .whenTrue (.direct "X")⟩ ∧
    Leaves "%\x7b?X\x7da%\x7belse\x7db%\x7b\x7dc" ⟨0, 5, .whenTrue (.direct "X")⟩ true 5 6 17 ∧
    Leaves "%\x7b?X\x7da%\x7belse\x7db%\x7b\x7dc" ⟨0, 5, .whenTrue (.direct "X")⟩ false 13 14 17 := by
  have hfirst : next? "%\x7b?X\x7da%\x7belse\x7db%\x7b\x7dc" 0 =
      some ⟨0, 5, .whenTrue (.direct "X")⟩ := by cbv
  have hbehind : spansBehind "%\x7b?X\x7da%\x7belse\x7db%\x7b\x7dc" (5 : Nat) =
      [⟨6, 7, .otherwise⟩, ⟨14, 3, .close⟩] := by cbv
  have houter : ∀ d s, Outer 0 (spansBehind "%\x7b?X\x7da%\x7belse\x7db%\x7b\x7dc" 5) d s ↔
      (s = ⟨6, 7, .otherwise⟩ ∧ .otherwise = d) ∨ (s = ⟨14, 3, .close⟩ ∧ .close = d) := by
    intro d s
    simp [hbehind, outer_cons, weight, not_outer_nil]
  obtain ⟨-, -, -, hchoice⟩ := cut_exact hfirst
  refine ⟨hfirst, hchoice ⟨6, 7, .otherwise⟩ ⟨14, 3, .close⟩ ?_ fun s => ?_⟩
  · exact (houter _ _).2 (.inr ⟨rfl, rfl⟩)
  · exact (houter _ s).trans (by simp)

/-- A kept branch can make a directive with what stands behind the block, where none stood before:
the part `%{` and the rest `X}`, which hold none, are joined. -/
theorem cut_makes_directive :
    next? "%\x7b?X\x7d%\x7b%\x7b\x7dX\x7d" 0 = some ⟨0, 5, .whenTrue (.direct "X")⟩ ∧
    spansBehind "%\x7b?X\x7d%\x7b%\x7b\x7dX\x7d" 5 = [⟨7, 3, .close⟩] ∧
    cut "%\x7b?X\x7d%\x7b%\x7b\x7dX\x7d" ⟨0, 5, .whenTrue (.direct "X")⟩ true =
      .ok ("" ++ "%\x7b" ++ "X\x7d") ∧
    spans "%\x7b" = [] ∧ spans "X\x7d" = [] ∧
    spansBehind ("" ++ "%\x7b" ++ "X\x7d") 0 = [⟨0, 4, .substitute (.direct "X")⟩] := by
  refine ⟨?_, ?_, ?_, ?_, ?_, ?_⟩ <;> cbv

end LayeredConfig.Directive

namespace LayeredConfig.Expansion

/-- Where an expansion comes to an opener and has its answer, it cuts the block down in the text as
it stands, and goes on in the result from where the opener stood. -/
theorem expandRest_condition {answer : String → State → Outcome} {prefixKey key : String}
    {done rest : List Char} {f : Directive.Found} {wanted : Bool} {ref : Reference} {s s' : State}
    {value : String} (hf : Directive.find (Text.endsIn (· == '%') done) rest = some f)
    (hd : f.directive = Directive.condition wanted ref)
    (hv : follow answer prefixKey key ref s = (.ok value, s')) :
    let opener : Directive.Span := ⟨done.length + f.before.length, f.length, f.directive⟩
    expandRest answer prefixKey key done rest s =
      match Directive.cut (String.ofList (done ++ rest)) opener (Setting.isTrue value == wanted) with
      | .error e => (.error (blockFault key e), s')
      | .ok result => expandRest answer prefixKey key (result.toList.take opener.start)
          (result.toList.drop opener.start) s' := by
  intro opener
  obtain ⟨m, hrest, -, hlength, -, -⟩ := Directive.find_marks hf
  have hlen : (done ++ f.before).length = opener.start := List.length_append
  have hstop : (done ++ f.before ++ m).length = opener.stop := by
    rw [List.length_append, hlen, ← hlength]
    rfl
  have htake : (done ++ rest).take opener.start = done ++ f.before := by
    rw [← hlen, hrest, ← List.append_assoc, List.take_left]
  have hdrop : (done ++ rest).drop opener.stop = f.after := by
    rw [← hstop, hrest, ← List.append_assoc, ← List.append_assoc, List.drop_left]
  have hstep : expandRest answer prefixKey key done rest s =
      match Directive.Block.read f.after with
      | .error e => (.error (blockFault key e), s')
      | .ok block => expandRest answer prefixKey key (done ++ f.before)
          (block.select (Setting.isTrue value == wanted)) s' := by
    rw [expandRest]
    split
    · rename_i hnone
      rw [hf] at hnone
      cases hnone
    · rename_i g hg
      obtain rfl := Option.some.inj (hf.symm.trans hg)
      cases wanted <;> simp only [Directive.condition, if_true, Bool.false_eq_true, if_false] at hd
      all_goals
        simp only [hd, hv]
        split <;> rename_i hb
        · simp only [hb]
        · simp only [hb]
  rw [hstep, Directive.cut, String.toList_ofList, hdrop, htake]
  rcases Directive.Block.read f.after with e | b
  · rfl
  · show _ = expandRest answer prefixKey key (List.take _ (String.ofList _).toList)
      (List.drop _ (String.ofList _).toList) s'
    rw [String.toList_ofList, ← hlen, List.take_left, List.drop_left]

end LayeredConfig.Expansion
