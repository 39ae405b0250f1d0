import LayeredConfig.Proofs.Directive.Template

/-!
# Blocks in any text

A text need not be well-formed, but a block that can be read in it holds whole blocks: what it
opens it also closes, so cutting it out leaves the depth of what follows as it was.

* `directives`: the directives of a text, in order; `directives_append`: over a seam.
* `stray`: a close or an `otherwise` stands outside every block.
* `Branch.Reads`, `readBranch_reads`: where a branch ends, and that it holds whole blocks.
* `Block.Nests`, `Block.read_nests`: the same for a block.
-/

namespace LayeredConfig.Directive

def directives (cs : List Char) : List Directive := (pieces cs).filterMap (·.2)

theorem directives_of_none {cs : List Char} (h : find false cs = none) : directives cs = [] := by
  rw [directives, pieces_of_none h]
  rfl

theorem directives_nil : directives [] = [] := directives_of_none rfl

theorem directives_of_some {cs : List Char} {f : Found} (h : find false cs = some f) :
    directives cs = f.directive :: directives f.after := by
  rw [directives, pieces_of_some h]
  rfl

theorem directives_of_marks {b m : List Char} {d : Directive} (hb : find false b = none)
    (he : escapes false b = false) (hm : Marks m d) (ys : List Char) :
    directives (b ++ (m ++ ys)) = d :: directives ys :=
  directives_of_some (find_of_marks hb he hm ys)

theorem directives_eq_spans (text : String) :
    directives text.toList = (spans text).map (·.directive) :=
  pieces_directives text.toList 0

theorem references_eq (text : String) :
    references text = (directives text.toList).filterMap reference? := by
  rw [directives_eq_spans, List.filterMap_map]
  rfl

theorem spans_eq_nil_iff {text : String} : spans text = [] ↔ find false text.toList = none := by
  refine ⟨find_of_spans_nil, fun h => ?_⟩
  have hd := directives_eq_spans text
  rw [directives_of_none h] at hd
  exact List.map_eq_nil_iff.1 hd.symm

theorem directives_append {xs ys : List Char} (he : escapes false xs = false)
    (hs : Seamless false xs ys) : directives (xs ++ ys) = directives xs ++ directives ys := by
  -- each step cuts off the first directive of `xs` with what stands in front of it
  induction hn : xs.length using Nat.strongRecOn generalizing xs with
  | _ n ih =>
  have hfind := find_append hs
  rcases hx : find false xs with _ | f <;> rw [hx] at hfind
  · rw [directives_of_none hx, List.nil_append]
    rw [he] at hfind
    rcases hy : find false ys with _ | g <;> rw [hy] at hfind
    · rw [directives_of_none hfind, directives_of_none hy]
    · rw [directives_of_some hfind, directives_of_some hy]
      rfl
  · have hlt := find_length hx
    rw [directives_of_some hfind, directives_of_some hx, List.cons_append]
    obtain ⟨m, rfl, hm, -, -⟩ := find_local hx
    have hhead : escapes false (f.before ++ m) = false := by rw [escapes_append, hm.escapes]
    rw [← List.append_assoc] at he hs
    rw [escapes_append, hhead] at he
    exact congrArg (f.directive :: ·) (ih _ (hn ▸ hlt) he (hs.behind hhead) rfl)

/-- Nothing is found exactly if a percent sign stands in front of everything that could be read. -/
theorem find_eq_none_iff {e : Bool} {cs : List Char} :
    find e cs = none ↔ ∀ us vs, cs = us ++ vs → read? vs ≠ none → escapes e us = true := by
  induction cs generalizing e with
  | nil =>
    refine iff_of_true rfl fun us vs h hr => ?_
    rw [(List.append_eq_nil_iff.1 h.symm).2] at hr
    exact absurd rfl hr
  | cons c cs ih =>
    have hstep : find e (c :: cs) = none ↔
        (read? (c :: cs) ≠ none → e = true) ∧ find (c == '%') cs = none := by
      cases e <;> rcases hr : read? (c :: cs) with _ | ⟨d, r⟩ <;> simp [find, hr]
    rw [hstep, ih]
    constructor
    · rintro ⟨hfirst, hrest⟩ (_ | ⟨u, us⟩) vs h hr
      · obtain rfl : c :: cs = vs := h
        exact hfirst hr
      · obtain ⟨rfl, rfl⟩ := List.cons.inj h
        exact hrest us vs rfl hr
    · intro h
      exact ⟨h [] (c :: cs) rfl, fun us vs hcs => h (c :: us) vs (by rw [hcs]; rfl)⟩

theorem spans_eq_nil_iff_escaped {text : String} :
    spans text = [] ↔ ∀ us vs, text.toList = us ++ vs → read? vs ≠ none →
      Text.endsIn (· == '%') us = true := by
  simp only [spans_eq_nil_iff, find_eq_none_iff, escapes_false]

theorem find_append_eq_none_iff {e : Bool} {xs ys : List Char} :
    find e (xs ++ ys) = none ↔
      find e xs = none ∧ Seamless e xs ys ∧ find (escapes e xs) ys = none := by
  constructor
  · intro h
    rw [find_eq_none_iff] at h
    refine ⟨find_eq_none_iff.2 ?_, ?_, find_eq_none_iff.2 ?_⟩
    · rintro us vs rfl hr
      obtain ⟨⟨d, rest⟩, hd⟩ := Option.ne_none_iff_exists'.1 hr
      exact h us (vs ++ ys) (by simp) (by simp [read?_append hd ys])
    · rintro us vs rfl - he d rest hd
      have hesc := h us (vs ++ ys) (by simp) (by simp [hd])
      simp [he] at hesc
    · rintro us vs rfl hr
      rw [← escapes_append]
      exact h (xs ++ us) vs (by simp) hr
  · rintro ⟨hx, hs, hy⟩
    rw [find_append hs, hx, hy]
    rfl

/-- Behind a percent sign the first directive may be passed over, and no other. -/
theorem directives_sublist {e : Bool} {cs : List Char} {f : Found} (h : find e cs = some f) :
    (f.directive :: directives f.after).Sublist (directives cs) := by
  cases e with
  | false => simp [directives_of_some h]
  | true =>
    -- only a directive at the very beginning is escaped
    rcases hr : read? cs with _ | ⟨d, rest⟩
    · rw [find_of_read?_none hr] at h
      simp [directives_of_some h]
    · obtain ⟨m, rfl, hm⟩ := read?_marks hr
      rw [find_skips hm] at h
      obtain ⟨g, hg, rfl⟩ := Option.map_eq_some_iff.1 h
      have hall : directives (m ++ rest) = d :: directives rest :=
        directives_of_marks (b := []) rfl rfl hm rest
      rw [hall, directives_of_some hg]
      exact (List.Sublist.refl _).cons d

/-! ## Depth -/

/-- With so many blocks open, a close or an `otherwise` comes that stands outside every block. -/
def stray : Nat → List Directive → Bool
  | _, [] => false
  | 0, .close :: _ | 0, .otherwise :: _ => true
  | n + 1, .close :: ds => stray n ds
  | n, .whenTrue _ :: ds | n, .whenFalse _ :: ds => stray (n + 1) ds
  | n, _ :: ds => stray n ds

theorem stray_condition (n : Nat) (wanted : Bool) (ref : Reference) (ds : List Directive) :
    stray n (condition wanted ref :: ds) = stray (n + 1) ds := by
  cases wanted <;> cases n <;> rfl

/-- The directives close what they open, and stand behind `depth` openers. -/
def Closes (depth : Nat) (ds : List Directive) : Prop :=
  ∀ n more, stray (depth + n) (ds ++ more) = stray n more

theorem Closes.skip {ds : List Directive} (h : Closes 0 ds) (n : Nat) (more : List Directive) :
    stray n (ds ++ more) = stray n more := by
  simpa using h n more

theorem Closes.nil : Closes 0 [] := fun n more => by rw [Nat.zero_add, List.nil_append]

def Branch.ending (b : Branch) : Directive := if b.hasOther then .otherwise else .close

/-- A branch is a part of the text up to its end, and closes the blocks that are open. -/
structure Branch.Reads (depth : Nat) (cs : List Char) (b : Branch) : Prop where
  plain : escapes false b.text = false
  directives : directives cs = Directive.directives b.text ++ b.ending :: Directive.directives b.after
  closes : Closes depth (Directive.directives b.text)
  text : ∃ mark, cs = b.text ++ (mark ++ b.after) ∧ Marks mark b.ending

theorem Branch.Reads.prepend {cs : List Char} {f : Found} {depth inner : Nat} {b : Branch}
    (hf : find false cs = some f) (h : Branch.Reads inner f.after b)
    (hd : ∀ n ds, stray (depth + n) (f.directive :: ds) = stray (inner + n) ds) :
    Branch.Reads depth cs (b.prepend (f.upTo cs)) := by
  obtain ⟨mark, hafter, hmark⟩ := h.text
  have hall := directives_of_some hf
  obtain ⟨m, hcs, hm, hl, hn, he⟩ := find_marks hf
  have hup : f.upTo cs = f.before ++ m := by
    rw [Found.upTo, hcs, ← List.append_assoc, List.length_append, Nat.add_sub_cancel,
      List.take_left]
  have htext : Directive.directives (b.prepend (f.upTo cs)).text =
      f.directive :: Directive.directives b.text := by
    rw [Branch.prepend, hup, List.append_assoc]
    exact directives_of_marks hn he hm b.text
  refine ⟨?_, ?_, fun n more => ?_, mark, ?_, hmark⟩
  · rw [Branch.prepend, hup, escapes_append, escapes_append _ f.before, hm.escapes, h.plain]
  · rw [htext, hall, h.directives]
    rfl
  · rw [htext, List.cons_append, hd, h.closes]
  · rw [Branch.prepend, hup, List.append_assoc, List.append_assoc, ← hafter, ← hcs]

theorem Branch.Reads.of_end {cs : List Char} {f : Found} {other : Bool}
    (hf : find false cs = some f) (hd : f.directive = if other then .otherwise else .close) :
    Branch.Reads 0 cs ⟨f.before, other, f.after⟩ := by
  have hall := directives_of_some hf
  obtain ⟨m, hcs, hm, -, hn, he⟩ := find_marks hf
  rw [hd] at hm
  refine ⟨he, ?_, ?_, m, hcs, hm⟩
  · rw [hall, hd, directives_of_none hn]
    rfl
  · rw [directives_of_none hn]
    exact Closes.nil

theorem readBranch_reads {depth : Nat} {cs : List Char} {b : Branch}
    (h : readBranch depth cs = some b) : Branch.Reads depth cs b := by
  fun_induction readBranch depth cs generalizing b with
  | case1 => cases h
  | case2 cs f hf hd | case3 cs f hf hd =>
    obtain rfl := Option.some.inj h
    exact .of_end hf hd
  | case4 cs f hf d hd ih =>
    obtain ⟨c, hc, rfl⟩ := Option.map_eq_some_iff.1 h
    refine (ih hc).prepend hf fun n ds => ?_
    rw [hd, Nat.succ_add]
    rfl
  | case5 cs f hf ref depth hd ih =>
    obtain ⟨c, hc, rfl⟩ := Option.map_eq_some_iff.1 h
    refine (ih hc).prepend hf fun n ds => ?_
    rw [hd, Nat.add_right_comm]
    exact stray_condition _ true ref ds
  | case6 cs f hf ref depth hd ih =>
    obtain ⟨c, hc, rfl⟩ := Option.map_eq_some_iff.1 h
    refine (ih hc).prepend hf fun n ds => ?_
    rw [hd, Nat.add_right_comm]
    exact stray_condition _ false ref ds
  | case7 cs f hf depth hclose helse hclose' htrue hfalse ih =>
    obtain ⟨c, hc, rfl⟩ := Option.map_eq_some_iff.1 h
    refine (ih hc).prepend hf fun n ds => ?_
    rcases hd : f.directive with ref | ref | ref | _ | _
    · cases depth + n <;> rfl
    · exact (htrue ref hd).elim
    · exact (hfalse ref hd).elim
    · obtain ⟨d, rfl⟩ := Nat.exists_eq_succ_of_ne_zero (helse hd)
      rw [Nat.succ_add]
      rfl
    · cases depth with
      | zero => exact (hclose hd rfl).elim
      | succ d => exact (hclose' d hd rfl).elim

/-! ## Blocks -/

def Block.branch (keepFirst : Bool) (b : Block) : List Char :=
  if keepFirst then b.first else b.second

theorem Block.select_eq (keepFirst : Bool) (b : Block) :
    b.select keepFirst = b.branch keepFirst ++ b.after := rfl

/-- The branches hold whole blocks, and the text goes on behind the block as it did before it. -/
structure Block.Nests (cs : List Char) (b : Block) : Prop where
  plain : ∀ keepFirst, escapes false (b.branch keepFirst) = false
  closes : ∀ keepFirst, Closes 0 (directives (b.branch keepFirst))
  inside : ∀ keepFirst, ∀ d ∈ directives (b.branch keepFirst), d ∈ directives cs
  behind : ∀ d ∈ directives b.after, d ∈ directives cs
  depth : ∀ n, stray (n + 1) (directives cs) = stray n (directives b.after)

theorem Block.read_nests {cs : List Char} {b : Block} (h : Block.read cs = .ok b) :
    b.Nests cs := by
  unfold Block.read at h
  split at h
  · cases h
  rename_i c hc
  have h₁ := readBranch_reads hc
  split at h
  · rename_i hother
    split at h
    · cases h
    rename_i c' hc'
    have h₂ := readBranch_reads hc'
    split at h
    · cases h
    rename_i hother'
    obtain rfl := Except.ok.inj h
    have hall : directives cs = directives c.text ++ .otherwise ::
        (directives c'.text ++ .close :: directives c'.after) := by
      rw [h₁.directives, h₂.directives, Branch.ending, Branch.ending, if_pos hother, if_neg hother']
    refine ⟨fun k => ?_, fun k => ?_, fun k d hd => ?_, fun d hd => ?_, fun n => ?_⟩
    · cases k
      · exact h₂.plain
      · exact h₁.plain
    · cases k
      · exact h₂.closes
      · exact h₁.closes
    · rw [hall]
      cases k
      · exact List.mem_append_right _ (List.mem_cons_of_mem _ (List.mem_append_left _ hd))
      · exact List.mem_append_left _ hd
    · rw [hall]
      exact List.mem_append_right _ (List.mem_cons_of_mem _
        (List.mem_append_right _ (List.mem_cons_of_mem _ hd)))
    · rw [hall, h₁.closes.skip]
      exact h₂.closes.skip _ _
  · rename_i hother
    obtain rfl := Except.ok.inj h
    have hall : directives cs = directives c.text ++ .close :: directives c.after := by
      rw [h₁.directives, Branch.ending, if_neg hother]
    refine ⟨fun k => ?_, fun k => ?_, fun k d hd => ?_, fun d hd => ?_, fun n => ?_⟩
    · cases k
      · rfl
      · exact h₁.plain
    · cases k
      · exact directives_nil ▸ Closes.nil
      · exact h₁.closes
    · rw [hall]
      cases k
      · simp [Block.branch, directives_nil] at hd
      · exact List.mem_append_left _ hd
    · rw [hall]
      exact List.mem_append_right _ (List.mem_cons_of_mem _ hd)
    · rw [hall, h₁.closes.skip]
      rfl

end LayeredConfig.Directive
