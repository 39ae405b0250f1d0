import LayeredConfig.Directive.Block
import LayeredConfig.Proofs.Directive.Marker

/-!
# Templates

The directives of a well-formed text nest: every conditional block is closed, has at most one
alternative branch, and holds whole blocks only. A `Template` is the tree of such a text.

* `pieces` cuts a text at its directives, as they are found one after the other.
* `Template.tokens` writes a tree as pieces; `Template.Parses t cs` says that the pieces of `cs`
  are those of `t`, and a text has at most one such tree (`Template.Parses.unique`).
* `Template.Parses.of_condition`: where a block is read in the text of a tree, its branches and what
  follows it are the texts of the subtrees.
* `Template.Parses.append`: over a seam that makes no new directive, trees are joined.
-/

namespace LayeredConfig

namespace Directive

abbrev Piece := List Char × Option Directive

/-- The pieces of a text, from left to right; only the last has no directive. -/
def pieces (cs : List Char) : List Piece :=
  match _h : find false cs with
  | none => [(cs, none)]
  | some f => (f.before, some f.directive) :: pieces f.after
termination_by cs.length
decreasing_by exact find_length _h

theorem pieces_of_none {cs : List Char} (h : find false cs = none) : pieces cs = [(cs, none)] := by
  unfold pieces
  split
  · rfl
  · simp_all

theorem pieces_of_some {cs : List Char} {f : Found} (h : find false cs = some f) :
    pieces cs = (f.before, some f.directive) :: pieces f.after := by
  rw [pieces]
  split
  · simp_all
  · rename_i g hg
    obtain rfl := Option.some.inj (h.symm.trans hg)
    rfl

theorem pieces_directives (cs : List Char) (offset : Nat) :
    (pieces cs).filterMap (·.2) = (spansFrom offset cs).map (·.directive) := by
  fun_induction spansFrom offset cs with
  | case1 offset cs h => simp [pieces_of_none h]
  | case2 offset cs f h start ih => simp [pieces_of_some h, ih]

theorem pieces_cons {cs b : List Char} {d : Directive} {k : List Piece}
    (h : pieces cs = (b, some d) :: k) :
    ∃ m after, cs = b ++ (m ++ after) ∧ Marks m d ∧ escapes false b = false ∧
      find false b = none ∧ pieces after = k ∧
      find false cs = some ⟨b, d, m.length, after⟩ := by
  rcases hf : find false cs with _ | f
  · simp [pieces_of_none hf] at h
  · rw [pieces_of_some hf] at h
    simp only [List.cons.injEq, Prod.mk.injEq, Option.some.injEq] at h
    obtain ⟨⟨rfl, rfl⟩, hk⟩ := h
    obtain ⟨m, rfl, hm, hl, hn, he⟩ := find_marks hf
    exact ⟨m, f.after, rfl, hm, he, hn, hk, congrArg some (by rw [← hl])⟩

theorem pieces_last {cs b : List Char} {k : List Piece} (h : pieces cs = (b, none) :: k) :
    cs = b ∧ k = [] ∧ find false cs = none := by
  rcases hf : find false cs with _ | f
  · simp [pieces_of_none hf] at h
    exact ⟨h.1, h.2, rfl⟩
  · simp [pieces_of_some hf] at h

theorem pieces_of_marks {b m : List Char} {d : Directive} (hb : find false b = none)
    (he : escapes false b = false) (hm : Marks m d) (ys : List Char) :
    pieces (b ++ (m ++ ys)) = (b, some d) :: pieces ys :=
  pieces_of_some (find_of_marks hb he hm ys)

/-! ## Trees -/

/-- The directive that opens a block whose first branch is kept for the truth `wanted`. -/
def condition (wanted : Bool) (ref : Reference) : Directive :=
  if wanted then whenTrue ref else whenFalse ref

theorem condition_inj {wanted wanted' : Bool} {ref ref' : Reference}
    (h : condition wanted ref = condition wanted' ref') : wanted = wanted' ∧ ref = ref' := by
  cases wanted <;> cases wanted' <;> simp_all [condition]

end Directive

/-- The tree of a well-formed text. Each node starts with the text in front of its directive. -/
inductive Template where
  | text (cs : List Char)
  | reference (before : List Char) (ref : Reference) (next : Template)
  /-- A block with one branch. -/
  | optional (before : List Char) (wanted : Bool) (ref : Reference) (first next : Template)
  /-- A block with two branches. -/
  | choice (before : List Char) (wanted : Bool) (ref : Reference) (first second next : Template)

namespace Template

open Directive

/-- The pieces of a tree that `m` ends, with the pieces `k` behind it. -/
def tokens : Template → Option Directive → List Piece → List Piece
  | text cs, m, k => (cs, m) :: k
  | reference b ref next, m, k => (b, some (.substitute ref)) :: next.tokens m k
  | optional b wanted ref first next, m, k =>
    (b, some (condition wanted ref)) :: first.tokens (some .close) (next.tokens m k)
  | choice b wanted ref first second next, m, k =>
    (b, some (condition wanted ref)) ::
      first.tokens (some .otherwise) (second.tokens (some .close) (next.tokens m k))

def Parses (t : Template) (cs : List Char) : Prop := pieces cs = t.tokens none []

def Ends (m : Option Directive) : Prop := m = none ∨ m = some .close ∨ m = some .otherwise

/-- A tree, its end and what follows can be told from the pieces. -/
theorem tokens_inj {t t' : Template} {m m' : Option Directive} {k k' : List Piece} (hm : Ends m)
    (hm' : Ends m') (h : t.tokens m k = t'.tokens m' k') : t = t' ∧ m = m' ∧ k = k' := by
  have hc : Ends (some .close) := .inr (.inl rfl)
  have ho : Ends (some .otherwise) := .inr (.inr rfl)
  have hcond : ∀ w r, ¬Ends (some (condition w r)) := by
    rintro (_ | _) r (h | h | h) <;> simp [condition] at h
  have hsub : ∀ r, ¬Ends (some (.substitute r)) := by
    rintro r (h | h | h) <;> simp at h
  have hne : ∀ w r r', condition w r ≠ .substitute r' := by
    rintro (_ | _) r r' <;> simp [condition]
  induction t generalizing t' m m' k k' with
  | text cs =>
    cases t' <;> simp only [tokens, List.cons.injEq, Prod.mk.injEq] at h
    · obtain ⟨⟨rfl, rfl⟩, rfl⟩ := h
      exact ⟨rfl, rfl, rfl⟩
    · exact absurd (h.1.2 ▸ hm) (hsub _)
    · exact absurd (h.1.2 ▸ hm) (hcond _ _)
    · exact absurd (h.1.2 ▸ hm) (hcond _ _)
  | reference b ref next ih =>
    cases t' <;> simp only [tokens, List.cons.injEq, Prod.mk.injEq, Option.some.injEq,
      Directive.substitute.injEq] at h
    · exact absurd (h.1.2 ▸ hm') (hsub _)
    · obtain ⟨⟨rfl, rfl⟩, h⟩ := h
      obtain ⟨rfl, rfl, rfl⟩ := ih hm hm' h
      exact ⟨rfl, rfl, rfl⟩
    · exact absurd h.1.2.symm (hne _ _ _)
    · exact absurd h.1.2.symm (hne _ _ _)
  | optional b wanted ref first next ihf ihn =>
    cases t' <;> simp only [tokens, List.cons.injEq, Prod.mk.injEq, Option.some.injEq] at h
    · exact absurd (h.1.2 ▸ hm') (hcond _ _)
    · exact absurd h.1.2 (hne _ _ _)
    · obtain ⟨⟨rfl, hd⟩, h⟩ := h
      obtain ⟨rfl, rfl⟩ := condition_inj hd
      obtain ⟨rfl, -, h⟩ := ihf hc hc h
      obtain ⟨rfl, rfl, rfl⟩ := ihn hm hm' h
      exact ⟨rfl, rfl, rfl⟩
    · obtain ⟨-, h⟩ := h
      obtain ⟨-, h, -⟩ := ihf hc ho h
      simp at h
  | choice b wanted ref first second next ihf ihs ihn =>
    cases t' <;> simp only [tokens, List.cons.injEq, Prod.mk.injEq, Option.some.injEq] at h
    · exact absurd (h.1.2 ▸ hm') (hcond _ _)
    · exact absurd h.1.2 (hne _ _ _)
    · obtain ⟨-, h⟩ := h
      obtain ⟨-, h, -⟩ := ihf ho hc h
      simp at h
    · obtain ⟨⟨rfl, hd⟩, h⟩ := h
      obtain ⟨rfl, rfl⟩ := condition_inj hd
      obtain ⟨rfl, -, h⟩ := ihf ho ho h
      obtain ⟨rfl, -, h⟩ := ihs hc hc h
      obtain ⟨rfl, rfl, rfl⟩ := ihn hm hm' h
      exact ⟨rfl, rfl, rfl⟩

theorem Parses.unique {t t' : Template} {cs : List Char} (h : t.Parses cs) (h' : t'.Parses cs) :
    t = t' :=
  (tokens_inj (.inl rfl) (.inl rfl) (h.symm.trans h')).1

end Template

/-! ## Reading a block -/

namespace Directive

/-- One directive that is met in reading a branch: the text up to it, the same text with the
directive, and what stands behind it. -/
def Branch.meet (depth : Nat) (d : Directive) (text skipped after : List Char) : Option Branch :=
  match d, depth with
  | .close, 0 => some ⟨text, false, after⟩
  | .otherwise, 0 => some ⟨text, true, after⟩
  | .close, n + 1 => (readBranch n after).map (Branch.prepend skipped)
  | .whenTrue _, n | .whenFalse _, n => (readBranch (n + 1) after).map (Branch.prepend skipped)
  | _, n => (readBranch n after).map (Branch.prepend skipped)

theorem readBranch_found {b m after : List Char} {d : Directive} {l : Nat} (depth : Nat)
    (hf : find false (b ++ (m ++ after)) = some ⟨b, d, l, after⟩) :
    readBranch depth (b ++ (m ++ after)) = Branch.meet depth d b (b ++ m) after := by
  have hup : Found.upTo ⟨b, d, l, after⟩ (b ++ (m ++ after)) = b ++ m := by
    rw [Found.upTo, ← List.append_assoc, List.length_append, Nat.add_sub_cancel,
      List.take_left]
  unfold readBranch
  split
  · simp_all
  · rename_i f hf'
    obtain rfl := Option.some.inj (hf.symm.trans hf')
    simp only [hup]
    cases d <;> cases depth <;> rfl

theorem Branch.prepend_prepend (xs ys : List Char) (b : Branch) :
    (b.prepend ys).prepend xs = b.prepend (xs ++ ys) := by
  simp [prepend]

theorem Branch.meet_prepend (depth : Nat) (d : Directive) (xs text skipped after : List Char) :
    (meet depth d text skipped after).map (prepend xs) =
      meet depth d (xs ++ text) (xs ++ skipped) after := by
  cases d <;> cases depth <;>
    simp [meet, Function.comp_def, prepend_prepend] <;> rfl

theorem Branch.meet_condition (depth : Nat) (wanted : Bool) (ref : Reference)
    (text skipped after : List Char) :
    meet depth (condition wanted ref) text skipped after =
      (readBranch (depth + 1) after).map (prepend skipped) := by
  cases wanted <;> cases depth <;> rfl

end Directive

namespace Template

open Directive

/-- The text of a tree that a directive ends, cut there: the text, the directive and what follows.
A branch that is being read reaches exactly this directive. -/
structure Cut (t : Template) (d : Directive) (cs text mark after : List Char) : Prop where
  eq : cs = text ++ (mark ++ after)
  marks : Marks mark d
  plain : escapes false text = false
  parses : t.Parses text
  pieces : ∀ ys, pieces (text ++ (mark ++ ys)) = t.tokens (some d) (pieces ys)
  reads : ∀ depth, readBranch depth cs = Branch.meet depth d text (text ++ mark) after

theorem Cut.behind {t next : Template} {d : Directive} {head cs text mark after : List Char}
    (h : Cut next d cs text mark after) (he : escapes false head = false)
    (hp : ∀ ys, Directive.pieces ys = next.tokens none [] →
      Directive.pieces (head ++ ys) = t.tokens none [])
    (hpieces : ∀ ys, Directive.pieces (head ++ (text ++ (mark ++ ys))) =
      t.tokens (some d) (Directive.pieces ys))
    (hreads : ∀ depth, readBranch depth (head ++ cs) =
      (readBranch depth cs).map (Branch.prepend head)) :
    Cut t d (head ++ cs) (head ++ text) mark after where
  eq := by rw [h.eq, List.append_assoc]
  marks := h.marks
  plain := by rw [escapes_append, he, h.plain]
  parses := hp text h.parses
  pieces ys := by rw [List.append_assoc, hpieces]
  reads depth := by
    rw [hreads, h.reads, Branch.meet_prepend]
    simp

theorem exists_cut {t : Template} {d : Directive} (hd : d = .close ∨ d = .otherwise)
    {cs : List Char} {k : List Piece} (h : Directive.pieces cs = t.tokens (some d) k) :
    ∃ text mark after, Cut t d cs text mark after ∧ Directive.pieces after = k := by
  induction t generalizing d cs k with
  | text b =>
    obtain ⟨m, after, rfl, hm, he, hn, hk, hf⟩ := pieces_cons h
    exact ⟨b, m, after, ⟨rfl, hm, he, pieces_of_none hn, pieces_of_marks hn he hm,
      fun depth => readBranch_found depth hf⟩, hk⟩
  | reference b ref next ih =>
    obtain ⟨m, rest, rfl, hm, he, hn, hk, hf⟩ := pieces_cons h
    obtain ⟨text, mark, after, hcut, hafter⟩ := ih hd hk
    have hhead : escapes false (b ++ m) = false := by rw [escapes_append, hm.escapes]
    have hpieces := pieces_of_marks hn he hm
    refine ⟨(b ++ m) ++ text, mark, after, ?_, hafter⟩
    rw [← List.append_assoc]
    refine hcut.behind hhead (fun ys hys => ?_) (fun ys => ?_) fun depth => ?_
    · rw [List.append_assoc, hpieces, hys, tokens]
    · rw [List.append_assoc, hpieces, hcut.pieces, tokens]
    · rw [List.append_assoc, readBranch_found depth hf]
      cases depth <;> rfl
  | optional b wanted ref first next ihf ihn =>
    obtain ⟨m, rest, rfl, hm, he, hn, hk, hf⟩ := pieces_cons h
    obtain ⟨text₁, mark₁, after₁, hcut₁, hafter₁⟩ := ihf (.inl rfl) hk
    obtain ⟨text, mark, after, hcut, hafter⟩ := ihn hd hafter₁
    have hhead : escapes false (b ++ m ++ (text₁ ++ mark₁)) = false := by
      rw [escapes_append, escapes_append _ text₁, hcut₁.marks.escapes]
    have hpieces : ∀ ys, Directive.pieces (b ++ m ++ (text₁ ++ mark₁) ++ ys) =
        (b, some (condition wanted ref)) :: first.tokens (some .close) (Directive.pieces ys) := by
      intro ys
      simp only [List.append_assoc]
      rw [pieces_of_marks hn he hm, hcut₁.pieces]
    refine ⟨(b ++ m ++ (text₁ ++ mark₁)) ++ text, mark, after, ?_, hafter⟩
    have hcs : b ++ (m ++ rest) = b ++ m ++ (text₁ ++ mark₁) ++ after₁ := by
      simp [hcut₁.eq]
    rw [hcs]
    refine hcut.behind hhead (fun ys hys => ?_) (fun ys => ?_) fun depth => ?_
    · rw [hpieces, hys, tokens]
    · rw [hpieces, hcut.pieces, tokens]
    · rw [← hcs, readBranch_found depth hf, Branch.meet_condition, hcut₁.reads]
      simp [Branch.meet, Function.comp_def, Branch.prepend_prepend]
  | choice b wanted ref first second next ihf ihs ihn =>
    obtain ⟨m, rest, rfl, hm, he, hn, hk, hf⟩ := pieces_cons h
    obtain ⟨text₁, mark₁, after₁, hcut₁, hafter₁⟩ := ihf (.inr rfl) hk
    obtain ⟨text₂, mark₂, after₂, hcut₂, hafter₂⟩ := ihs (.inl rfl) hafter₁
    obtain ⟨text, mark, after, hcut, hafter⟩ := ihn hd hafter₂
    have hhead : escapes false (b ++ m ++ (text₁ ++ mark₁) ++ (text₂ ++ mark₂)) = false := by
      rw [escapes_append, escapes_append _ text₂, hcut₂.marks.escapes]
    have hpieces : ∀ ys,
        Directive.pieces (b ++ m ++ (text₁ ++ mark₁) ++ (text₂ ++ mark₂) ++ ys) =
          (b, some (condition wanted ref)) :: first.tokens (some .otherwise)
            (second.tokens (some .close) (Directive.pieces ys)) := by
      intro ys
      simp only [List.append_assoc]
      rw [pieces_of_marks hn he hm, hcut₁.pieces, hcut₂.pieces]
    refine ⟨(b ++ m ++ (text₁ ++ mark₁) ++ (text₂ ++ mark₂)) ++ text, mark, after, ?_, hafter⟩
    have hcs : b ++ (m ++ rest) = b ++ m ++ (text₁ ++ mark₁) ++ (text₂ ++ mark₂) ++ after₂ := by
      simp [hcut₁.eq, hcut₂.eq]
    rw [hcs]
    refine hcut.behind hhead (fun ys hys => ?_) (fun ys => ?_) fun depth => ?_
    · rw [hpieces, hys, tokens]
    · rw [hpieces, hcut.pieces, tokens]
    · rw [← hcs, readBranch_found depth hf, Branch.meet_condition, hcut₁.reads]
      simp [Branch.meet, hcut₂.reads, Function.comp_def, Branch.prepend_prepend]

theorem optional_read {first next : Template} {cs : List Char}
    (h : Directive.pieces cs = first.tokens (some .close) (next.tokens none [])) :
    ∃ b, Block.read cs = .ok b ∧ first.Parses b.first ∧ escapes false b.first = false ∧
      b.second = [] ∧ next.Parses b.after := by
  obtain ⟨text, mark, after, hcut, hafter⟩ := exists_cut (.inl rfl) h
  refine ⟨⟨text, [], after⟩, ?_, hcut.parses, hcut.plain, rfl, hafter⟩
  simp [Block.read, hcut.reads, Branch.meet]

theorem choice_read {first second next : Template} {cs : List Char}
    (h : Directive.pieces cs =
      first.tokens (some .otherwise) (second.tokens (some .close) (next.tokens none []))) :
    ∃ b, Block.read cs = .ok b ∧ first.Parses b.first ∧ escapes false b.first = false ∧
      second.Parses b.second ∧ escapes false b.second = false ∧ next.Parses b.after := by
  obtain ⟨text₁, mark₁, after₁, hcut₁, hafter₁⟩ := exists_cut (.inr rfl) h
  obtain ⟨text₂, mark₂, after₂, hcut₂, hafter₂⟩ := exists_cut (.inl rfl) hafter₁
  refine ⟨⟨text₁, text₂, after₂⟩, ?_, hcut₁.parses, hcut₁.plain, hcut₂.parses, hcut₂.plain, hafter₂⟩
  simp [Block.read, hcut₁.reads, hcut₂.reads, Branch.meet]

/-! ## The first directive of a tree -/

theorem Parses.not_end {t : Template} {cs : List Char} {f : Found} (h : t.Parses cs)
    (hf : find false cs = some f) : f.directive ≠ .close ∧ f.directive ≠ .otherwise := by
  have hp := (pieces_of_some hf).symm.trans h
  cases t with
  | text => simp [tokens] at hp
  | reference =>
    simp only [tokens, List.cons.injEq, Prod.mk.injEq, Option.some.injEq] at hp
    simp [hp.1.2]
  | optional b wanted | choice b wanted =>
    simp only [tokens, List.cons.injEq, Prod.mk.injEq, Option.some.injEq] at hp
    cases wanted <;> simp [hp.1.2, condition]

theorem Parses.of_substitute {t : Template} {cs : List Char} {f : Found} {ref : Reference}
    (h : t.Parses cs) (hf : find false cs = some f) (hd : f.directive = .substitute ref) :
    ∃ next, t = reference f.before ref next ∧ next.Parses f.after := by
  have hp := (pieces_of_some hf).symm.trans h
  rw [hd] at hp
  cases t with
  | text => simp [tokens] at hp
  | reference b ref' next =>
    simp only [tokens, List.cons.injEq, Prod.mk.injEq, Option.some.injEq,
      Directive.substitute.injEq] at hp
    obtain ⟨⟨rfl, rfl⟩, hk⟩ := hp
    exact ⟨next, rfl, hk⟩
  | optional b wanted | choice b wanted =>
    simp only [tokens, List.cons.injEq, Prod.mk.injEq, Option.some.injEq] at hp
    cases wanted <;> simp [condition] at hp

theorem Parses.of_condition {t : Template} {cs : List Char} {f : Found} {wanted : Bool}
    {ref : Reference} (h : t.Parses cs) (hf : find false cs = some f)
    (hd : f.directive = condition wanted ref) :
    ∃ b first second next, Block.read f.after = .ok b ∧
      (first.Parses b.first ∧ escapes false b.first = false) ∧
      (second.Parses b.second ∧ escapes false b.second = false) ∧ next.Parses b.after ∧
      (t = optional f.before wanted ref first next ∧ second = text [] ∨
        t = choice f.before wanted ref first second next) := by
  have hp := (pieces_of_some hf).symm.trans h
  rw [hd] at hp
  cases t with
  | text => simp [tokens] at hp
  | reference =>
    simp only [tokens, List.cons.injEq, Prod.mk.injEq, Option.some.injEq] at hp
    cases wanted <;> simp [condition] at hp
  | optional b wanted' ref' first next =>
    simp only [tokens, List.cons.injEq, Prod.mk.injEq, Option.some.injEq] at hp
    obtain ⟨⟨rfl, hc⟩, hk⟩ := hp
    obtain ⟨rfl, rfl⟩ := condition_inj hc
    obtain ⟨b, hb, h1, h2, h3, h4⟩ := optional_read hk
    refine ⟨b, first, text [], next, hb, ⟨h1, h2⟩, ⟨?_, by rw [h3]; rfl⟩, h4, .inl ⟨rfl, rfl⟩⟩
    rw [h3]
    exact pieces_of_none rfl
  | choice b wanted' ref' first second next =>
    simp only [tokens, List.cons.injEq, Prod.mk.injEq, Option.some.injEq] at hp
    obtain ⟨⟨rfl, hc⟩, hk⟩ := hp
    obtain ⟨rfl, rfl⟩ := condition_inj hc
    obtain ⟨b, hb, h1, h2, h3, h4, h5⟩ := choice_read hk
    exact ⟨b, first, second, next, hb, ⟨h1, h2⟩, ⟨h3, h4⟩, h5, .inr rfl⟩

/-! ## Joining trees -/

def prepend (xs : List Char) : Template → Template
  | text cs => text (xs ++ cs)
  | reference b ref next => reference (xs ++ b) ref next
  | optional b wanted ref first next => optional (xs ++ b) wanted ref first next
  | choice b wanted ref first second next => choice (xs ++ b) wanted ref first second next

def append : Template → Template → Template
  | text cs, t => t.prepend cs
  | reference b ref next, t => reference b ref (next.append t)
  | optional b wanted ref first next, t => optional b wanted ref first (next.append t)
  | choice b wanted ref first second next, t => choice b wanted ref first second (next.append t)

theorem Parses.prepend {t : Template} {xs ys : List Char} (hx : find false xs = none)
    (he : escapes false xs = false) (hs : Seamless false xs ys) (ht : t.Parses ys) :
    (t.prepend xs).Parses (xs ++ ys) := by
  have hfind := find_append hs
  rw [hx, he] at hfind
  unfold Parses at ht ⊢
  rcases hy : find false ys with _ | f
  · rw [hy, Option.map_none] at hfind
    rw [pieces_of_none hy] at ht
    rw [pieces_of_none hfind]
    cases t <;> simp_all [Template.prepend, tokens]
  · rw [hy, Option.map_some] at hfind
    rw [pieces_of_some hy] at ht
    rw [pieces_of_some hfind]
    cases t <;> simp_all [Template.prepend, tokens, Found.prepend]

/-- Over a seam that makes no new directive, trees are joined. -/
theorem Parses.append {t t' : Template} {xs ys : List Char} (h : t.Parses xs)
    (he : escapes false xs = false) (hs : Seamless false xs ys) (h' : t'.Parses ys) :
    (t.append t').Parses (xs ++ ys) := by
  induction t generalizing xs with
  | text cs =>
    obtain ⟨rfl, -, hn⟩ := pieces_last h
    exact h'.prepend hn he hs
  | reference b ref next ih =>
    obtain ⟨m, rest, rfl, hm, hb, hn, hk, hf⟩ := pieces_cons h
    have hhead : escapes false (b ++ m) = false := by rw [escapes_append, hm.escapes]
    rw [← List.append_assoc] at he hs
    have hrest := ih hk (by rwa [escapes_append, hhead] at he) (hs.behind hhead)
    unfold Parses
    rw [List.append_assoc, List.append_assoc, pieces_of_marks hn hb hm, hrest]
    rfl
  | optional b wanted ref first next ihf ihn =>
    obtain ⟨m, rest, rfl, hm, hb, hn, hk, hf⟩ := pieces_cons h
    obtain ⟨text, mark, after, hcut, hafter⟩ := exists_cut (.inl rfl) hk
    obtain rfl := hcut.eq
    have hhead : escapes false (b ++ m ++ (text ++ mark)) = false := by
      rw [escapes_append, escapes_append _ text, hcut.marks.escapes]
    rw [show b ++ (m ++ (text ++ (mark ++ after))) = b ++ m ++ (text ++ mark) ++ after by simp]
      at he hs ⊢
    have hrest := ihn hafter (by rwa [escapes_append, hhead] at he) (hs.behind hhead)
    unfold Parses
    simp only [List.append_assoc]
    rw [pieces_of_marks hn hb hm, hcut.pieces, hrest]
    rfl
  | choice b wanted ref first second next ihf ihs ihn =>
    obtain ⟨m, rest, rfl, hm, hb, hn, hk, hf⟩ := pieces_cons h
    obtain ⟨text₁, mark₁, after₁, hcut₁, hafter₁⟩ := exists_cut (.inr rfl) hk
    obtain ⟨text₂, mark₂, after, hcut₂, hafter⟩ := exists_cut (.inl rfl) hafter₁
    obtain rfl := hcut₂.eq
    obtain rfl := hcut₁.eq
    have hhead : escapes false (b ++ m ++ (text₁ ++ mark₁) ++ (text₂ ++ mark₂)) = false := by
      rw [escapes_append, escapes_append _ text₂, hcut₂.marks.escapes]
    rw [show b ++ (m ++ (text₁ ++ (mark₁ ++ (text₂ ++ (mark₂ ++ after))))) =
      b ++ m ++ (text₁ ++ mark₁) ++ (text₂ ++ mark₂) ++ after by simp] at he hs ⊢
    have hrest := ihn hafter (by rwa [escapes_append, hhead] at he) (hs.behind hhead)
    unfold Parses
    simp only [List.append_assoc]
    rw [pieces_of_marks hn hb hm, hcut₁.pieces, hcut₂.pieces, hrest]
    rfl

end Template

end LayeredConfig
