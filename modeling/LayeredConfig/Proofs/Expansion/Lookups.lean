import LayeredConfig.Proofs.Directive.Selection
import LayeredConfig.Proofs.Expansion.Opacity
import LayeredConfig.Proofs.Expansion.Splice

/-!
# What an expansion looks up

A key is looked up because the text of another key refers to it. The text may have been worked on
already, but what is left of it holds only directives of the text as it was at first, and those that
branches made with the texts behind their blocks.

* `Active.remembers`: at every moment the finished keys hold what they come to on their own.
* `Arises`: a directive that a branch made with the text behind its block.
* `Active.directives`: the directives of a rest are those of the text, or arose.
* `Active.demand_cases`: what is looked up is named by a reference, or is the prefix key, or is made
  from its value.
-/

namespace LayeredConfig.Expansion

open Directive (Across directives references)

variable {prefixKey key₀ key : String} {s₀ s₁ s s' : State} {chain : List String} {job : Job}

theorem Active.covers (h : Active true prefixKey key₀ s₁ chain job s) : s.Covers s.path := by
  obtain ⟨-, hp, hh⟩ := h.standing
  intro k hk
  cases job with
  | value _ | demand _ _ => exact hp k ((hh.2 k).1 hk)
  | rest _ _ _ | follow _ _ =>
    obtain ⟨callers, rfl, hpath⟩ := hh
    exact hp k (List.mem_cons_of_mem _ ((hpath k).1 hk))

theorem Active.remembers (h : Active true prefixKey key₀ s₁ chain job s)
    (hm : Remembers prefixKey s₀ s₁) : Remembers prefixKey s₀ s := by
  induction h with
  | start => exact hm.on_path
  | opened _ _ ih | asked _ _ _ ih | called _ _ ih => exact ih
  | direct _ ih | stem _ ih => exact ih.on_path
  | substituted h hf hd hr ih =>
    have hask := h.asked hf (by rw [hd]; rfl)
    exact (hr.simulates ih hask.standing.fits hask.covers).2 trivial
  | selected h hf hd hr hb ih =>
    have hask := h.asked hf (Directive.reference?_of_condition? hd)
    exact (hr.simulates ih hask.standing.fits hask.covers).2 trivial
  | indirect h hr ih =>
    have hask := h.stem
    exact (hr.simulates ih.on_path hask.standing.fits hask.covers).2 trivial

theorem Remembers.unchanged (h : Remembers prefixKey s₀ s) (hk : key ∈ s.pending) :
    key ∈ s₀.pending ∧ s.text key = s₀.text key :=
  ⟨h.pending key hk, State.text_congr (h.values key (.inr hk))⟩

/-! ## Directives that a text is left with -/

/-- A branch that is kept of a block in the text of `key` while `key₀` is expanded, and the text
behind the block. -/
inductive Cuts (prefixKey key₀ : String) (s₀ : State) (key : String) :
    List Char → List Char → Prop
  | intro {chain : List String} {text : String} {done cs : List Char} {s s' : State}
      {f : Directive.Found} {ref : Reference} {wanted : Bool} {b : Directive.Block}
      (h : Active true prefixKey key₀ s₀ chain (.rest key done cs) s)
      (hf : Directive.find (Text.endsIn (· == '%') done) cs = some f)
      (hd : f.directive.condition? = some (ref, wanted))
      (hr : Runs true prefixKey (.follow key ref) s (.ok text, s'))
      (hb : Directive.Block.read f.after = .ok b) :
      Cuts prefixKey key₀ s₀ key (b.branch (Setting.isTrue text == wanted)) b.after

theorem Cuts.joins {branch after : List Char} (h : Cuts prefixKey key₀ s₀ key branch after) :
    Joins prefixKey key₀ s₀ branch after := by
  cases h with
  | intro h hf hd hr hb => exact .intro h hf hd hr hb

/-- While `key₀` is expanded, a branch makes the directive with the text behind its block, which is
one in the text of `key`. -/
def Arises (prefixKey key₀ : String) (s₀ : State) (key : String) (d : Directive) : Prop :=
  ∃ branch after, Cuts prefixKey key₀ s₀ key branch after ∧ Across d branch after

/-- The directive stands in the text of `key`, or arises in it. -/
def Occurs (prefixKey key₀ : String) (s₀ s₁ : State) (key : String) (d : Directive) : Prop :=
  d ∈ directives (s₀.text key).toList ∨ Arises prefixKey key₀ s₁ key d

def Job.Keeps (prefixKey key₀ : String) (s₀ s₁ : State) : Job → Prop
  | .rest key _ cs => ∀ d ∈ directives cs, Occurs prefixKey key₀ s₀ s₁ key d
  | _ => True

theorem Active.directives (h : Active true prefixKey key₀ s₁ chain job s)
    (hm : Remembers prefixKey s₀ s₁) : job.Keeps prefixKey key₀ s₀ s₁ := by
  induction h with
  | start | asked | direct | stem | indirect | called => trivial
  | opened h hk ih =>
    intro d hd
    rw [(h.remembers hm |>.unchanged hk).2] at hd
    exact .inl hd
  | substituted h hf hd hr ih =>
    intro d hd'
    exact ih d ((Directive.directives_sublist hf).mem (List.mem_cons_of_mem _ hd'))
  | @selected chain key done cs s s' f ref wanted text b h hf hd hr hb ih =>
    have hnests := Directive.Block.read_nests hb
    have hold : ∀ d ∈ Directive.directives f.after, Occurs prefixKey key₀ s₀ s₁ key d := fun d hd =>
      ih d ((Directive.directives_sublist hf).mem (List.mem_cons_of_mem _ hd))
    intro d hd'
    rw [Directive.Block.select_eq,
      Directive.mem_directives_append _ (hnests.plain (Setting.isTrue text == wanted))] at hd'
    rcases hd' with hd' | hd' | hd'
    · exact hold d (hnests.inside _ d hd')
    · exact .inr ⟨_, _, .intro h hf hd hr hb, hd'⟩
    · exact hold d (hnests.behind d hd')

def Mentions (prefixKey key₀ : String) (s₀ s₁ : State) (key : String) (ref : Reference) : Prop :=
  ref ∈ references (s₀.text key) ∨
    ∃ d, Arises prefixKey key₀ s₁ key d ∧ d.reference? = some ref

theorem Active.mentions {ref : Reference}
    (h : Active true prefixKey key₀ s₁ chain (.follow key ref) s)
    (hm : Remembers prefixKey s₀ s₁) : Mentions prefixKey key₀ s₀ s₁ key ref := by
  cases h with
  | asked h hf hd =>
    rcases h.directives hm _ ((Directive.directives_sublist hf).mem List.mem_cons_self) with
      hmem | harises
    · rw [Mentions, Directive.references_eq]
      exact .inl (List.mem_filterMap.2 ⟨_, hmem, hd⟩)
    · exact .inr ⟨_, harises, hd⟩

/-- To follow the reference from the state `s₀`, the target is looked up: it is named outright, or
it is the prefix key, or its value with the name behind it. -/
def Names (prefixKey : String) (s₀ : State) (ref : Reference) (target : String) : Prop :=
  ref = .direct target ∨ ∃ suffix, ref = .indirect suffix ∧
    (target = prefixKey ∨ ∃ stem, target = stem ++ suffix ∧
      (s₀.resolve prefixKey prefixKey).1 = .ok stem)

theorem Active.demand_cases {target : String}
    (h : Active true prefixKey key₀ s₁ chain (.demand key target) s)
    (hm : Remembers prefixKey s₀ s₁) :
    key ∈ s₀.pending ∧ ∃ ref, Mentions prefixKey key₀ s₀ s₁ key ref ∧
      Names prefixKey s₀ ref target := by
  refine ⟨((h.remembers hm).unchanged h.standing.fits.2).1, ?_⟩
  cases h with
  | direct h => exact ⟨_, h.mentions hm, .inl rfl⟩
  | stem h => exact ⟨_, h.mentions hm, .inr ⟨_, rfl, .inl rfl⟩⟩
  | @indirect _ _ suffix stem s _ h hr =>
    -- the stem was answered with the memory of this moment and with `key` on the path
    refine ⟨_, h.mentions hm, .inr ⟨suffix, rfl, .inr ⟨stem, rfl, ?_⟩⟩⟩
    have hask := h.stem
    have hfits := hask.standing.fits
    have hrem := h.remembers hm
    have hcovers : ∀ {s : State}, key ∈ s.pending → s.Covers (KeySet.empty.insert key) :=
      fun hk => State.Covers.insert (fun k hk => absurd hk (KeySet.not_mem_empty k)) hk
    have hplain := (hr.simulates hrem.on_path hfits hask.covers).1 (KeySet.empty.insert key)
      (hcovers ((hr.frame hfits).1.held hfits).2)
      ⟨KeySet.mem_insert.2 (.inl rfl), (hrem.unchanged hfits.2).1⟩
    exact ((Remembers.refl prefixKey s₀).resolve prefixKey).1.unique hplain.demand_value

end LayeredConfig.Expansion
