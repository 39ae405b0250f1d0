import LayeredConfig.Proofs.Expansion.Run

/-!
# Stored texts are only a memory

`resolve` stores each finished text and answers later look-ups with it, without a look at the path.
A run that stores nothing expands the key again, and checks it against the path of whoever asks.
Both come to the same answer:

* `Plain prefixKey s path job a`: without memory, from the values of `s` on `path`, the job comes
  to the answer `a`.
* `Remembers prefixKey s₀ s`: `s` is `s₀` with some keys finished, each with the text it has
  without memory on every path of keys that are still pending.
* `Runs.simulates`: from a state that remembers `s₀`, a run answers as it does without memory
  from `s₀`, and leaves a state that remembers `s₀`.
* `Runs.undisturbed`: keys that are not needed without memory stay pending.
* `answer_independent_of_history`: what a look-up answers does not depend on earlier look-ups, nor
  what all look-ups leave behind on their order.
-/

namespace LayeredConfig.Expansion

variable {prefixKey : String} {s₀ s s' : State}

def State.on (s : State) (path : KeySet) : State := { s with path := path }

def State.Covers (s : State) (path : KeySet) : Prop := ∀ k ∈ path, k ∈ s.pending

/-- Without memory, the job comes to an answer. -/
abbrev Plain (prefixKey : String) (s : State) (path : KeySet) (job : Job)
    (a : Except DirectiveFault String) : Prop :=
  Runs false prefixKey job (s.on path) (a, s.on path)

theorem State.Covers.insert {path : KeySet} {key : String} (h : s.Covers path)
    (hk : key ∈ s.pending) : s.Covers (path.insert key) := by
  intro k hm
  rcases KeySet.mem_insert.1 hm with rfl | hm
  · exact hk
  · exact h k hm

theorem Frame.covers (h : Frame s s') (hc : s.Covers s.path) : s'.Covers s.path :=
  fun k hk => h.kept k hk (hc k hk)

theorem Frame.covers_path (h : Frame s s') (hc : s.Covers s.path) : s'.Covers s'.path :=
  h.path ▸ h.covers hc

theorem Frame.covers_of {path : KeySet} (h : Frame s s') (hc : s'.Covers path) : s.Covers path :=
  fun k hk => h.pending k (hc k hk)

/-! ## Steps of a plain run -/

theorem State.on_leave {path : KeySet} {key : String} (hk : key ∉ path) :
    (s.on (path.insert key)).leave key = s.on path :=
  congrArg s.on (KeySet.erase_insert hk)

theorem Plain.direct {path : KeySet} {key name : String} {a : Except DirectiveFault String}
    (hk : key ∉ path) (h : Plain prefixKey s (path.insert key) (.demand key name) a) :
    Plain prefixKey s path (.follow key (.direct name)) a := by
  have h' := Runs.direct (s := s.on path) h
  rwa [State.on_leave hk] at h'

theorem Plain.stemless {path : KeySet} {key suffix : String} {e : DirectiveFault}
    (hk : key ∉ path) (h : Plain prefixKey s (path.insert key) (.demand key prefixKey) (.error e)) :
    Plain prefixKey s path (.follow key (.indirect suffix)) (.error e) := by
  have h' : Runs false prefixKey (.follow key (.indirect suffix)) (s.on path) _ := .stemless h
  rwa [State.on_leave hk] at h'

theorem Plain.indirect {path : KeySet} {key suffix stem : String}
    {a : Except DirectiveFault String} (hk : key ∉ path)
    (h : Plain prefixKey s (path.insert key) (.demand key prefixKey) (.ok stem))
    (hr : Plain prefixKey s (path.insert key) (.demand key (stem ++ suffix)) a) :
    Plain prefixKey s path (.follow key (.indirect suffix)) a := by
  have h' : Runs false prefixKey (.follow key (.indirect suffix)) (s.on path) _ := .indirect h hr
  rwa [State.on_leave hk] at h'

theorem Plain.unique {path : KeySet} {job : Job} {a a' : Except DirectiveFault String}
    (h : Plain prefixKey s path job a) (h' : Plain prefixKey s path job a') : a = a' :=
  congrArg Prod.fst (Runs.unique h h')

theorem Runs.storeless {job : Job} {o : Outcome} (h : Runs false prefixKey job s o) :
    o.2.values = s.values ∧ o.2.pending = s.pending := by
  induction h with
  | stored | strayClose | strayElse | cycle | finished => exact ⟨rfl, rfl⟩
  | expanded _ _ ih | called _ _ ih => exact ih
  | unanswered _ _ _ ih | broken _ _ _ _ ih => exact ih
  | direct _ ih | stemless _ ih => exact ih
  | substituted _ _ _ _ ih ihr | selected _ _ _ _ _ ih ihr =>
    exact ⟨ihr.1.trans ih.1, ihr.2.trans ih.2⟩
  | indirect _ _ ih ihr => exact ⟨ihr.1.trans ih.1, ihr.2.trans ih.2⟩

theorem Runs.plain {job : Job} {o : Outcome} (h : Runs false prefixKey job s o)
    (hj : job.Fits s) : o.2 = s := by
  have hsame := h.storeless
  have hp := (h.frame hj).1.path
  rcases o with ⟨a, values, pending, path⟩
  rcases s with ⟨values', pending', path'⟩
  simp_all

theorem Plain.direct_inv {path : KeySet} {key name : String} {a : Except DirectiveFault String}
    (hj : (Job.follow key (.direct name)).Fits (s.on path))
    (h : Plain prefixKey s path (.follow key (.direct name)) a) :
    Plain prefixKey s (path.insert key) (.demand key name) a := by
  obtain ⟨a', s', h', he⟩ := h.direct_cases
  obtain ⟨rfl, -⟩ := Prod.mk.inj he
  obtain rfl : s' = _ := h'.plain hj.enter
  exact h'

theorem Plain.indirect_inv {path : KeySet} {key suffix text : String}
    (hj : (Job.follow key (.indirect suffix)).Fits (s.on path))
    (h : Plain prefixKey s path (.follow key (.indirect suffix)) (.ok text)) :
    ∃ stem, Plain prefixKey s (path.insert key) (.demand key prefixKey) (.ok stem) ∧
      Plain prefixKey s (path.insert key) (.demand key (stem ++ suffix)) (.ok text) := by
  rcases h.indirect_cases with ⟨e, s', -, he⟩ | ⟨stem, s₁, a, s₂, h', hr, he⟩
  · simp at he
  obtain ⟨rfl, -⟩ := Prod.mk.inj he
  obtain rfl := h'.plain hj.enter
  obtain rfl : s₂ = _ := hr.plain hj.enter
  exact ⟨stem, h', hr⟩

theorem Plain.demand_inv {path : KeySet} {key target text : String}
    (h : Plain prefixKey s path (.demand key target) (.ok text)) :
    Plain prefixKey s path (.value target) (.ok text) ∧ target ∉ path := by
  cases h with
  | called ht h => exact ⟨h, fun hin => ht (.inr hin)⟩

theorem Plain.rest_cases {path : KeySet} {key text : String} {done cs : List Char}
    (hj : (Job.rest key done cs).Fits (s.on path))
    (h : Plain prefixKey s path (.rest key done cs) (.ok text)) :
    (Directive.find (Text.endsIn (· == '%') done) cs = none ∧ text = String.ofList (done ++ cs)) ∨
      ∃ f, Directive.find (Text.endsIn (· == '%') done) cs = some f ∧
        ((∃ ref t, f.directive = .substitute ref ∧
            Plain prefixKey s path (.follow key ref) (.ok t) ∧
            Plain prefixKey s path (.rest key (done ++ f.before ++ t.toList) f.after) (.ok text)) ∨
          ∃ ref wanted t b, f.directive.condition? = some (ref, wanted) ∧
            Plain prefixKey s path (.follow key ref) (.ok t) ∧
            Directive.Block.read f.after = .ok b ∧
            Plain prefixKey s path
              (.rest key (done ++ f.before) (b.select (Setting.isTrue t == wanted)))
              (.ok text)) := by
  rcases Runs.rest_cases h rfl with hend | ⟨f, hf, ⟨ref, t, s', hd, h', hr⟩ |
    ⟨ref, wanted, t, s', b, hd, h', hb, hr⟩⟩
  · exact .inl hend
  · obtain rfl : s' = _ := h'.plain hj
    exact .inr ⟨f, hf, .inl ⟨ref, t, hd, h', hr⟩⟩
  · obtain rfl : s' = _ := h'.plain hj
    exact .inr ⟨f, hf, .inr ⟨ref, wanted, t, b, hd, h', hb, hr⟩⟩

theorem Runs.shrink {job : Job} {o : Outcome} {text : String} (h : Runs false prefixKey job s o)
    (ho : o.1 = .ok text) (hj : job.Fits s) {path : KeySet} (hsub : ∀ k ∈ path, k ∈ s.path)
    (hp : job.Fits (s.on path)) : Plain prefixKey s path job (.ok text) := by
  have hinsert : ∀ (s : State) (path : KeySet) (key : String), (∀ k ∈ path, k ∈ s.path) →
      ∀ k ∈ path.insert key, k ∈ (s.enter key).path := by
    intro s path key hsub k hk
    exact KeySet.mem_insert.2 ((KeySet.mem_insert.1 hk).imp_right (hsub k))
  induction h generalizing path text with
  | stored hk =>
    obtain rfl := Except.ok.inj ho
    exact Runs.stored hk
  | expanded hk _ ih => exact Runs.expanded hk (ih ho ⟨hj, hk⟩ hsub ⟨hp, hk⟩)
  | finished hf =>
    obtain rfl := Except.ok.inj ho
    exact Runs.finished hf
  | strayClose | strayElse | unanswered | broken | stemless | cycle => cases ho
  | substituted hf hd h _ ih ihr =>
    have h' := ih rfl hj hsub hp
    obtain rfl : _ = _ := h.plain hj
    exact Runs.substituted hf hd h' (ihr ho hj hsub hp)
  | selected hf hd h hb _ ih ihr =>
    have h' := ih rfl hj hsub hp
    obtain rfl : _ = _ := h.plain hj
    exact Runs.selected hf hd h' hb (ihr ho hj hsub hp)
  | direct _ ih =>
    obtain rfl := ho
    exact Plain.direct hp.1 (ih rfl hj.enter (hinsert _ _ _ hsub) hp.enter)
  | indirect h _ ih ihr =>
    obtain rfl := ho
    have h' := ih rfl hj.enter (hinsert _ _ _ hsub) hp.enter
    obtain rfl : _ = _ := h.plain hj.enter
    exact Plain.indirect hp.1 h' (ihr rfl hj.enter (hinsert _ _ _ hsub) hp.enter)
  | called ht _ ih =>
    have ht' : ¬(_ = _ ∨ _ ∈ path) := fun h => ht (h.imp_right (hsub _))
    exact Runs.called ht' (ih ho (Job.Fits.called ht) hsub fun hin => ht' (.inr hin))

/-! ## States that remember -/

/-- `s` is `s₀` with some keys finished, each with a text that is good for it. -/
structure Finished (good : String → String → Prop) (s₀ s : State) : Prop where
  pending : ∀ k ∈ s.pending, k ∈ s₀.pending
  values : ∀ k, k ∉ s₀.pending ∨ k ∈ s.pending → s.values.get? k = s₀.values.get? k
  texts : ∀ k ∈ s₀.pending, k ∉ s.pending → ∃ text, s.values.get? k = some text ∧ good k text

section finished
variable {good good' : String → String → Prop}

theorem Finished.refl (s : State) : Finished good s s :=
  ⟨fun _ h => h, fun _ _ => rfl, fun _ h h' => absurd h h'⟩

theorem State.text_congr {k : String} (h : s.values.get? k = s'.values.get? k) :
    s.text k = s'.text k := by
  simp only [text, Table.getD, h]

theorem Finished.text (h : Finished good s₀ s) {k : String} (h₀ : k ∈ s₀.pending)
    (hk : k ∉ s.pending) : good k (s.text k) := by
  obtain ⟨text, ht, hgood⟩ := h.texts k h₀ hk
  rwa [show s.text k = text by simp only [State.text, Table.getD, ht, Option.getD_some]]

theorem Finished.on_path (h : Finished good s₀ s) {path : KeySet} :
    Finished good s₀ (s.on path) :=
  ⟨h.pending, h.values, h.texts⟩

theorem Finished.finish (h : Finished good s₀ s) {key text : String} (hk : key ∈ s.pending)
    (hmono : ∀ k t, good k t → good' k t) (ht : good' key text) :
    Finished good' s₀ (s.finish key text) where
  pending k hm := h.pending k (KeySet.mem_erase.1 hm).1
  values k hm := by
    have hne : key ≠ k := by
      rintro rfl
      rcases hm with hm | hm
      · exact hm (h.pending _ hk)
      · exact (KeySet.mem_erase.1 hm).2 rfl
    show (s.values.insert key text).get? k = _
    rw [Table.get?_insert, if_neg hne]
    exact h.values k (hm.imp_right fun hm => (KeySet.mem_erase.1 hm).1)
  texts k h₀ hm := by
    show ∃ t, (s.values.insert key text).get? k = some t ∧ _
    rw [Table.get?_insert]
    by_cases he : key = k
    · subst he
      exact ⟨text, if_pos rfl, ht⟩
    · have hn : k ∉ s.pending := fun hp => hm (KeySet.mem_erase.2 ⟨hp, Ne.symm he⟩)
      obtain ⟨t, hg, hgood⟩ := h.texts k h₀ hn
      exact ⟨t, by rw [if_neg he, hg], hmono k t hgood⟩

end finished

/-- `s` is `s₀` with some keys finished, each with the text it has without memory. -/
abbrev Remembers (prefixKey : String) (s₀ s : State) : Prop :=
  Finished (fun k text => ∀ path, s.Covers path → Plain prefixKey s₀ path (.value k) (.ok text))
    s₀ s

theorem Remembers.refl (prefixKey : String) (s : State) : Remembers prefixKey s s :=
  Finished.refl s

theorem Remembers.stored (h : Remembers prefixKey s₀ s) {k : String} (hk : k ∉ s.pending)
    {path : KeySet} (hc : s.Covers path) :
    Plain prefixKey s₀ path (.value k) (.ok (s.text k)) := by
  by_cases h₀ : k ∈ s₀.pending
  · exact h.text h₀ hk path hc
  · rw [State.text_congr (h.values k (.inl h₀))]
    exact Runs.stored h₀

theorem Remembers.finish (h : Remembers prefixKey s₀ s) {key text : String}
    (hk : key ∈ s.pending) (ht : ∀ path, (s.finish key text).Covers path →
      Plain prefixKey s₀ path (.value key) (.ok text)) :
    Remembers prefixKey s₀ (s.finish key text) :=
  Finished.finish h hk
    (fun _ _ hgood path hc => hgood path fun j hj => (KeySet.mem_erase.1 (hc j hj)).1) ht

/-- The paths on which an outcome is compared: all that are still covered if there is a text, and
the one it was met on if there is a fault. -/
def Compared (s : State) (o : Outcome) (path : KeySet) : Prop :=
  match o.1 with
  | .ok _ => o.2.Covers path
  | .error _ => path = s.path

theorem Compared.after {o : Outcome} {path : KeySet} (hc : Compared s o path) (h : Frame s s') :
    Compared s' o path := by
  unfold Compared at hc ⊢
  split at hc
  · exact hc
  · rw [h.path]
    exact hc

theorem Compared.covers {o : Outcome} {path : KeySet} (hc : Compared s o path)
    (h : Frame s o.2) (hs : s.Covers s.path) : s.Covers path := by
  unfold Compared at hc
  split at hc
  · exact h.covers_of hc
  · rw [hc]
    exact hs

theorem Compared.enter {a : Except DirectiveFault String} {path : KeySet} {key : String}
    (hc : Compared s (a, s'.leave key) path) (hk : key ∈ s'.pending) :
    Compared (s.enter key) (a, s') (path.insert key) := by
  cases a with
  | ok text => exact State.Covers.insert hc hk
  | error e => exact congrArg (·.insert key) hc

/-- What must be known of a text whose rest comes to an outcome: it is what its key has without
memory. The other jobs finish nothing themselves. -/
def Job.Settled (prefixKey : String) (s₀ : State) (o : Outcome) : Job → Prop
  | .rest key _ _ => ∀ text, o.1 = .ok text → ∀ path, o.2.Covers path →
      Plain prefixKey s₀ path (.value key) (.ok text)
  | _ => True

def Job.finishes : Job → Option String
  | .value key | .rest key _ _ => some key
  | .follow _ _ | .demand _ _ => none

theorem Runs.ended {job : Job} {o : Outcome} (h : Runs true prefixKey job s o) {key text : String}
    (hj : job.finishes = some key) (ho : o.1 = .ok text) : key ∉ o.2.pending := by
  induction h with
  | stored hk =>
    obtain rfl := Option.some.inj hj
    exact hk
  | finished hf =>
    obtain rfl := Option.some.inj hj
    exact fun hm => (KeySet.mem_erase.1 hm).2 rfl
  | expanded _ _ ih => exact ih hj ho
  | substituted _ _ _ _ _ ihr | selected _ _ _ _ _ _ ihr => exact ihr hj ho
  | strayClose | strayElse | unanswered | broken => simp at ho
  | direct | stemless | indirect | cycle | called => simp [Job.finishes] at hj

/-! ## With and without memory -/

/-- **A run answers as it does without memory**, on every path that is compared, and leaves a state
that remembers. The claim about the state needs the texts it stores to be those of their keys,
which the rest of a text alone does not tell. -/
theorem Runs.simulates {job : Job} {o : Outcome} (h : Runs true prefixKey job s o)
    (hm : Remembers prefixKey s₀ s) (hj : job.Fits s) (hs : s.Covers s.path) :
    (∀ path, Compared s o path → job.Fits (s₀.on path) → Plain prefixKey s₀ path job o.1) ∧
      (job.Settled prefixKey s₀ o → Remembers prefixKey s₀ o.2) := by
  induction h with
  | stored hk => exact ⟨fun path hc _ => hm.stored hk hc, fun _ => hm⟩
  | @expanded key s o hk h ih =>
    obtain ⟨h1, h2⟩ := ih hm ⟨hj, hk⟩ hs
    have h₀ := hm.pending _ hk
    have ht : s.text key = s₀.text key := State.text_congr (hm.values _ (.inr hk))
    have hplain : ∀ path, Compared s o path → key ∉ path →
        Plain prefixKey s₀ path (.value key) o.1 := by
      intro path hc hp
      have := h1 path hc ⟨hp, h₀⟩
      rw [ht] at this
      exact Runs.expanded h₀ this
    refine ⟨fun path hc hf => hplain path hc hf, fun _ => h2 fun text ho path hc => ?_⟩
    rw [← ho]
    exact hplain path (by rw [Compared, ho]; exact hc) fun hp => h.ended rfl ho (hc _ hp)
  | @finished key done cs s hf =>
    refine ⟨fun path _ hp => Runs.finished hf, fun hset => ?_⟩
    exact Remembers.finish hm hj.2 (hset _ rfl)
  | strayClose hf hd => exact ⟨fun path _ _ => Runs.strayClose hf hd, fun _ => hm⟩
  | strayElse hf hd => exact ⟨fun path _ _ => Runs.strayElse hf hd, fun _ => hm⟩
  | unanswered hf hd h ih =>
    obtain ⟨h1, h2⟩ := ih hm hj hs
    exact ⟨fun path hc hp => Runs.unanswered hf hd (h1 path hc hp), fun _ => h2 trivial⟩
  | broken hf hd h hb ih =>
    obtain ⟨h1, h2⟩ := ih hm hj hs
    obtain ⟨hf1, -⟩ := h.frame hj
    refine ⟨fun path hc hp => Runs.broken hf hd (h1 path ?_ hp) hb, fun _ => h2 trivial⟩
    obtain rfl : path = _ := hc
    exact hf1.covers hs
  | substituted hf hd h hr ih ihr =>
    obtain ⟨hf1, hj'⟩ := h.answered hj
    obtain ⟨h1, h2⟩ := ih hm hj hs
    obtain ⟨h3, h4⟩ := ihr (h2 trivial) hj' (hf1.covers_path hs)
    refine ⟨fun path hc hp => ?_, fun hset => h4 hset⟩
    have hc' : Compared _ _ path := hc.after hf1
    have hcov := hc'.covers (hr.frame hj').1 (hf1.covers_path hs)
    exact Runs.substituted hf hd (h1 path hcov hp) (h3 path hc' hp)
  | selected hf hd h hb hr ih ihr =>
    obtain ⟨hf1, hj'⟩ := h.answered hj
    obtain ⟨h1, h2⟩ := ih hm hj hs
    obtain ⟨h3, h4⟩ := ihr (h2 trivial) hj' (hf1.covers_path hs)
    refine ⟨fun path hc hp => ?_, fun hset => h4 hset⟩
    have hc' : Compared _ _ path := hc.after hf1
    have hcov := hc'.covers (hr.frame hj').1 (hf1.covers_path hs)
    exact Runs.selected hf hd (h1 path hcov hp) hb (h3 path hc' hp)
  -- a reference: the key joins both paths
  | direct h ih =>
    obtain ⟨h1, h2⟩ := ih hm.on_path hj.enter (hs.insert hj.2)
    refine ⟨fun path hc hp => Plain.direct hp.1 ?_, fun _ => (h2 trivial).on_path⟩
    have hk := (((h.frame hj.enter).1).held hj.enter).2
    exact h1 _ (hc.enter hk) hp.enter
  | stemless h ih =>
    obtain ⟨h1, h2⟩ := ih hm.on_path hj.enter (hs.insert hj.2)
    refine ⟨fun path hc hp => Plain.stemless hp.1 ?_, fun _ => (h2 trivial).on_path⟩
    have hk := (((h.frame hj.enter).1).held hj.enter).2
    exact h1 _ (hc.enter hk) hp.enter
  | indirect h hr ih ihr =>
    have hf1 := (h.frame hj.enter).1
    have hj1 := hf1.held hj.enter
    have hs1 := hf1.covers_path (hs.insert hj.2)
    have hf2 := (hr.frame hj1).1
    obtain ⟨h1, h2⟩ := ih hm.on_path hj.enter (hs.insert hj.2)
    obtain ⟨h3, h4⟩ := ihr (h2 trivial) hj1 hs1
    refine ⟨fun path hc hp => ?_, fun _ => (h4 trivial).on_path⟩
    have hc' := (hc.enter (hf2.held hj1).2).after hf1
    exact Plain.indirect hp.1 (h1 _ (hc'.covers hf2 hs1) hp.enter) (h3 _ hc' hp.enter)
  | cycle ht =>
    refine ⟨fun path hc hp => ?_, fun _ => hm⟩
    obtain rfl : path = _ := hc
    exact Runs.cycle ht
  | @called key target s o ht h ih =>
    obtain ⟨h1, h2⟩ := ih hm (Job.Fits.called ht) hs
    refine ⟨fun path hc hp => ?_, fun _ => h2 trivial⟩
    have ht' : ¬(target = key ∨ target ∈ path) := by
      rintro (he | hin)
      · exact ht (.inl he)
      · rcases ho : o.1 with e | text
        · rw [Compared, ho] at hc
          exact ht (.inr (hc ▸ hin))
        · rw [Compared, ho] at hc
          exact h.ended rfl ho (hc _ hin)
    exact Runs.called ht' (h1 path hc fun hin => ht' (.inr hin))

/-- If the job comes to a text without memory on a path, the run that stores its texts finishes no
key of that path: without memory it would have met that key there. -/
theorem Runs.undisturbed {job : Job} {o : Outcome} {text text' : String}
    (h : Runs true prefixKey job s o) (ho : o.1 = .ok text) (hm : Remembers prefixKey s₀ s)
    (hj : job.Fits s) (hs : s.Covers s.path) {path : KeySet} (hc : s.Covers path)
    (hp : job.Fits (s₀.on path)) (hplain : Plain prefixKey s₀ path job (.ok text')) :
    o.2.Covers path := by
  induction h generalizing path text text' with
  | stored hk => exact hc
  | @expanded key s o hk h ih =>
    have ht : s.text key = s₀.text key := State.text_congr (hm.values _ (.inr hk))
    cases hplain with
    | stored hn => exact absurd (hm.pending _ hk) hn
    | expanded h₀ hrest => exact ih ho hm ⟨hj, hk⟩ hs hc ⟨hp, h₀⟩ (ht ▸ hrest)
  | @finished key done cs s hf =>
    intro k hk
    exact KeySet.mem_erase.2 ⟨hc k hk, fun he => hp.1 (he ▸ hk)⟩
  | strayClose | strayElse | unanswered | broken | stemless | cycle => simp at ho
  | substituted hf hd h hr ih ihr =>
    rcases hplain.substitute_cases hf hd with ⟨e, s', -, he⟩ | ⟨t, s', hfollow, hrest⟩
    · simp at he
    obtain rfl : s' = _ := hfollow.plain hp
    obtain ⟨hf1, hj'⟩ := h.answered hj
    have hc1 := ih rfl hm hj hs hc hp hfollow
    obtain ⟨h1, h2⟩ := h.simulates hm hj hs
    obtain rfl := Except.ok.inj (Plain.unique (h1 path hc1 hp) hfollow)
    exact ihr ho (h2 trivial) hj' (hf1.covers_path hs) hc1 hp hrest
  | selected hf hd h hb hr ih ihr =>
    rcases hplain.condition_cases hf hd with
      ⟨e, s', -, he⟩ | ⟨t, s', hfollow, ⟨e, -, he⟩ | ⟨b', hb', hrest⟩⟩
    · simp at he
    · simp at he
    obtain rfl : s' = _ := hfollow.plain hp
    obtain rfl := Except.ok.inj (hb.symm.trans hb')
    obtain ⟨hf1, hj'⟩ := h.answered hj
    have hc1 := ih rfl hm hj hs hc hp hfollow
    obtain ⟨h1, h2⟩ := h.simulates hm hj hs
    obtain rfl := Except.ok.inj (Plain.unique (h1 path hc1 hp) hfollow)
    exact ihr ho (h2 trivial) hj' (hf1.covers_path hs) hc1 hp hrest
  | direct h ih =>
    exact fun k hk => ih ho hm.on_path hj.enter (hs.insert hj.2) (hc.insert hj.2) hp.enter
      (hplain.direct_inv hp) k (KeySet.mem_insert.2 (.inr hk))
  | indirect h hr ih ihr =>
    obtain ⟨stem, h1, h2⟩ := Plain.indirect_inv hp hplain
    have hc1 := ih rfl hm.on_path hj.enter (hs.insert hj.2) (hc.insert hj.2) hp.enter h1
    obtain ⟨h3, h4⟩ := h.simulates hm.on_path hj.enter (hs.insert hj.2)
    obtain rfl := Except.ok.inj (Plain.unique (h3 _ hc1 hp.enter) h1)
    have hf1 := (h.frame hj.enter).1
    have hc2 := ihr ho (h4 trivial) (hf1.held hj.enter) (hf1.covers_path (hs.insert hj.2))
      hc1 hp.enter h2
    exact fun k hk => hc2 k (KeySet.mem_insert.2 (.inr hk))
  | @called key target s o ht h ih =>
    cases hplain with
    | called ht' hv => exact ih ho hm (Job.Fits.called ht) hs hc (fun hin => ht' (.inr hin)) hv

/-! ## Look-ups one after the other -/

/-- The state after some look-ups, each on a fresh path, whatever they answered. -/
def State.after (s : State) (prefixKey : String) (calls : List String) : State :=
  calls.foldl (fun s key => (s.resolve prefixKey key).2) s

theorem State.fresh_covers (s : State) : s.fresh.Covers s.fresh.path :=
  fun k hk => absurd hk (KeySet.not_mem_empty k)

theorem Remembers.resolve (h : Remembers prefixKey s₀ s) (key : String) :
    Plain prefixKey s₀ KeySet.empty (.value key) (s.resolve prefixKey key).1 ∧
      Remembers prefixKey s₀ (s.resolve prefixKey key).2 := by
  have hfit : (Job.value key).Fits s.fresh := KeySet.not_mem_empty key
  obtain ⟨h1, h2⟩ := (s.resolve_run prefixKey key).simulates h.on_path hfit s.fresh_covers
  refine ⟨h1 _ ?_ (KeySet.not_mem_empty key), h2 trivial⟩
  unfold Compared
  split
  · exact fun k hk => absurd hk (KeySet.not_mem_empty k)
  · rfl

theorem Remembers.after (calls : List String) (h : Remembers prefixKey s₀ s) :
    Remembers prefixKey s₀ (s.after prefixKey calls) := by
  induction calls generalizing s with
  | nil => exact h
  | cons key calls ih => exact ih (h.resolve key).2

theorem Remembers.resolveAll_ok_iff (h : Remembers prefixKey s₀ s) (keys : List String) :
    (s.resolveAll prefixKey keys).1 = .ok () ↔
      ∀ key ∈ keys, ∃ text, Plain prefixKey s₀ KeySet.empty (.value key) (.ok text) := by
  induction keys generalizing s with
  | nil => simp [State.resolveAll]
  | cons key keys ih =>
    obtain ⟨hp, hm⟩ := h.resolve key
    rcases hr : s.resolve prefixKey key with ⟨e | text, s'⟩
    · rw [hr] at hp
      simp only [State.resolveAll, hr, reduceCtorEq, List.mem_cons, forall_eq_or_imp, false_iff,
        not_and]
      rintro ⟨text, ht⟩
      simpa using hp.unique ht
    · rw [hr] at hp hm
      simp only [State.resolveAll, hr, List.mem_cons, forall_eq_or_imp]
      exact (ih hm).trans ⟨fun hk => ⟨⟨text, hp⟩, hk⟩, And.right⟩

theorem Remembers.resolveAll (h : Remembers prefixKey s₀ s) {keys : List String}
    (hok : (s.resolveAll prefixKey keys).1 = .ok ()) :
    Remembers prefixKey s₀ (s.resolveAll prefixKey keys).2 ∧
      (∀ k ∈ (s.resolveAll prefixKey keys).2.pending, k ∈ s.pending) ∧
      ∀ k ∈ keys, k ∉ (s.resolveAll prefixKey keys).2.pending := by
  induction keys generalizing s with
  | nil => exact ⟨h, fun _ hk => hk, by simp⟩
  | cons key keys ih =>
    obtain ⟨hp, hm⟩ := h.resolve key
    have hrun := s.resolve_run prefixKey key
    rcases hr : s.resolve prefixKey key with ⟨e | text, s'⟩
    · simp [State.resolveAll, hr] at hok
    · rw [hr] at hrun hm
      simp only [State.resolveAll, hr] at hok ⊢
      obtain ⟨h1, h2, h3⟩ := ih hm hok
      have hframe := (hrun.frame (KeySet.not_mem_empty key)).1
      refine ⟨h1, fun k hk => hframe.pending k (h2 k hk), fun k hk => ?_⟩
      rcases List.mem_cons.1 hk with rfl | hk
      · exact fun hk' => hrun.ended rfl rfl (h2 _ hk')
      · exact h3 k hk

theorem Remembers.resolveAll_keeps (h : Remembers prefixKey s₀ s) {r : State}
    (hr : Remembers prefixKey s₀ r) {keys : List String} (hkeys : ∀ k ∈ keys, k ∉ r.pending)
    (hok : (s.resolveAll prefixKey keys).1 = .ok ()) {d : String} (hd : d ∈ r.pending)
    (hs : d ∈ s.pending) : d ∈ (s.resolveAll prefixKey keys).2.pending := by
  induction keys generalizing s with
  | nil => exact hs
  | cons key keys ih =>
    have hm := (h.resolve key).2
    have hrun := s.resolve_run prefixKey key
    rcases hres : s.resolve prefixKey key with ⟨e | text, s'⟩
    · simp [State.resolveAll, hres] at hok
    · rw [hres] at hrun hm
      simp only [State.resolveAll, hres] at hok ⊢
      have honly : ∀ k, k ∈ KeySet.empty.insert d → k = d := fun k hk =>
        (KeySet.mem_insert.1 hk).resolve_right (KeySet.not_mem_empty k)
      have hkey := hkeys key (by simp)
      refine ih hm (fun k hk => hkeys k (by simp [hk])) hok ?_
      have hplain : Plain prefixKey s₀ (KeySet.empty.insert d) (.value key) (.ok (r.text key)) :=
        hr.stored hkey fun k hk => honly k hk ▸ hd
      exact hrun.undisturbed rfl h.on_path (KeySet.not_mem_empty key) s.fresh_covers
        (fun k hk => honly k hk ▸ hs) (fun hin => hkey (honly key hin ▸ hd)) hplain d
        (KeySet.mem_insert.2 (.inl rfl))

theorem resolveAll_pending_mono (s : State) (prefixKey : String) {ks js : List String}
    (hmem : ∀ k ∈ js, k ∈ ks) (hk : (s.resolveAll prefixKey ks).1 = .ok ())
    (hj : (s.resolveAll prefixKey js).1 = .ok ()) {d : String}
    (hd : d ∈ (s.resolveAll prefixKey ks).2.pending) :
    d ∈ (s.resolveAll prefixKey js).2.pending := by
  obtain ⟨h1, h2, h3⟩ := (Remembers.refl prefixKey s).resolveAll hk
  exact (Remembers.refl prefixKey s).resolveAll_keeps h1 (fun k hm => h3 k (hmem k hm)) hj hd
    (h2 d hd)

/-- Two states that remember the same and have the same keys pending hold the same texts. -/
theorem Remembers.values_eq {r r' : State} (h : Remembers prefixKey s₀ r)
    (h' : Remembers prefixKey s₀ r') (hp : ∀ k, k ∈ r.pending ↔ k ∈ r'.pending) (k : String) :
    r.values.get? k = r'.values.get? k := by
  by_cases hk : k ∉ s₀.pending ∨ k ∈ r.pending
  · rw [h.values k hk, h'.values k (hk.imp_right (hp k).1)]
  · obtain ⟨h₀, hn⟩ := not_or.1 hk
    have h₀ := Decidable.not_not.1 h₀
    obtain ⟨t, hg, ht⟩ := h.texts k h₀ hn
    obtain ⟨t', hg', ht'⟩ := h'.texts k h₀ (fun hk' => hn ((hp k).2 hk'))
    have hempty : ∀ s : State, s.Covers KeySet.empty := fun s j hj =>
      absurd hj (KeySet.not_mem_empty j)
    rw [hg, hg', Except.ok.inj (Plain.unique (ht _ (hempty r)) (ht' _ (hempty r')))]

/-- **Answers do not depend on history.** After any look-ups, with whatever answers, a look-up
answers as it would have done at first. So two orders of the same look-ups both succeed or both
fail, and if they succeed they leave the same texts and the same pending keys. -/
theorem answer_independent_of_history (s : State) (prefixKey : String) :
    (∀ calls key, ((s.after prefixKey calls).resolve prefixKey key).1 =
      (s.resolve prefixKey key).1) ∧
    ∀ ks js : List String, (∀ k, k ∈ ks ↔ k ∈ js) →
      ((s.resolveAll prefixKey ks).1 = .ok () ↔ (s.resolveAll prefixKey js).1 = .ok ()) ∧
      ((s.resolveAll prefixKey ks).1 = .ok () →
        (∀ k, (s.resolveAll prefixKey ks).2.values.get? k =
          (s.resolveAll prefixKey js).2.values.get? k) ∧
        ∀ k, k ∈ (s.resolveAll prefixKey ks).2.pending ↔
          k ∈ (s.resolveAll prefixKey js).2.pending) := by
  have h₀ := Remembers.refl prefixKey s
  refine ⟨fun calls key => ?_, fun ks js hmem => ?_⟩
  · exact Plain.unique ((h₀.after calls).resolve key).1 (h₀.resolve key).1
  · have hiff : (s.resolveAll prefixKey ks).1 = .ok () ↔
        (s.resolveAll prefixKey js).1 = .ok () := by
      simp only [h₀.resolveAll_ok_iff, hmem]
    refine ⟨hiff, fun hk => ?_⟩
    have hj := hiff.1 hk
    have hpend : ∀ k, k ∈ (s.resolveAll prefixKey ks).2.pending ↔
        k ∈ (s.resolveAll prefixKey js).2.pending := fun k =>
      ⟨resolveAll_pending_mono s prefixKey (fun j hm => (hmem j).2 hm) hk hj,
        resolveAll_pending_mono s prefixKey (fun j hm => (hmem j).1 hm) hj hk⟩
    exact ⟨(h₀.resolveAll hk).1.values_eq (h₀.resolveAll hj).1 hpend, hpend⟩

/-- Two keys that need a third one, and a key that needs itself. -/
def sharing : State where
  values := Table.ofList [("A", "%{C}a"), ("B", "%{C}b"), ("C", "v"), ("D", "%{D}")]
  pending := KeySet.ofList ["A", "B", "C", "D"]

theorem sharing_answers :
    ((sharing.after "VARPREFIX" ["D", "B"]).resolve "VARPREFIX" "A").1 = .ok "va" ∧
    (sharing.resolveAll "VARPREFIX" ["B", "A"]).1 = .ok () ∧
    (sharing.resolveAll "VARPREFIX" ["A", "B"]).2.values.get? "C" =
      (sharing.resolveAll "VARPREFIX" ["B", "A"]).2.values.get? "C" := by
  obtain ⟨hcall, horder⟩ := answer_independent_of_history sharing "VARPREFIX"
  obtain ⟨hiff, hsame⟩ := horder ["A", "B"] ["B", "A"] (by simp [or_comm])
  have hok : (sharing.resolveAll "VARPREFIX" ["A", "B"]).1 = .ok () := by cbv
  have hfirst : (sharing.resolve "VARPREFIX" "A").1 = .ok "va" := by cbv
  exact ⟨(hcall ["D", "B"] "A").trans hfirst, hiff.1 hok, (hsame hok).1 "C"⟩

end LayeredConfig.Expansion
