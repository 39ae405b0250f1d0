import Mathlib
import LayeredConfig.Expansion

/-!
# Runs of an expansion

`resolve` counts levels. `Runs` is the same recursion without the count, as rules: a run is a
finite derivation, so a key has one exactly if its expansion comes to an end.

* `Job` names the four things an expansion can be busy with.
* `Runs keeps prefixKey job s o`: from the state `s` the job comes to the outcome `o`. If `keeps`
  holds, finished texts are stored, as `resolve` does. Otherwise no text is ever stored, and every
  key is expanded anew from its raw value each time it is asked for.
* `Runs.unique`: a job has at most one outcome.
* `Runs.frame`: a run gives the path back as it found it, ends no pending state of a key on the
  path, and changes the text of a key only by finishing it.
* `Needs prefixKey key s target t`: the work on the text of `key` from `s` looks up `target` in the
  state `t`. `rest_runs`: who runs these look-ups rightly runs the whole text rightly.
* `resolve_runs`: with as many levels as there are pending keys off the path, `resolve` is a run.
  So every expansion on a fresh path ends, and the count of levels is never felt.
-/

namespace LayeredConfig

/-- The reference a conditional directive asks for, and the truth for which its first branch is
kept. -/
def Directive.condition? : Directive → Option (Reference × Bool)
  | whenTrue ref => some (ref, true)
  | whenFalse ref => some (ref, false)
  | _ => none

theorem Directive.reference?_of_condition? {d : Directive} {ref : Reference} {wanted : Bool}
    (h : d.condition? = some (ref, wanted)) : d.reference? = some ref := by
  cases d <;> simp_all [condition?, reference?]

theorem KeySet.ext_elems {s t : KeySet} (h : s.elems = t.elems) : s = t := by
  cases s
  cases t
  simpa using h

theorem KeySet.erase_insert {s : KeySet} {k : String} (h : k ∉ s) : (s.insert k).erase k = s := by
  have hk : k ∉ s.elems := h
  apply KeySet.ext_elems
  simp only [insert, dif_neg hk, erase]
  rw [List.filter_cons_of_neg (by simp), List.filter_eq_self]
  intro j hj
  simpa using fun he : j = k => hk (he ▸ hj)

namespace Expansion

/-- What an expansion is busy with. -/
inductive Job where
  /-- The value of a key. -/
  | value (key : String)
  /-- The rest of the text of a key, behind a text where no directive is left. -/
  | rest (key : String) (done rest : List Char)
  /-- The value that a reference in the text of a key stands for. -/
  | follow (key : String) (ref : Reference)
  /-- The value of a target that the text of a key asks for. -/
  | demand (key target : String)

def State.enter (s : State) (key : String) : State := { s with path := s.path.insert key }

def State.leave (s : State) (key : String) : State := { s with path := s.path.erase key }

/-- The state after the text of a key is finished: it is stored, or nothing is. -/
def State.settle (s : State) (keeps : Bool) (key text : String) : State :=
  if keeps then s.finish key text else s

def State.fresh (s : State) : State := { s with path := KeySet.empty }

inductive Runs (keeps : Bool) (prefixKey : String) : Job → State → Outcome → Prop
  | stored {key : String} {s : State} (hk : key ∉ s.pending) :
      Runs keeps prefixKey (.value key) s (.ok (s.text key), s)
  | expanded {key : String} {s : State} {o : Outcome} (hk : key ∈ s.pending)
      (h : Runs keeps prefixKey (.rest key [] (s.text key).toList) s o) :
      Runs keeps prefixKey (.value key) s o
  | finished {key : String} {done cs : List Char} {s : State}
      (hf : Directive.find (Text.endsIn (· == '%') done) cs = none) :
      Runs keeps prefixKey (.rest key done cs) s
        (.ok (String.ofList (done ++ cs)), s.settle keeps key (String.ofList (done ++ cs)))
  | strayClose {key : String} {done cs : List Char} {s : State} {f : Directive.Found}
      (hf : Directive.find (Text.endsIn (· == '%') done) cs = some f)
      (hd : f.directive = .close) :
      Runs keeps prefixKey (.rest key done cs) s (.error (.strayClose key), s)
  | strayElse {key : String} {done cs : List Char} {s : State} {f : Directive.Found}
      (hf : Directive.find (Text.endsIn (· == '%') done) cs = some f)
      (hd : f.directive = .otherwise) :
      Runs keeps prefixKey (.rest key done cs) s (.error (.strayElse key), s)
  | unanswered {key : String} {done cs : List Char} {s s' : State} {f : Directive.Found}
      {ref : Reference} {e : DirectiveFault}
      (hf : Directive.find (Text.endsIn (· == '%') done) cs = some f)
      (hd : f.directive.reference? = some ref)
      (h : Runs keeps prefixKey (.follow key ref) s (.error e, s')) :
      Runs keeps prefixKey (.rest key done cs) s (.error e, s')
  | substituted {key : String} {done cs : List Char} {s s' : State} {f : Directive.Found}
      {ref : Reference} {text : String} {o : Outcome}
      (hf : Directive.find (Text.endsIn (· == '%') done) cs = some f)
      (hd : f.directive = .substitute ref)
      (h : Runs keeps prefixKey (.follow key ref) s (.ok text, s'))
      (hr : Runs keeps prefixKey (.rest key (done ++ f.before ++ text.toList) f.after) s' o) :
      Runs keeps prefixKey (.rest key done cs) s o
  | broken {key : String} {done cs : List Char} {s s' : State} {f : Directive.Found}
      {ref : Reference} {wanted : Bool} {text : String} {e : Directive.BlockFault}
      (hf : Directive.find (Text.endsIn (· == '%') done) cs = some f)
      (hd : f.directive.condition? = some (ref, wanted))
      (h : Runs keeps prefixKey (.follow key ref) s (.ok text, s'))
      (hb : Directive.Block.read f.after = .error e) :
      Runs keeps prefixKey (.rest key done cs) s (.error (blockFault key e), s')
  | selected {key : String} {done cs : List Char} {s s' : State} {f : Directive.Found}
      {ref : Reference} {wanted : Bool} {text : String} {b : Directive.Block} {o : Outcome}
      (hf : Directive.find (Text.endsIn (· == '%') done) cs = some f)
      (hd : f.directive.condition? = some (ref, wanted))
      (h : Runs keeps prefixKey (.follow key ref) s (.ok text, s'))
      (hb : Directive.Block.read f.after = .ok b)
      (hr : Runs keeps prefixKey
        (.rest key (done ++ f.before) (b.select (Setting.isTrue text == wanted))) s' o) :
      Runs keeps prefixKey (.rest key done cs) s o
  | direct {key name : String} {s s' : State} {a : Except DirectiveFault String}
      (h : Runs keeps prefixKey (.demand key name) (s.enter key) (a, s')) :
      Runs keeps prefixKey (.follow key (.direct name)) s (a, s'.leave key)
  | stemless {key suffix : String} {s s' : State} {e : DirectiveFault}
      (h : Runs keeps prefixKey (.demand key prefixKey) (s.enter key) (.error e, s')) :
      Runs keeps prefixKey (.follow key (.indirect suffix)) s (.error e, s'.leave key)
  | indirect {key suffix stem : String} {s s₁ s₂ : State} {a : Except DirectiveFault String}
      (h : Runs keeps prefixKey (.demand key prefixKey) (s.enter key) (.ok stem, s₁))
      (hr : Runs keeps prefixKey (.demand key (stem ++ suffix)) s₁ (a, s₂)) :
      Runs keeps prefixKey (.follow key (.indirect suffix)) s (a, s₂.leave key)
  | cycle {key target : String} {s : State} (ht : target = key ∨ target ∈ s.path) :
      Runs keeps prefixKey (.demand key target) s (.error (.selfReference target key), s)
  | called {key target : String} {s : State} {o : Outcome} (ht : ¬(target = key ∨ target ∈ s.path))
      (h : Runs keeps prefixKey (.value target) s o) :
      Runs keeps prefixKey (.demand key target) s o

variable {keeps : Bool} {prefixKey : String}

/-! ## One outcome -/

theorem Runs.unique {job : Job} {s : State} {o o' : Outcome} (h : Runs keeps prefixKey job s o)
    (h' : Runs keeps prefixKey job s o') : o = o' := by
  induction h generalizing o' with
  | stored hk =>
    cases h' with
    | stored => rfl
    | expanded hk' => exact absurd hk' hk
  | expanded hk _ ih =>
    cases h' with
    | stored hk' => exact absurd hk hk'
    | expanded _ h' => exact ih h'
  -- the rest of a text: what is found in it decides the rule
  | finished hf => cases h' <;> grind
  | strayClose hf hd => cases h' <;> grind [Directive.reference?, Directive.condition?]
  | strayElse hf hd => cases h' <;> grind [Directive.reference?, Directive.condition?]
  | unanswered hf hd _ ih =>
    cases h' <;> grind [Directive.reference?, → Directive.reference?_of_condition?]
  | substituted hf hd _ _ ih ihr =>
    cases h' <;> grind [Directive.reference?, Directive.condition?]
  | broken hf hd _ hb ih =>
    cases h' <;> grind [Directive.condition?, → Directive.reference?_of_condition?]
  | selected hf hd _ hb _ ih ihr =>
    cases h' <;> grind [Directive.condition?, → Directive.reference?_of_condition?]
  | direct _ ih =>
    cases h' with
    | direct h' => grind
  | stemless _ ih => cases h' <;> grind
  | indirect _ _ ih ihr => cases h' <;> grind
  | cycle ht =>
    cases h' with
    | cycle => rfl
    | called ht' => exact absurd ht ht'
  | called ht _ ih =>
    cases h' with
    | cycle ht' => exact absurd ht' ht
    | called _ h' => exact ih h'

/-! ## The steps behind an outcome -/

section inversion
variable {key : String} {done cs : List Char} {s : State} {o : Outcome} {f : Directive.Found}
  {ref : Reference}

theorem Runs.substitute_cases (h : Runs keeps prefixKey (.rest key done cs) s o)
    (hf : Directive.find (Text.endsIn (· == '%') done) cs = some f)
    (hd : f.directive = .substitute ref) :
    (∃ e s', Runs keeps prefixKey (.follow key ref) s (.error e, s') ∧ o = (.error e, s')) ∨
      ∃ text s', Runs keeps prefixKey (.follow key ref) s (.ok text, s') ∧
        Runs keeps prefixKey (.rest key (done ++ f.before ++ text.toList) f.after) s' o := by
  cases h with
  | unanswered hf' hd' h => grind [Directive.reference?]
  | substituted hf' hd' h hr => grind
  | _ => grind [Directive.condition?]

theorem Runs.condition_cases {wanted : Bool} (h : Runs keeps prefixKey (.rest key done cs) s o)
    (hf : Directive.find (Text.endsIn (· == '%') done) cs = some f)
    (hd : f.directive.condition? = some (ref, wanted)) :
    (∃ e s', Runs keeps prefixKey (.follow key ref) s (.error e, s') ∧ o = (.error e, s')) ∨
      ∃ text s', Runs keeps prefixKey (.follow key ref) s (.ok text, s') ∧
        ((∃ e, Directive.Block.read f.after = .error e ∧ o = (.error (blockFault key e), s')) ∨
          ∃ b, Directive.Block.read f.after = .ok b ∧ Runs keeps prefixKey
            (.rest key (done ++ f.before) (b.select (Setting.isTrue text == wanted))) s' o) := by
  cases h with
  | unanswered hf' hd' h => grind [→ Directive.reference?_of_condition?]
  | broken hf' hd' h hb => grind
  | selected hf' hd' h hb hr => grind
  | _ => grind [Directive.condition?]

theorem Runs.rest_cases {text : String} (h : Runs keeps prefixKey (.rest key done cs) s o)
    (ho : o.1 = .ok text) :
    (Directive.find (Text.endsIn (· == '%') done) cs = none ∧ text = String.ofList (done ++ cs)) ∨
      ∃ f, Directive.find (Text.endsIn (· == '%') done) cs = some f ∧
        ((∃ ref t s', f.directive = .substitute ref ∧
            Runs keeps prefixKey (.follow key ref) s (.ok t, s') ∧
            Runs keeps prefixKey (.rest key (done ++ f.before ++ t.toList) f.after) s' o) ∨
          ∃ ref wanted t s' b, f.directive.condition? = some (ref, wanted) ∧
            Runs keeps prefixKey (.follow key ref) s (.ok t, s') ∧
            Directive.Block.read f.after = .ok b ∧ Runs keeps prefixKey
              (.rest key (done ++ f.before) (b.select (Setting.isTrue t == wanted))) s' o) := by
  cases h with
  | finished hf => exact .inl ⟨hf, (Except.ok.inj ho).symm⟩
  | substituted hf hd h hr => exact .inr ⟨_, hf, .inl ⟨_, _, _, hd, h, hr⟩⟩
  | selected hf hd h hb hr => exact .inr ⟨_, hf, .inr ⟨_, _, _, _, _, hd, h, hb, hr⟩⟩
  | strayClose | strayElse | unanswered | broken => cases ho

theorem Runs.direct_cases {name : String}
    (h : Runs keeps prefixKey (.follow key (.direct name)) s o) :
    ∃ a s', Runs keeps prefixKey (.demand key name) (s.enter key) (a, s') ∧
      o = (a, s'.leave key) := by
  cases h with
  | direct h => exact ⟨_, _, h, rfl⟩

theorem Runs.indirect_cases {suffix : String}
    (h : Runs keeps prefixKey (.follow key (.indirect suffix)) s o) :
    (∃ e s', Runs keeps prefixKey (.demand key prefixKey) (s.enter key) (.error e, s') ∧
        o = (.error e, s'.leave key)) ∨
      ∃ stem s₁ a s₂, Runs keeps prefixKey (.demand key prefixKey) (s.enter key) (.ok stem, s₁) ∧
        Runs keeps prefixKey (.demand key (stem ++ suffix)) s₁ (a, s₂) ∧
        o = (a, s₂.leave key) := by
  cases h with
  | stemless h => exact .inl ⟨_, _, h, rfl⟩
  | indirect h hr => exact .inr ⟨_, _, _, _, h, hr, rfl⟩

end inversion

/-! ## What a run leaves alone -/

/-- From the first state to the second the path is the same, pending keys may be finished but none
that is on the path, and a text changes only when its key is finished. -/
structure Frame (s s' : State) : Prop where
  path : s'.path = s.path
  pending : ∀ k ∈ s'.pending, k ∈ s.pending
  kept : ∀ k ∈ s.path, k ∈ s.pending → k ∈ s'.pending
  values : ∀ k, k ∉ s.pending ∨ k ∈ s'.pending → s'.values.get? k = s.values.get? k

theorem Frame.refl (s : State) : Frame s s :=
  ⟨rfl, fun _ h => h, fun _ _ h => h, fun _ _ => rfl⟩

theorem Frame.trans {s₁ s₂ s₃ : State} (h : Frame s₁ s₂) (h' : Frame s₂ s₃) : Frame s₁ s₃ where
  path := h'.path.trans h.path
  pending k hk := h.pending k (h'.pending k hk)
  kept k hp hk := h'.kept k (h.path ▸ hp) (h.kept k hp hk)
  values k hk := by
    rcases hk with hk | hk
    · rw [h'.values k (.inl fun hn => hk (h.pending k hn)), h.values k (.inl hk)]
    · rw [h'.values k (.inr hk), h.values k (.inr (h'.pending k hk))]

theorem Frame.settle {s : State} {key : String} (hk : key ∈ s.pending) (hp : key ∉ s.path)
    (keeps : Bool) (text : String) : Frame s (s.settle keeps key text) := by
  cases keeps with
  | false => exact Frame.refl s
  | true =>
    refine ⟨rfl, fun k h => (KeySet.mem_erase.1 h).1, fun k h h' => ?_, fun k h => ?_⟩
    · exact KeySet.mem_erase.2 ⟨h', fun he => hp (he ▸ h)⟩
    · have hne : key ≠ k := by
        rintro rfl
        rcases h with h | h
        · exact h hk
        · exact (KeySet.mem_erase.1 h).2 rfl
      show (s.values.insert key text).get? k = _
      rw [Table.get?_insert, if_neg hne]

theorem Frame.leave {s s' : State} {key : String} (hp : key ∉ s.path)
    (h : Frame (s.enter key) s') : Frame s (s'.leave key) where
  path := by
    show s'.path.erase key = s.path
    rw [h.path]
    exact KeySet.erase_insert hp
  pending := h.pending
  kept k hk := h.kept k (KeySet.mem_insert.2 (.inr hk))
  values := h.values

/-- How the key of a job stands to the path and the pending keys while the job is done. -/
def Job.Fits (s : State) : Job → Prop
  | .value key => key ∉ s.path
  | .rest key _ _ | .follow key _ => key ∉ s.path ∧ key ∈ s.pending
  | .demand key _ => key ∈ s.path ∧ key ∈ s.pending

theorem Job.Fits.enter {s : State} {key : String} {ref : Reference}
    (h : (Job.follow key ref).Fits s) : key ∈ (s.enter key).path ∧ key ∈ (s.enter key).pending :=
  ⟨KeySet.mem_insert.2 (.inl rfl), h.2⟩

theorem Job.Fits.called {s : State} {key target : String}
    (ht : ¬(target = key ∨ target ∈ s.path)) : (Job.value target).Fits s :=
  fun h => ht (.inr h)

theorem Frame.held {s s' : State} (h : Frame s s') {key : String}
    (hk : key ∈ s.path ∧ key ∈ s.pending) : key ∈ s'.path ∧ key ∈ s'.pending :=
  ⟨h.path ▸ hk.1, h.kept key hk.1 hk.2⟩

/-- The outcome of a run comes with the frame, and a key stays pending while its references are
followed. -/
theorem Runs.frame {job : Job} {s : State} {o : Outcome} (h : Runs keeps prefixKey job s o)
    (hj : job.Fits s) : Frame s o.2 ∧ ∀ key ref, job = .follow key ref → key ∈ o.2.pending := by
  induction h with
  | stored hk => exact ⟨Frame.refl _, by simp⟩
  | expanded hk _ ih => exact ⟨(ih ⟨hj, hk⟩).1, by simp⟩
  | finished hf => exact ⟨Frame.settle hj.2 hj.1 _ _, by simp⟩
  | strayClose hf hd => exact ⟨Frame.refl _, by simp⟩
  | strayElse hf hd => exact ⟨Frame.refl _, by simp⟩
  | unanswered hf hd _ ih => exact ⟨(ih hj).1, by simp⟩
  | broken hf hd _ hb ih => exact ⟨(ih hj).1, by simp⟩
  | substituted hf hd _ _ ih ihr =>
    obtain ⟨h1, hp⟩ := ih hj
    exact ⟨h1.trans (ihr ⟨h1.path ▸ hj.1, hp _ _ rfl⟩).1, by simp⟩
  | selected hf hd _ hb _ ih ihr =>
    obtain ⟨h1, hp⟩ := ih hj
    exact ⟨h1.trans (ihr ⟨h1.path ▸ hj.1, hp _ _ rfl⟩).1, by simp⟩
  | direct _ ih =>
    have h1 := (ih hj.enter).1
    refine ⟨h1.leave hj.1, fun key ref he => ?_⟩
    cases he
    exact h1.kept _ (KeySet.mem_insert.2 (.inl rfl)) hj.2
  | stemless _ ih =>
    have h1 := (ih hj.enter).1
    refine ⟨h1.leave hj.1, fun key ref he => ?_⟩
    cases he
    exact h1.kept _ (KeySet.mem_insert.2 (.inl rfl)) hj.2
  | indirect _ _ ih ihr =>
    have h1 := (ih hj.enter).1
    have h2 := h1.trans (ihr (h1.held hj.enter)).1
    refine ⟨h2.leave hj.1, fun key ref he => ?_⟩
    cases he
    exact h2.kept _ (KeySet.mem_insert.2 (.inl rfl)) hj.2
  | cycle ht => exact ⟨Frame.refl _, by simp⟩
  | called ht _ ih => exact ⟨(ih (Job.Fits.called ht)).1, by simp⟩

theorem Runs.answered {key : String} {ref : Reference} {s s' : State}
    {a : Except DirectiveFault String} (h : Runs keeps prefixKey (.follow key ref) s (a, s'))
    (hj : (Job.follow key ref).Fits s) : Frame s s' ∧ key ∉ s'.path ∧ key ∈ s'.pending := by
  obtain ⟨hf, hp⟩ := h.frame hj
  exact ⟨hf, hf.path ▸ hj.1, hp _ _ rfl⟩

/-! ## The look-ups of a text -/

/-- A moment in the work on the text of `key` from the state `s`: a text in front is done and the
rest is left. -/
inductive Works (prefixKey key : String) (s : State) : List Char → List Char → State → Prop
  | opened (hk : key ∈ s.pending) : Works prefixKey key s [] (s.text key).toList s
  | substituted {done cs : List Char} {t t' : State} {f : Directive.Found} {ref : Reference}
      {text : String} (h : Works prefixKey key s done cs t)
      (hf : Directive.find (Text.endsIn (· == '%') done) cs = some f)
      (hd : f.directive = .substitute ref)
      (hr : Runs true prefixKey (.follow key ref) t (.ok text, t')) :
      Works prefixKey key s (done ++ f.before ++ text.toList) f.after t'
  | selected {done cs : List Char} {t t' : State} {f : Directive.Found} {ref : Reference}
      {wanted : Bool} {text : String} {b : Directive.Block} (h : Works prefixKey key s done cs t)
      (hf : Directive.find (Text.endsIn (· == '%') done) cs = some f)
      (hd : f.directive.condition? = some (ref, wanted))
      (hr : Runs true prefixKey (.follow key ref) t (.ok text, t'))
      (hb : Directive.Block.read f.after = .ok b) :
      Works prefixKey key s (done ++ f.before) (b.select (Setting.isTrue text == wanted)) t'

/-- The work on the text of `key` from `s` comes to a reference, in the state `t`. -/
def Refers (prefixKey key : String) (s : State) (ref : Reference) (t : State) : Prop :=
  ∃ done cs f, Works prefixKey key s done cs t ∧
    Directive.find (Text.endsIn (· == '%') done) cs = some f ∧ f.directive.reference? = some ref

/-- The work on the text of `key` from `s` looks up `target`, in the state `t`. A target on the path
is not looked up. -/
inductive Needs (prefixKey key : String) (s : State) : String → State → Prop
  | direct {name : String} {t : State} (h : Refers prefixKey key s (.direct name) t)
      (ht : ¬(name = key ∨ name ∈ (t.enter key).path)) :
      Needs prefixKey key s name (t.enter key)
  | stem {suffix : String} {t : State} (h : Refers prefixKey key s (.indirect suffix) t)
      (ht : ¬(prefixKey = key ∨ prefixKey ∈ (t.enter key).path)) :
      Needs prefixKey key s prefixKey (t.enter key)
  | indirect {suffix stem : String} {t t' : State}
      (h : Refers prefixKey key s (.indirect suffix) t)
      (hr : Runs true prefixKey (.demand key prefixKey) (t.enter key) (.ok stem, t'))
      (ht : ¬(stem ++ suffix = key ∨ stem ++ suffix ∈ t'.path)) :
      Needs prefixKey key s (stem ++ suffix) t'

section lookups
variable {key target : String} {done cs : List Char} {s t : State} {ref : Reference}
  {answer : String → State → Outcome}

theorem Works.frame (h : Works prefixKey key s done cs t) (hk : key ∉ s.path) :
    Frame s t ∧ key ∉ t.path ∧ key ∈ t.pending := by
  induction h with
  | opened hp => exact ⟨Frame.refl s, hk, hp⟩
  | substituted _ _ _ hr ih | selected _ _ _ hr _ ih =>
    obtain ⟨hf, hj⟩ := ih
    obtain ⟨hf', hj'⟩ := hr.answered hj
    exact ⟨hf.trans hf', hj'⟩

theorem Frame.enter (h : Frame s t) (hk : key ∈ t.pending) : Frame (s.enter key) (t.enter key) where
  path := congrArg (·.insert key) h.path
  pending := h.pending
  kept k hp hs := by
    rcases KeySet.mem_insert.1 hp with rfl | hp
    · exact hk
    · exact h.kept k hp hs
  values := h.values

theorem Refers.frame (h : Refers prefixKey key s ref t) (hk : key ∉ s.path) :
    Frame (s.enter key) (t.enter key) ∧ key ∉ t.path ∧ key ∈ t.pending := by
  obtain ⟨done, cs, f, hw, -, -⟩ := h
  obtain ⟨hf, hj⟩ := hw.frame hk
  exact ⟨hf.enter hj.2, hj⟩

theorem Needs.frame (h : Needs prefixKey key s target t) (hk : key ∉ s.path) :
    target ∉ t.path ∧ Frame (s.enter key) t := by
  cases h with
  | direct h ht | stem h ht => exact ⟨fun hin => ht (.inr hin), (h.frame hk).1⟩
  | @indirect suffix stem t₁ _ h hr ht =>
    obtain ⟨hf, hj⟩ := h.frame hk
    have hfits : (Job.follow key (.indirect suffix)).Fits t₁ := hj
    exact ⟨fun hin => ht (.inr hin), hf.trans (hr.frame hfits.enter).1⟩

theorem demand_runs (ha : ¬(target = key ∨ target ∈ s.path) →
      Runs true prefixKey (.value target) s (answer target s)) :
    Runs true prefixKey (.demand key target) s (demand answer key target s) := by
  unfold demand
  split
  · rename_i ht
    exact .cycle ht
  · rename_i ht
    exact .called ht (ha ht)

theorem follow_runs (ha : ∀ target t, Needs prefixKey key s target t →
      Runs true prefixKey (.value target) t (answer target t)) (h : Refers prefixKey key s ref t) :
    Runs true prefixKey (.follow key ref) t (follow answer prefixKey key ref t) := by
  cases ref with
  | direct name => exact .direct (demand_runs fun ht => ha _ _ (.direct h ht))
  | indirect suffix =>
    have h1 : Runs true prefixKey (.demand key prefixKey) (t.enter key)
        (demand answer key prefixKey (t.enter key)) := demand_runs fun ht => ha _ _ (.stem h ht)
    simp only [follow]
    rcases hd : demand answer key prefixKey (t.enter key) with ⟨e | stem, t'⟩
    · rw [hd] at h1
      rw [show demand answer key prefixKey { t with path := t.path.insert key } = _ from hd]
      exact .stemless h1
    · rw [hd] at h1
      rw [show demand answer key prefixKey { t with path := t.path.insert key } = _ from hd]
      exact .indirect h1 (demand_runs fun ht => ha _ _ (.indirect h h1 ht))

/-- The work on a text is a run, up to its end. -/
theorem rest_runs (ha : ∀ target t, Needs prefixKey key s target t →
      Runs true prefixKey (.value target) t (answer target t))
    (h : Works prefixKey key s done cs t) :
    Runs true prefixKey (.rest key done cs) t (expandRest answer prefixKey key done cs t) := by
  fun_induction expandRest answer prefixKey key done cs t with
  | case1 done cs t hf => exact .finished hf
  | case2 done cs t f hf hd => exact .strayClose hf hd
  | case3 done cs t f hf hd => exact .strayElse hf hd
  | case4 done cs t f hf ref hd e t' he | case6 done cs t f hf ref hd e t' he
  | case9 done cs t f hf ref hd e t' he =>
    have href : f.directive.reference? = some ref := by rw [hd]; rfl
    exact .unanswered hf href (he ▸ follow_runs ha ⟨done, cs, f, h, hf, href⟩)
  | case5 done cs t f hf ref hd text t' he ih =>
    have href : f.directive.reference? = some ref := by rw [hd]; rfl
    have hr := he ▸ follow_runs ha ⟨done, cs, f, h, hf, href⟩
    exact .substituted hf hd hr (ih (h.substituted hf hd hr))
  | case7 done cs t f hf ref hd text t' he e hb | case10 done cs t f hf ref hd text t' he e hb =>
    have href : f.directive.reference? = some ref := by rw [hd]; rfl
    exact .broken hf (by rw [hd]; rfl) (he ▸ follow_runs ha ⟨done, cs, f, h, hf, href⟩) hb
  | case8 done cs t f hf ref hd text t' he b hb keepFirst ih =>
    have hc : f.directive.condition? = some (ref, true) := by rw [hd]; rfl
    have href := Directive.reference?_of_condition? hc
    have hr := he ▸ follow_runs ha ⟨done, cs, f, h, hf, href⟩
    have hk : keepFirst = (Setting.isTrue text == true) := by simp [keepFirst, hd]
    rw [hk] at ih ⊢
    exact .selected hf hc hr hb (ih (h.selected hf hc hr hb))
  | case11 done cs t f hf ref hd text t' he b hb keepFirst ih =>
    have hc : f.directive.condition? = some (ref, false) := by rw [hd]; rfl
    have href := Directive.reference?_of_condition? hc
    have hr := he ▸ follow_runs ha ⟨done, cs, f, h, hf, href⟩
    have hk : keepFirst = (Setting.isTrue text == false) := by simp [keepFirst, hd]
    rw [hk] at ih ⊢
    exact .selected hf hc hr hb (ih (h.selected hf hc hr hb))

end lookups

/-! ## Enough levels -/

def State.remaining (s : State) : List String :=
  s.pending.elems.filter (· ∉ s.path)

theorem State.mem_remaining {s : State} {k : String} :
    k ∈ s.remaining ↔ k ∈ s.pending ∧ k ∉ s.path := by
  simp only [remaining, List.mem_filter, decide_eq_true_eq]
  rfl

theorem State.nodup_remaining (s : State) : s.remaining.Nodup :=
  s.pending.nodup.filter _

theorem Frame.remaining {s s' : State} (h : Frame s s') :
    s'.remaining.length ≤ s.remaining.length := by
  refine List.Nodup.length_le_of_subset s'.nodup_remaining fun k hk => ?_
  rw [State.mem_remaining] at hk ⊢
  exact ⟨h.pending k hk.1, h.path ▸ hk.2⟩

theorem State.remaining_enter {s : State} {key : String} (hk : key ∈ s.pending)
    (hp : key ∉ s.path) : (s.enter key).remaining.length < s.remaining.length := by
  have hnot : key ∉ (s.enter key).remaining := by
    simp [State.mem_remaining, State.enter]
  have hsub : key :: (s.enter key).remaining ⊆ s.remaining := by
    intro k hm
    rcases List.mem_cons.1 hm with rfl | hm
    · exact State.mem_remaining.2 ⟨hk, hp⟩
    · obtain ⟨h1, h2⟩ := State.mem_remaining.1 hm
      exact State.mem_remaining.2 ⟨h1, fun h => h2 (KeySet.mem_insert.2 (.inr h))⟩
  exact List.Nodup.length_le_of_subset (List.nodup_cons.2 ⟨hnot, State.nodup_remaining _⟩) hsub

/-- From every state with at most `n` pending keys off the path, `answer` runs the value of each
key off the path. -/
def Answers (prefixKey : String) (n : Nat) (answer : String → State → Outcome) : Prop :=
  ∀ key s, key ∉ s.path → s.remaining.length ≤ n →
    Runs true prefixKey (.value key) s (answer key s)

/-- **Levels are never missing**: with as many as there are pending keys off the path, `resolve`
runs the value of every key off the path. -/
theorem resolve_runs (n : Nat) : Answers prefixKey n (resolve prefixKey n) := by
  induction n with
  | zero =>
    intro key s hp hs
    have hk : key ∉ s.pending := by
      intro hk
      have hm := State.mem_remaining.2 ⟨hk, hp⟩
      rw [List.length_eq_zero_iff.1 (Nat.le_zero.1 hs)] at hm
      simp at hm
    exact .stored hk
  | succ n ih =>
    intro key s hp hs
    unfold resolve
    split
    · rename_i hk
      refine .expanded hk (rest_runs (fun target t ht => ?_) (.opened hk))
      obtain ⟨hoff, hf⟩ := ht.frame hp
      have hlt := State.remaining_enter hk hp
      have hle := hf.remaining
      exact ih target t hoff (by omega)
    · rename_i hk
      exact .stored hk

theorem State.remaining_le (s : State) : s.remaining.length ≤ s.pending.size :=
  List.length_filter_le _ _

theorem State.resolveOn_run {s : State} {key : String} (prefixKey : String) (hk : key ∉ s.path) :
    Runs true prefixKey (.value key) s (s.resolveOn prefixKey s.path key) :=
  resolve_runs s.pending.size key s hk s.remaining_le

theorem State.fresh_remaining_le (s : State) : s.fresh.remaining.length ≤ s.pending.size :=
  s.fresh.remaining_le

theorem State.resolve_run (s : State) (prefixKey key : String) :
    Runs true prefixKey (.value key) s.fresh (s.resolve prefixKey key) :=
  State.resolveOn_run prefixKey (KeySet.not_mem_empty key)

end Expansion

end LayeredConfig
