import LayeredConfig.Proofs.Expansion.Cycle
import LayeredConfig.Proofs.Expansion.Tree

/-!
# Expansion is the evaluation of trees

`resolve` works on one text: it replaces a reference by its text, cuts a block down to the branch
it keeps, and searches on from there. For well-formed values this is the evaluation of their trees,
as long as no seam makes or unmakes a directive.

* `Regular`: the values are well-formed, no text that is put in for a reference ends in a percent
  sign, and where a branch is joined to the text behind its block no directive begins in the one
  and ends in the other.
* `Runs.evaluates`: in a regular expansion, a run comes to the value of its term or to a
  self-reference.
* `Active.consults`: it asks for no key that the evaluation does not ask for.
* `resolve_eq_tree`: so an expansion that meets no self-reference comes to the value of its key.
-/

namespace LayeredConfig.Expansion

open Directive (escapes escapes_append escapes_false Seamless condition pieces)

variable {s₀ s s' : State} {prefixKey : String}

/-! ## Regular expansions -/

/-- A text that the expansion of `key₀` puts in for a reference. -/
inductive Substitutes (prefixKey key₀ : String) (s₀ : State) : String → Prop
  | intro {chain : List String} {key text : String} {done cs : List Char} {s s' : State}
      {f : Directive.Found} {ref : Reference}
      (h : Active true prefixKey key₀ s₀ chain (.rest key done cs) s)
      (hf : Directive.find (Text.endsIn (· == '%') done) cs = some f)
      (hd : f.directive = .substitute ref)
      (hr : Runs true prefixKey (.follow key ref) s (.ok text, s')) :
      Substitutes prefixKey key₀ s₀ text

/-- A branch that the expansion of `key₀` keeps, and the text behind its block. -/
inductive Joins (prefixKey key₀ : String) (s₀ : State) : List Char → List Char → Prop
  | intro {chain : List String} {key text : String} {done cs : List Char} {s s' : State}
      {f : Directive.Found} {ref : Reference} {wanted : Bool} {b : Directive.Block}
      (h : Active true prefixKey key₀ s₀ chain (.rest key done cs) s)
      (hf : Directive.find (Text.endsIn (· == '%') done) cs = some f)
      (hd : f.directive.condition? = some (ref, wanted))
      (hr : Runs true prefixKey (.follow key ref) s (.ok text, s'))
      (hb : Directive.Block.read f.after = .ok b) :
      Joins prefixKey key₀ s₀ (if Setting.isTrue text == wanted then b.first else b.second) b.after

/-- The values are well-formed, no text that is put in ends in a percent sign, and no branch makes
a directive with the text behind its block. -/
structure Regular (s₀ : State) (prefixKey key₀ : String) : Prop where
  wellFormed : ∀ k ∈ s₀.pending, ∃ t : Template, t.Parses (s₀.text k).toList
  substituted : ∀ text, Substitutes prefixKey key₀ s₀ text →
    Text.endsIn (· == '%') text.toList = false
  seams : ∀ branch after, Joins prefixKey key₀ s₀ branch after → Seamless false branch after

/-- `s` is `s₀` with some keys finished, each with the value of its tree. -/
abbrev Evaluated (prefixKey : String) (s₀ s : State) : Prop :=
  Finished (fun k text => Evaluates s₀ prefixKey (.key k) text) s₀ s

theorem Evaluated.stored (h : Evaluated prefixKey s₀ s) {k : String} (hk : k ∉ s.pending) :
    Evaluates s₀ prefixKey (.key k) (s.text k) := by
  by_cases h₀ : k ∈ s₀.pending
  · exact h.text h₀ hk
  · rw [State.text_congr (h.values k (.inl h₀))]
    exact .stored h₀

/-! ## Runs evaluate -/

theorem eq_condition {d : Directive} {ref : Reference} {wanted : Bool}
    (h : d.condition? = some (ref, wanted)) : d = condition wanted ref := by
  cases d <;> simp_all [Directive.condition?, condition]

/-- What is known of a job before it starts: the text in front of a rest does not escape it, and
the rest has a tree. -/
def Job.Parsed : Job → Prop
  | .rest _ done cs => Text.endsIn (· == '%') done = false ∧ ∃ t : Template, t.Parses cs
  | _ => True

/-- The text that a job comes to has the value of what the job is busy with. -/
def Job.Worth (s₀ : State) (prefixKey text : String) : Job → Prop
  | .value key | .demand _ key => Evaluates s₀ prefixKey (.key key) text
  | .follow _ ref => Evaluates s₀ prefixKey (.reference ref) text
  | .rest _ done cs => ∃ t v, Template.Parses t cs ∧ Evaluates s₀ prefixKey (.tree t) v ∧
      text = String.ofList done ++ v

/-- What must be known of a text whose rest comes to an outcome: it is the value of its key. -/
def Job.Completed (s₀ : State) (prefixKey : String) (o : Outcome) : Job → Prop
  | .rest key _ _ => ∀ text, o.1 = .ok text → Evaluates s₀ prefixKey (.key key) text
  | _ => True

theorem endsIn_percent_before {done cs : List Char} {f : Directive.Found}
    (hdone : Text.endsIn (· == '%') done = false)
    (hf : Directive.find (Text.endsIn (· == '%') done) cs = some f) :
    Text.endsIn (· == '%') (done ++ f.before) = false := by
  rw [hdone] at hf
  obtain ⟨m, -, -, hesc, -⟩ := Directive.find_local hf
  rw [← escapes_false] at hdone ⊢
  rw [escapes_append, hdone, hesc]

theorem Regular.behind {key₀ : String} (hreg : Regular s₀ prefixKey key₀) {chain : List String}
    {key text : String} {done cs : List Char} {s s' : State} {f : Directive.Found}
    {ref : Reference} (h : Active true prefixKey key₀ s₀ chain (.rest key done cs) s)
    (hf : Directive.find (Text.endsIn (· == '%') done) cs = some f)
    (hd : f.directive = .substitute ref)
    (hr : Runs true prefixKey (.follow key ref) s (.ok text, s'))
    (hdone : Text.endsIn (· == '%') done = false) {t : Template} (ht : t.Parses cs) :
    ∃ next, t = .reference f.before ref next ∧ next.Parses f.after ∧
      Text.endsIn (· == '%') (done ++ f.before ++ text.toList) = false := by
  have hbefore := endsIn_percent_before hdone hf
  have htext := hreg.substituted _ (.intro h hf hd hr)
  rw [hdone] at hf
  obtain ⟨next, rfl, hnext⟩ := ht.of_substitute hf hd
  refine ⟨next, rfl, hnext, ?_⟩
  rw [← escapes_false] at hbefore htext ⊢
  rw [escapes_append, hbefore, htext]

theorem Regular.kept {key₀ : String} (hreg : Regular s₀ prefixKey key₀) {chain : List String}
    {key text : String} {done cs : List Char} {s s' : State} {f : Directive.Found}
    {ref : Reference} {wanted : Bool}
    (h : Active true prefixKey key₀ s₀ chain (.rest key done cs) s)
    (hf : Directive.find (Text.endsIn (· == '%') done) cs = some f)
    (hd : f.directive.condition? = some (ref, wanted))
    (hr : Runs true prefixKey (.follow key ref) s (.ok text, s'))
    (hdone : Text.endsIn (· == '%') done = false) {t : Template} (ht : t.Parses cs) :
    ∃ b kept next, Directive.Block.read f.after = .ok b ∧
      Text.endsIn (· == '%') (done ++ f.before) = false ∧
      (Template.append kept next).Parses (b.select (Setting.isTrue text == wanted)) ∧
      (∀ v w, Evaluates s₀ prefixKey (.reference ref) text →
        Evaluates s₀ prefixKey (.tree kept) v → Evaluates s₀ prefixKey (.tree next) w →
        Evaluates s₀ prefixKey (.tree t) (String.ofList f.before ++ (v ++ w))) ∧
      ∀ x, Evaluates s₀ prefixKey (.reference ref) text →
        Consults s₀ prefixKey (.tree kept) x ∨ Consults s₀ prefixKey (.tree next) x →
        Consults s₀ prefixKey (.tree t) x := by
  have hf₀ := hf
  rw [hdone] at hf₀
  obtain ⟨b, first, second, next, hb, hfirst, hsecond, hnext, hcase⟩ :=
    ht.of_condition hf₀ (eq_condition hd)
  have hseam := hreg.seams _ _ (.intro h hf hd hr hb)
  refine ⟨b, if Setting.isTrue text == wanted then first else second, next, hb,
    endsIn_percent_before hdone hf, ?_, ?_, ?_⟩
  · unfold Directive.Block.select
    cases hk : Setting.isTrue text == wanted <;> rw [hk] at hseam
    · exact hsecond.1.append hsecond.2 hseam hnext
    · exact hfirst.1.append hfirst.2 hseam hnext
  · rintro v w hc hv hw
    rcases hcase with ⟨rfl, rfl⟩ | rfl
    · exact .optional hc hv hw
    · exact .choice hc hv hw
  · rintro x hc hx
    rcases hcase with ⟨rfl, rfl⟩ | rfl
    · exact hx.elim (.insideOptional hc) .behindOptional
    · exact hx.elim (.insideChoice hc) .behindChoice

/-- **A run in a regular expansion evaluates**: it fails only with a self-reference, comes to the
value of its term, and leaves the finished keys with their values. -/
theorem Runs.evaluates {key₀ : String} (hreg : Regular s₀ prefixKey key₀) {chain : List String}
    {job : Job} {o : Outcome} (h : Runs true prefixKey job s o)
    (hact : Active true prefixKey key₀ s₀ chain job s) (hm : Evaluated prefixKey s₀ s)
    (hp : job.Parsed) :
    (∀ e, o.1 = .error e → ∃ target within, e = .selfReference target within) ∧
      (∀ text, o.1 = .ok text → job.Worth s₀ prefixKey text) ∧
      (job.Completed s₀ prefixKey o → Evaluated prefixKey s₀ o.2) := by
  induction h generalizing chain with
  | stored hk =>
    refine ⟨by simp, fun text ht => ?_, fun _ => hm⟩
    obtain rfl := Except.ok.inj ht
    exact hm.stored hk
  | @expanded key s o hk h ih =>
    have htext : s.text key = s₀.text key := State.text_congr (hm.values _ (.inr hk))
    obtain ⟨t, ht⟩ := hreg.wellFormed key (hm.pending _ hk)
    obtain ⟨h1, h2, h3⟩ := ih (hact.opened hk) hm ⟨rfl, t, htext ▸ ht⟩
    have hval : ∀ text, o.1 = .ok text → Evaluates s₀ prefixKey (.key key) text := by
      intro text ho
      obtain ⟨t', v, ht', hv, rfl⟩ := h2 text ho
      rw [htext] at ht'
      simpa using Evaluates.expanded (hm.pending _ hk) ht' hv
    exact ⟨h1, hval, fun _ => h3 hval⟩
  | @finished key done cs s hf =>
    have hnone : Directive.find false cs = none := hp.1 ▸ hf
    refine ⟨by simp, fun text ht => ?_, fun hset => ?_⟩
    · obtain rfl := Except.ok.inj ht
      exact ⟨.text cs, _, Directive.pieces_of_none hnone, .text, String.ofList_append ..⟩
    · exact Finished.finish hm hact.standing.fits.2 (fun _ _ hv => hv) (hset _ rfl)
  | strayClose hf hd =>
    obtain ⟨t, ht⟩ := hp.2
    exact absurd hd (ht.not_end (hp.1 ▸ hf)).1
  | strayElse hf hd =>
    obtain ⟨t, ht⟩ := hp.2
    exact absurd hd (ht.not_end (hp.1 ▸ hf)).2
  | unanswered hf hd h ih =>
    obtain ⟨h1, h2, h3⟩ := ih (hact.asked hf hd) hm trivial
    exact ⟨h1, by simp, fun _ => h3 trivial⟩
  | @substituted key done cs s s' f ref text o hf hd h hr ih ihr =>
    obtain ⟨-, h2, h3⟩ := ih (hact.asked hf (by rw [hd]; rfl)) hm trivial
    obtain ⟨hdone, t, ht⟩ := hp
    obtain ⟨next, rfl, hnext, hnew⟩ := hreg.behind hact hf hd h hdone ht
    obtain ⟨h4, h5, h6⟩ := ihr (hact.substituted hf hd h) (h3 trivial) ⟨hnew, next, hnext⟩
    refine ⟨h4, fun text' ho => ?_, h6⟩
    obtain ⟨next', v, hnext', hv, rfl⟩ := h5 text' ho
    obtain rfl := hnext'.unique hnext
    exact ⟨_, _, ht, .reference (h2 _ rfl) hv, by simp [String.ofList_append, String.append_assoc]⟩
  | broken hf hd h hb ih =>
    obtain ⟨hdone, t, ht⟩ := hp
    obtain ⟨b, -, -, hb', -⟩ := hreg.kept hact hf hd h hdone ht
    exact absurd (hb.symm.trans hb') (by simp)
  | @selected key done cs s s' f ref wanted text b o hf hd h hb hr ih ihr =>
    obtain ⟨-, h2, h3⟩ := ih (hact.asked hf (Directive.reference?_of_condition? hd)) hm trivial
    obtain ⟨hdone, t, ht⟩ := hp
    obtain ⟨b', kept, next, hb', hnew, hparse, heval, -⟩ := hreg.kept hact hf hd h hdone ht
    obtain rfl := Except.ok.inj (hb.symm.trans hb')
    obtain ⟨h4, h5, h6⟩ := ihr (hact.selected hf hd h hb) (h3 trivial) ⟨hnew, _, hparse⟩
    refine ⟨h4, fun text' ho => ?_, h6⟩
    obtain ⟨t', v, ht', hv, rfl⟩ := h5 text' ho
    obtain rfl := ht'.unique hparse
    obtain ⟨w, w', rfl, hw, hw'⟩ := hv.of_append
    exact ⟨t, _, ht, heval w w' (h2 _ rfl) hw hw',
      by simp [String.ofList_append, String.append_assoc]⟩
  | direct h ih =>
    obtain ⟨h1, h2, h3⟩ := ih hact.direct hm.on_path trivial
    exact ⟨h1, fun text ho => .direct (h2 text ho), fun _ => (h3 trivial).on_path⟩
  | stemless h ih =>
    obtain ⟨h1, -, h3⟩ := ih hact.stem hm.on_path trivial
    exact ⟨h1, by simp, fun _ => (h3 trivial).on_path⟩
  | indirect h hr ih ihr =>
    obtain ⟨-, h2, h3⟩ := ih hact.stem hm.on_path trivial
    obtain ⟨h4, h5, h6⟩ := ihr (hact.indirect h) (h3 trivial) trivial
    exact ⟨h4, fun text ho => .indirect (h2 _ rfl) (h5 text ho), fun _ => (h6 trivial).on_path⟩
  | cycle ht =>
    exact ⟨fun e he => ⟨_, _, (Except.error.inj he).symm⟩, by simp, fun _ => hm⟩
  | called ht h ih =>
    obtain ⟨h1, h2, h3⟩ := ih (hact.called ht) hm trivial
    exact ⟨h1, h2, fun _ => h3 trivial⟩

/-! ## Look-ups -/

def Job.Asks (s₀ : State) (prefixKey x : String) : Job → Prop
  | .value key | .demand _ key => Consults s₀ prefixKey (.key key) x
  | .follow _ ref => Consults s₀ prefixKey (.reference ref) x
  | .rest _ _ cs => ∃ t, Template.Parses t cs ∧ Consults s₀ prefixKey (.tree t) x

/-- At every moment of a regular expansion the finished keys have their values, and whatever may be
asked for is asked for by the evaluation of the key. -/
theorem Active.consults {key₀ : String} (hreg : Regular s₀ prefixKey key₀) {chain : List String}
    {job : Job} (h : Active true prefixKey key₀ s₀ chain job s) :
    Evaluated prefixKey s₀ s ∧ job.Parsed ∧
      ∀ x, job.Asks s₀ prefixKey x → Consults s₀ prefixKey (.key key₀) x := by
  induction h with
  | start => exact ⟨(Finished.refl _).on_path, trivial, fun _ hx => hx⟩
  | @opened chain key s h hk ih =>
    obtain ⟨hm, -, hx⟩ := ih
    have htext : s.text key = s₀.text key := State.text_congr (hm.values _ (.inr hk))
    have h₀ := hm.pending _ hk
    obtain ⟨t, ht⟩ := hreg.wellFormed key h₀
    refine ⟨hm, ⟨rfl, t, htext ▸ ht⟩, ?_⟩
    rintro x ⟨t', ht', hx'⟩
    exact hx x (.expanded h₀ (htext ▸ ht') hx')
  | asked h hf hd ih =>
    obtain ⟨hm, ⟨hdone, t, ht⟩, hx⟩ := ih
    refine ⟨hm, trivial, fun x hx' => hx x ⟨t, ht, ?_⟩⟩
    exact consults_first (hdone ▸ hf) hd ht hx'
  | @substituted chain key done cs s s' f ref text h hf hd hr ih =>
    obtain ⟨hm, ⟨hdone, t, ht⟩, hx⟩ := ih
    obtain ⟨-, -, h3⟩ := hr.evaluates hreg (h.asked hf (by rw [hd]; rfl)) hm trivial
    obtain ⟨next, rfl, hnext, hnew⟩ := hreg.behind h hf hd hr hdone ht
    refine ⟨h3 trivial, ⟨hnew, next, hnext⟩, ?_⟩
    rintro x ⟨next', hnext', hx'⟩
    obtain rfl := hnext'.unique hnext
    exact hx x ⟨_, ht, .behindReference hx'⟩
  | @selected chain key done cs s s' f ref wanted text b h hf hd hr hb ih =>
    obtain ⟨hm, ⟨hdone, t, ht⟩, hx⟩ := ih
    obtain ⟨-, h2, h3⟩ :=
      hr.evaluates hreg (h.asked hf (Directive.reference?_of_condition? hd)) hm trivial
    obtain ⟨b', kept, next, hb', hnew, hparse, -, hcons⟩ := hreg.kept h hf hd hr hdone ht
    obtain rfl := Except.ok.inj (hb.symm.trans hb')
    refine ⟨h3 trivial, ⟨hnew, _, hparse⟩, ?_⟩
    rintro x ⟨t', ht', hx'⟩
    obtain rfl := ht'.unique hparse
    exact hx x ⟨t, ht, hcons x (h2 _ rfl) hx'.of_append⟩
  | direct _ ih =>
    exact ⟨ih.1.on_path, trivial, fun x hx => ih.2.2 x (.direct hx)⟩
  | stem _ ih =>
    exact ⟨ih.1.on_path, trivial, fun x hx => ih.2.2 x (.stem hx)⟩
  | indirect h hr ih =>
    obtain ⟨hm, -, hx⟩ := ih
    obtain ⟨-, h2, h3⟩ := hr.evaluates hreg h.stem hm.on_path trivial
    exact ⟨h3 trivial, trivial, fun x hx' => hx x (.indirect (h2 _ rfl) hx')⟩
  | called _ _ ih => exact ⟨ih.1, trivial, ih.2.2⟩

/-! ## Texts that refer to one finished key -/

section lone
variable {key name : String} {texts : List (List Char × List Char)}

/-- What becomes of a text, given as what is done of it and its rest, if its next directive refers
to `name`, whose value is `value`. -/
inductive Steps (name value : String) : List Char × List Char → List Char × List Char → Prop
  | substituted {done cs : List Char} {f : Directive.Found}
      (hf : Directive.find (Text.endsIn (· == '%') done) cs = some f)
      (hd : f.directive = .substitute (.direct name)) :
      Steps name value (done, cs) (done ++ f.before ++ value.toList, f.after)
  | selected {done cs : List Char} {f : Directive.Found} {wanted : Bool} {b : Directive.Block}
      (hf : Directive.find (Text.endsIn (· == '%') done) cs = some f)
      (hd : f.directive.condition? = some (.direct name, wanted))
      (hb : Directive.Block.read f.after = .ok b) :
      Steps name value (done, cs) (done ++ f.before, b.select (Setting.isTrue value == wanted))

theorem Steps.unique {value : String} {p q q' : List Char × List Char}
    (h : Steps name value p q) (h' : Steps name value p q') : q = q' := by
  cases h <;> cases h' <;> grind [Directive.condition?]

theorem Steps.find {value : String} {p q : List Char × List Char} (h : Steps name value p q) :
    ∃ f, Directive.find (Text.endsIn (· == '%') p.1) p.2 = some f ∧
      f.directive.reference? = some (.direct name) := by
  cases h with
  | substituted hf hd => exact ⟨_, hf, by rw [hd]; rfl⟩
  | selected hf hd _ => exact ⟨_, hf, Directive.reference?_of_condition? hd⟩

/-- The text of `key` goes through the given pairs and refers to one other key only, which is
finished. -/
structure Lone (s₀ : State) (key name : String) (texts : List (List Char × List Char)) :
    Prop where
  finished : name ∉ s₀.pending
  ne : name ≠ key
  start : ([], (s₀.text key).toList) ∈ texts
  refers : ∀ p ∈ texts, ∀ f, Directive.find (Text.endsIn (· == '%') p.1) p.2 = some f →
    f.directive.reference? = some (.direct name)
  steps : ∀ p ∈ texts, ∀ q, Steps name (s₀.text name) p q → q ∈ texts

theorem Lone.of_steps {p q : List Char × List Char} (hfin : name ∉ s₀.pending) (hne : name ≠ key)
    (hp : Steps name (s₀.text name) ([], (s₀.text key).toList) p)
    (hq : Steps name (s₀.text name) p q)
    (hend : Directive.find (Text.endsIn (· == '%') q.1) q.2 = none) :
    Lone s₀ key name [([], (s₀.text key).toList), p, q] := by
  refine ⟨hfin, hne, by simp, fun r hr f hf => ?_, fun r hr r' hr' => ?_⟩
  · simp only [List.mem_cons, List.not_mem_nil, or_false] at hr
    rcases hr with rfl | rfl | rfl
    · obtain ⟨g, hg, hd⟩ := hp.find
      rwa [← Option.some.inj (hg.symm.trans hf)]
    · obtain ⟨g, hg, hd⟩ := hq.find
      rwa [← Option.some.inj (hg.symm.trans hf)]
    · simp [hend] at hf
  · simp only [List.mem_cons, List.not_mem_nil, or_false] at hr
    rcases hr with rfl | rfl | rfl
    · simp [hr'.unique hp]
    · simp [hr'.unique hq]
    · obtain ⟨g, hg, -⟩ := hr'.find
      simp [hend] at hg

def Job.Lone (s₀ s : State) (key name : String) (texts : List (List Char × List Char)) :
    Job → Prop
  | .value k => k = key ∧ s = s₀.fresh ∨ k = name ∧ s = s₀.fresh.enter key
  | .rest k done cs => k = key ∧ s = s₀.fresh ∧ (done, cs) ∈ texts
  | .follow k ref => k = key ∧ s = s₀.fresh ∧ ref = .direct name
  | .demand k target => k = key ∧ s = s₀.fresh.enter key ∧ target = name

theorem Lone.follow (h : Lone s₀ key name texts) :
    Runs true prefixKey (.follow key (.direct name)) s₀.fresh (.ok (s₀.text name), s₀.fresh) := by
  have hnot : ¬(name = key ∨ name ∈ (s₀.fresh.enter key).path) := by
    rintro (he | hin)
    · exact h.ne he
    · rcases KeySet.mem_insert.1 hin with he | hin
      · exact h.ne he
      · exact KeySet.not_mem_empty _ hin
  have hrun : Runs true prefixKey (.follow key (.direct name)) s₀.fresh _ :=
    .direct (.called hnot (.stored h.finished))
  rwa [show (s₀.fresh.enter key).leave key = s₀.fresh from
    State.on_leave (KeySet.not_mem_empty key)] at hrun

theorem Lone.answer (h : Lone s₀ key name texts) {p : List Char × List Char} (hp : p ∈ texts)
    {f : Directive.Found} (hf : Directive.find (Text.endsIn (· == '%') p.1) p.2 = some f)
    {ref : Reference} (hd : f.directive.reference? = some ref) {text : String}
    (hr : Runs true prefixKey (.follow key ref) s₀.fresh (.ok text, s')) :
    ref = .direct name ∧ text = s₀.text name ∧ s' = s₀.fresh := by
  obtain rfl := Option.some.inj (hd.symm.trans (h.refers p hp f hf))
  obtain ⟨he, hs⟩ := Prod.mk.inj (hr.unique h.follow)
  exact ⟨rfl, Except.ok.inj he, hs⟩

theorem Lone.moments (h : Lone s₀ key name texts) {chain : List String} {job : Job}
    (hact : Active true prefixKey key s₀ chain job s) : job.Lone s₀ s key name texts := by
  induction hact with
  | start => exact .inl ⟨rfl, rfl⟩
  | opened _ hk ih =>
    rcases ih with ⟨rfl, rfl⟩ | ⟨rfl, rfl⟩
    · exact ⟨rfl, rfl, h.start⟩
    · exact absurd hk h.finished
  | asked _ hf hd ih =>
    obtain ⟨rfl, rfl, hp⟩ := ih
    exact ⟨rfl, rfl, Option.some.inj (hd.symm.trans (h.refers _ hp _ hf))⟩
  | substituted _ hf hd hr ih =>
    obtain ⟨rfl, rfl, hp⟩ := ih
    obtain ⟨rfl, rfl, rfl⟩ := h.answer hp hf (by rw [hd]; rfl) hr
    exact ⟨rfl, rfl, h.steps _ hp _ (.substituted hf hd)⟩
  | selected _ hf hd hr hb ih =>
    obtain ⟨rfl, rfl, hp⟩ := ih
    obtain ⟨rfl, rfl, rfl⟩ := h.answer hp hf (Directive.reference?_of_condition? hd) hr
    exact ⟨rfl, rfl, h.steps _ hp _ (.selected hf hd hb)⟩
  | direct _ ih =>
    obtain ⟨rfl, rfl, hd⟩ := ih
    cases hd
    exact ⟨rfl, rfl, rfl⟩
  | stem _ ih | indirect _ _ ih =>
    obtain ⟨-, -, hd⟩ := ih
    cases hd
  | called _ _ ih => exact .inr ⟨ih.2.2, ih.2.1⟩

theorem Lone.run_of_steps (h : Lone s₀ key name texts) {p q : List Char × List Char}
    (hs : Steps name (s₀.text name) p q) {o : Outcome}
    (hr : Runs true prefixKey (.rest key q.1 q.2) s₀.fresh o) :
    Runs true prefixKey (.rest key p.1 p.2) s₀.fresh o := by
  cases hs with
  | substituted hf hd => exact .substituted hf hd h.follow hr
  | selected hf hd hb => exact .selected hf hd h.follow hb hr

theorem Lone.substitutes (h : Lone s₀ key name texts) {text : String}
    (hs : Substitutes prefixKey key s₀ text) : text = s₀.text name := by
  obtain ⟨hact, hf, hd, hr⟩ := hs
  obtain ⟨rfl, rfl, hp⟩ := h.moments hact
  exact (h.answer hp hf (by rw [hd]; rfl) hr).2.1

theorem Lone.joins (h : Lone s₀ key name texts) {branch after : List Char}
    (hj : Joins prefixKey key s₀ branch after) :
    ∃ p ∈ texts, ∃ f wanted b, Directive.find (Text.endsIn (· == '%') p.1) p.2 = some f ∧
      f.directive.condition? = some (.direct name, wanted) ∧
      Directive.Block.read f.after = .ok b ∧
      branch = (if Setting.isTrue (s₀.text name) == wanted then b.first else b.second) ∧
      after = b.after := by
  obtain ⟨hact, hf, hd, hr, hb⟩ := hj
  obtain ⟨rfl, rfl, hp⟩ := h.moments hact
  obtain ⟨rfl, rfl, rfl⟩ := h.answer hp hf (Directive.reference?_of_condition? hd) hr
  exact ⟨_, hp, _, _, _, hf, hd, hb, rfl, rfl⟩

end lone

/-! ## The value of a key -/

/-- **Cutting and searching on is the evaluation of trees.** If the values are well-formed, no text
that is put in ends in a percent sign and no branch makes a directive with the text behind its
block, then an expansion that does not meet a self-reference comes to the value of its key, and
there is no other. In any case it fails with no other fault, and asks only for keys that the
evaluation asks for, so never for a name in a branch that is not kept. -/
theorem resolve_eq_tree (s : State) (prefixKey key : String) (hreg : Regular s prefixKey key) :
    ((∀ target within, (s.resolve prefixKey key).1 ≠ .error (.selfReference target within)) →
      ∃ text, (s.resolve prefixKey key).1 = .ok text ∧
        ∀ v, Evaluates s prefixKey (.key key) v ↔ v = text) ∧
    (∀ e, (s.resolve prefixKey key).1 = .error e →
      ∃ target within, e = .selfReference target within) ∧
    ∀ chain within target s', Active true prefixKey key s chain (.demand within target) s' →
      Consults s prefixKey (.key key) target := by
  obtain ⟨hfault, hworth, -⟩ :=
    (s.resolve_run prefixKey key).evaluates hreg Active.start (Finished.refl s).on_path trivial
  refine ⟨fun hne => ?_, hfault, fun chain within target s' h => ?_⟩
  · rcases ho : (s.resolve prefixKey key).1 with e | text
    · obtain ⟨target, within, rfl⟩ := hfault e ho
      exact absurd ho (hne target within)
    · refine ⟨text, rfl, fun v => ⟨fun hv => hv.unique (hworth text ho), ?_⟩⟩
      rintro rfl
      exact hworth _ ho
  · exact (h.consults hreg).2.2 target .key

/-- Two keys whose values hold a block: in `K` its branch makes a directive with the text behind
it, in `L` it does not. -/
def blocks : State where
  values := Table.ofList [("K", "%{?X}%{%{}X}"), ("L", "%{?X}a%{}%{X}"), ("X", "1")]
  pending := KeySet.ofList ["K", "L"]

theorem blocks_K_opens :
    Directive.find false "%{?X}%{%{}X}".toList =
      some ⟨[], .whenTrue (.direct "X"), 5, "%{%{}X}".toList⟩ ∧
    Directive.Block.read "%{%{}X}".toList = .ok ⟨['%', '{'], [], ['X', '}']⟩ :=
  ⟨by cbv, by cbv⟩

theorem blocks_L_opens :
    Directive.find false "%{?X}a%{}%{X}".toList =
      some ⟨[], .whenTrue (.direct "X"), 5, "a%{}%{X}".toList⟩ ∧
    Directive.Block.read "a%{}%{X}".toList = .ok ⟨['a'], [], "%{X}".toList⟩ :=
  ⟨by cbv, by cbv⟩

theorem blocks_K_steps : Steps "X" "1" ([], "%{?X}%{%{}X}".toList) ([], "%{X}".toList) ∧
    Steps "X" "1" ([], "%{X}".toList) (['1'], []) := by
  have hf : Directive.find (Text.endsIn (· == '%') []) "%{?X}%{%{}X}".toList = _ :=
    blocks_K_opens.1
  have hg : Directive.find (Text.endsIn (· == '%') []) "%{X}".toList =
    some ⟨[], .substitute (.direct "X"), 4, []⟩ := by cbv
  exact ⟨.selected hf rfl blocks_K_opens.2, .substituted hg rfl⟩

theorem blocks_L_steps : Steps "X" "1" ([], "%{?X}a%{}%{X}".toList) ([], "a%{X}".toList) ∧
    Steps "X" "1" ([], "a%{X}".toList) ("a1".toList, []) := by
  have hf : Directive.find (Text.endsIn (· == '%') []) "%{?X}a%{}%{X}".toList = _ :=
    blocks_L_opens.1
  have hg : Directive.find (Text.endsIn (· == '%') []) "a%{X}".toList =
    some ⟨['a'], .substitute (.direct "X"), 4, []⟩ := by cbv
  exact ⟨.selected hf rfl blocks_L_opens.2, .substituted hg rfl⟩

theorem blocks_K_lone : Lone blocks "K" "X"
    [([], "%{?X}%{%{}X}".toList), ([], "%{X}".toList), (['1'], [])] :=
  Lone.of_steps (by decide) (by decide) blocks_K_steps.1 blocks_K_steps.2 rfl

theorem blocks_L_lone : Lone blocks "L" "X"
    [([], "%{?X}a%{}%{X}".toList), ([], "a%{X}".toList), ("a1".toList, [])] :=
  Lone.of_steps (by decide) (by decide) blocks_L_steps.1 blocks_L_steps.2 rfl

theorem blocks_K_parses : Template.Parses
    (.optional [] true (.direct "X") (.text ['%', '{']) (.text ['X', '}']))
    "%{?X}%{%{}X}".toList := by
  have h : Directive.find false "%{%{}X}".toList =
    some ⟨['%', '{'], .close, 3, ['X', '}']⟩ := by cbv
  show pieces "%{?X}%{%{}X}".toList = _
  rw [Directive.pieces_of_some blocks_K_opens.1, Directive.pieces_of_some h,
    Directive.pieces_of_none rfl]
  rfl

theorem blocks_L_parses : Template.Parses (.optional [] true (.direct "X") (.text ['a'])
    (.reference [] (.direct "X") (.text []))) "%{?X}a%{}%{X}".toList := by
  have h₁ : Directive.find false "a%{}%{X}".toList =
    some ⟨['a'], .close, 3, "%{X}".toList⟩ := by cbv
  have h₂ : Directive.find false "%{X}".toList =
    some ⟨[], .substitute (.direct "X"), 4, []⟩ := by cbv
  show pieces "%{?X}a%{}%{X}".toList = _
  rw [Directive.pieces_of_some blocks_L_opens.1, Directive.pieces_of_some h₁,
    Directive.pieces_of_some h₂, Directive.pieces_of_none rfl]
  rfl

theorem blocks_parse : ∀ k ∈ blocks.pending, ∃ t : Template, t.Parses (blocks.text k).toList := by
  intro k hk
  rcases List.mem_cons.1 (show k ∈ ["L", "K"] from hk) with rfl | hk
  · exact ⟨_, blocks_L_parses⟩
  · obtain rfl := List.mem_singleton.1 hk
    exact ⟨_, blocks_K_parses⟩

/-- The values are well-formed and no text that is put in ends in a percent sign, but the branch
that is kept makes a directive with the text behind its block. -/
theorem blocks_K_expands_otherwise :
    (∀ k ∈ blocks.pending, ∃ t : Template, t.Parses (blocks.text k).toList) ∧
    (∀ text, Substitutes "VARPREFIX" "K" blocks text →
      Text.endsIn (· == '%') text.toList = false) ∧
    (blocks.resolve "VARPREFIX" "K").1 = .ok "1" ∧
    Evaluates blocks "VARPREFIX" (.key "K") "%{X}" ∧
    ¬Evaluates blocks "VARPREFIX" (.key "K") "1" := by
  have hX : Evaluates blocks "VARPREFIX" (.reference (.direct "X")) "1" :=
    .direct (.stored (by decide))
  have hb : Evaluates blocks "VARPREFIX"
    (.tree (if Setting.isTrue "1" == true then .text ['%', '{'] else .text [])) "%\x7b" := .text
  have hn : Evaluates blocks "VARPREFIX" (.tree (.text ['X', '}'])) "X\x7d" := .text
  have hv : Evaluates blocks "VARPREFIX" (.key "K") "%{X}" :=
    .expanded (by decide) blocks_K_parses (.optional hX hb hn)
  have hrun : Runs true "VARPREFIX" (.value "K") blocks.fresh
      (.ok "1", blocks.fresh.finish "K" "1") := by
    have hend : Runs true "VARPREFIX" (.rest "K" ['1'] []) blocks.fresh
        (.ok "1", blocks.fresh.finish "K" "1") := .finished rfl
    exact .expanded (by decide) (blocks_K_lone.run_of_steps blocks_K_steps.1
      (blocks_K_lone.run_of_steps blocks_K_steps.2 hend))
  refine ⟨blocks_parse, fun text ht => ?_, ?_, hv, fun h => ?_⟩
  · rw [blocks_K_lone.substitutes ht]
    decide
  · exact congrArg Prod.fst ((blocks.resolve_run "VARPREFIX" "K").unique hrun)
  · exact absurd (h.unique hv) (by decide)

theorem blocks_L_regular : Regular blocks "VARPREFIX" "L" := by
  refine ⟨blocks_parse, fun text ht => ?_, fun branch after hj => ?_⟩
  · rw [blocks_L_lone.substitutes ht]
    decide
  · obtain ⟨p, hp, f, wanted, b, hf, hd, hb, rfl, rfl⟩ := blocks_L_lone.joins hj
    simp only [List.mem_cons, List.not_mem_nil, or_false] at hp
    rcases hp with rfl | rfl | rfl
    · obtain rfl := Option.some.inj (blocks_L_opens.1.symm.trans hf)
      obtain rfl := Except.ok.inj (blocks_L_opens.2.symm.trans hb)
      cases hd
      exact Directive.seamless_percent _ _ _
    · have hg : Directive.find (Text.endsIn (· == '%') []) "a%{X}".toList =
        some ⟨['a'], .substitute (.direct "X"), 4, []⟩ := by cbv
      obtain rfl := Option.some.inj (hg.symm.trans hf)
      cases hd
    · cases hf

theorem blocks_L_expands_as_tree : ∃ text, (blocks.resolve "VARPREFIX" "L").1 = .ok text ∧
    ∀ v, Evaluates blocks "VARPREFIX" (.key "L") v ↔ v = text := by
  have hend : Runs true "VARPREFIX" (.rest "L" "a1".toList []) blocks.fresh
      (.ok "a1", blocks.fresh.finish "L" "a1") := .finished rfl
  have hrun : Runs true "VARPREFIX" (.value "L") blocks.fresh _ :=
    .expanded (by decide) (blocks_L_lone.run_of_steps blocks_L_steps.1
      (blocks_L_lone.run_of_steps blocks_L_steps.2 hend))
  have hok := (blocks.resolve_run "VARPREFIX" "L").unique hrun
  exact (resolve_eq_tree blocks "VARPREFIX" "L" blocks_L_regular).1 (by simp [hok])

end LayeredConfig.Expansion
