import LayeredConfig.Proofs.Directive.Nesting
import LayeredConfig.Proofs.Expansion.Splice

/-!
# The parts of an expanded text

The text that a key comes to is put together from stretches of its own text, in which no directive
was found, and from the values that were put in for references. Neither is searched again, so a
directive that is left must stand in a value that was put in, or lie across a seam of two parts.

* `Assembles`: the parts of which an expansion puts a text together, and the blocks it cuts.
* `Plain.assembles`, `Assembles.plain`: these are the texts that expansions come to.
* `Assembles.find_eq_none_iff`: where a directive can be left.
* `Runs.clean`: if no part of any key's text makes a directive with what follows it, none is left
  at all.
* `Assembles.balanced`: a text that is gone through to its end has no stray close or `otherwise`,
  unless a seam has made or unmade a directive.
-/

namespace LayeredConfig.Expansion

open Directive (escapes escapes_append escapes_false Seamless directives stray)

variable {prefixKey : String} {s : State}

/-- A part of an expanded text, or the place where a block was cut. -/
inductive Part where
  /-- A stretch of the key's own text. -/
  | kept (cs : List Char)
  /-- A value that was put in for a reference, with the text that stood behind the reference. -/
  | inserted (value : String) (behind : List Char)
  /-- A block was cut to a branch, which was joined to the text behind the block. -/
  | cut (branch after : List Char)

def Part.text : Part → List Char
  | kept cs => cs
  | inserted value _ => value.toList
  | cut _ _ => []

def joined (parts : List Part) : List Char := parts.flatMap Part.text

@[simp] theorem joined_nil : joined [] = [] := rfl

@[simp] theorem joined_cons (p : Part) (ps : List Part) : joined (p :: ps) = p.text ++ joined ps :=
  List.flatMap_cons

/-- Behind what is done, the rest of the text of a key comes to the text of these parts. -/
inductive Assembles (prefixKey : String) (s : State) (key : String) :
    List Char → List Char → List Part → Prop
  | finished {done cs : List Char}
      (hf : Directive.find (Text.endsIn (· == '%') done) cs = none) :
      Assembles prefixKey s key done cs [.kept cs]
  | substituted {done cs : List Char} {f : Directive.Found} {ref : Reference} {value : String}
      {parts : List Part} (hf : Directive.find (Text.endsIn (· == '%') done) cs = some f)
      (hd : f.directive = .substitute ref)
      (hr : Plain prefixKey s KeySet.empty (.follow key ref) (.ok value))
      (h : Assembles prefixKey s key (done ++ f.before ++ value.toList) f.after parts) :
      Assembles prefixKey s key done cs (.kept f.before :: .inserted value f.after :: parts)
  | selected {done cs : List Char} {f : Directive.Found} {ref : Reference} {wanted : Bool}
      {text : String} {b : Directive.Block} {parts : List Part}
      (hf : Directive.find (Text.endsIn (· == '%') done) cs = some f)
      (hd : f.directive.condition? = some (ref, wanted))
      (hr : Plain prefixKey s KeySet.empty (.follow key ref) (.ok text))
      (hb : Directive.Block.read f.after = .ok b)
      (h : Assembles prefixKey s key (done ++ f.before)
        (b.select (Setting.isTrue text == wanted)) parts) :
      Assembles prefixKey s key done cs
        (.kept f.before :: .cut (b.branch (Setting.isTrue text == wanted)) b.after :: parts)

/-- No directive begins in a part and ends behind it. -/
def Tight : Bool → List Part → Prop
  | _, [] => True
  | e, p :: ps => Seamless e p.text (joined ps) ∧ Tight (escapes e p.text) ps

def InsertsClean (parts : List Part) : Prop :=
  ∀ value behind, .inserted value behind ∈ parts → Directive.find false value.toList = none

/-- No seam makes or unmakes a directive in the text that is gone through: a value that ends in a
percent sign is not put in front of a directive, and a branch makes none with the text behind its
block. -/
structure Steady (parts : List Part) : Prop where
  inserted : ∀ value behind, .inserted value behind ∈ parts →
    Text.endsIn (· == '%') value.toList = true → Directive.read? behind = none
  cut : ∀ branch after, .cut branch after ∈ parts → Seamless false branch after

theorem Steady.tail {p : Part} {ps : List Part} (h : Steady (p :: ps)) : Steady ps :=
  ⟨fun v b hm => h.inserted v b (List.mem_cons_of_mem _ hm),
    fun b a hm => h.cut b a (List.mem_cons_of_mem _ hm)⟩

variable {key : String} {done cs : List Char} {parts : List Part}

/-! ## Texts and parts -/

theorem Plain.assembles {text : String} (hk : key ∈ s.pending)
    (h : Plain prefixKey s KeySet.empty (.rest key done cs) (.ok text)) :
    ∃ parts, Assembles prefixKey s key done cs parts ∧
      text = String.ofList (done ++ joined parts) := by
  have hj : ∀ {done cs : List Char}, (Job.rest key done cs).Fits (s.on KeySet.empty) :=
    ⟨KeySet.not_mem_empty key, hk⟩
  induction hn : cs.length using Nat.strongRecOn generalizing done cs with
  | _ n ih =>
  rcases h.rest_cases hj with
    ⟨hf, rfl⟩ | ⟨f, hf, ⟨ref, t, hd, ha, hr⟩ | ⟨ref, wanted, t, b, hd, ha, hb, hr⟩⟩
  · exact ⟨_, .finished hf, by simp [Part.text]⟩
  · obtain ⟨parts, hp, rfl⟩ := ih _ (hn ▸ Directive.find_length hf) hr rfl
    exact ⟨_, .substituted hf hd ha hp, by simp [Part.text]⟩
  · have hlt := Nat.lt_trans (Directive.Block.select_length hb (Setting.isTrue t == wanted))
      (Directive.find_length hf)
    obtain ⟨parts, hp, rfl⟩ := ih _ (hn ▸ hlt) hr rfl
    exact ⟨_, .selected hf hd ha hb hp, by simp [Part.text]⟩

theorem Assembles.plain (h : Assembles prefixKey s key done cs parts) :
    Plain prefixKey s KeySet.empty (.rest key done cs)
      (.ok (String.ofList (done ++ joined parts))) := by
  induction h with
  | @finished done cs hf =>
    rw [show done ++ joined [.kept cs] = done ++ cs by simp [Part.text]]
    exact Runs.finished hf
  | substituted hf hd hr _ ih =>
    refine Runs.substituted hf hd hr ?_
    simpa [Part.text] using ih
  | selected hf hd hr hb _ ih =>
    refine Runs.selected hf hd hr hb ?_
    simpa [Part.text] using ih

/-! ## What is left -/

theorem insertsClean_kept {cs : List Char} {ps : List Part} :
    InsertsClean (.kept cs :: ps) ↔ InsertsClean ps := by
  simp [InsertsClean]

theorem insertsClean_cut {branch after : List Char} {ps : List Part} :
    InsertsClean (.cut branch after :: ps) ↔ InsertsClean ps := by
  simp [InsertsClean]

theorem insertsClean_inserted {value : String} {behind : List Char} {ps : List Part} :
    InsertsClean (.inserted value behind :: ps) ↔
      Directive.find false value.toList = none ∧ InsertsClean ps := by
  simp [InsertsClean, forall_and, or_imp]

/-- A directive is left exactly in a value that was put in, or across a seam. -/
theorem Assembles.find_eq_none_iff (h : Assembles prefixKey s key done cs parts) :
    Directive.find (escapes false done) (joined parts) = none ↔
      Tight (escapes false done) parts ∧ InsertsClean parts := by
  induction h with
  | @finished done cs hf =>
    rw [← escapes_false] at hf
    have hend : Seamless (escapes false done) cs [] := fun _ _ _ _ _ _ _ _ => Nat.zero_le _
    simp [Part.text, hf, Tight, hend, InsertsClean]
  | @substituted done cs f ref value parts hf hd hr _ ih =>
    rw [← escapes_false] at hf
    obtain ⟨m, -, -, -, hn, he⟩ := Directive.find_marks hf
    rw [escapes_append, escapes_append, he] at ih
    rw [joined_cons, joined_cons, insertsClean_kept, insertsClean_inserted, Tight, Tight]
    simp only [Part.text, Directive.find_append_eq_none_iff, he, joined_cons]
    tauto
  | @selected done cs f ref wanted text b parts hf hd hr hb _ ih =>
    rw [← escapes_false] at hf
    obtain ⟨m, -, -, -, hn, he⟩ := Directive.find_marks hf
    rw [escapes_append, he] at ih
    rw [joined_cons, joined_cons, insertsClean_kept, insertsClean_cut, Tight, Tight]
    have hnil : Seamless false [] (joined parts) := fun us vs hx hv =>
      absurd (List.append_eq_nil_iff.1 hx.symm).2 hv
    simp only [Part.text, Directive.find_append_eq_none_iff, he, joined_cons, List.nil_append]
    rw [show escapes false [] = false from rfl]
    tauto

/-- What is known of the text that a job comes to: nothing is found in it, or of a rest, in the
values that were put in. -/
def Job.Clean (prefixKey : String) (s₀ : State) (text : String) : Job → Prop
  | .rest key done cs => ∃ parts, Assembles prefixKey s₀ key done cs parts ∧
      text = String.ofList (done ++ joined parts) ∧ InsertsClean parts
  | .value _ | .follow _ _ | .demand _ _ => Directive.find false text.toList = none

theorem Runs.off_path {path : KeySet} {job : Job} {o : Outcome} {text : String}
    (h : Runs false prefixKey job (s.on path) o) (hj : job.Fits (s.on path))
    (hfit : job.Fits (s.on KeySet.empty)) (ho : o.1 = .ok text) :
    Plain prefixKey s KeySet.empty job (.ok text) :=
  h.shrink ho hj (fun k hk => absurd hk (KeySet.not_mem_empty k)) hfit

/-- If nothing is found in the texts that are not pending, and no part of a pending one makes a
directive with what follows it, then nothing is found in the texts that jobs come to. -/
theorem Runs.clean {s₀ : State} {job : Job} {o : Outcome} {text : String}
    (h : Runs false prefixKey job s o) (hs : ∃ path, s = s₀.on path) (hj : job.Fits s)
    (hstored : ∀ k, k ∉ s₀.pending → Directive.find false (s₀.text k).toList = none)
    (htight : ∀ k ∈ s₀.pending, ∀ parts,
      Assembles prefixKey s₀ k [] (s₀.text k).toList parts → Tight false parts)
    (ho : o.1 = .ok text) : job.Clean prefixKey s₀ text := by
  induction h generalizing text with
  | stored hk =>
    obtain ⟨path, rfl⟩ := hs
    obtain rfl := Except.ok.inj ho
    exact hstored _ hk
  | expanded hk _ ih =>
    obtain ⟨parts, hp, rfl, hclean⟩ := ih hs ⟨hj, hk⟩ ho
    obtain ⟨path, rfl⟩ := hs
    have hnone := hp.find_eq_none_iff.2 ⟨htight _ hk parts hp, hclean⟩
    rwa [Job.Clean, String.toList_ofList]
  | finished hf =>
    obtain rfl := Except.ok.inj ho
    exact ⟨_, .finished hf, by simp [Part.text], by simp [InsertsClean]⟩
  | strayClose | strayElse | unanswered | broken | stemless | cycle => cases ho
  -- a value that is put in is what a part of the run comes to
  | substituted hf hd h hr ih ihr =>
    have hvalue := ih hs hj rfl
    obtain rfl : _ = _ := h.plain hj
    obtain ⟨parts, hp, rfl, hclean⟩ := ihr hs hj ho
    obtain ⟨path, rfl⟩ := hs
    have hfollow := h.off_path hj ⟨KeySet.not_mem_empty _, hj.2⟩ rfl
    refine ⟨_, .substituted hf hd hfollow hp, by simp [Part.text], ?_⟩
    exact insertsClean_kept.2 (insertsClean_inserted.2 ⟨hvalue, hclean⟩)
  | selected hf hd h hb hr ih ihr =>
    obtain rfl : _ = _ := h.plain hj
    obtain ⟨parts, hp, rfl, hclean⟩ := ihr hs hj ho
    obtain ⟨path, rfl⟩ := hs
    have hfollow := h.off_path hj ⟨KeySet.not_mem_empty _, hj.2⟩ rfl
    refine ⟨_, .selected hf hd hfollow hb hp, by simp [Part.text], ?_⟩
    exact insertsClean_kept.2 (insertsClean_cut.2 hclean)
  | direct h ih =>
    obtain ⟨path, rfl⟩ := hs
    exact ih ⟨_, rfl⟩ hj.enter ho
  | indirect h hr ih ihr =>
    obtain rfl : _ = _ := h.plain hj.enter
    obtain ⟨path, rfl⟩ := hs
    exact ihr ⟨_, rfl⟩ hj.enter ho
  | called ht _ ih => exact ih hs (Job.Fits.called ht) ho

/-! ## Stray ends -/

theorem Assembles.balanced (h : Assembles prefixKey s key done cs parts) (hp : Steady parts)
    (hdone : escapes false done = false ∨ Directive.read? cs = none) :
    stray 0 (directives cs) = false := by
  -- the search goes on as it would in the rest alone
  have hfind : ∀ {done cs : List Char} {found : Option Directive.Found},
      escapes false done = false ∨ Directive.read? cs = none →
      Directive.find (Text.endsIn (· == '%') done) cs = found → Directive.find false cs = found := by
    rintro done cs found (he | hr) hf <;> rw [← escapes_false] at hf
    · rwa [he] at hf
    · rwa [Directive.find_of_read?_none hr] at hf
  have hbefore : ∀ {done cs : List Char} {f : Directive.Found},
      Directive.find (Text.endsIn (· == '%') done) cs = some f →
      escapes false (done ++ f.before) = false := by
    intro done cs f hf
    rw [← escapes_false] at hf
    obtain ⟨m, -, -, he, -⟩ := Directive.find_local hf
    rw [escapes_append, he]
  induction h with
  | finished hf => rw [Directive.directives_of_none (hfind hdone hf), stray]
  | @substituted done cs f ref value parts hf hd hr _ ih =>
    rw [Directive.directives_of_some (hfind hdone hf), hd]
    refine ih hp.tail.tail ?_
    rw [escapes_append, hbefore hf]
    cases hv : escapes false value.toList with
    | false => exact .inl rfl
    | true => exact .inr (hp.inserted value f.after (by simp) (escapes_false _ ▸ hv))
  | @selected done cs f ref wanted text b parts hf hd hr hb _ ih =>
    have hnests := Directive.Block.read_nests hb
    have hrest := ih hp.tail.tail (.inl (hbefore hf))
    rw [Directive.Block.select_eq] at hrest
    have hjoin := Directive.directives_append (hnests.plain (Setting.isTrue text == wanted))
      (hp.cut _ b.after (by simp))
    calc stray 0 (directives cs)
        = stray 1 (directives f.after) := by
          rw [Directive.directives_of_some (hfind hdone hf), eq_condition hd,
            Directive.stray_condition]
      _ = stray 0 (directives b.after) := hnests.depth 0
      _ = stray 0 (directives (b.branch (Setting.isTrue text == wanted) ++ b.after)) := by
          rw [hjoin, (hnests.closes _).skip]
      _ = false := hrest

end LayeredConfig.Expansion
