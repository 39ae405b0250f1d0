import LayeredConfig.Proofs.Expansion.Memory

/-!
# The chain of calls

While a key is expanded, other keys are asked for, which ask for others in turn. The keys that
wait for an answer form a chain, with the one that asked last in front.

* `Active keeps prefixKey key s₀ chain job s`: in the course of expanding `key` from `s₀` a moment
  comes when `job` starts in the state `s`, with `chain` as the chain of waiting keys. With memory
  these are the moments of the code. Without memory they are those of an expansion on demand, from
  left to right, of the values as they were at first.
* `Active.standing`: at every moment the path holds the keys of the chain, which are pairwise
  distinct and pending.
* `selfReference_iff`: an expansion fails with a self-reference exactly if it comes to a moment
  when a key on the chain is asked for.
-/

namespace LayeredConfig.Expansion

variable {keeps : Bool} {prefixKey : String}

/-- A moment of the expansion of `key₀`: a job starts, and a chain of keys waits for it. The text
of the key in front is being worked on, unless the job is to find the value of a key. -/
inductive Active (keeps : Bool) (prefixKey key₀ : String) (s₀ : State) :
    List String → Job → State → Prop
  | start : Active keeps prefixKey key₀ s₀ [] (.value key₀) s₀.fresh
  | opened {chain : List String} {key : String} {s : State}
      (h : Active keeps prefixKey key₀ s₀ chain (.value key) s) (hk : key ∈ s.pending) :
      Active keeps prefixKey key₀ s₀ (key :: chain) (.rest key [] (s.text key).toList) s
  | asked {chain : List String} {key : String} {done cs : List Char} {s : State}
      {f : Directive.Found} {ref : Reference}
      (h : Active keeps prefixKey key₀ s₀ chain (.rest key done cs) s)
      (hf : Directive.find (Text.endsIn (· == '%') done) cs = some f)
      (hd : f.directive.reference? = some ref) :
      Active keeps prefixKey key₀ s₀ chain (.follow key ref) s
  | substituted {chain : List String} {key : String} {done cs : List Char} {s s' : State}
      {f : Directive.Found} {ref : Reference} {text : String}
      (h : Active keeps prefixKey key₀ s₀ chain (.rest key done cs) s)
      (hf : Directive.find (Text.endsIn (· == '%') done) cs = some f)
      (hd : f.directive = .substitute ref)
      (hr : Runs keeps prefixKey (.follow key ref) s (.ok text, s')) :
      Active keeps prefixKey key₀ s₀ chain
        (.rest key (done ++ f.before ++ text.toList) f.after) s'
  | selected {chain : List String} {key : String} {done cs : List Char} {s s' : State}
      {f : Directive.Found} {ref : Reference} {wanted : Bool} {text : String}
      {b : Directive.Block} (h : Active keeps prefixKey key₀ s₀ chain (.rest key done cs) s)
      (hf : Directive.find (Text.endsIn (· == '%') done) cs = some f)
      (hd : f.directive.condition? = some (ref, wanted))
      (hr : Runs keeps prefixKey (.follow key ref) s (.ok text, s'))
      (hb : Directive.Block.read f.after = .ok b) :
      Active keeps prefixKey key₀ s₀ chain
        (.rest key (done ++ f.before) (b.select (Setting.isTrue text == wanted))) s'
  | direct {chain : List String} {key name : String} {s : State}
      (h : Active keeps prefixKey key₀ s₀ chain (.follow key (.direct name)) s) :
      Active keeps prefixKey key₀ s₀ chain (.demand key name) (s.enter key)
  | stem {chain : List String} {key suffix : String} {s : State}
      (h : Active keeps prefixKey key₀ s₀ chain (.follow key (.indirect suffix)) s) :
      Active keeps prefixKey key₀ s₀ chain (.demand key prefixKey) (s.enter key)
  | indirect {chain : List String} {key suffix stem : String} {s s' : State}
      (h : Active keeps prefixKey key₀ s₀ chain (.follow key (.indirect suffix)) s)
      (hr : Runs keeps prefixKey (.demand key prefixKey) (s.enter key) (.ok stem, s')) :
      Active keeps prefixKey key₀ s₀ chain (.demand key (stem ++ suffix)) s'
  | called {chain : List String} {key target : String} {s : State}
      (h : Active keeps prefixKey key₀ s₀ chain (.demand key target) s)
      (ht : ¬(target = key ∨ target ∈ s.path)) :
      Active keeps prefixKey key₀ s₀ chain (.value target) s

/-! ## The path is the chain -/

/-- How a job stands to the chain that waits for it: the key it works for is in front, and is on
the path only while it asks for a value. -/
def Job.Heads (chain : List String) (path : KeySet) : Job → Prop
  | .value key => key ∉ chain ∧ ∀ k, k ∈ path ↔ k ∈ chain
  | .rest key _ _ | .follow key _ => ∃ callers, chain = key :: callers ∧ ∀ k, k ∈ path ↔ k ∈ callers
  | .demand key _ => (∃ callers, chain = key :: callers) ∧ ∀ k, k ∈ path ↔ k ∈ chain

/-- The chain holds pairwise distinct pending keys, and the path agrees with it. -/
structure Standing (chain : List String) (job : Job) (s : State) : Prop where
  nodup : chain.Nodup
  pending : ∀ k ∈ chain, k ∈ s.pending
  heads : job.Heads chain s.path

variable {chain : List String} {job : Job} {s s' : State}

theorem Standing.fits (h : Standing chain job s) : job.Fits s := by
  obtain ⟨hnd, hp, hh⟩ := h
  cases job with
  | value key => exact fun hin => hh.1 ((hh.2 key).1 hin)
  | rest key _ _ | follow key _ =>
    obtain ⟨callers, rfl, hpath⟩ := hh
    exact ⟨fun hin => (List.nodup_cons.1 hnd).1 ((hpath key).1 hin), hp key (by simp)⟩
  | demand key _ =>
    obtain ⟨⟨callers, rfl⟩, hpath⟩ := hh
    exact ⟨(hpath key).2 (by simp), hp key (by simp)⟩

theorem Standing.answered {key : String} {ref : Reference} {text : String} {done cs : List Char}
    (h : Standing chain (.follow key ref) s)
    (hr : Runs keeps prefixKey (.follow key ref) s (.ok text, s')) :
    Standing chain (.rest key done cs) s' := by
  obtain ⟨hf, -, hkey⟩ := hr.answered h.fits
  obtain ⟨callers, rfl, hpath⟩ := h.heads
  refine ⟨h.nodup, fun k hk => ?_, callers, rfl, hf.path ▸ hpath⟩
  rcases List.mem_cons.1 hk with rfl | hin
  · exact hkey
  · exact hf.kept k ((hpath k).2 hin) (h.pending k hk)

theorem Standing.enter {key : String} {ref : Reference} {target : String}
    (h : Standing chain (.follow key ref) s) :
    Standing chain (.demand key target) (s.enter key) := by
  obtain ⟨callers, rfl, hpath⟩ := h.heads
  refine ⟨h.nodup, h.pending, ⟨callers, rfl⟩, fun k => ?_⟩
  rw [State.enter, KeySet.mem_insert, hpath, List.mem_cons]

/-- At every moment the path holds the keys of the chain, distinct and pending. -/
theorem Active.standing {key₀ : String} {s₀ : State}
    (h : Active keeps prefixKey key₀ s₀ chain job s) : Standing chain job s := by
  induction h with
  | start => exact ⟨List.nodup_nil, by simp, by simp, by simp [State.fresh]⟩
  | opened _ hk ih =>
    obtain ⟨hnd, hp, hnot, hpath⟩ := ih
    refine ⟨List.nodup_cons.2 ⟨hnot, hnd⟩, fun k hin => ?_, _, rfl, hpath⟩
    rcases List.mem_cons.1 hin with rfl | hin
    · exact hk
    · exact hp k hin
  | asked _ _ _ ih => exact ⟨ih.nodup, ih.pending, ih.heads⟩
  | substituted _ _ _ hr ih => exact Standing.answered ⟨ih.nodup, ih.pending, ih.heads⟩ hr
  | selected _ _ _ hr _ ih => exact Standing.answered ⟨ih.nodup, ih.pending, ih.heads⟩ hr
  | direct _ ih | stem _ ih => exact ih.enter
  | indirect _ hr ih =>
    have hs : Standing _ (.demand _ prefixKey) _ := ih.enter
    have hf := (hr.frame hs.fits).1
    exact ⟨hs.nodup, fun k hk => hf.kept k ((hs.heads.2 k).2 hk) (hs.pending k hk), hs.heads.1,
      hf.path ▸ hs.heads.2⟩
  | called _ ht ih =>
    exact ⟨ih.nodup, ih.pending, fun hin => ht (.inr ((ih.heads.2 _).2 hin)), ih.heads.2⟩

/-! ## Every moment is part of the run -/

theorem Runs.asks {key : String} {done cs : List Char} {f : Directive.Found} {ref : Reference}
    {o : Outcome} (h : Runs keeps prefixKey (.rest key done cs) s o)
    (hf : Directive.find (Text.endsIn (· == '%') done) cs = some f)
    (hd : f.directive.reference? = some ref) :
    ∃ o', Runs keeps prefixKey (.follow key ref) s o' := by
  rcases hdir : f.directive with r | r | r | _ | _ <;> rw [hdir] at hd <;> cases hd
  · rcases h.substitute_cases hf hdir with ⟨_, _, h', -⟩ | ⟨_, _, h', -⟩ <;> exact ⟨_, h'⟩
  · have hc : f.directive.condition? = some (ref, true) := by rw [hdir]; rfl
    rcases h.condition_cases hf hc with ⟨_, _, h', -⟩ | ⟨_, _, h', -⟩ <;> exact ⟨_, h'⟩
  · have hc : f.directive.condition? = some (ref, false) := by rw [hdir]; rfl
    rcases h.condition_cases hf hc with ⟨_, _, h', -⟩ | ⟨_, _, h', -⟩ <;> exact ⟨_, h'⟩

theorem Active.ends {key₀ : String} {s₀ : State} {o : Outcome}
    (h : Active keeps prefixKey key₀ s₀ chain job s)
    (hrun : Runs keeps prefixKey (.value key₀) s₀.fresh o) :
    ∃ o', Runs keeps prefixKey job s o' := by
  induction h with
  | start => exact ⟨o, hrun⟩
  | opened _ hk ih =>
    obtain ⟨o', h'⟩ := ih
    cases h' with
    | stored hn => exact absurd hk hn
    | expanded _ h' => exact ⟨o', h'⟩
  | asked _ hf hd ih =>
    obtain ⟨o', h'⟩ := ih
    exact h'.asks hf hd
  | substituted _ hf hd hr ih =>
    obtain ⟨o', h'⟩ := ih
    rcases h'.substitute_cases hf hd with ⟨e, s₁, ha, -⟩ | ⟨text, s₁, ha, h'⟩
    · simpa using ha.unique hr
    · obtain ⟨⟨⟩, rfl⟩ := Prod.mk.inj (ha.unique hr)
      exact ⟨o', h'⟩
  | selected _ hf hd hr hb ih =>
    obtain ⟨o', h'⟩ := ih
    rcases h'.condition_cases hf hd with
      ⟨e, s₁, ha, -⟩ | ⟨text, s₁, ha, ⟨e, hb', -⟩ | ⟨b', hb', h'⟩⟩
    · simpa using ha.unique hr
    · exact absurd (hb.symm.trans hb') (by simp)
    · obtain ⟨⟨⟩, rfl⟩ := Prod.mk.inj (ha.unique hr)
      obtain rfl := Except.ok.inj (hb.symm.trans hb')
      exact ⟨o', h'⟩
  | direct _ ih =>
    obtain ⟨o', h'⟩ := ih
    obtain ⟨a, s₁, h', -⟩ := h'.direct_cases
    exact ⟨_, h'⟩
  | stem _ ih =>
    obtain ⟨o', h'⟩ := ih
    rcases h'.indirect_cases with ⟨_, _, h', -⟩ | ⟨_, _, _, _, h', -, -⟩ <;> exact ⟨_, h'⟩
  | indirect _ hr ih =>
    obtain ⟨o', h'⟩ := ih
    rcases h'.indirect_cases with ⟨e, s₁, ha, -⟩ | ⟨stem, s₁, a, s₂, ha, h', -⟩
    · simpa using ha.unique hr
    · obtain ⟨⟨⟩, rfl⟩ := Prod.mk.inj (ha.unique hr)
      exact ⟨_, h'⟩
  | called _ ht ih =>
    obtain ⟨o', h'⟩ := ih
    cases h' with
    | cycle ht' => exact absurd ht' ht
    | called _ h' => exact ⟨o', h'⟩

/-! ## A fault comes from a moment -/

theorem Active.fault {key₀ : String} {s₀ : State} {e : DirectiveFault}
    (h : Active keeps prefixKey key₀ s₀ chain job s)
    (hr : Runs keeps prefixKey job s (.error e, s')) :
    ∃ s₁, Runs keeps prefixKey (.value key₀) s₀.fresh (.error e, s₁) := by
  induction h generalizing s' with
  | start => exact ⟨_, hr⟩
  | opened _ hk ih => exact ih (.expanded hk hr)
  | asked _ hf hd ih => exact ih (.unanswered hf hd hr)
  | substituted _ hf hd ha ih => exact ih (.substituted hf hd ha hr)
  | selected _ hf hd ha hb ih => exact ih (.selected hf hd ha hb hr)
  | direct _ ih => exact ih (.direct hr)
  | stem _ ih => exact ih (.stemless hr)
  | indirect _ ha ih => exact ih (.indirect ha hr)
  | called _ ht ih => exact ih (.called ht hr)

theorem blockFault_ne_selfReference (key : String) (e : Directive.BlockFault)
    (target within : String) : blockFault key e ≠ .selfReference target within := by
  cases e <;> simp [blockFault]

/-- A self-reference is met at a moment when the key is asked for from the path. -/
theorem Active.selfReference {key₀ target within : String} {s₀ : State} {o : Outcome}
    (h : Active keeps prefixKey key₀ s₀ chain job s) (hr : Runs keeps prefixKey job s o)
    (ho : o.1 = .error (.selfReference target within)) :
    ∃ chain s', Active keeps prefixKey key₀ s₀ chain (.demand within target) s' ∧
      (target = within ∨ target ∈ s'.path) := by
  induction hr generalizing chain with
  | stored | finished | strayClose | strayElse => simp at ho
  | expanded hk _ ih => exact ih (h.opened hk) ho
  | unanswered hf hd _ ih => exact ih (h.asked hf hd) ho
  | substituted hf hd ha _ _ ihr => exact ihr (h.substituted hf hd ha) ho
  | broken => exact absurd (Except.error.inj ho) (blockFault_ne_selfReference _ _ _ _)
  | selected hf hd ha hb _ _ ihr => exact ihr (h.selected hf hd ha hb) ho
  | direct _ ih => exact ih h.direct ho
  | stemless _ ih => exact ih h.stem ho
  | indirect ha _ _ ihr => exact ihr (h.indirect ha) ho
  | cycle ht =>
    simp only [Except.error.injEq, DirectiveFault.selfReference.injEq] at ho
    obtain ⟨rfl, rfl⟩ := ho
    exact ⟨chain, _, h, ht⟩
  | called ht _ ih => exact ih (h.called ht) ho

theorem Active.mem_chain_iff {key₀ within target : String} {s₀ : State}
    (h : Active keeps prefixKey key₀ s₀ chain (.demand within target) s) :
    target = within ∨ target ∈ s.path ↔ target ∈ chain := by
  obtain ⟨-, -, ⟨callers, rfl⟩, hpath⟩ := h.standing
  rw [hpath, List.mem_cons]
  exact ⟨fun ht => ht.elim .inl id, .inr⟩

theorem selfReference_iff (s₀ : State) (prefixKey key target within : String) :
    (s₀.resolve prefixKey key).1 = .error (.selfReference target within) ↔
      ∃ chain s, Active false prefixKey key s₀ chain (.demand within target) s ∧
        target ∈ chain := by
  have hplain := ((Remembers.refl prefixKey s₀).resolve key).1
  constructor
  · intro he
    obtain ⟨chain, s, h, ht⟩ := Active.start.selfReference hplain he
    exact ⟨chain, s, h, h.mem_chain_iff.1 ht⟩
  · rintro ⟨chain, s, h, ht⟩
    obtain ⟨s₁, hr⟩ := h.fault (.cycle (h.mem_chain_iff.2 ht))
    exact congrArg Prod.fst (Runs.unique hplain hr)

/-- **An expansion ends, and fails with a self-reference exactly where it meets itself.** It is
the only outcome of its run, and more levels do not change it. The keys that wait for one another
are at every moment distinct and pending, and are the path. A self-reference is reported exactly if
the expansion of the first values, on demand and from left to right, asks for a key that waits
already. -/
theorem expansion_ends_or_meets_itself (s : State) (prefixKey key : String) :
    (∀ o, Runs true prefixKey (.value key) s.fresh o ↔ o = s.resolve prefixKey key) ∧
    (∀ n, s.pending.size ≤ n → resolve prefixKey n key s.fresh = s.resolve prefixKey key) ∧
    (∀ chain target s', Active true prefixKey key s chain (.value target) s' →
      (∃ o, Runs true prefixKey (.value target) s' o) ∧ (target :: chain).Nodup ∧
        (∀ k ∈ chain, k ∈ s'.pending) ∧ ∀ k, k ∈ s'.path ↔ k ∈ chain) ∧
    ∀ target within, (s.resolve prefixKey key).1 = .error (.selfReference target within) ↔
      ∃ chain s', Active false prefixKey key s chain (.demand within target) s' ∧
        target ∈ chain := by
  have hrun := s.resolve_run prefixKey key
  refine ⟨fun o => ⟨fun h => h.unique hrun, fun h => h ▸ hrun⟩, fun n hn => ?_, ?_,
    selfReference_iff s prefixKey key⟩
  · have hlevels : Runs true prefixKey (.value key) s.fresh (resolve prefixKey n key s.fresh) :=
      resolve_runs n key s.fresh (KeySet.not_mem_empty key)
        (Nat.le_trans s.fresh_remaining_le hn)
    exact hlevels.unique hrun
  · intro chain target s' h
    obtain ⟨hnd, hp, hnot, hpath⟩ := h.standing
    exact ⟨h.ends hrun, List.nodup_cons.2 ⟨hnot, hnd⟩, hp, hpath⟩

def loop : State where
  values := Table.ofList [("A", "a%{B}"), ("B", "%{?A}b%{}")]
  pending := KeySet.ofList ["A", "B"]

theorem loop_meets_itself :
    resolve "VARPREFIX" 9 "A" loop.fresh = loop.resolve "VARPREFIX" "A" ∧
    (∃ o, Runs true "VARPREFIX" (.value "B") (loop.fresh.enter "A") o) ∧
    ∃ chain s, Active false "VARPREFIX" "A" loop chain (.demand "B" "A") s ∧ "A" ∈ chain := by
  obtain ⟨-, hlevels, hactive, hself⟩ := expansion_ends_or_meets_itself loop "VARPREFIX" "A"
  have hfail : (loop.resolve "VARPREFIX" "A").1 = .error (.selfReference "A" "B") := by cbv
  refine ⟨hlevels 9 (by decide), ?_, (hself "A" "B").1 hfail⟩
  have hopen : Active true "VARPREFIX" "A" loop ["A"] (.rest "A" [] (loop.text "A").toList)
      loop.fresh := Active.start.opened (by decide)
  have hfind : Directive.find (Text.endsIn (· == '%') []) (loop.text "A").toList =
      some ⟨['a'], .substitute (.direct "B"), 4, []⟩ := by cbv
  have hask := (hopen.asked hfind rfl).direct
  exact (hactive ["A"] "B" _ (hask.called (by decide))).1

end LayeredConfig.Expansion
