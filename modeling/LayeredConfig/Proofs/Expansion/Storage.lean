import LayeredConfig.Proofs.Expansion.Memory

/-!
# What calls leave in the table

A call for the values of some keys may end in a fault, and the keys that were finished before stay
finished. So after any calls a key holds the text that it had at first, or the whole text that it
comes to; no call leaves a text in which only some directives are expanded.

* `Runs.keys`: a run changes no key of the table, and not their order.
* `State.calls`: the state after calls for one key or for many, whatever they answered;
  `State.exists_after`: calls for many keys are calls for one key each, up to the first fault.
* `stored_whole_or_untouched`: what a key holds after any calls.
-/

namespace LayeredConfig.Expansion

variable {prefixKey : String} {s s₀ s' : State}

/-! ## The keys of the table -/

def State.Tabled (s : State) : Prop := ∀ k ∈ s.pending, k ∈ s.values.keys

instance (s : State) : Decidable s.Tabled :=
  inferInstanceAs (Decidable (∀ k ∈ s.pending.elems, _))

theorem Frame.tabled (h : Frame s s') (hk : s'.values.keys = s.values.keys) (hs : s.Tabled) :
    s'.Tabled :=
  fun k hp => hk ▸ hs k (h.pending k hp)

theorem State.keys_settle {key : String} (hs : s.Tabled) (hk : key ∈ s.pending) (keeps : Bool)
    (text : String) : (s.settle keeps key text).values.keys = s.values.keys := by
  cases keeps with
  | false => rfl
  | true => exact Table.keys_insert_of_mem text (hs key hk)

theorem Runs.keys {keeps : Bool} {job : Job} {o : Outcome} (h : Runs keeps prefixKey job s o)
    (hj : job.Fits s) (hs : s.Tabled) : o.2.values.keys = s.values.keys := by
  induction h with
  | stored | strayClose | strayElse | cycle => rfl
  | expanded hk _ ih => exact ih ⟨hj, hk⟩ hs
  -- the only step that writes to the table
  | finished hf => exact State.keys_settle hs hj.2 _ _
  | unanswered hf hd _ ih => exact ih hj hs
  | broken hf hd _ hb ih => exact ih hj hs
  | substituted hf hd h _ ih ihr =>
    obtain ⟨hf1, hj'⟩ := h.answered hj
    have h1 := ih hj hs
    exact (ihr hj' (hf1.tabled h1 hs)).trans h1
  | selected hf hd h hb _ ih ihr =>
    obtain ⟨hf1, hj'⟩ := h.answered hj
    have h1 := ih hj hs
    exact (ihr hj' (hf1.tabled h1 hs)).trans h1
  | direct _ ih => exact ih hj.enter hs
  | stemless _ ih => exact ih hj.enter hs
  | indirect h _ ih ihr =>
    have hf1 := (h.frame hj.enter).1
    have h1 := ih hj.enter hs
    exact (ihr (hf1.held hj.enter) (hf1.tabled h1 hs)).trans h1
  | called ht _ ih => exact ih (Job.Fits.called ht) hs

/-! ## Calls -/

/-- A call for the value of a key, or for those of many keys: the given ones, or all of the
table. -/
inductive Call where
  | one (key : String)
  | all (keys : Option (List String))

def State.call (s : State) (prefixKey : String) : Call → State
  | .one key => (s.resolve prefixKey key).2
  | .all keys => (s.resolveAll prefixKey (keys.getD s.values.keys)).2

def State.calls (s : State) (prefixKey : String) (cs : List Call) : State :=
  cs.foldl (fun s c => s.call prefixKey c) s

theorem State.after_append (s : State) (prefixKey : String) (ks js : List String) :
    s.after prefixKey (ks ++ js) = (s.after prefixKey ks).after prefixKey js :=
  List.foldl_append

theorem State.resolveAll_after (s : State) (prefixKey : String) (keys : List String) :
    ∃ ks, (s.resolveAll prefixKey keys).2 = s.after prefixKey ks := by
  induction keys generalizing s with
  | nil => exact ⟨[], rfl⟩
  | cons key keys ih =>
    rcases hr : s.resolve prefixKey key with ⟨e | text, s'⟩
    · exact ⟨[key], by simp [State.resolveAll, State.after, hr]⟩
    · obtain ⟨ks, hks⟩ := ih s'
      exact ⟨key :: ks, by simp [State.resolveAll, State.after, hr, hks]⟩

theorem State.exists_after (s : State) (prefixKey : String) (cs : List Call) :
    ∃ ks, s.calls prefixKey cs = s.after prefixKey ks := by
  induction cs generalizing s with
  | nil => exact ⟨[], rfl⟩
  | cons c cs ih =>
    have hone : ∃ ks, s.call prefixKey c = s.after prefixKey ks := by
      cases c with
      | one key => exact ⟨[key], rfl⟩
      | all keys => exact s.resolveAll_after prefixKey _
    obtain ⟨ks, hks⟩ := hone
    obtain ⟨js, hjs⟩ := ih (s.call prefixKey c)
    refine ⟨ks ++ js, ?_⟩
    rw [State.after_append, ← hks, ← hjs]
    rfl

theorem State.after_keeps (hs : s.Tabled) (prefixKey : String) (ks : List String) :
    (s.after prefixKey ks).values.keys = s.values.keys ∧
      ∀ k ∈ (s.after prefixKey ks).pending, k ∈ s.pending := by
  induction ks generalizing s with
  | nil => exact ⟨rfl, fun _ h => h⟩
  | cons key ks ih =>
    have hrun := s.resolve_run prefixKey key
    have hfit : (Job.value key).Fits s.fresh := KeySet.not_mem_empty key
    have hkeys : (s.resolve prefixKey key).2.values.keys = s.values.keys := hrun.keys hfit hs
    have hframe := (hrun.frame hfit).1
    obtain ⟨h1, h2⟩ := ih (hframe.tabled hkeys hs)
    exact ⟨h1.trans hkeys, fun k hk => hframe.pending k (h2 k hk)⟩

/-! ## What a key holds -/

/-- The key has its text still, and is pending exactly if it was. -/
def State.Untouched (s s' : State) (key : String) : Prop :=
  s'.values.get? key = s.values.get? key ∧ (key ∈ s'.pending ↔ key ∈ s.pending)

/-- The key was pending, is so no more, and holds the text that a first look-up gives. -/
def State.Completed (s : State) (prefixKey : String) (s' : State) (key : String) : Prop :=
  key ∈ s.pending ∧ key ∉ s'.pending ∧
    ∃ text, s'.values.get? key = some text ∧ (s.resolve prefixKey key).1 = .ok text

/-- In a state that remembers, every key is untouched or holds the text of a first look-up. -/
theorem Remembers.untouched_or_completed (h : Remembers prefixKey s₀ s) (key : String) :
    s₀.Untouched s key ∨ s₀.Completed prefixKey s key := by
  by_cases hp : key ∈ s.pending
  · exact .inl ⟨h.values key (.inr hp), fun _ => h.pending key hp, fun _ => hp⟩
  · by_cases h₀ : key ∈ s₀.pending
    · obtain ⟨text, hget, hplain⟩ := h.texts key h₀ hp
      have hfirst := ((Remembers.refl prefixKey s₀).resolve key).1
      have hmet := hplain KeySet.empty fun k hk => absurd hk (KeySet.not_mem_empty k)
      exact .inr ⟨h₀, hp, text, hget, hfirst.unique hmet⟩
    · exact .inl ⟨h.values key (.inl h₀), fun hk => absurd hk hp, fun hk => absurd hk h₀⟩

/-- **No text is stored half expanded.** After any calls, whether they succeeded or ended in a
fault, a key is as it was at first, or else it is no longer pending and holds the text that a look-up
of it gives at first. The keys of the table and their order are the same, and no key becomes
pending. -/
theorem stored_whole_or_untouched {s : State} (hs : s.Tabled) (prefixKey : String)
    (calls : List Call) :
    (∀ key, Xor (s.Untouched (s.calls prefixKey calls) key)
      (s.Completed prefixKey (s.calls prefixKey calls) key)) ∧
    (s.calls prefixKey calls).values.keys = s.values.keys ∧
    ∀ more, ∀ k ∈ (s.calls prefixKey (calls ++ more)).pending,
      k ∈ (s.calls prefixKey calls).pending := by
  obtain ⟨ks, hks⟩ := s.exists_after prefixKey calls
  obtain ⟨hkeys, hpending⟩ := State.after_keeps hs prefixKey ks
  refine ⟨fun key => ?_, hks ▸ hkeys, fun more k hk => ?_⟩
  · have hnot : ¬(s.Untouched (s.calls prefixKey calls) key ∧
        s.Completed prefixKey (s.calls prefixKey calls) key) := by
      rintro ⟨⟨-, hiff⟩, h₀, hn, -⟩
      exact hn (hiff.2 h₀)
    have hor := ((Remembers.refl prefixKey s).after ks).untouched_or_completed key
    rw [← hks] at hor
    rcases hor with h | h
    · exact .inl ⟨h, fun h' => hnot ⟨h, h'⟩⟩
    · exact .inr ⟨h, fun h' => hnot ⟨h', h⟩⟩
  · obtain ⟨js, hjs⟩ := (s.calls prefixKey calls).exists_after prefixKey more
    have htabled : (s.calls prefixKey calls).Tabled := by
      intro j hj
      rw [hks] at hj ⊢
      rw [hkeys]
      exact hs j (hpending j hj)
    rw [State.calls, List.foldl_append] at hk
    have hk' : k ∈ ((s.calls prefixKey calls).after prefixKey js).pending := hjs ▸ hk
    exact (State.after_keeps htabled prefixKey js).2 k hk'

/-- A key that needs itself behind a key that needs a third one. -/
def aborted : State where
  values := Table.ofList [("A", "%{C}%{A}"), ("B", "%{C}b"), ("C", "%{D}c"), ("D", "v")]
  pending := KeySet.ofList ["A", "B", "C"]

/-- The look-up of `A` ends in a fault, but `C` was finished before. -/
theorem aborted_completes_C :
    (aborted.resolve "VARPREFIX" "A").1 = .error (.selfReference "A" "A") ∧
    aborted.Completed "VARPREFIX" (aborted.calls "VARPREFIX" [.one "A"]) "C" ∧
    aborted.Untouched (aborted.calls "VARPREFIX" [.one "A"]) "A" ∧
    (aborted.calls "VARPREFIX" [.one "A", .all none]).values.keys = ["A", "B", "C", "D"] := by
  obtain ⟨hkey, -⟩ := stored_whole_or_untouched (s := aborted) (by decide) "VARPREFIX" [.one "A"]
  obtain ⟨-, hkeys, -⟩ :=
    stored_whole_or_untouched (s := aborted) (by decide) "VARPREFIX" [.one "A", .all none]
  have hpending : (aborted.calls "VARPREFIX" [.one "A"]).pending = KeySet.ofList ["A", "B"] := by
    cbv
  refine ⟨by cbv, ?_, ?_, hkeys.trans (by cbv)⟩
  · rcases hkey "C" with ⟨⟨-, hiff⟩, -⟩ | ⟨h, -⟩
    · exact absurd (hiff.2 (by decide)) (by rw [hpending]; decide)
    · exact h
  · rcases hkey "A" with ⟨h, -⟩ | ⟨⟨-, hn, -⟩, -⟩
    · exact h
    · exact absurd (by rw [hpending]; decide) hn

end LayeredConfig.Expansion
