import LayeredConfig.Proofs.Expansion.Storage
import LayeredConfig.Proofs.Expansion.Cycle

/-!
# What an expansion reads and writes

An expansion asks for the texts of keys and whether they are pending; which keys these are is only
found out on the way. A second state that answers these questions in the same way leads to the same
expansion: to the same text or fault, and to the same texts stored for the same keys.

* `LooksUp prefixKey key s k`: in the course of expanding `key` from `s`, the key `k` is looked up.
* `State.write`: the texts that are stored, one after the other.
* `State.AgreesOn`: two states tell the same of some keys; storing the same texts keeps that.
* `Traced`, `Runs.traced`: what a run reads and writes, and that it can be made from every state
  that agrees on what it reads.
* `LooksUp.transfer`: from such a state the same keys are looked up.
* `resolve_footprint`: the two together, for the expansion of a key on a fresh path.
-/

namespace LayeredConfig.Expansion

variable {prefixKey key key₀ : String} {s s' s₀ t : State} {chain : List String} {job : Job}

def LooksUp (prefixKey key : String) (s : State) (k : String) : Prop :=
  ∃ chain s', Active true prefixKey key s chain (.value k) s'

theorem Active.looksUp {k : String} {done cs : List Char}
    (h : Active true prefixKey key₀ s₀ chain (.rest k done cs) s) :
    LooksUp prefixKey key₀ s₀ k := by
  generalize hj : Job.rest k done cs = job at h
  induction h generalizing k done cs with
  | opened h _ =>
    cases hj
    exact ⟨_, _, h⟩
  | substituted _ _ _ _ ih | selected _ _ _ _ _ ih =>
    cases hj
    exact ih rfl
  | _ => cases hj

/-! ## Writing -/

def State.write (s : State) (ws : List (String × String)) : State :=
  ws.foldl (fun s w => s.finish w.1 w.2) s

theorem State.write_append (s : State) (ws vs : List (String × String)) :
    s.write (ws ++ vs) = (s.write ws).write vs := List.foldl_append

theorem State.write_path (s : State) (ws : List (String × String)) :
    (s.write ws).path = s.path := by
  induction ws generalizing s with
  | nil => rfl
  | cons w ws ih => exact ih (s.finish w.1 w.2)

theorem State.write_enter (s : State) (ws : List (String × String)) (key : String) :
    (s.enter key).write ws = (s.write ws).enter key := by
  induction ws generalizing s with
  | nil => rfl
  | cons w ws ih => exact ih (s.finish w.1 w.2)

theorem State.write_leave {ws : List (String × String)} (hk : key ∉ s.path) :
    ((s.enter key).write ws).leave key = s.write ws := by
  have hpath : (s.write ws).path = s.path := s.write_path ws
  rw [State.write_enter]
  show { s.write ws with path := ((s.write ws).path.insert key).erase key } = _
  rw [KeySet.erase_insert (hpath ▸ hk)]

theorem State.mem_pending_write {ws : List (String × String)} {k : String} :
    k ∈ (s.write ws).pending ↔ k ∈ s.pending ∧ k ∉ ws.map (·.1) := by
  induction ws generalizing s with
  | nil => exact ⟨fun h => ⟨h, List.not_mem_nil⟩, And.left⟩
  | cons w ws ih =>
    have hstep : k ∈ (s.write (w :: ws)).pending ↔ _ := ih (s := s.finish w.1 w.2)
    rw [hstep, State.finish, KeySet.mem_erase, List.map_cons, List.mem_cons, not_or, and_assoc]

theorem State.get?_write {ws : List (String × String)} {k : String} (hk : k ∉ ws.map (·.1)) :
    (s.write ws).values.get? k = s.values.get? k := by
  induction ws generalizing s with
  | nil => rfl
  | cons w ws ih =>
    rw [List.map_cons, List.mem_cons, not_or] at hk
    have hstep : (s.write (w :: ws)).values.get? k = _ := ih (s := s.finish w.1 w.2) hk.2
    rw [hstep, State.finish, Table.get?_insert, if_neg (Ne.symm hk.1)]

theorem State.untouched_write {ws : List (String × String)} {k : String} (hk : k ∉ ws.map (·.1)) :
    s.Untouched (s.write ws) k :=
  ⟨State.get?_write hk, State.mem_pending_write.trans (and_iff_left hk)⟩

/-! ## Agreeing on some keys -/

/-- The states hold the same texts for the keys of `ks`, and the same of these keys are pending. -/
structure State.AgreesOn (ks : String → Prop) (s t : State) : Prop where
  text : ∀ k, ks k → s.text k = t.text k
  pending : ∀ k, ks k → (k ∈ s.pending ↔ k ∈ t.pending)

theorem State.AgreesOn.symm {ks : String → Prop} (h : s.AgreesOn ks t) : t.AgreesOn ks s :=
  ⟨fun k hk => (h.text k hk).symm, fun k hk => (h.pending k hk).symm⟩

theorem State.AgreesOn.mono {ks js : String → Prop} (h : s.AgreesOn ks t) (hj : ∀ k, js k → ks k) :
    s.AgreesOn js t :=
  ⟨fun k hk => h.text k (hj k hk), fun k hk => h.pending k (hj k hk)⟩

theorem State.AgreesOn.finish {ks : String → Prop} (h : s.AgreesOn ks t) (key text : String) :
    (s.finish key text).AgreesOn ks (t.finish key text) := by
  refine ⟨fun k hk => ?_, fun k hk => ?_⟩
  · have hold := h.text k hk
    simp only [State.text, State.finish, Table.getD, Table.get?_insert] at hold ⊢
    by_cases he : key = k
    · rw [if_pos he, if_pos he]
    · rw [if_neg he, if_neg he, hold]
  · simp only [State.finish, KeySet.mem_erase, h.pending k hk]

theorem State.AgreesOn.write {ks : String → Prop} (h : s.AgreesOn ks t)
    (ws : List (String × String)) : (s.write ws).AgreesOn ks (t.write ws) := by
  induction ws generalizing s t with
  | nil => exact h
  | cons w ws ih => exact ih (h.finish w.1 w.2)

/-! ## What a run reads and writes -/

/-- A run stores the texts `ws`, each for one pending key that it looks up, and looks up the keys
`ks`. It can be made from every state that agrees on these, with the same answer and the same texts
stored. -/
structure Traced (prefixKey : String) (job : Job) (s : State) (o : Outcome)
    (ws : List (String × String)) (ks : List String) : Prop where
  state : o.2 = s.write ws
  written : ∀ w ∈ ws, w.1 ∈ ks ∧ w.1 ∈ s.pending
  nodup : (ws.map (·.1)).Nodup
  moves : ∀ t, t.path = s.path → s.AgreesOn (· ∈ ks) t → Runs true prefixKey job t (o.1, t.write ws)
  looked : ∀ {key₀ s₀ chain}, Active true prefixKey key₀ s₀ chain job s →
    ∀ k ∈ ks, LooksUp prefixKey key₀ s₀ k

section traced
variable {job₁ job₂ : Job} {o o₁ : Outcome} {ws ws₁ ws₂ : List (String × String)}
  {ks ks₁ ks₂ : List String}

theorem Traced.still {a : Except DirectiveFault String}
    (hruns : ∀ t : State, t.path = s.path → Runs true prefixKey job t (a, t)) :
    Traced prefixKey job s (a, s) [] [] where
  state := rfl
  written _ hw := absurd hw List.not_mem_nil
  nodup := List.nodup_nil
  moves t ht _ := hruns t ht
  looked _ _ hk := absurd hk List.not_mem_nil

theorem Traced.single (h : Traced prefixKey job₁ s o ws ks)
    (hruns : ∀ {t : State} {t' : State}, t.path = s.path →
      Runs true prefixKey job₁ t (o.1, t') → Runs true prefixKey job t (o.1, t'))
    (hactive : ∀ {key₀ s₀ chain}, Active true prefixKey key₀ s₀ chain job s →
      Active true prefixKey key₀ s₀ chain job₁ s) :
    Traced prefixKey job s o ws ks where
  state := h.state
  written := h.written
  nodup := h.nodup
  moves t ht ha := hruns ht (h.moves t ht ha)
  looked hact := h.looked (hactive hact)

theorem Traced.nodup_append (h₁ : Traced prefixKey job₁ s o₁ ws₁ ks₁)
    (h₂ : Traced prefixKey job₂ o₁.2 o ws₂ ks₂) : ((ws₁ ++ ws₂).map (·.1)).Nodup := by
  rw [List.map_append]
  refine List.nodup_append'.2 ⟨h₁.nodup, h₂.nodup, fun k hk hk' => ?_⟩
  -- what was written is no longer pending
  obtain ⟨w, hw, rfl⟩ := List.mem_map.1 hk'
  have hpending := (h₂.written w hw).2
  rw [h₁.state, State.mem_pending_write] at hpending
  exact hpending.2 hk

theorem Traced.written_append (h₁ : Traced prefixKey job₁ s o₁ ws₁ ks₁)
    (h₂ : Traced prefixKey job₂ o₁.2 o ws₂ ks₂) :
    ∀ w ∈ ws₁ ++ ws₂, w.1 ∈ ks₁ ++ ks₂ ∧ w.1 ∈ s.pending := by
  intro w hw
  rcases List.mem_append.1 hw with hw | hw
  · exact ⟨List.mem_append_left _ (h₁.written w hw).1, (h₁.written w hw).2⟩
  · obtain ⟨hk, hpending⟩ := h₂.written w hw
    rw [h₁.state, State.mem_pending_write] at hpending
    exact ⟨List.mem_append_right _ hk, hpending.1⟩

theorem Traced.moves_append (h₁ : Traced prefixKey job₁ s o₁ ws₁ ks₁)
    (h₂ : Traced prefixKey job₂ o₁.2 o ws₂ ks₂) (ht : t.path = s.path)
    (ha : s.AgreesOn (· ∈ ks₁ ++ ks₂) t) :
    Runs true prefixKey job₁ t (o₁.1, t.write ws₁) ∧
      Runs true prefixKey job₂ (t.write ws₁) (o.1, t.write (ws₁ ++ ws₂)) := by
  refine ⟨h₁.moves t ht (ha.mono fun k hk => List.mem_append_left _ hk), ?_⟩
  rw [State.write_append]
  refine h₂.moves _ ?_ ?_
  · rw [h₁.state, State.write_path, State.write_path, ht]
  · rw [h₁.state]
    exact (ha.write ws₁).mono fun k hk => List.mem_append_right _ hk

theorem Traced.seq (h₁ : Traced prefixKey job₁ s o₁ ws₁ ks₁)
    (h₂ : Traced prefixKey job₂ o₁.2 o ws₂ ks₂)
    (hruns : ∀ {t t₁ t₂ : State}, Runs true prefixKey job₁ t (o₁.1, t₁) →
      Runs true prefixKey job₂ t₁ (o.1, t₂) → Runs true prefixKey job t (o.1, t₂))
    (hactive₁ : ∀ {key₀ s₀ chain}, Active true prefixKey key₀ s₀ chain job s →
      Active true prefixKey key₀ s₀ chain job₁ s)
    (hactive₂ : ∀ {key₀ s₀ chain}, Active true prefixKey key₀ s₀ chain job s →
      Active true prefixKey key₀ s₀ chain job₂ o₁.2) :
    Traced prefixKey job s o (ws₁ ++ ws₂) (ks₁ ++ ks₂) where
  state := by rw [h₂.state, h₁.state, State.write_append]
  written := h₁.written_append h₂
  nodup := h₁.nodup_append h₂
  moves t ht ha := by
    obtain ⟨hr₁, hr₂⟩ := h₁.moves_append h₂ ht ha
    exact hruns hr₁ hr₂
  looked hact k hk := by
    rcases List.mem_append.1 hk with hk | hk
    · exact h₁.looked (hactive₁ hact) k hk
    · exact h₂.looked (hactive₂ hact) k hk

end traced

theorem Traced.finished {k : String} {done cs : List Char}
    (hf : Directive.find (Text.endsIn (· == '%') done) cs = none) (hk : k ∈ s.pending) :
    Traced prefixKey (.rest k done cs) s
      (.ok (String.ofList (done ++ cs)), s.settle true k (String.ofList (done ++ cs)))
      [(k, String.ofList (done ++ cs))] [k] where
  state := rfl
  written w hw := by
    obtain rfl := List.mem_singleton.1 hw
    exact ⟨List.mem_singleton.2 rfl, hk⟩
  nodup := List.nodup_singleton _
  moves t _ _ := .finished hf
  looked hact j hj := by
    obtain rfl := List.mem_singleton.1 hj
    exact hact.looksUp

theorem Traced.expanded {k : String} {o : Outcome} {ws : List (String × String)} {ks : List String}
    (hk : k ∈ s.pending) (h : Traced prefixKey (.rest k [] (s.text k).toList) s o ws ks) :
    Traced prefixKey (.value k) s o ws (k :: ks) where
  state := h.state
  written w hw := ⟨List.mem_cons_of_mem _ (h.written w hw).1, (h.written w hw).2⟩
  nodup := h.nodup
  moves t ht ha := by
    have hrest := h.moves t ht (ha.mono fun j hj => List.mem_cons_of_mem _ hj)
    rw [ha.text k List.mem_cons_self] at hrest
    exact .expanded ((ha.pending k List.mem_cons_self).1 hk) hrest
  looked hact j hj := by
    rcases List.mem_cons.1 hj with rfl | hj
    · exact ⟨_, _, hact⟩
    · exact h.looked (hact.opened hk) j hj

theorem Traced.stored {k : String} (hk : k ∉ s.pending) :
    Traced prefixKey (.value k) s (.ok (s.text k), s) [] [k] where
  state := rfl
  written _ hw := absurd hw List.not_mem_nil
  nodup := List.nodup_nil
  moves t _ ha := by
    rw [ha.text k (List.mem_singleton.2 rfl)]
    exact .stored (mt (ha.pending k (List.mem_singleton.2 rfl)).2 hk)
  looked hact j hj := by
    obtain rfl := List.mem_singleton.1 hj
    exact ⟨_, _, hact⟩

theorem State.AgreesOn.enter {ks : String → Prop} (h : s.AgreesOn ks t) (key : String) :
    (s.enter key).AgreesOn ks (t.enter key) := ⟨h.text, h.pending⟩

theorem Runs.traced {o : Outcome} (h : Runs true prefixKey job s o) (hj : job.Fits s) :
    ∃ ws ks, Traced prefixKey job s o ws ks := by
  induction h with
  | stored hk => exact ⟨_, _, .stored hk⟩
  | expanded hk _ ih =>
    obtain ⟨ws, ks, h⟩ := ih ⟨hj, hk⟩
    exact ⟨ws, _, .expanded hk h⟩
  | finished hf => exact ⟨_, _, .finished hf hj.2⟩
  | strayClose hf hd => exact ⟨_, _, .still fun t _ => .strayClose hf hd⟩
  | strayElse hf hd => exact ⟨_, _, .still fun t _ => .strayElse hf hd⟩
  | unanswered hf hd _ ih =>
    obtain ⟨ws, ks, h⟩ := ih hj
    exact ⟨ws, ks, h.single (fun _ hr => .unanswered hf hd hr) fun hact => hact.asked hf hd⟩
  | substituted hf hd ha _ ih ihr =>
    obtain ⟨-, hpath, hkey⟩ := ha.answered hj
    obtain ⟨ws₁, ks₁, h₁⟩ := ih hj
    obtain ⟨ws₂, ks₂, h₂⟩ := ihr ⟨hpath, hkey⟩
    exact ⟨_, _, h₁.seq h₂ (fun hr hr' => .substituted hf hd hr hr')
      (fun hact => hact.asked hf (by rw [hd]; rfl)) fun hact => hact.substituted hf hd ha⟩
  | @broken k done cs s s' f ref wanted text e hf hd ha hb ih =>
    obtain ⟨ws, ks, h⟩ := ih hj
    exact ⟨ws, ks, h.state, h.written, h.nodup,
      fun t ht hagree => .broken hf hd (h.moves t ht hagree) hb,
      fun hact => h.looked (hact.asked hf (Directive.reference?_of_condition? hd))⟩
  | selected hf hd ha hb _ ih ihr =>
    obtain ⟨-, hpath, hkey⟩ := ha.answered hj
    obtain ⟨ws₁, ks₁, h₁⟩ := ih hj
    obtain ⟨ws₂, ks₂, h₂⟩ := ihr ⟨hpath, hkey⟩
    exact ⟨_, _, h₁.seq h₂ (fun hr hr' => .selected hf hd hr hb hr')
      (fun hact => hact.asked hf (Directive.reference?_of_condition? hd))
      fun hact => hact.selected hf hd ha hb⟩
  -- a reference: the key joins the path, and leaves it again
  | @direct k name s s' a h ih =>
    obtain ⟨ws, ks, h⟩ := ih hj.enter
    refine ⟨ws, ks, ?_, h.written, h.nodup, fun t ht hagree => ?_, fun hact => h.looked hact.direct⟩
    · show s'.leave k = _
      rw [show s' = _ from h.state, State.write_leave hj.1]
    · have hmove := h.moves (t.enter k) (by simp only [State.enter, ht]) (hagree.enter k)
      rw [← State.write_leave (ht ▸ hj.1)]
      exact .direct hmove
  | @stemless k suffix s s' e h ih =>
    obtain ⟨ws, ks, h⟩ := ih hj.enter
    refine ⟨ws, ks, ?_, h.written, h.nodup, fun t ht hagree => ?_, fun hact => h.looked hact.stem⟩
    · show s'.leave k = _
      rw [show s' = _ from h.state, State.write_leave hj.1]
    · have hmove := h.moves (t.enter k) (by simp only [State.enter, ht]) (hagree.enter k)
      rw [← State.write_leave (ht ▸ hj.1)]
      exact .stemless hmove
  | @indirect k suffix stem s s₁ s₂ a hr _ ih ihr =>
    have hheld := (hr.frame hj.enter).1.held hj.enter
    obtain ⟨ws₁, ks₁, h₁⟩ := ih hj.enter
    obtain ⟨ws₂, ks₂, h₂⟩ := ihr hheld
    refine ⟨ws₁ ++ ws₂, ks₁ ++ ks₂, ?_, h₁.written_append h₂, h₁.nodup_append h₂,
      fun t ht hagree => ?_, fun hact j hj' => ?_⟩
    · show s₂.leave k = _
      rw [show s₂ = _ from h₂.state, show s₁ = _ from h₁.state, ← State.write_append,
        State.write_leave hj.1]
    · obtain ⟨hmove, hmove'⟩ := h₁.moves_append h₂ (t := t.enter k)
        (by simp only [State.enter, ht]) (hagree.enter k)
      rw [← State.write_leave (ht ▸ hj.1)]
      exact .indirect hmove hmove'
    · rcases List.mem_append.1 hj' with hj' | hj'
      · exact h₁.looked hact.stem j hj'
      · exact h₂.looked (hact.indirect hr) j hj'
  | cycle ht => exact ⟨_, _, .still fun t hpath => .cycle (hpath ▸ ht)⟩
  | called ht _ ih =>
    obtain ⟨ws, ks, h⟩ := ih (Job.Fits.called ht)
    exact ⟨ws, ks, h.single (fun hpath hr => .called (hpath ▸ ht) hr) fun hact => hact.called ht⟩

/-! ## The same keys are looked up -/

/-- A moment that is met from both states, with the same path: they still agree on what is looked
up from the first. -/
def Mirrored (prefixKey key : String) (s : State) (chain : List String) (job : Job) (t' : State) :
    Prop :=
  ∃ s', Active true prefixKey key s chain job s' ∧ t'.path = s'.path ∧
    s'.AgreesOn (LooksUp prefixKey key s) t'

theorem Active.follows {s' t' t'' : State} {a : Except DirectiveFault String}
    (h : Active true prefixKey key s chain job s') (hpath : t'.path = s'.path)
    (ha : s'.AgreesOn (LooksUp prefixKey key s) t') (hr : Runs true prefixKey job t' (a, t'')) :
    ∃ s'', Runs true prefixKey job s' (a, s'') ∧ t''.path = s''.path ∧
      s''.AgreesOn (LooksUp prefixKey key s) t'' := by
  obtain ⟨⟨a', s''⟩, hrun⟩ := h.ends (s.resolve_run prefixKey key)
  obtain ⟨ws, ks, htraced⟩ := hrun.traced h.standing.fits
  have hmove := htraced.moves t' hpath (ha.mono (htraced.looked h))
  obtain ⟨rfl, rfl⟩ := Prod.mk.inj (hmove.unique hr)
  refine ⟨s'', hrun, ?_, ?_⟩
  · rw [State.write_path, hpath, show s'' = _ from htraced.state, State.write_path]
  · rw [show s'' = _ from htraced.state]
    exact ha.write ws

/-- Every moment from a state that agrees on what is looked up is a moment from the first state. -/
theorem Active.mirrored {t' : State} (ha : s.AgreesOn (LooksUp prefixKey key s) t)
    (h : Active true prefixKey key t chain job t') : Mirrored prefixKey key s chain job t' := by
  induction h with
  | start => exact ⟨_, .start, rfl, ha.text, ha.pending⟩
  | @opened chain k t' _ hk ih =>
    obtain ⟨s', hact, hpath, hagree⟩ := ih
    have hlooked : LooksUp prefixKey key s k := ⟨_, _, hact⟩
    have hopened := hact.opened ((hagree.pending k hlooked).2 hk)
    rw [hagree.text k hlooked] at hopened
    exact ⟨s', hopened, hpath, hagree⟩
  | asked _ hf hd ih =>
    obtain ⟨s', hact, hpath, hagree⟩ := ih
    exact ⟨s', hact.asked hf hd, hpath, hagree⟩
  | substituted _ hf hd hr ih =>
    obtain ⟨s', hact, hpath, hagree⟩ := ih
    obtain ⟨s'', hrun, hpath', hagree'⟩ :=
      (hact.asked hf (by rw [hd]; rfl)).follows hpath hagree hr
    exact ⟨s'', hact.substituted hf hd hrun, hpath', hagree'⟩
  | selected _ hf hd hr hb ih =>
    obtain ⟨s', hact, hpath, hagree⟩ := ih
    obtain ⟨s'', hrun, hpath', hagree'⟩ :=
      (hact.asked hf (Directive.reference?_of_condition? hd)).follows hpath hagree hr
    exact ⟨s'', hact.selected hf hd hrun hb, hpath', hagree'⟩
  | direct _ ih =>
    obtain ⟨s', hact, hpath, hagree⟩ := ih
    exact ⟨_, hact.direct, by simp only [State.enter, hpath], hagree.enter _⟩
  | stem _ ih =>
    obtain ⟨s', hact, hpath, hagree⟩ := ih
    exact ⟨_, hact.stem, by simp only [State.enter, hpath], hagree.enter _⟩
  | indirect _ hr ih =>
    obtain ⟨s', hact, hpath, hagree⟩ := ih
    obtain ⟨s'', hrun, hpath', hagree'⟩ :=
      hact.stem.follows (by simp only [State.enter, hpath]) (hagree.enter _) hr
    exact ⟨s'', hact.indirect hrun, hpath', hagree'⟩
  | called _ ht ih =>
    obtain ⟨s', hact, hpath, hagree⟩ := ih
    exact ⟨s', hact.called (hpath ▸ ht), hpath, hagree⟩

theorem LooksUp.transfer {k : String} (ha : s.AgreesOn (LooksUp prefixKey key s) t)
    (h : LooksUp prefixKey key t k) : LooksUp prefixKey key s k := by
  obtain ⟨chain, t', hact⟩ := h
  obtain ⟨s', hact', -, -⟩ := hact.mirrored ha
  exact ⟨chain, s', hact'⟩

theorem looksUp_iff {k : String} (ha : s.AgreesOn (LooksUp prefixKey key s) t) :
    LooksUp prefixKey key t k ↔ LooksUp prefixKey key s k := by
  refine ⟨LooksUp.transfer ha, ?_⟩
  exact LooksUp.transfer (ha.symm.mono fun j hj => LooksUp.transfer ha hj)

/-! ## Footprints -/

theorem resolve_traced (s : State) (prefixKey key : String) : ∃ ws : List (String × String),
    (ws.map (·.1)).Nodup ∧ (∀ w ∈ ws, LooksUp prefixKey key s w.1 ∧ w.1 ∈ s.pending) ∧
      ∀ t, s.AgreesOn (LooksUp prefixKey key s) t →
        t.resolve prefixKey key = ((s.resolve prefixKey key).1, t.fresh.write ws) := by
  have hstart : Active true prefixKey key s [] (.value key) s.fresh := .start
  obtain ⟨ws, ks, h⟩ := (s.resolve_run prefixKey key).traced hstart.standing.fits
  refine ⟨ws, h.nodup, fun w hw => ⟨h.looked hstart _ (h.written w hw).1, (h.written w hw).2⟩, ?_⟩
  intro t ha
  have hagree : s.fresh.AgreesOn (LooksUp prefixKey key s) t.fresh := ⟨ha.text, ha.pending⟩
  exact (t.resolve_run prefixKey key).unique
    (h.moves t.fresh rfl (hagree.mono (h.looked hstart)))

theorem untouched_of_not_looksUp {k : String} (hk : ¬LooksUp prefixKey key s k) :
    s.Untouched (s.resolve prefixKey key).2 k := by
  obtain ⟨ws, -, hwritten, hresolve⟩ := resolve_traced s prefixKey key
  rw [hresolve s ⟨fun _ _ => rfl, fun _ _ => Iff.rfl⟩]
  refine State.untouched_write (s := s.fresh) fun hin => ?_
  obtain ⟨w, hw, rfl⟩ := List.mem_map.1 hin
  exact hk (hwritten w hw).1

/-- **An expansion depends on what it looks up, and touches nothing else.** Of two states that agree
on the keys that are looked up from the first, the expansion of a key comes to the same text or
fault, looks up the same keys and stores the same texts for some of them. Every other key is left
alone. So a key that is not looked up may hold any text and be pending or not. -/
theorem resolve_footprint {prefixKey key : String} {s t : State}
    (ha : s.AgreesOn (LooksUp prefixKey key s) t) :
    (t.resolve prefixKey key).1 = (s.resolve prefixKey key).1 ∧
    (∀ k, LooksUp prefixKey key t k ↔ LooksUp prefixKey key s k) ∧
    (∃ ws : List (String × String), (ws.map (·.1)).Nodup ∧
      (∀ w ∈ ws, LooksUp prefixKey key s w.1 ∧ w.1 ∈ s.pending ∧ w.1 ∈ t.pending) ∧
      (s.resolve prefixKey key).2 = s.fresh.write ws ∧
      (t.resolve prefixKey key).2 = t.fresh.write ws) ∧
    (∀ k, ¬LooksUp prefixKey key s k →
      s.Untouched (s.resolve prefixKey key).2 k ∧ t.Untouched (t.resolve prefixKey key).2 k) ∧
    ∀ k, ¬LooksUp prefixKey key s k → ∀ u : State,
      (∀ j, j ≠ k → u.text j = s.text j ∧ (j ∈ u.pending ↔ j ∈ s.pending)) →
      (u.resolve prefixKey key).1 = (s.resolve prefixKey key).1 := by
  obtain ⟨ws, hnodup, hwritten, hresolve⟩ := resolve_traced s prefixKey key
  have hs := hresolve s ⟨fun _ _ => rfl, fun _ _ => Iff.rfl⟩
  have ht := hresolve t ha
  refine ⟨by rw [ht], fun k => looksUp_iff ha, ?_, fun k hk => ?_, fun k hk u hu => ?_⟩
  · refine ⟨ws, hnodup, fun w hw => ?_, congrArg Prod.snd hs, congrArg Prod.snd ht⟩
    obtain ⟨hlooked, hpending⟩ := hwritten w hw
    exact ⟨hlooked, hpending, (ha.pending _ hlooked).1 hpending⟩
  · exact ⟨untouched_of_not_looksUp hk, untouched_of_not_looksUp (mt (looksUp_iff ha).1 hk)⟩
  · have hagree : s.AgreesOn (LooksUp prefixKey key s) u := by
      have hne : ∀ j, LooksUp prefixKey key s j → j ≠ k := fun j hj he => hk (he ▸ hj)
      exact ⟨fun j hj => (hu j (hne j hj)).1.symm, fun j hj => (hu j (hne j hj)).2.symm⟩
    rw [hresolve u hagree]

/-- A key that refers to another in a branch that is not kept; the text of the other is `y`. -/
def forked (y : String) : State where
  values := Table.ofList [("K", "%\x7b?X\x7d%\x7bY\x7d%\x7b\x7dok"), ("X", "no"), ("Y", y)]
  pending := KeySet.ofList ["K", "Y"]

section forked
variable {y : String}

theorem forked_find : Directive.find (Text.endsIn (· == '%') [])
    "%\x7b?X\x7d%\x7bY\x7d%\x7b\x7dok".toList =
      some ⟨[], .whenTrue (.direct "X"), 5, "%\x7bY\x7d%\x7b\x7dok".toList⟩ := by decide

theorem forked_read : Directive.Block.read "%\x7bY\x7d%\x7b\x7dok".toList =
    .ok ⟨"%\x7bY\x7d".toList, [], "ok".toList⟩ := by cbv

theorem forked_find_none :
    Directive.find (Text.endsIn (· == '%') []) "ok".toList = none := by decide

theorem forked_not_pending : "X" ∉ ((forked y).fresh.enter "K").pending := by
  show "X" ∉ KeySet.ofList ["K", "Y"]
  decide

theorem forked_follow : Runs true "VARPREFIX" (.follow "K" (.direct "X")) (forked y).fresh
    (.ok "no", (forked y).fresh) := by
  have hpath : ¬("X" = "K" ∨ "X" ∈ KeySet.empty.insert "K") := by decide
  have hdemand : Runs true "VARPREFIX" (.demand "K" "X") ((forked y).fresh.enter "K")
      (.ok "no", (forked y).fresh.enter "K") := .called hpath (.stored forked_not_pending)
  have hdirect := Runs.direct hdemand
  exact hdirect

theorem forked_resolve : ((forked y).resolve "VARPREFIX" "K").1 = .ok "ok" := by
  have hpending : "K" ∈ (forked y).fresh.pending := by
    show "K" ∈ KeySet.ofList ["K", "Y"]
    decide
  have hrest : Runs true "VARPREFIX" (.rest "K" [] ("ok".toList)) (forked y).fresh _ :=
    .finished forked_find_none
  have hrun := Runs.expanded hpending (.selected forked_find rfl forked_follow forked_read hrest)
  exact congrArg Prod.fst (((forked y).resolve_run "VARPREFIX" "K").unique hrun)

theorem forked_active {s : State}
    (h : Active true "VARPREFIX" "K" (forked y) chain job s) :
    (job = .value "K" ∧ s = (forked y).fresh) ∨
    (job = .rest "K" [] "%\x7b?X\x7d%\x7bY\x7d%\x7b\x7dok".toList ∧ s = (forked y).fresh) ∨
    (job = .follow "K" (.direct "X") ∧ s = (forked y).fresh) ∨
    (job = .demand "K" "X" ∧ s = (forked y).fresh.enter "K") ∨
    (job = .value "X" ∧ s = (forked y).fresh.enter "K") ∨
    (job = .rest "K" [] "ok".toList ∧ s = (forked y).fresh) := by
  induction h with
  | start => exact .inl ⟨rfl, rfl⟩
  | opened _ hk ih =>
    simp only [Job.value.injEq, reduceCtorEq, false_and, false_or, or_false] at ih
    rcases ih with ⟨rfl, rfl⟩ | ⟨rfl, rfl⟩
    · exact .inr (.inl ⟨rfl, rfl⟩)
    · exact absurd hk forked_not_pending
  | asked _ hf hd ih =>
    simp only [Job.rest.injEq, reduceCtorEq, false_and, false_or] at ih
    rcases ih with ⟨⟨rfl, rfl, rfl⟩, rfl⟩ | ⟨⟨rfl, rfl, rfl⟩, rfl⟩
    · obtain rfl := Option.some.inj (forked_find.symm.trans hf)
      obtain rfl := Option.some.inj hd
      exact .inr (.inr (.inl ⟨rfl, rfl⟩))
    · cases forked_find_none.symm.trans hf
  | substituted _ hf hd _ ih =>
    simp only [Job.rest.injEq, reduceCtorEq, false_and, false_or] at ih
    rcases ih with ⟨⟨rfl, rfl, rfl⟩, rfl⟩ | ⟨⟨rfl, rfl, rfl⟩, rfl⟩
    · obtain rfl := Option.some.inj (forked_find.symm.trans hf)
      cases hd
    · cases forked_find_none.symm.trans hf
  | selected _ hf hd hr hb ih =>
    simp only [Job.rest.injEq, reduceCtorEq, false_and, false_or] at ih
    rcases ih with ⟨⟨rfl, rfl, rfl⟩, rfl⟩ | ⟨⟨rfl, rfl, rfl⟩, rfl⟩
    · obtain rfl := Option.some.inj (forked_find.symm.trans hf)
      obtain ⟨rfl, rfl⟩ := Prod.mk.inj (Option.some.inj hd)
      obtain ⟨htext, rfl⟩ := Prod.mk.inj (hr.unique forked_follow)
      obtain rfl := Except.ok.inj htext
      obtain rfl := Except.ok.inj (forked_read.symm.trans hb)
      exact .inr (.inr (.inr (.inr (.inr ⟨rfl, rfl⟩))))
    · cases forked_find_none.symm.trans hf
  | direct _ ih =>
    simp only [Job.follow.injEq, reduceCtorEq, false_and, false_or, or_false] at ih
    obtain ⟨⟨rfl, href⟩, rfl⟩ := ih
    obtain rfl := Reference.direct.inj href
    exact .inr (.inr (.inr (.inl ⟨rfl, rfl⟩)))
  | stem _ ih | indirect _ _ ih =>
    simp at ih
  | called _ _ ih =>
    simp only [Job.demand.injEq, reduceCtorEq, false_and, false_or, or_false] at ih
    obtain ⟨⟨rfl, rfl⟩, rfl⟩ := ih
    exact .inr (.inr (.inr (.inr (.inl ⟨rfl, rfl⟩))))

theorem forked_looksUp {k : String} (h : LooksUp "VARPREFIX" "K" (forked y) k) :
    k = "K" ∨ k = "X" := by
  obtain ⟨chain, s, h⟩ := h
  have hmoment := forked_active h
  simp only [Job.value.injEq, reduceCtorEq, false_and, false_or, or_false] at hmoment
  exact hmoment.imp And.left And.left

end forked

/-- The key of the other branch may be well-formed or refer to the key that is expanded. -/
theorem forked_ignores_Y :
    ((forked "%\x7bK\x7d").resolve "VARPREFIX" "K").1 = .ok "ok" ∧
    (forked "%\x7bK\x7d").Untouched ((forked "%\x7bK\x7d").resolve "VARPREFIX" "K").2 "Y" := by
  have hagree : (forked "y").AgreesOn (LooksUp "VARPREFIX" "K" (forked "y"))
      (forked "%\x7bK\x7d") := by
    refine ⟨fun k hk => ?_, fun k hk => Iff.rfl⟩
    rcases forked_looksUp hk with rfl | rfl <;> decide
  obtain ⟨hsame, -, -, hleft, -⟩ := resolve_footprint hagree
  have hY : ¬LooksUp "VARPREFIX" "K" (forked "y") "Y" := fun h => by
    rcases forked_looksUp h with h | h <;> revert h <;> decide
  exact ⟨hsame.trans forked_resolve, (hleft "Y" hY).2⟩

end LayeredConfig.Expansion
