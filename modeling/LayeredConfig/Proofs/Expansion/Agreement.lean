import LayeredConfig.Proofs.Expansion.Memory

/-!
# What an expansion depends on

An expansion looks up the texts of keys and whether they are pending. It never sees the order in
which values and pending keys came in. So from two states that look alike every key comes to the
same answer without memory, and all keys come to texts from the one exactly if they do from the
other, in whatever order they are expanded.

* `State.Agrees s t`: the same texts and the same pending keys.
* `Runs.agrees`: a run without memory can be made from the other state as well.
* `resolveAll_agrees`: so all keys come to texts from both states or from neither.
-/

namespace LayeredConfig.Expansion

variable {prefixKey : String} {s t : State}

/-- No look-up tells the values apart, and the same keys are pending. -/
structure State.Agrees (s t : State) : Prop where
  values : s.values.Agrees t.values
  pending : ∀ k, k ∈ s.pending ↔ k ∈ t.pending

theorem State.Agrees.symm (h : s.Agrees t) : t.Agrees s :=
  ⟨fun k => (h.values k).symm, fun k => (h.pending k).symm⟩

theorem State.Agrees.text (h : s.Agrees t) (key : String) : s.text key = t.text key :=
  State.text_congr (h.values key)

theorem State.Agrees.storeless {job : Job} {o : Outcome} (h : s.Agrees t)
    (hr : Runs false prefixKey job s o) : o.2.Agrees t := by
  obtain ⟨hvalues, hpending⟩ := hr.storeless
  refine ⟨?_, ?_⟩
  · rw [hvalues]
    exact h.values
  · rw [hpending]
    exact h.pending

theorem Runs.agrees {job : Job} {o : Outcome} (h : Runs false prefixKey job s o)
    (ha : s.Agrees t) : Runs false prefixKey job (t.on s.path) (o.1, t.on o.2.path) := by
  induction h with
  | @stored key s hk =>
    rw [ha.text key]
    exact .stored (mt (ha.pending key).2 hk)
  | @expanded key s o hk h ih =>
    have hrest := ih ha
    rw [ha.text key] at hrest
    exact .expanded ((ha.pending key).1 hk) hrest
  | finished hf => exact .finished hf
  | strayClose hf hd => exact .strayClose hf hd
  | strayElse hf hd => exact .strayElse hf hd
  | unanswered hf hd h ih => exact .unanswered hf hd (ih ha)
  | broken hf hd h hb ih => exact .broken hf hd (ih ha) hb
  | substituted hf hd h hr ih ihr => exact .substituted hf hd (ih ha) (ihr (ha.storeless h))
  | selected hf hd h hb hr ih ihr => exact .selected hf hd (ih ha) hb (ihr (ha.storeless h))
  -- a reference: the key joins both paths and leaves both again
  | @direct key name s s' a h ih =>
    exact Runs.direct (s := t.on s.path) (ih ⟨ha.values, ha.pending⟩)
  | @stemless key suffix s s' e h ih =>
    exact Runs.stemless (s := t.on s.path) (ih ⟨ha.values, ha.pending⟩)
  | @indirect key suffix stem s s₁ s₂ a h hr ih ihr =>
    have henter : (s.enter key).Agrees t := ⟨ha.values, ha.pending⟩
    exact Runs.indirect (s := t.on s.path) (ih henter) (ihr (henter.storeless h))
  | cycle ht => exact .cycle ht
  | called ht h ih => exact .called ht (ih ha)

theorem Plain.agrees {path : KeySet} {job : Job} {a : Except DirectiveFault String}
    (h : Plain prefixKey s path job a) (ha : s.Agrees t) : Plain prefixKey t path job a :=
  Runs.agrees h ⟨ha.values, ha.pending⟩

theorem resolveAll_agrees (ha : s.Agrees t) {ks js : List String} (hmem : ∀ k, k ∈ ks ↔ k ∈ js) :
    (s.resolveAll prefixKey ks).1 = .ok () ↔ (t.resolveAll prefixKey js).1 = .ok () := by
  rw [(Remembers.refl prefixKey s).resolveAll_ok_iff, (Remembers.refl prefixKey t).resolveAll_ok_iff]
  constructor
  · intro h k hk
    obtain ⟨text, htext⟩ := h k ((hmem k).2 hk)
    exact ⟨text, htext.agrees ha⟩
  · intro h k hk
    obtain ⟨text, htext⟩ := h k ((hmem k).1 hk)
    exact ⟨text, htext.agrees ha.symm⟩

end LayeredConfig.Expansion
