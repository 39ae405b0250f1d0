import Mathlib.Logic.Function.Iterate
import LayeredConfig.Layering

/-!
# What a layering finds

The values are searched for references one after the other, and the search adds the keys that they
name.

* `addAll_get?`, `mem_freshKeys`: what it is to add the keys that are not known.
* `Closed`, `build_closed`: a layering of settings that refer to one another only adds no setting.
* `advance`, `build_advance`: a search taken step by step.
-/

namespace LayeredConfig

theorem Table.get?_foldl_insert {α : Type} {es : List (String × α)} {t : Table α} {k : String}
    {v : α} (h : (es.foldl (fun t e => t.insert e.1 e.2) t).get? k = some v) :
    (k, v) ∈ es ∨ t.get? k = some v := by
  induction es generalizing t with
  | nil => exact .inr h
  | cons e es ih =>
    obtain ⟨j, w⟩ := e
    rcases ih h with hm | ht
    · exact .inl (List.mem_cons_of_mem _ hm)
    · rw [Table.get?_insert] at ht
      split at ht
      · rename_i he
        cases he
        cases ht
        exact .inl List.mem_cons_self
      · exact .inr ht

theorem Table.mem_of_get?_ofList {α : Type} {es : List (String × α)} {k : String} {v : α}
    (h : (Table.ofList es).get? k = some v) : (k, v) ∈ es :=
  (Table.get?_foldl_insert h).resolve_right (by simp)

theorem KeySet.mem_ofList {ks : List String} {k : String} : k ∈ KeySet.ofList ks ↔ k ∈ ks := by
  have hfold : ∀ (ks : List String) (s : KeySet),
      k ∈ ks.foldl KeySet.insert s ↔ k ∈ ks ∨ k ∈ s := by
    intro ks
    induction ks with
    | nil => simp
    | cons j js ih =>
      intro s
      rw [List.foldl_cons, ih, KeySet.mem_insert, List.mem_cons]
      exact or_left_comm.trans or_assoc.symm
  simpa [KeySet.ofList] using hfold ks KeySet.empty

theorem Table.isSome_get?_ofList {α : Type} {es : List (String × α)} {k : String} :
    ((Table.ofList es).get? k).isSome ↔ k ∈ es.map (·.1) := by
  have hfold : ∀ (es : List (String × α)) (t : Table α),
      ((es.foldl (fun t e => t.insert e.1 e.2) t).get? k).isSome ↔
        k ∈ es.map (·.1) ∨ (t.get? k).isSome := by
    intro es
    induction es with
    | nil => simp
    | cons e es ih =>
      intro t
      rw [List.foldl_cons, ih, Table.get?_insert, List.map_cons, List.mem_cons]
      by_cases he : e.1 = k
      · simp [he]
      · simp [he, Ne.symm he]
  simpa [Table.ofList] using hfold es Table.empty

namespace Layering

/-! ## Adding keys -/

variable {env merged : Table String} {b : Builder} {pending : KeySet}

theorem addAll_get? {keys : List String} {k : String} :
    (b.addAll env merged keys).values.get? k =
      if k ∈ keys then some (sourceText env merged k) else b.values.get? k := by
  induction keys generalizing b with
  | nil => rfl
  | cons j js ih =>
    show ((b.add j _).addAll env merged js).values.get? k = _
    rw [ih]
    by_cases hk : k ∈ js
    · simp [hk]
    · by_cases he : j = k
      · simp [hk, he, Builder.add, Table.get?_insert]
      · simp [hk, he, Ne.symm he, Builder.add, Table.get?_insert]

theorem mem_freshKeys {known : KeySet} {keys : List String} {k : String} (h : k ∈ keys) :
    k ∈ known ∨ k ∈ freshKeys known keys := by
  induction keys generalizing known with
  | nil => cases h
  | cons j js ih =>
    unfold freshKeys
    rcases List.mem_cons.1 h with rfl | h
    · split
      · exact .inl ‹_›
      · exact .inr List.mem_cons_self
    · split
      · exact ih h
      · have hj : k ∈ known.insert j ∨ k ∈ freshKeys (known.insert j) js := ih h
        rcases hj with hk | hk
        · rcases KeySet.mem_insert.1 hk with rfl | hk
          · exact .inr List.mem_cons_self
          · exact .inl hk
        · exact .inr (List.mem_cons_of_mem _ hk)

theorem references_empty : Directive.references "" = [] := by
  simp [Directive.references, Directive.spans, Directive.spansFrom, Directive.find]

/-! ## Searches that add nothing -/

def mark (pending : KeySet) (t : Task) : KeySet :=
  if (Directive.references t.2).isEmpty then pending else pending.insert t.1

theorem discover_closed {stems : List String} {tasks : List Task}
    (h : ∀ t ∈ tasks, ∀ ref ∈ Directive.references t.2, ∀ k ∈ targets stems ref, k ∈ b.known) :
    discover stems env merged tasks b pending = (b, tasks.foldl mark pending, []) := by
  have hnone : ∀ keys : List String, (∀ k ∈ keys, k ∈ b.known) → freshKeys b.known keys = [] := by
    intro keys hk
    induction keys with
    | nil => rfl
    | cons j js ih =>
      rw [freshKeys, if_pos (hk j (by simp)), ih fun k hm => hk k (by simp [hm])]
  induction tasks generalizing pending with
  | nil => rw [discover]; rfl
  | cons t rest ih =>
    obtain ⟨key, value⟩ := t
    have hkeys : freshKeys b.known ((Directive.references value).flatMap (targets stems)) = [] := by
      refine hnone _ fun k hk => ?_
      obtain ⟨ref, hr, hk⟩ := List.mem_flatMap.1 hk
      exact h (key, value) (by simp) ref hr k hk
    rw [discover]
    simp only [hkeys]
    rw [show tasksOf env merged [] = [] from rfl, List.append_nil,
      show b.addAll env merged [] = b from rfl, ih fun t ht => h t (by simp [ht])]
    rfl

/-- The current values of the settings refer to known keys only. -/
def Closed (stems : List String) (b : Builder) : Prop :=
  ∀ t ∈ b.settings.map fun s => (s.key, s.current),
    ∀ ref ∈ Directive.references t.2, ∀ k ∈ targets stems ref, k ∈ b.known

instance (stems : List String) (b : Builder) : Decidable (Closed stems b) :=
  inferInstanceAs (Decidable (∀ t ∈ _, ∀ ref ∈ _, ∀ k ∈ _, _))

def Builder.referring (b : Builder) : KeySet :=
  (b.settings.map fun s => (s.key, s.current)).foldl mark KeySet.empty

theorem build_closed {p : Plan} {h : Host} {b : Builder} {merged : Table String}
    (hm : (merge p h b.settings).1 = .ok merged) (hk : Closed p.stems (layer b.settings merged)) :
    ∃ journal, build p h b =
      (.ok (layer b.settings merged).referring, layer b.settings merged, journal) := by
  rcases hmerge : merge p h b.settings with ⟨e | merged', journal⟩
  · rw [hmerge] at hm
    cases hm
  · rw [hmerge] at hm
    cases hm
    simp only [build, hmerge, discover_closed hk]
    exact ⟨_, rfl⟩

/-! ## Searches step by step -/

def advance (stems : List String) (env merged : Table String) :
    List Task × Builder × KeySet → List Task × Builder × KeySet
  | ([], b, pending) => ([], b, pending)
  | ((key, value) :: rest, b, pending) =>
    let refs := Directive.references value
    let keys := freshKeys b.known (refs.flatMap (targets stems))
    (rest ++ tasksOf env merged keys, b.addAll env merged keys,
      if refs.isEmpty then pending else pending.insert key)

theorem discover_advance {stems : List String} (n : Nat) {x : List Task × Builder × KeySet}
    (h : ((advance stems env merged)^[n] x).1 = []) :
    ∃ journal, discover stems env merged x.1 x.2.1 x.2.2 =
      (((advance stems env merged)^[n] x).2.1, ((advance stems env merged)^[n] x).2.2,
        journal) := by
  induction n generalizing x with
  | zero =>
    obtain ⟨tasks, b, pending⟩ := x
    obtain rfl : tasks = [] := h
    exact ⟨[], by rw [discover]; rfl⟩
  | succ n ih =>
    rw [Function.iterate_succ_apply] at h ⊢
    obtain ⟨journal, hj⟩ := ih h
    obtain ⟨_ | ⟨⟨key, value⟩, rest⟩, b, pending⟩ := x
    · exact ⟨journal, hj⟩
    · rw [discover]
      simp only [advance] at hj ⊢
      simp only [hj]
      exact ⟨_, rfl⟩

theorem build_advance {p : Plan} {h : Host} {b : Builder} {merged : Table String} (n : Nat)
    (hm : (merge p h b.settings).1 = .ok merged) :
    let tasks := (layer b.settings merged).settings.map fun s => (s.key, s.current)
    let found := (advance p.stems h.env merged)^[n] (tasks, layer b.settings merged, KeySet.empty)
    found.1 = [] → ∃ journal, build p h b = (.ok found.2.2, found.2.1, journal) := by
  intro tasks found hend
  obtain ⟨journal, hj⟩ := discover_advance n hend
  rcases hmerge : merge p h b.settings with ⟨e | merged', journal'⟩ <;> rw [hmerge] at hm
  · cases hm
  · obtain rfl := Except.ok.inj hm
    simp only [build, hmerge]
    rw [hj]
    exact ⟨_, rfl⟩

end Layering

end LayeredConfig
