import LayeredConfig.Proofs.Layering.Closure

/-!
# What a layering depends on

A layering looks at the merged table and the environment for the keys that it ends up with, and for
no others. So two sources that give these keys the same values give the same layering.

* `discover_known`: what is known stays known.
* `discover_congr`: a search with another table that agrees on the keys known in the end.
* `build_congr`: a layering with another plan on another host.
-/

namespace LayeredConfig.Layering

variable {stems : List String} {env env' merged merged' : Table String}

theorem discover_known (stems : List String) (env merged : Table String) (tasks : List Task)
    (b : Builder) (pending : KeySet) {k : String}
    (hk : k ∈ b.known) : k ∈ (discover stems env merged tasks b pending).1.known := by
  fun_induction discover stems env merged tasks b pending with
  | case1 => exact hk
  | case2 b pending key value rest refs keys b' pending' journal heq ih =>
    rw [heq] at ih
    exact ih (mem_known_addAll.2 (.inr hk))

theorem addAll_congr {keys : List String} (b : Builder)
    (h : ∀ k ∈ keys, sourceText env' merged' k = sourceText env merged k) :
    b.addAll env' merged' keys = b.addAll env merged keys := by
  induction keys generalizing b with
  | nil => rfl
  | cons k ks ih =>
    show (b.add k _).addAll env' merged' ks = (b.add k _).addAll env merged ks
    rw [h k (by simp), ih _ fun j hj => h j (by simp [hj])]

theorem tasksOf_congr {keys : List String}
    (h : ∀ k ∈ keys, sourceText env' merged' k = sourceText env merged k) :
    tasksOf env' merged' keys = tasksOf env merged keys := by
  rw [tasksOf, tasksOf, List.map_congr_left fun k hk => by rw [h k hk]]

/-- A search reads the sources only for the keys that are known in the end. -/
theorem discover_congr (stems : List String) (tasks : List Task) (b : Builder) (pending : KeySet)
    (h : ∀ k ∈ (discover stems env merged tasks b pending).1.known,
      sourceText env' merged' k = sourceText env merged k) :
    discover stems env' merged' tasks b pending = discover stems env merged tasks b pending := by
  fun_induction discover stems env merged tasks b pending with
  | case1 => rw [discover]
  | case2 b pending key value rest refs keys b' pending' journal heq ih =>
    rw [heq] at ih
    rw [dite_eq_ite] at heq ih
    have hkeys : ∀ k ∈ keys, sourceText env' merged' k = sourceText env merged k := by
      intro k hk
      have hknown := discover_known stems env merged
        (rest ++ tasksOf env merged keys) (b.addAll env merged keys)
        (if refs.isEmpty then pending else pending.insert key) (mem_known_addAll.2 (.inl hk))
      rw [heq] at hknown
      exact h k hknown
    rw [discover]
    dsimp only
    rw [addAll_congr b hkeys, tasksOf_congr hkeys, ih h]

theorem layer_congr {settings : List Setting}
    (h : ∀ s ∈ settings, merged'.getD s.key "" = merged.getD s.key "") :
    layer settings merged' = layer settings merged := by
  rw [layer, layer, List.map_congr_left fun s hs => by rw [h s hs]]

/-- **A layering depends on the values of its own keys only.** When a layering succeeds, and another
plan on another host merges its sources to a table that gives the keys of the layering the same
values, it comes to the same settings, values and pending keys. -/
theorem build_congr {p p' : Plan} {h h' : Host} {b b' : Builder} {pending : KeySet}
    {journal : Journal} {merged' : Table String}
    (hb : build p h b = (.ok pending, b', journal)) (hstems : p'.stems = p.stems)
    (hm' : (merge p' h' b.settings).1 = .ok merged')
    (htext : ∀ k ∈ b'.values.keys, b'.values.get? k = some (sourceText h'.env merged' k)) :
    ∃ journal', build p' h' b = (.ok pending, b', journal') := by
  obtain ⟨merged, more, hm, hr⟩ := reached_of_build hb
  have hkeys : ∀ s ∈ b.settings, (merged.get? s.key).isSome := fun s hs => merge_keys hm hs
  have hsame : ∀ k ∈ b'.values.keys, sourceText h'.env merged' k = sourceText h.env merged k :=
    fun k hk => Option.some.inj ((htext k hk).symm.trans (hr.get? hkeys hk))
  have hlayer : layer b.settings merged' = layer b.settings merged := by
    refine layer_congr fun s hs => ?_
    have htable := hsame s.key (hr.mem_keys.2 (hr.mem_known.2 (.inr (List.mem_map.2 ⟨s, hs, rfl⟩))))
    obtain ⟨v, hv⟩ := Option.isSome_iff_exists.1 (hkeys s hs)
    obtain ⟨v', hv'⟩ := Option.isSome_iff_exists.1 (merge_keys hm' hs)
    simpa [sourceText, Table.getD, hv, hv'] using htable
  rcases hmerge : merge p h b.settings with ⟨e | m, j⟩ <;> rw [hmerge] at hm
  · cases hm
  obtain rfl := Except.ok.inj hm
  rcases hmerge' : merge p' h' b.settings with ⟨e | m', j'⟩ <;> rw [hmerge'] at hm'
  · cases hm'
  obtain rfl := Except.ok.inj hm'
  simp only [build, hmerge, Prod.mk.injEq, Except.ok.injEq] at hb
  obtain ⟨hpending, hbuilder, -⟩ := hb
  have hsearch := discover_congr p.stems _ (layer b.settings m) KeySet.empty fun k hk =>
    hsame k (hr.mem_keys.2 (hbuilder ▸ hk))
  simp only [build, hmerge', hstems, hlayer, hsearch, hpending, hbuilder]
  exact ⟨_, rfl⟩

end LayeredConfig.Layering
