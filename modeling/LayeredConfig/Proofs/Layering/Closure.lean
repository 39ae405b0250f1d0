import Mathlib.Order.Bounds.Basic
import LayeredConfig.Proofs.Layering.Merging

/-!
# The search finds the least closure

A search for references starts from the settings of the table and ends with a set of keys that is
closed under reference. It adds no key that another closed set could do without, so the set is the
least one.

* `ClosedUnder stems text S`: what the texts of the keys in `S` refer to is in `S`.
* `Builder.InOrder`: the values have the keys of the settings, in the order of first occurrence.
* `Reached`: the state of a search. The keys that were added are in every closed set over the table,
  and what the text of a known key refers to is known unless the text is still a task.
* `Reached.step`, `discover_reached`: one task keeps this, and so does the search.
* `build_least_closure`: so a layering has the keys of the least closure.

The search is a function, so it ends on every table: a task brings new tasks only for keys that get
a text from some source, and each of these keys is added once.
-/

namespace LayeredConfig.Layering

/-- The keys that the texts of the set refer to are in the set. -/
def ClosedUnder (stems : List String) (text : String → String) (S : Set String) : Prop :=
  ∀ k ∈ S, ∀ ref ∈ Directive.references (text k), ∀ n ∈ targets stems ref, n ∈ S

variable {stems : List String} {env merged : Table String} {b₀ b : Builder} {pending : KeySet}

/-! ## Adding keys -/

theorem addAll_append (ks js : List String) :
    b.addAll env merged (ks ++ js) = (b.addAll env merged ks).addAll env merged js :=
  List.foldl_append

theorem addAll_settings_eq (keys : List String) :
    (b.addAll env merged keys).settings =
      b.settings ++ keys.map fun k => Setting.adHoc k (sourceText env merged k) := by
  induction keys generalizing b with
  | nil => simp [Builder.addAll]
  | cons j js ih =>
    show ((b.add j _).addAll env merged js).settings = _
    rw [ih]
    simp [Builder.add]

theorem mem_of_freshKeys {known : KeySet} {keys : List String} {k : String}
    (h : k ∈ freshKeys known keys) : k ∈ keys := by
  induction keys generalizing known with
  | nil => cases h
  | cons j js ih =>
    unfold freshKeys at h
    split at h
    · exact List.mem_cons_of_mem _ (ih h)
    · rcases List.mem_cons.1 h with rfl | h
      · exact List.mem_cons_self
      · exact List.mem_cons_of_mem _ (ih h)

theorem nodup_freshKeys (known : KeySet) (keys : List String) : (freshKeys known keys).Nodup := by
  induction keys generalizing known with
  | nil => exact List.nodup_nil
  | cons j js ih =>
    unfold freshKeys
    split
    · exact ih known
    · refine List.nodup_cons.2 ⟨fun hj => ?_, ih _⟩
      exact not_mem_of_freshKeys hj (KeySet.mem_insert.2 (.inl rfl))

theorem adHoc_eq (key value : String) :
    Setting.adHoc key value = ⟨key, .adHoc, "", value, "", value⟩ := by
  by_cases hv : value = "" <;> simp [Setting.adHoc, Setting.make, Setting.orElse, hv]

theorem adHoc_key (key value : String) : (Setting.adHoc key value).key = key := by
  rw [adHoc_eq]

/-- The values of a builder have the keys of its settings, in the order in which they first occur. -/
def Builder.InOrder (b : Builder) : Prop :=
  b.values.keys = (b.settings.map (·.key)).eraseDups

theorem Builder.InOrder.addAll (h : b.InOrder) (keys : List String) :
    (b.addAll env merged keys).InOrder := by
  induction keys generalizing b with
  | nil => exact h
  | cons j js ih =>
    show ((b.add j (sourceText env merged j)).addAll env merged js).InOrder
    apply ih
    unfold InOrder at h ⊢
    rw [Builder.add, Table.keys_insert h, List.map_append, List.map_cons, adHoc_key]
    rfl

theorem Builder.InOrder.mem_keys (h : b.InOrder) {k : String} :
    k ∈ b.values.keys ↔ ∃ s ∈ b.settings, s.key = k := by
  rw [h, List.mem_eraseDups, List.mem_map]

theorem layer_inOrder (settings : List Setting) (merged : Table String) :
    (layer settings merged).InOrder := by
  unfold Builder.InOrder layer
  rw [Table.keys_ofList, List.map_map]
  rfl

/-! ## The search -/

/-- The state of a search that started from `b₀` and has added some keys. -/
structure Reached (stems : List String) (env merged : Table String) (b₀ b : Builder)
    (pending : KeySet) (tasks : List Task) (added : List String) : Prop where
  builder : b = b₀.addAll env merged added
  nodup : added.Nodup
  fresh : ∀ k ∈ added, k ∉ b₀.known
  least : ∀ S : Set String, (∀ k ∈ b₀.known, k ∈ S) →
    ClosedUnder stems (sourceText env merged) S → ∀ k ∈ added, k ∈ S
  work : ∀ t ∈ tasks, t.1 ∈ b.known ∧ t.2 = sourceText env merged t.1
  refers : ∀ k ∈ pending, k ∈ b.known ∧ Directive.references (sourceText env merged k) ≠ []
  searched : ∀ k ∈ b.known, (k, sourceText env merged k) ∈ tasks ∨
    (Directive.references (sourceText env merged k) ≠ [] → k ∈ pending) ∧
      ∀ ref ∈ Directive.references (sourceText env merged k), ∀ n ∈ targets stems ref, n ∈ b.known

theorem Reached.known {tasks : List Task} {added : List String}
    (h : Reached stems env merged b₀ b pending tasks added) {S : Set String}
    (h₀ : ∀ k ∈ b₀.known, k ∈ S) (hS : ClosedUnder stems (sourceText env merged) S) {k : String}
    (hk : k ∈ b.known) : k ∈ S := by
  rw [h.builder, mem_known_addAll] at hk
  exact hk.elim (h.least S h₀ hS k) (h₀ k)

theorem Reached.step {key value : String} {rest : List Task} {added : List String}
    (h : Reached stems env merged b₀ b pending ((key, value) :: rest) added) :
    let refs := Directive.references value
    let keys := freshKeys b.known (refs.flatMap (targets stems))
    Reached stems env merged b₀ (b.addAll env merged keys)
      (if refs.isEmpty then pending else pending.insert key) (rest ++ tasksOf env merged keys)
      (added ++ keys) := by
  intro refs keys
  obtain ⟨hkey, hvalue⟩ := h.work (key, value) List.mem_cons_self
  have hmore : ∀ k ∈ b.known, k ∈ (b.addAll env merged keys).known := fun k hk =>
    mem_known_addAll.2 (.inr hk)
  have hnamed : ∀ k ∈ keys, ∃ ref ∈ refs, k ∈ targets stems ref := fun k hk =>
    List.mem_flatMap.1 (mem_of_freshKeys hk)
  have hnew : ∀ k ∈ keys, k ∉ b.known := fun k hk => not_mem_of_freshKeys hk
  refine ⟨?_, ?_, ?_, ?_, ?_, ?_, ?_⟩
  · rw [addAll_append, ← h.builder]
  · refine List.nodup_append.2 ⟨h.nodup, nodup_freshKeys _ _, fun k hk j hj he => hnew j hj ?_⟩
    rw [h.builder, ← he]
    exact mem_known_addAll.2 (.inl hk)
  · intro k hk
    rcases List.mem_append.1 hk with hk | hk
    · exact h.fresh k hk
    · rw [h.builder] at hnew
      exact fun hk₀ => hnew k hk (mem_known_addAll.2 (.inr hk₀))
  · intro S h₀ hS k hk
    rcases List.mem_append.1 hk with hk | hk
    · exact h.least S h₀ hS k hk
    · obtain ⟨ref, hr, hn⟩ := hnamed k hk
      exact hS key (h.known h₀ hS hkey) ref (hvalue ▸ hr) k hn
  · intro t ht
    rcases List.mem_append.1 ht with ht | ht
    · obtain ⟨h1, h2⟩ := h.work t (List.mem_cons_of_mem _ ht)
      exact ⟨hmore _ h1, h2⟩
    · obtain ⟨k, hk, rfl⟩ := List.mem_map.1 (List.mem_filter.1 ht).1
      exact ⟨mem_known_addAll.2 (.inl hk), rfl⟩
  · intro k hk
    have hold : k ∈ pending → k ∈ (b.addAll env merged keys).known ∧
        Directive.references (sourceText env merged k) ≠ [] := fun hp =>
      ⟨hmore k (h.refers k hp).1, (h.refers k hp).2⟩
    split at hk
    · exact hold hk
    · rename_i hne
      rcases KeySet.mem_insert.1 hk with rfl | hk
      · exact ⟨hmore _ hkey, hvalue ▸ by simpa [refs] using hne⟩
      · exact hold hk
  · intro k hk
    rcases mem_known_addAll.1 hk with hk | hk
    · -- a key that was added: its text is a task, unless it is empty and so refers to nothing
      by_cases hempty : sourceText env merged k = ""
      · right
        simp only [hempty, references_empty, ne_eq, not_true_eq_false, false_implies,
          List.not_mem_nil, implies_true, and_self]
      · left
        refine List.mem_append_right _ (List.mem_filter.2 ⟨?_, by simpa using hempty⟩)
        exact List.mem_map.2 ⟨k, hk, rfl⟩
    · rcases h.searched k hk with ht | ⟨hp, hn⟩
      · rcases List.mem_cons.1 ht with he | ht
        · obtain ⟨rfl, rfl⟩ := Prod.mk.inj he
          refine .inr ⟨fun hne => ?_, fun ref hr n hn => ?_⟩
          · rw [if_neg (by simpa [refs] using hne)]
            exact KeySet.mem_insert.2 (.inl rfl)
          · have hmem : n ∈ refs.flatMap (targets stems) := List.mem_flatMap.2 ⟨ref, hr, hn⟩
            exact mem_known_addAll.2 (mem_freshKeys hmem).symm
        · exact .inl (List.mem_append_left _ ht)
      · refine .inr ⟨fun hne => ?_, fun ref hr n hn' => hmore n (hn ref hr n hn')⟩
        split
        · exact hp hne
        · exact KeySet.mem_insert.2 (.inr (hp hne))

theorem discover_reached {tasks : List Task}
    (h : ∃ added, Reached stems env merged b₀ b pending tasks added) :
    ∃ added, Reached stems env merged b₀ (discover stems env merged tasks b pending).1
      (discover stems env merged tasks b pending).2.1 [] added := by
  fun_induction discover stems env merged tasks b pending with
  | case1 b pending => exact h
  | case2 b pending key value rest refs keys b' pending' journal heq ih =>
    rw [heq] at ih
    obtain ⟨added, h⟩ := h
    exact ih ⟨_, h.step⟩

/-! ## The table -/

def layered (env merged : Table String) (settings : List Setting) : List Setting :=
  settings.map fun s => s.layer (sourceText env merged s.key)

theorem layer_eq (env : Table String) {settings : List Setting}
    (hm : ∀ s ∈ settings, (merged.get? s.key).isSome) :
    (layer settings merged).settings = layered env merged settings := by
  refine List.map_congr_left fun s hs => ?_
  obtain ⟨v, hv⟩ := Option.isSome_iff_exists.1 (hm s hs)
  simp [sourceText, Table.getD, hv]

theorem layer_known {settings : List Setting} {k : String} :
    k ∈ (layer settings merged).known ↔ k ∈ settings.map (·.key) := by
  simp only [layer, KeySet.mem_ofList, List.map_map]
  rfl

theorem layer_get? (env : Table String) {settings : List Setting}
    (hm : ∀ s ∈ settings, (merged.get? s.key).isSome) {k : String} (hk : k ∈ settings.map (·.key)) :
    (layer settings merged).values.get? k = some (sourceText env merged k) := by
  have hsome : ((layer settings merged).values.get? k).isSome := by
    rw [layer, Table.isSome_get?_ofList, List.map_map, List.map_map]
    exact hk
  obtain ⟨v, hv⟩ := Option.isSome_iff_exists.1 hsome
  obtain ⟨s, hs, he⟩ := List.mem_map.1 (Table.mem_of_get?_ofList hv)
  have hs' : s ∈ (layer settings merged).settings := hs
  rw [layer_eq env hm] at hs'
  obtain ⟨s', -, rfl⟩ := List.mem_map.1 hs'
  obtain ⟨rfl, rfl⟩ := Prod.mk.inj he
  exact hv

theorem layer_reached (stems : List String) (env : Table String) {settings : List Setting}
    (hm : ∀ s ∈ settings, (merged.get? s.key).isSome) :
    Reached stems env merged (layer settings merged) (layer settings merged) KeySet.empty
      ((layer settings merged).settings.map fun s => (s.key, s.current)) [] := by
  have htask : ∀ k ∈ settings.map (·.key), (k, sourceText env merged k) ∈
      (layer settings merged).settings.map fun s => (s.key, s.current) := by
    intro k hk
    obtain ⟨s, hs, rfl⟩ := List.mem_map.1 hk
    rw [layer_eq env hm, layered, List.map_map]
    exact List.mem_map.2 ⟨s, hs, rfl⟩
  refine ⟨rfl, List.nodup_nil, by simp, by simp, fun t ht => ?_, by simp, fun k hk => ?_⟩
  · rw [layer_eq env hm, layered, List.map_map] at ht
    obtain ⟨s, hs, rfl⟩ := List.mem_map.1 ht
    exact ⟨layer_known.2 (List.mem_map.2 ⟨s, hs, rfl⟩), rfl⟩
  · exact .inl (htask k (layer_known.1 hk))

/-! ## Layerings -/

theorem build_reached {p : Plan} {h : Host} {b : Builder} {merged : Table String}
    (hm : (merge p h b.settings).1 = .ok merged) :
    ∃ pending b' journal more, build p h b = (.ok pending, b', journal) ∧
      Reached p.stems h.env merged (layer b.settings merged) b' pending [] more := by
  have hkeys : ∀ s ∈ b.settings, (merged.get? s.key).isSome := fun s hs => merge_keys hm hs
  obtain ⟨more, hr⟩ := discover_reached ⟨[], layer_reached p.stems h.env hkeys⟩
  rcases hmerge : merge p h b.settings with ⟨e | merged', journal⟩ <;> rw [hmerge] at hm
  · cases hm
  · obtain rfl : merged' = merged := Except.ok.inj hm
    exact ⟨_, _, _, more, by simp only [build, hmerge]; rfl, hr⟩

section table
variable {settings : List Setting} {tasks : List Task} {more : List String}
  (hr : Reached stems env merged (layer settings merged) b pending tasks more)
include hr

theorem Reached.mem_known {k : String} : k ∈ b.known ↔ k ∈ more ∨ k ∈ settings.map (·.key) := by
  rw [hr.builder, mem_known_addAll, layer_known]

theorem Reached.mem_keys {k : String} : k ∈ b.values.keys ↔ k ∈ b.known := by
  rw [hr.mem_known, ← Table.contains_iff, Table.contains, hr.builder, addAll_get?]
  by_cases hin : k ∈ more
  · simp [hin]
  · simp only [hin, if_false, false_or]
    rw [layer, Table.isSome_get?_ofList, List.map_map, List.map_map]
    exact Iff.rfl

theorem Reached.get? (hm : ∀ s ∈ settings, (merged.get? s.key).isSome) {k : String}
    (hk : k ∈ b.values.keys) : b.values.get? k = some (sourceText env merged k) := by
  rw [hr.mem_keys, hr.mem_known] at hk
  rw [hr.builder, addAll_get?]
  by_cases hin : k ∈ more
  · rw [if_pos hin]
  · rw [if_neg hin]
    exact layer_get? env hm (hk.resolve_left hin)

theorem Reached.settings_eq (hm : ∀ s ∈ settings, (merged.get? s.key).isSome) :
    b.settings = layered env merged settings ++
      more.map fun k => .adHoc k (sourceText env merged k) := by
  rw [hr.builder, addAll_settings_eq, layer_eq env hm]

theorem Reached.inOrder : b.InOrder := by
  rw [hr.builder]
  exact (layer_inOrder settings merged).addAll more

theorem Reached.mem_added {k : String} :
    k ∈ more ↔ k ∈ b.values.keys ∧ k ∉ settings.map (·.key) := by
  rw [hr.mem_keys, hr.mem_known]
  refine ⟨fun hk => ⟨.inl hk, fun ht => hr.fresh k hk (layer_known.2 ht)⟩, fun hk => ?_⟩
  exact hk.1.resolve_right hk.2

end table

theorem setting_texts {settings : List Setting} {more : List String} {s : Setting}
    (hs : s ∈ layered env merged settings ++
      more.map fun k => .adHoc k (sourceText env merged k)) :
    s.current = sourceText env merged s.key ∧ s.raw = sourceText env merged s.key := by
  rcases List.mem_append.1 hs with hs | hs
  · obtain ⟨s', -, rfl⟩ := List.mem_map.1 hs
    exact ⟨rfl, rfl⟩
  · obtain ⟨k, -, rfl⟩ := List.mem_map.1 hs
    rw [adHoc_eq]
    exact ⟨rfl, rfl⟩

theorem key_mem_of_setting {settings : List Setting} {more : List String} {s : Setting}
    (hs : s ∈ layered env merged settings ++
      more.map fun k => .adHoc k (sourceText env merged k)) :
    s.key ∈ more ∨ s.key ∈ settings.map (·.key) := by
  rcases List.mem_append.1 hs with hs | hs
  · obtain ⟨s', hs', rfl⟩ := List.mem_map.1 hs
    exact .inr (List.mem_map.2 ⟨s', hs', rfl⟩)
  · obtain ⟨k, hk, rfl⟩ := List.mem_map.1 hs
    rw [adHoc_key]
    exact .inl hk

section ended
variable {settings : List Setting} {more : List String}
  (hr : Reached stems env merged (layer settings merged) b pending [] more)
include hr

theorem Reached.mem_pending {k : String} :
    k ∈ pending ↔ k ∈ b.values.keys ∧ Directive.references (sourceText env merged k) ≠ [] := by
  rw [hr.mem_keys]
  exact ⟨hr.refers k, fun hk => ((hr.searched k hk.1).resolve_left (by simp)).1 hk.2⟩

theorem Reached.closed :
    ClosedUnder stems (sourceText env merged) {k | k ∈ b.values.keys} := by
  intro k hk ref href n hn
  exact hr.mem_keys.2
    (((hr.searched k (hr.mem_keys.1 hk)).resolve_left (by simp)).2 ref href n hn)

theorem Reached.isLeast :
    IsLeast {S : Set String | (∀ s ∈ settings, s.key ∈ S) ∧
      ClosedUnder stems (sourceText env merged) S} {k | k ∈ b.values.keys} := by
  refine ⟨⟨fun s hs => ?_, hr.closed⟩, ?_⟩
  · exact hr.mem_keys.2 (hr.mem_known.2 (.inr (List.mem_map.2 ⟨s, hs, rfl⟩)))
  · rintro S ⟨htable, hS⟩ k hk
    refine hr.known (fun j hj => ?_) hS (hr.mem_keys.1 hk)
    obtain ⟨s, hs, rfl⟩ := List.mem_map.1 (layer_known.1 hj)
    exact htable s hs

theorem Reached.texts (hm : ∀ s ∈ settings, (merged.get? s.key).isSome) :
    ∀ s ∈ b.settings, b.values.get? s.key = some s.raw ∧ s.current = s.raw := by
  intro s hs
  rw [hr.settings_eq hm] at hs
  obtain ⟨hcurrent, hraw⟩ := setting_texts hs
  have hkey := hr.mem_keys.2 (hr.mem_known.2 (key_mem_of_setting hs))
  exact ⟨(hr.get? hm hkey).trans (congrArg some hraw.symm), hcurrent.trans hraw.symm⟩

end ended

theorem reached_of_build {p : Plan} {h : Host} {b b' : Builder} {journal : Journal}
    (hb : build p h b = (.ok pending, b', journal)) :
    ∃ merged more, (merge p h b.settings).1 = .ok merged ∧
      Reached p.stems h.env merged (layer b.settings merged) b' pending [] more := by
  obtain ⟨merged, hm⟩ := exists_merged hb
  obtain ⟨_, _, _, more, hb', hr⟩ := build_reached hm
  obtain ⟨hpending, rfl, -⟩ := Prod.mk.inj (hb'.symm.trans hb)
  obtain rfl := Except.ok.inj hpending
  exact ⟨merged, more, hm, hr⟩

/-- **A layering has the keys of the least closure.** On every table of settings whose sources can be
read, it succeeds. Its values are those of the least set of keys that holds the keys of the table and
what the values of its keys refer to. The settings are those of the table and behind them one ad hoc
entry for each other key. A key is pending exactly if its value makes a reference, and all values are
the layered ones. -/
theorem build_least_closure {p : Plan} {h : Host} {b : Builder} {merged : Table String}
    (hm : (merge p h b.settings).1 = .ok merged) :
    let text := sourceText h.env merged
    ∃ pending b' journal, build p h b = (.ok pending, b', journal) ∧
      IsLeast {S : Set String | (∀ s ∈ b.settings, s.key ∈ S) ∧ ClosedUnder p.stems text S}
        {k | k ∈ b'.values.keys} ∧
      (∃ more : List String, more.Nodup ∧
        (∀ k, k ∈ more ↔ k ∈ b'.values.keys ∧ k ∉ b.settings.map (·.key)) ∧
        b'.settings = layered h.env merged b.settings ++ more.map fun k => .adHoc k (text k)) ∧
      (∀ k, k ∈ pending ↔ k ∈ b'.values.keys ∧ Directive.references (text k) ≠ []) ∧
      (∀ k ∈ b'.values.keys, b'.values.get? k = some (text k)) ∧
      ∀ s ∈ b'.settings, b'.values.get? s.key = some s.raw ∧ s.current = s.raw := by
  intro text
  have hkeys : ∀ s ∈ b.settings, (merged.get? s.key).isSome := fun s hs => merge_keys hm hs
  obtain ⟨pending, b', journal, more, hbuild, hr⟩ := build_reached hm
  exact ⟨pending, b', journal, hbuild, hr.isLeast,
    ⟨more, hr.nodup, fun _ => hr.mem_added, hr.settings_eq hkeys⟩, fun _ => hr.mem_pending,
    fun _ hk => hr.get? hkeys hk, hr.texts hkeys⟩

/-- A setting that refers to a name which refers to another in turn, and to a name behind each
stem. -/
def winding : Builder where
  settings := [Setting.make "A" .string "%{B}%{*x}" "" "" ""]

def windingHost : Host where
  env := Table.ofList [("B", "%{C}"), ("C", "%{A}"), ("U", "u"), ("VAR_x", "%{?B}y%{}")]

def windingMerged : Table String := Table.ofList [("A", "%{B}%{*x}")]

theorem winding_merge : (merge {} windingHost winding.settings).1 = .ok windingMerged := rfl

def windingKeys : List String := ["A", "B", "C", "VAR_x", "DIFF_VAR_x"]

theorem winding_closed : ∀ k ∈ windingKeys,
    ∀ ref ∈ Directive.references (sourceText windingHost.env windingMerged k),
      ∀ n ∈ targets ({} : Plan).stems ref, n ∈ windingKeys := by
  decide +kernel

/-- `C` is found through `B`, which is no setting of the table; nothing refers to `U`. -/
theorem winding_closure : ∃ pending b' journal,
    build {} windingHost winding = (.ok pending, b', journal) ∧
      "C" ∈ b'.values.keys ∧ "U" ∉ b'.values.keys ∧ "VAR_x" ∈ pending := by
  obtain ⟨pending, b', journal, hb, ⟨⟨htable, hclosed⟩, hleast⟩, -, hpending, -, -⟩ :=
    build_least_closure (b := winding) winding_merge
  have hA := htable _ (List.mem_singleton.2 rfl)
  have hB := hclosed "A" hA (.direct "B") (by decide +kernel) "B" (by decide)
  have hC := hclosed "B" hB (.direct "C") (by decide +kernel) "C" (by decide)
  have hx := hclosed "A" hA (.indirect "x") (by decide +kernel) "VAR_x" (by decide)
  refine ⟨pending, b', journal, hb, hC, fun hU => ?_, (hpending "VAR_x").2 ⟨hx, by decide +kernel⟩⟩
  have htableIn : ∀ s ∈ winding.settings, s.key ∈ windingKeys := by decide
  have hin : "U" ∈ windingKeys := @hleast {k | k ∈ windingKeys} ⟨htableIn, winding_closed⟩ "U" hU
  exact absurd hin (by decide)

end LayeredConfig.Layering
