import LayeredConfig.Proofs.Store.Build

/-!
# The handle on a configuration

A configuration holds a table of values and a list of settings, and it is asked for keys in three
ways: for the item of a key, for its setting, and for a value that has to be there. The values come
from the layering and are worked on key by key; the settings go along. At the end they belong
together.

* `Config.setting_cases`: a look-up finds a setting with the key, or says that the key is unknown.
* `Store.settings_of_build`: the settings, entry by entry.
* `Store.finished`: no key is left pending.
* `Store.Coherent`, `Store.build_coherent`: how values, settings and look-ups belong together.
-/

namespace LayeredConfig

namespace Config

theorem setting_cases (c : Config) (key : String) :
    (∃ e ∈ c.settings, e.key = key ∧ c.setting key = .ok e) ∨
      (∀ e ∈ c.settings, e.key ≠ key) ∧ c.setting key = .error (.unknownKey key) := by
  unfold setting setting?
  cases hfind : c.settings.reverse.find? (·.key == key) with
  | some e =>
    left
    have hmem : e ∈ c.settings := List.mem_reverse.1 (List.mem_of_find?_eq_some hfind)
    have hkey : e.key = key := by simpa using List.find?_some hfind
    exact ⟨e, hmem, hkey, rfl⟩
  | none =>
    right
    refine ⟨fun e he hkey => ?_, rfl⟩
    have hnot := List.find?_eq_none.1 hfind e (List.mem_reverse.2 he)
    simp [hkey] at hnot

theorem item_of_mem {c : Config} {key : String} (h : key ∈ c.values.keys) :
    c.item key = .ok (c.values.getD key "") := by
  obtain ⟨v, hv⟩ := Option.isSome_iff_exists.1 (Table.contains_iff.2 h)
  rw [item, Table.getD, hv]
  rfl

end Config

namespace Store

variable {h : Host} {s : Store} {c : Config}

/-- The settings of a configuration are those of the table and behind them one ad hoc entry for each
key that was found, all with the value that the sources give to their key and the value that it has
in the end. -/
theorem settings_of_build (hb : (s.build h).1 = .ok c) :
    ∃ found : List String, found.Nodup ∧ (∀ k ∈ found, ∀ e ∈ s.defaults, e.key ≠ k) ∧
      c.settings =
        (s.defaults.map fun e =>
          { e with current := c.values.getD e.key "", raw := s.sourced h e.key }) ++
        found.map fun k => ⟨k, .adHoc, "", c.values.getD k "", "", s.sourced h k⟩ := by
  obtain ⟨merged, hm⟩ := merged_of_build hb
  obtain ⟨pending, b, journal, found, hbuild, hr, -⟩ := layered_reached hm
  obtain ⟨pending', b', journal', hlay, hres⟩ := build_eq_ok hb
  obtain ⟨-, rfl, -⟩ := Prod.mk.inj (hbuild.symm.trans hlay)
  refine ⟨found, hr.nodup, fun k hk e he hkey => ?_, ?_⟩
  · exact (hr.mem_added.1 hk).2 (List.mem_map.2 ⟨e, he, hkey⟩)
  · have htext : Layering.sourceText h.env merged = s.sourced h := funext (sourceText_merged hm)
    rw [resolve_settings hres, hr.settings_eq fun e he => Layering.merge_keys hm he,
      List.map_append, Layering.layered, List.map_map, List.map_map, htext]
    congr 1
    apply List.map_congr_left
    intro k hk
    rw [Function.comp_apply, Layering.adHoc_eq]

theorem finished (hb : (s.build h).1 = .ok c) (k : String) :
    k ∉ ((s.start h).resolveAll s.prefixKey (s.keys h)).2.pending := by
  obtain ⟨hok, -⟩ := build_expanded hb
  obtain ⟨-, hfewer, hdone⟩ :=
    (Expansion.Remembers.refl s.prefixKey (s.start h)).resolveAll hok
  intro hk
  have hprep := build_prepared hb
  have hlisted := (hprep.keys k).2 ((hprep.pending k).1 (hfewer k hk)).1
  exact hdone k hlisted hk

/-- How the values, the settings and the look-ups of a configuration belong together. -/
structure Coherent (h : Host) (s : Store) (c : Config) : Prop where
  /-- The settings are those of the table, in its order, and behind them one for each key that was
  found. -/
  table : ∃ found : List String, found.Nodup ∧ (∀ k ∈ found, ∀ e ∈ s.defaults, e.key ≠ k) ∧
    c.settings.map (fun e => (e.key, e.kind, e.default, e.description)) =
      (s.defaults.map fun e => (e.key, e.kind, e.default, e.description)) ++
        found.map fun k => (k, .adHoc, "", "")
  /-- The keys are those of the settings, in the order in which they first occur. -/
  order : c.values.keys = (c.settings.map (·.key)).eraseDups
  /-- A setting has the value of its key as its current value and the layered one as its raw value. -/
  texts : ∀ e ∈ c.settings, c.item e.key = .ok e.current ∧
    (s.layered h).get? e.key = some e.raw ∧ e.raw = s.sourced h e.key
  /-- No key is left pending. -/
  finished : ∀ k, k ∉ ((s.start h).resolveAll s.prefixKey (s.keys h)).2.pending
  /-- A key has a setting, and all look-ups give its value. -/
  known : ∀ k ∈ c.values.keys, ∃ e ∈ c.settings, e.key = k ∧ c.setting k = .ok e ∧
    c.item k = .ok e.current ∧ c.require k = .ok e.current
  /-- Anything else is reported as an unknown key. -/
  unknown : ∀ k, k ∉ c.values.keys → c.setting k = .error (.unknownKey k) ∧
    c.require k = .error (.unknownKey k) ∧ c.item k = .error (.failure .noSuchItem)

theorem mem_config_keys (hb : (s.build h).1 = .ok c) {k : String} :
    k ∈ c.values.keys ↔ ∃ e ∈ c.settings, e.key = k := by
  rw [config_keys hb, ← (build_prepared hb).keys, ← config_settings_keys hb, List.mem_map]

theorem config_texts (hb : (s.build h).1 = .ok c) {e : Setting} (he : e ∈ c.settings) :
    c.item e.key = .ok e.current ∧ (s.layered h).get? e.key = some e.raw ∧
      e.raw = s.sourced h e.key := by
  have hkey : e.key ∈ c.values.keys := (mem_config_keys hb).2 ⟨e, he, rfl⟩
  have hlayered := (build_prepared hb).get? e.key (config_keys hb ▸ hkey)
  have hitem := Config.item_of_mem hkey
  obtain ⟨found, -, -, hsettings⟩ := settings_of_build hb
  rw [hsettings] at he
  rcases List.mem_append.1 he with he | he
  · obtain ⟨e', -, rfl⟩ := List.mem_map.1 he
    exact ⟨hitem, hlayered, rfl⟩
  · obtain ⟨k, -, rfl⟩ := List.mem_map.1 he
    exact ⟨hitem, hlayered, rfl⟩

/-- **The handle is coherent.** When a store is built, its configuration has the settings of the
table and behind them one ad hoc entry for each other key, also if the table has a key more than
once. The keys are those of the settings, in the order in which they first occur. Every setting has
its key's final value and its layered one, and no key is pending any more. A key is in the
configuration exactly if it has a setting, and exactly then its value can be required; for any other
key both fail with the report that the key is unknown. -/
theorem build_coherent (hb : (s.build h).1 = .ok c) : Coherent h s c where
  table := by
    obtain ⟨found, hnodup, hnew, hsettings⟩ := settings_of_build hb
    refine ⟨found, hnodup, hnew, ?_⟩
    rw [hsettings, List.map_append, List.map_map, List.map_map]
    rfl
  order := by
    obtain ⟨merged, hm⟩ := merged_of_build hb
    obtain ⟨_, b, _, _, -, hr, hvalues, -, hkeys⟩ := layered_reached hm
    rw [config_keys hb, hvalues, config_settings_keys hb, hkeys]
    exact hr.inOrder
  texts := fun e he => config_texts hb he
  finished := finished hb
  known := by
    intro k hk
    rcases c.setting_cases k with ⟨e, he, rfl, hsetting⟩ | ⟨hnone, -⟩
    · have hitem := (config_texts hb he).1
      refine ⟨e, he, rfl, hsetting, hitem, ?_⟩
      rw [Config.require, hsetting]
      exact hitem
    · obtain ⟨e, he, hkey⟩ := (mem_config_keys hb).1 hk
      exact absurd hkey (hnone e he)
  unknown := by
    intro k hk
    rcases c.setting_cases k with ⟨e, he, hkey, -⟩ | ⟨-, hsetting⟩
    · exact absurd ((mem_config_keys hb).2 ⟨e, he, hkey⟩) hk
    · refine ⟨hsetting, ?_, ?_⟩
      · rw [Config.require, hsetting]
        rfl
      · rw [Config.item, Table.get?_eq_none hk]

/-- A table with a key given twice, which refers to a name that only the environment knows. -/
def doubled : Store where
  defaults := [("A", "%{L}"), ("B", "b"), ("A", "%{L}a")].map
    fun e => Setting.make e.1 .string e.2 "" "" ""

def doubledHost : Host where
  env := Table.ofList [("L", "l")]

theorem doubled_builds : (doubled.build doubledHost).1.map (·.values.entries) =
    .ok [("A", "la"), ("B", "b"), ("L", "l")] := by
  cbv

/-- The settings have three keys; `L` is one of them and `U` is none. -/
theorem doubled_coherent : ∃ c, (doubled.build doubledHost).1 = .ok c ∧
    (c.settings.map (·.key)).eraseDups = ["A", "B", "L"] ∧ c.require "A" = .ok "la" ∧
    (∃ e, c.setting "L" = .ok e) ∧ c.require "U" = .error (.unknownKey "U") := by
  obtain ⟨c, hb, hentries⟩ := exists_config doubled_builds
  have hc := build_coherent hb
  have hkeys : c.values.keys = ["A", "B", "L"] := by
    rw [Table.keys, hentries]
    rfl
  have hvalue : c.item "A" = .ok "la" := by
    rw [Config.item, Table.get?, hentries]
    rfl
  obtain ⟨e, -, -, -, hitem, hrequire⟩ := hc.known "A" (by simp [hkeys])
  obtain ⟨e', -, -, hsetting, -⟩ := hc.known "L" (by simp [hkeys])
  refine ⟨c, hb, ?_, ?_, ⟨e', hsetting⟩, (hc.unknown "U" (by simp [hkeys])).2.1⟩
  · rw [← hc.order, hkeys]
  · rw [hrequire, ← hitem, hvalue]

end Store

end LayeredConfig
