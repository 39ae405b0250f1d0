import LayeredConfig.Proofs.Layering.Order
import LayeredConfig.Proofs.Store.Handle
import LayeredConfig.Setting.Defaults

/-!
# What becomes of the value of an entry

A new entry is given its value as its default or as its current value, and `Setting.make` fills the
other fields from the one that is there. Layering starts from the default alone. So an entry that no
source sets keeps its value exactly if the default still holds it: an ad hoc entry loses its default
when it is made, and one that was given a current value never had any.

* `Setting.BuiltWith`: the field that an entry was given its value in; `loaded_builtWith`: entries
  of a table that is loaded are given theirs as the default.
* `BuiltWith.default_eq_iff`: which entries have their value as the default.
* `sourced_unset`: what the sources give to a key that neither an overlay nor the environment sets.
* `entry_value`: so this is the layered value of the entry.
-/

namespace LayeredConfig

namespace Setting

/-! ## How an entry is built -/

inductive Field where
  | default
  | current
  deriving DecidableEq, Repr

/-- The entry was built with a key, a kind, a description, and the value in this field. -/
inductive BuiltWith : Field → String → Setting → Prop
  | default (key : String) (kind : Kind) (value description : String) :
      BuiltWith .default value (make key kind value "" description "")
  | current (key : String) (kind : Kind) (value description : String) :
      BuiltWith .current value (make key kind "" value description "")

theorem adHoc_builtWith (key value : String) : BuiltWith .current value (adHoc key value) :=
  .current key .adHoc value ""

theorem bind_eq_ok {α β : Type} {x : Except Fault α} {f : α → Except Fault β} {b : β}
    (h : x >>= f = .ok b) : ∃ a, x = .ok a ∧ f a = .ok b := by
  rcases x with e | a
  · cases h
  · exact ⟨a, rfl, h⟩

theorem exists_of_mapM {α β : Type} {f : α → Except Fault β} {xs : List α} {ys : List β}
    (h : xs.mapM f = .ok ys) {y : β} (hy : y ∈ ys) : ∃ x, f x = .ok y := by
  induction xs generalizing ys with
  | nil =>
    obtain rfl : [] = ys := Except.ok.inj h
    cases hy
  | cons x xs ih =>
    rw [List.mapM_cons] at h
    obtain ⟨y', hy', h⟩ := bind_eq_ok h
    obtain ⟨ys', hys', h⟩ := bind_eq_ok h
    obtain rfl : y' :: ys' = ys := Except.ok.inj h
    rcases List.mem_cons.1 hy with rfl | hy
    · exact ⟨x, hy'⟩
    · exact ih hys' hy

theorem ofPart_builtWith {g : Document.Graph} {p : Document.Part} {e : Setting}
    (h : ofPart g p = .ok e) : ∃ value, BuiltWith .default value e := by
  unfold ofPart at h
  dsimp only at h
  split at h
  · cases h
  · obtain ⟨shown, -, h⟩ := bind_eq_ok h
    split at h
    · obtain ⟨_, -, h⟩ := bind_eq_ok h
      cases h
    · obtain ⟨key, -, h⟩ := bind_eq_ok h
      obtain ⟨value, -, h⟩ := bind_eq_ok h
      obtain ⟨description, -, h⟩ := bind_eq_ok h
      obtain rfl := Except.ok.inj h
      exact ⟨value, .default ..⟩

theorem loaded_builtWith {h : Host} {path : String} {es : List Setting}
    (hl : load h path = .ok es) {e : Setting} (he : e ∈ es) :
    ∃ value, BuiltWith .default value e := by
  unfold load at hl
  dsimp only at hl
  split at hl
  · cases hl
  · cases hl
  · obtain ⟨g, -, hl⟩ := bind_eq_ok hl
    unfold tableOf at hl
    split at hl
    · cases hl
    · obtain ⟨p, hp⟩ := exists_of_mapM hl he
      exact ofPart_builtWith hp

/-- The default of an entry is the value that it was built with if it was given as the default and
the entry is not ad hoc, and otherwise only if it is empty. -/
theorem BuiltWith.default_eq_iff {field : Field} {value : String} {e : Setting}
    (h : BuiltWith field value e) :
    e.default = value ↔ field = .default ∧ e.kind ≠ .adHoc ∨ value = "" := by
  cases h with
  | default key kind description =>
    by_cases hkind : kind = .adHoc
    · simp [make, hkind, eq_comm]
    · simp [make, hkind]
  | current key kind description =>
    by_cases hkind : kind = .adHoc <;> simp [make, hkind, eq_comm]

end Setting

namespace Store

variable {h : Host} {s : Store} {c : Config}

/-! ## Entries that no source sets -/

theorem sourced_unset (hn : (s.defaults.map (·.key)).Nodup) {e : Setting} (he : e ∈ s.defaults)
    (henv : h.env.get? e.key = none)
    (hfree : e.key ∉ (Layering.writes s.plan h).2.map (·.key)) :
    s.sourced h e.key = e.default := by
  have hdefault : (Layering.defaults s.defaults).get? e.key = some e.default := by
    refine (Table.get?_ofList_iff ?_).2 (List.mem_map.2 ⟨e, he, rfl⟩)
    rw [List.map_map]
    exact hn
  rw [sourced, henv, (Layering.overlaid_follows ..).2, Overlay.foldl_apply_other hfree, hdefault]
  rfl

theorem setting_of_entry (hb : (s.build h).1 = .ok c) (hn : (s.defaults.map (·.key)).Nodup)
    {e : Setting} (he : e ∈ s.defaults) :
    c.setting e.key =
      .ok { e with current := c.values.getD e.key "", raw := s.sourced h e.key } := by
  obtain ⟨found, -, hfresh, hsettings⟩ := settings_of_build hb
  rcases c.setting_cases e.key with ⟨e', he', hkey, hfind⟩ | ⟨hnone, -⟩
  · rw [hfind]
    rw [hsettings] at he'
    rcases List.mem_append.1 he' with he' | he'
    · obtain ⟨e₁, he₁, rfl⟩ := List.mem_map.1 he'
      obtain rfl := List.inj_on_of_nodup_map hn he₁ he hkey
      rfl
    · obtain ⟨k, hk, rfl⟩ := List.mem_map.1 he'
      exact absurd hkey.symm (hfresh k hk e he)
  · refine absurd rfl (hnone { e with
      current := c.values.getD e.key "", raw := s.sourced h e.key } ?_)
    rw [hsettings]
    exact List.mem_append_left _ (List.mem_map.2 ⟨e, he, rfl⟩)

/-- **The layered value of an entry that no source sets.** In a store that is built, with distinct
keys, an entry whose key neither the environment nor an overlay sets has its default as its layered
value, in the table of values and in its setting. Of the one value that the entry was built with, in
whichever field, this is the case exactly if it was given as the default and the entry is not ad hoc,
or if it is empty. Entries that are loaded are given theirs as the default. -/
theorem entry_value (hb : (s.build h).1 = .ok c) (hn : (s.defaults.map (·.key)).Nodup)
    {e : Setting} (he : e ∈ s.defaults) (henv : h.env.get? e.key = none)
    (hfree : e.key ∉ (Layering.writes s.plan h).2.map (·.key)) :
    (s.layered h).get? e.key = some e.default ∧
    (∃ e', c.setting e.key = .ok e' ∧ e'.key = e.key ∧ e'.kind = e.kind ∧ e'.raw = e.default ∧
      ∀ field value, e.BuiltWith field value →
        (e'.raw = value ↔ field = .default ∧ e.kind ≠ .adHoc ∨ value = "")) ∧
    ∀ h' path es, Setting.load h' path = .ok es → e ∈ es → ∃ value, e.BuiltWith .default value := by
  have hsourced := sourced_unset hn he henv hfree
  have hfind := setting_of_entry hb hn he
  rw [hsourced] at hfind
  refine ⟨?_, ⟨_, hfind, rfl, rfl, rfl, fun _ _ hbuilt => hbuilt.default_eq_iff⟩,
    fun _ _ _ hl hmem => Setting.loaded_builtWith hl hmem⟩
  have hprep := build_prepared hb
  have hkey : e.key ∈ (s.layered h).keys := by
    rw [← config_keys hb, mem_config_keys hb]
    obtain ⟨e', he', hkey, -⟩ := (c.setting_cases e.key).resolve_right fun hnone => by
      rw [hnone.2] at hfind
      cases hfind
    exact ⟨e', he', hkey⟩
  rw [hprep.get? e.key hkey, hsourced]

def lodging : Store where
  defaults := [Setting.make "A" .integer "1" "" "" "", Setting.make "B" .string "b" "" "" "",
    Setting.make "C" .string "" "c" "" "", Setting.adHoc "L" "v"]

def lodgingHost : Host where
  files := Table.ofList [("/etc/delayrc", .bytes "B=o\n".toUTF8.toList)]

def lodgingMerged : Table String :=
  Layering.override lodgingHost.env
    (Layering.overlaid lodging.plan lodgingHost lodging.defaults).2.values

theorem lodging_search :
    (Layering.overlaid lodging.plan lodgingHost lodging.defaults).1.toBool = true ∧
    (lodging.searched lodgingHost lodgingMerged 4).1 = [] ∧
    (lodging.attempt lodgingHost lodgingMerged 4).1 = .ok () ∧
    (Layering.writes lodging.plan lodgingHost).2.map (·.key) = ["B"] := by
  decide +kernel

theorem lodging_built : ∃ c, (lodging.build lodgingHost).1 = .ok c := by
  obtain ⟨hread, hend, hok, -⟩ := lodging_search
  obtain ⟨c, hb, -⟩ := build_attempt 4 rfl (Layering.merge_of_overlaid hread) hend hok
  exact ⟨c, hb⟩

theorem lodging_keys : (lodging.defaults.map (·.key)).Nodup := by decide

/-- The default of `A`, which no source sets, is its layered value. -/
theorem lodging_keeps : ∃ c, (lodging.build lodgingHost).1 = .ok c ∧
    (lodging.layered lodgingHost).get? "A" = some "1" ∧
    ∃ e, c.setting "A" = .ok e ∧ e.raw = "1" := by
  obtain ⟨c, hb⟩ := lodging_built
  have hfree : "A" ∉ (Layering.writes lodging.plan lodgingHost).2.map (·.key) := by
    rw [lodging_search.2.2.2]
    decide
  obtain ⟨hvalue, ⟨e, hfind, -, -, -, hraw⟩, -⟩ := entry_value
    (e := Setting.make "A" .integer "1" "" "" "") hb lodging_keys List.mem_cons_self rfl hfree
  exact ⟨c, hb, hvalue, e, hfind,
    (hraw .default "1" (.default "A" .integer "1" "")).2 (.inl ⟨rfl, by decide⟩)⟩

/-- The ad hoc entry `L` was made with a value and no source sets it, but its layered value is
empty. So is that of `C`, which was given its value as the current one. -/
theorem lodging_loses : ∃ c, (lodging.build lodgingHost).1 = .ok c ∧
    (lodging.defaults.map (·.key)).Nodup ∧
    Setting.adHoc "L" "v" ∈ lodging.defaults ∧ (Setting.adHoc "L" "v").BuiltWith .current "v" ∧
    Setting.make "C" .string "" "c" "" "" ∈ lodging.defaults ∧
    lodgingHost.env.get? "L" = none ∧ lodgingHost.env.get? "C" = none ∧
    (∀ k ∈ ["L", "C"], k ∉ (Layering.writes lodging.plan lodgingHost).2.map (·.key)) ∧
    (∃ e, c.setting "L" = .ok e ∧ e.raw = "") ∧ ∃ e, c.setting "C" = .ok e ∧ e.raw = "" := by
  obtain ⟨c, hb⟩ := lodging_built
  have hfree : ∀ k ∈ ["L", "C"],
      k ∉ (Layering.writes lodging.plan lodgingHost).2.map (·.key) := by
    rw [lodging_search.2.2.2]
    decide
  have hL : Setting.adHoc "L" "v" ∈ lodging.defaults := by decide
  have hC : Setting.make "C" .string "" "c" "" "" ∈ lodging.defaults := by decide
  refine ⟨c, hb, lodging_keys, hL, Setting.adHoc_builtWith "L" "v", hC, rfl, rfl, hfree,
    ⟨_, setting_of_entry hb lodging_keys hL, ?_⟩, ⟨_, setting_of_entry hb lodging_keys hC, ?_⟩⟩
  · exact sourced_unset lodging_keys hL rfl (hfree "L" (by decide))
  · exact sourced_unset lodging_keys hC rfl (hfree "C" (by decide))

end Store

end LayeredConfig
