import Mathlib.Data.List.Nodup
import LayeredConfig.Proofs.Layering.Closure

/-!
# The order of the table

A table whose keys are pairwise distinct gives every key one default, wherever it stands. So the
order of the table is not seen by the overlays that are laid over it, nor by the sources as a whole.

* `Table.agrees_of_perm`: entries with distinct names make tables that look alike in every order.
* `overlaid_agrees`: so the overlays leave values that look alike.
-/

namespace LayeredConfig

theorem Table.get?_ofList_iff {α : Type} {es : List (String × α)} (hn : (es.map (·.1)).Nodup)
    {k : String} {v : α} : (Table.ofList es).get? k = some v ↔ (k, v) ∈ es := by
  refine ⟨Table.mem_of_get?_ofList, fun hmem => ?_⟩
  have hkey : k ∈ es.map (·.1) := List.mem_map.2 ⟨(k, v), hmem, rfl⟩
  obtain ⟨w, hw⟩ := Option.isSome_iff_exists.1 (Table.isSome_get?_ofList.2 hkey)
  have hsame : (k, w) = (k, v) :=
    List.inj_on_of_nodup_map hn (Table.mem_of_get?_ofList hw) hmem rfl
  rw [hw, (Prod.mk.inj hsame).2]

theorem Table.agrees_of_perm {α : Type} {es es' : List (String × α)} (hp : es.Perm es')
    (hn : (es.map (·.1)).Nodup) : (Table.ofList es).Agrees (Table.ofList es') := by
  have hn' : (es'.map (·.1)).Nodup := (hp.map (·.1)).nodup_iff.1 hn
  intro k
  apply Option.ext
  intro v
  rw [Table.get?_ofList_iff hn, Table.get?_ofList_iff hn']
  exact hp.mem_iff

namespace Layering

variable {p : Plan} {h : Host} {settings settings' : List Setting} {merged merged' : Table String}

theorem defaults_agrees (hp : settings.Perm settings') (hn : (settings.map (·.key)).Nodup) :
    (defaults settings).Agrees (defaults settings') := by
  apply Table.agrees_of_perm (hp.map _)
  rw [List.map_map]
  exact hn

theorem overlaid_agrees (ha : (defaults settings).Agrees (defaults settings')) :
    (overlaid p h settings).2.values.Agrees (overlaid p h settings').2.values := by
  rw [(overlaid_follows p h settings).2, (overlaid_follows p h settings').2]
  exact Overlay.foldl_apply_agrees _ ha

end Layering

end LayeredConfig
