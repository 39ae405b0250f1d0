import LayeredConfig.Proofs.Expansion.Agreement
import LayeredConfig.Proofs.Layering.Order
import LayeredConfig.Proofs.Store.Build

/-!
# The order of a store's table

The order of the table decides in which order keys are found, made settings and expanded. None of
this is seen in the configuration.

* `sourced_perm`: the sources say the same about every name.
* `keys_perm`: so the searches, which find different keys at different times, end with one set: the
  least closed one.
* `start_agrees`: so both expansions start from states that look alike.
* `build_perm`: so both stores are built or neither, and the values are the same.
-/

namespace LayeredConfig.Store

open Expansion (Plain State)

variable {h : Host} {s : Store} {settings : List Setting}

def withDefaults (s : Store) (settings : List Setting) : Store :=
  { s with defaults := settings }

section perm
variable (hp : s.defaults.Perm settings) (hn : (s.defaults.map (·.key)).Nodup)
include hp hn

theorem sourced_perm : (s.withDefaults settings).sourced h = s.sourced h := by
  have hvalues := Layering.overlaid_agrees (p := s.plan) (h := h) (Layering.defaults_agrees hp hn)
  funext k
  unfold sourced
  rw [hvalues k]
  rfl

theorem keys_perm {merged merged' : Table String}
    (hm : (Layering.merge s.plan h s.defaults).1 = .ok merged)
    (hm' : (Layering.merge s.plan h settings).1 = .ok merged') (k : String) :
    k ∈ (s.layered h).keys ↔ k ∈ ((s.withDefaults settings).layered h).keys := by
  have htable : ∀ S : Set String, (∀ e ∈ s.defaults, e.key ∈ S) ↔ ∀ e ∈ settings, e.key ∈ S := by
    intro S
    simp only [hp.mem_iff]
  have hleast := layered_isLeast hm
  have hleast' := layered_isLeast (s := s.withDefaults settings) hm'
  rw [sourced_perm hp hn] at hleast'
  simp only [htable] at hleast
  have hsame := hleast.unique hleast'
  exact Set.ext_iff.1 hsame k

theorem start_agrees {merged merged' : Table String}
    (hm : (Layering.merge s.plan h s.defaults).1 = .ok merged)
    (hm' : (Layering.merge s.plan h settings).1 = .ok merged') :
    (s.start h).Agrees ((s.withDefaults settings).start h) := by
  have hprep := prepared_of_merged hm
  have hprep' := prepared_of_merged (s := s.withDefaults settings) hm'
  have hkeys := keys_perm hp hn hm hm'
  refine ⟨fun k => ?_, fun k => ?_⟩
  · show (s.layered h).get? k = ((s.withDefaults settings).layered h).get? k
    by_cases hk : k ∈ (s.layered h).keys
    · rw [hprep.get? k hk, hprep'.get? k ((hkeys k).1 hk), sourced_perm hp hn]
    · rw [Table.get?_eq_none hk, Table.get?_eq_none (mt (hkeys k).2 hk)]
  · rw [hprep.pending, hprep'.pending, hkeys k, sourced_perm hp hn]

theorem exists_build_perm (hb : ∃ c, (s.build h).1 = .ok c) :
    ∃ c, ((s.withDefaults settings).build h).1 = .ok c := by
  obtain ⟨c, hb⟩ := hb
  have hunbuilt := unbuilt_of_build hb
  obtain ⟨merged, hm⟩ := merged_of_build hb
  obtain ⟨merged', hm'⟩ := Layering.exists_merge_other hm settings
  have hmem : ∀ k, k ∈ s.keys h ↔ k ∈ (s.withDefaults settings).keys h := by
    intro k
    rw [(prepared_of_merged hm).keys, keys_perm hp hn hm hm']
    exact ((prepared_of_merged (s := s.withDefaults settings) hm').keys k).symm
  apply (exists_build_iff (s := s.withDefaults settings) hunbuilt hm').2
  exact (Expansion.resolveAll_agrees (start_agrees hp hn hm hm') hmem).1 (build_expanded hb).1

theorem expanded_perm {c c' : Config} (hb : (s.build h).1 = .ok c)
    (hb' : ((s.withDefaults settings).build h).1 = .ok c') :
    (s.expanded h).Agrees ((s.withDefaults settings).expanded h) := by
  obtain ⟨merged, hm⟩ := merged_of_build hb
  obtain ⟨merged', hm'⟩ := merged_of_build hb'
  intro k
  by_cases hk : k ∈ (s.layered h).keys
  · obtain ⟨v, hv, hplain⟩ := expanded_get? hb hk
    obtain ⟨v', hv', hplain'⟩ := expanded_get? hb' ((keys_perm hp hn hm hm' k).1 hk)
    have hsame := (hplain.agrees (start_agrees hp hn hm hm')).unique hplain'
    rw [hv, hv', Except.ok.inj hsame]
  · have hk' := mt (keys_perm hp hn hm hm' k).2 hk
    rw [← expanded_keys hb] at hk
    rw [← expanded_keys hb'] at hk'
    rw [Table.get?_eq_none hk, Table.get?_eq_none hk']

/-- **The order of the table does not matter.** Let the keys of a table be pairwise distinct, and let
two stores differ in the order of this table only. Then both are built on a host or neither is, and
if they are, the two configurations have the same keys, each with the same value. -/
theorem build_perm :
    ((∃ c, (s.build h).1 = .ok c) ↔ ∃ c, ((s.withDefaults settings).build h).1 = .ok c) ∧
    ∀ c c', (s.build h).1 = .ok c → ((s.withDefaults settings).build h).1 = .ok c' →
      (∀ k, k ∈ c.values.keys ↔ k ∈ c'.values.keys) ∧ ∀ k, c.item k = c'.item k := by
  constructor
  · have hn' : (settings.map (·.key)).Nodup := (hp.map (·.key)).nodup_iff.1 hn
    have hback := exists_build_perm (h := h) (s := s.withDefaults settings) hp.symm hn'
    exact ⟨exists_build_perm hp hn, hback⟩
  · intro c c' hb hb'
    have hvalues : c.values.Agrees c'.values := by
      rw [(build_expanded hb).2, (build_expanded hb').2]
      exact (expanded_perm hp hn hb hb').mapValues _
    refine ⟨fun k => hvalues.mem_keys, fun k => ?_⟩
    rw [Config.item, Config.item, hvalues k]

end perm

/-- Two settings that refer to names which only the environment knows, one through the other. -/
def shuffled : Store where
  defaults := [("A", "%{L}a"), ("B", "%{M}b")].map fun e => Setting.make e.1 .string e.2 "" "" ""

def shuffledHost : Host where
  env := Table.ofList [("L", "%{M}l"), ("M", "m")]

theorem shuffled_builds : (shuffled.build shuffledHost).1.map (·.values.entries) =
    .ok [("A", "mla"), ("B", "mb"), ("L", "ml"), ("M", "m")] := by
  cbv

/-- With the settings the other way round, `M` is found before `L`. -/
theorem shuffled_values : ∃ c, ((shuffled.withDefaults shuffled.defaults.reverse).build
    shuffledHost).1 = .ok c ∧ c.item "A" = .ok "mla" := by
  obtain ⟨c, hb, hentries⟩ := exists_config shuffled_builds
  obtain ⟨hiff, hsame⟩ := build_perm (h := shuffledHost) (s := shuffled)
    (List.reverse_perm shuffled.defaults).symm (by decide)
  obtain ⟨c', hb'⟩ := hiff.1 ⟨c, hb⟩
  refine ⟨c', hb', ?_⟩
  rw [← (hsame c c' hb hb').2 "A", Config.item, Table.get?, hentries]
  rfl

end LayeredConfig.Store
