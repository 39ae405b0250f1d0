import LayeredConfig.Proofs.Expansion.Seams
import LayeredConfig.Proofs.Store.Build

/-!
# Directives that are left

When a store is built, a directive may be left in an expanded value in two ways. A value without a
reference is not pending, so a close or an `otherwise` stays in it. Otherwise the directive lies
across a seam: it begins in a stretch of the value or in a text that was put in, and ends behind it.

* `expanded_parts`: of which parts an expanded value is put together.
* `leftover_directives`: where directives are left, for every store that is built.
-/

namespace LayeredConfig.Store

open Expansion (Assembles InsertsClean Plain State Steady Tight joined)

variable {h : Host} {s : Store} {c : Config}

theorem expanded_parts (hb : (s.build h).1 = .ok c) {k raw v : String}
    (hraw : (s.layered h).get? k = some raw) (hv : (s.expanded h).get? k = some v) :
    (Directive.references raw = [] → v = raw) ∧
      (Directive.references raw ≠ [] → ∃ parts,
        Assembles s.prefixKey (s.start h) k [] raw.toList parts ∧
          v = String.ofList (joined parts)) := by
  have hp := build_prepared hb
  have hk : k ∈ (s.layered h).keys := Table.contains_iff.1 (by simp [Table.contains, hraw])
  obtain rfl : s.sourced h k = raw := Option.some.inj ((hp.get? k hk).symm.trans hraw)
  obtain ⟨v', hv', hplain⟩ := expanded_get? hb hk
  obtain rfl := Option.some.inj (hv'.symm.trans hv)
  cases hplain with
  | stored hn =>
    have hnone : Directive.references (s.sourced h k) = [] :=
      Decidable.byContradiction fun hne => hn ((hp.pending k).2 ⟨hk, hne⟩)
    exact ⟨fun _ => hp.text hk, fun hne => absurd hnone hne⟩
  | expanded hk₀ hrest =>
    have hrest' : Plain s.prefixKey (s.start h) KeySet.empty
      (.rest k [] ((s.start h).text k).toList) (.ok v') := hrest
    refine ⟨fun hnone => absurd hnone ((hp.pending k).1 hk₀).2, fun _ => ?_⟩
    rw [hp.text hk] at hrest'
    exact hrest'.assembles hk₀

theorem spans_joined_iff {key raw : String} {parts : List Expansion.Part}
    (ha : Assembles s.prefixKey (s.start h) key [] raw.toList parts) :
    Directive.spans (String.ofList (joined parts)) = [] ↔
      Tight false parts ∧ InsertsClean parts := by
  rw [Directive.spans_eq_nil_iff, String.toList_ofList]
  exact ha.find_eq_none_iff

/-- No directive is left at all exactly if no value without references holds one and no part of any
other value makes one with what follows it. -/
theorem expanded_clean_iff (hb : (s.build h).1 = .ok c) :
    (∀ k v, (s.expanded h).get? k = some v → Directive.spans v = []) ↔
      (∀ k raw, (s.layered h).get? k = some raw → Directive.references raw = [] →
        Directive.spans raw = []) ∧
      ∀ k raw parts, (s.layered h).get? k = some raw → Directive.references raw ≠ [] →
        Assembles s.prefixKey (s.start h) k [] raw.toList parts → Tight false parts := by
  have hp := build_prepared hb
  have hlayered : ∀ {k raw : String}, (s.layered h).get? k = some raw → 
      ∃ v, (s.expanded h).get? k = some v := by
    intro k raw hraw
    have hk : k ∈ (s.expanded h).keys := by
      rw [expanded_keys hb, ← Table.contains_iff, Table.contains, hraw]
      rfl
    exact Option.isSome_iff_exists.1 (Table.contains_iff.2 hk)
  constructor
  · refine fun hclean => ⟨fun k raw hraw hnone => ?_, fun k raw parts hraw hsome ha => ?_⟩
    · obtain ⟨v, hv⟩ := hlayered hraw
      rw [← (expanded_parts hb hraw hv).1 hnone]
      exact hclean k v hv
    · obtain ⟨v, hv⟩ := hlayered hraw
      obtain ⟨parts', ha', rfl⟩ := (expanded_parts hb hraw hv).2 hsome
      -- other parts may not be told apart, but their text is that of the value
      obtain heq := Except.ok.inj (Plain.unique ha.plain ha'.plain)
      rw [List.nil_append, List.nil_append] at heq
      have hspans := hclean k _ hv
      rw [← heq, spans_joined_iff ha] at hspans
      exact hspans.1
  · rintro ⟨hfree, htight⟩ k v hv
    have hk : k ∈ (s.layered h).keys := by
      rw [← expanded_keys hb, ← Table.contains_iff, Table.contains, hv]
      rfl
    have hraw := hp.get? k hk
    by_cases href : Directive.references (s.sourced h k) = []
    · rw [(expanded_parts hb hraw hv).1 href]
      exact hfree k _ hraw href
    · obtain ⟨parts, ha, rfl⟩ := (expanded_parts hb hraw hv).2 href
      have hk₀ := (hp.pending k).2 ⟨hk, href⟩
      have hrun : Plain s.prefixKey (s.start h) KeySet.empty (.value k)
          (.ok (String.ofList ([] ++ joined parts))) := by
        have hrest := ha.plain
        rw [← hp.text hk] at hrest
        exact .expanded hk₀ hrest
      have hstored : ∀ j, j ∉ (s.start h).pending →
          Directive.find false ((s.start h).text j).toList = none := by
        intro j hj
        by_cases hjk : j ∈ (s.layered h).keys
        · rw [hp.text hjk]
          refine Directive.find_of_spans_nil (hfree j _ (hp.get? j hjk) ?_)
          exact Decidable.byContradiction fun hne => hj ((hp.pending j).2 ⟨hjk, hne⟩)
        · rw [text_of_not_mem hjk]
          rfl
      refine Directive.spans_eq_nil_iff.2
        (hrun.clean ⟨_, rfl⟩ (KeySet.not_mem_empty k) hstored (fun j hj ps hps => ?_) rfl)
      obtain ⟨hjk, hne⟩ := (hp.pending j).1 hj
      rw [hp.text hjk] at hps
      exact htight j _ ps (hp.get? j hjk) hne hps

/-- **Where directives are left.** The values of a store that is built are its expanded values,
decoded. A value without references is expanded to itself. Any other is put together from
stretches of itself, where no directive is found, and from the values put in for references; so a
directive is found in it exactly if one is found in a value that was put in, or begins in one of
these parts and ends behind it. Hence no directive is left at all exactly if there is none in the
values without references, and no such seam. A close or an `otherwise` outside every block of a
value with references is never gone through: the expansion fails, unless a value that ends in a
percent sign is put in front of a directive, or a branch makes one with the text behind its block. -/
theorem leftover_directives (hb : (s.build h).1 = .ok c) :
    c.values = (s.expanded h).mapValues (fun _ => Directive.unescape) ∧
    (s.expanded h).keys = (s.layered h).keys ∧
    (∀ k raw v, (s.layered h).get? k = some raw → (s.expanded h).get? k = some v →
      (Directive.references raw = [] → v = raw) ∧
      (Directive.references raw ≠ [] → ∃ parts,
        Assembles s.prefixKey (s.start h) k [] raw.toList parts ∧ v = String.ofList (joined parts) ∧
        (Directive.spans v = [] ↔ Tight false parts ∧ InsertsClean parts) ∧
        (Steady parts → Directive.stray 0 (Directive.directives raw.toList) = false))) ∧
    ((∀ k v, (s.expanded h).get? k = some v → Directive.spans v = []) ↔
      (∀ k raw, (s.layered h).get? k = some raw → Directive.references raw = [] →
        Directive.spans raw = []) ∧
      ∀ k raw parts, (s.layered h).get? k = some raw → Directive.references raw ≠ [] →
        Assembles s.prefixKey (s.start h) k [] raw.toList parts → Tight false parts) ∧
    ∀ v, Directive.spans v = [] ↔ ∀ us vs, v.toList = us ++ vs → Directive.read? vs ≠ none →
      Text.endsIn (· == '%') us = true := by
  refine ⟨(build_expanded hb).2, expanded_keys hb, fun k raw v hraw hv => ?_,
    expanded_clean_iff hb, fun v => Directive.spans_eq_nil_iff_escaped⟩
  obtain ⟨hfree, hparts⟩ := expanded_parts hb hraw hv
  refine ⟨hfree, fun hne => ?_⟩
  obtain ⟨parts, ha, rfl⟩ := hparts hne
  exact ⟨parts, ha, rfl, spans_joined_iff ha, fun hs => ha.balanced hs (.inl rfl)⟩

/-- A close in a value without references (`S`), a text that makes a directive with the text behind
its reference (`K`), and values that a text ending in a percent sign (`U`) or a branch (`J`) rids of
a close too many. -/
def remnant : Store where
  defaults := [("S", "%{}"), ("K", "%{P}{B}"), ("U", "%{P}%{}"), ("J", "%{!P}%{?P%{}}%{}"),
    ("P", "x%")].map fun e => Setting.make e.1 .string e.2 "" "" ""

def remnantValues : Table String :=
  Table.ofList [("S", "%{}"), ("K", "%{P}{B}"), ("U", "%{P}%{}"), ("J", "%{!P}%{?P%{}}%{}"),
    ("P", "x%")]

theorem remnant_merge : (Layering.merge remnant.plan {} remnant.defaults).1 = .ok remnantValues :=
  rfl

theorem remnant_closed :
    Layering.Closed remnant.plan.stems (Layering.layer remnant.defaults remnantValues) := by
  decide +kernel

theorem remnant_layered : remnant.layered {} = remnantValues :=
  (build_closed rfl remnant_merge remnant_closed).1.trans rfl

theorem remnant_expanded :
    ((remnant.start {}).resolveAll remnant.prefixKey (remnant.keys {})).1 = .ok () ∧
      (remnant.expanded {}).entries =
        [("S", "%{}"), ("K", "x%{B}"), ("U", "x%%{}"), ("J", ""), ("P", "x%")] := by
  obtain ⟨hstart, hkeys⟩ := start_closed remnant_merge remnant_closed
  rw [expanded, hstart, hkeys]
  decide +kernel

theorem remnant_builds : ∃ c, (remnant.build {}).1 = .ok c :=
  (exists_build_iff rfl remnant_merge).2 remnant_expanded.1

theorem remnant_directives : Directive.spans "%{}" = [⟨0, 3, .close⟩] ∧
    Directive.spans "x%{B}" = [⟨1, 4, .substitute (.direct "B")⟩] ∧
    ∀ raw ∈ ["%{P}%{}", "%{!P}%{?P%{}}%{}"],
      Directive.stray 0 (Directive.directives raw.toList) = true := by
  decide_cbv

/-- The directive that is left in `K` lies across a seam. -/
theorem remnant_K_seam : ∃ c, (remnant.build {}).1 = .ok c ∧ ∃ parts,
    Assembles "VARPREFIX" (remnant.start {}) "K" [] "%{P}{B}".toList parts ∧
      joined parts = "x%{B}".toList ∧ ¬(Tight false parts ∧ InsertsClean parts) := by
  obtain ⟨c, hb⟩ := remnant_builds
  have hraw : (remnant.layered {}).get? "K" = some "%{P}{B}" := by
    rw [remnant_layered]
    decide
  have hv : (remnant.expanded {}).get? "K" = some "x%{B}" := by
    rw [Table.get?, remnant_expanded.2]
    decide
  obtain ⟨-, -, hexpanded, -⟩ := leftover_directives hb
  obtain ⟨hfree, hparts⟩ := hexpanded "K" _ _ hraw hv
  obtain ⟨parts, ha, hjoined, hiff, -⟩ := hparts fun hnone => absurd (hfree hnone) (by decide)
  refine ⟨c, hb, parts, ha, ?_, fun hclean => ?_⟩
  · rw [hjoined, String.toList_ofList]
  · have hspans := hiff.2 hclean
    rw [remnant_directives.2.1] at hspans
    cases hspans

/-- The store is built, but directives are left in `S` and `K`, and `U` and `J` have a close outside
every block. -/
theorem remnant_left : (∃ c, (remnant.build {}).1 = .ok c) ∧
    (remnant.expanded {}).entries =
      [("S", "%{}"), ("K", "x%{B}"), ("U", "x%%{}"), ("J", ""), ("P", "x%")] ∧
    Directive.spans "%{}" = [⟨0, 3, .close⟩] ∧
    Directive.spans "x%{B}" = [⟨1, 4, .substitute (.direct "B")⟩] ∧
    ∀ k ∈ ["U", "J"], ∃ raw, (remnant.layered {}).get? k = some raw ∧
      Directive.stray 0 (Directive.directives raw.toList) = true := by
  obtain ⟨hS, hK, hstray⟩ := remnant_directives
  refine ⟨remnant_builds, remnant_expanded.2, hS, hK, fun k hk => ?_⟩
  rw [remnant_layered]
  simp only [List.mem_cons, List.not_mem_nil, or_false] at hk
  rcases hk with rfl | rfl
  · exact ⟨"%{P}%{}", by decide, hstray _ (by decide)⟩
  · exact ⟨"%{!P}%{?P%{}}%{}", by decide, hstray _ (by decide)⟩

end LayeredConfig.Store
