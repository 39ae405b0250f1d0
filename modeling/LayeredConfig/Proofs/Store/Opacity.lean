import LayeredConfig.Proofs.Expansion.Opacity
import LayeredConfig.Proofs.Store.Build

/-!
# Substituted texts in a configuration

The value of a key in a configuration is the text that its layered value comes to, decoded. Where
a layered value refers to a key, the final value of that key stands in the final text; the texts
around it are as they are in values of their own, unless an escaped opener straddles the place where
the substituted text ends.

* `Store.Yields`: the final value of a part of a value.
* `Store.build_values`: what a configuration holds for each of them.
* `Store.substituted_text_opaque`: which ends of a substituted text change the text behind it.
-/

namespace LayeredConfig

open Expansion (Plain State)

namespace Store

/-- A part of the value of a key has a final value of its own. -/
def Yields (h : Host) (s : Store) (key : String) (cs : List Char) (value : String) : Prop :=
  ∃ text, Plain s.prefixKey (s.start h) KeySet.empty (.rest key [] cs) (.ok text) ∧
    value = Directive.unescape text

/-- A configuration holds, for every key that was layered, the text that its value comes to,
decoded. The keys whose values refer to others are pending at first, and all keys that are referred
to outright are layered. -/
theorem build_values {h : Host} {s : Store} {c : Config} (hb : (s.build h).1 = .ok c) :
    (∀ k v, (s.layered h).get? k = some v →
      (Directive.references v ≠ [] → k ∈ (s.start h).pending) ∧
        ∀ name, .direct name ∈ Directive.references v → ((s.layered h).get? name).isSome) ∧
    ∀ k, ((s.layered h).get? k).isSome → ∃ text, c.item k = .ok (Directive.unescape text) ∧
      Plain s.prefixKey (s.start h) KeySet.empty (.value k) (.ok text) := by
  have hp := build_prepared hb
  refine ⟨fun k v hv => ?_, fun k hk => ?_⟩
  · have hk : k ∈ (s.layered h).keys := Table.contains_iff.1 (by simp [Table.contains, hv])
    obtain rfl : s.sourced h k = v := Option.some.inj ((hp.get? k hk).symm.trans hv)
    refine ⟨fun hne => (hp.pending k).2 ⟨hk, hne⟩, fun name hn => Table.contains_iff.2 ?_⟩
    exact hp.refers k hk _ hn name (by simp [Layering.targets])
  · obtain ⟨text, ht, hplain⟩ := expanded_get? hb (Table.contains_iff.1 hk)
    exact ⟨text, item_of_expanded hb ht, hplain⟩

/-! ## A reference between two texts -/

/-- **A substituted text and the text behind it.** Let the layered value of `K` be `l%{A}r` and
that of `R` be `r`, where `l` holds no directive and does not end in a percent sign. Then the final
value of `K` is `l` decoded, the final value of `A` and that of `R`, unless an escaped opener
straddles the end of the value of `A` and the beginning of `r`. If one does, it is another text,
save where `r` begins with a directive and the value of `R` happens to be what stays of that
directive behind its percent sign, followed by the value of the text behind it. -/
theorem substituted_text_opaque {h : Host} {s : Store} {c : Config} {K A R l r : String}
    (hb : (s.build h).1 = .ok c)
    (hA : Directive.read? (Directive.substitution A).toList = some (.substitute (.direct A), []))
    (hK : (s.layered h).get? K = some (l ++ Directive.substitution A ++ r))
    (hR : (s.layered h).get? R = some r) (hl : Directive.spans l = [])
    (hend : Text.endsIn (· == '%') l.toList = false) :
    ∃ a ρ, c.item A = .ok a ∧ c.item R = .ok ρ ∧
      (c.item K = .ok (Directive.unescape l ++ a ++ ρ) ↔
        ¬Directive.Straddles a.toList r.toList ∨
          ∃ mark d rest v, r.toList = '%' :: mark ++ rest ∧
            Directive.read? r.toList = some (d, rest) ∧ s.Yields h K rest v ∧
            ρ = String.ofList mark ++ v) := by
  obtain ⟨hsearched, hitem⟩ := build_values hb
  have hfind := Directive.find_of_spans_nil hl
  have hle : Directive.escapes false l.toList = false := by rw [Directive.escapes_false, hend]
  obtain ⟨m, hm, hmarks⟩ := Directive.read?_marks hA
  have htext : (l ++ Directive.substitution A ++ r).toList = l.toList ++ (m ++ r.toList) := by
    rw [String.toList_append, String.toList_append, hm, List.append_nil, List.append_assoc]
  -- `K` refers to `A`, so it is pending and `A` is layered
  have href : .direct A ∈ Directive.references (l ++ Directive.substitution A ++ r) :=
    Directive.reference_mem_references
      (by rw [htext]; exact Directive.find_of_marks hfind hle hmarks _) rfl
  obtain ⟨hKp, hlayered⟩ := hsearched K _ hK
  obtain ⟨tK, hcK, hrunK⟩ := hitem K (by rw [hK]; rfl)
  obtain ⟨tA, hcA, hrunA⟩ := hitem A (hlayered A href)
  obtain ⟨tR, hcR, hrunR⟩ := hitem R (by rw [hR]; rfl)
  have hRp : R ∉ (s.start h).pending → Directive.references ((s.start h).text R) = [] := by
    rw [text_of_layered hR]
    exact fun hn => Decidable.byContradiction fun hne => hn ((hsearched R r hR).1 hne)
  have hopaque := Expansion.substituted_opaque hfind hle hmarks (by rw [text_of_layered hK, htext])
    (hKp (List.ne_nil_of_mem href)) (by rw [text_of_layered hR]) hRp hrunK hrunA hrunR
  refine ⟨_, _, hcA, hcR, ?_⟩
  have hchars : Directive.unescape tK =
        Directive.unescape l ++ Directive.unescape tA ++ Directive.unescape tR ↔
      Directive.decodeEscapes tK.toList =
        Directive.decodeEscapes l.toList ++ Directive.decodeEscapes tA.toList ++
          Directive.decodeEscapes tR.toList := by
    simp only [Directive.unescape, ← String.ofList_append, String.ofList_inj]
  have htA : (Directive.unescape tA).toList = Directive.decodeEscapes tA.toList :=
    String.toList_ofList
  rw [hcK, Except.ok.injEq, hchars, hopaque, htA]
  refine or_congr_right ⟨?_, ?_⟩
  · rintro ⟨mark, d, rest, t, hr, hd, hrest, he⟩
    refine ⟨mark, d, rest, _, hr, hd, ⟨t, hrest, rfl⟩, ?_⟩
    rw [Directive.unescape, he, String.ofList_append]
    rfl
  · rintro ⟨mark, d, rest, _, hr, hd, ⟨t, hrest, rfl⟩, he⟩
    refine ⟨mark, d, rest, t, hr, hd, hrest, ?_⟩
    rw [Directive.unescape, Directive.unescape, ← String.ofList_append] at he
    exact String.ofList_injective he

/-- `K` and `L` refer to a text and to `B` behind it, as `R` does; the text of `P` ends in a percent
sign. -/
def percent : Store where
  defaults := [("K", "k%{A}%{B}"), ("L", "%{P}%{B}"), ("R", "%{B}"), ("A", "x"), ("P", "x%"),
    ("B", "v")].map fun e => Setting.make e.1 .string e.2 "" "" ""

def percentValues : Table String :=
  Table.ofList [("K", "k%{A}%{B}"), ("L", "%{P}%{B}"), ("R", "%{B}"), ("A", "x"), ("P", "x%"),
    ("B", "v")]

theorem percent_merge : (Layering.merge percent.plan {} percent.defaults).1 = .ok percentValues :=
  rfl

theorem percent_closed :
    Layering.Closed percent.plan.stems (Layering.layer percent.defaults percentValues) := by
  decide +kernel

theorem percent_layered : percent.layered {} = percentValues :=
  (build_closed rfl percent_merge percent_closed).1.trans rfl

theorem percent_config : ∃ c, (percent.build {}).1 = .ok c ∧ c.item "A" = .ok "x" ∧
    c.item "P" = .ok "x%" ∧ c.item "R" = .ok "v" ∧ c.item "L" = .ok "x%{B}" := by
  have hvalues : (percent.build {}).1.toOption.map
      (fun c => ["A", "P", "R", "L"].map c.values.get?) =
      some [some "x", some "x%", some "v", some "x%{B}"] := by
    rw [(build_closed rfl percent_merge percent_closed).2]
    decide +kernel
  rcases hb : (percent.build {}).1 with e | c
  · rw [hb] at hvalues
    cases hvalues
  · rw [hb] at hvalues
    simp only [Except.toOption, Option.map_some, List.map_cons, List.map_nil, Option.some.injEq,
      List.cons.injEq] at hvalues
    obtain ⟨hA, hP, hR, hL, -⟩ := hvalues
    exact ⟨c, rfl, by simp [Config.item, hA], by simp [Config.item, hP], by simp [Config.item, hR],
      by simp [Config.item, hL]⟩

theorem percent_K_opaque : ∃ c, (percent.build {}).1 = .ok c ∧ c.item "K" = .ok "kxv" := by
  obtain ⟨c, hb, hA, -, hR, -⟩ := percent_config
  have hK : (percent.layered {}).get? "K" = some ("k" ++ Directive.substitution "A" ++ "%{B}") := by
    rw [percent_layered]
    decide
  have hlR : (percent.layered {}).get? "R" = some "%{B}" := by
    rw [percent_layered]
    decide
  obtain ⟨a, ρ, ha, hρ, hiff⟩ :=
    substituted_text_opaque hb (by cbv) hK hlR (by cbv) (by decide)
  obtain rfl := Except.ok.inj (hA.symm.trans ha)
  obtain rfl := Except.ok.inj (hR.symm.trans hρ)
  exact ⟨c, hb, hiff.2 (.inl (by decide))⟩

/-- The texts are those of the statement, but the percent sign at the end of `P` escapes the
directive behind it. -/
theorem percent_L_not_opaque : ∃ c, (percent.build {}).1 = .ok c ∧
    Directive.read? (Directive.substitution "P").toList = some (.substitute (.direct "P"), []) ∧
    (percent.layered {}).get? "L" = some ("" ++ Directive.substitution "P" ++ "%{B}") ∧
    (percent.layered {}).get? "R" = some "%{B}" ∧ Directive.spans "" = [] ∧
    Text.endsIn (· == '%') "".toList = false ∧
    c.item "P" = .ok "x%" ∧ c.item "R" = .ok "v" ∧
    c.item "L" ≠ .ok (Directive.unescape "" ++ "x%" ++ "v") := by
  obtain ⟨c, hb, -, hP, hR, hL⟩ := percent_config
  refine ⟨c, hb, by cbv, ?_, ?_, by cbv, rfl, hP, hR, ?_⟩
  · rw [percent_layered]
    decide
  · rw [percent_layered]
    decide
  · rw [hL]
    intro h
    exact absurd (Except.ok.inj h) (by decide)

end Store

end LayeredConfig
