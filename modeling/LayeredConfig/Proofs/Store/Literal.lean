import LayeredConfig.Proofs.Directive.Literal
import LayeredConfig.Proofs.Store.Opacity

/-!
# Literal texts in a configuration

A literal is searched for directives when its key is layered, put in for references any number of
times, and decoded in every key that it came to. It means its text throughout.

* `Plain.of_substitution`: a value that is nothing but a reference comes to what the reference does.
* `Store.literal_survives`: along a chain of such values, a literal comes out as its text.
-/

namespace LayeredConfig

theorem Expansion.Plain.of_substitution {prefixKey K A tK tA : String} {s : Expansion.State}
    (hA : Directive.read? (Directive.substitution A).toList = some (.substitute (.direct A), []))
    (hK : s.text K = Directive.substitution A) (hKp : K ∈ s.pending)
    (hrunK : Plain prefixKey s KeySet.empty (.value K) (.ok tK))
    (hrunA : Plain prefixKey s KeySet.empty (.value A) (.ok tA)) : tK = tA := by
  obtain ⟨m, hm, hmarks⟩ := Directive.read?_marks hA
  have htext : (s.text K).toList = [] ++ (m ++ []) := by rw [hK, hm, List.nil_append]
  have hbehind : Plain prefixKey s KeySet.empty (.rest K tA.toList []) (.ok tK) :=
    Plain.behind_reference rfl rfl hmarks htext hKp hrunK hrunA
  rcases hbehind.rest_cases (Job.rest_fits hKp) with ⟨-, rfl⟩ | ⟨f, hf, -⟩
  · rw [List.append_nil, String.ofList_toList]
  · cases hf

namespace Store

/-- **Literal texts survive.** Let the layered value of `K 0` be a text written as a literal, and
let that of each later key of the chain be nothing but a reference to the key in front. When the
store is built, `K 0` is not among the keys that refer to others, and every key of the chain has the
text itself as its final value. -/
theorem literal_survives {h : Host} {s : Store} {c : Config} (hb : (s.build h).1 = .ok c)
    {text : String} {K : Nat → String} {n : Nat}
    (hname : ∀ i < n, Directive.read? (Directive.substitution (K i)).toList =
      some (.substitute (.direct (K i)), []))
    (hfirst : (s.layered h).get? (K 0) = some (Directive.escape text))
    (hnext : ∀ i < n, (s.layered h).get? (K (i + 1)) = some (Directive.substitution (K i))) :
    K 0 ∉ (s.start h).pending ∧ ∀ i ≤ n, c.item (K i) = .ok text := by
  have hp := build_prepared hb
  obtain ⟨hsearched, hitem⟩ := build_values hb
  have hstored : K 0 ∉ (s.start h).pending := by
    intro hpending
    obtain ⟨hkey, href⟩ := (hp.pending (K 0)).1 hpending
    have hraw := Option.some.inj ((hp.get? _ hkey).symm.trans hfirst)
    exact href (hraw ▸ Directive.references_escape text)
  -- every key of the chain comes to the literal as it is written
  have hrun : ∀ i ≤ n, Expansion.Plain s.prefixKey (s.start h) KeySet.empty (.value (K i))
      (.ok (Directive.escape text)) := by
    intro i
    induction i with
    | zero =>
      intro _
      have hplain : Expansion.Plain s.prefixKey (s.start h) KeySet.empty (.value (K 0))
          (.ok ((s.start h).text (K 0))) := .stored hstored
      rwa [text_of_layered hfirst] at hplain
    | succ i ih =>
      intro hi
      have hv := hnext i hi
      obtain ⟨t, -, ht⟩ := hitem (K (i + 1)) (by rw [hv]; rfl)
      have href := Directive.mem_references_of_read? (hname i hi) rfl
      have hpending := (hsearched _ _ hv).1 (List.ne_nil_of_mem href)
      obtain rfl := ht.of_substitution (hname i hi) (text_of_layered hv) hpending (ih (Nat.le_of_succ_le hi))
      exact ht
  refine ⟨hstored, fun i hi => ?_⟩
  have hsome : ((s.layered h).get? (K i)).isSome := by
    cases i with
    | zero => rw [hfirst]; rfl
    | succ i => rw [hnext i hi]; rfl
  obtain ⟨t, hc, ht⟩ := hitem (K i) hsome
  obtain rfl := Except.ok.inj (Expansion.Plain.unique ht (hrun i hi))
  rw [hc, Directive.unescape_escape]

/-- A literal with openers behind one and two percent signs, a key that refers to it, and one that
refers to that key. -/
def relay : Store where
  defaults := [("K", "a%%\x7bx\x7d%%%\x7b"), ("L", "%{K}"), ("M", "%{L}")].map
    fun e => Setting.make e.1 .string e.2 "" "" ""

def relayValues : Table String :=
  Table.ofList [("K", "a%%\x7bx\x7d%%%\x7b"), ("L", "%{K}"), ("M", "%{L}")]

def relayKey : Nat → String
  | 0 => "K"
  | 1 => "L"
  | _ => "M"

theorem relay_merge : (Layering.merge relay.plan {} relay.defaults).1 = .ok relayValues := rfl

def relayState : Expansion.State where
  values := (Layering.layer relay.defaults relayValues).values
  pending := (Layering.layer relay.defaults relayValues).referring

theorem relay_closed :
    Layering.Closed relay.plan.stems (Layering.layer relay.defaults relayValues) ∧
      (relayState.resolveAll relay.prefixKey
        ((Layering.layer relay.defaults relayValues).settings.map (·.key))).1 = .ok () := by
  decide +kernel

theorem relay_layered : relay.layered {} = relayValues :=
  (build_closed rfl relay_merge relay_closed.1).1.trans rfl

theorem relay_builds : ∃ c, (relay.build {}).1 = .ok c := by
  refine (exists_build_iff rfl relay_merge).2 ?_
  obtain ⟨hstart, hkeys⟩ := start_closed relay_merge relay_closed.1
  rw [hstart, hkeys]
  exact relay_closed.2

/-- The literal is put in twice and comes out of `M` as the text. -/
theorem relay_M_literal : ∃ c, (relay.build {}).1 = .ok c ∧
    c.item "M" = .ok "a%\x7bx\x7d%%\x7b" := by
  obtain ⟨c, hb⟩ := relay_builds
  have hname : ∀ i < 2, Directive.read? (Directive.substitution (relayKey i)).toList =
      some (.substitute (.direct (relayKey i)), []) := by
    decide
  have hfirst : (relay.layered {}).get? (relayKey 0) =
      some (Directive.escape "a%\x7bx\x7d%%\x7b") := by
    rw [relay_layered]
    decide
  have hnext : ∀ i < 2, (relay.layered {}).get? (relayKey (i + 1)) =
      some (Directive.substitution (relayKey i)) := by
    rw [relay_layered]
    decide
  exact ⟨c, hb, (literal_survives hb hname hfirst hnext).2 2 (by decide)⟩

end Store

end LayeredConfig
