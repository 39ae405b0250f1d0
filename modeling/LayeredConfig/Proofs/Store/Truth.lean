import LayeredConfig.Proofs.Directive.Choice
import LayeredConfig.Proofs.Store.Opacity

/-!
# The branch that was taken and the truth of the key

A conditional block looks at the text of its key in the middle of an expansion, before escapes are
decoded, and perhaps before the key was expanded on its own. The finished configuration is asked for
the truth of the decoded value. Both agree.

* `Plain.of_choice`: a choice comes to the branch that the text of its key selects; this text is the
  one that the key comes to on its own.
* `Config.getBool_of_item`: the truth that a configuration tells of a key is that of its item.
* `Store.branch_agrees`: so the branch tells the truth of the key.
-/

namespace LayeredConfig

theorem Expansion.Plain.of_choice {prefixKey T K first second tT tK : String} {wanted : Bool}
    {s : Expansion.State}
    (hname : Directive.read? (Directive.opening wanted K).toList =
      some (Directive.condition wanted (.direct K), []))
    (hfirst : '%' ∉ first.toList) (hsecond : '%' ∉ second.toList)
    (hT : s.text T = Directive.choice wanted K first second) (hTp : T ∈ s.pending)
    (hrunT : Plain prefixKey s KeySet.empty (.value T) (.ok tT))
    (hrunK : Plain prefixKey s KeySet.empty (.value K) (.ok tK)) :
    tT = if Setting.isTrue tK = wanted then first else second := by
  obtain ⟨after, length, hfind, hblock⟩ := Directive.read_choice hname hfirst hsecond
  have hrest : Plain prefixKey s KeySet.empty (.rest T [] (s.text T).toList) (.ok tT) := by
    cases hrunT with
    | stored hn => exact absurd hTp hn
    | expanded _ h => exact h
  rw [hT] at hrest
  rcases hrest.rest_cases (Job.rest_fits hTp) with
    ⟨hf, -⟩ | ⟨f, hf, ⟨ref, t, hd, -, -⟩ | ⟨ref, w, t, b, hd, hfollow, hb, hbranch⟩⟩
  · rw [show Text.endsIn (· == '%') [] = false from rfl, hfind] at hf
    cases hf
  · obtain rfl := Option.some.inj (hfind.symm.trans hf)
    cases wanted <;> cases hd
  · obtain rfl := Option.some.inj (hfind.symm.trans hf)
    have hcond : (Directive.condition wanted (.direct K)).condition? = some (.direct K, wanted) := by
      cases wanted <;> rfl
    obtain ⟨rfl, rfl⟩ := Prod.mk.inj (Option.some.inj (hcond.symm.trans hd))
    obtain rfl := Except.ok.inj (hblock.symm.trans hb)
    -- the key was asked for on the path of `T`, but its text is the one it has on its own
    have hvalue := (hfollow.direct_inv ⟨KeySet.not_mem_empty _, hTp⟩).demand_value
    obtain rfl := Except.ok.inj (Plain.unique hvalue hrunK)
    have hplain : '%' ∉ (Directive.Block.select (Setting.isTrue t == wanted)
        ⟨first.toList, second.toList, []⟩) := by
      cases Setting.isTrue t == wanted <;> simpa [Directive.Block.select]
    rcases hbranch.rest_cases (Job.rest_fits hTp) with ⟨-, rfl⟩ | ⟨f, hf', -⟩
    · by_cases htruth : Setting.isTrue t = wanted
      · simp [htruth, Directive.Block.select]
      · simp [htruth, Directive.Block.select]
    · rw [Directive.find_of_not_mem hplain] at hf'
      cases hf'

theorem Config.getBool_of_item {c : Config} {key text : String} (h : c.item key = .ok text)
    (default : Bool) : c.getBool key default = Setting.isTrue text := by
  unfold item at h
  split at h
  · rename_i v hv
    obtain rfl := Except.ok.inj h
    rw [getBool, hv]
  · cases h

namespace Store

/-- **A branch tells the truth of its key.** Let the layered value of `T` be a choice on `K` between
two texts without percent signs, and let the store be built. Then `T` has the first of them as its
final value if the configuration tells of `K` the truth that the choice wants, and the second
otherwise. So if the texts are distinct, `T` has the first exactly if `K` has that truth. It does not
matter where `K` comes from or how its value is made; it is a key, so the default is not asked. -/
theorem branch_agrees {h : Host} {s : Store} {c : Config} (hb : (s.build h).1 = .ok c)
    {T K first second : String} {wanted : Bool}
    (hname : Directive.read? (Directive.opening wanted K).toList =
      some (Directive.condition wanted (.direct K), []))
    (hfirst : '%' ∉ first.toList) (hsecond : '%' ∉ second.toList) (hne : first ≠ second)
    (hT : (s.layered h).get? T = some (Directive.choice wanted K first second)) :
    K ∈ c.values.keys ∧ ∀ default,
      c.item T = .ok (if c.getBool K default = wanted then first else second) ∧
        (c.item T = .ok first ↔ c.getBool K default = wanted) := by
  obtain ⟨hsearched, hitem⟩ := build_values hb
  obtain ⟨after, length, hfind, -⟩ := Directive.read_choice hname hfirst hsecond
  have href : .direct K ∈ Directive.references (Directive.choice wanted K first second) := by
    apply Directive.reference_mem_references hfind
    cases wanted <;> rfl
  obtain ⟨hTp, hlayered⟩ := hsearched T _ hT
  obtain ⟨tT, hcT, hrunT⟩ := hitem T (by rw [hT]; rfl)
  obtain ⟨tK, hcK, hrunK⟩ := hitem K (hlayered K href)
  have hbranch :=
    hrunT.of_choice hname hfirst hsecond (text_of_layered hT) (hTp (List.ne_nil_of_mem href)) hrunK
  have hpercent : '%' ∉ tT.toList := by
    rw [hbranch]
    split
    · exact hfirst
    · exact hsecond
  have hdecoded : Directive.unescape tT = tT := by
    rw [Directive.unescape, Directive.decodeEscapes_of_not_mem hpercent, String.ofList_toList]
  refine ⟨?_, fun default => ?_⟩
  · rw [config_keys hb]
    exact Table.contains_iff.1 (hlayered K href)
  · have hvalue : c.item T = .ok (if c.getBool K default = wanted then first else second) := by
      rw [hcT, hdecoded, hbranch, Config.getBool_of_item hcK, Setting.isTrue_unescape]
    refine ⟨hvalue, ?_⟩
    rw [hvalue, Except.ok.injEq]
    by_cases htruth : c.getBool K default = wanted
    · simp [htruth]
    · simp [htruth, Ne.symm hne]

/-- A choice on a name that only the environment knows and whose value is a reference, and one on a
name whose value is an escaped reference. -/
def forked : Store where
  defaults := [("T", "%{?K}on%{else}off%{}"), ("U", "%{!E}on%{else}off%{}"), ("M", "Yes")].map
    fun e => Setting.make e.1 .string e.2 "" "" ""

def forkedHost : Host where
  env := Table.ofList [("K", "%{M}"), ("E", "%%{M}")]

def forkedMerged : Table String :=
  Table.ofList [("T", "%{?K}on%{else}off%{}"), ("U", "%{!E}on%{else}off%{}"), ("M", "Yes")]

theorem forked_merge :
    (Layering.merge forked.plan forkedHost forked.defaults).1 = .ok forkedMerged := rfl

theorem forked_search :
    (forked.searched forkedHost forkedMerged 5).1 = [] ∧
    (forked.searched forkedHost forkedMerged 5).2.1.values.get? "T" =
      some (Directive.choice true "K" "on" "off") ∧
    (forked.searched forkedHost forkedMerged 5).2.1.values.get? "U" =
      some (Directive.choice false "E" "on" "off") ∧
    (forked.attempt forkedHost forkedMerged 5).1 = .ok () ∧
    (forked.attempt forkedHost forkedMerged 5).2.values.get? "K" = some "Yes" ∧
    (forked.attempt forkedHost forkedMerged 5).2.values.get? "E" = some "%%{M}" := by
  decide +kernel

/-- `K` is true and `E` is false, so both choices are for the first branch. -/
theorem forked_branches : ∃ c, (forked.build forkedHost).1 = .ok c ∧
    c.getBool "K" false = true ∧ c.item "T" = .ok "on" ∧
    c.getBool "E" true = false ∧ c.item "U" = .ok "on" := by
  obtain ⟨hend, hT, hU, hok, hK, hE⟩ := forked_search
  obtain ⟨c, hb, hexpanded, hlayered⟩ := build_attempt 5 rfl forked_merge hend hok
  rw [← hlayered] at hT hU
  have hKtrue : c.getBool "K" false = true := by
    rw [Config.getBool_of_item (item_of_expanded hb (hexpanded ▸ hK))]
    decide
  have hEfalse : c.getBool "E" true = false := by
    rw [Config.getBool_of_item (item_of_expanded hb (hexpanded ▸ hE))]
    decide
  obtain ⟨-, hTbranch⟩ := branch_agrees hb (by decide) (by decide) (by decide) (by decide) hT
  obtain ⟨-, hUbranch⟩ := branch_agrees hb (by decide) (by decide) (by decide) (by decide) hU
  exact ⟨c, hb, hKtrue, (hTbranch false).2.2 hKtrue, hEfalse, (hUbranch true).2.2 hEfalse⟩

end Store

end LayeredConfig
