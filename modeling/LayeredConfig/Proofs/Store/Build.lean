import LayeredConfig.Proofs.Expansion.Storage
import LayeredConfig.Proofs.Layering.Closure
import LayeredConfig.Store

/-!
# Between layering and decoding

A store that is built has layered its settings, expanded all of them in order, and decoded the
escapes of what came out.

* `Store.layered`: the values after layering, before expansion; `Store.start` has the pending keys
  as well. `Store.sourced`: the value that the sources give to a name.
* `Store.Prepared`, `Store.prepared_of_merged`: the state that the expansion starts from, in terms of
  the sources; `Store.layered_isLeast`: its keys are those of the least closure.
* `Store.start_of_layering`, `Store.build_eq_resolve`: what the layering of a store leads to, and
  `Store.resolve_eq_ok` what its expansion does.
* `Store.expanded`: the values between expansion and decoding.
* `Store.build_prepared`, `Store.build_expanded`: a store that is built went through both.
* `Store.config_keys`, `Store.resolve_settings`: the keys and the settings of a configuration.
* `Store.build_eq_merge_error`, `Store.exists_build_iff`, `Store.build_eq_error`: a store whose sources
  cannot be merged passes their fault on, and one whose sources are merged is built unless an
  expansion fails, and then the build reports that failure; `Store.build_attempt`: so one that is
  given is built if its search and its expansion are gone through.
-/

namespace LayeredConfig.Store

open Expansion (Plain Remembers State)

/-- The values of all keys after layering, before any is expanded. -/
def layered (h : Host) (s : Store) : Table String :=
  (Layering.build s.plan h { settings := s.defaults }).2.1.values

/-- The state that the expansion of a store starts from. -/
def start (h : Host) (s : Store) : State where
  values := s.layered h
  pending :=
    match (Layering.build s.plan h { settings := s.defaults }).1 with
    | .ok pending => pending
    | .error _ => KeySet.empty

/-- The value that the sources give to a name: the environment's if it has one, else that of the
defaults and overlays, else the empty text. -/
def sourced (h : Host) (s : Store) (name : String) : String :=
  ((h.env.get? name).or
    ((Layering.overlaid s.plan h s.defaults).2.values.get? name)).getD ""

def keys (h : Host) (s : Store) : List String :=
  (Layering.build s.plan h { settings := s.defaults }).2.1.settings.map (·.key)

/-- The values of all keys after expansion, before they are decoded. -/
def expanded (h : Host) (s : Store) : Table String :=
  ((s.start h).resolveAll s.prefixKey (s.keys h)).2.values

/-- Each layered key has its value from the sources, is pending if this makes a reference, and the
keys that it refers to are layered. -/
structure Prepared (h : Host) (s : Store) : Prop where
  keys : ∀ k, k ∈ s.keys h ↔ k ∈ (s.layered h).keys
  get? : ∀ k ∈ (s.layered h).keys, (s.layered h).get? k = some (s.sourced h k)
  pending : ∀ k, k ∈ (s.start h).pending ↔
    k ∈ (s.layered h).keys ∧ Directive.references (s.sourced h k) ≠ []
  refers : ∀ k ∈ (s.layered h).keys, ∀ ref ∈ Directive.references (s.sourced h k),
    ∀ n ∈ Layering.targets s.plan.stems ref, n ∈ (s.layered h).keys

variable {h : Host} {s : Store} {c : Config} {b : Layering.Builder} {pending : KeySet}

section layering
variable {journal : Journal} (hn : s.config? = none)
  (hlay : Layering.build s.plan h { settings := s.defaults } = (.ok pending, b, journal))
include hlay

theorem start_of_layering :
    s.start h = { values := b.values, pending := pending } ∧
      s.layered h = b.values ∧ s.keys h = b.settings.map (·.key) := by
  rw [start, layered, keys, hlay]
  exact ⟨rfl, rfl, rfl⟩

include hn

theorem build_eq_resolve : (s.build h).1 = (resolve s.prefixKey b pending).1 := by
  simp only [build, isBuilt, hn, Option.isSome_none, Bool.false_eq_true, if_false,
    resolveSettings, hlay]
  rcases (resolve s.prefixKey b pending) with ⟨e | c, more⟩ <;> rfl

theorem build_of_layering (hres : (resolve s.prefixKey b pending).1 = .ok c) :
    (s.build h).1 = .ok c :=
  (build_eq_resolve hn hlay).trans hres

end layering

theorem resolve_eq_ok {prefixKey : String} :
    (resolve prefixKey b pending).1 = .ok c ↔
      ∃ st, State.resolveAll { values := b.values, pending := pending } prefixKey
          (b.settings.map (·.key)) = (.ok (), st) ∧
        c = ⟨st.unescape.values,
          b.settings.map fun s => { s with current := st.unescape.values.getD s.key "" }⟩ := by
  unfold resolve
  dsimp only
  split
  · rename_i e st hst
    simp [hst]
  · rename_i st hst
    simp [hst, eq_comm]

theorem resolve_eq_error {prefixKey : String} {e : DirectiveFault} {st : State}
    (hst : State.resolveAll { values := b.values, pending := pending } prefixKey
      (b.settings.map (·.key)) = (.error e, st)) :
    (resolve prefixKey b pending).1 = .error (.directive e) := by
  simp only [resolve, hst]

theorem build_eq_ok (hb : (s.build h).1 = .ok c) :
    ∃ pending b journal,
      Layering.build s.plan h { settings := s.defaults } = (.ok pending, b, journal) ∧
        (resolve s.prefixKey b pending).1 = .ok c := by
  unfold build at hb
  split at hb
  · cases hb
  · split at hb
    · cases hb
    · rename_i c' journal hres
      obtain rfl := Except.ok.inj hb
      unfold resolveSettings at hres
      split at hres
      · cases hres
      · rename_i pending b journal' hlay
        exact ⟨pending, b, journal', hlay, congrArg Prod.fst hres⟩

theorem unbuilt_of_build (hb : (s.build h).1 = .ok c) : s.config? = none := by
  unfold build isBuilt at hb
  cases hconfig : s.config? with
  | none => rfl
  | some _ => simp [hconfig] at hb

theorem resolve_settings {prefixKey : String} (hres : (resolve prefixKey b pending).1 = .ok c) :
    c.settings = b.settings.map fun s => { s with current := c.values.getD s.key "" } := by
  obtain ⟨_, -, rfl⟩ := resolve_eq_ok.1 hres
  rfl

theorem layered_reached {merged : Table String}
    (hm : (Layering.merge s.plan h s.defaults).1 = .ok merged) :
    ∃ pending b journal more,
      Layering.build s.plan h { settings := s.defaults } = (.ok pending, b, journal) ∧
      Layering.Reached s.plan.stems h.env merged (Layering.layer s.defaults merged) b pending []
        more ∧
      s.layered h = b.values ∧ (s.start h).pending = pending ∧
      s.keys h = b.settings.map (·.key) := by
  obtain ⟨pending, b, journal, more, hlay, hr⟩ :=
    Layering.build_reached (b := { settings := s.defaults }) hm
  obtain ⟨hstart, hlayered, hkeys⟩ := start_of_layering hlay
  exact ⟨pending, b, journal, more, hlay, hr, hlayered, by rw [hstart], hkeys⟩

theorem sourceText_merged {merged : Table String}
    (hm : (Layering.merge s.plan h s.defaults).1 = .ok merged) (k : String) :
    Layering.sourceText h.env merged k = s.sourced h k := by
  rw [Layering.merge_ok hm, Layering.sourceText_override, sourced]

theorem prepared_of_merged {merged : Table String}
    (hm : (Layering.merge s.plan h s.defaults).1 = .ok merged) : s.Prepared h := by
  obtain ⟨pending, b, _, more, -, hr, hvalues, hpending, hkeys⟩ := layered_reached hm
  have htable : ∀ d ∈ s.defaults, (merged.get? d.key).isSome := fun d hd =>
    Layering.merge_keys hm hd
  refine ⟨fun k => ?_, fun k hk => ?_, fun k => ?_, fun k hk ref href n hn => ?_⟩
  · rw [hvalues, hkeys, hr.inOrder.mem_keys, List.mem_map]
  · rw [hvalues] at hk ⊢
    rw [hr.get? htable hk, sourceText_merged hm]
  · rw [hvalues, hpending, hr.mem_pending, sourceText_merged hm]
  · rw [hvalues] at hk ⊢
    rw [← sourceText_merged hm] at href
    exact hr.closed k hk ref href n hn

theorem layered_isLeast {merged : Table String}
    (hm : (Layering.merge s.plan h s.defaults).1 = .ok merged) :
    IsLeast {S : Set String | (∀ e ∈ s.defaults, e.key ∈ S) ∧
      Layering.ClosedUnder s.plan.stems (s.sourced h) S} {k | k ∈ (s.layered h).keys} := by
  obtain ⟨pending, b, _, more, -, hr, hvalues, -⟩ := layered_reached hm
  have htext : Layering.sourceText h.env merged = s.sourced h := funext (sourceText_merged hm)
  rw [hvalues, ← htext]
  exact hr.isLeast

theorem merged_of_build (hb : (s.build h).1 = .ok c) :
    ∃ merged, (Layering.merge s.plan h s.defaults).1 = .ok merged := by
  obtain ⟨_, _, _, hlay, -⟩ := build_eq_ok hb
  exact Layering.exists_merged hlay

theorem build_prepared (hb : (s.build h).1 = .ok c) : s.Prepared h := by
  obtain ⟨merged, hm⟩ := merged_of_build hb
  exact prepared_of_merged hm

theorem build_expanded (hb : (s.build h).1 = .ok c) :
    ((s.start h).resolveAll s.prefixKey (s.keys h)).1 = .ok () ∧
      c.values = (s.expanded h).mapValues fun _ => Directive.unescape := by
  obtain ⟨pending, b, journal, hlay, hres⟩ := build_eq_ok hb
  obtain ⟨hstart, -, hkeys⟩ := start_of_layering hlay
  obtain ⟨st, hst, rfl⟩ := resolve_eq_ok.1 hres
  rw [expanded, hstart, hkeys, hst]
  exact ⟨rfl, rfl⟩

theorem item_of_expanded (hb : (s.build h).1 = .ok c) {k v : String}
    (hv : (s.expanded h).get? k = some v) : c.item k = .ok (Directive.unescape v) := by
  rw [Config.item, (build_expanded hb).2, Table.get?_mapValues, hv]
  rfl

theorem text_of_layered {k v : String} (hv : (s.layered h).get? k = some v) :
    (s.start h).text k = v := by
  simp [State.text, Table.getD, start, hv]

theorem text_of_not_mem {k : String} (hk : k ∉ (s.layered h).keys) : (s.start h).text k = "" := by
  simp [State.text, Table.getD, start, Table.get?_eq_none hk]

section prepared
variable (hp : s.Prepared h)
include hp

theorem Prepared.tabled : (s.start h).Tabled := fun k hk => ((hp.pending k).1 hk).1

theorem Prepared.text {k : String} (hk : k ∈ (s.layered h).keys) :
    (s.start h).text k = s.sourced h k :=
  text_of_layered (hp.get? k hk)

/-- A name is looked up with its value from the sources exactly if it is layered or has none. -/
theorem Prepared.text_eq_iff {k : String} :
    (s.start h).text k = s.sourced h k ↔ k ∈ (s.layered h).keys ∨ s.sourced h k = "" := by
  by_cases hk : k ∈ (s.layered h).keys
  · exact iff_of_true (hp.text hk) (.inl hk)
  · rw [text_of_not_mem hk, or_iff_right hk]
    exact eq_comm

end prepared

theorem expanded_keys (hb : (s.build h).1 = .ok c) :
    (s.expanded h).keys = (s.layered h).keys := by
  obtain ⟨ks, hks⟩ := (s.start h).resolveAll_after s.prefixKey (s.keys h)
  rw [expanded, hks]
  exact (State.after_keeps (build_prepared hb).tabled s.prefixKey ks).1

theorem config_keys (hb : (s.build h).1 = .ok c) : c.values.keys = (s.layered h).keys := by
  rw [(build_expanded hb).2, Table.keys_mapValues, expanded_keys hb]

theorem config_settings_keys (hb : (s.build h).1 = .ok c) :
    c.settings.map (·.key) = s.keys h := by
  obtain ⟨pending, b, journal, hlay, hres⟩ := build_eq_ok hb
  rw [resolve_settings hres, (start_of_layering hlay).2.2, List.map_map]
  rfl

theorem expanded_get? (hb : (s.build h).1 = .ok c) {k : String} (hk : k ∈ (s.layered h).keys) :
    ∃ v, (s.expanded h).get? k = some v ∧
      Plain s.prefixKey (s.start h) KeySet.empty (.value k) (.ok v) := by
  obtain ⟨hok, -⟩ := build_expanded hb
  obtain ⟨hrem, -, hfin⟩ := (Remembers.refl s.prefixKey (s.start h)).resolveAll hok
  have hfinished := hfin k (((build_prepared hb).keys k).2 hk)
  rw [← expanded_keys hb] at hk
  obtain ⟨v, hv⟩ := Option.isSome_iff_exists.1 (Table.contains_iff.2 hk)
  have hplain := hrem.stored hfinished fun j hj => absurd hj (KeySet.not_mem_empty j)
  rw [expanded] at hv
  rw [State.text, Table.getD, hv] at hplain
  exact ⟨v, hv, hplain⟩

theorem build_eq_merge_error (hn : s.config? = none) {e : Fault}
    (hm : (Layering.merge s.plan h s.defaults).1 = .error e) : (s.build h).1 = .error e := by
  rcases hmerge : Layering.merge s.plan h s.defaults with ⟨answer, journal⟩
  rw [hmerge] at hm
  obtain rfl : answer = .error e := hm
  simp [build, isBuilt, hn, resolveSettings, Layering.build, hmerge]

section merged
variable {merged : Table String} (hn : s.config? = none)
  (hm : (Layering.merge s.plan h s.defaults).1 = .ok merged)
include hn hm

theorem exists_build_iff :
    (∃ c, (s.build h).1 = .ok c) ↔
      ((s.start h).resolveAll s.prefixKey (s.keys h)).1 = .ok () := by
  refine ⟨fun ⟨c, hb⟩ => (build_expanded hb).1, fun hok => ?_⟩
  obtain ⟨pending, b, journal, -, hlay, -⟩ := layered_reached hm
  obtain ⟨hstart, -, hkeys⟩ := start_of_layering hlay
  rw [hstart, hkeys] at hok
  exact ⟨_, build_of_layering hn hlay (resolve_eq_ok.2 ⟨_, Prod.ext hok rfl, rfl⟩)⟩

theorem build_eq_error {e : DirectiveFault}
    (he : ((s.start h).resolveAll s.prefixKey (s.keys h)).1 = .error e) :
    (s.build h).1 = .error (.directive e) := by
  obtain ⟨pending, b, journal, -, hlay, -⟩ := layered_reached hm
  obtain ⟨hstart, -, hkeys⟩ := start_of_layering hlay
  rw [hstart, hkeys] at he
  exact (build_eq_resolve hn hlay).trans (resolve_eq_error (Prod.ext he rfl))

end merged

theorem build_closed {merged : Table String} (hn : s.config? = none)
    (hm : (Layering.merge s.plan h s.defaults).1 = .ok merged)
    (hk : Layering.Closed s.plan.stems (Layering.layer s.defaults merged)) :
    s.layered h = (Layering.layer s.defaults merged).values ∧
      (s.build h).1 = (resolve s.prefixKey (Layering.layer s.defaults merged)
        (Layering.layer s.defaults merged).referring).1 := by
  obtain ⟨journal, hlay⟩ := Layering.build_closed (b := { settings := s.defaults }) hm hk
  exact ⟨(start_of_layering hlay).2.1, build_eq_resolve hn hlay⟩

theorem start_closed {merged : Table String}
    (hm : (Layering.merge s.plan h s.defaults).1 = .ok merged)
    (hk : Layering.Closed s.plan.stems (Layering.layer s.defaults merged)) :
    s.start h = { values := (Layering.layer s.defaults merged).values,
                  pending := (Layering.layer s.defaults merged).referring } ∧
      s.keys h = (Layering.layer s.defaults merged).settings.map (·.key) := by
  obtain ⟨journal, hlay⟩ := Layering.build_closed (b := { settings := s.defaults }) hm hk
  obtain ⟨hstart, -, hkeys⟩ := start_of_layering hlay
  exact ⟨hstart, hkeys⟩

/-- The search for references after some of its tasks: those that are left, the settings and values
by then, and the pending keys. -/
def searched (h : Host) (s : Store) (merged : Table String) (n : Nat) :
    List Layering.Task × Layering.Builder × KeySet :=
  (Layering.advance s.plan.stems h.env merged)^[n]
    ((Layering.layer s.defaults merged).settings.map fun e => (e.key, e.current),
      Layering.layer s.defaults merged, KeySet.empty)

def attempt (h : Host) (s : Store) (merged : Table String) (n : Nat) :
    Except DirectiveFault Unit × State :=
  let (_, b, pending) := s.searched h merged n
  State.resolveAll { values := b.values, pending := pending } s.prefixKey (b.settings.map (·.key))

theorem build_attempt {merged : Table String} (n : Nat) (hn : s.config? = none)
    (hm : (Layering.merge s.plan h s.defaults).1 = .ok merged)
    (hend : (s.searched h merged n).1 = []) (hok : (s.attempt h merged n).1 = .ok ()) :
    ∃ c, (s.build h).1 = .ok c ∧ s.expanded h = (s.attempt h merged n).2.values ∧
      s.layered h = (s.searched h merged n).2.1.values := by
  obtain ⟨journal, hlay⟩ := Layering.build_advance (b := { settings := s.defaults }) n hm hend
  obtain ⟨hstart, hlayered, hkeys⟩ := start_of_layering hlay
  have hexpand : (s.start h).resolveAll s.prefixKey (s.keys h) = s.attempt h merged n := by
    rw [hstart, hkeys]
    rfl
  obtain ⟨c, hc⟩ := (exists_build_iff hn hm).2 (hexpand ▸ hok)
  exact ⟨c, hc, by rw [expanded, hexpand], hlayered⟩

theorem exists_config {r : Except Fault Config} {es : List (String × String)}
    (hr : r.map (·.values.entries) = .ok es) : ∃ c, r = .ok c ∧ c.values.entries = es := by
  cases r with
  | error e => cases hr
  | ok c => exact ⟨c, rfl, Except.ok.inj hr⟩

end LayeredConfig.Store
