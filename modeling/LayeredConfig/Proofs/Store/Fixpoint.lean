import LayeredConfig.Proofs.Layering.Agreement
import LayeredConfig.Proofs.Layering.Precedence
import LayeredConfig.Proofs.Overlay.Listing
import LayeredConfig.Proofs.Overlay.Replacement
import LayeredConfig.Proofs.Store.Build
import LayeredConfig.Proofs.Text.Utf8

/-!
# The listing of a configuration stands for its overlays

A configuration is listed and the listing is put in the place of the user's overlay. Then the store
is built to the same configuration again.

* `overlaid_listing`: the overlays can still be read, and what is laid over the defaults last is the
  layered value of every key.
* `sourceText_listing`: so every key of the configuration has the same value from the sources.
* `layering_listing`: so the search for references, which looks at these keys only, finds the same.
* `listing_fixpoint`: the store is built to the same configuration.
-/

namespace LayeredConfig

theorem Setting.shown_false (s : Setting) : s.shown false = s.raw := by
  unfold shown
  split <;> rfl

namespace Overlay

theorem get?_putAll {s : State} {es : List (String × String)} {k v : String} (hmem : (k, v) ∈ es)
    (hsame : ∀ v', (k, v') ∈ es → v' = v) : (s.putAll es).values.get? k = some v := by
  rw [State.putAll, Table.get?_insertAll]
  cases hlast : es.reverse.find? (·.1 == k) with
  | none =>
    have hnone := List.find?_eq_none.1 hlast (k, v) (List.mem_reverse.2 hmem)
    exact absurd (by simp) hnone
  | some e =>
    obtain ⟨j, v'⟩ := e
    have hkey : j = k := by simpa using List.find?_some hlast
    subst hkey
    obtain rfl := hsame v' (List.mem_reverse.1 (List.mem_of_find?_eq_some hlast))
    rfl

def listingFile (ss : List Setting) : FileBody :=
  .bytes (Setting.listAll false ss).toUTF8.toList

theorem mem_shownEntries {ss : List Setting} {k v : String} :
    (k, v) ∈ shownEntries false ss ↔ ∃ s ∈ ss, s.key = k ∧ s.raw = v := by
  simp [shownEntries, Setting.shown_false]

section listing
variable {ss : List Setting} (hkeys : ∀ s ∈ ss, Rc.isName s.key.toList = true)
  (hplain : ∀ s ∈ ss, s.IsPlain)
include hkeys hplain

theorem readText_listingFile :
    Host.readText (listingFile ss) = .ok (Setting.listAll false ss).toList := by
  have hreturn : '\r' ∉ (Setting.listAll false ss).toList := Setting.not_mem_listAll hkeys hplain
  have hlines := Text.unifyLineEnds_of_not_mem hreturn
  rw [listingFile, Host.readText, Text.decodeUtf8_toUTF8]
  exact congrArg Except.ok hlines

theorem runStatements_listing (readFile : Option (Path → State → Outcome Bool)) (r : Reader)
    (h : Host) (path : Path) (s : State) :
    runStatements readFile r h path (Rc.statements (Setting.listAll false ss).toList) s =
      (.ok (), s.putAll (shownEntries false ss)) :=
  runStatements_listAll readFile r h path hkeys
    (fun s hs => .of_plain (hkeys s hs) (hplain s hs)) s

theorem harmless_listingFile {h : Host} {place : String} (hrc : Unstructured h place) :
    Harmless h place (listingFile ss) (Setting.listAll false ss).toList where
  body := readText_listingFile hkeys hplain
  suffix := hrc
  succeeds readFile r h path s := .of_ok (runStatements_listing hkeys hplain readFile r h path s)

end listing

end Overlay

namespace Store

open Expansion (State)

variable {h : Host} {s : Store} {c : Config}

def withSources (s : Store) (sources : Sources) : Store :=
  { s with plan := { s.plan with sources := sources } }

theorem split_userFile {sources : Sources} {env : Table String} {path : Path}
    (huser : (sources.userFile env).1 = some path) : path.Split := by
  unfold Sources.userFile at huser
  split at huser
  · cases huser
  · split at huser
    · obtain rfl := Option.some.inj huser
      exact Path.split_ofString _
    · dsimp only at huser
      split at huser
      · cases huser
      · obtain rfl := Option.some.inj huser
        exact (Path.split_ofString _).join (Path.split_ofString _)

section listing
variable {p : Layering.Plan} {ss : List Setting}
  (hkeys : ∀ s ∈ ss, Rc.isName s.key.toList = true) (hplain : ∀ s ∈ ss, s.IsPlain)
  {sources : Sources} {path q : Path} {place : String}
  (hsystem : sources.systemFile h.env = p.sources.systemFile h.env)
  (huser : (sources.userFile h.env).1 = some path) (hhome : h.expandHome path = .ok q)
  (hplace : h.place? q = .ok (some place)) (hrc : Overlay.Unstructured h place)
include hkeys hplain hsystem huser hhome hplace hrc

/-- With the listing as the user's overlay, the overlays can be read if they could before, and what
the listing assigns is laid over the defaults last. -/
theorem overlaid_listing {settings : List Setting} {found : Bool}
    (hread : (Layering.overlaid p h settings).1 = .ok found) :
    ∃ st : Overlay.State,
      Layering.overlaid { p with sources := sources }
          (h.withFile place (Overlay.listingFile ss)) settings =
        (.ok true, st.putAll (Overlay.shownEntries false ss)) := by
  have hfile := Overlay.harmless_listingFile hkeys hplain hrc
  have hsplit : (p.sources.systemFile h.env).Split := Path.split_ofString _
  have hq : q.Split := Host.split_expandHome (split_userFile huser) hhome
  have hfirst : Overlay.Succeeds
      (Overlay.read p.reader h (p.sources.systemFile h.env) ⟨Layering.defaults settings, []⟩) := by
    unfold Layering.overlaid at hread
    split at hread
    · cases hread
    · rename_i heq
      exact .of_ok heq
  -- reading the overlay of the system succeeds again, also where it sources the file
  obtain ⟨found', hagain⟩ := Overlay.readFile_succeeds hfile hsplit hfirst
    ⟨Layering.defaults settings, []⟩
  rcases hsecond : Overlay.read p.reader (h.withFile place (Overlay.listingFile ss))
    (p.sources.systemFile h.env) ⟨Layering.defaults settings, []⟩ with ⟨answer, st⟩
  rw [Overlay.read] at hsecond
  rw [hsecond] at hagain
  obtain rfl : answer = .ok found' := hagain
  rcases hpath : sources.userFile h.env with ⟨user, journal⟩
  rw [hpath] at huser
  obtain rfl : user = some path := huser
  have hhome' : (h.withFile place (Overlay.listingFile ss)).expandHome path = .ok q := hhome
  refine ⟨({ st with journal := st.journal ++ journal } : Overlay.State).note
    (.overlayRead q.toString), ?_⟩
  have henv : (h.withFile place (Overlay.listingFile ss)).env = h.env := rfl
  simp only [Layering.overlaid, Overlay.read, henv, hsystem, hsecond, hpath]
  show Overlay.mergeFile _ p.reader (h.withFile place (Overlay.listingFile ss)) path _ = _
  rw [Overlay.mergeFile_text hhome' (Host.file?_withFile hplace _) hfile.body
    (hrc q hq hplace), Overlay.runStatements_listing hkeys hplain]

end listing

theorem sourceText_listing {p : Layering.Plan} {b₀ b : Layering.Builder} {pending : KeySet}
    {journal : Journal} (hlay : Layering.build p h b₀ = (.ok pending, b, journal))
    (st : Overlay.State) {k : String} (hk : k ∈ b.values.keys) :
    b.values.get? k = some (Layering.sourceText h.env
      (Layering.override h.env (st.putAll (Overlay.shownEntries false b.settings)).values) k) := by
  obtain ⟨merged, more, hm, hr⟩ := Layering.reached_of_build hlay
  have hvalue := fun k hk => hr.get? (fun s hs => Layering.merge_keys hm hs) (k := k) hk
  have hraw := hr.texts fun s hs => Layering.merge_keys hm hs
  obtain ⟨s, hs, rfl⟩ := hr.inOrder.mem_keys.1 hk
  have hlisted : (st.putAll (Overlay.shownEntries false b.settings)).values.get? s.key =
      some s.raw := by
    refine Overlay.get?_putAll (Overlay.mem_shownEntries.2 ⟨s, hs, rfl, rfl⟩) fun v hv => ?_
    obtain ⟨s', hs', hkey, rfl⟩ := Overlay.mem_shownEntries.1 hv
    exact Option.some.inj ((hkey ▸ hraw s' hs').1.symm.trans (hraw s hs).1)
  rw [Layering.sourceText_override, hlisted, hvalue _ hk]
  have hsame := (hvalue _ hk).symm.trans (hraw s hs).1
  rw [Layering.merge_ok hm, Layering.sourceText_override] at hsame ⊢
  cases he : h.env.get? s.key with
  | some v => rfl
  | none =>
    rw [he] at hsame
    exact hsame

theorem layering_listing {p : Layering.Plan} {b₀ b : Layering.Builder} {pending : KeySet}
    {journal : Journal} (hlay : Layering.build p h b₀ = (.ok pending, b, journal))
    (hkeys : ∀ e ∈ b.settings, Rc.isName e.key.toList = true) (hplain : ∀ e ∈ b.settings, e.IsPlain)
    {sources : Sources} {path q : Path} {place : String}
    (hsystem : sources.systemFile h.env = p.sources.systemFile h.env)
    (huser : (sources.userFile h.env).1 = some path) (hhome : h.expandHome path = .ok q)
    (hplace : h.place? q = .ok (some place)) (hrc : Overlay.Unstructured h place) :
    ∃ journal', Layering.build { p with sources := sources }
      (h.withFile place (Overlay.listingFile b.settings)) b₀ = (.ok pending, b, journal') := by
  obtain ⟨merged, hm⟩ := Layering.exists_merged hlay
  obtain ⟨found, hread⟩ := Layering.overlaid_ok hm
  obtain ⟨st, hst⟩ := overlaid_listing hkeys hplain hsystem huser hhome hplace hrc hread
  have hm' : (Layering.merge { p with sources := sources }
      (h.withFile place (Overlay.listingFile b.settings)) b₀.settings).1 =
      .ok (Layering.override h.env (st.putAll (Overlay.shownEntries false b.settings)).values) := by
    rw [Layering.merge_eq, hst]
    rfl
  exact Layering.build_congr hlay rfl hm' fun k hk => sourceText_listing hlay st hk

/-- **Listings are fixpoints.** Let a store be built to a configuration whose keys are names and
whose settings hold no quote, no backslash and no carriage return in their layered values, defaults
and descriptions. Write the listing of the configuration to a file that no path with the suffix of a
structured document leads to, and build the store again with this file as the overlay of the user
and with the same overlay of the system. Then it is built to the same configuration: the same
settings in the same order, ad hoc ones included, with the same layered and final values, so also
with the same listing. -/
theorem listing_fixpoint (hb : (s.build h).1 = .ok c)
    (hkeys : ∀ e ∈ c.settings, Rc.isName e.key.toList = true) (hplain : ∀ e ∈ c.settings, e.IsPlain)
    {sources : Sources} {path q : Path} {place : String}
    (hsystem : sources.systemFile h.env = s.plan.sources.systemFile h.env)
    (huser : (sources.userFile h.env).1 = some path) (hhome : h.expandHome path = .ok q)
    (hplace : h.place? q = .ok (some place)) (hrc : Overlay.Unstructured h place) :
    ((s.withSources sources).build
      (h.withFile place (.bytes (c.listing false).toUTF8.toList))).1 = .ok c := by
  obtain ⟨pending, b, journal, hlay, hres⟩ := build_eq_ok hb
  have hsettings := resolve_settings hres
  have hmem : ∀ e ∈ b.settings, { e with current := c.values.getD e.key "" } ∈ c.settings := by
    intro e he
    rw [hsettings]
    exact List.mem_map.2 ⟨e, he, rfl⟩
  have hkeys' : ∀ e ∈ b.settings, Rc.isName e.key.toList = true := fun e he => by
    have hkey := hkeys _ (hmem e he)
    exact hkey
  have hplain' : ∀ e ∈ b.settings, e.IsPlain := fun e he => by
    have htexts := hplain _ (hmem e he)
    exact htexts
  -- the listing does not show the current values
  have hfile : FileBody.bytes (c.listing false).toUTF8.toList = Overlay.listingFile b.settings := by
    have hlisting : Setting.listAll false c.settings = Setting.listAll false b.settings := by
      rw [hsettings, Setting.listAll, Setting.listAll, List.map_map]
      rfl
    rw [Config.listing, hlisting, Overlay.listingFile]
  obtain ⟨journal', hlay'⟩ :=
    layering_listing hlay hkeys' hplain' hsystem huser hhome hplace hrc
  rw [hfile]
  have hnew : s.config? = none := unbuilt_of_build hb
  exact build_of_layering (s := s.withSources sources) hnew hlay' hres

/-- A setting whose default refers to a name and has a line feed and a comment sign in it, and one
that the overlay of the user changes. -/
def journey : Store where
  defaults := [Setting.make "A" .string "%{X}\n#" "" "first\nsecond" "",
    Setting.make "B" .string "" "" "" ""]

/-- The overlay of the system sources that of the user, and the environment has a value for `X`. -/
def journeyHost : Host where
  files := Table.ofList [("/etc/delayrc", .bytes "source /home/.delayrc\n".toUTF8.toList),
    ("/home/.delayrc", .bytes "B=\"b\\n${A}$\"\nU=u\n".toUTF8.toList)]
  env := Table.ofList [("HOME", "/home"), ("X", "x")]

def journeyMerged : Table String :=
  Layering.override journeyHost.env
    (Layering.overlaid journey.plan journeyHost journey.defaults).2.values

def journeyFound : List Layering.Task × Layering.Builder × KeySet :=
  (Layering.advance journey.plan.stems journeyHost.env journeyMerged)^[3]
    ((Layering.layer journey.defaults journeyMerged).settings.map fun s => (s.key, s.current),
      Layering.layer journey.defaults journeyMerged, KeySet.empty)

theorem journey_search :
    (Layering.overlaid journey.plan journeyHost journey.defaults).1.toBool = true ∧
    journeyFound.1 = [] ∧
    journeyFound.2.1.settings.map (fun e => (e.key, e.raw)) =
      [("A", "%{X}\n#"), ("B", "b\n%{X}\n#$"), ("X", "x")] ∧
    (∀ e ∈ journeyFound.2.1.settings, Rc.isName e.key.toList = true ∧ e.IsPlain) ∧
    (State.resolveAll { values := journeyFound.2.1.values, pending := journeyFound.2.2 }
      journey.prefixKey (journeyFound.2.1.settings.map (·.key))).1 = .ok () := by
  decide +kernel

theorem journey_merge :
    (Layering.merge journey.plan journeyHost journey.defaults).1 = .ok journeyMerged :=
  Layering.merge_of_overlaid journey_search.1

/-- In the listing the three keys have the values that the default, the overlay of the user and the
environment give them. It takes the place of the overlay of the user, so that of the system sources
it now. -/
theorem journey_fixpoint : ∃ c, (journey.build journeyHost).1 = .ok c ∧
    c.settings.map (fun e => (e.key, e.raw)) =
      [("A", "%{X}\n#"), ("B", "b\n%{X}\n#$"), ("X", "x")] ∧
    ((journey.withSources journey.plan.sources).build
      (journeyHost.withFile "/home/.delayrc" (.bytes (c.listing false).toUTF8.toList))).1 =
        .ok c := by
  obtain ⟨-, hend, hraw, htexts, hexpand⟩ := journey_search
  obtain ⟨journal, hlay⟩ := Layering.build_advance (b := { settings := journey.defaults }) 3
    journey_merge hend
  obtain ⟨c, hb⟩ : ∃ c, (journey.build journeyHost).1 = .ok c := by
    refine (exists_build_iff rfl journey_merge).2 ?_
    rw [start, layered, keys, hlay]
    exact hexpand
  obtain ⟨_, _, _, hlay', hres⟩ := build_eq_ok hb
  obtain ⟨hpending, rfl, -⟩ := Prod.mk.inj (hlay'.symm.trans hlay)
  have hsettings := resolve_settings hres
  have hall : ∀ e ∈ c.settings, Rc.isName e.key.toList = true ∧ e.IsPlain := by
    intro e he
    rw [hsettings] at he
    obtain ⟨e', he', rfl⟩ := List.mem_map.1 he
    have htext := htexts e' he'
    exact htext
  have hlinkless : journeyHost.Linkless := fun t ht => absurd ht (Option.not_mem_none t)
  refine ⟨c, hb, ?_, listing_fixpoint hb (fun e he => (hall e he).1) (fun e he => (hall e he).2)
    rfl rfl rfl rfl (Overlay.unstructured_of_suffix hlinkless (by decide))⟩
  rw [hsettings, List.map_map]
  exact hraw

end Store

end LayeredConfig
