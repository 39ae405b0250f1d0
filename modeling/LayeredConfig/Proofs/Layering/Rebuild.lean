import LayeredConfig.Proofs.Layering.Closure

/-!
# Layering a builder again

A layering leaves its builder with the settings of the table and an ad hoc entry for each key that
its search found. The next layering of that builder starts from all of them: the keys that were
found are keys of its table now, and their default is the empty text. So an overlay that looks one
of them up no longer gets what the environment has for it, nor the default of the reference.

* `Builder.Tidy`: known keys and values are those of the settings; so a layering that gives every
  setting the text it has changes nothing, `layer_self`.
* `referring_of_build`: the pending keys are those of the settings that refer to others.
* `defaults_blanked`: the defaults of the second layering are those of the first one, and the empty
  text for the keys that were found.
* `build_again`: a second layering never fails and drops no setting, and it repeats the first one
  unless an overlay had to look outside of the table for a key that was found.
-/

namespace LayeredConfig.Layering

variable {env merged : Table String} {b : Builder}

/-! ## Builders that are made of their settings -/

/-- The known keys and the values are those of the settings. -/
structure Builder.Tidy (b : Builder) : Prop where
  known : b.known = KeySet.ofList (b.settings.map (·.key))
  values : b.values = Table.ofList (b.settings.map fun s => (s.key, s.current))

theorem layer_tidy (settings : List Setting) (merged : Table String) :
    (layer settings merged).Tidy := ⟨rfl, rfl⟩

theorem Builder.Tidy.addAll (h : b.Tidy) (keys : List String) : (b.addAll env merged keys).Tidy := by
  induction keys generalizing b with
  | nil => exact h
  | cons k ks ih =>
    show ((b.add k (sourceText env merged k)).addAll env merged ks).Tidy
    apply ih
    constructor
    · simp only [Builder.add, h.known, KeySet.ofList, List.map_append, List.foldl_append, adHoc_eq]
      rfl
    · simp only [Builder.add, h.values, Table.ofList, List.map_append, List.foldl_append, adHoc_eq]
      rfl

theorem layer_same {s : Setting} {value : String} (hcurrent : s.current = value)
    (hraw : s.raw = value) : s.layer value = s := by
  obtain ⟨key, kind, default, current, description, raw⟩ := s
  dsimp only at hcurrent hraw
  subst hcurrent hraw
  rfl

theorem layer_self (h : b.Tidy) (hs : ∀ s ∈ b.settings, s.layer (merged.getD s.key "") = s) :
    layer b.settings merged = b := by
  obtain ⟨settings, known, values⟩ := b
  obtain ⟨hknown, hvalues⟩ := h
  dsimp only at hknown hvalues
  subst hknown hvalues
  have hsame : settings.map (fun s => s.layer (merged.getD s.key "")) = settings :=
    (List.map_congr_left hs).trans (List.map_id settings)
  rw [layer, hsame]

/-! ## Pending keys -/

theorem foldl_mark_filter (tasks : List Task) (pending : KeySet) :
    (tasks.filter (·.2 ≠ "")).foldl mark pending = tasks.foldl mark pending := by
  induction tasks generalizing pending with
  | nil => rfl
  | cons t ts ih =>
    by_cases hempty : t.2 = ""
    · have hmark : mark pending t = pending := by
        rw [mark, if_pos (by simp [hempty, references_empty])]
      rw [List.filter_cons_of_neg (by simpa using hempty), List.foldl_cons, hmark, ih]
    · rw [List.filter_cons_of_pos (by simpa using hempty), List.foldl_cons, List.foldl_cons, ih]

theorem referring_addAll (keys : List String) :
    (b.addAll env merged keys).referring = (tasksOf env merged keys).foldl mark b.referring := by
  rw [tasksOf, foldl_mark_filter, Builder.referring, Builder.referring, addAll_settings_eq,
    List.map_append, List.foldl_append, List.map_map]
  simp only [Function.comp_def, adHoc_eq]

/-- What is still to be marked, on top of what is pending, makes the referring keys; this holds all
along the search. -/
theorem discover_referring (stems : List String) (env merged : Table String) {tasks : List Task}
    {b : Builder} {pending : KeySet} (h : tasks.foldl mark pending = b.referring) :
    (discover stems env merged tasks b pending).2.1 =
      (discover stems env merged tasks b pending).1.referring := by
  fun_induction discover stems env merged tasks b pending with
  | case1 => exact h
  | case2 b pending key value rest refs keys b' pending' journal heq ih =>
    rw [heq] at ih
    apply ih
    rw [referring_addAll, ← h, List.foldl_append, List.foldl_cons]
    rfl

theorem referring_of_build {p : Plan} {h : Host} {b b' : Builder} {pending : KeySet}
    {journal : Journal} (hb : build p h b = (.ok pending, b', journal)) :
    pending = b'.referring := by
  obtain ⟨merged, hm⟩ := exists_merged hb
  rcases hmerge : merge p h b.settings with ⟨e | merged', journal'⟩ <;> rw [hmerge] at hm
  · cases hm
  obtain rfl := Except.ok.inj hm
  simp only [build, hmerge, Prod.mk.injEq, Except.ok.injEq] at hb
  obtain ⟨rfl, rfl, -⟩ := hb
  exact discover_referring p.stems h.env merged' rfl

/-! ## The second table -/

theorem get?_insert_empty (keys : List String) (t : Table String) (k : String) :
    ((keys.map fun j => (j, "")).foldl (fun t e => t.insert e.1 e.2) t).get? k =
      if k ∈ keys then some "" else t.get? k := by
  induction keys generalizing t with
  | nil => rfl
  | cons j js ih =>
    rw [List.map_cons, List.foldl_cons, ih, Table.get?_insert]
    by_cases hk : k ∈ js
    · simp [hk]
    · by_cases he : j = k
      · simp [he]
      · simp [hk, he, Ne.symm he]

theorem defaults_blanked (env merged : Table String) {settings : List Setting}
    {more : List String} (hfresh : ∀ k ∈ more, k ∉ settings.map (·.key)) :
    Overlay.Blanked more (defaults settings) (defaults (layered env merged settings ++
      more.map fun k => .adHoc k (sourceText env merged k))) := by
  have hold : (layered env merged settings).map (fun s => (s.key, s.default)) =
      settings.map (fun s => (s.key, s.default)) := by
    rw [layered, List.map_map]
    rfl
  have hnew : defaults (layered env merged settings ++
      more.map fun k => .adHoc k (sourceText env merged k)) =
        (more.map fun j => (j, "")).foldl (fun t e => t.insert e.1 e.2) (defaults settings) := by
    rw [defaults, List.map_append, hold, Table.ofList, List.foldl_append, List.map_map]
    simp only [Function.comp_def, adHoc_eq]
    rfl
  intro k
  rw [hnew, get?_insert_empty]
  by_cases hk : k ∈ more
  · have hnone : (defaults settings).get? k = none := by
      rw [← Option.not_isSome_iff_eq_none, defaults, Table.isSome_get?_ofList, List.map_map]
      exact hfresh k hk
    rw [if_pos hk, if_pos hk, hnone, Option.none_or]
  · rw [if_neg hk, if_neg hk, Option.or_none]

/-! ## The second layering -/

/-- What makes a setting what it is, apart from its texts. -/
def shape (s : Setting) : String × Kind × String × String :=
  (s.key, s.kind, s.default, s.description)

theorem layered_shapes (settings : List Setting) :
    (layered env merged settings).map shape = settings.map shape := by
  rw [layered, List.map_map]
  rfl

/-- If none of the names that the overlays look up outside of the table were found, the sources say
the same over both tables. -/
theorem sourceText_again {p : Plan} {h : Host} {settings : List Setting} {more : List String}
    {merged merged' : Table String} (hm : (merge p h settings).1 = .ok merged)
    (hm' : (merge p h (layered env merged settings ++
      more.map fun k => .adHoc k (sourceText env merged k))).1 = .ok merged')
    (hfresh : ∀ k ∈ more, k ∉ settings.map (·.key))
    (hborrowed : ∀ k ∈ Overlay.borrowed h.env (writes p h).2 (defaults settings), k ∉ more)
    (k : String) : sourceText h.env merged' k = sourceText h.env merged k := by
  have hblanked := (defaults_blanked env merged hfresh).foldl hborrowed
  rw [← (overlaid_follows ..).2, ← (overlaid_follows ..).2] at hblanked
  rw [merge_ok hm, merge_ok hm', sourceText_override, sourceText_override, hblanked k]
  cases h.env.get? k with
  | some v => rfl
  | none =>
    cases (overlaid p h settings).2.values.get? k with
    | some v => rfl
    | none => by_cases hk : k ∈ more <;> simp [hk]

theorem Reached.closed_settings {stems : List String} {settings : List Setting}
    {pending : KeySet} {more : List String}
    (hr : Reached stems env merged (layer settings merged) b pending [] more)
    (hm : ∀ s ∈ settings, (merged.get? s.key).isSome) : Closed stems b := by
  intro t ht ref href k hk
  obtain ⟨s, hs, rfl⟩ := List.mem_map.1 ht
  rw [hr.settings_eq hm] at hs
  obtain ⟨hcurrent, -⟩ := setting_texts hs
  have hkey := hr.mem_keys.2 (hr.mem_known.2 (key_mem_of_setting hs))
  exact hr.mem_keys.1 (hr.closed s.key hkey ref (hcurrent ▸ href) k hk)

/-- **A second layering of one builder.** After a layering that succeeds, another one of the same
builder succeeds too. It has the settings of the first one in their order, and perhaps further ad
hoc entries behind them. If none of the names that the overlays looked up outside of the table is a
key of the first layering, then it comes to the same settings, values and pending keys. -/
theorem build_again {p : Plan} {h : Host} {b b' : Builder} {pending : KeySet} {journal : Journal}
    (hb : build p h b = (.ok pending, b', journal)) :
    (∃ pending' b'' journal', build p h b' = (.ok pending', b'', journal') ∧
      ∃ more : List String, b''.settings.map shape =
        b'.settings.map shape ++ more.map fun k => (k, .adHoc, "", "")) ∧
    ((∀ k ∈ Overlay.borrowed h.env (writes p h).2 (defaults b.settings), k ∉ b'.values.keys) →
      ∃ journal', build p h b' = (.ok pending, b', journal')) := by
  obtain ⟨merged, more, hm, hr⟩ := reached_of_build hb
  have hkeys : ∀ s ∈ b.settings, (merged.get? s.key).isSome := fun s hs => merge_keys hm hs
  have hsettings := hr.settings_eq hkeys
  obtain ⟨merged', hm'⟩ := exists_merge_other hm b'.settings
  have hkeys' : ∀ s ∈ b'.settings, (merged'.get? s.key).isSome := fun s hs => merge_keys hm' hs
  refine ⟨?_, fun hborrowed => ?_⟩
  · obtain ⟨pending', b'', journal', more', hb', hr'⟩ := build_reached hm'
    refine ⟨pending', b'', journal', hb', more', ?_⟩
    rw [hr'.settings_eq hkeys', List.map_append, layered_shapes, List.map_map]
    simp only [Function.comp_def, adHoc_eq, shape]
  · have htext := sourceText_again hm (hsettings ▸ hm') (fun k hk => (hr.mem_added.1 hk).2)
      fun k hk hmore => hborrowed k hk (hr.mem_added.1 hmore).1
    have hlayer : layer b'.settings merged' = b' := by
      refine layer_self (hr.builder ▸ (layer_tidy ..).addAll more) fun s hs => ?_
      obtain ⟨v, hv⟩ := Option.isSome_iff_exists.1 (hkeys' s hs)
      have hvalue : merged'.getD s.key "" = sourceText h.env merged s.key := by
        rw [← htext, sourceText, Table.getD, hv]
        rfl
      obtain ⟨hcurrent, hraw⟩ := setting_texts (hsettings ▸ hs)
      rw [hvalue]
      exact layer_same hcurrent hraw
    obtain ⟨journal', hb'⟩ := build_closed hm' (hlayer.symm ▸ hr.closed_settings hkeys)
    refine ⟨journal', ?_⟩
    rw [hb', hlayer, ← referring_of_build hb]

/-- A reference to a name that is no key of the table, and a key for an overlay to set. -/
def echo : Builder where
  settings := [Setting.make "A" .string "%{X}" "" "" "", Setting.make "B" .string "" "" "" ""]

def echoHost (text : String) (env : Table String) : Host where
  files := Table.ofList [("/etc/delayrc", .bytes text.toUTF8.toList)]
  env := env

def echoFound (h : Host) (b : Builder) : List Task × Builder × KeySet :=
  let merged := override h.env (overlaid {} h b.settings).2.values
  (advance ({} : Plan).stems h.env merged)^[3]
    ((layer b.settings merged).settings.map fun s => (s.key, s.current),
      layer b.settings merged, KeySet.empty)

theorem build_echo {h : Host} {b : Builder} (hread : (overlaid {} h b.settings).1.toBool = true)
    (hend : (echoFound h b).1 = []) :
    ∃ journal, build {} h b = (.ok (echoFound h b).2.2, (echoFound h b).2.1, journal) :=
  build_advance 3 (merge_of_overlaid hread) hend

def quietHost : Host := echoHost "B=${X}${Y}\n" (Table.ofList [("Y", "y")])

theorem quiet_found : (overlaid {} quietHost echo.settings).1.toBool = true ∧
    (echoFound quietHost echo).1 = [] ∧
    (echoFound quietHost echo).2.1.settings.map (fun s => (s.key, s.raw)) =
      [("A", "%{X}"), ("B", "y"), ("X", "")] ∧
    Overlay.borrowed quietHost.env (writes {} quietHost).2 (defaults echo.settings) = ["Y"] ∧
    "Y" ∉ (echoFound quietHost echo).2.1.values.keys := by
  decide +kernel

/-- The overlay looks `Y` up in the environment, but nothing refers to `Y`; and `X`, which was found,
has no value anywhere. -/
theorem quiet_again : ∃ pending b' journal journal',
    build {} quietHost echo = (.ok pending, b', journal) ∧
    b'.settings.map (fun s => (s.key, s.raw)) = [("A", "%{X}"), ("B", "y"), ("X", "")] ∧
    build {} quietHost b' = (.ok pending, b', journal') := by
  obtain ⟨hread, hend, htexts, hborrowed, hkeys⟩ := quiet_found
  obtain ⟨journal, hb⟩ := build_echo hread hend
  have hother : ∀ k ∈ Overlay.borrowed quietHost.env (writes {} quietHost).2
      (defaults echo.settings), k ∉ (echoFound quietHost echo).2.1.values.keys := by
    rw [hborrowed]
    exact List.forall_mem_singleton.2 hkeys
  obtain ⟨journal', hb'⟩ := (build_again hb).2 hother
  exact ⟨_, _, journal, journal', hb, htexts, hb'⟩

def loudHost : Host := echoHost "B=${X}\n" (Table.ofList [("X", "x")])

/-- The overlay looks `X` up, which was found through `A`: the second layering has the empty default
of `X` for it, and the first one had the environment's value. -/
theorem loud_not_again : ∃ pending b' journal pending' b'' journal',
    build {} loudHost echo = (.ok pending, b', journal) ∧
    build {} loudHost b' = (.ok pending', b'', journal') ∧
    b'.settings.map (fun s => (s.key, s.raw)) = [("A", "%{X}"), ("B", "x"), ("X", "x")] ∧
    b''.settings.map (fun s => (s.key, s.raw)) = [("A", "%{X}"), ("B", ""), ("X", "x")] := by
  have hfound : (overlaid {} loudHost echo.settings).1.toBool = true ∧
      (echoFound loudHost echo).1 = [] ∧
      (overlaid {} loudHost (echoFound loudHost echo).2.1.settings).1.toBool = true ∧
      (echoFound loudHost (echoFound loudHost echo).2.1).1 = [] ∧
      (echoFound loudHost echo).2.1.settings.map (fun s => (s.key, s.raw)) =
        [("A", "%{X}"), ("B", "x"), ("X", "x")] ∧
      (echoFound loudHost (echoFound loudHost echo).2.1).2.1.settings.map
        (fun s => (s.key, s.raw)) = [("A", "%{X}"), ("B", ""), ("X", "x")] := by
    decide +kernel
  obtain ⟨hread, hend, hread', hend', htexts⟩ := hfound
  obtain ⟨journal, hb⟩ := build_echo hread hend
  obtain ⟨journal', hb'⟩ := build_echo hread' hend'
  exact ⟨_, _, journal, _, _, journal', hb, hb', htexts⟩

end LayeredConfig.Layering
