import LayeredConfig.Layering
import LayeredConfig.Proofs.Layering.Discovery
import LayeredConfig.Proofs.Overlay.Writes

/-!
# What the sources say

* `overlaid` lays the overlays over the defaults, without the environment; `merge_eq` puts the
  environment on top of it.
* `sourceText_override`: a name has the environment's value if the environment has one, else that
  of the defaults and overlays, else the empty text.
* `writes`, `overlaid_follows`: what the overlays write over any defaults. So whether the sources can
  be merged does not depend on the settings, `exists_merge_other`.
* `merge_keys`: the table that is merged has a value for every setting.
* `exists_merged`: a layering that succeeds has merged its sources.
-/

namespace LayeredConfig.Layering

def overlaid (p : Plan) (h : Host) (settings : List Setting) : Overlay.Outcome Bool :=
  match Overlay.read p.reader h (p.sources.systemFile h.env) ⟨defaults settings, []⟩ with
  | (.error e, s) => (.error e, s)
  | (.ok found, s) =>
    let (user, journal) := p.sources.userFile h.env
    let s := { s with journal := s.journal ++ journal }
    match user with
    | none => (.ok found, s)
    | some path => Overlay.read p.reader h path s

theorem merge_eq (p : Plan) (h : Host) (settings : List Setting) :
    merge p h settings =
      ((overlaid p h settings).1.map fun _ => override h.env (overlaid p h settings).2.values,
        (overlaid p h settings).2.journal) := by
  unfold merge overlaid
  rcases Overlay.read p.reader h (p.sources.systemFile h.env) ⟨defaults settings, []⟩ with
    ⟨e | found, s⟩
  · rfl
  · rcases p.sources.userFile h.env with ⟨_ | path, journal⟩
    · rfl
    · dsimp only
      rcases Overlay.read p.reader h path { s with journal := s.journal ++ journal } with
        ⟨e | found', s'⟩ <;> rfl

theorem merge_ok {p : Plan} {h : Host} {settings : List Setting} {merged : Table String}
    (hm : (merge p h settings).1 = .ok merged) :
    merged = override h.env (overlaid p h settings).2.values := by
  rw [merge_eq] at hm
  rcases hread : (overlaid p h settings).1 with e | found <;> rw [hread] at hm
  · cases hm
  · exact (Except.ok.inj hm).symm

theorem overlaid_ok {p : Plan} {h : Host} {settings : List Setting} {merged : Table String}
    (hm : (merge p h settings).1 = .ok merged) :
    ∃ found, (overlaid p h settings).1 = .ok found := by
  rw [merge_eq] at hm
  rcases hread : (overlaid p h settings).1 with e | found
  · rw [hread] at hm
    cases hm
  · exact ⟨found, rfl⟩

theorem merge_of_overlaid {p : Plan} {h : Host} {settings : List Setting}
    (hread : (overlaid p h settings).1.toBool = true) :
    (merge p h settings).1 = .ok (override h.env (overlaid p h settings).2.values) := by
  rw [merge_eq]
  rcases hr : (overlaid p h settings).1 with e | found <;> rw [hr] at hread
  · cases hread
  · rfl

theorem get?_override (env values : Table String) (k : String) :
    (override env values).get? k = (values.get? k).map fun v => env.getD k v :=
  Table.get?_mapValues _ values k

theorem sourceText_override (env values : Table String) (k : String) :
    sourceText env (override env values) k = ((env.get? k).or (values.get? k)).getD "" := by
  rw [sourceText, get?_override]
  cases he : env.get? k <;> cases values.get? k <;> simp [Table.getD, he]

/-! ## What the overlays write -/

def writes (p : Plan) (h : Host) : Overlay.Script Bool :=
  match Overlay.script p.reader h Overlay.maxSourceDepth (p.sources.systemFile h.env) with
  | (.error e, ws) => (.error e, ws)
  | (.ok found, ws) =>
    match (p.sources.userFile h.env).1 with
    | none => (.ok found, ws)
    | some path =>
      let (answer, ws') := Overlay.script p.reader h Overlay.maxSourceDepth path
      (answer, ws ++ ws')

theorem overlaid_follows (p : Plan) (h : Host) (settings : List Setting) :
    (overlaid p h settings).1 = (writes p h).1 ∧ (overlaid p h settings).2.values =
      (writes p h).2.foldl (Overlay.Write.apply h.env) (defaults settings) := by
  obtain ⟨hanswer, hvalues⟩ := Overlay.readFile_follows p.reader h Overlay.maxSourceDepth
    (p.sources.systemFile h.env) ⟨defaults settings, []⟩
  unfold overlaid writes Overlay.read
  rcases hr : Overlay.readFile p.reader h Overlay.maxSourceDepth (p.sources.systemFile h.env)
    ⟨defaults settings, []⟩ with ⟨answer, t⟩
  rcases hx : Overlay.script p.reader h Overlay.maxSourceDepth (p.sources.systemFile h.env) with
    ⟨answer', ws⟩
  rw [hr, hx] at hanswer hvalues
  obtain rfl : answer = answer' := hanswer
  rcases answer with e | found
  · exact ⟨rfl, hvalues⟩
  · rcases p.sources.userFile h.env with ⟨_ | path, journal⟩
    · exact ⟨rfl, hvalues⟩
    · obtain ⟨hanswer', hvalues'⟩ := Overlay.readFile_follows p.reader h Overlay.maxSourceDepth
        path { t with journal := t.journal ++ journal }
      refine ⟨hanswer', hvalues'.trans ?_⟩
      rw [show t.values = _ from hvalues, List.foldl_append]

theorem exists_merge_iff {p : Plan} {h : Host} {settings : List Setting} :
    (∃ merged, (merge p h settings).1 = .ok merged) ↔ ∃ found, (writes p h).1 = .ok found := by
  rw [merge_eq, (overlaid_follows p h settings).1]
  rcases (writes p h).1 with e | found <;> simp [Except.map]

theorem exists_merge_other {p : Plan} {h : Host} {settings : List Setting} {merged : Table String}
    (hm : (merge p h settings).1 = .ok merged) (settings' : List Setting) :
    ∃ merged', (merge p h settings').1 = .ok merged' :=
  exists_merge_iff.2 (exists_merge_iff.1 ⟨merged, hm⟩)

/-! ## Keys with a value -/

theorem merge_keys {p : Plan} {h : Host} {settings : List Setting} {merged : Table String}
    (hm : (merge p h settings).1 = .ok merged) {s : Setting} (hs : s ∈ settings) :
    (merged.get? s.key).isSome := by
  have hdefault : s.key ∈ (defaults settings).keys := by
    rw [← Table.contains_iff, Table.contains, defaults, Table.isSome_get?_ofList, List.map_map]
    exact List.mem_map.2 ⟨s, hs, rfl⟩
  have hkept := Overlay.mem_keys_foldl_apply h.env (writes p h).2 hdefault
  rw [merge_ok hm, get?_override, Option.isSome_map, (overlaid_follows p h settings).2]
  exact Table.contains_iff.2 hkept

theorem exists_merged {p : Plan} {h : Host} {b b' : Builder} {pending : KeySet} {journal : Journal}
    (hb : build p h b = (.ok pending, b', journal)) :
    ∃ merged, (merge p h b.settings).1 = .ok merged := by
  unfold build at hb
  split at hb
  · cases hb
  · rename_i merged _ hm
    exact ⟨merged, congrArg Prod.fst hm⟩

end LayeredConfig.Layering
