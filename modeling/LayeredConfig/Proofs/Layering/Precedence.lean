import LayeredConfig.Proofs.Layering.Closure

/-!
# Which source gives a key its value

A layering gives every key the value of the environment if this has one, else that of the overlays
laid over the defaults, else the empty text. Keys of the table take theirs from the merged table,
and keys that are only referred to are looked up one by one; the law is the same for both.

* `Named`: the keys that the table names, and those that the values of such keys name in turn.
* `build_keys_iff`: a layering has these keys and no others.
* `build_precedence`: their values.
-/

namespace LayeredConfig

/-- Of several values put in a table under one name, the last one counts. -/
theorem Table.get?_insertAll {α : Type} (es : List (String × α)) (t : Table α) (k : String) :
    (es.foldl (fun t e => t.insert e.1 e.2) t).get? k =
      ((es.reverse.find? (·.1 == k)).map (·.2)).or (t.get? k) := by
  induction es generalizing t with
  | nil => simp
  | cons e es ih =>
    rw [List.foldl_cons, ih, Table.get?_insert, List.reverse_cons, List.find?_append]
    cases es.reverse.find? (·.1 == k) with
    | some e' => rfl
    | none => by_cases he : e.1 = k <;> simp [he]

theorem Table.get?_ofList {α : Type} (es : List (String × α)) (k : String) :
    (Table.ofList es).get? k = (es.reverse.find? (·.1 == k)).map (·.2) := by
  rw [Table.ofList, Table.get?_insertAll, Table.get?_empty, Option.or_none]

namespace Layering

/-- The keys of a table, and the keys that the values of named keys refer to. -/
inductive Named (stems : List String) (value : String → String) (table : List String) :
    String → Prop
  | listed {k : String} (h : k ∈ table) : Named stems value table k
  | referred {j k : String} {ref : Reference} (h : Named stems value table j)
      (href : ref ∈ Directive.references (value j)) (hk : k ∈ targets stems ref) :
      Named stems value table k

variable {p : Plan} {h : Host} {b b' : Builder} {pending : KeySet} {journal : Journal}

theorem build_keys_iff (hb : build p h b = (.ok pending, b', journal)) (k : String) :
    k ∈ b'.values.keys ↔
      Named p.stems (b'.values.getD · "") (b.settings.map (·.key)) k := by
  obtain ⟨merged, more, hm, hr⟩ := reached_of_build hb
  obtain ⟨⟨htable, hclosed⟩, hleast⟩ := hr.isLeast
  have htext : ∀ j ∈ b'.values.keys, b'.values.getD j "" = sourceText h.env merged j := by
    intro j hj
    rw [Table.getD, hr.get? (fun s hs => merge_keys hm hs) hj]
    rfl
  constructor
  · -- the named keys among those of the layering are closed over the table
    intro hk
    have hsub := @hleast {j | j ∈ b'.values.keys ∧
      Named p.stems (b'.values.getD · "") (b.settings.map (·.key)) j} ⟨?_, ?_⟩ k hk
    · exact hsub.2
    · exact fun s hs => ⟨htable s hs, .listed (List.mem_map.2 ⟨s, hs, rfl⟩)⟩
    · rintro j ⟨hj, hnamed⟩ ref href n hn
      refine ⟨hclosed j hj ref href n hn, hnamed.referred ?_ hn⟩
      rwa [htext j hj]
  · intro hk
    induction hk with
    | listed hin =>
      obtain ⟨s, hs, rfl⟩ := List.mem_map.1 hin
      exact htable s hs
    | referred _ href hin ih =>
      rw [htext _ ih] at href
      exact hclosed _ ih _ href _ hin

/-- **Override precedence holds for every key.** When a layering succeeds, the value of each of its
keys is that of the environment if the environment has the key, else the one that the overlays laid
over the defaults give it, else the empty text; the overlays can be read, and the default of a key
is that of its last setting. The keys are those of the table and those that the values of keys refer
to, so a name that only an overlay or the environment knows is none. -/
theorem build_precedence (hb : build p h b = (.ok pending, b', journal)) :
    (∃ found, (overlaid p h b.settings).1 = .ok found) ∧
    (∀ k ∈ b'.values.keys, b'.values.get? k =
      some (((h.env.get? k).or ((overlaid p h b.settings).2.values.get? k)).getD "")) ∧
    (∀ k, (defaults b.settings).get? k =
      (b.settings.reverse.find? (·.key == k)).map (·.default)) ∧
    ∀ k, k ∈ b'.values.keys ↔
      Named p.stems (b'.values.getD · "") (b.settings.map (·.key)) k := by
  obtain ⟨merged, more, hm, hr⟩ := reached_of_build hb
  refine ⟨overlaid_ok hm, fun k hk => ?_, fun k => ?_, build_keys_iff hb⟩
  · rw [hr.get? (fun s hs => merge_keys hm hs) hk, merge_ok hm, sourceText_override]
  · rw [defaults, Table.get?_ofList, ← List.map_reverse, List.find?_map]
    simp [Function.comp_def]

def ladder : Builder where
  settings := [("A", "d"), ("B", "d"), ("B", "e"), ("C", "%{X}"), ("D", "d"), ("D", "e")].map
    fun e => Setting.make e.1 .string e.2 "" "" ""

/-- Overlays for the system and the user, and an environment that empties `A`. -/
def ladderHost : Host where
  files := Table.ofList [("/etc/delayrc", .bytes "A=s\nB=s\nX='%{Y}'\n".toUTF8.toList),
    ("/home/.delayrc", .bytes "B=u\nC=${B}%{X}\nU=u\n".toUTF8.toList)]
  env := Table.ofList [("HOME", "/home"), ("A", ""), ("Y", "y"), ("V", "v")]

def ladderKeys : List String := ["A", "B", "C", "D", "X", "Y"]

def ladderText (key : String) : String :=
  ((ladderHost.env.get? key).or
    ((overlaid {} ladderHost ladder.settings).2.values.get? key)).getD ""

theorem ladder_texts : (merge {} ladderHost ladder.settings).1.toBool = true ∧
    ["A", "B", "D", "X", "Y"].map ladderText = ["", "u", "e", "%{Y}", "y"] ∧
    .direct "X" ∈ Directive.references (ladderText "C") ∧
    .direct "Y" ∈ Directive.references (ladderText "X") ∧
    ∀ k ∈ ladderKeys, ∀ ref ∈ Directive.references (ladderText k),
      ∀ n ∈ targets ({} : Plan).stems ref, n ∈ ladderKeys := by
  decide +kernel

theorem ladder_merged : ∃ merged, (merge {} ladderHost ladder.settings).1 = .ok merged := by
  have hok := ladder_texts.1
  rcases hm : (merge {} ladderHost ladder.settings).1 with e | merged
  · rw [hm] at hok
    cases hok
  · exact ⟨merged, rfl⟩

/-- The environment counts for `A` although it is empty, the overlay of the user for `B`, the last
setting for `D`, and the environment for `Y`, which `X` refers to; nothing refers to `U` and `V`. -/
theorem ladder_precedence : ∃ pending b' journal,
    build {} ladderHost ladder = (.ok pending, b', journal) ∧
      b'.values.get? "A" = some "" ∧ b'.values.get? "B" = some "u" ∧
      b'.values.get? "D" = some "e" ∧ b'.values.get? "Y" = some "y" ∧
      "U" ∉ b'.values.keys ∧ "V" ∉ b'.values.keys := by
  obtain ⟨merged, hm⟩ := ladder_merged
  obtain ⟨pending, b', journal, _, hb, -⟩ := build_reached (b := ladder) hm
  obtain ⟨-, hvalue, -, hkeys⟩ := build_precedence hb
  obtain ⟨-, htexts, hX, hY, hclosed⟩ := ladder_texts
  simp only [List.map_cons, List.map_nil, List.cons.injEq, and_true] at htexts
  obtain ⟨hA, hB, hD, -, hYtext⟩ := htexts
  have htext : ∀ k ∈ b'.values.keys, b'.values.get? k = some (ladderText k) := hvalue
  have hvalueOf : ∀ k ∈ b'.values.keys, b'.values.getD k "" = ladderText k := fun k hk => by
    rw [Table.getD, htext k hk, Option.getD_some]
  have hlisted : ∀ k ∈ ladder.settings.map (·.key), k ∈ b'.values.keys := fun k hk =>
    (hkeys k).2 (.listed hk)
  have hreferred : ∀ j ∈ b'.values.keys, ∀ n, .direct n ∈ Directive.references (ladderText j) →
      n ∈ b'.values.keys := fun j hj n hn =>
    (hkeys n).2 (((hkeys j).1 hj).referred (by rwa [hvalueOf j hj]) (List.mem_singleton.2 rfl))
  have htable : ∀ k ∈ ladder.settings.map (·.key), k ∈ ladderKeys := by decide
  have hin : ∀ k ∈ b'.values.keys, k ∈ ladderKeys := by
    intro k hk
    induction (hkeys k).1 hk with
    | listed h => exact htable _ h
    | referred h href hn ih =>
      have hj := (hkeys _).2 h
      rw [hvalueOf _ hj] at href
      exact hclosed _ (ih hj) _ href _ hn
  have hYkey := hreferred "X" (hreferred "C" (hlisted "C" (by decide)) "X" hX) "Y" hY
  refine ⟨pending, b', journal, hb, ?_, ?_, ?_, ?_, fun hU => ?_, fun hV => ?_⟩
  · rw [htext "A" (hlisted "A" (by decide)), hA]
  · rw [htext "B" (hlisted "B" (by decide)), hB]
  · rw [htext "D" (hlisted "D" (by decide)), hD]
  · rw [htext "Y" hYkey, hYtext]
  · exact absurd (hin "U" hU) (by decide)
  · exact absurd (hin "V" hV) (by decide)

end Layering

end LayeredConfig
