import LayeredConfig.Proofs.Directive.Escape
import LayeredConfig.Proofs.Expansion.Memory

/-!
# Texts around a substituted text

What stands in for a reference is not searched, but its last character stands in front of the text
behind the reference, and may be the percent sign that escapes a directive.

* `Plain.rest_moves`: one text comes to the same behind any two texts that both or neither end in
  a percent sign; `Plain.rest_agree`: and in every key.
* `Plain.rest_head`: a text that does not begin with a directive keeps its beginning.
* `Plain.rest_skips`: a directive that is escaped stays as it is.
* `substituted_opaque`: when a value `l%{A}r`, decoded, is `l`, the value of `A` and that of `r`.
-/

namespace LayeredConfig.Expansion

open Directive (escapes escapes_append escapes_false escapes_iff escapes_of_ne_nil Marks
  not_straddles_of_escapes)

variable {prefixKey : String} {s : State}

theorem Plain.demand_value {path : KeySet} {key target text : String}
    (h : Plain prefixKey s path (.demand key target) (.ok text)) :
    Plain prefixKey s KeySet.empty (.value target) (.ok text) := by
  obtain ⟨hv, hn⟩ := h.demand_inv
  exact hv.shrink rfl hn (fun k hk => absurd hk (KeySet.not_mem_empty k))
    (KeySet.not_mem_empty target)

theorem Plain.follow_agree {key key' text text' : String} {ref : Reference}
    (hk : key ∈ s.pending) (hk' : key' ∈ s.pending)
    (h : Plain prefixKey s KeySet.empty (.follow key ref) (.ok text))
    (h' : Plain prefixKey s KeySet.empty (.follow key' ref) (.ok text')) : text = text' := by
  have hj : ∀ {key : String}, key ∈ s.pending →
      (Job.follow key ref).Fits (s.on KeySet.empty) := fun hk => ⟨KeySet.not_mem_empty _, hk⟩
  cases ref with
  | direct name =>
    have hv := (h.direct_inv (hj hk)).demand_value
    have hv' := (h'.direct_inv (hj hk')).demand_value
    exact Except.ok.inj (hv.unique hv')
  | indirect suffix =>
    obtain ⟨stem, hs, hv⟩ := Plain.indirect_inv (hj hk) h
    obtain ⟨stem', hs', hv'⟩ := Plain.indirect_inv (hj hk') h'
    obtain rfl := Except.ok.inj (Plain.unique hs.demand_value hs'.demand_value)
    exact Except.ok.inj (Plain.unique hv.demand_value hv'.demand_value)

theorem Job.rest_fits {key : String} {done cs : List Char} (hk : key ∈ s.pending) :
    (Job.rest key done cs).Fits (s.on KeySet.empty) :=
  ⟨KeySet.not_mem_empty key, hk⟩

/-- A text comes to the same behind two texts of one key, if they escape it both or neither, or if
it does not begin with a directive. -/
theorem Plain.rest_moves {key text : String} {done done' cs : List Char} (hk : key ∈ s.pending)
    (h : Plain prefixKey s KeySet.empty (.rest key done cs) (.ok text))
    (hesc : escapes false done = escapes false done' ∨ Directive.read? cs = none) :
    ∃ ws, text = String.ofList (done ++ ws) ∧
      Plain prefixKey s KeySet.empty (.rest key done' cs) (.ok (String.ofList (done' ++ ws))) := by
  induction hn : cs.length using Nat.strongRecOn generalizing done done' cs with
  | _ n ih =>
  have hfind : Directive.find (Text.endsIn (· == '%') done) cs =
      Directive.find (Text.endsIn (· == '%') done') cs := by
    rw [← escapes_false, ← escapes_false]
    rcases hesc with he | hr
    · rw [he]
    · rw [Directive.find_of_read?_none hr, Directive.find_of_read?_none hr (escapes false done')]
  have hnext : ∀ {f : Directive.Found} (ts : List Char),
      Directive.find (Text.endsIn (· == '%') done) cs = some f →
      escapes false (done ++ (f.before ++ ts)) = escapes false (done' ++ (f.before ++ ts)) := by
    intro f ts hf
    rw [escapes_append, escapes_append _ done']
    rcases hesc with he | hr
    · rw [he]
    · exact escapes_of_ne_nil (by simp [Directive.before_ne_nil hf hr]) _ _
  rcases h.rest_cases (Job.rest_fits hk) with
    ⟨hf, rfl⟩ | ⟨f, hf, ⟨ref, t, hd, ha, hr⟩ | ⟨ref, wanted, t, b, hd, ha, hb, hr⟩⟩
  · exact ⟨cs, rfl, Runs.finished (hfind ▸ hf)⟩
  · rw [List.append_assoc] at hr
    obtain ⟨ws, rfl, hr'⟩ := ih _ (hn ▸ Directive.find_length hf) hr (.inl (hnext t.toList hf)) rfl
    rw [← List.append_assoc done'] at hr'
    refine ⟨f.before ++ t.toList ++ ws, by simp, ?_⟩
    have hrun := Runs.substituted (hfind ▸ hf) hd ha hr'
    simpa using hrun
  · have hlt := Nat.lt_trans (Directive.Block.select_length hb (Setting.isTrue t == wanted))
      (Directive.find_length hf)
    have he := hnext [] hf
    rw [List.append_nil] at he
    obtain ⟨ws, rfl, hr'⟩ := ih _ (hn ▸ hlt) hr (.inl he) rfl
    refine ⟨f.before ++ ws, by simp, ?_⟩
    have hrun := Runs.selected (hfind ▸ hf) hd ha hb hr'
    simpa using hrun

theorem Plain.rest_agree {key key' text text' : String} {done cs : List Char}
    (hk : key ∈ s.pending) (hk' : key' ∈ s.pending)
    (h : Plain prefixKey s KeySet.empty (.rest key done cs) (.ok text))
    (h' : Plain prefixKey s KeySet.empty (.rest key' done cs) (.ok text')) : text = text' := by
  induction hn : cs.length using Nat.strongRecOn generalizing done cs with
  | _ n ih =>
  rcases h.rest_cases (Job.rest_fits hk) with
    ⟨hf, rfl⟩ | ⟨f, hf, ⟨ref, t, hd, ha, hr⟩ | ⟨ref, wanted, t, b, hd, ha, hb, hr⟩⟩ <;>
  rcases h'.rest_cases (Job.rest_fits hk') with
    ⟨hf', rfl⟩ | ⟨f', hf', ⟨ref', t', hd', ha', hr'⟩ |
      ⟨ref', wanted', t', b', hd', ha', hb', hr'⟩⟩ <;>
  rw [hf] at hf' <;> cases hf'
  · obtain rfl := Directive.substitute.inj (hd.symm.trans hd')
    obtain rfl := Plain.follow_agree hk hk' ha ha'
    exact ih _ (hn ▸ Directive.find_length hf) hr hr' rfl
  · rw [hd] at hd'
    cases hd'
  · rw [hd'] at hd
    cases hd
  · obtain ⟨rfl, rfl⟩ := Prod.mk.inj (Option.some.inj (hd.symm.trans hd'))
    obtain rfl := Plain.follow_agree hk hk' ha ha'
    obtain rfl := Except.ok.inj (hb.symm.trans hb')
    exact ih _ (hn ▸ Nat.lt_trans (Directive.Block.select_length hb _) (Directive.find_length hf))
      hr hr' rfl

theorem Plain.rest_skips {key text : String} {done m cs : List Char} {d : Directive}
    (hk : key ∈ s.pending) (hm : Marks m d) (he : escapes false done = true)
    (h : Plain prefixKey s KeySet.empty (.rest key done (m ++ cs)) (.ok text)) :
    Plain prefixKey s KeySet.empty (.rest key (done ++ m) cs) (.ok text) := by
  have hfind : Directive.find (Text.endsIn (· == '%') done) (m ++ cs) =
      (Directive.find (Text.endsIn (· == '%') (done ++ m)) cs).map (Directive.Found.prepend m) := by
    rw [← escapes_false, ← escapes_false, he, escapes_append, hm.escapes, Directive.find_skips hm]
  rcases h.rest_cases (Job.rest_fits hk) with
    ⟨hf, rfl⟩ | ⟨f, hf, ⟨ref, t, hd, ha, hr⟩ | ⟨ref, wanted, t, b, hd, ha, hb, hr⟩⟩
  · rw [hfind, Option.map_eq_none_iff] at hf
    rw [← List.append_assoc]
    exact Runs.finished hf
  · rw [hfind] at hf
    obtain ⟨g, hg, rfl⟩ := Option.map_eq_some_iff.1 hf
    refine Runs.substituted hg hd ha ?_
    simpa [Directive.Found.prepend] using hr
  · rw [hfind] at hf
    obtain ⟨g, hg, rfl⟩ := Option.map_eq_some_iff.1 hf
    refine Runs.selected hg hd ha hb ?_
    simpa [Directive.Found.prepend] using hr

/-! ## Beginnings -/

theorem Plain.rest_head {key text : String} {done cs : List Char} (hk : key ∈ s.pending)
    (h : Plain prefixKey s KeySet.empty (.rest key done cs) (.ok text))
    (hread : Directive.read? cs = none) :
    ∃ ws, text = String.ofList (done ++ ws) ∧
      ∀ xs, Directive.Straddles xs ws ↔ Directive.Straddles xs cs := by
  have hbegins : ∀ f, Directive.find (Text.endsIn (· == '%') done) cs = some f → ∀ ds xs,
      Directive.Straddles xs (f.before ++ ds) ↔ Directive.Straddles xs cs := by
    intro f hf ds xs
    rw [← escapes_false] at hf
    obtain ⟨m, he, -, hb, -⟩ := Directive.find_local hf
    have hiff : Directive.Straddles xs (f.before ++ ds) ↔
        Directive.Straddles xs (f.before ++ (m ++ f.after)) :=
      Directive.straddles_congr (Directive.before_ne_nil hf hread) hb
    rwa [← he] at hiff
  rcases h.rest_cases (Job.rest_fits hk) with
    ⟨-, rfl⟩ | ⟨f, hf, ⟨ref, t, -, -, hr⟩ | ⟨ref, wanted, t, b, -, -, -, hr⟩⟩
  · exact ⟨cs, rfl, fun _ => Iff.rfl⟩
  · obtain ⟨ws, rfl, -⟩ := hr.rest_moves hk (.inl rfl)
    exact ⟨f.before ++ (t.toList ++ ws), by simp, hbegins f hf _⟩
  · obtain ⟨ws, rfl, -⟩ := hr.rest_moves hk (.inl rfl)
    exact ⟨f.before ++ ws, by simp, hbegins f hf _⟩

/-! ## A reference between two texts -/

section reference
variable {K A R tK tA tR : String} {l r : List Char}

theorem Plain.behind_reference {m : List Char} (hl : Directive.find false l = none)
    (hle : escapes false l = false) (hm : Marks m (.substitute (.direct A)))
    (hK : (s.text K).toList = l ++ (m ++ r)) (hKp : K ∈ s.pending)
    (hrunK : Plain prefixKey s KeySet.empty (.value K) (.ok tK))
    (hrunA : Plain prefixKey s KeySet.empty (.value A) (.ok tA)) :
    Plain prefixKey s KeySet.empty (.rest K (l ++ tA.toList) r) (.ok tK) := by
  have hfind := Directive.find_of_marks hl hle hm r
  have hrest : Plain prefixKey s KeySet.empty (.rest K [] (l ++ (m ++ r))) (.ok tK) := by
    cases hrunK with
    | stored hn => exact absurd hKp hn
    | expanded _ h => exact hK ▸ h
  rcases hrest.rest_cases (Job.rest_fits hKp) with
    ⟨hf, -⟩ | ⟨f, hf, ⟨ref, t, hd, ha, hr⟩ | ⟨ref, wanted, t, b, hd, -, -, -⟩⟩
  · rw [show Text.endsIn (· == '%') [] = false from rfl, hfind] at hf
    cases hf
  · obtain rfl := Option.some.inj (hfind.symm.trans hf)
    cases hd
    have hv := (ha.direct_inv ⟨KeySet.not_mem_empty _, hKp⟩).demand_value
    obtain rfl := Except.ok.inj (Plain.unique hv hrunA)
    exact hr
  · obtain rfl := Option.some.inj (hfind.symm.trans hf)
    cases hd

/-- What a text comes to in a value of its own, it comes to in every other key. A key that is not
pending makes no reference, and the end of a block would be a fault. -/
theorem Plain.rest_value (hKp : K ∈ s.pending) (hR : (s.text R).toList = r)
    (hRp : R ∉ s.pending → Directive.references (s.text R) = [])
    (hrest : Plain prefixKey s KeySet.empty (.rest K [] r) (.ok tK))
    (hrunR : Plain prefixKey s KeySet.empty (.value R) (.ok tR)) : tR = tK := by
  cases hrunR with
  | expanded hp h => exact (Plain.rest_agree hKp hp hrest (hR ▸ h)).symm
  | stored hp =>
    have hnone : ∀ f ref, Directive.find (Text.endsIn (· == '%') []) r = some f →
        f.directive.reference? ≠ some ref := by
      intro f ref hf hd
      rw [← hR] at hf
      have hmem := Directive.reference_mem_references hf hd
      rw [hRp hp] at hmem
      cases hmem
    rcases hrest.rest_cases (Job.rest_fits hKp) with
      ⟨-, rfl⟩ | ⟨f, hf, ⟨ref, t, hd, -, -⟩ | ⟨ref, wanted, t, b, hd, -, -, -⟩⟩
    · rw [List.nil_append, ← hR, String.ofList_toList]
      rfl
    · exact absurd (by rw [hd]; rfl) (hnone f ref hf)
    · exact absurd (Directive.reference?_of_condition? hd) (hnone f ref hf)

/-- **A value `l%{A}r`, decoded, is `l`, the value of `A` and that of `r` exactly if** no escaped
opener straddles the end of the value of `A` and the beginning of `r`, or `r` begins with a
directive and its value is what it would be if this directive was escaped. -/
theorem substituted_opaque {m : List Char} (hl : Directive.find false l = none)
    (hle : escapes false l = false) (hm : Marks m (.substitute (.direct A)))
    (hK : (s.text K).toList = l ++ (m ++ r)) (hKp : K ∈ s.pending) (hR : (s.text R).toList = r)
    (hRp : R ∉ s.pending → Directive.references (s.text R) = [])
    (hrunK : Plain prefixKey s KeySet.empty (.value K) (.ok tK))
    (hrunA : Plain prefixKey s KeySet.empty (.value A) (.ok tA))
    (hrunR : Plain prefixKey s KeySet.empty (.value R) (.ok tR)) :
    Directive.decodeEscapes tK.toList =
        Directive.decodeEscapes l ++ Directive.decodeEscapes tA.toList ++
          Directive.decodeEscapes tR.toList ↔
      ¬Directive.Straddles (Directive.decodeEscapes tA.toList) r ∨
        ∃ mark d rest t, r = '%' :: mark ++ rest ∧ Directive.read? r = some (d, rest) ∧
          Plain prefixKey s KeySet.empty (.rest K [] rest) (.ok t) ∧
          Directive.decodeEscapes tR.toList = mark ++ Directive.decodeEscapes t.toList := by
  have hbehind := Plain.behind_reference hl hle hm hK hKp hrunK hrunA
  have hdone : escapes false (l ++ tA.toList) = escapes false tA.toList := by
    rw [escapes_append, hle]
  have hdecode : ∀ ys, Directive.decodeEscapes (l ++ ys) =
      Directive.decodeEscapes l ++ Directive.decodeEscapes ys := fun ys =>
    Directive.decodeEscapes_append (not_straddles_of_escapes hle)
  -- behind a text that does not escape it, or if it begins with no directive, `r` comes to `tR`
  have hown : escapes false tA.toList = false ∨ Directive.read? r = none →
      tK = String.ofList (l ++ tA.toList ++ tR.toList) := by
    intro hcase
    have hesc : escapes false (l ++ tA.toList) = escapes false [] ∨ Directive.read? r = none :=
      hcase.imp_left hdone.trans
    obtain ⟨ws, rfl, hmoved⟩ := hbehind.rest_moves hKp hesc
    rw [Plain.rest_value hKp hR hRp hmoved hrunR, String.toList_ofList, List.nil_append]
  rw [Directive.straddles_decode_iff]
  cases hread : Directive.read? r with
  | none =>
    obtain ⟨ws, he, hbegins⟩ := hbehind.rest_head hKp hread
    obtain rfl := hown (.inr hread)
    obtain rfl := List.append_cancel_left (String.ofList_injective he)
    rw [String.toList_ofList, List.append_assoc, List.append_assoc, hdecode,
      List.append_cancel_left_eq, Directive.decodeEscapes_append_iff, hbegins]
    simp
  | some found =>
    obtain ⟨d, rest⟩ := found
    obtain ⟨m', rfl, hm'⟩ := Directive.read?_marks hread
    cases hesc : escapes false tA.toList with
    | false =>
      have hs : ¬Directive.Straddles tA.toList (m' ++ rest) := not_straddles_of_escapes hesc
      rw [hown (.inl hesc), String.toList_ofList, List.append_assoc, List.append_assoc, hdecode,
        Directive.decodeEscapes_append (not_straddles_of_escapes hesc)]
      exact iff_of_true rfl (.inl hs)
    | true =>
      have hs : Directive.Straddles tA.toList (m' ++ rest) :=
        .inl ⟨escapes_iff.1 hesc, Directive.read?_opens hread⟩
      have hskip := hbehind.rest_skips hKp hm' (hdone.trans hesc)
      have hmove : escapes false (l ++ tA.toList ++ m') = escapes false [] := by
        rw [escapes_append, hm'.escapes]
        rfl
      obtain ⟨ws, rfl, hrest⟩ := hskip.rest_moves hKp (.inl hmove)
      obtain ⟨cs, rfl, -, -⟩ := hm'.opens
      rw [String.toList_ofList, List.append_assoc, List.append_assoc, List.append_assoc, hdecode,
        Directive.decodeEscapes_marks hm' hesc, List.append_cancel_left_eq,
        List.append_cancel_left_eq]
      constructor
      · intro he
        exact .inr ⟨cs, d, rest, _, rfl, rfl, hrest, by rw [← he]; simp⟩
      · rintro (hn | ⟨mark, d', rest', t, hr, hd', hrest', he⟩)
        · exact absurd hs hn
        · obtain ⟨rfl, rfl⟩ := Prod.mk.inj (Option.some.inj hd')
          obtain rfl := Except.ok.inj (Plain.unique hrest hrest')
          obtain rfl : cs = mark := by simpa using hr
          rw [he]
          simp

end reference

end LayeredConfig.Expansion
