import LayeredConfig.Proofs.Expansion.Cycle

/-!
# The path is given back

An expansion may start with keys on the path already: `State.resolveOn`. While the text of a key
asks for a value the key is on the path, and it leaves the path with the answer, be it a text or a
fault.

* `State.resolveOn_eq`: an expansion is the work on the text of its key, where every look-up is an
  expansion from the path of that moment, and nothing but the look-ups of `Needs` is asked for.
* `Within prefixKey key s target t`: in the course of expanding `key` from `s`, at any depth,
  `target` is looked up in the state `t`. On a fresh path these are the moments of `Active`.
* `path_given_back`: each of them is off the path that it is given, hands that path on with its own
  key added, and leaves it as it was.
-/

namespace LayeredConfig.Expansion

variable {prefixKey key target : String} {s t : State} {chain : List String} {job : Job}

/-- One level of an expansion, whoever answers its look-ups as an expansion does from the path of
that moment. -/
theorem State.resolveOn_eq {answer : String → State → Outcome} (hk : key ∉ s.path)
    (ha : ∀ target t, Needs prefixKey key s target t →
      answer target t = t.resolveOn prefixKey t.path target) :
    s.resolveOn prefixKey s.path key =
      if key ∈ s.pending then expandRest answer prefixKey key [] (s.text key).toList s
      else (.ok (s.text key), s) := by
  have hrun := State.resolveOn_run prefixKey hk
  by_cases hp : key ∈ s.pending
  · rw [if_pos hp]
    refine hrun.unique (.expanded hp (rest_runs (fun target t ht => ?_) (.opened hp)))
    rw [ha target t ht]
    exact State.resolveOn_run prefixKey (ht.frame hk).1
  · rw [if_neg hp]
    exact hrun.unique (.stored hp)

/-! ## Look-ups at any depth -/

/-- In the course of expanding `key` from `s`, `target` is looked up in the state `t`: it is the key
itself, or the text of a key that is looked up needs it. -/
inductive Within (prefixKey key : String) (s : State) : String → State → Prop
  | itself : Within prefixKey key s key s
  | needed {k : String} {u : State} {target : String} {t : State}
      (h : Within prefixKey key s k u) (hn : Needs prefixKey k u target t) :
      Within prefixKey key s target t

theorem Within.off_path (h : Within prefixKey key s target t) (hk : key ∉ s.path) :
    target ∉ t.path := by
  induction h with
  | itself => exact hk
  | needed _ hn ih => exact (hn.frame ih).1

/-- How a job of an expansion comes from the key that is looked up last. -/
def Job.Met (prefixKey key : String) (s t : State) : Job → Prop
  | .value k => Within prefixKey key s k t
  | .rest k done cs => ∃ u, Within prefixKey key s k u ∧ Works prefixKey k u done cs t
  | .follow k ref => ∃ u, Within prefixKey key s k u ∧ Refers prefixKey k u ref t
  | .demand k target => ∃ u, Within prefixKey key s k u ∧
      (¬(target = k ∨ target ∈ t.path) → Needs prefixKey k u target t)

theorem Active.met (h : Active true prefixKey key s chain job t) :
    job.Met prefixKey key s.fresh t := by
  induction h with
  | start => exact .itself
  | opened _ hk ih => exact ⟨_, ih, .opened hk⟩
  | asked _ hf hd ih =>
    obtain ⟨u, hu, hw⟩ := ih
    exact ⟨u, hu, _, _, _, hw, hf, hd⟩
  | substituted _ hf hd hr ih =>
    obtain ⟨u, hu, hw⟩ := ih
    exact ⟨u, hu, hw.substituted hf hd hr⟩
  | selected _ hf hd hr hb ih =>
    obtain ⟨u, hu, hw⟩ := ih
    exact ⟨u, hu, hw.selected hf hd hr hb⟩
  | direct _ ih =>
    obtain ⟨u, hu, hm⟩ := ih
    exact ⟨u, hu, .direct hm⟩
  | stem _ ih =>
    obtain ⟨u, hu, hm⟩ := ih
    exact ⟨u, hu, .stem hm⟩
  | indirect _ hr ih =>
    obtain ⟨u, hu, hm⟩ := ih
    exact ⟨u, hu, .indirect hm hr⟩
  | called _ ht ih =>
    obtain ⟨u, hu, hn⟩ := ih
    exact .needed hu (hn ht)

theorem Works.active {k : String} {u : State} {done cs : List Char}
    (h : Works prefixKey k u done cs t) (ha : Active true prefixKey key s chain (.value k) u) :
    Active true prefixKey key s (k :: chain) (.rest k done cs) t := by
  induction h with
  | opened hk => exact ha.opened hk
  | substituted _ hf hd hr ih => exact ih.substituted hf hd hr
  | selected _ hf hd hr hb ih => exact ih.selected hf hd hr hb

theorem Needs.active {k : String} {u : State} (h : Needs prefixKey k u target t)
    (ha : Active true prefixKey key s chain (.value k) u) :
    Active true prefixKey key s (k :: chain) (.value target) t := by
  have hfollow : ∀ {ref t}, Refers prefixKey k u ref t →
      Active true prefixKey key s (k :: chain) (.follow k ref) t := by
    rintro ref t ⟨done, cs, f, hw, hf, hd⟩
    exact (hw.active ha).asked hf hd
  cases h with
  | direct h ht => exact (hfollow h).direct.called ht
  | stem h ht => exact (hfollow h).stem.called ht
  | indirect h hr ht => exact ((hfollow h).indirect hr).called ht

theorem within_iff_active : Within prefixKey key s.fresh target t ↔
    ∃ chain, Active true prefixKey key s chain (.value target) t := by
  refine ⟨fun h => ?_, fun ⟨_, h⟩ => h.met⟩
  induction h with
  | itself => exact ⟨[], .start⟩
  | needed _ hn ih =>
    obtain ⟨chain, h⟩ := ih
    exact ⟨_, hn.active h⟩

/-! ## The path -/

theorem State.resolveOn_path (prefixKey : String) (hk : key ∉ s.path) :
    (s.resolveOn prefixKey s.path key).2.path = s.path := by
  have hfits : (Job.value key).Fits s := hk
  exact ((State.resolveOn_run prefixKey hk).frame hfits).1.path

/-- **The path is given back**, with a text and with a fault. Every look-up on the way, at any
depth, is for a key off the path that it is given, and gives that path back as well. In between it
hands the path on with its own key added, and asks for nothing else: its outcome hangs on the
answers to the look-ups of its text only. -/
theorem path_given_back (s : State) (prefixKey : String) {path : KeySet} {key : String}
    (hk : key ∉ path) :
    (s.resolveOn prefixKey path key).2.path = path ∧
    ∀ target t, Within prefixKey key (s.on path) target t →
      target ∉ t.path ∧ (t.resolveOn prefixKey t.path target).2.path = t.path ∧
      (∀ k u, Needs prefixKey target t k u → u.path = t.path.insert target) ∧
      ∀ answer : String → State → Outcome, (∀ k u, Needs prefixKey target t k u →
          answer k u = u.resolveOn prefixKey u.path k) →
        t.resolveOn prefixKey t.path target =
          if target ∈ t.pending then expandRest answer prefixKey target [] (t.text target).toList t
          else (.ok (t.text target), t) := by
  have hkey : key ∉ (s.on path).path := hk
  refine ⟨State.resolveOn_path prefixKey hkey, fun target t h => ?_⟩
  have hoff : target ∉ t.path := h.off_path hkey
  refine ⟨hoff, State.resolveOn_path prefixKey hoff, fun k u hn => ?_, fun answer ha => ?_⟩
  · exact (hn.frame hoff).2.path
  · exact State.resolveOn_eq hoff ha

/-- A key that refers to a second one, and then to one made from a prefix that refers back to it. -/
def recoiling : State where
  values := Table.ofList [("A", "%\x7bC\x7d%\x7b*_s\x7d"), ("C", "c"), ("P_s", "%\x7bA\x7d"),
    ("VARPREFIX", "P")]
  pending := KeySet.ofList ["A", "P_s"]

/-- On a path of two other keys the second look-up fails, and the two keys are left. -/
theorem recoiling_given_back :
    "A" ∉ KeySet.ofList ["X", "Y"] ∧
    (recoiling.resolveOn "VARPREFIX" (KeySet.ofList ["X", "Y"]) "A").1 =
      .error (.selfReference "A" "P_s") ∧
    (recoiling.resolveOn "VARPREFIX" (KeySet.ofList ["X", "Y"]) "A").2.path =
      KeySet.ofList ["X", "Y"] ∧
    Within "VARPREFIX" "A" (recoiling.on (KeySet.ofList ["X", "Y"])) "C"
      ((recoiling.on (KeySet.ofList ["X", "Y"])).enter "A") ∧
    "C" ∉ ((recoiling.on (KeySet.ofList ["X", "Y"])).enter "A").path := by
  have hoff : "A" ∉ KeySet.ofList ["X", "Y"] := by decide
  obtain ⟨hback, hwithin⟩ := path_given_back recoiling "VARPREFIX" hoff
  have hrefers : Refers "VARPREFIX" "A" (recoiling.on (KeySet.ofList ["X", "Y"])) (.direct "C")
      (recoiling.on (KeySet.ofList ["X", "Y"])) :=
    ⟨[], _, ⟨[], .substitute (.direct "C"), 4, "%\x7b*_s\x7d".toList⟩, .opened (by decide),
      by decide, rfl⟩
  have hC := Within.needed .itself (.direct hrefers (by decide))
  exact ⟨hoff, by cbv, hback, hC, (hwithin _ _ hC).1⟩

/-- A key that is on the path already leaves it with its first answer. -/
example : (recoiling.resolveOn "VARPREFIX" (KeySet.ofList ["A", "X"]) "A").2.path =
    KeySet.ofList ["X"] := by cbv

end LayeredConfig.Expansion
