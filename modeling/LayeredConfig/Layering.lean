import LayeredConfig.Directive.Find
import LayeredConfig.KeySet
import LayeredConfig.Overlay
import LayeredConfig.Setting.Basic
import LayeredConfig.Sources

/-!
# Layering

Defaults, overlays and environment are laid over one another, in this order, into one table of
values. Then the values are searched for references: every name that is referred to and is no key
yet becomes an ad hoc setting, whose value is searched in turn.
-/

namespace LayeredConfig.Layering

structure Plan where
  sources : Sources := {}
  reader : Overlay.Reader := {}
  /-- What may stand in front of the name in an indirect reference. -/
  stems : List String := ["VAR_", "DIFF_VAR_"]

/-! ## Merging -/

/-- The table of defaults; of several settings with one key the last one counts. -/
def defaults (settings : List Setting) : Table String :=
  Table.ofList (settings.map (fun s => (s.key, s.default)))

/-- The environment's value takes the place of a key's own. -/
def override (env values : Table String) : Table String :=
  values.mapValues (fun key value => env.getD key value)

def merge (p : Plan) (h : Host) (settings : List Setting) : Except Fault (Table String) × Journal :=
  match Overlay.read p.reader h (p.sources.systemFile h.env) ⟨defaults settings, []⟩ with
  | (.error e, s) => (.error e, s.journal)
  | (.ok _, s) =>
    let (user, journal) := p.sources.userFile h.env
    let s := { s with journal := s.journal ++ journal }
    match user with
    | none => (.ok (override h.env s.values), s.journal)
    | some path =>
      match Overlay.read p.reader h path s with
      | (.error e, s) => (.error e, s.journal)
      | (.ok _, s) => (.ok (override h.env s.values), s.journal)

/-! ## Discovery -/

def targets (stems : List String) : Reference → List String
  | .direct name => [name]
  | .indirect suffix => stems.map (· ++ suffix)

/-- The value of a key that is no setting: from the merged table, else from the environment, else
empty. -/
def sourceText (env merged : Table String) (key : String) : String :=
  ((merged.get? key).or (env.get? key)).getD ""

/-- The settings, the known keys, the working table, and the keys whose values refer to others. -/
structure Builder where
  settings : List Setting
  known : KeySet := KeySet.empty
  values : Table String := Table.empty

def Builder.add (b : Builder) (key value : String) : Builder :=
  ⟨b.settings ++ [.adHoc key value], b.known.insert key, b.values.insert key value⟩

def Builder.join (env merged : Table String) (b : Builder) (key : String) : Builder × Journal :=
  if key ∈ b.known then (b, [])
  else (b.add key (sourceText env merged key), [.adHocAdded key])

/-- The keys of a list that are not known, each once. -/
def freshKeys (known : KeySet) : List String → List String
  | [] => []
  | k :: ks => if k ∈ known then freshKeys known ks else k :: freshKeys (known.insert k) ks

def Builder.addAll (env merged : Table String) (b : Builder) (keys : List String) : Builder :=
  keys.foldl (fun b k => b.add k (sourceText env merged k)) b

/-- A setting whose value may refer to other keys, and the value. -/
abbrev Task := String × String

/-- The tasks that new keys bring; an empty value refers to nothing. -/
def tasksOf (env merged : Table String) (keys : List String) : List Task :=
  (keys.map (fun k => (k, sourceText env merged k))).filter (·.2 ≠ "")

/-- How many keys with a value from some source are not known. -/
def unknownCount (env merged : Table String) (known : KeySet) : Nat :=
  (merged.keys ++ env.keys).countP (· ∉ known)

theorem mem_known_addAll {env merged : Table String} {keys : List String} {b : Builder} {k : String} :
    k ∈ (b.addAll env merged keys).known ↔ k ∈ keys ∨ k ∈ b.known := by
  induction keys generalizing b with
  | nil => simp [Builder.addAll]
  | cons j js ih =>
    show k ∈ ((b.add j _).addAll env merged js).known ↔ _
    rw [ih]
    simp only [Builder.add, KeySet.mem_insert, List.mem_cons]
    exact or_left_comm.trans or_assoc.symm

theorem not_mem_of_freshKeys {known : KeySet} {keys : List String} {k : String}
    (h : k ∈ freshKeys known keys) : k ∉ known := by
  induction keys generalizing known with
  | nil => simp [freshKeys] at h
  | cons j js ih =>
    unfold freshKeys at h
    split at h
    · exact ih h
    · rename_i hj
      rcases List.mem_cons.1 h with rfl | h
      · exact hj
      · exact fun hk => ih h (KeySet.mem_insert.2 (Or.inr hk))

theorem mem_sources_of_text {env merged : Table String} {key : String}
    (h : sourceText env merged key ≠ "") : key ∈ merged.keys ++ env.keys := by
  rw [List.mem_append]
  unfold sourceText at h
  cases hm : merged.get? key with
  | some v => exact Or.inl (Table.contains_iff.1 (by simp [Table.contains, hm]))
  | none =>
    cases he : env.get? key with
    | some v => exact Or.inr (Table.contains_iff.1 (by simp [Table.contains, he]))
    | none => simp [hm, he] at h

theorem countP_lt_countP {α : Type} {p q : α → Bool} {l : List α} {a : α}
    (h : ∀ x, p x → q x) (ha : a ∈ l) (hp : ¬ p a) (hq : q a) : l.countP p < l.countP q := by
  induction l with
  | nil => simp at ha
  | cons x l ih =>
    have hle : l.countP p ≤ l.countP q := List.countP_mono_left (fun x _ => h x)
    rcases List.mem_cons.1 ha with rfl | ha
    · rw [List.countP_cons_of_neg hp, List.countP_cons_of_pos hq]
      omega
    · have := ih ha
      by_cases hx : p x
      · rw [List.countP_cons_of_pos hx, List.countP_cons_of_pos (h x hx)]
        omega
      · rw [List.countP_cons_of_neg hx]
        by_cases hx' : q x
        · rw [List.countP_cons_of_pos hx']
          omega
        · rw [List.countP_cons_of_neg hx']
          exact this

/-- What is left to do shrinks when the first task is replaced by those its new keys bring. -/
theorem tasks_decrease (env merged : Table String) (known more : KeySet) (keys : List String)
    (rest : List Task) (hk : ∀ k ∈ keys, k ∉ known) (hm : ∀ k, k ∈ more ↔ k ∈ keys ∨ k ∈ known) :
    Prod.Lex (· < ·) (· < ·)
      (unknownCount env merged more, (rest ++ tasksOf env merged keys).length)
      (unknownCount env merged known, rest.length + 1) := by
  have hsub : ∀ k : String, decide (k ∉ more) = true → decide (k ∉ known) = true := by
    intro k h
    simp only [decide_eq_true_eq] at h ⊢
    exact fun hn => h ((hm k).2 (Or.inr hn))
  cases ht : tasksOf env merged keys with
  | nil =>
    have hle : unknownCount env merged more ≤ unknownCount env merged known :=
      List.countP_mono_left (fun k _ => hsub k)
    rcases Nat.lt_or_eq_of_le hle with hlt | heq
    · exact Prod.Lex.left _ _ hlt
    · rw [heq]
      exact Prod.Lex.right _ (by simp)
  | cons t ts =>
    apply Prod.Lex.left
    have hmem : t ∈ tasksOf env merged keys := by simp [ht]
    obtain ⟨h1, h2⟩ := List.mem_filter.1 hmem
    obtain ⟨k, hkm, rfl⟩ := List.mem_map.1 h1
    refine countP_lt_countP hsub (mem_sources_of_text (of_decide_eq_true h2)) ?_ ?_
    · simpa using (hm k).2 (Or.inl hkm)
    · simpa using hk k hkm

/-- Works through the tasks in order. Only keys that a source gives a value bring new tasks, and
each of them once. -/
def discover (stems : List String) (env merged : Table String) (tasks : List Task) (b : Builder)
    (pending : KeySet) : Builder × KeySet × Journal :=
  match tasks with
  | [] => (b, pending, [])
  | (key, value) :: rest =>
    let refs := Directive.references value
    let keys := freshKeys b.known (refs.flatMap (targets stems))
    let (b', pending, journal) :=
      discover stems env merged (rest ++ tasksOf env merged keys) (b.addAll env merged keys)
        (if refs.isEmpty then pending else pending.insert key)
    (b', pending, keys.map .adHocAdded ++ journal)
termination_by (unknownCount env merged b.known, tasks.length)
decreasing_by
  exact tasks_decrease env merged _ _ _ rest (fun k => not_mem_of_freshKeys)
    (fun k => mem_known_addAll)

/-! ## Building -/

def layer (settings : List Setting) (merged : Table String) : Builder :=
  let settings := settings.map (fun s => s.layer (merged.getD s.key ""))
  ⟨settings, KeySet.ofList (settings.map (·.key)),
    Table.ofList (settings.map (fun s => (s.key, s.current)))⟩

/-- Layers all sources over the settings. A fault leaves the builder as it was. -/
def build (p : Plan) (h : Host) (b : Builder) : Except Fault KeySet × Builder × Journal :=
  match merge p h b.settings with
  | (.error e, journal) => (.error e, b, journal)
  | (.ok merged, journal) =>
    let b := layer b.settings merged
    let tasks := b.settings.map (fun s => (s.key, s.current))
    let (b, pending, found) := discover p.stems h.env merged tasks b KeySet.empty
    (.ok pending, b, journal ++ found ++ [.layered b.settings.length pending.size])

end LayeredConfig.Layering
