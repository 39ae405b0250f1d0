/-!
# Insertion-ordered tables

A table maps names to values and remembers the order in which its names were first given one.
Giving a name a new value keeps its place. The names are pairwise distinct by construction.
-/

namespace LayeredConfig

/-- Names with their values, in the order in which the names came in. -/
structure Table (α : Type) where
  entries : List (String × α) := []
  nodup : (entries.map (·.1)).Nodup := by decide

namespace Table

variable {α : Type}

def empty : Table α := ⟨[], List.nodup_nil⟩

instance : Inhabited (Table α) := ⟨empty⟩

def keys (t : Table α) : List String := t.entries.map (·.1)

def size (t : Table α) : Nat := t.entries.length

def lookup (key : String) : List (String × α) → Option α
  | [] => none
  | (k, v) :: es => if k = key then some v else lookup key es

def get? (t : Table α) (key : String) : Option α := lookup key t.entries

def getD (t : Table α) (key : String) (default : α) : α := (t.get? key).getD default

def contains (t : Table α) (key : String) : Bool := (t.get? key).isSome

/-- Gives a name a value: in place if the name is there, at the end if not. -/
def put (key : String) (value : α) : List (String × α) → List (String × α)
  | [] => [(key, value)]
  | (k, v) :: es => if k = key then (k, value) :: es else (k, v) :: put key value es

theorem mem_map_put {key k : String} {value : α} {es : List (String × α)} :
    k ∈ (put key value es).map (·.1) ↔ k = key ∨ k ∈ es.map (·.1) := by
  induction es with
  | nil => simp [put]
  | cons e es ih =>
    obtain ⟨k', v⟩ := e
    by_cases h : k' = key
    · subst h; simp [put]
    · simp only [put, if_neg h, List.map_cons, List.mem_cons, ih]
      exact or_left_comm

theorem nodup_put {key : String} {value : α} {es : List (String × α)}
    (h : (es.map (·.1)).Nodup) : ((put key value es).map (·.1)).Nodup := by
  induction es with
  | nil => simp [put]
  | cons e es ih =>
    obtain ⟨k', v⟩ := e
    rw [List.map_cons, List.nodup_cons] at h
    by_cases hk : k' = key
    · simp only [put, if_pos hk, List.map_cons, List.nodup_cons]
      exact h
    · simp only [put, if_neg hk, List.map_cons, List.nodup_cons]
      refine ⟨fun hm => ?_, ih h.2⟩
      rcases mem_map_put.1 hm with he | hm
      · exact hk he
      · exact h.1 hm

def insert (t : Table α) (key : String) (value : α) : Table α :=
  ⟨put key value t.entries, nodup_put t.nodup⟩

/-- A name given twice keeps its first place and its last value. -/
def ofList (es : List (String × α)) : Table α :=
  es.foldl (fun t e => t.insert e.1 e.2) empty

def mapValues {β : Type} (f : String → α → β) (t : Table α) : Table β :=
  ⟨t.entries.map (fun e => (e.1, f e.1 e.2)), by simpa [Function.comp_def] using t.nodup⟩

/-! ## What a look-up sees -/

theorem lookup_put (key k : String) (value : α) (es : List (String × α)) :
    lookup k (put key value es) = if key = k then some value else lookup k es := by
  induction es with
  | nil => simp [put, lookup]
  | cons e es ih =>
    obtain ⟨k', v⟩ := e
    by_cases h : k' = key
    · subst h
      by_cases hk : k' = k <;> simp [put, lookup, hk]
    · by_cases hk : k' = k
      · subst hk
        simp [put, lookup, h, Ne.symm h]
      · simp [put, lookup, h, hk, ih]

@[simp] theorem get?_empty (key : String) : (empty : Table α).get? key = none := rfl

theorem get?_insert (t : Table α) (key k : String) (value : α) :
    (t.insert key value).get? k = if key = k then some value else t.get? k :=
  lookup_put key k value t.entries

theorem get?_mapValues {β : Type} (f : String → α → β) (t : Table α) (k : String) :
    (t.mapValues f).get? k = (t.get? k).map (f k) := by
  have hlookup : ∀ es : List (String × α),
      lookup k (es.map fun e => (e.1, f e.1 e.2)) = (lookup k es).map (f k) := by
    intro es
    induction es with
    | nil => rfl
    | cons e es ih =>
      obtain ⟨j, v⟩ := e
      by_cases he : j = k
      · subst he
        simp [lookup]
      · simp [lookup, he, ih]
  exact hlookup t.entries

theorem lookup_isSome {key : String} {es : List (String × α)} :
    (lookup key es).isSome ↔ key ∈ es.map (·.1) := by
  induction es with
  | nil => simp [lookup]
  | cons e es ih =>
    obtain ⟨k, v⟩ := e
    by_cases h : k = key
    · simp [lookup, h]
    · simp only [lookup, if_neg h, ih, List.map_cons, List.mem_cons]
      exact ⟨Or.inr, fun hk => hk.resolve_left (Ne.symm h)⟩

theorem contains_iff {t : Table α} {key : String} : t.contains key ↔ key ∈ t.keys :=
  lookup_isSome

theorem get?_eq_none {t : Table α} {key : String} (h : key ∉ t.keys) : t.get? key = none := by
  rw [← Option.not_isSome_iff_eq_none]
  exact mt contains_iff.1 h

theorem mem_keys_insert {t : Table α} {key k : String} {value : α} :
    k ∈ (t.insert key value).keys ↔ k = key ∨ k ∈ t.keys :=
  mem_map_put

theorem keys_insert_of_mem {t : Table α} {key : String} (value : α) (h : key ∈ t.keys) :
    (t.insert key value).keys = t.keys := by
  have hput : ∀ es : List (String × α), key ∈ es.map (·.1) →
      (put key value es).map (·.1) = es.map (·.1) := by
    intro es
    induction es with
    | nil => simp
    | cons e es ih =>
      obtain ⟨k, v⟩ := e
      intro hk
      by_cases he : k = key
      · simp [put, he]
      · have hes : key ∈ es.map (·.1) := (List.mem_cons.1 hk).resolve_left (Ne.symm he)
        simp [put, he, ih hes]
  exact hput t.entries h

theorem put_of_not_mem {key : String} {value : α} {es : List (String × α)}
    (h : key ∉ es.map (·.1)) : put key value es = es ++ [(key, value)] := by
  induction es with
  | nil => rfl
  | cons e es ih =>
    rw [List.map_cons, List.mem_cons, not_or] at h
    rw [put, if_neg (Ne.symm h.1), ih h.2, List.cons_append]

/-! ## The order of names -/

/-- If the names of a table are those of a list in the order in which they first occur, they still
are when one more name is given a value. -/
theorem keys_insert {t : Table α} {ks : List String} (h : t.keys = ks.eraseDups) (key : String)
    (value : α) : (t.insert key value).keys = (ks ++ [key]).eraseDups := by
  by_cases hk : key ∈ ks
  · have hgone : [key].removeAll ks = [] := by simp [List.removeAll, hk]
    rw [keys_insert_of_mem value (h ▸ List.mem_eraseDups.2 hk), h, List.eraseDups_append, hgone,
      List.eraseDups_nil, List.append_nil]
  · have hstays : [key].removeAll ks = [key] := by simp [List.removeAll, hk]
    have hnew : key ∉ t.entries.map (·.1) := by
      intro hin
      have hin' : key ∈ t.keys := hin
      rw [h] at hin'
      exact hk (List.mem_eraseDups.1 hin')
    have hkeys : (t.insert key value).keys = t.keys ++ [key] := by
      show (put key value t.entries).map (·.1) = t.entries.map (·.1) ++ [key]
      rw [put_of_not_mem hnew, List.map_append]
      rfl
    rw [hkeys, h, List.eraseDups_append, hstays]
    rfl

theorem keys_ofList (es : List (String × α)) :
    (ofList es).keys = (es.map (·.1)).eraseDups := by
  have hfold : ∀ (es : List (String × α)) (t : Table α) (ks : List String),
      t.keys = ks.eraseDups →
        (es.foldl (fun t e => t.insert e.1 e.2) t).keys = (ks ++ es.map (·.1)).eraseDups := by
    intro es
    induction es with
    | nil =>
      intro t ks h
      simpa using h
    | cons e es ih =>
      intro t ks h
      rw [List.foldl_cons, ih _ _ (keys_insert h e.1 e.2), List.append_assoc]
      rfl
  exact hfold es empty [] rfl

theorem keys_mapValues {β : Type} (f : String → α → β) (t : Table α) :
    (t.mapValues f).keys = t.keys := by
  show (t.entries.map fun e => (e.1, f e.1 e.2)).map (·.1) = t.entries.map (·.1)
  rw [List.map_map]
  rfl

/-! ## Tables that look alike -/

/-- No look-up tells the tables apart; the order of their names may differ. -/
def Agrees (t t' : Table α) : Prop := ∀ key, t.get? key = t'.get? key

theorem Agrees.mem_keys {t t' : Table α} (h : t.Agrees t') {key : String} :
    key ∈ t.keys ↔ key ∈ t'.keys := by
  rw [← contains_iff, ← contains_iff, contains, contains, h key]

theorem Agrees.insert {t t' : Table α} (h : t.Agrees t') (key : String) (value : α) :
    (t.insert key value).Agrees (t'.insert key value) := by
  intro k
  rw [get?_insert, get?_insert, h k]

theorem Agrees.mapValues {β : Type} {t t' : Table α} (h : t.Agrees t') (f : String → α → β) :
    (t.mapValues f).Agrees (t'.mapValues f) := by
  intro k
  rw [get?_mapValues, get?_mapValues, h k]

end Table

end LayeredConfig
