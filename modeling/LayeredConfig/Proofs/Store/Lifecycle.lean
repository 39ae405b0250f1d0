import LayeredConfig.Proofs.Store.Build

/-!
# The life of a store

A store is filled, cleared, built and asked in any order. Builds may fail, for the overlays or for
the values, and then it goes on as if they had not been tried. The first one that succeeds ends the
filling, and nothing changes any more.

* `Operation`, `Store.perform`, `Store.run`: what can be done with a store, once and in a row.
* `fresh`: a store as it is made; `collected`: the table that operations leave.
* `build_store`: what a build leaves; `Fails`, `fails_of_error`: why it fails.
* `perform_fresh`, `perform_built`: one operation before and after the first build that succeeds.
* `Stage`, `Stage.step`, `run_stage`: what any number of operations have led to.
* `lifecycle`: all of this for a store from its beginning.
-/

namespace LayeredConfig

inductive Operation where
  | add (setting : Setting)
  | clear
  /-- Asks for the table. -/
  | defaults
  /-- Asks whether the store is built. -/
  | built
  | build
  /-- Asks for the configuration. -/
  | config

inductive Answer where
  | changed (result : Except Fault Unit)
  | table (settings : List Setting)
  | built (isBuilt : Bool)
  | config (result : Except Fault Config)

namespace Store

def perform (h : Host) (s : Store) : Operation → Answer × Store
  | .add setting => (.changed (s.add setting).1, (s.add setting).2)
  | .clear => (.changed s.clear.1, s.clear.2)
  | .defaults => (.table s.defaults, s)
  | .built => (.built s.isBuilt, s)
  | .build => (.config (s.build h).1, (s.build h).2.1)
  | .config => (.config s.config, s)

def run (h : Host) (s : Store) (ops : List Operation) : Store :=
  ops.foldl (fun s op => (s.perform h op).2) s

def fresh (plan : Layering.Plan) (prefixKey : String) (table : List Setting) : Store where
  defaults := table
  plan := plan
  prefixKey := prefixKey

/-- The table after some operations: the settings that were added since the last time that it was
cleared, behind those it had at first if it never was. -/
def collected (table : List Setting) (ops : List Operation) : List Setting :=
  ops.foldl
    (fun table op =>
      match op with
      | .add setting => table ++ [setting]
      | .clear => []
      | _ => table) table

/-- What a store answers once it is built: it refuses all changes. -/
def finalAnswer (table : List Setting) (c : Config) : Operation → Answer
  | .add _ | .clear => .changed (.error (.misuse .alreadyBuilt))
  | .defaults => .table table
  | .built => .built true
  | .build => .config (.error (.misuse .alreadyBuilt))
  | .config => .config (.ok c)

variable {h : Host} {plan : Layering.Plan} {prefixKey : String} {table : List Setting}

theorem run_concat (h : Host) (s : Store) (ops : List Operation) (op : Operation) :
    s.run h (ops ++ [op]) = ((s.run h ops).perform h op).2 := by
  rw [run, List.foldl_append]
  rfl

/-! ## One operation -/

theorem build_store (h : Host) (s : Store) :
    (s.build h).2.1 =
      match (s.build h).1 with
      | .ok c => { s with config? := some c }
      | .error _ => s := by
  unfold build
  by_cases hbuilt : s.isBuilt
  · rw [if_pos hbuilt]
  · rw [if_neg hbuilt]
    rcases resolveSettings h s.plan s.prefixKey s.defaults with ⟨e | c, journal⟩ <;> rfl

/-- A build fails because the sources cannot be merged, or because a value cannot be expanded. -/
def Fails (h : Host) (s : Store) : Prop :=
  (∃ e, (Layering.merge s.plan h s.defaults).1 = .error e ∧ (s.build h).1 = .error e) ∨
  ∃ merged e, (Layering.merge s.plan h s.defaults).1 = .ok merged ∧
    ((s.start h).resolveAll s.prefixKey (s.keys h)).1 = .error e ∧
    (s.build h).1 = .error (.directive e)

theorem Fails.exists_error {s : Store} (hf : s.Fails h) : ∃ e, (s.build h).1 = .error e := by
  rcases hf with ⟨e, -, he⟩ | ⟨_, e, -, -, he⟩
  · exact ⟨e, he⟩
  · exact ⟨.directive e, he⟩

theorem fails_of_error {s : Store} (hn : s.config? = none) {e : Fault}
    (he : (s.build h).1 = .error e) : s.Fails h := by
  rcases hm : (Layering.merge s.plan h s.defaults).1 with e' | merged
  · exact .inl ⟨e', hm, build_eq_merge_error hn hm⟩
  · right
    rcases hres : ((s.start h).resolveAll s.prefixKey (s.keys h)).1 with d | _
    · exact ⟨merged, d, hm, rfl, build_eq_error hn hm hres⟩
    · obtain ⟨c, hc⟩ := (exists_build_iff hn hm).2 hres
      rw [hc] at he
      cases he

theorem perform_fresh (h : Host) (plan : Layering.Plan) (prefixKey : String) (table : List Setting)
    (op : Operation) :
    ((fresh plan prefixKey table).perform h op).2 =
        fresh plan prefixKey (collected table [op]) ∧
      (op = .build → (fresh plan prefixKey table).Fails h) ∨
    ∃ c, op = .build ∧ ((fresh plan prefixKey table).build h).1 = .ok c ∧
      ((fresh plan prefixKey table).perform h op).2 =
        { fresh plan prefixKey table with config? := some c } := by
  cases op with
  | add setting => exact .inl ⟨rfl, by simp⟩
  | clear => exact .inl ⟨rfl, by simp⟩
  | defaults => exact .inl ⟨rfl, by simp⟩
  | built => exact .inl ⟨rfl, by simp⟩
  | config => exact .inl ⟨rfl, by simp⟩
  | build =>
    have hstore := build_store h (fresh plan prefixKey table)
    rcases hb : ((fresh plan prefixKey table).build h).1 with e | c <;> rw [hb] at hstore
    · exact .inl ⟨hstore, fun _ => fails_of_error rfl hb⟩
    · exact .inr ⟨c, rfl, rfl, hstore⟩

theorem perform_built {s : Store} {c : Config} (hs : s.config? = some c) (op : Operation) :
    s.perform h op = (finalAnswer s.defaults c op, s) := by
  have hbuilt : s.isBuilt = true := by simp [isBuilt, hs]
  cases op with
  | add setting => simp [perform, add, update, hbuilt, finalAnswer]
  | clear => simp [perform, clear, update, hbuilt, finalAnswer]
  | defaults => rfl
  | built => simp [perform, hbuilt, finalAnswer]
  | build => simp [perform, build, hbuilt, finalAnswer]
  | config => simp [perform, config, hs, finalAnswer]

/-! ## Any number of operations -/

/-- Every build among the operations is one of an unbuilt store and fails. -/
def NeverBuilt (h : Host) (plan : Layering.Plan) (prefixKey : String) (table : List Setting)
    (ops : List Operation) : Prop :=
  ∀ before after, ops = before ++ .build :: after →
    (fresh plan prefixKey (collected table before)).Fails h

theorem NeverBuilt.concat {ops : List Operation} {op : Operation}
    (hn : NeverBuilt h plan prefixKey table ops)
    (hop : op = .build → (fresh plan prefixKey (collected table ops)).Fails h) :
    NeverBuilt h plan prefixKey table (ops ++ [op]) := by
  intro before after hsplit
  rcases List.eq_nil_or_concat after with rfl | ⟨after, last, rfl⟩
  · obtain ⟨rfl, hlast⟩ := List.append_inj' hsplit rfl
    exact hop (List.cons.inj hlast).1
  · have hlast : ops ++ [op] = (before ++ .build :: after) ++ [last] := by
      rw [hsplit, List.concat_eq_append, List.append_assoc, List.cons_append]
    exact hn before after (List.append_inj' hlast rfl).1

/-- What operations have led to: a store that is as if it had just been made with the table that is
left, or one that was built with the table of the moment. -/
inductive Stage (h : Host) (plan : Layering.Plan) (prefixKey : String) (table : List Setting) :
    List Operation → Store → Prop
  | filling {ops : List Operation} (hn : NeverBuilt h plan prefixKey table ops) :
      Stage h plan prefixKey table ops (fresh plan prefixKey (collected table ops))
  | settled {before after : List Operation} {c : Config}
      (hn : NeverBuilt h plan prefixKey table before)
      (hb : ((fresh plan prefixKey (collected table before)).build h).1 = .ok c) :
      Stage h plan prefixKey table (before ++ .build :: after)
        { fresh plan prefixKey (collected table before) with config? := some c }

theorem Stage.step {ops : List Operation} {s : Store} (hs : Stage h plan prefixKey table ops s)
    (op : Operation) : Stage h plan prefixKey table (ops ++ [op]) (s.perform h op).2 := by
  cases hs with
  | filling hn =>
    rcases perform_fresh h plan prefixKey (collected table ops) op with
      ⟨hnext, hfails⟩ | ⟨c, rfl, hb, hnext⟩
    · have htable : collected (collected table ops) [op] = collected table (ops ++ [op]) :=
        List.foldl_append.symm
      rw [hnext, htable]
      exact .filling (hn.concat hfails)
    · rw [hnext]
      exact .settled hn hb
  | @settled before after c hn hb =>
    rw [perform_built rfl, List.append_assoc, List.cons_append]
    exact .settled hn hb

theorem run_stage (h : Host) (plan : Layering.Plan) (prefixKey : String) (table : List Setting)
    (ops : List Operation) :
    Stage h plan prefixKey table ops ((fresh plan prefixKey table).run h ops) := by
  induction ops using List.reverseRecOn with
  | nil =>
    have hnone : NeverBuilt h plan prefixKey table [] := by
      intro before after hsplit
      simp at hsplit
    exact .filling hnone
  | append_singleton ops op ih =>
    rw [run_concat]
    exact ih.step op

/-- **The life of a store.** After any operations a store is in one of two situations. Either every
build so far has failed, at the overlays or at a value: then the store is as if it had just been made
with the settings added since it was last cleared, just as they were added, so a build comes to what
it comes to in a new store. Or there was a first build that succeeded: then the store has the table of
that moment and the configuration of that build. It stays so whatever is done with it: adding,
clearing and building are refused with a report about the configuration, and the table and the
configuration can be asked for. -/
theorem lifecycle (h : Host) (plan : Layering.Plan) (prefixKey : String) (table : List Setting)
    (ops : List Operation) :
    let made := fresh plan prefixKey
    NeverBuilt h plan prefixKey table ops ∧ (made table).run h ops = made (collected table ops) ∨
    ∃ before after c, ops = before ++ .build :: after ∧
      NeverBuilt h plan prefixKey table before ∧
      (made table).run h before = made (collected table before) ∧
      ((made (collected table before)).build h).1 = .ok c ∧
      (made table).run h ops = { made (collected table before) with config? := some c } ∧
      (∀ op, ((made table).run h ops).perform h op =
        (finalAnswer (collected table before) c op, (made table).run h ops)) ∧
      (Fault.misuse .alreadyBuilt).report?.map (·.category) = some .configuration := by
  intro made
  generalize hrun : (made table).run h ops = s
  have hstage := run_stage h plan prefixKey table ops
  rw [hrun] at hstage
  cases hstage with
  | filling hn => exact .inl ⟨hn, rfl⟩
  | @settled before after c hn hb =>
    refine .inr ⟨before, after, c, rfl, hn, ?_, hb, rfl, fun op => perform_built rfl op, rfl⟩
    -- nothing was built before the first build that succeeded
    have hbefore := run_stage h plan prefixKey table before
    generalize (fresh plan prefixKey table).run h before = s at hbefore
    cases hbefore with
    | filling => rfl
    | settled hn' hb' =>
      obtain ⟨e, he⟩ := (hn _ _ rfl).exists_error
      rw [hb'] at he
      cases he

/-- The first build runs into a cycle, the second one succeeds, and then the store is not cleared. -/
example : ((fresh {} "VARPREFIX" [Setting.make "A" .string "%{A}" "" "" ""]).run {}
      [.build, .clear, .add (Setting.make "B" .string "b" "" "" ""), .build, .clear]).config?.map
    (·.values.entries) = some [("B", "b")] := by
  cbv

end Store

end LayeredConfig
