import LayeredConfig.CommandLine.Run
import LayeredConfig.Proofs.Overlay.Failure
import LayeredConfig.Proofs.Setting.Failure
import LayeredConfig.Proofs.Store.Build

/-!
# How the command ends

A run of the command ends with status 0, 1 or 2, and it dies of a failure exactly if something that
it reads breaks: the table of defaults, the system's overlay, or after that the user's. Everything
else that goes wrong is reported.

* `Layering.merge_failsOnly`, `Store.build_failure_iff`: what is built of the files fails if one of
  the overlays breaks; an expansion that goes wrong is reported.
* `Breaks`, `run_failure_iff`: what the command dies of; `run_status`: its status.
* `reported_unless_breaks`: all of this for overlays, tables and the command. `leaping` is a host
  with an overlay that breaks.
-/

namespace LayeredConfig

/-! ## Building -/

namespace Layering

/-- Merging the sources over settings ends in a failure: the overlay of the system breaks, or that
of the user does on what the other one left. -/
inductive Breaks (p : Plan) (h : Host) (settings : List Setting) : Failure → Prop
  | system {f : Failure}
      (hf : Overlay.Breaks p.reader h Overlay.maxSourceDepth (p.sources.systemFile h.env)
        ⟨defaults settings, []⟩ f) : Breaks p h settings f
  | user {there : Bool} {s : Overlay.State} {path : Path} {f : Failure}
      (hsystem : Overlay.read p.reader h (p.sources.systemFile h.env) ⟨defaults settings, []⟩ =
        (.ok there, s))
      (huser : (p.sources.userFile h.env).1 = some path)
      (hf : Overlay.Breaks p.reader h Overlay.maxSourceDepth path
        { s with journal := s.journal ++ (p.sources.userFile h.env).2 } f) : Breaks p h settings f

theorem breaks_iff_user {p : Plan} {h : Host} {settings : List Setting} {there : Bool}
    {s : Overlay.State} {f : Failure}
    (hsystem : Overlay.read p.reader h (p.sources.systemFile h.env) ⟨defaults settings, []⟩ =
      (.ok there, s)) :
    Breaks p h settings f ↔ ∃ path, (p.sources.userFile h.env).1 = some path ∧
      Overlay.Breaks p.reader h Overlay.maxSourceDepth path
        { s with journal := s.journal ++ (p.sources.userFile h.env).2 } f := by
  constructor
  · intro hf
    cases hf with
    | system hf =>
      have hread := Overlay.readFile_failsOnly p.reader h Overlay.maxSourceDepth
        (p.sources.systemFile h.env) ⟨defaults settings, []⟩
      rw [Overlay.read] at hsystem
      rw [hsystem] at hread
      exact absurd hf (hread.not_of_ok f)
    | user hsystem' hpath hf =>
      obtain ⟨-, rfl⟩ := Prod.mk.inj (hsystem.symm.trans hsystem')
      exact ⟨_, hpath, hf⟩
  · rintro ⟨path, hpath, hf⟩
    exact .user hsystem hpath hf

theorem merge_failsOnly (p : Plan) (h : Host) (settings : List Setting) :
    FailsOnly [.fileSyntax] (Breaks p h settings) (merge p h settings).1 := by
  have hread := Overlay.readFile_failsOnly p.reader h Overlay.maxSourceDepth
  unfold merge
  split
  · rename_i e s hsystem
    have hs := hread (p.sources.systemFile h.env) ⟨defaults settings, []⟩
    rw [Overlay.read] at hsystem
    rw [hsystem] at hs
    refine hs.of_error.congr fun f => ⟨?_, .system⟩
    intro hf
    cases hf with
    | system hf => exact hf
    | user hsystem' _ _ => cases hsystem.symm.trans hsystem'
  · rename_i there s hsystem
    dsimp only
    split
    · rename_i hpath
      refine .of_ok fun f hf => ?_
      obtain ⟨path, hpath', -⟩ := (breaks_iff_user hsystem).1 hf
      cases hpath.symm.trans hpath'
    · rename_i path hpath
      have hbreaks : ∀ f, Breaks p h settings f ↔
          Overlay.Breaks p.reader h Overlay.maxSourceDepth path
            { s with journal := s.journal ++ (p.sources.userFile h.env).2 } f := by
        intro f
        rw [breaks_iff_user hsystem]
        simp only [hpath, Option.some.injEq, exists_eq_left']
      have hs := hread path { s with journal := s.journal ++ (p.sources.userFile h.env).2 }
      unfold Overlay.read
      split <;> rename_i heq <;> rw [heq] at hs
      · exact hs.of_error.congr hbreaks
      · exact .of_ok fun f hf => hs.not_of_ok f ((hbreaks f).1 hf)

end Layering

theorem Store.build_failure_iff {h : Host} {s : Store} (hn : s.config? = none) {f : Failure} :
    (s.build h).1 = .error (.failure f) ↔ Layering.Breaks s.plan h s.defaults f := by
  rw [← (Layering.merge_failsOnly s.plan h s.defaults).fails f]
  rcases hm : (Layering.merge s.plan h s.defaults).1 with e | merged
  · rw [build_eq_merge_error hn hm, Except.error.injEq, Except.error.injEq]
  · refine iff_of_false ?_ nofun
    intro hb
    rcases hres : ((s.start h).resolveAll s.prefixKey (s.keys h)).1 with e | _
    · rw [build_eq_error hn hm hres] at hb
      cases hb
    · obtain ⟨c, hc⟩ := (exists_build_iff hn hm).2 hres
      rw [hc] at hb
      cases hb

namespace CommandLine

/-! ## Running -/

/-- What the arguments name as defaults, loaded: no settings without a table. -/
def Loads (h : Host) (a : Arguments) (settings : List Setting) : Prop :=
  (a.defaults.map (Setting.load h)).getD (.ok []) = .ok settings

def Readable (h : Host) (a : Arguments) : Prop := ∀ path ∈ a.defaults, isReadable h path = .ok true

/-- Running the command with these arguments ends in a failure: the table of defaults has a name
that cannot be looked up, or breaks, or one of the overlays does. -/
inductive Breaks (h : Host) (a : Arguments) : Failure → Prop
  | name {path : String} (hpath : path ∈ a.defaults) (hnull : '\x00' ∈ path.toList) :
      Breaks h a .nullInName
  | table {path : String} {f : Failure} (hreadable : Readable h a) (hpath : path ∈ a.defaults)
      (hf : Setting.Breaks h path f) : Breaks h a f
  | sources {settings : List Setting} {f : Failure} (hreadable : Readable h a)
      (hload : Loads h a settings)
      (hf : Layering.Breaks { sources := sourcesOf a } h settings f) : Breaks h a f

theorem configOf_of_error {h : Host} {a : Arguments} {e : Fault}
    (hload : (a.defaults.map (Setting.load h)).getD (.ok []) = .error e) :
    (configOf h a).1 = .error e := by
  rw [configOf, hload]

theorem configOf_of_loads {h : Host} {a : Arguments} {settings : List Setting}
    (hload : Loads h a settings) :
    (configOf h a).1 =
      (Store.build h { defaults := settings, plan := { sources := sourcesOf a } }).1 := by
  rw [configOf, show _ = Except.ok settings from hload]

theorem load_of_mem {h : Host} {a : Arguments} {path : String} (hpath : path ∈ a.defaults) :
    (a.defaults.map (Setting.load h)).getD (.ok []) = Setting.load h path := by
  rw [Option.mem_def.1 hpath]
  rfl

theorem configOf_failure_iff {h : Host} {a : Arguments} {f : Failure} :
    (configOf h a).1 = .error (.failure f) ↔
      (∃ path ∈ a.defaults, Setting.Breaks h path f) ∨
        ∃ settings, Loads h a settings ∧
          Layering.Breaks { sources := sourcesOf a } h settings f := by
  have htable : (∃ path ∈ a.defaults, Setting.Breaks h path f) ↔
      (a.defaults.map (Setting.load h)).getD (.ok []) = .error (.failure f) := by
    constructor
    · rintro ⟨path, hpath, hf⟩
      rw [load_of_mem hpath]
      exact ((Setting.load_failsOnly h path).fails f).2 hf
    · intro hload
      rcases hpath : a.defaults with _ | path <;> rw [hpath] at hload
      · cases hload
      · exact ⟨path, rfl, ((Setting.load_failsOnly h path).fails f).1 hload⟩
  rw [htable]
  rcases hload : (a.defaults.map (Setting.load h)).getD (.ok []) with e | settings
  · rw [configOf_of_error hload, Except.error.injEq, Except.error.injEq, or_iff_left]
    rintro ⟨settings, hsettings, -⟩
    cases hload.symm.trans hsettings
  · rw [configOf_of_loads hload, Store.build_failure_iff rfl, or_iff_right nofun]
    constructor
    · exact fun hf => ⟨settings, hload, hf⟩
    · rintro ⟨settings', hsettings, hf⟩
      obtain rfl := Except.ok.inj (hload.symm.trans hsettings)
      exact hf

theorem isReadable_error_iff {h : Host} {path : String} {f : Failure} :
    isReadable h path = .error f ↔ '\x00' ∈ path.toList ∧ f = .nullInName := by
  unfold isReadable
  dsimp only
  split
  · rename_i hnull
    rw [and_iff_right (List.contains_iff_mem.1 hnull), Except.error.injEq, eq_comm]
  · rename_i hnull
    refine iff_of_false ?_ fun hf => hnull (List.contains_iff_mem.2 hf.1)
    split
    · nofun
    · split <;> nofun

theorem execute_failure_iff {h : Host} {a : Arguments} {f : Failure} :
    (execute h a).failure = some f ↔ (configOf h a).1 = .error (.failure f) := by
  unfold execute
  rcases configOf h a with ⟨e | c, journal⟩
  · cases e with
    | failure g =>
      show some g = some f ↔ _
      simp
    | _ => exact ⟨nofun, nofun⟩
  · refine iff_of_false ?_ nofun
    dsimp only
    split <;> nofun

theorem execute_status (h : Host) (a : Arguments) : (execute h a).status ≤ 2 := by
  have hlabel : ∀ e, (labelOf e).2 ≤ 2 := by
    intro e
    unfold labelOf
    split <;> decide
  unfold execute
  dsimp only
  split
  · split
    · exact Nat.le_succ 1
    · exact Nat.le_succ 1
    · exact hlabel _
  · split
    · exact Nat.zero_le 2
    · exact Nat.le_succ 1

theorem find_question_eq_none {a : Arguments} :
    a.switches.find? (fun s => s == .version || s == .help) = none ↔
      a.has .version = false ∧ a.has .help = false := by
  unfold Arguments.has
  simp only [List.find?_eq_none, List.contains_eq_mem, decide_eq_false_iff_not]
  constructor
  · intro h
    exact ⟨fun hv => h _ hv rfl, fun hh => h _ hh rfl⟩
  · rintro ⟨hv, hh⟩ s hs hor
    rcases Bool.or_eq_true_iff.1 hor with he | he
    · exact hv (eq_of_beq he ▸ hs)
    · exact hh (eq_of_beq he ▸ hs)

theorem Breaks.of_readable {h : Host} {a : Arguments} {f : Failure} (hreadable : Readable h a) :
    Breaks h a f ↔ (execute h a).failure = some f := by
  rw [execute_failure_iff, configOf_failure_iff]
  constructor
  · intro hf
    cases hf with
    | name hpath hnull => cases (hreadable _ hpath).symm.trans (isReadable_error_iff.2 ⟨hnull, rfl⟩)
    | table _ hpath hf => exact .inl ⟨_, hpath, hf⟩
    | sources _ hload hf => exact .inr ⟨_, hload, hf⟩
  · rintro (⟨path, hpath, hf⟩ | ⟨settings, hload, hf⟩)
    · exact .table hreadable hpath hf
    · exact .sources hreadable hload hf

theorem Breaks.of_not_readable {h : Host} {a : Arguments} {path : String} {f : Failure}
    (hpath : path ∈ a.defaults) (hnot : isReadable h path ≠ .ok true) :
    Breaks h a f ↔ isReadable h path = .error f := by
  rw [isReadable_error_iff]
  constructor
  · intro hf
    cases hf with
    | name hpath' hnull =>
      obtain rfl := Option.some.inj (hpath.symm.trans hpath')
      exact ⟨hnull, rfl⟩
    | table hreadable _ _ | sources hreadable _ _ => exact absurd (hreadable path hpath) hnot
  · rintro ⟨hnull, rfl⟩
    exact .name hpath hnull

theorem run_failure_iff {h : Host} {args : List String} {f : Failure} :
    (run h args).failure = some f ↔ ∃ a, readArguments {} args = some a ∧
      a.has .version = false ∧ a.has .help = false ∧ Breaks h a f := by
  unfold run
  rcases hargs : readArguments {} args with _ | a
  · refine iff_of_false nofun ?_
    rintro ⟨a, ha, -⟩
    cases ha
  · have hasked : (∃ a', some a = some a' ∧ a'.has .version = false ∧ a'.has .help = false ∧
        Breaks h a' f) ↔
        a.switches.find? (fun s => s == .version || s == .help) = none ∧ Breaks h a f := by
      rw [find_question_eq_none]
      constructor
      · rintro ⟨a', ha', hv, hh, hf⟩
        obtain rfl := Option.some.inj ha'
        exact ⟨⟨hv, hh⟩, hf⟩
      · rintro ⟨⟨hv, hh⟩, hf⟩
        exact ⟨a, rfl, hv, hh, hf⟩
    rw [hasked]
    dsimp only
    split
    · rename_i hfind
      refine iff_of_false nofun ?_
      rintro ⟨hnone, -⟩
      cases hfind.symm.trans hnone
    · rename_i hfind
      refine iff_of_false nofun ?_
      rintro ⟨hnone, -⟩
      cases hfind.symm.trans hnone
    · rename_i hfind
      rw [and_iff_right hfind]
      rcases hpath : a.defaults with _ | path
      · exact (Breaks.of_readable fun path hmem => by cases hpath.symm.trans hmem).symm
      · rw [Option.map_some, Option.getD_some]
        rcases hr : isReadable h path with e | _ | _
        · rw [Breaks.of_not_readable hpath (by rw [hr]; nofun), hr]
          simp
        · rw [Breaks.of_not_readable hpath (by rw [hr]; nofun), hr]
          exact ⟨nofun, nofun⟩
        · refine (Breaks.of_readable fun path' hmem => ?_).symm
          obtain rfl := Option.some.inj (hpath.symm.trans hmem)
          exact hr

theorem run_status (h : Host) (args : List String) : (run h args).status ≤ 2 := by
  unfold run
  split
  · exact Nat.le_refl 2
  · split
    · exact Nat.zero_le 2
    · exact Nat.zero_le 2
    · split
      · exact Nat.le_succ 1
      · exact Nat.le_refl 2
      · exact execute_status h _

/-- **Everything that goes wrong is reported, save for what breaks a file.** Reading an overlay
gives an answer or the report of a place in a file exactly if it does not break as `Overlay.Breaks`
says, and loading a table of defaults an answer or the report of such a place or of an entry exactly
if it does not break as `Setting.Breaks` says; otherwise they fail as said there. The command ends
with status 0, 1 or 2, and it dies of just the failures that these two lead to, and of a name for
the table that cannot be looked up. -/
theorem reported_unless_breaks (r : Overlay.Reader) (h : Host) (path : Path) (s : Overlay.State)
    (table : String) (args : List String) :
    ((Reported [.fileSyntax] (Overlay.read r h path s).1 ↔
        ∀ f, ¬Overlay.Breaks r h Overlay.maxSourceDepth path s f) ∧
      ∀ f, (Overlay.read r h path s).1 = .error (.failure f) ↔
        Overlay.Breaks r h Overlay.maxSourceDepth path s f) ∧
    ((Reported [.fileSyntax, .validation] (Setting.load h table) ↔
        ∀ f, ¬Setting.Breaks h table f) ∧
      ∀ f, Setting.load h table = .error (.failure f) ↔ Setting.Breaks h table f) ∧
    (run h args).status ≤ 2 ∧
      ∀ f, (run h args).failure = some f ↔ ∃ a, readArguments {} args = some a ∧
        a.has .version = false ∧ a.has .help = false ∧ Breaks h a f := by
  have hread : FailsOnly [.fileSyntax] (Overlay.Breaks r h Overlay.maxSourceDepth path s)
      (Overlay.read r h path s).1 := Overlay.readFile_failsOnly r h Overlay.maxSourceDepth path s
  have hload := Setting.load_failsOnly h table
  refine ⟨⟨hread.reported_iff, hread.fails⟩, ⟨hload.reported_iff, hload.fails⟩, ?_, fun f => ?_⟩
  · exact run_status h args
  · exact run_failure_iff

/-- A host with an overlay that holds the thirtieth of February. -/
def leaping : Host where
  files := Table.ofList
    [("/a.yaml", .bytes ("A: 2024-02-30\n".toList.map fun c => UInt8.ofNat c.toNat))]

/-- A date that there is not is not reported, and the command dies of it. -/
theorem leaping_not_reported :
    ¬Reported [.fileSyntax, .validation]
      (Overlay.read {} leaping (Path.ofString "/a.yaml") ⟨Table.empty, []⟩).1 ∧
    (run leaping ["--system-rc", "/a.yaml", "--no-user-rc"]).failure.isSome = true := by
  constructor
  · have hread : (failure? (Overlay.read {} leaping (Path.ofString "/a.yaml")
        ⟨Table.empty, []⟩).1).isSome = true := by
      decide +kernel
    obtain ⟨f, hf⟩ := Option.isSome_iff_exists.1 hread
    exact fun hreported => Fault.not_reports_failure (hreported _ (failure?_eq_some_iff.1 hf))
  · decide +kernel

end CommandLine

end LayeredConfig
