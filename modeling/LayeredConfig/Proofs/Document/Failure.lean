import LayeredConfig.Document.Format

/-!
# Failures and reports

A fault either has a report for the user or is a failure, which has none. Reading a document fails
where it holds something that cannot be represented, and what was read fails where it has to be
written and holds an integer with too many digits.

* `Reported cs o`: the attempt `o` gives an answer or a report of one of the categories `cs`.
  `FailsOnly cs P o`: besides these there are just the failures `P`.
* `Meets P Q l`: going through a list up to the first element at fault.
* `Overlong v`, `literal_error_iff`: what cannot be written.
* `Format.Refuses`, `readText_failsOnly`, `readBytes_failsOnly`: which documents cannot be read.
-/

namespace LayeredConfig

def Fault.Reports (cs : List Category) (e : Fault) : Prop :=
  ∃ r, e.report? = some r ∧ r.category ∈ cs

theorem Fault.not_reports_failure {cs : List Category} {f : Failure} :
    ¬(Fault.failure f).Reports cs := by
  rintro ⟨r, hr, -⟩
  cases hr

def failure? {α : Type} : Except Fault α → Option Failure
  | .error (.failure f) => some f
  | _ => none

theorem failure?_eq_some_iff {α : Type} {o : Except Fault α} {f : Failure} :
    failure? o = some f ↔ o = .error (.failure f) := by
  constructor
  · intro h
    unfold failure? at h
    split at h
    · obtain rfl := Option.some.inj h
      rfl
    · cases h
  · rintro rfl
    rfl

/-- An attempt gives an answer or a report of one of the categories. -/
def Reported {α : Type} (cs : List Category) (o : Except Fault α) : Prop :=
  ∀ e, o = .error e → e.Reports cs

/-- An attempt gives an answer, or a report of one of the categories, or one of the failures, and it
fails in each of these ways. -/
structure FailsOnly {α : Type} (cs : List Category) (P : Failure → Prop) (o : Except Fault α) :
    Prop where
  reports : ∀ e, o = .error e → e.Reports cs ∨ ∃ f, e = .failure f
  fails : ∀ f, o = .error (.failure f) ↔ P f

namespace FailsOnly

variable {α : Type} {cs : List Category} {P Q : Failure → Prop} {o : Except Fault α}

theorem of_ok {a : α} (h : ∀ f, ¬P f) : FailsOnly cs P (.ok a : Except Fault α) := by
  refine ⟨fun e he => ?_, fun f => iff_of_false ?_ (h f)⟩
  · cases he
  · intro he
    cases he

theorem of_reports {e : Fault} (he : e.Reports cs) (h : ∀ f, ¬P f) :
    FailsOnly cs P (.error e : Except Fault α) := by
  refine ⟨fun e' he' => ?_, fun f => iff_of_false ?_ (h f)⟩
  · obtain rfl := Except.error.inj he'
    exact .inl he
  · intro he'
    obtain rfl := Except.error.inj he'
    exact Fault.not_reports_failure he

theorem of_file {path : String} {line : Nat} {problem : FileProblem} (h : ∀ f, ¬P f) :
    FailsOnly (.fileSyntax :: cs) P (.error (.file path line problem) : Except Fault α) :=
  of_reports ⟨_, rfl, List.mem_cons_self⟩ h

theorem of_failure {g : Failure} (h : ∀ f, P f ↔ f = g) :
    FailsOnly cs P (.error (.failure g) : Except Fault α) := by
  refine ⟨fun e he => .inr ⟨g, (Except.error.inj he).symm⟩, fun f => ?_⟩
  rw [h]
  constructor
  · intro he
    exact (Fault.failure.inj (Except.error.inj he)).symm
  · rintro rfl
    rfl

theorem congr (h : FailsOnly cs P o) (hQ : ∀ f, Q f ↔ P f) : FailsOnly cs Q o :=
  ⟨h.reports, fun f => (h.fails f).trans (hQ f).symm⟩

/-- Everything is reported exactly if no failure is possible. -/
theorem reported_iff (h : FailsOnly cs P o) : Reported cs o ↔ ∀ f, ¬P f := by
  constructor
  · intro ho f hf
    exact Fault.not_reports_failure (ho _ ((h.fails f).2 hf))
  · intro hnone e he
    rcases h.reports e he with hreports | ⟨f, rfl⟩
    · exact hreports
    · exact absurd ((h.fails f).1 he) (hnone f)

theorem of_error {β : Type} {e : Fault} (h : FailsOnly cs P (.error e : Except Fault β)) :
    FailsOnly cs P (.error e : Except Fault α) := by
  refine ⟨fun e' he' => ?_, fun f => ?_⟩
  · obtain rfl := Except.error.inj he'
    exact h.reports _ rfl
  · rw [← h.fails f, Except.error.injEq, Except.error.injEq]

theorem not_of_ok {a : α} (h : FailsOnly cs P (.ok a : Except Fault α)) (f : Failure) : ¬P f := by
  intro hf
  cases (h.fails f).2 hf

theorem mono {cs' : List Category} (h : FailsOnly cs P o) (hcs : cs ⊆ cs') : FailsOnly cs' P o := by
  refine ⟨fun e he => (h.reports e he).imp_left ?_, h.fails⟩
  rintro ⟨r, hr, hmem⟩
  exact ⟨r, hr, hcs hmem⟩

theorem bind {β : Type} {k : α → Except Fault β} {R : α → Failure → Prop} (h : FailsOnly cs P o)
    (hk : ∀ a, o = .ok a → FailsOnly cs (R a) (k a)) :
    FailsOnly cs (fun f => P f ∨ ∃ a, o = .ok a ∧ R a f) (o >>= k) := by
  rcases o with e | a
  · refine h.of_error.congr fun f => or_iff_left ?_
    rintro ⟨a, ha, -⟩
    cases ha
  · refine (hk a rfl).congr fun f => ⟨?_, fun hf => .inr ⟨a, rfl, hf⟩⟩
    rintro (hf | ⟨a', ha, hf⟩)
    · exact absurd hf (h.not_of_ok f)
    · obtain rfl := Except.ok.inj ha
      exact hf

end FailsOnly

/-- Whoever goes through the list meets an element with `Q`, past elements with `P`. -/
def Meets {α : Type} (P Q : α → Prop) (l : List α) : Prop :=
  ∃ front a behind, l = front ++ a :: behind ∧ (∀ b ∈ front, P b) ∧ Q a

namespace Meets

variable {α : Type} {P Q : α → Prop}

theorem not_nil : ¬Meets P Q [] := by
  rintro ⟨front, a, behind, h, -, -⟩
  cases front <;> cases h

theorem and_iff {c : Prop} {l : List α} : Meets P (fun a => c ∧ Q a) l ↔ c ∧ Meets P Q l := by
  constructor
  · rintro ⟨front, a, behind, hl, hP, hc, hQ⟩
    exact ⟨hc, front, a, behind, hl, hP, hQ⟩
  · rintro ⟨hc, front, a, behind, hl, hP, hQ⟩
    exact ⟨front, a, behind, hl, hP, hc, hQ⟩

theorem cons_iff {a : α} {l : List α} : Meets P Q (a :: l) ↔ Q a ∨ (P a ∧ Meets P Q l) := by
  constructor
  · rintro ⟨front, b, behind, h, hP, hQ⟩
    cases front with
    | nil =>
      obtain ⟨rfl, -⟩ := List.cons.inj h
      exact .inl hQ
    | cons c front =>
      obtain ⟨rfl, rfl⟩ := List.cons.inj h
      have hfront : ∀ d ∈ front, P d := fun d hd => hP d (List.mem_cons_of_mem a hd)
      exact .inr ⟨hP a List.mem_cons_self, front, b, behind, rfl, hfront, hQ⟩
  · rintro (hQ | ⟨hP, front, b, behind, rfl, hfront, hQ⟩)
    · exact ⟨[], a, l, rfl, nofun, hQ⟩
    · exact ⟨a :: front, b, behind, rfl, List.forall_mem_cons.2 ⟨hP, hfront⟩, hQ⟩

end Meets

/-! ## Writing values -/

namespace Document

inductive Overlong : Value → Prop
  | int {i : Int} (h : Text.maxNumeralDigits < (Nat.toDigits 10 i.natAbs).length) :
      Overlong (.int i)
  | list {vs : List Value} {v : Value} (hv : v ∈ vs) (h : Overlong v) : Overlong (.list vs)
  | pairKey {k v : Value} (h : Overlong k) : Overlong (.pair k v)
  | pairValue {k v : Value} (h : Overlong v) : Overlong (.pair k v)
  | set {vs : List Value} {v : Value} (hv : v ∈ vs) (h : Overlong v) : Overlong (.set vs)
  | mappingKey {es : List (Value × Value)} {e : Value × Value} (he : e ∈ es) (h : Overlong e.1) :
      Overlong (.mapping es)
  | mappingValue {es : List (Value × Value)} {e : Value × Value} (he : e ∈ es) (h : Overlong e.2) :
      Overlong (.mapping es)

section literals
variable {α β : Type} {x : Except Text.NumeralFault α} {f : α → Except Text.NumeralFault β}

theorem bind_error_iff {e : Text.NumeralFault} :
    (x >>= f) = .error e ↔ x = .error e ∨ ∃ a, x = .ok a ∧ f a = .error e := by
  rcases x with e' | a
  · show Except.error e' = .error e ↔ _
    simp
  · show f a = .error e ↔ _
    simp

theorem pure_ne_error {a : α} {e : Text.NumeralFault} :
    (pure a : Except Text.NumeralFault α) ≠ .error e := by
  intro h
  cases h

theorem bind_pure_error_iff {g : α → β} {e : Text.NumeralFault} :
    (x >>= fun a => pure (g a)) = .error e ↔ x = .error e := by
  rw [bind_error_iff]
  exact or_iff_left fun ⟨_, _, h⟩ => pure_ne_error h

end literals

mutual

theorem literal_error_iff : ∀ v : Value, v.literal = .error .tooLong ↔ Overlong v
  | .int i => by
    rw [Value.literal, Text.ofInteger]
    constructor
    · intro h
      split at h
      · rename_i hlong
        exact .int hlong
      · cases h
    · rintro (h | _)
      exact if_pos h
  | .list vs => by
    rw [Value.literal, bind_pure_error_iff, literals_error_iff vs]
    constructor
    · rintro ⟨v, hv, h⟩
      exact .list hv h
    · intro h
      cases h with
      | list hv h => exact ⟨_, hv, h⟩
  | .pair k v => by
    rw [Value.literal, bind_error_iff, literal_error_iff k]
    simp only [bind_pure_error_iff, literal_error_iff v]
    constructor
    · rintro (h | ⟨-, -, h⟩)
      · exact .pairKey h
      · exact .pairValue h
    · intro h
      rcases hk : k.literal with e | cs
      · exact .inl ((literal_error_iff k).1 hk)
      · cases h with
        | pairKey h => exact .inl h
        | pairValue h => exact .inr ⟨cs, rfl, h⟩
  | .set [] => by
    refine iff_of_false (by intro h; cases h) fun h => ?_
    cases h with
    | set hv _ => cases hv
  | .set (w :: ws) => by
    rw [Value.literal, bind_pure_error_iff, literals_error_iff (w :: ws)]
    · constructor
      · rintro ⟨v, hv, h⟩
        exact .set hv h
      · intro h
        cases h with
        | set hv h => exact ⟨_, hv, h⟩
    · exact List.cons_ne_nil w ws
  | .mapping es => by
    rw [Value.literal, bind_pure_error_iff, entryLiterals_error_iff es]
    constructor
    · rintro ⟨e, he, h | h⟩
      · exact .mappingKey he h
      · exact .mappingValue he h
    · intro h
      cases h with
      | mappingKey he h => exact ⟨_, he, .inl h⟩
      | mappingValue he h => exact ⟨_, he, .inr h⟩
  | .bool true | .bool false | .null | .float _ | .nan _ | .text _ | .bytes _ | .date _ | .moment _
  | .again _ => by
    constructor
    · intro h
      cases h
    · intro h
      cases h

theorem literals_error_iff : ∀ vs : List Value,
    Value.literals vs = .error .tooLong ↔ ∃ v ∈ vs, Overlong v
  | [] => by
    refine iff_of_false (by intro h; cases h) ?_
    rintro ⟨v, hv, -⟩
    cases hv
  | v :: vs => by
    rw [Value.literals, bind_error_iff, literal_error_iff v]
    simp only [bind_pure_error_iff, literals_error_iff vs, List.mem_cons, exists_eq_or_imp]
    constructor
    · rintro (h | ⟨-, -, h⟩)
      · exact .inl h
      · exact .inr h
    · intro h
      rcases hv : v.literal with e | cs
      · exact .inl ((literal_error_iff v).1 hv)
      · rcases h with h | h
        · exact .inl h
        · exact .inr ⟨cs, rfl, h⟩

theorem entryLiterals_error_iff : ∀ es : List (Value × Value),
    Value.entryLiterals es = .error .tooLong ↔ ∃ e ∈ es, Overlong e.1 ∨ Overlong e.2
  | [] => by
    refine iff_of_false (by intro h; cases h) ?_
    rintro ⟨v, hv, -⟩
    cases hv
  | (k, v) :: es => by
    rw [Value.entryLiterals, bind_error_iff, literal_error_iff k]
    simp only [bind_error_iff (x := v.literal), bind_pure_error_iff, literal_error_iff v,
      entryLiterals_error_iff es, List.mem_cons, exists_eq_or_imp]
    constructor
    · rintro (h | ⟨-, -, h | ⟨-, -, h⟩⟩)
      · exact .inl (.inl h)
      · exact .inl (.inr h)
      · exact .inr h
    · intro h
      rcases hk : k.literal with e | cs
      · exact .inl ((literal_error_iff k).1 hk)
      · refine .inr ⟨cs, rfl, ?_⟩
        have hkey : ¬Overlong k := by
          intro hkey
          rw [(literal_error_iff k).2 hkey] at hk
          cases hk
        rcases hv : v.literal with e | ds
        · exact .inl ((literal_error_iff v).1 hv)
        · rcases h with (h | h) | h
          · exact absurd h hkey
          · exact .inl h
          · exact .inr ⟨ds, rfl, h⟩

end

theorem display_cases (v : Value) :
    (∃ t, v.display = .ok t ∧ ¬Overlong v) ∨ (v.display = .error .tooLong ∧ Overlong v) := by
  have hliteral : ∀ w : Value, w.display = w.literal.map String.ofList →
      (∃ t, w.display = .ok t ∧ ¬Overlong w) ∨ (w.display = .error .tooLong ∧ Overlong w) := by
    intro w hw
    have h := literal_error_iff w
    rw [hw]
    rcases hl : w.literal with ⟨⟨⟩⟩ | cs
    · exact .inr ⟨rfl, h.1 hl⟩
    · refine .inl ⟨_, rfl, fun hlong => ?_⟩
      rw [h.2 hlong] at hl
      cases hl
  cases v with
  | text s => exact .inl ⟨_, rfl, nofun⟩
  | date d => exact .inl ⟨_, rfl, nofun⟩
  | moment t => exact .inl ⟨_, rfl, nofun⟩
  | _ => exact hliteral _ rfl

theorem settingText_cases (v : Value) :
    (∃ t, v.settingText = .ok t ∧ ¬Overlong v) ∨
      (v.settingText = .error .tooLong ∧ Overlong v) := by
  have hdisplay : ∀ w : Value, w.settingText = w.display →
      (∃ t, w.settingText = .ok t ∧ ¬Overlong w) ∨
        (w.settingText = .error .tooLong ∧ Overlong w) := by
    intro w hw
    rw [hw]
    exact display_cases w
  cases v with
  | null => exact .inl ⟨_, rfl, nofun⟩
  | bool b => exact .inl ⟨_, rfl, nofun⟩
  | _ => exact hdisplay _ rfl

/-! ## Reading documents -/

/-- Reading the text ends in the failure: what a YAML document holds cannot be represented, or an
integer of a JSON document has too many digits. -/
inductive Format.Refuses : Format → List Char → Failure → Prop
  | yaml {cs : List Char} {u : Yaml.Unfit} (h : Yaml.read (.ofText cs) = .error (.unfit u)) :
      Format.Refuses .yaml cs (.unfit u)
  | json {cs : List Char} {n : Text.NumeralFault} (h : Json.read cs = .error (.numeral n)) :
      Format.Refuses .json cs (.numeral n)

inductive Format.RefusesBytes : Format → List UInt8 → Failure → Prop
  | yaml {bs : List UInt8} {u : Yaml.Unfit} (h : Yaml.read (.ofBytes bs) = .error (.unfit u)) :
      Format.RefusesBytes .yaml bs (.unfit u)
  | json {bs : List UInt8} {cs : List Char} {f : Failure} (hcs : Text.decodeUtf8 bs = .ok cs)
      (h : Format.json.Refuses (Text.unifyLineEnds cs) f) : Format.RefusesBytes .json bs f

theorem yaml_failsOnly (path : String) (x : Except Yaml.Fault Graph) :
    FailsOnly [.fileSyntax] (fun f => ∃ u, x = .error (.unfit u) ∧ f = .unfit u)
      (x.mapError (yamlFault path)) := by
  rcases x with y | g
  · cases y with
    | unfit u =>
      refine .of_failure fun f => ⟨?_, ?_⟩
      · rintro ⟨u', hu, rfl⟩
        cases hu
        rfl
      · rintro rfl
        exact ⟨u, rfl, rfl⟩
    | malformed m =>
      refine .of_file fun f => ?_
      rintro ⟨u, hu, -⟩
      cases hu
    | notUtf8 e =>
      refine .of_file fun f => ?_
      rintro ⟨u, hu, -⟩
      cases hu
  · refine .of_ok fun f => ?_
    rintro ⟨u, hu, -⟩
    cases hu

theorem json_failsOnly (path : String) (x : Except Json.Fault Value) :
    FailsOnly [.fileSyntax] (fun f => ∃ n, x = .error (.numeral n) ∧ f = .numeral n)
      ((x.mapError (jsonFault path)).map Graph.ofValue) := by
  rcases x with j | v
  · cases j with
    | numeral n =>
      refine .of_failure fun f => ⟨?_, ?_⟩
      · rintro ⟨n', hn, rfl⟩
        cases hn
        rfl
      · rintro rfl
        exact ⟨n, rfl, rfl⟩
    | malformed p line =>
      refine .of_file fun f => ?_
      rintro ⟨n, hn, -⟩
      cases hn
  · refine .of_ok fun f => ?_
    rintro ⟨n, hn, -⟩
    cases hn

theorem readText_failsOnly (format : Format) (path : String) (cs : List Char) :
    FailsOnly [.fileSyntax] (format.Refuses cs) (format.readText path cs) := by
  cases format with
  | yaml =>
    refine (yaml_failsOnly path _).congr fun f => ⟨?_, ?_⟩
    · intro hf
      cases hf with
      | yaml h => exact ⟨_, h, rfl⟩
    · rintro ⟨u, h, rfl⟩
      exact .yaml h
  | json =>
    refine (json_failsOnly path _).congr fun f => ⟨?_, ?_⟩
    · intro hf
      cases hf with
      | json h => exact ⟨_, h, rfl⟩
    · rintro ⟨n, h, rfl⟩
      exact .json h

theorem readBytes_failsOnly (format : Format) (path : String) (bs : List UInt8) :
    FailsOnly [.fileSyntax] (format.RefusesBytes bs) (format.readBytes path bs) := by
  cases format with
  | yaml =>
    refine (yaml_failsOnly path _).congr fun f => ⟨?_, ?_⟩
    · intro hf
      cases hf with
      | yaml h => exact ⟨_, h, rfl⟩
    · rintro ⟨u, h, rfl⟩
      exact .yaml h
  | json =>
    rcases hbs : Text.decodeUtf8 bs with e | cs
    · have hread : Format.json.readBytes path bs = .error (.file path 0 (.notUtf8 e)) := by
        simp only [Format.readBytes, hbs]
      rw [hread]
      refine .of_file fun f hf => ?_
      cases hf with
      | json hcs _ => cases hbs.symm.trans hcs
    · have hread : Format.json.readBytes path bs =
          Format.json.readText path (Text.unifyLineEnds cs) := by
        simp only [Format.readBytes, hbs]
      rw [hread]
      refine (readText_failsOnly .json path (Text.unifyLineEnds cs)).congr fun f => ⟨?_, .json hbs⟩
      intro hf
      cases hf with
      | json hcs h =>
        obtain rfl := Except.ok.inj (hbs.symm.trans hcs)
        exact h

end Document

end LayeredConfig
