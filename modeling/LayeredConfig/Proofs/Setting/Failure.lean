import LayeredConfig.Proofs.Document.Failure
import LayeredConfig.Setting.Defaults

/-!
# Which tables of defaults cannot be loaded

Loading a table of defaults ends well, or with the report of a place in a file or of an entry of the
table, or with a failure, which is no report. `Breaks` lists the failures: a path with a null
character, a document that holds what cannot be represented, and an entry that cannot be written.
Whatever else keeps a file from being opened is reported. `load_failsOnly` says that there are no
other failures.
-/

namespace LayeredConfig

theorem Host.openFile_error_iff {h : Host} {p : Path} {f : Failure} :
    h.openFile p = .error f ↔
      h.tree.isSome ∧ '\x00' ∈ p.toString.toList ∧ f = .nullInName := by
  unfold openFile
  rcases h.tree with _ | t
  · exact iff_of_false nofun nofun
  · rw [Option.isSome_some, and_iff_right rfl]
    dsimp only
    split
    · rename_i hnull
      rw [and_iff_right (List.contains_iff_mem.1 hnull), Except.error.injEq, eq_comm]
    · rename_i hnull
      refine iff_of_false ?_ fun hf => hnull (List.contains_iff_mem.2 hf.1)
      split
      · nofun
      · split
        · nofun
        · split <;> nofun

theorem Fault.reports_table {cs : List Category} (h : .validation ∈ cs) (problem : TableProblem) :
    (Fault.table problem).Reports cs := by
  refine ⟨problem.report, rfl, ?_⟩
  cases problem <;> exact h

namespace Setting

open Document (Format Graph Overlong Part Value)

/-! ## Entries -/

def HasOverlong (g : Graph) (es : List (Value × Part)) (name : String) : Prop :=
  ∃ v, field? g name es = some v ∧ Overlong v

def HasKind (g : Graph) (es : List (Value × Part)) : Prop :=
  ∃ shown, ((field? g "type" es).getD (.text "string")).display = .ok shown ∧
    (Kind.ofName? (String.ofList (Text.lower shown.toList))).isSome

/-- The entry cannot be written: it has a key, and the type or the key is overlong, or there is such
a type and the default or the description is. -/
structure Unwritable (g : Graph) (es : List (Value × Part)) : Prop where
  keyed : (Value.find? "key" es).isSome
  overlong : HasOverlong g es "type" ∨ HasOverlong g es "key" ∨
    (HasKind g es ∧ (HasOverlong g es "default" ∨ HasOverlong g es "description"))

/-- The attempt to write gives an answer, or fails exactly if something is overlong. -/
def Writes {α : Type} (long : Prop) (x : Except Fault α) : Prop :=
  (∃ a, x = .ok a ∧ ¬long) ∨ (x = .error (.failure (.numeral .tooLong)) ∧ long)

theorem Writes.bind {α β : Type} {cs : List Category} {long more : Prop} {x : Except Fault α}
    {k : α → Except Fault β} (hx : Writes long x)
    (hk : ∀ a, x = .ok a → FailsOnly cs (fun f => f = .numeral .tooLong ∧ more) (k a)) :
    FailsOnly cs (fun f => f = .numeral .tooLong ∧ (long ∨ more)) (x >>= k) := by
  rcases hx with ⟨a, rfl, hlong⟩ | ⟨rfl, hlong⟩
  · exact (hk a rfl).congr fun f => and_congr_right fun _ => or_iff_right hlong
  · exact .of_failure fun f => and_iff_left (.inl hlong)

theorem written_writes {v : Value} {x : Except Text.NumeralFault String}
    (hx : (∃ t, x = .ok t ∧ ¬Overlong v) ∨ (x = .error .tooLong ∧ Overlong v)) :
    Writes (Overlong v) (written x) := by
  rcases hx with ⟨t, rfl, hv⟩ | ⟨rfl, hv⟩
  · exact .inl ⟨t, rfl, hv⟩
  · exact .inr ⟨rfl, hv⟩

theorem hasOverlong_iff {g : Graph} {es : List (Value × Part)} {name s : String} :
    Overlong ((field? g name es).getD (.text s)) ↔ HasOverlong g es name := by
  rw [HasOverlong]
  rcases field? g name es with _ | v
  · refine iff_of_false nofun ?_
    rintro ⟨v, hv, -⟩
    cases hv
  · constructor
    · exact fun hv => ⟨v, rfl, hv⟩
    · rintro ⟨w, hw, hlong⟩
      obtain rfl := Option.some.inj hw
      exact hlong

theorem not_overlong_of_isFalsy {v : Value} (h : v.isFalsy = true) : ¬Overlong v := by
  intro hv
  cases hv with
  | int hi =>
    rw [show _ = (0 : Int) from beq_iff_eq.1 h] at hi
    revert hi
    decide
  | list hv _ | set hv _ | mappingKey hv _ | mappingValue hv _ =>
    rw [List.isEmpty_iff.1 h] at hv
    cases hv
  | pairKey _ | pairValue _ => cases h

theorem describe_writes (g : Graph) (es : List (Value × Part)) :
    Writes (HasOverlong g es "description") (describe (field? g "description" es)) := by
  rw [← hasOverlong_iff (s := "")]
  rcases field? g "description" es with _ | v
  · exact .inl ⟨"", rfl, nofun⟩
  · rw [describe, Option.getD_some]
    by_cases hfalsy : v.isFalsy = true
    · rw [if_pos hfalsy]
      exact .inl ⟨"", rfl, not_overlong_of_isFalsy hfalsy⟩
    · rw [if_neg hfalsy]
      exact written_writes (Document.display_cases v)

theorem hasKind_iff {g : Graph} {es : List (Value × Part)} {shown : String}
    (h : written ((field? g "type" es).getD (.text "string")).display = .ok shown) :
    HasKind g es ↔ (Kind.ofName? (String.ofList (Text.lower shown.toList))).isSome := by
  rcases hx : ((field? g "type" es).getD (.text "string")).display with e | s <;> rw [hx] at h
  · cases h
  · obtain rfl := Except.ok.inj h
    constructor
    · rintro ⟨s', hs', hk⟩
      obtain rfl := Except.ok.inj (hx.symm.trans hs')
      exact hk
    · exact fun hk => ⟨s, hx, hk⟩

theorem ofPart_failsOnly (g : Graph) (p : Part) :
    FailsOnly [.validation]
      (fun f => f = .numeral .tooLong ∧ Unwritable g ((g.entries? p).getD [])) (ofPart g p) := by
  unfold ofPart
  dsimp only
  generalize (g.entries? p).getD [] = es
  split
  · rename_i hkey
    refine .of_reports (Fault.reports_table List.mem_cons_self _) ?_
    rintro f ⟨-, hkeyed, -⟩
    rw [hkey] at hkeyed
    cases hkeyed
  · rename_i key hkey
    have hkeyed : (Value.find? "key" es).isSome := by
      rw [hkey]
      rfl
    have hkeyText : Writes (HasOverlong g es "key") (written (g.value key).display) := by
      have hfield : (field? g "key" es).getD (.text "") = g.value key := by
        rw [field?, hkey]
        rfl
      rw [← hasOverlong_iff (s := ""), hfield]
      exact written_writes (Document.display_cases _)
    have htypeText : Writes (HasOverlong g es "type")
        (written ((field? g "type" es).getD (.text "string")).display) := by
      rw [← hasOverlong_iff (s := "string")]
      exact written_writes (Document.display_cases _)
    have hdefaultText : Writes (HasOverlong g es "default")
        (written ((field? g "default" es).getD (.text "")).settingText) := by
      rw [← hasOverlong_iff (s := "")]
      exact written_writes (Document.settingText_cases _)
    have hshape : ∀ f, f = Failure.numeral .tooLong ∧ Unwritable g es ↔ f = .numeral .tooLong ∧
        (HasOverlong g es "type" ∨ HasOverlong g es "key" ∨ (HasKind g es ∧
          (HasOverlong g es "default" ∨ HasOverlong g es "description" ∨ False))) := by
      intro f
      rw [or_false]
      exact and_congr_right fun _ => ⟨fun h => h.overlong, fun h => ⟨hkeyed, h⟩⟩
    refine FailsOnly.congr ?_ hshape
    refine htypeText.bind fun shown hshown => ?_
    rcases hkind : Kind.ofName? (String.ofList (Text.lower shown.toList)) with _ | kind
    · refine FailsOnly.congr
        (P := fun f => f = .numeral .tooLong ∧ (HasOverlong g es "key" ∨ False)) ?_
        fun f => and_congr_right fun _ => or_congr_right (iff_of_false ?_ id)
      · refine hkeyText.bind fun _ _ => ?_
        exact .of_reports (Fault.reports_table List.mem_cons_self _) fun _ => And.right
      · rintro ⟨hk, -⟩
        rw [hasKind_iff hshown, hkind] at hk
        cases hk
    · have hk : HasKind g es := by
        rw [hasKind_iff hshown, hkind]
        rfl
      rw [and_iff_right hk]
      refine hkeyText.bind fun keyText _ => ?_
      refine hdefaultText.bind fun default _ => ?_
      refine (describe_writes g es).bind fun description _ => ?_
      exact .of_ok fun _ => And.right

/-! ## Tables -/

theorem mapM_failsOnly {α β : Type} {cs : List Category} {P : α → Failure → Prop}
    {read : α → Except Fault β} (hread : ∀ a, FailsOnly cs (P a) (read a)) (l : List α) :
    FailsOnly cs (fun f => Meets (fun a => ∃ b, read a = .ok b) (P · f) l) (l.mapM read) := by
  induction l with
  | nil => exact .of_ok fun f => Meets.not_nil
  | cons a l ih =>
    rw [List.mapM_cons]
    refine ((hread a).bind fun b _ => ih.bind fun bs _ => .of_ok fun _ => id).congr fun f => ?_
    rw [Meets.cons_iff]
    simp only [and_false, exists_false, or_false, exists_and_right]

/-- The format that the suffix of a path stands for; a table is YAML if it stands for none. -/
def formatOf (p : Path) : Format := (Format.ofSuffix? p.suffix).getD .yaml

/-- Loading a table of defaults ends in a failure. -/
inductive Breaks (h : Host) (path : String) : Failure → Prop
  /-- On a machine the path holds a null character. -/
  | null (htree : h.tree.isSome) (hnull : '\x00' ∈ (Path.ofString path).toString.toList) :
      Breaks h path .nullInName
  | document {bs : List UInt8} {f : Failure}
      (hbytes : h.openFile (Path.ofString path) = .ok (.bytes bs))
      (hf : (formatOf (Path.ofString path)).RefusesBytes bs f) : Breaks h path f
  | entry {bs : List UInt8} {g : Graph} {ps : List Part}
      (hbytes : h.openFile (Path.ofString path) = .ok (.bytes bs))
      (hg : (formatOf (Path.ofString path)).readBytes (Path.ofString path).toString bs = .ok g)
      (hps : listed? g = some ps)
      (hf : Meets (fun p => ∃ s, ofPart g p = .ok s)
        (fun p => Unwritable g ((g.entries? p).getD [])) ps) :
      Breaks h path (.numeral .tooLong)

theorem tableOf_failsOnly (path : String) (g : Graph) :
    FailsOnly [.validation] (fun f => ∃ ps, listed? g = some ps ∧ f = .numeral .tooLong ∧
      Meets (fun p => ∃ s, ofPart g p = .ok s)
        (fun p => Unwritable g ((g.entries? p).getD [])) ps)
      (tableOf path g) := by
  unfold tableOf
  split
  · rename_i hlisted
    refine .of_reports (Fault.reports_table List.mem_cons_self _) ?_
    rintro f ⟨ps, hps, -⟩
    cases hlisted.symm.trans hps
  · rename_i ps hps
    refine (mapM_failsOnly (ofPart_failsOnly g) ps).congr fun f => ?_
    rw [Meets.and_iff]
    constructor
    · rintro ⟨ps', hps', hf⟩
      obtain rfl := Option.some.inj (hps.symm.trans hps')
      exact hf
    · exact fun hf => ⟨ps, hps, hf⟩

theorem load_failsOnly (h : Host) (path : String) :
    FailsOnly [.fileSyntax, .validation] (Breaks h path) (load h path) := by
  unfold load
  dsimp only
  split
  · rename_i e he
    obtain ⟨htree, hnull, rfl⟩ := Host.openFile_error_iff.1 he
    refine .of_failure fun f => ⟨?_, ?_⟩
    · intro hf
      cases hf with
      | null _ _ => rfl
      | document hbytes _ | entry hbytes _ _ _ => cases he.symm.trans hbytes
    · rintro rfl
      exact .null htree hnull
  · rename_i reason hrefused
    refine .of_file fun f hf => ?_
    cases hf with
    | null htree hnull =>
      cases hrefused.symm.trans (Host.openFile_error_iff.2 ⟨htree, hnull, rfl⟩)
    | document hbytes _ | entry hbytes _ _ _ => cases hrefused.symm.trans hbytes
  · rename_i bs hbytes
    have hread := Document.readBytes_failsOnly (formatOf (Path.ofString path))
      (Path.ofString path).toString bs
    have hfile : [Category.fileSyntax] ⊆ [.fileSyntax, .validation] := by simp
    have htable : [Category.validation] ⊆ [.fileSyntax, .validation] := by simp
    refine ((hread.mono hfile).bind fun g _ => (tableOf_failsOnly _ g).mono htable).congr
      fun f => ⟨?_, ?_⟩
    · intro hf
      cases hf with
      | null htree hnull =>
        cases hbytes.symm.trans (Host.openFile_error_iff.2 ⟨htree, hnull, rfl⟩)
      | document hbytes' hf =>
        cases hbytes.symm.trans hbytes'
        exact .inl hf
      | entry hbytes' hg hps hf =>
        cases hbytes.symm.trans hbytes'
        exact .inr ⟨_, hg, _, hps, rfl, hf⟩
    · rintro (hf | ⟨g, hg, ps, hps, rfl, hf⟩)
      · exact .document hbytes hf
      · exact .entry hbytes hg hps hf

end Setting

end LayeredConfig
