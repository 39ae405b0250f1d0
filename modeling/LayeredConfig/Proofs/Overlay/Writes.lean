import LayeredConfig.Overlay

/-!
# What reading an overlay writes

Which statements an overlay has, which files it sources and where it is at fault depends on the
files alone. Only the texts that names get depend on the values read so far, through the names that
stand in them. So reading an overlay comes to an answer and a list of writes, the same for every
table that it is laid over.

* `Write`: a name, and the pieces of the text that it gets.
* `Script`: an answer with the writes that lead up to it; `script` is that of a file, found function
  by function along the reader.
* `Follows`: an attempt is a script, whatever values it starts from.
* `readFile_follows`: by induction on how deeply files may still source one another; for the
  functions that work inside a file, what sourcing does is a hypothesis, `Paired`.
* `mem_keys_foldl_apply`, `foldl_apply_other`: writes take no name away, and names that are not
  written keep their values.
* `foldl_apply_agrees`: over tables that look alike, writes leave tables that do.
* `borrowed`: the names that get a text although the table has none for them. `Blanked.foldl`: over
  a table with empty texts for other names, the same is written.
-/

namespace LayeredConfig.Rc

def textOf (look : String → Option String → String) : List Piece → List Char
  | [] => []
  | .char c :: ps => c :: textOf look ps
  | .variable name default :: ps =>
    (look (String.ofList name) (default.map String.ofList)).toList ++ textOf look ps

def badName? : List Piece → Option (List Char)
  | [] => none
  | .char _ :: ps => badName? ps
  | .variable name _ :: ps => if isName name then badName? ps else some name

def literal (text : List Char) : List Piece := text.map .char

theorem substitute_eq (look : String → Option String → String) (ps : List Piece) :
    substitute look ps =
      match badName? ps with
      | some bad => .error bad
      | none => .ok (textOf look ps) := by
  induction ps with
  | nil => rfl
  | cons p ps ih =>
    rcases p with c | ⟨name, default⟩
    · rw [substitute, ih, badName?]
      cases badName? ps <;> rfl
    · rw [substitute, badName?]
      split
      · rw [ih]
        cases badName? ps <;> rfl
      · rfl

theorem textOf_congr {look look' : String → Option String → String} {ps : List Piece}
    (h : ∀ name default, .variable name default ∈ ps →
      look' (String.ofList name) (default.map String.ofList) =
        look (String.ofList name) (default.map String.ofList)) :
    textOf look' ps = textOf look ps := by
  induction ps with
  | nil => rfl
  | cons p ps ih =>
    have hps := ih fun name default hmem => h name default (List.mem_cons_of_mem _ hmem)
    rcases p with c | ⟨name, default⟩
    · rw [textOf, textOf, hps]
    · rw [textOf, textOf, hps, h name default List.mem_cons_self]

theorem badName?_literal (text : List Char) : badName? (literal text) = none := by
  induction text with
  | nil => rfl
  | cons c cs ih => exact ih

theorem textOf_literal (look : String → Option String → String) (text : List Char) :
    textOf look (literal text) = text := by
  induction text with
  | nil => rfl
  | cons c cs ih => exact congrArg (c :: ·) ih

end LayeredConfig.Rc

namespace LayeredConfig.Overlay

structure Write where
  key : String
  pieces : List Rc.Piece

def Write.text (env t : Table String) (w : Write) : String :=
  String.ofList (Rc.textOf (lookup env t) w.pieces)

def Write.apply (env t : Table String) (w : Write) : Table String :=
  t.insert w.key (w.text env t)

/-- An answer or a fault, and the writes that lead up to it. -/
abbrev Script (α : Type) := Except Fault α × List Write

/-- The attempt has the answer and the writes of the script, whatever values it starts from. -/
def Follows {α : Type} (env : Table String) (o : State → Outcome α) (x : Script α) : Prop :=
  ∀ s, (o s).1 = x.1 ∧ (o s).2.values = x.2.foldl (Write.apply env) s.values

theorem Follows.answer {α : Type} {env : Table String} {o : State → Outcome α} {x : Script α}
    (h : Follows env o x) (s s' : State) : (o s).1 = (o s').1 :=
  (h s).1.trans (h s').1.symm

/-! ## Mappings -/

def entriesScript (path : String) (g : Document.Graph) :
    List (Document.Value × Document.Part) → Script Unit
  | [] => (.ok (), [])
  | (k, p) :: es =>
    match scalarText path g k p, written k.display with
    | .error e, _ | .ok _, .error e => (.error e, [])
    | .ok text, .ok key =>
      let (answer, ws) := entriesScript path g es
      (answer, ⟨key, Rc.literal text.toList⟩ :: ws)

def documentScript (path : String) (g : Document.Graph) : Script Unit :=
  match g.root, g.entries? g.root with
  | .whole .null, _ => (.ok (), [])
  | _, some es => entriesScript path g es
  | _, none => (.error (.file path 0 .noMapping), [])

variable {env : Table String}

theorem mergeEntries_follows (path : String) (g : Document.Graph)
    (es : List (Document.Value × Document.Part)) :
    Follows env (mergeEntries path g es) (entriesScript path g es) := by
  induction es with
  | nil => exact fun s => ⟨rfl, rfl⟩
  | cons e es ih =>
    obtain ⟨k, p⟩ := e
    intro s
    simp only [mergeEntries, entriesScript]
    rcases scalarText path g k p with e | text
    · exact ⟨rfl, rfl⟩
    · rcases written k.display with e | key
      · exact ⟨rfl, rfl⟩
      · obtain ⟨hanswer, hvalues⟩ := ih (s.put key text)
        refine ⟨hanswer, hvalues.trans ?_⟩
        rw [List.foldl_cons, Write.apply, Write.text, Rc.textOf_literal, String.ofList_toList]
        rfl

theorem mergeDocument_follows (path : String) (g : Document.Graph) :
    Follows env (mergeDocument path g) (documentScript path g) := by
  intro s
  by_cases hnull : g.root = .whole .null
  · simp [mergeDocument, documentScript, hnull]
  · rcases hentries : g.entries? g.root with _ | es
    · simp [mergeDocument, documentScript, hentries]
    · simpa only [mergeDocument, documentScript, hentries] using mergeEntries_follows path g es s

/-! ## Statements -/

/-- The pieces of an assigned value: its references, unless it is to be taken as it stands. -/
def assigned (r : Reader) (st : Rc.Statement) (value : List Char) : List Rc.Piece :=
  if r.substitute && !st.isLiteral then Rc.pieces value else Rc.literal value

def assignScript (r : Reader) (path : String) (st : Rc.Statement) (name value : List Char) :
    Script Unit :=
  if !Rc.isName name then (.error (.file path st.startLine (.badName (String.ofList name))), [])
  else
    let ps := assigned r st value
    match Rc.badName? ps with
    | some bad => (.error (.file path st.startLine (.badSubstitution (String.ofList bad))), [])
    | none => (.ok (), [⟨String.ofList name, ps⟩])

theorem assign_follows (r : Reader) (path : String) (st : Rc.Statement) (name value : List Char) :
    Follows env (assign r env path st name value) (assignScript r path st name value) := by
  intro s
  have htext : (if r.substitute && !st.isLiteral then
        Rc.substitute (lookup env s.values) (Rc.pieces value) else .ok value) =
      Rc.substitute (lookup env s.values) (assigned r st value) := by
    unfold assigned
    split
    · rfl
    · rw [Rc.substitute_eq, Rc.badName?_literal, Rc.textOf_literal]
  unfold assign assignScript
  split
  · exact ⟨rfl, rfl⟩
  · dsimp only
    rw [htext, Rc.substitute_eq]
    cases Rc.badName? (assigned r st value) with
    | some bad => exact ⟨rfl, rfl⟩
    | none => exact ⟨rfl, rfl⟩

def sourceScript (readScript : Option (Path → Script Bool)) (r : Reader) (h : Host) (path : Path)
    (line : Nat) (target : String) : Script Unit :=
  if !r.allowSource then (.ok (), [])
  else match readScript with
    | none => (.error (.file path.toString line .nestedTooDeep), [])
    | some readScript =>
      match h.expandHome (Path.ofString target) with
      | .error e => (.error (.failure e), [])
      | .ok included =>
        let (answer, ws) := readScript (path.parent.join included)
        (answer.map fun _ => (), ws)

def statementScript (readScript : Option (Path → Script Bool)) (r : Reader) (h : Host)
    (path : Path) (st : Rc.Statement) : Script Unit :=
  let fail := fun problem => (Except.error (.file path.toString st.startLine problem), [])
  match st.form with
  | .blank => (.ok (), [])
  | .assign name value _ => assignScript r path.toString st name value
  | .bare name =>
    let shown := String.ofList name
    if sourceCommands.contains name then fail (.noFileName shown) else fail (.noAssignment shown)
  | .command =>
    match sourceTarget st.text with
    | .error problem => fail problem
    | .ok target => sourceScript readScript r h path st.startLine (String.ofList target)

def statementsScript (readScript : Option (Path → Script Bool)) (r : Reader) (h : Host)
    (path : Path) : List Rc.Statement → Script Unit
  | [] => (.ok (), [])
  | st :: sts =>
    match statementScript readScript r h path st with
    | (.error e, ws) => (.error e, ws)
    | (.ok (), ws) =>
      let (answer, ws') := statementsScript readScript r h path sts
      (answer, ws ++ ws')

/-! ## Files -/

def textScript (readScript : Option (Path → Script Bool)) (r : Reader) (h : Host) (path : Path)
    (cs : List Char) : Script Unit :=
  match Document.Format.ofSuffix? path.suffix with
  | none => statementsScript readScript r h path (Rc.statements cs)
  | some format =>
    match format.readText path.toString cs with
    | .error e => (.error e, [])
    | .ok g => documentScript path.toString g

def fileScript (readScript : Option (Path → Script Bool)) (r : Reader) (h : Host) (path : Path) :
    Script Bool :=
  match h.expandHome path with
  | .error e => (.error (.failure e), [])
  | .ok path =>
    match h.file? path with
    | .error e => (.error (.failure e), [])
    | .ok none => (.ok false, [])
    | .ok (some body) =>
      match Host.readText body with
      | .error problem => (.error (.file path.toString 0 problem), [])
      | .ok cs =>
        let (answer, ws) := textScript readScript r h path cs
        (answer.map fun _ => true, ws)

/-- What laying a file over any values comes to; files may source one another `levels` deep. -/
def script (r : Reader) (h : Host) : (levels : Nat) → Path → Script Bool
  | 0 => fileScript none r h
  | n + 1 => fileScript (some (script r h n)) r h

def Paired (env : Table String) (readFile : Option (Path → State → Outcome Bool))
    (readScript : Option (Path → Script Bool)) : Prop :=
  (readFile = none ∧ readScript = none) ∨
    ∃ read x, readFile = some read ∧ readScript = some x ∧ ∀ path, Follows env (read path) (x path)

section files
variable {h : Host} {readFile : Option (Path → State → Outcome Bool)}
  {readScript : Option (Path → Script Bool)} (hread : Paired h.env readFile readScript)
include hread

theorem source_follows (r : Reader) (path : Path) (line : Nat) (target : String) :
    Follows h.env (source readFile r h path line target)
      (sourceScript readScript r h path line target) := by
  intro s
  unfold source sourceScript
  split
  · exact ⟨rfl, rfl⟩
  · rcases hread with ⟨rfl, rfl⟩ | ⟨read, x, rfl, rfl, hfollows⟩
    · exact ⟨rfl, rfl⟩
    · rcases h.expandHome (Path.ofString target) with e | included
      · exact ⟨rfl, rfl⟩
      · obtain ⟨hanswer, hvalues⟩ := hfollows (path.parent.join included) s
        dsimp only
        rcases hr : read (path.parent.join included) s with ⟨answer, t⟩
        rw [hr] at hanswer hvalues
        rw [← hanswer]
        rcases answer with e | _ | _ <;> exact ⟨rfl, hvalues⟩

theorem runStatement_follows (r : Reader) (path : Path) (st : Rc.Statement) :
    Follows h.env (runStatement readFile r h path st)
      (statementScript readScript r h path st) := by
  intro s
  unfold runStatement statementScript
  cases st.form with
  | blank => exact ⟨rfl, rfl⟩
  | assign name value => exact assign_follows r path.toString st name value s
  | bare name =>
    dsimp only
    split <;> exact ⟨rfl, rfl⟩
  | command =>
    rcases sourceTarget st.text with problem | target
    · exact ⟨rfl, rfl⟩
    · exact source_follows hread r path st.startLine (String.ofList target) s

theorem runStatements_follows (r : Reader) (path : Path) (sts : List Rc.Statement) :
    Follows h.env (runStatements readFile r h path sts)
      (statementsScript readScript r h path sts) := by
  induction sts with
  | nil => exact fun s => ⟨rfl, rfl⟩
  | cons st sts ih =>
    intro s
    obtain ⟨hanswer, hvalues⟩ := runStatement_follows hread r path st s
    simp only [runStatements, statementsScript]
    rcases hr : runStatement readFile r h path st s with ⟨answer, t⟩
    rcases hx : statementScript readScript r h path st with ⟨answer', ws⟩
    rw [hr, hx] at hanswer hvalues
    obtain rfl : answer = answer' := hanswer
    cases answer with
    | error e => exact ⟨rfl, hvalues⟩
    | ok =>
      obtain ⟨hanswer', hvalues'⟩ := ih t
      refine ⟨hanswer', hvalues'.trans ?_⟩
      rw [show t.values = _ from hvalues, List.foldl_append]

theorem mergeText_follows (r : Reader) (path : Path) (cs : List Char) :
    Follows h.env (mergeText readFile r h path cs) (textScript readScript r h path cs) := by
  intro s
  unfold mergeText textScript
  cases Document.Format.ofSuffix? path.suffix with
  | none => exact runStatements_follows hread r path (Rc.statements cs) s
  | some format =>
    dsimp only
    rcases format.readText path.toString cs with e | g
    · exact ⟨rfl, rfl⟩
    · exact mergeDocument_follows path.toString g s

theorem mergeFile_follows (r : Reader) (path : Path) :
    Follows h.env (mergeFile readFile r h path) (fileScript readScript r h path) := by
  intro s
  unfold mergeFile fileScript
  rcases h.expandHome path with e | path
  · exact ⟨rfl, rfl⟩
  dsimp only
  rcases h.file? path with e | _ | body
  · exact ⟨rfl, rfl⟩
  · exact ⟨rfl, rfl⟩
  dsimp only
  rcases Host.readText body with problem | cs
  · exact ⟨rfl, rfl⟩
  obtain ⟨hanswer, hvalues⟩ :=
    mergeText_follows hread r path cs (s.note (.overlayRead path.toString))
  dsimp only
  rcases hr : mergeText readFile r h path cs (s.note (.overlayRead path.toString)) with ⟨answer, t⟩
  rw [hr] at hanswer hvalues
  rw [← hanswer]
  rcases answer with e | _ <;> exact ⟨rfl, hvalues⟩

end files

/-- **Reading an overlay is a list of writes.** Whatever values a file is laid over, with all that it
sources, it gives the same answer or the same fault, and the values that it leaves come from the
same writes, one after the other. -/
theorem readFile_follows (r : Reader) (h : Host) (levels : Nat) (path : Path) :
    Follows h.env (readFile r h levels path) (script r h levels path) := by
  induction levels generalizing path with
  | zero => exact mergeFile_follows (.inl ⟨rfl, rfl⟩) r path
  | succ n ih => exact mergeFile_follows (.inr ⟨_, _, rfl, rfl, ih⟩) r path

/-! ## Writes over a table -/

theorem mem_keys_foldl_apply (env : Table String) (ws : List Write) {t : Table String} {k : String}
    (hk : k ∈ t.keys) :
    k ∈ (ws.foldl (Write.apply env) t).keys := by
  induction ws generalizing t with
  | nil => exact hk
  | cons w ws ih => exact ih (Table.mem_keys_insert.2 (.inr hk))

theorem lookup_congr {t t' : Table String} (h : t.Agrees t') : lookup env t = lookup env t' := by
  funext name default
  rw [lookup, lookup, h name]

theorem foldl_apply_agrees (ws : List Write) {t t' : Table String} (h : t.Agrees t') :
    (ws.foldl (Write.apply env) t).Agrees (ws.foldl (Write.apply env) t') := by
  induction ws generalizing t t' with
  | nil => exact h
  | cons w ws ih =>
    apply ih
    rw [Write.apply, Write.apply, Write.text, Write.text, lookup_congr h]
    exact h.insert _ _

theorem foldl_apply_other {ws : List Write} {k : String} (hk : k ∉ ws.map (·.key))
    (t : Table String) : (ws.foldl (Write.apply env) t).get? k = t.get? k := by
  induction ws generalizing t with
  | nil => rfl
  | cons w ws ih =>
    rw [List.map_cons, List.mem_cons, not_or] at hk
    rw [List.foldl_cons, ih hk.2, Write.apply, Table.get?_insert, if_neg (Ne.symm hk.1)]

/-! ## Names without a text -/

/-- The names in a write that the table has no text for, but the environment or a default has. -/
def Write.borrows (env t : Table String) (w : Write) : List String :=
  w.pieces.filterMap fun
    | .char _ => none
    | .variable name default =>
      let key := String.ofList name
      if t.get? key = none ∧ lookup env t key (default.map String.ofList) ≠ "" then some key
      else none

def borrowed (env : Table String) : List Write → Table String → List String
  | [], _ => []
  | w :: ws, t => w.borrows env t ++ borrowed env ws (w.apply env t)

/-- The second table has the texts of the first one, and under other names of the list the empty
text. -/
def Blanked (names : List String) (t t' : Table String) : Prop :=
  ∀ k, t'.get? k = (t.get? k).or (if k ∈ names then some "" else none)

namespace Blanked

variable {names : List String} {t t' : Table String}

theorem insert (h : Blanked names t t') (key value : String) :
    Blanked names (t.insert key value) (t'.insert key value) := by
  intro k
  rw [Table.get?_insert, Table.get?_insert, h k]
  split <;> rfl

theorem lookup_eq (h : Blanked names t t') {name : String} {default : Option String}
    (hn : t.get? name = none → lookup env t name default ≠ "" → name ∉ names) :
    lookup env t' name default = lookup env t name default := by
  by_cases hempty : t.get? name = none ∧ name ∈ names
  · -- both look-ups give the empty text
    have hnone : lookup env t name default = "" :=
      Decidable.byContradiction fun hne => hn hempty.1 hne hempty.2
    rw [hnone, lookup, h name, hempty.1, if_pos hempty.2]
    rfl
  · rw [lookup, lookup, h name]
    cases hv : t.get? name with
    | some v => rfl
    | none => rw [if_neg fun hmem => hempty ⟨hv, hmem⟩]; rfl

theorem text_eq (h : Blanked names t t') {w : Write} (hw : ∀ k ∈ w.borrows env t, k ∉ names) :
    w.text env t' = w.text env t := by
  refine congrArg String.ofList (Rc.textOf_congr fun name default hmem => ?_)
  refine h.lookup_eq fun hnone hne => hw _ (List.mem_filterMap.2 ⟨_, hmem, ?_⟩)
  exact if_pos ⟨hnone, hne⟩

theorem foldl (h : Blanked names t t') {ws : List Write}
    (hw : ∀ k ∈ borrowed env ws t, k ∉ names) :
    Blanked names (ws.foldl (Write.apply env) t) (ws.foldl (Write.apply env) t') := by
  induction ws generalizing t t' with
  | nil => exact h
  | cons w ws ih =>
    have htext : w.text env t' = w.text env t :=
      h.text_eq fun k hk => hw k (List.mem_append_left _ hk)
    have happly : Blanked names (w.apply env t) (w.apply env t') := by
      rw [Write.apply, Write.apply, htext]
      exact h.insert _ _
    exact ih happly fun k hk => hw k (List.mem_append_right _ hk)

end Blanked

end LayeredConfig.Overlay
