import LayeredConfig.Document.Format
import LayeredConfig.Host
import LayeredConfig.Rc.Statement
import LayeredConfig.Rc.Substitution
import LayeredConfig.Rc.Words

/-!
# Overlays

An overlay is a file whose assignments are laid over a table of values: a flat mapping in a
structured document, or an rc file. Statements of an rc file take effect one after the other; a
fault leaves what the statements in front of it did. A statement may source another file, up to a
limit on how deeply files source one another.
-/

namespace LayeredConfig.Overlay

structure Reader where
  /-- References to other values are replaced. -/
  substitute : Bool := true
  /-- Other files may be sourced. -/
  allowSource : Bool := true
  deriving DecidableEq, Repr

/-- The values so far, and what there is to report. -/
structure State where
  values : Table String
  journal : Journal := []

abbrev Outcome (α : Type) := Except Fault α × State

def State.note (s : State) (r : Record) : State := { s with journal := s.journal ++ [r] }

def State.put (s : State) (key value : String) : State :=
  { s with values := s.values.insert key value }

/-! ## Mappings -/

/-- A text, or the failure to write it. -/
def written : Except Text.NumeralFault String → Except Fault String
  | .ok s => .ok s
  | .error e => .error (.failure (.numeral e))

def scalarText (path : String) (g : Document.Graph) (key : Document.Value) (p : Document.Part) :
    Except Fault String :=
  if (g.items? p).isSome || (g.entries? p).isSome then do
    .error (.file path 0 (.noScalar (← written key.display)))
  else written (g.value p).settingText

/-- Lays the entries of a mapping over the values, up to the first that is no scalar. -/
def mergeEntries (path : String) (g : Document.Graph) :
    List (Document.Value × Document.Part) → State → Outcome Unit
  | [], s => (.ok (), s)
  | (k, p) :: es, s =>
    match scalarText path g k p, written k.display with
    | .error e, _ | .ok _, .error e => (.error e, s)
    | .ok text, .ok key => mergeEntries path g es (s.put key text)

/-- Lays a document over the values; an empty one changes nothing. -/
def mergeDocument (path : String) (g : Document.Graph) (s : State) : Outcome Unit :=
  match g.root, g.entries? g.root with
  | .whole .null, _ => (.ok (), s)
  | _, some es => mergeEntries path g es s
  | _, none => (.error (.file path 0 .noMapping), s)

/-! ## Statements -/

/-- The value of a name: the one assigned, else the environment's, else the default. -/
def lookup (env values : Table String) (name : String) (default : Option String) : String :=
  ((values.get? name).or (env.get? name)).getD (default.getD "")

def sourceCommands : List (List Char) := ["source".toList, ".".toList]

/-- Assigns a value, with references in it replaced unless it is to be taken as it stands. -/
def assign (r : Reader) (env : Table String) (path : String) (st : Rc.Statement)
    (name value : List Char) (s : State) : Outcome Unit :=
  if !Rc.isName name then
    (.error (.file path st.startLine (.badName (String.ofList name))), s)
  else
    let text :=
      if r.substitute && !st.isLiteral then
        Rc.substitute (lookup env s.values) (Rc.pieces value)
      else .ok value
    match text with
    | .error bad => (.error (.file path st.startLine (.badSubstitution (String.ofList bad))), s)
    | .ok text => (.ok (), s.put (String.ofList name) (String.ofList text))

def noAssignment (cs : List Char) : FileProblem :=
  let trimmed := Text.trim cs
  .noAssignment (String.ofList (if trimmed.isEmpty then cs else Text.firstLine trimmed))

def sourceTarget (cs : List Char) : Except FileProblem (List Char) :=
  match Rc.splitWords cs with
  | some (command :: args) =>
    if sourceCommands.contains command then
      match args with
      | [target] => .ok target
      | _ => .error (.manyFileNames (String.ofList command))
    else .error (noAssignment cs)
  | _ => .error (noAssignment cs)

/-- Sources a file named in the file at `path`; `readFile` is missing at the limit. -/
def source (readFile : Option (Path → State → Outcome Bool)) (r : Reader) (h : Host) (path : Path)
    (line : Nat) (target : String) (s : State) : Outcome Unit :=
  if !r.allowSource then (.ok (), s.note (.sourceIgnored path.toString line target))
  else match readFile with
    | none => (.error (.file path.toString line .nestedTooDeep), s)
    | some readFile =>
      match h.expandHome (Path.ofString target) with
      | .error e => (.error (.failure e), s)
      | .ok included =>
        let included := path.parent.join included
        match readFile included s with
        | (.error e, s) => (.error e, s)
        | (.ok true, s) => (.ok (), s)
        | (.ok false, s) =>
          (.ok (), s.note (.sourceMissing path.toString line included.toString))

def runStatement (readFile : Option (Path → State → Outcome Bool)) (r : Reader) (h : Host)
    (path : Path) (st : Rc.Statement) (s : State) : Outcome Unit :=
  let fail := fun problem => (Except.error (.file path.toString st.startLine problem), s)
  match st.form with
  | .blank => (.ok (), s)
  | .assign name value _ => assign r h.env path.toString st name value s
  | .bare name =>
    let shown := String.ofList name
    if sourceCommands.contains name then fail (.noFileName shown) else fail (.noAssignment shown)
  | .command =>
    match sourceTarget st.text with
    | .error problem => fail problem
    | .ok target => source readFile r h path st.startLine (String.ofList target) s

/-- The effect of statements, one after the other, up to the first fault. -/
def runStatements (readFile : Option (Path → State → Outcome Bool)) (r : Reader) (h : Host)
    (path : Path) : List Rc.Statement → State → Outcome Unit
  | [], s => (.ok (), s)
  | st :: sts, s =>
    match runStatement readFile r h path st s with
    | (.ok (), s) => runStatements readFile r h path sts s
    | (.error e, s) => (.error e, s)

/-! ## Files -/

def mergeText (readFile : Option (Path → State → Outcome Bool)) (r : Reader) (h : Host)
    (path : Path) (cs : List Char) (s : State) : Outcome Unit :=
  match Document.Format.ofSuffix? path.suffix with
  | none => runStatements readFile r h path (Rc.statements cs) s
  | some format =>
    match format.readText path.toString cs with
    | .error e => (.error e, s)
    | .ok g => mergeDocument path.toString g s

/-- Lays a file over the values; the answer says whether it is there. -/
def mergeFile (readFile : Option (Path → State → Outcome Bool)) (r : Reader) (h : Host)
    (path : Path) (s : State) : Outcome Bool :=
  match h.expandHome path with
  | .error e => (.error (.failure e), s)
  | .ok path =>
    match h.file? path with
    | .error e => (.error (.failure e), s)
    | .ok none => (.ok false, s.note (.overlayMissing path.toString))
    | .ok (some body) =>
      let s := s.note (.overlayRead path.toString)
      match Host.readText body with
      | .error problem => (.error (.file path.toString 0 problem), s)
      | .ok cs =>
        match mergeText readFile r h path cs s with
        | (.error e, s) => (.error e, s)
        | (.ok (), s) => (.ok true, s)

/-- Lays a file over the values; files may source one another `levels` deep. -/
def readFile (r : Reader) (h : Host) : (levels : Nat) → Path → State → Outcome Bool
  | 0 => mergeFile none r h
  | n + 1 => mergeFile (some (readFile r h n)) r h

def maxSourceDepth : Nat := 16

def read (r : Reader) (h : Host) (path : Path) (s : State) : Outcome Bool :=
  readFile r h maxSourceDepth path s

def readText (r : Reader) (h : Host) (text : String) (path : Path) (s : State) : Outcome Unit :=
  runStatements (some (readFile r h (maxSourceDepth - 1))) r h path (Rc.statements text.toList) s

end LayeredConfig.Overlay
