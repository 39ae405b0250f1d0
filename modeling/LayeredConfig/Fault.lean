import LayeredConfig.Directive.Fault
import LayeredConfig.Document.Graph
import LayeredConfig.Document.Json
import LayeredConfig.Journal
import LayeredConfig.Text.Utf8
import LayeredConfig.Yaml.Cursor

/-!
# Faults

Everything that can go wrong, by its cause. A cause knows its message and the facts it puts beside
the message; faults that are no reports to the user have neither.
-/

namespace LayeredConfig

inductive FileProblem where
  | notUtf8 (fault : Text.Utf8Fault)
  | unreadable (reason : String)
  | json (problem : Document.Json.Problem)
  /-- Malformed YAML; the line says where. -/
  | yaml
  | noMapping
  | noScalar (key : String)
  | noAssignment (text : String)
  | badName (name : String)
  | badSubstitution (name : String)
  | noFileName (command : String)
  | manyFileNames (command : String)
  | nestedTooDeep

namespace FileProblem

def literal (s : String) : String := String.ofList (Text.quoted s.toList)

def message : FileProblem → String
  | notUtf8 f => "not valid UTF-8: " ++ f.reason
  | unreadable reason => "cannot read file: " ++ reason
  | json p => p.message
  | yaml => "<yaml>"
  | noMapping => "overlay must be a mapping"
  | noScalar key => "value of " ++ key ++ " must be a scalar"
  | noAssignment text => "expected NAME=value, got " ++ literal text
  | badName name => "invalid name " ++ literal name
  | badSubstitution name => "bad substitution: $\x7b" ++ name ++ "\x7d"
  | noFileName command => command ++ " requires a file name"
  | manyFileNames command => command ++ " requires a single file name"
  | nestedTooDeep => "source nesting too deep"

end FileProblem

inductive TableProblem where
  | noKey (entry : Document.Part)
  | unknownKind (kind : String) (key : Document.Part) (shown : String)
  | noList (path : String)

/-- What cannot be represented or found out at all. -/
inductive Failure where
  | numeral (fault : Text.NumeralFault)
  | unfit (u : Yaml.Unfit)
  /-- There is no user of the name behind a tilde. -/
  | noUser
  /-- A name to be looked up holds a null character. -/
  | nullInName
  /-- A name or a path is longer than any that can be looked up. -/
  | nameTooLong
  /-- A name is to be looked up in a directory that may not be searched. -/
  | noPermission
  | noSuchItem

inductive Misuse where
  | notBuilt
  | alreadyBuilt

inductive Fault where
  | directive (f : DirectiveFault)
  | file (path : String) (line : Nat) (problem : FileProblem)
  | table (problem : TableProblem)
  | misuse (m : Misuse)
  | unknownKey (key : String)
  | failure (f : Failure)

/-- A fact beside a message: a text or a number as it is, anything else without its value. -/
inductive Fact where
  | text (s : String)
  | number (i : Int)
  | other

def Fact.ofPart : Document.Part → Fact
  | .whole (.text s) => .text s
  | .whole (.int i) => .number i
  | _ => .other

/-- The families of reports; each but the first lies inside another one. -/
inductive Category where
  | general
  | validation
  | configuration
  | notFound
  | unknownKey
  | fileSyntax
  /-- Directives in general, or one kind of fault. -/
  | directive (kind : Option DirectiveFaultKind)
  deriving DecidableEq, Repr

/-- A category and those around it, from the inside out. -/
def Category.ancestry : Category → List Category
  | general => [general]
  | validation => [validation, general]
  | configuration => [configuration, general]
  | notFound => [notFound, general]
  | unknownKey => [unknownKey, notFound, general]
  | fileSyntax => [fileSyntax, validation, general]
  | directive none => [directive none, configuration, general]
  | directive (some k) => [directive (some k), directive none, configuration, general]

/-- A message with the facts beside it, and those facts that are the report's own. -/
structure Report where
  category : Category
  message : String
  context : List (String × Fact) := []
  own : List (String × Fact) := []

namespace Report

/-- A report whose facts are the details, or the context if there are none. -/
def make (category : Category) (message : String) (context details : List (String × Fact)) :
    Report :=
  ⟨category, message, if details.isEmpty then context else details, []⟩

def directiveReason (kind : Option DirectiveFaultKind) : String :=
  (kind.map (·.reason)).getD "invalid directive"

def directive (kind : Option DirectiveFaultKind) (key : String) : Report :=
  let reason := directiveReason kind
  let facts := [("key", Fact.text key), ("reason", .text reason)]
  ⟨.directive kind, DirectiveFault.messageFor reason key, facts, facts⟩

def place (path : String) (line : Int) (message : String) : Report :=
  let facts := [("path", Fact.text path), ("line", .number line)]
  ⟨.fileSyntax, path ++ ":" ++ toString line ++ ": " ++ message, facts, facts⟩

end Report

namespace TableProblem

def report : TableProblem → Report
  | noKey entry =>
    ⟨.validation, "Defaults entry must be a mapping with a 'key'", [("entry", .ofPart entry)], []⟩
  | unknownKind kind key shown =>
    ⟨.validation, "Unknown option type '" ++ kind ++ "' for " ++ shown,
      [("key", .ofPart key), ("type", .text kind)], []⟩
  | noList path =>
    ⟨.validation, "Defaults file must contain a list of options: " ++ path,
      [("path", .text path)], []⟩

end TableProblem

def Misuse.message : Misuse → String
  | notBuilt => "Configuration store has not been built yet"
  | alreadyBuilt => "Configuration store has already been built"

namespace Fault

/-- What is reported to the user; a failure is not. -/
def report? : Fault → Option Report
  | directive f => some (.directive (some f.kind) f.key)
  | file path line problem => some (.place path line problem.message)
  | table problem => some problem.report
  | misuse m => some ⟨.configuration, m.message, [], []⟩
  | unknownKey key =>
    some ⟨.unknownKey, "Unknown configuration key: " ++ key, [("key", .text key)], []⟩
  | failure _ => none

end Fault

end LayeredConfig
