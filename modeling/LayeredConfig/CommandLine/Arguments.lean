/-!
# Command line arguments

Options may stand between the keys. A long option takes its value from behind an equals sign or
from the next argument, a short one from the rest of its own argument or from the next one; several
short flags may be written together. Two dashes end the options. Of an option given twice the last
one counts.
-/

namespace LayeredConfig.CommandLine

inductive Switch where
  | dump
  | dumpDefaults
  | noUserFile
  | verbose
  | version
  | help
  deriving DecidableEq, Repr

inductive Setter where
  | defaults
  | systemFile
  | userFile
  deriving DecidableEq, Repr

inductive OptionKind where
  | flag (s : Switch)
  | takes (s : Setter)
  deriving DecidableEq, Repr

def longOptions : List (String × OptionKind) := [
  ("--defaults", .takes .defaults), ("--system-rc", .takes .systemFile),
  ("--user-rc", .takes .userFile), ("--no-user-rc", .flag .noUserFile), ("--dump", .flag .dump),
  ("--dump-defaults", .flag .dumpDefaults), ("--verbose", .flag .verbose),
  ("--version", .flag .version), ("--help", .flag .help)]

def shortOptions : List (Char × OptionKind) := [
  ('d', .takes .defaults), ('v', .flag .verbose)]

structure Arguments where
  keys : List String := []
  switches : List Switch := []
  defaults : Option String := none
  systemFile : String := "/etc/delayrc"
  userFile : Option String := none
  deriving DecidableEq, Repr

namespace Arguments

def set (a : Arguments) (s : Setter) (value : String) : Arguments :=
  match s with
  | .defaults => { a with defaults := some value }
  | .systemFile => { a with systemFile := value }
  | .userFile => { a with userFile := some value }

def turnOn (a : Arguments) (s : Switch) : Arguments :=
  { a with switches := a.switches ++ [s] }

def addKey (a : Arguments) (key : String) : Arguments :=
  { a with keys := a.keys ++ [key] }

def has (a : Arguments) (s : Switch) : Bool := a.switches.contains s

end Arguments

/-- What one argument comes to: settings that are complete, or an option whose value is the next
argument. -/
inductive Effect where
  | done (a : Arguments)
  | needs (a : Arguments) (s : Setter)

/-- Reads letters behind a dash; the rest behind a letter that takes a value is the value. -/
def readLetters (a : Arguments) : List Char → Option Effect
  | [] => some (.done a)
  | c :: cs =>
    match shortOptions.lookup c with
    | none => none
    | some (.flag s) => readLetters (a.turnOn s) cs
    | some (.takes s) =>
      if cs.isEmpty then some (.needs a s) else some (.done (a.set s (String.ofList cs)))

def readLong (a : Arguments) (kind : OptionKind) (value : Option String) : Option Effect :=
  match kind, value with
  | .flag s, none => some (.done (a.turnOn s))
  | .flag _, some _ => none
  | .takes s, none => some (.needs a s)
  | .takes s, some v => some (.done (a.set s v))

def readOption (a : Arguments) (arg : String) : Option Effect :=
  let cs := arg.toList
  let name := String.ofList (cs.takeWhile (· != '='))
  let value := match cs.dropWhile (· != '=') with
    | _ :: v => some (String.ofList v)
    | [] => none
  match longOptions.lookup name, cs with
  | some kind, _ => readLong a kind value
  | none, '-' :: '-' :: _ => none
  | none, _ => readLetters a (cs.drop 1)

/-- The argument is an option: a dash alone is none. -/
def isOption (arg : String) : Bool :=
  match arg.toList with
  | '-' :: _ :: _ => true
  | _ => false

/-- Reads all arguments; nothing if they are misused. -/
def readArguments : Arguments → List String → Option Arguments
  | a, [] => some a
  | a, "--" :: args => some (args.foldl Arguments.addKey a)
  | a, arg :: args =>
    if isOption arg then
      match readOption a arg, args with
      | none, _ => none
      | some (.done a), args => readArguments a args
      | some (.needs _ _), [] => none
      | some (.needs a s), value :: args => readArguments (a.set s value) args
    else readArguments (a.addKey arg) args

end LayeredConfig.CommandLine
