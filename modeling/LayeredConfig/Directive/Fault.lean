/-!
# Faults of expansion

Why the directives of a key could not be expanded. Every fault names the key it is reported for.
-/

namespace LayeredConfig

inductive DirectiveFaultKind where
  | strayClose
  | strayElse
  | doubleElse
  | unclosed
  | selfReference
  deriving DecidableEq, Repr

def DirectiveFaultKind.reason : DirectiveFaultKind → String
  | strayClose => "FI without IF"
  | strayElse => "ELSE without IF"
  | doubleElse => "double ELSE"
  | unclosed => "IF without FI"
  | selfReference => "self-reference"

inductive DirectiveFault where
  /-- A close outside every conditional block. -/
  | strayClose (key : String)
  /-- An `otherwise` outside every conditional block. -/
  | strayElse (key : String)
  /-- A block with a second `otherwise`. -/
  | doubleElse (key : String)
  /-- A block without its close. -/
  | unclosed (key : String)
  /-- A key that is needed for its own value; `within` is the key whose text asked for it. -/
  | selfReference (key within : String)
  deriving DecidableEq, Repr

namespace DirectiveFault

def key : DirectiveFault → String
  | strayClose k | strayElse k | doubleElse k | unclosed k | selfReference k _ => k

def kind : DirectiveFault → DirectiveFaultKind
  | strayClose _ => .strayClose
  | strayElse _ => .strayElse
  | doubleElse _ => .doubleElse
  | unclosed _ => .unclosed
  | selfReference _ _ => .selfReference

def reason (f : DirectiveFault) : String := f.kind.reason

def messageFor (reason key : String) : String :=
  reason ++ " in delayed substitution of " ++ key

def message (f : DirectiveFault) : String := messageFor f.reason f.key

end DirectiveFault

end LayeredConfig
