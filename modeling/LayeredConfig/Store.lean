import LayeredConfig.Config
import LayeredConfig.Expansion
import LayeredConfig.Layering

/-!
# Stores

A store collects settings and is then built once: the sources are layered over the settings, every
value is expanded, and escaped openers are decoded. Before that there is no configuration, and
afterwards the settings are fixed.
-/

namespace LayeredConfig

structure Store where
  defaults : List Setting
  plan : Layering.Plan := {}
  /-- The key whose value stands in front of the name in an indirect reference. -/
  prefixKey : String := Expansion.defaultPrefixKey
  config? : Option Config := none

namespace Store

def isBuilt (s : Store) : Bool := s.config?.isSome

def config (s : Store) : Except Fault Config :=
  match s.config? with
  | some c => .ok c
  | none => .error (.misuse .notBuilt)

def update (f : List Setting → List Setting) (s : Store) : Except Fault Unit × Store :=
  if s.isBuilt then (.error (.misuse .alreadyBuilt), s)
  else (.ok (), { s with defaults := f s.defaults })

def add (s : Store) (setting : Setting) : Except Fault Unit × Store :=
  s.update (· ++ [setting])

def clear (s : Store) : Except Fault Unit × Store :=
  s.update (fun _ => [])

/-- What a fault of expansion has to report: the cycle it ran into, if it did. -/
def journalOf : DirectiveFault → Journal
  | .selfReference key within => [.cycle key within]
  | _ => []

def resolve (prefixKey : String) (b : Layering.Builder) (pending : KeySet) :
    Except Fault Config × Journal :=
  let state : Expansion.State := { values := b.values, pending := pending }
  match state.resolveAll prefixKey (b.settings.map (·.key)) with
  | (.error e, _) => (.error (.directive e), journalOf e)
  | (.ok (), state) =>
    let values := state.unescape.values
    let settings := b.settings.map (fun s => { s with current := values.getD s.key "" })
    (.ok ⟨values, settings⟩, [.resolved values.size])

def resolveSettings (h : Host) (plan : Layering.Plan) (prefixKey : String)
    (settings : List Setting) : Except Fault Config × Journal :=
  match Layering.build plan h { settings := settings } with
  | (.error e, _, journal) => (.error e, journal)
  | (.ok pending, b, journal) =>
    let (config, more) := resolve prefixKey b pending
    (config, journal ++ more)

/-- Builds the configuration. A fault leaves the store as it was. -/
def build (h : Host) (s : Store) : Except Fault Config × Store × Journal :=
  if s.isBuilt then (.error (.misuse .alreadyBuilt), s, [])
  else match resolveSettings h s.plan s.prefixKey s.defaults with
    | (.error e, journal) => (.error e, s, journal)
    | (.ok c, journal) => (.ok c, { s with config? := some c }, journal)

end Store

end LayeredConfig
