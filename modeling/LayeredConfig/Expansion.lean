import LayeredConfig.Directive.Block
import LayeredConfig.Directive.Escape
import LayeredConfig.Directive.Fault
import LayeredConfig.KeySet
import LayeredConfig.Setting.Truth
import LayeredConfig.Table

/-!
# Expansion

The value of a pending key is expanded by working through its directives from left to right. A
reference is replaced by the expanded value of the key it names, and the search goes on behind
that text; a conditional block is replaced by the branch its key selects, and the search goes on
at the start of that branch. A key whose value holds no directive any more is stored and is no
longer pending, so that later look-ups take the stored text.

The keys being expanded form a path. Asking for a key on the path is a self-reference.
-/

namespace LayeredConfig.Expansion

/-- What an expansion works on: the values, the keys whose values may still hold directives, and
the keys on the current path. -/
structure State where
  values : Table String
  pending : KeySet
  path : KeySet := KeySet.empty

abbrev Outcome := Except DirectiveFault String × State

/-- The stored text of a key; a key without a value has the empty text. -/
def State.text (s : State) (key : String) : String := s.values.getD key ""

def State.finish (s : State) (key text : String) : State :=
  { s with values := s.values.insert key text, pending := s.pending.erase key }

def demand (resolve : String → State → Outcome) (key target : String) (s : State) : Outcome :=
  if target = key ∨ target ∈ s.path then (.error (.selfReference target key), s)
  else resolve target s

/-- The value of the key a reference stands for, with `key` on the path meanwhile. -/
def follow (resolve : String → State → Outcome) (prefixKey key : String) (ref : Reference)
    (s : State) : Outcome :=
  let inner := { s with path := s.path.insert key }
  let (answer, s') :=
    match ref with
    | .direct name => demand resolve key name inner
    | .indirect suffix =>
      match demand resolve key prefixKey inner with
      | (.ok stem, s') => demand resolve key (stem ++ suffix) s'
      | (.error e, s') => (.error e, s')
  (answer, { s' with path := s'.path.erase key })

def blockFault (key : String) : Directive.BlockFault → DirectiveFault
  | .unclosed => .unclosed key
  | .doubleElse => .doubleElse key

/-- Expands the rest of the value of `key`; `done` is the text in front of it, where no directive
is left. -/
def expandRest (resolve : String → State → Outcome) (prefixKey key : String)
    (done rest : List Char) (s : State) : Outcome :=
  match _h : Directive.find (Text.endsIn (· == '%') done) rest with
  | none =>
    let text := String.ofList (done ++ rest)
    (.ok text, s.finish key text)
  | some f =>
    match f.directive with
    | .close => (.error (.strayClose key), s)
    | .otherwise => (.error (.strayElse key), s)
    | .substitute ref =>
      match follow resolve prefixKey key ref s with
      | (.error e, s') => (.error e, s')
      | (.ok text, s') =>
        expandRest resolve prefixKey key (done ++ f.before ++ text.toList) f.after s'
    | .whenTrue ref | .whenFalse ref =>
      match follow resolve prefixKey key ref s with
      | (.error e, s') => (.error e, s')
      | (.ok text, s') =>
        match _hb : Directive.Block.read f.after with
        | .error e => (.error (blockFault key e), s')
        | .ok block =>
          let keepFirst := Setting.isTrue text == (f.directive matches .whenTrue _)
          expandRest resolve prefixKey key (done ++ f.before) (block.select keepFirst) s'
termination_by rest.length
decreasing_by
  · exact Directive.find_length _h
  all_goals exact Nat.lt_trans (Directive.Block.select_length _hb _) (Directive.find_length _h)

/-- The expanded value of a key. A path holds pending keys only, save for the key asked for last,
so with as many levels as there are pending keys the key at the bottom is a finished one. -/
def resolve (prefixKey : String) : (levels : Nat) → String → State → Outcome
  | 0, key, s => (.ok (s.text key), s)
  | n + 1, key, s =>
    if key ∈ s.pending then
      expandRest (resolve prefixKey n) prefixKey key [] (s.text key).toList s
    else (.ok (s.text key), s)

def defaultPrefixKey : String := "VARPREFIX"

/-- The expanded value of a key, with the keys of `path` on the path already. -/
def State.resolveOn (s : State) (prefixKey : String) (path : KeySet) (key : String) : Outcome :=
  resolve prefixKey s.pending.size key { s with path := path }

/-- The expanded value of a key, on a fresh path. -/
def State.resolve (s : State) (prefixKey key : String) : Outcome :=
  s.resolveOn prefixKey KeySet.empty key

/-- Expands keys one after the other, each on a fresh path, up to the first fault. -/
def State.resolveAll (s : State) (prefixKey : String) :
    List String → Except DirectiveFault Unit × State
  | [] => (.ok (), s)
  | key :: keys =>
    match s.resolve prefixKey key with
    | (.ok _, s') => s'.resolveAll prefixKey keys
    | (.error e, s') => (.error e, s')

def State.unescape (s : State) : State :=
  { s with values := s.values.mapValues (fun _ => Directive.unescape) }

end LayeredConfig.Expansion
