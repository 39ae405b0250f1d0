/-!
# Paths

A path is split at slashes into parts; empty parts and single dots do not count, double dots do.
A path that starts with one slash, or with three and more, starts at the root; exactly two
leading slashes are a root of their own.
-/

namespace LayeredConfig

inductive Root where
  | relative
  | single
  | double
  deriving DecidableEq, Repr

structure Path where
  root : Root
  parts : List (List Char)
  deriving DecidableEq, Repr

namespace Path

def splitSlashes : List Char → List (List Char)
  | [] => [[]]
  | c :: cs =>
    if c == '/' then [] :: splitSlashes cs
    else match splitSlashes cs with
      | [] => [[c]]
      | p :: ps => (c :: p) :: ps

/-- The parts that count. -/
def partsOf (cs : List Char) : List (List Char) :=
  (splitSlashes cs).filter (fun p => p != [] && p != ['.'])

def rootOf : List Char → Root
  | '/' :: '/' :: '/' :: _ => .single
  | '/' :: '/' :: _ => .double
  | '/' :: _ => .single
  | _ => .relative

def ofString (s : String) : Path := ⟨rootOf s.toList, partsOf s.toList⟩

def isAbsolute (p : Path) : Bool := p.root != .relative

def rootText : Root → List Char
  | .relative => []
  | .single => ['/']
  | .double => ['/', '/']

/-- The text of a path; the empty path is a dot. -/
def toString (p : Path) : String :=
  if p.root = .relative ∧ p.parts = [] then "."
  else String.ofList (rootText p.root ++ ['/'].intercalate p.parts)

/-- `q` as seen from `p`; an absolute `q` is itself. -/
def join (p q : Path) : Path :=
  if q.isAbsolute then q else ⟨p.root, p.parts ++ q.parts⟩

def parent (p : Path) : Path := ⟨p.root, p.parts.dropLast⟩

/-- The last part from its last dot on, if that dot is neither its first nor its last character. -/
def suffix (p : Path) : String :=
  match p.parts.getLast? with
  | none => ""
  | some name =>
    let tail := (name.reverse.takeWhile (· != '.')).reverse
    if tail != [] && tail.length + 1 < name.length then String.ofList ('.' :: tail) else ""

/-- The parts of an absolute path once double dots are taken back; at the root they have no
effect. -/
def resolveParts : List (List Char) → List (List Char) :=
  List.foldl (fun ps p => if p = ['.', '.'] then ps.dropLast else ps ++ [p]) []

def placeOf (parts : List (List Char)) : String :=
  String.ofList ('/' :: ['/'].intercalate parts)

def place (p cwd : Path) : String := placeOf (resolveParts (cwd.join p).parts)

/-- The places that a path leads through before its last part. -/
def passed (p cwd : Path) : List String :=
  let parts := (cwd.join p).parts
  (List.range parts.length).map (fun n => placeOf (resolveParts (parts.take n)))

end Path

end LayeredConfig
