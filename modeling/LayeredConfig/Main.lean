import LayeredConfig.CommandLine.Run

/-!
# The command

Shows the machine to the command and prints the outcome. A run is a function of the files it is
given, so it starts with the table of defaults alone and is repeated with every file it asked for
in vain, until none of these is there.
-/

namespace LayeredConfig.Command

open CommandLine

def readFile? (path : String) : IO (Option FileBody) := do
  if path.toList.contains '\x00' then return none
  try
    return some (.bytes (← IO.FS.readBinFile path).toList)
  catch
    | .permissionDenied .. => return some (.refused "Permission denied")
    | _ => return none

def assignmentOf? (text : String) : Option (String × String) :=
  match text.splitOn "=" with
  | name :: v :: vs => some (name, "=".intercalate (v :: vs))
  | _ => none

/-- The environment of this process: assignments that null characters divide. -/
def readEnvironment : IO (Table String) := do
  match ← readFile? "/proc/self/environ" with
  | some (.bytes bs) =>
    match Text.decodeUtf8 bs with
    | .ok cs => return Table.ofList (((String.ofList cs).splitOn "\x00").filterMap assignmentOf?)
    | .error _ => return Table.empty
  | _ => return Table.empty

/-- The host with those files of some paths that are there, and how many there are. -/
def addFiles (h : Host) (paths : List String) : IO (Host × Nat) := do
  let mut host := h
  let mut added := 0
  for path in paths do
    if path != Host.nullDevice then
      if let some body ← readFile? path then
        host := host.addFile (Path.ofString path) body
        added := added + 1
  return (host, added)

def missing (j : Journal) : List String :=
  j.filterMap (fun r => match r with
    | .overlayMissing path => some path
    | _ => none)

/-- Runs the command until it misses no file that is there; a path that was `tried` before is not
read again. -/
partial def settle (h : Host) (tried args : List String) : IO Outcome := do
  let o := run h args
  let paths := (missing o.journal).filter (!tried.contains ·)
  let (h, added) ← addFiles h paths
  if added = 0 then return o else settle h (tried ++ paths) args

def readHost (args : List String) : IO Host := do
  let env ← readEnvironment
  let h := Host.ofTree (Path.ofString (← IO.currentDir).toString) env
  let defaults := (readArguments {} args).bind (·.defaults)
  return (← addFiles h defaults.toList).1

end LayeredConfig.Command

open LayeredConfig in
def main (args : List String) : IO UInt32 := do
  let o ← Command.settle (← Command.readHost args) [] args
  IO.print o.output
  IO.eprint o.errors
  return UInt32.ofNat o.status
