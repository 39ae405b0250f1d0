import LayeredConfig.Fault
import LayeredConfig.Path
import LayeredConfig.Table

/-!
# The host

What the program sees of the machine it runs on: the files, the environment, the current directory
and the home directories of users. Either a path is taken by its letters alone, or it is followed
from one directory to the next, and through symbolic links; then double dots lead out of directories
only, names and paths have a greatest length, and some directories may not be searched.
-/

namespace LayeredConfig

/-- A file is read to its bytes, or cannot be opened for a reason. -/
inductive FileBody where
  | bytes (bs : List UInt8)
  | refused (reason : String)

inductive PathFault where
  /-- It leads through this place, which is no directory. -/
  | noDirectory (place : String)
  /-- A name, or the path, is longer than any that can be looked up. -/
  | tooLong
  /-- There are more symbolic links on the way than are followed. -/
  | manyLinks
  /-- A directory on the way may not be searched. -/
  | closed
  deriving DecidableEq, Repr

def standardHomes : Table String := Table.ofList [
  ("root", "/root"), ("daemon", "/usr/sbin"), ("bin", "/bin"), ("sys", "/dev"), ("sync", "/bin"),
  ("games", "/usr/games"), ("man", "/var/cache/man"), ("lp", "/var/spool/lpd"),
  ("mail", "/var/mail"), ("news", "/var/spool/news"), ("uucp", "/var/spool/uucp"),
  ("proxy", "/bin"), ("www-data", "/var/www"), ("backup", "/var/backups"), ("list", "/var/list"),
  ("irc", "/run/ircd"), ("_apt", "/nonexistent"), ("nobody", "/nonexistent")]

structure Tree where
  /-- The places of the directories. -/
  directories : List String
  /-- The paths that symbolic links stand for, by the places of the links. -/
  links : Table Path := Table.empty
  /-- The places of the directories that may not be searched. -/
  closed : List String := []

structure Host where
  /-- The files by their places, as absolute paths without dots. -/
  files : Table FileBody := Table.empty
  /-- The tree that paths are followed through; without it a path is taken by its letters alone. -/
  tree : Option Tree := none
  env : Table String := Table.empty
  cwd : Path := ⟨.single, []⟩
  /-- The home directory of the user. -/
  home : String := "/root"
  /-- The home directories of users by their names. -/
  homes : Table String := standardHomes

/-! ## Following paths -/

namespace Tree

def maxNameBytes : Nat := 255

def maxPathBytes : Nat := 4095

def maxLinks : Nat := 40

def isDirectory (t : Tree) (here : List (List Char)) : Bool :=
  t.directories.contains (Path.placeOf here)

/-- What keeps names from being looked up in a place. -/
def barrier? (t : Tree) (here : List (List Char)) : Option PathFault :=
  if !t.isDirectory here then some (.noDirectory (Path.placeOf here))
  else if t.closed.contains (Path.placeOf here) then some .closed
  else none

/-- Where parts lead up to the first symbolic link. -/
inductive Stretch where
  | place (here : List (List Char))
  /-- To a link in the directory `here`, with parts left behind it. -/
  | link (here : List (List Char)) (target : Path) (rest : List (List Char))
  | fault (e : PathFault)

def stretch (t : Tree) (here : List (List Char)) : List (List Char) → Stretch
  | [] => .place here
  | p :: ps =>
    match t.barrier? here with
    | some e => .fault e
    | none =>
      if p = ['.', '.'] then t.stretch here.dropLast ps
      else if (String.ofList p).utf8ByteSize > maxNameBytes then .fault .tooLong
      else match t.links.get? (Path.placeOf (here ++ [p])) with
        | some target => .link here target ps
        | none => t.stretch (here ++ [p]) ps

def start (here : List (List Char)) (p : Path) : List (List Char) :=
  if p.isAbsolute then [] else here

/-- Follows parts from the directory `here`, through so many symbolic links at most. -/
def follow (t : Tree) (links : Nat) (here parts : List (List Char)) :
    Except PathFault (List (List Char)) :=
  match t.stretch here parts with
  | .place here => .ok here
  | .fault e => .error e
  | .link here target rest =>
    match links with
    | 0 => .error .manyLinks
    | links + 1 => t.follow links (start here target) (target.parts ++ rest)

/-- The names on the way from the root to the place that a path leads to from the directory
`here`. -/
def locate (t : Tree) (here : List (List Char)) (p : Path) : Except PathFault (List (List Char)) :=
  if p.toString.utf8ByteSize > maxPathBytes then .error .tooLong
  else t.follow maxLinks (start here p) p.parts

end Tree

namespace Host

def standardDirectories : List String :=
  ["/", "/bin", "/dev", "/etc", "/home", "/lib", "/opt", "/proc", "/root", "/run", "/sbin",
    "/srv", "/sys", "/tmp", "/usr", "/usr/bin", "/usr/lib", "/usr/local", "/usr/sbin",
    "/usr/share", "/var", "/var/lib", "/var/log", "/var/tmp"]

/-- A host without files, but with a tree of directories that holds the current one. -/
def ofTree (cwd : Path) (env : Table String) : Host :=
  { tree := some { directories := cwd.place cwd :: cwd.passed cwd ++ standardDirectories }
    env := env
    cwd := cwd
    home := env.getD "HOME" "/root" }

/-- The host with one more file and the directories on the way to it. -/
def addFile (h : Host) (p : Path) (body : FileBody) : Host :=
  { h with
    files := h.files.insert (p.place h.cwd) body
    tree := h.tree.map fun t => { t with directories := p.passed h.cwd ++ t.directories } }

/-- The names on the way to the current directory. -/
def here (h : Host) : List (List Char) := Path.resolveParts h.cwd.parts

/-! ## Finding files -/

def place? (h : Host) (p : Path) : Except Failure (Option String) :=
  match h.tree with
  | none => .ok (some (p.place h.cwd))
  | some t =>
    if p.toString.toList.contains '\x00' then .ok none
    else match t.locate h.here p with
      | .ok there => .ok (some (Path.placeOf there))
      | .error .tooLong => .error .nameTooLong
      | .error .closed => .error .noPermission
      | .error _ => .ok none

def file? (h : Host) (p : Path) : Except Failure (Option FileBody) := do
  return (← h.place? p).bind h.files.get?

/-! ## Opening files -/

/-- The device that holds nothing: it can be opened, but it is no file. -/
def nullDevice : String := "/dev/null"

def absentReason : String := "No such file or directory"

def directoryReason : String := "Is a directory"

def reasonOf (h : Host) : PathFault → String
  | .noDirectory place =>
    if h.files.contains place || place == nullDevice then "Not a directory" else absentReason
  | .tooLong => "File name too long"
  | .manyLinks => "Too many levels of symbolic links"
  | .closed => "Permission denied"

def bodyAt (h : Host) (place : String) : FileBody :=
  (h.files.get? place).getD (.refused absentReason)

/-- Opens what a path leads to: a file, or the device that holds nothing. -/
def openFile (h : Host) (p : Path) : Except Failure FileBody :=
  match h.tree with
  | none => .ok (h.bodyAt (p.place h.cwd))
  | some t =>
    if p.toString.toList.contains '\x00' then .error .nullInName
    else match t.locate h.here p with
      | .error e => .ok (.refused (h.reasonOf e))
      | .ok there =>
        if t.isDirectory there then .ok (.refused directoryReason)
        else if Path.placeOf there == nullDevice then .ok (.bytes [])
        else .ok (h.bodyAt (Path.placeOf there))

/-! ## Home directories -/

/-- A directory without the slashes at its end; nothing is left of the root. -/
def dropSlashes (cs : List Char) : List Char :=
  (cs.reverse.dropWhile (· == '/')).reverse

def homeOf (h : Host) (user : List Char) : Except Failure String :=
  if user = [] then .ok h.home
  else if user.contains '\x00' then .error .nullInName
  else match h.homes.get? (String.ofList user) with
    | none => .error .noUser
    | some dir => .ok dir

/-- A path with a leading tilde replaced by a home directory. -/
def expandHome (h : Host) (p : Path) : Except Failure Path :=
  match p.root, p.parts with
  | .relative, ('~' :: user) :: rest =>
    match h.homeOf user with
    | .error e => .error e
    | .ok dir =>
      match dropSlashes dir.toList with
      | [] => .ok ⟨.single, rest⟩
      | '~' :: _ => .error .noUser
      | cs =>
        let q := Path.ofString (String.ofList cs)
        .ok ⟨q.root, q.parts ++ rest⟩
  | _, _ => .ok p

/-! ## Texts of files -/

def readText : FileBody → Except FileProblem (List Char)
  | .refused reason => .error (.unreadable reason)
  | .bytes bs =>
    match Text.decodeUtf8 bs with
    | .error e => .error (.notUtf8 e)
    | .ok cs => .ok (Text.unifyLineEnds cs)

end Host

end LayeredConfig
