/-!
# Words of a command

A command is split into words at blanks and line ends, as a shell does it: quotes join, a backslash
takes the next character as it is, and a `#` outside quotes starts a comment.
-/

namespace LayeredConfig.Rc

inductive Place where
  | between
  | comment
  | word
  | quoted (q : Char)
  /-- Behind a backslash, perhaps between quotes. -/
  | escaped (q : Option Char)

def isBlank (c : Char) : Bool := c == ' ' || c == '\t' || c == '\r' || c == '\n'

def placeAfter? (c : Char) : Option Place :=
  if isBlank c then some .between
  else if c == '#' then some .comment
  else if c == '\'' || c == '"' then some (.quoted c)
  else if c == '\\' then some (.escaped none)
  else none

def Place.endsWord : Place → Bool
  | between | comment => true
  | _ => false

def Place.afterEscape : Option Char → Place
  | none => word
  | some q => quoted q

/-- The words of a text, given the place in it and the word read so far. An open quote or escape
at the end is a fault. -/
def splitFrom : Place → (sofar : List Char) → List Char → Option (List (List Char))
  | .between, _, [] | .comment, _, [] => some []
  | .word, w, [] => some [w]
  | .quoted _, _, [] | .escaped _, _, [] => none
  | .between, _, c :: cs =>
    match placeAfter? c with
    | some p => splitFrom p [] cs
    | none => splitFrom .word [c] cs
  | .comment, _, c :: cs => splitFrom (if c == '\n' then .between else .comment) [] cs
  | .word, w, c :: cs =>
    match placeAfter? c with
    | some p => if p.endsWord then (splitFrom p [] cs).map (w :: ·) else splitFrom p w cs
    | none => splitFrom .word (w ++ [c]) cs
  | .quoted q, w, c :: cs =>
    if c == q then splitFrom .word w cs
    else if c == '\\' && q == '"' then splitFrom (.escaped (some q)) w cs
    else splitFrom (.quoted q) (w ++ [c]) cs
  | .escaped q, w, c :: cs =>
    let kept := if q.any (fun q => c != '\\' && c != q) then ['\\', c] else [c]
    splitFrom (.afterEscape q) (w ++ kept) cs

def splitWords (cs : List Char) : Option (List (List Char)) := splitFrom .between [] cs

end LayeredConfig.Rc
