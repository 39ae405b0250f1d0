import LayeredConfig.Text.CellWidth
import LayeredConfig.Text.Emoji

/-!
# Texts on the console

Results are printed as they are, save for terminal codes: an escape character and an opening
bracket, then parameters, then intermediate characters, then one that ends the code.

Messages pass through a layer that knows markup in square brackets and emoji codes. Text that looks
like markup is protected beforehand, but four effects remain: a backslash in front of any other
opening bracket is lost, a single backslash at the end is doubled, emoji codes become pictures, and
some control characters are dropped. Tabs become spaces up to the next column that is a multiple of
eight.
-/

namespace LayeredConfig.CommandLine

/-! ## Results -/

def isCodeParameter (c : Char) : Bool := '0' ≤ c && c ≤ '?'

def isCodeIntermediate (c : Char) : Bool := ' ' ≤ c && c ≤ '/'

def endsCode (c : Char) : Bool := '@' ≤ c && c ≤ '~'

def codeLength? (cs : List Char) : Option Nat :=
  let parameters := cs.takeWhile isCodeParameter
  let rest := cs.drop parameters.length
  let intermediates := rest.takeWhile isCodeIntermediate
  if (rest.drop intermediates.length).head?.any endsCode then
    some (parameters.length + intermediates.length + 1)
  else none

/-- Drops terminal codes; the next `skip` characters belong to one. -/
def dropCodes : (skip : Nat) → List Char → List Char
  | _, [] => []
  | n + 1, _ :: cs => dropCodes n cs
  | 0, '\x1b' :: '[' :: cs =>
    match codeLength? cs with
    | some n => dropCodes n cs
    | none => '\x1b' :: '[' :: dropCodes 0 cs
  | 0, c :: cs => c :: dropCodes 0 cs

def shownResult (text : String) : String := String.ofList (dropCodes 0 text.toList)

/-! ## Messages -/

def isTagStart (c : Char) : Bool :=
  ('a' ≤ c && c ≤ 'z') || c == '#' || c == '/' || c == '@'

def tagLength? (cs : List Char) : Option Nat :=
  match cs with
  | c :: rest =>
    let body := rest.takeWhile (fun d => d != '[' && d != ']')
    if isTagStart c && rest[body.length]? == some ']' then some (body.length + 2) else none
  | [] => none

/-- The pieces of a message: the texts between tags, and tags with and without the backslashes in
front of them. The piece that has been started holds `piece`, the last character first; the next
`skip` characters belong to a tag. -/
def pieces (piece : List Char) : (skip : Nat) → List Char → List (List Char)
  | _, [] => [piece.reverse]
  | 1, c :: cs => (c :: piece).reverse :: pieces [] 0 cs
  | n + 2, c :: cs => pieces (c :: piece) (n + 1) cs
  | 0, c :: cs =>
    match if c == '[' then tagLength? cs else none with
    | none => pieces (c :: piece) 0 cs
    | some n =>
      let slashes := piece.takeWhile (· == '\\')
      (piece.drop slashes.length).reverse :: slashes :: pieces [c] n cs

def dropBracketEscapes : List Char → List Char
  | [] => []
  | '\\' :: '[' :: cs => '[' :: dropBracketEscapes cs
  | c :: cs => c :: dropBracketEscapes cs

def doubleFinalBackslash (cs : List Char) : List Char :=
  match cs.reverse with
  | '\\' :: '\\' :: _ => cs
  | '\\' :: _ => cs ++ ['\\']
  | _ => cs

/-- The control characters that are not shown: bell, backspace, vertical tab, form feed and
carriage return. -/
def isDropped (c : Char) : Bool :=
  let n := c.toNat
  n == 7 || n == 8 || n == 11 || n == 12 || n == 13

def shownPiece (cs : List Char) : List Char :=
  (Text.Emoji.replace (dropBracketEscapes cs)).filter (!isDropped ·)

/-- The text in front of a tab with the spaces that the tab becomes, one at least. -/
def padToTab (cs : List Char) : List Char :=
  let width := Text.cells (cs ++ [' '])
  cs ++ ' ' :: List.replicate ((8 - width % 8) % 8) ' '

/-- Replaces tabs by spaces; `part` is the text behind the last tab or line feed, the last character
first. What ends with a tab fills whole steps of eight, so each part is measured by itself. -/
def expandTabs (part : List Char) : List Char → List Char
  | [] => part.reverse
  | '\n' :: cs => part.reverse ++ '\n' :: expandTabs [] cs
  | '\t' :: cs => padToTab part.reverse ++ expandTabs [] cs
  | c :: cs => expandTabs (c :: part) cs

def shownMessage (label message : String) : String :=
  let shown := (pieces [] 0 (doubleFinalBackslash message.toList)).flatMap shownPiece
  String.ofList (expandTabs [] (label.toList ++ shown) ++ ['\n'])

end LayeredConfig.CommandLine
