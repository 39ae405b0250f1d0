import LayeredConfig.Text.Emoji.Flag
import LayeredConfig.Text.Emoji.Person
import LayeredConfig.Text.Emoji.Symbol
import LayeredConfig.Text.Lowercase
import LayeredConfig.Text.Space

/-!
# Emoji codes

A code is the name of a picture between colons, in any case and without white space. The name may
end in a word that asks for the picture as text or in colour. A code whose name is unknown stays
as it is, and what it covers is part of no other code.
-/

namespace LayeredConfig.Text.Emoji

def named? (name : String) : Option (List Char) :=
  ((symbols.lookup name).map (·.toList)).or ((person? name).or ((flag? name).or (flagFor? name)))

def forms : List (String × Char) := [("-emoji", pictureSelector), ("-text", '\ufe0e')]

/-- A code without its colons as a name and the selector that its ending asks for. -/
def splitForm (code : List Char) : List Char × List Char :=
  (forms.findSome? (fun f =>
    (dropEnding? f.1.toList code).map (fun name => (name, [f.2])))).getD (code, [])

def ofCode? (code : List Char) : Option (List Char) :=
  let (name, selector) := splitForm code
  (named? (String.ofList (lower name))).map (· ++ selector)

def codeAt? (cs : List Char) : Option (List Char) :=
  let code := cs.takeWhile (· != ':')
  if code.any isSpace || code.length == cs.length then none else some code

/-- Replaces the codes in a text; the next `skip` characters belong to one. -/
def replaceCodes : (skip : Nat) → List Char → List Char
  | _, [] => []
  | n + 1, _ :: cs => replaceCodes n cs
  | 0, c :: cs =>
    match if c == ':' then codeAt? cs else none with
    | none => c :: replaceCodes 0 cs
    | some code =>
      (ofCode? code).getD (':' :: code ++ [':']) ++ replaceCodes (code.length + 1) cs

def replace (cs : List Char) : List Char := replaceCodes 0 cs

end LayeredConfig.Text.Emoji
