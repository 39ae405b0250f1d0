/-!
# Escaped openers

`%%{` stands for a literal `%{`. No directive is ever read in it, so it survives expansion
untouched and is decoded once, at the end.
-/

namespace LayeredConfig.Directive

/-- Drops the first percent sign of every escaped opener, in one pass from the left. -/
def decodeEscapes : List Char → List Char
  | '%' :: '%' :: '{' :: cs => '%' :: '{' :: decodeEscapes cs
  | c :: cs => c :: decodeEscapes cs
  | [] => []

def unescape (text : String) : String :=
  String.ofList (decodeEscapes text.toList)

end LayeredConfig.Directive
