/-!
# White space, lines and words

The two character classes every reader of this library shares: white space, and the characters
that end a line. Trimming, splitting into words and the first line are defined from them.
-/

namespace LayeredConfig.Text

/-- White space: the ASCII blanks and separators, and the Unicode spaces and line separators. -/
def isSpace (c : Char) : Bool :=
  let n := c.toNat
  (9 ≤ n && n ≤ 13) || (28 ≤ n && n ≤ 32) || n == 0x85 || n == 0xa0 || n == 0x1680 ||
    (0x2000 ≤ n && n ≤ 0x200a) || n == 0x2028 || n == 0x2029 || n == 0x202f || n == 0x205f ||
    n == 0x3000

/-- The characters that end a line of running text. -/
def isLineEnd (c : Char) : Bool :=
  let n := c.toNat
  (10 ≤ n && n ≤ 13) || (28 ≤ n && n ≤ 30) || n == 0x85 || n == 0x2028 || n == 0x2029

/-- White space that stays on its line as far as carriage return and line feed are concerned. -/
def isInlineSpace (c : Char) : Bool :=
  isSpace c && c != '\r' && c != '\n'

def trimLeft (cs : List Char) : List Char :=
  cs.dropWhile isSpace

def trimRight (cs : List Char) : List Char :=
  (cs.reverse.dropWhile isSpace).reverse

def trim (cs : List Char) : List Char :=
  trimRight (trimLeft cs)

def firstLine (cs : List Char) : List Char :=
  cs.takeWhile (fun c => !isLineEnd c)

def pushFirst (c : Char) : List (List Char) → List (List Char)
  | [] => [[c]]
  | w :: ws => (c :: w) :: ws

/-- The maximal runs of characters other than white space, from left to right. -/
def words : List Char → List (List Char)
  | [] => []
  | c :: cs =>
    if isSpace c then words cs
    else match cs with
      | [] => [[c]]
      | d :: _ => if isSpace d then [c] :: words cs else pushFirst c (words cs)

def countLineFeeds (cs : List Char) : Nat :=
  cs.countP (· == '\n')

/-- The last character of a text, if it has one, satisfies `p`. -/
def endsIn (p : Char → Bool) (cs : List Char) : Bool :=
  match cs.getLast? with
  | some c => p c
  | none => false

end LayeredConfig.Text
