import LayeredConfig.Document.Date
import LayeredConfig.Number.Reading
import LayeredConfig.Number.Text
import LayeredConfig.Text.Quoted

/-!
# Document values

The values that a structured document can hold, when two of them are the same key, and their two
texts: the display, which leaves a text as it is, and the literal, which quotes it. What is not a
number is equal to nothing, so as a key it is known by where it comes from.
-/

namespace LayeredConfig.Document

inductive Value where
  | null
  | bool (b : Bool)
  | int (i : Int)
  | float (x : Float)
  /-- Not a number, from the one place that all documents share or from one of its own. -/
  | nan (source : Option Nat)
  | text (s : String)
  | bytes (bs : List UInt8)
  | date (d : Date)
  | moment (t : Moment)
  | list (vs : List Value)
  /-- An entry of an ordered mapping. -/
  | pair (k v : Value)
  | set (vs : List Value)
  | mapping (es : List (Value × Value))
  /-- A collection met again inside itself. -/
  | again (isMapping : Bool)

namespace Value

def ofFloat (source : Option Nat) (x : Float) : Value :=
  if x.isNaN then nan source else float x

/-- The integer a number or a truth value counts as. -/
def integer? : Value → Option Int
  | bool b => some (if b then 1 else 0)
  | int i => some i
  | float x => Number.toInteger? x
  | _ => none

/-- Two keys are the same. Numbers and truth values are compared by value. -/
def sameKey : Value → Value → Bool
  | null, null => true
  | text s, text t => s == t
  | bytes s, bytes t => s == t
  | date d, date e => d == e
  | moment t, moment u => t.same u
  | float x, float y => x == y
  | nan m, nan n => m == n
  | v, w =>
    match v.integer?, w.integer? with
    | some i, some j => i == j
    | _, _ => false

/-- The value counts as false: nothing, zero, or something empty. -/
def isFalsy : Value → Bool
  | null => true
  | bool b => !b
  | int i => i == 0
  | float x => x == 0
  | text s => s == ""
  | bytes bs => bs.isEmpty
  | list vs | set vs => vs.isEmpty
  | mapping es => es.isEmpty
  | _ => false

/-- Gives a key a value; a key that is there already keeps its place and its spelling. -/
def putEntry {α : Type} (k : Value) (v : α) : List (Value × α) → List (Value × α)
  | [] => [(k, v)]
  | (k', v') :: es => if k'.sameKey k then (k', v) :: es else (k', v') :: putEntry k v es

def ofEntries {α : Type} (es : List (Value × α)) : List (Value × α) :=
  es.foldl (fun acc e => putEntry e.1 e.2 acc) []

def find? {α : Type} (key : String) (es : List (Value × α)) : Option α :=
  (es.find? (fun e => e.1.sameKey (text key))).map (·.2)

/-! ## Texts -/

def enclose (opening closing : Char) (pieces : List (List Char)) : List Char :=
  opening :: [',', ' '].intercalate pieces ++ [closing]

mutual

def literal : Value → Except Text.NumeralFault (List Char)
  | null => .ok "None".toList
  | bool true => .ok "True".toList
  | bool false => .ok "False".toList
  | int i => Text.ofInteger i
  | float x => .ok (Number.text x)
  | nan _ => .ok "nan".toList
  | text s => .ok (Text.quoted s.toList)
  | bytes bs => .ok (Text.quotedBytes bs)
  | date d => .ok d.literal
  | moment t => .ok t.literal
  | list vs => return enclose '[' ']' (← literals vs)
  | pair k v => return enclose '(' ')' [← literal k, ← literal v]
  | set [] => .ok "set()".toList
  | set vs => return enclose '{' '}' (← literals vs)
  | mapping es => return enclose '{' '}' (← entryLiterals es)
  | again isMapping => .ok (if isMapping then enclose '{' '}' ["...".toList] else "[...]".toList)

def literals : List Value → Except Text.NumeralFault (List (List Char))
  | [] => .ok []
  | v :: vs => return (← literal v) :: (← literals vs)

def entryLiterals : List (Value × Value) → Except Text.NumeralFault (List (List Char))
  | [] => .ok []
  | (k, v) :: es => do
    let a ← literal k
    let b ← literal v
    return (a ++ ':' :: ' ' :: b) :: (← entryLiterals es)

end

def display : Value → Except Text.NumeralFault String
  | text s => .ok s
  | date d => .ok (String.ofList d.text)
  | moment t => .ok (String.ofList t.text)
  | v => (literal v).map String.ofList

/-- The value as the text of a setting: nothing is empty, and truth values are in lower case. -/
def settingText : Value → Except Text.NumeralFault String
  | null => .ok ""
  | bool b => .ok (if b then "true" else "false")
  | v => v.display

end Value

end LayeredConfig.Document
