import LayeredConfig.Journal
import LayeredConfig.Text.Lowercase
import LayeredConfig.Text.Space

/-!
# Redundancy settings

A redundancy setting says how redundant entries of a category are reported. Its text is one rule,
optionally followed by a second one: `no`, `false`, or a scope `some` or `all` with an optional
restriction to installed or uninstalled items, and an optional sign in front. The rules are kept
as one bit per category in two sets of masks. A text that is no such setting means
`all-installed` without a second rule.
-/

namespace LayeredConfig.Redundancy

/-- A set of categories, one bit each. -/
abbrev Categories := BitVec 17

structure Rules where
  /-- The category is reported at all. -/
  reported : Categories := 0
  /-- It is reported only if every entry is redundant. -/
  whole : Categories := 0
  /-- The restriction by `installed` applies. -/
  restricted : Categories := 0
  /-- The restriction is to installed items; to uninstalled ones if not. -/
  installed : Categories := 0
  /-- A sign restricts the rule. -/
  hasSign : Categories := 0
  /-- The sign is a plus. -/
  positive : Categories := 0
  deriving DecidableEq, Repr

structure Pair where
  first : Rules := {}
  second : Rules := {}
  deriving DecidableEq, Repr

def assign (mask c : Categories) (on : Bool) : Categories :=
  if on then mask ||| c else mask &&& ~~~c

/-- The sign in front of a rule, `true` for a plus, and the rule without it. -/
def splitSign : List Char → Option Bool × List Char
  | '+' :: cs => (some true, cs)
  | '-' :: cs => (some false, cs)
  | cs => (none, cs)

inductive Rule where
  | off
  /-- Report, if `whole` only when all entries are redundant; `installed` is the restriction. -/
  | report (whole : Bool) (installed : Option Bool)
  deriving DecidableEq, Repr

def ruleWords : List (String × Rule) := [
  ("no", .off), ("false", .off),
  ("some", .report false none), ("some-installed", .report false (some true)),
  ("some-uninstalled", .report false (some false)),
  ("all", .report true none), ("all-installed", .report true (some true)),
  ("all-uninstalled", .report true (some false))]

def Rule.ofWord? (word : String) : Option Rule :=
  ruleWords.lookup word

namespace Rules

def enterSign (c : Categories) (sign : Option Bool) (r : Rules) : Rules :=
  match sign with
  | none => r
  | some plus => { r with hasSign := assign r.hasSign c true, positive := assign r.positive c plus }

def enter (c : Categories) (rule : Rule) (r : Rules) : Rules :=
  match rule with
  | .off => { r with reported := assign r.reported c false }
  | .report whole installed =>
    let r := { r with reported := assign r.reported c true, whole := assign r.whole c whole }
    match installed with
    | none => { r with restricted := assign r.restricted c false }
    | some inst =>
      { r with restricted := assign r.restricted c true, installed := assign r.installed c inst }

def clearSign (c : Categories) (r : Rules) : Rules :=
  { r with hasSign := assign r.hasSign c false }

/-- Records a word as the rule of the categories `c`, or no rule at all. The answer says whether
the word is a rule; its sign is recorded even if it is not. -/
def apply (word : Option String) (c : Categories) (r : Rules) : Bool × Rules :=
  let r := r.clearSign c
  match word with
  | none => (true, r.enter c .off)
  | some w =>
    let (sign, rest) := splitSign w.toList
    let r := r.enterSign c sign
    match Rule.ofWord? (Text.lowerAscii (String.ofList rest)) with
    | none => (false, r)
    | some rule => (true, r.enter c rule)

end Rules

def separators : List String := ["or", "||", "|"]

/-- The words after the first rule without the separator they may start with. -/
def dropSeparator : List String → List String
  | w :: ws => if separators.contains (Text.lowerAscii w) then ws else w :: ws
  | [] => []

/-- Records the words after the first rule; none at all mean no second rule. -/
def applySecond (words : List String) (c : Categories) (r : Rules) : Bool × Rules :=
  if words.isEmpty then (true, (r.apply none c).2)
  else match dropSeparator words with
    | [] => (false, r)
    | w :: ws =>
      let (ok, r) := r.apply (some w) c
      (ok && ws.isEmpty, r)

/-- Records the words of a setting; the answer says whether they are one. -/
def applyWords (words : List String) (c : Categories) (p : Pair) : Bool × Pair :=
  match words with
  | [] => (false, p)
  | w :: ws =>
    let (ok, first) := p.first.apply (some w) c
    if ok then
      let (ok, second) := applySecond ws c p.second
      (ok, ⟨first, second⟩)
    else (false, { p with first := first })

def fallback : String := "all-installed"

/-- Records a setting; `key` names it in the warning that a broken one gives. -/
def parse (value : String) (c : Categories) (p : Pair) (key : String) : Pair × Journal :=
  let (ok, p) := applyWords ((Text.words value.toList).map String.ofList) c p
  if ok then (p, [])
  else
    (⟨(p.first.apply (some fallback) c).2, (p.second.apply none c).2⟩,
      [.ruleUnknown key value fallback])

end LayeredConfig.Redundancy
