import LayeredConfig.Text.Space

/-!
# Statements of rc files

An rc file is a sequence of statements: blank lines and comments, assignments of a value to a
name, names that stand alone, and everything else, which is left to be read as a command. Reading
a statement always gets further in the text.
-/

namespace LayeredConfig.Rc

inductive Quoting where
  | single
  | double
  | none
  deriving DecidableEq, Repr

inductive Form where
  | blank
  /-- A name without a value. -/
  | bare (name : List Char)
  | assign (name value : List Char) (quoting : Quoting)
  | command
  deriving DecidableEq, Repr

/-- A statement with its text and the line on which the text starts. -/
structure Statement where
  form : Form
  text : List Char
  line : Nat
  deriving DecidableEq, Repr

def isLineBreak (c : Char) : Bool := c == '\r' || c == '\n'

/-- The number of line ends in a text; a carriage return with a line feed behind it is one. -/
def countLineEnds : List Char → Nat
  | '\r' :: '\n' :: cs => countLineEnds cs + 1
  | c :: cs => if isLineBreak c then countLineEnds cs + 1 else countLineEnds cs
  | [] => 0

/-! ## Pieces of a statement

A reader gives what it read and the text behind it, or the text at which it had to stop. -/

abbrev Reading := Except (List Char)

def skipBlanks (cs : List Char) : List Char := cs.dropWhile Text.isInlineSpace

def skipExport (cs : List Char) : List Char :=
  if "export".toList.isPrefixOf cs ∧ (cs.drop 6).head?.any Text.isInlineSpace then
    skipBlanks (cs.drop 6)
  else cs

def isNameChar (c : Char) : Bool := c != '=' && c != '#' && !Text.isSpace c

def readName (cs : List Char) : Reading (List Char × List Char) :=
  match cs with
  | '\'' :: ds =>
    match ds.takeWhile (· != '\''), ds.dropWhile (· != '\'') with
    | c :: name, _ :: rest => .ok (c :: name, rest)
    | _, _ => .error cs
  | [] => .error cs
  | c :: ds =>
    if isNameChar c then .ok (c :: ds.takeWhile isNameChar, ds.dropWhile isNameChar)
    else .error cs

/-- Reads up to the quote `q`, which a backslash keeps from ending the text; escapes are kept. -/
def readQuoted (q : Char) : List Char → Option (List Char × List Char)
  | [] => none
  | '\\' :: c :: cs => (readQuoted q cs).map (fun r => ('\\' :: c :: r.1, r.2))
  | c :: cs =>
    if c == q then some ([], cs)
    else if c == '\\' then none
    else (readQuoted q cs).map (fun r => (c :: r.1, r.2))

/-- Replaces every backslash and the character behind it for which `f` has a replacement. -/
def unescape (f : Char → Option Char) : List Char → List Char
  | '\\' :: c :: cs =>
    match f c with
    | some d => d :: unescape f cs
    | none => '\\' :: unescape f (c :: cs)
  | c :: cs => c :: unescape f cs
  | [] => []

def singleEscape? (c : Char) : Option Char :=
  if c == '\\' || c == '\'' then some c else none

def doubleEscape? : Char → Option Char
  | '\\' => some '\\'
  | '\'' => some '\''
  | '"' => some '"'
  | 'a' => some '\x07'
  | 'b' => some '\x08'
  | 'f' => some '\x0c'
  | 'n' => some '\n'
  | 'r' => some '\r'
  | 't' => some '\t'
  | 'v' => some '\x0b'
  | _ => none

/-- A text up to the white space in front of the first `#` that has some. -/
def dropComment : List Char → List Char
  | [] => []
  | c :: cs =>
    if Text.isSpace c && ((c :: cs).dropWhile Text.isSpace).head? == some '#' then []
    else c :: dropComment cs

def readValue (cs : List Char) : Reading ((List Char × Quoting) × List Char) :=
  let ds := skipBlanks cs
  if ds.head? = some '#' ∧ ds.length < cs.length then .ok (([], .none), ds)
  else match ds with
    | '\'' :: es =>
      match readQuoted '\'' es with
      | some (raw, rest) => .ok ((unescape singleEscape? raw, .single), rest)
      | none => .error ds
    | '"' :: es =>
      match readQuoted '"' es with
      | some (raw, rest) => .ok ((unescape doubleEscape? raw, .double), rest)
      | none => .error ds
    | _ =>
      let line := ds.takeWhile (!isLineBreak ·)
      .ok ((Text.trimRight (dropComment line), .none), ds.dropWhile (!isLineBreak ·))

def skipComment (cs : List Char) : List Char :=
  if (skipBlanks cs).head? = some '#' then (skipBlanks cs).dropWhile (!isLineBreak ·) else cs

def readLineEnd (cs : List Char) : Reading (List Char) :=
  match skipBlanks cs with
  | [] => .ok []
  | '\r' :: '\n' :: rest => .ok rest
  | '\r' :: rest => .ok rest
  | '\n' :: rest => .ok rest
  | _ => .error cs

/-- Skips the rest of a line with one character of its end. -/
def skipLine (cs : List Char) : List Char := (cs.dropWhile (!isLineBreak ·)).drop 1

/-! ## One statement -/

def finish (form : Form) (cs : List Char) : Reading (Form × List Char) :=
  (readLineEnd (skipComment cs)).map (fun rest => (form, rest))

def readRest (name : List Char) (cs : List Char) : Reading (Form × List Char) :=
  match skipBlanks cs with
  | '=' :: ds =>
    match readValue ds with
    | .ok ((value, quoting), rest) => finish (.assign name value quoting) rest
    | .error rest => .error rest
  | ds => finish (.bare name) ds

def readForm (cs : List Char) : Reading (Form × List Char) :=
  match skipExport cs with
  | '#' :: ds => finish .blank ('#' :: ds)
  | ds =>
    match readName ds with
    | .ok (name, rest) => readRest name rest
    | .error rest => .error rest

/-- Reads a statement; one that cannot be read is a command up to the end of its line. -/
def readStatement (cs : List Char) : Form × List Char :=
  match Text.trimLeft cs with
  | [] => (.blank, [])
  | c :: ds =>
    match readForm (c :: ds) with
    | .ok r => r
    | .error rest => (.command, skipLine rest)

/-! ## Reading gets further -/

theorem skipBlanks_suffix (cs : List Char) : skipBlanks cs <:+ cs :=
  List.dropWhile_suffix _

theorem skipExport_suffix (cs : List Char) : skipExport cs <:+ cs := by
  unfold skipExport
  split
  · exact (skipBlanks_suffix _).trans (List.drop_suffix 6 cs)
  · exact List.suffix_refl cs

theorem skipComment_suffix (cs : List Char) : skipComment cs <:+ cs := by
  unfold skipComment
  split
  · exact (List.dropWhile_suffix _).trans (skipBlanks_suffix cs)
  · exact List.suffix_refl cs

theorem skipLine_length {c : Char} {cs : List Char} :
    (skipLine (c :: cs)).length < (c :: cs).length := by
  unfold skipLine
  have h := (List.dropWhile_suffix (fun c => !isLineBreak c) (l := c :: cs)).length_le
  rw [List.length_drop]
  cases hd : (c :: cs).dropWhile (fun c => !isLineBreak c) with
  | nil => simp
  | cons d ds =>
    rw [hd] at h
    simp only [List.length_cons] at h ⊢
    omega

theorem readQuoted_suffix {q : Char} {cs raw rest : List Char}
    (h : readQuoted q cs = some (raw, rest)) : rest <:+ cs := by
  fun_induction readQuoted q cs generalizing raw rest with
  | case1 => simp at h
  | case2 c cs ih =>
    obtain ⟨⟨r, s⟩, hr, he⟩ := Option.map_eq_some_iff.1 h
    simp only [Prod.mk.injEq] at he
    obtain ⟨-, rfl⟩ := he
    exact (ih hr).trans ((List.suffix_cons c cs).trans (List.suffix_cons _ _))
  | case3 c cs _ hc =>
    simp only [Option.some.injEq, Prod.mk.injEq] at h
    obtain ⟨-, rfl⟩ := h
    exact List.suffix_cons c cs
  | case4 => simp at h
  | case5 c cs _ _ _ ih =>
    obtain ⟨⟨r, s⟩, hr, he⟩ := Option.map_eq_some_iff.1 h
    simp only [Prod.mk.injEq] at he
    obtain ⟨-, rfl⟩ := he
    exact (ih hr).trans (List.suffix_cons c cs)

theorem readName_length {cs name rest : List Char}
    (h : readName cs = .ok (name, rest)) : rest.length < cs.length := by
  unfold readName at h
  split at h
  · rename_i ds
    split at h
    · rename_i hd
      simp only [Except.ok.injEq, Prod.mk.injEq] at h
      obtain ⟨-, rfl⟩ := h
      have hs := (List.dropWhile_suffix (fun c => c != '\'') (l := ds)).length_le
      rw [hd] at hs
      simp only [List.length_cons] at hs ⊢
      omega
    · simp at h
  · simp at h
  · rename_i c ds _
    split at h
    · simp only [Except.ok.injEq, Prod.mk.injEq] at h
      obtain ⟨-, rfl⟩ := h
      have hs := (List.dropWhile_suffix isNameChar (l := ds)).length_le
      simp only [List.length_cons]
      omega
    · simp at h

theorem readName_stop {cs ds : List Char} (h : readName cs = .error ds) : ds = cs := by
  unfold readName at h
  grind

theorem readValue_suffix {cs rest : List Char} {v : List Char × Quoting}
    (h : readValue cs = .ok (v, rest)) : rest <:+ cs := by
  have hb := skipBlanks_suffix cs
  unfold readValue at h
  simp only at h
  split at h
  · simp only [Except.ok.injEq, Prod.mk.injEq] at h
    exact h.2 ▸ hb
  · split at h
    · rename_i es he
      split at h
      · rename_i hq
        simp only [Except.ok.injEq, Prod.mk.injEq] at h
        obtain ⟨-, rfl⟩ := h
        rw [he] at hb
        exact (readQuoted_suffix hq).trans ((List.suffix_cons _ _).trans hb)
      · simp at h
    · rename_i es he
      split at h
      · rename_i hq
        simp only [Except.ok.injEq, Prod.mk.injEq] at h
        obtain ⟨-, rfl⟩ := h
        rw [he] at hb
        exact (readQuoted_suffix hq).trans ((List.suffix_cons _ _).trans hb)
      · simp at h
    · simp only [Except.ok.injEq, Prod.mk.injEq] at h
      exact h.2 ▸ (List.dropWhile_suffix _).trans hb

theorem readValue_stop {cs ds : List Char} (h : readValue cs = .error ds) : ds <:+ cs := by
  have hb := skipBlanks_suffix cs
  unfold readValue at h
  simp only at h
  split at h
  · simp at h
  · split at h
    · split at h
      · simp at h
      · simp only [Except.error.injEq] at h
        exact h ▸ hb
    · split at h
      · simp at h
      · simp only [Except.error.injEq] at h
        exact h ▸ hb
    · simp at h

theorem readLineEnd_suffix {cs rest : List Char} (h : readLineEnd cs = .ok rest) :
    rest <:+ cs := by
  have hb := skipBlanks_suffix cs
  unfold readLineEnd at h
  split at h
  · simp only [Except.ok.injEq] at h
    exact h ▸ List.nil_suffix
  · rename_i he
    simp only [Except.ok.injEq] at h
    rw [he, h] at hb
    exact (List.suffix_cons _ _).trans ((List.suffix_cons _ _).trans hb)
  · rename_i he
    simp only [Except.ok.injEq] at h
    rw [he, h] at hb
    exact (List.suffix_cons _ _).trans hb
  · rename_i he
    simp only [Except.ok.injEq] at h
    rw [he, h] at hb
    exact (List.suffix_cons _ _).trans hb
  · simp at h

theorem readLineEnd_stop {cs ds : List Char} (h : readLineEnd cs = .error ds) : ds = cs := by
  unfold readLineEnd at h
  grind

theorem finish_suffix {form form' : Form} {cs rest : List Char}
    (h : finish form cs = .ok (form', rest)) : rest <:+ skipComment cs := by
  unfold finish at h
  cases hr : readLineEnd (skipComment cs) with
  | error ds => simp [hr, Except.map] at h
  | ok r =>
    simp only [hr, Except.map, Except.ok.injEq, Prod.mk.injEq] at h
    exact h.2 ▸ readLineEnd_suffix hr

theorem finish_stop {form : Form} {cs ds : List Char}
    (h : finish form cs = .error ds) : ds = skipComment cs := by
  unfold finish at h
  cases hr : readLineEnd (skipComment cs) with
  | error d =>
    simp only [hr, Except.map, Except.error.injEq] at h
    exact h ▸ readLineEnd_stop hr
  | ok r => simp [hr, Except.map] at h

theorem readRest_suffix {name cs rest : List Char} {form : Form}
    (h : readRest name cs = .ok (form, rest)) : rest <:+ cs := by
  have hb := skipBlanks_suffix cs
  unfold readRest at h
  split at h
  · rename_i ds he
    rw [he] at hb
    split at h
    · rename_i hv
      exact (finish_suffix h).trans ((skipComment_suffix _).trans
        ((readValue_suffix hv).trans ((List.suffix_cons _ _).trans hb)))
    · simp at h
  · exact (finish_suffix h).trans ((skipComment_suffix _).trans hb)

theorem readRest_stop {name cs ds : List Char}
    (h : readRest name cs = .error ds) : ds <:+ cs := by
  have hb := skipBlanks_suffix cs
  unfold readRest at h
  split at h
  · rename_i es he
    rw [he] at hb
    split at h
    · rename_i hv
      exact finish_stop h ▸ (skipComment_suffix _).trans
        ((readValue_suffix hv).trans ((List.suffix_cons _ _).trans hb))
    · rename_i hv
      simp only [Except.error.injEq] at h
      exact h ▸ (readValue_stop hv).trans ((List.suffix_cons _ _).trans hb)
  · exact finish_stop h ▸ (skipComment_suffix _).trans hb

theorem skipComment_length (cs : List Char) :
    (skipComment ('#' :: cs)).length < ('#' :: cs).length := by
  have h := (List.dropWhile_suffix (fun c => !isLineBreak c) (l := cs)).length_le
  have hb : skipBlanks ('#' :: cs) = '#' :: cs := by
    simp [skipBlanks, Text.isInlineSpace, Text.isSpace]
  have hd : ('#' :: cs).dropWhile (fun c => !isLineBreak c) =
      cs.dropWhile (fun c => !isLineBreak c) := by
    simp [isLineBreak]
  simp only [skipComment, hb, List.head?_cons, if_true, hd, List.length_cons]
  omega

theorem readStatement_length {c : Char} {cs : List Char} :
    (readStatement (c :: cs)).2.length < (c :: cs).length := by
  have ht := (List.dropWhile_suffix Text.isSpace (l := c :: cs)).length_le
  unfold readStatement Text.trimLeft
  cases hd : (c :: cs).dropWhile Text.isSpace with
  | nil => simp
  | cons d ds =>
    rw [hd] at ht
    have he := (skipExport_suffix (d :: ds)).length_le
    simp only
    cases hf : readForm (d :: ds) with
    | ok r =>
      obtain ⟨form, rest⟩ := r
      simp only
      unfold readForm at hf
      split at hf
      · rename_i es hes
        rw [hes] at he
        have h1 := (finish_suffix hf).length_le
        have h2 := skipComment_length es
        omega
      · split at hf
        · rename_i hn
          have h1 := (readRest_suffix hf).length_le
          have h2 := readName_length hn
          omega
        · simp at hf
    | error rest =>
      simp only
      have hlt : rest.length ≤ (d :: ds).length := by
        unfold readForm at hf
        split at hf
        · rename_i es hes
          rw [hes] at he
          rw [finish_stop hf]
          have h2 := skipComment_length es
          omega
        · split at hf
          · rename_i hn
            have h1 := (readRest_stop hf).length_le
            have h2 := readName_length hn
            omega
          · rename_i hn
            simp only [Except.error.injEq] at hf
            rw [← hf, readName_stop hn]
            exact he
      cases rest with
      | nil => simp [skipLine]
      | cons e es =>
        have : (skipLine (e :: es)).length < (e :: es).length := skipLine_length
        omega

/-! ## All statements -/

def consumed (cs rest : List Char) : List Char := cs.take (cs.length - rest.length)

def statementsFrom (line : Nat) (cs : List Char) : List Statement :=
  match cs with
  | [] => []
  | c :: ds =>
    let r := readStatement (c :: ds)
    let text := consumed (c :: ds) r.2
    ⟨r.1, text, line⟩ :: statementsFrom (line + countLineEnds text) r.2
termination_by cs.length
decreasing_by exact readStatement_length

/-- The statements of a text; a byte order mark in front is none of it. -/
def statements (cs : List Char) : List Statement :=
  match cs with
  | '\ufeff' :: ds => statementsFrom 1 ds
  | ds => statementsFrom 1 ds

namespace Statement

/-- The line of the first character other than white space. -/
def startLine (s : Statement) : Nat :=
  s.line + Text.countLineFeeds (s.text.takeWhile Text.isSpace)

/-- The value is taken as it stands if a single quote is the first character other than a blank
behind the first equals sign. -/
def isLiteral (s : Statement) : Bool :=
  let behind := (s.text.dropWhile (· != '=')).drop 1
  (behind.dropWhile (fun c => c == ' ' || c == '\t')).head? == some '\''

end Statement

end LayeredConfig.Rc
