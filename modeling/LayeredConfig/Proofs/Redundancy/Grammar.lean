import LayeredConfig.Proofs.Redundancy.Edit
import LayeredConfig.Proofs.Text.Lowercase

/-!
# What a redundancy setting says

A setting is one rule, perhaps followed by a second one, perhaps with a separator between the two. A
rule is `no` or `false`, or a scope with an optional restriction, in any case, with an optional sign
in front.

* `Says`: a word is a rule with this meaning. `Reads`: the words of a setting have these meanings.
* `says_iff`: `readWord` finds the meaning of a word, which therefore has one only.
* `reads_iff`: the words of a setting, by those for its first and its second rule.
-/

namespace LayeredConfig.Redundancy

/-! ## The grammar -/

def Rule.spellings : Rule → List String
  | .off => ["no", "false"]
  | .report whole installed =>
    [(if whole then "all" else "some") ++
      match installed with
      | none => ""
      | some true => "-installed"
      | some false => "-uninstalled"]

def signText : Option Bool → List Char
  | none => []
  | some true => ['+']
  | some false => ['-']

/-- The word is a rule in any case, with its sign in front. -/
def Says (word : String) (m : Meaning) : Prop :=
  ∃ text, word.toList = signText m.sign ++ text ∧
    String.ofList (Text.lower text) ∈ m.rule.spellings

def Separates (word : String) : Prop := String.ofList (Text.lower word.toList) ∈ separators

def Meaning.absent : Meaning := ⟨none, .off⟩

/-- The words are those of a setting, with these meanings of its first and its second rule. -/
inductive Reads : List String → Meaning → Meaning → Prop
  | single {word : String} {m : Meaning} (h : Says word m) : Reads [word] m .absent
  | adjacent {word word' : String} {m m' : Meaning} (h : Says word m) (h' : Says word' m') :
      Reads [word, word'] m m'
  | separated {word sep word' : String} {m m' : Meaning} (h : Says word m) (hsep : Separates sep)
      (h' : Says word' m') : Reads [word, sep, word'] m m'

/-! ## Words -/

def readWord (word : String) : Option Bool × Option Rule :=
  ((splitSign word.toList).1,
    Rule.ofWord? (Text.lowerAscii (String.ofList (splitSign word.toList).2)))

theorem Rule.ofWord?_eq_some {word : String} {rule : Rule} :
    Rule.ofWord? word = some rule ↔ word ∈ rule.spellings := by
  constructor
  · have hwords : ∀ e ∈ ruleWords, e.1 ∈ e.2.spellings := by decide
    intro h
    obtain ⟨front, back, heq, -⟩ := List.lookup_eq_some_iff.1 h
    exact hwords (word, rule) (heq ▸ List.mem_append_right front List.mem_cons_self)
  · have hspellings : ∀ rule ∈ ruleWords.map (·.2), ∀ word ∈ rule.spellings,
        Rule.ofWord? word = some rule := by decide
    refine hspellings rule ?_ word
    rcases rule with _ | ⟨_ | _, _ | _ | _⟩ <;> decide

theorem Rule.spellings_plain (rule : Rule) : ∀ word ∈ rule.spellings,
    (∀ c ∈ word.toList, Text.IsPlainLetter c) ∧ word.toList.head? ≠ some '+' ∧
      word.toList.head? ≠ some '-' := by
  have hall : ∀ word ∈ rule.spellings,
      word.toList.all (fun c => decide (Text.IsPlainLetter c)) = true ∧
        word.toList.head? ≠ some '+' ∧ word.toList.head? ≠ some '-' := by
    rcases rule with _ | ⟨_ | _, _ | _ | _⟩ <;> decide
  exact fun word hword => ⟨Text.plain_of_all (hall word hword).1, (hall word hword).2⟩

theorem separators_plain : ∀ word ∈ separators, ∀ c ∈ word.toList, Text.IsPlainLetter c := by
  have hall : ∀ word ∈ separators,
      word.toList.all (fun c => decide (Text.IsPlainLetter c)) = true := by decide
  exact fun word hword => Text.plain_of_all (hall word hword)

theorem lower_mem_iff {words : List String} (h : ∀ word ∈ words, ∀ c ∈ word.toList,
    Text.IsPlainLetter c) (cs : List Char) :
    String.ofList (Text.lower cs) ∈ words ↔ Text.lowerAscii (String.ofList cs) ∈ words := by
  have heq : ∀ word ∈ words,
      (String.ofList (Text.lower cs) = word ↔ Text.lowerAscii (String.ofList cs) = word) := by
    intro word hword
    have hlower : Text.lower cs = word.toList ↔ cs.map Char.toLower = word.toList :=
      Text.lower_eq_iff (h word hword)
    rw [Text.lowerAscii, String.toList_ofList, ← String.ofList_toList (s := word),
      String.ofList_inj, String.ofList_inj]
    exact hlower
  constructor
  · exact fun hmem => (heq _ hmem).1 rfl ▸ hmem
  · exact fun hmem => (heq _ hmem).2 rfl ▸ hmem

theorem separates_iff {word : String} :
    Separates word ↔ separators.contains (Text.lowerAscii word) = true := by
  rw [Separates, lower_mem_iff separators_plain, String.ofList_toList, List.contains_iff_mem]

theorem splitSign_of_head {cs : List Char} (hplus : cs.head? ≠ some '+')
    (hminus : cs.head? ≠ some '-') : splitSign cs = (none, cs) := by
  unfold splitSign
  split
  · exact absurd rfl hplus
  · exact absurd rfl hminus
  · rfl

theorem splitSign_signText {sign : Option Bool} {text : List Char}
    (hplus : text.head? ≠ some '+') (hminus : text.head? ≠ some '-') :
    splitSign (signText sign ++ text) = (sign, text) := by
  rcases sign with _ | _ | _
  · exact splitSign_of_head hplus hminus
  · rfl
  · rfl

theorem signText_splitSign (cs : List Char) :
    signText (splitSign cs).1 ++ (splitSign cs).2 = cs := by
  unfold splitSign
  split <;> rfl

/-- What a word says is what is read. -/
theorem says_iff {word : String} {m : Meaning} :
    Says word m ↔ readWord word = (m.sign, some m.rule) := by
  obtain ⟨sign, rule⟩ := m
  have hplain := fun word hword => (rule.spellings_plain word hword).1
  constructor
  · rintro ⟨text, hword, hrule⟩
    have hascii := (lower_mem_iff hplain text).1 hrule
    obtain ⟨-, hplus, hminus⟩ := rule.spellings_plain _ hascii
    -- a sign is in lower case already, so the rule behind the sign does not start with another one
    have hhead : ∀ c : Char, c.toLower = c →
        (Text.lowerAscii (String.ofList text)).toList.head? ≠ some c → text.head? ≠ some c := by
      rintro c hc hne hhead
      refine hne ?_
      rw [Text.lowerAscii, String.toList_ofList, String.toList_ofList, List.head?_map, hhead,
        Option.map_some, hc]
    have hsplit : splitSign (signText sign ++ text) = (sign, text) :=
      splitSign_signText (hhead '+' rfl hplus) (hhead '-' rfl hminus)
    rw [readWord, hword, hsplit, Rule.ofWord?_eq_some.2 hascii]
  · intro h
    obtain ⟨hsign, hrule⟩ := Prod.mk.inj h
    refine ⟨(splitSign word.toList).2, ?_, ?_⟩
    · rw [← hsign, signText_splitSign]
    · exact (lower_mem_iff hplain _).2 (Rule.ofWord?_eq_some.1 hrule)

theorem exists_says_iff {word : String} :
    (∃ m, Says word m) ↔ (readWord word).2.isSome = true := by
  simp only [says_iff]
  constructor
  · rintro ⟨m, hm⟩
    rw [hm]
    rfl
  · intro h
    obtain ⟨rule, hrule⟩ := Option.isSome_iff_exists.1 h
    exact ⟨⟨(readWord word).1, rule⟩, Prod.ext rfl hrule⟩

theorem Says.not_separates {word : String} {m : Meaning} (h : Says word m) :
    ¬Separates word := by
  obtain ⟨sign, rule⟩ := m
  obtain ⟨text, hword, hrule⟩ := h
  have hascii := (lower_mem_iff (fun w hw => (rule.spellings_plain w hw).1) text).1 hrule
  have hsign : (signText sign).map Char.toLower = signText sign := by
    rcases sign with _ | _ | _ <;> rfl
  have hlower : Text.lowerAscii word =
      String.ofList (signText sign) ++ Text.lowerAscii (String.ofList text) := by
    rw [Text.lowerAscii, Text.lowerAscii, hword, List.map_append, hsign, String.toList_ofList,
      String.ofList_append]
  have hsigned : ∀ spelling ∈ rule.spellings,
      separators.contains (String.ofList (signText sign) ++ spelling) = false := by
    rcases sign with _ | _ | _ <;> rcases rule with _ | ⟨_ | _, _ | _ | _⟩ <;> decide
  rw [separates_iff, hlower, hsigned _ hascii]
  exact Bool.false_ne_true

/-! ## Settings -/

theorem dropSeparator_eq_singleton {words : List String} {word : String} :
    dropSeparator words = [word] ↔ (words = [word] ∧ ¬Separates word) ∨
      ∃ sep, words = [sep, word] ∧ Separates sep := by
  rcases words with _ | ⟨w, ws⟩
  · exact iff_of_false nofun (by simp)
  · rw [dropSeparator]
    by_cases hsep : Separates w
    · rw [if_pos (separates_iff.1 hsep)]
      constructor
      · rintro rfl
        exact .inr ⟨w, rfl, hsep⟩
      · rintro (⟨heq, hne⟩ | ⟨sep, heq, -⟩)
        · exact absurd ((List.cons.inj heq).1 ▸ hsep) hne
        · exact (List.cons.inj heq).2
    · rw [if_neg (mt separates_iff.2 hsep)]
      constructor
      · intro heq
        exact .inl ⟨heq, (List.cons.inj heq).1 ▸ hsep⟩
      · rintro (⟨heq, -⟩ | ⟨sep, heq, hin⟩)
        · exact heq
        · exact absurd ((List.cons.inj heq).1 ▸ hin) hsep

/-- The words of a setting are a rule, and then nothing, or a rule behind what may be a separator. -/
theorem reads_iff {words : List String} {m m' : Meaning} :
    Reads words m m' ↔ ∃ word rest, words = word :: rest ∧ Says word m ∧
      ((rest = [] ∧ m' = .absent) ∨ ∃ word', dropSeparator rest = [word'] ∧ Says word' m') := by
  constructor
  · rintro (h | ⟨h, h'⟩ | ⟨h, hsep, h'⟩)
    · exact ⟨_, [], rfl, h, .inl ⟨rfl, rfl⟩⟩
    · exact ⟨_, _, rfl, h,
        .inr ⟨_, dropSeparator_eq_singleton.2 (.inl ⟨rfl, h'.not_separates⟩), h'⟩⟩
    · exact ⟨_, _, rfl, h, .inr ⟨_, dropSeparator_eq_singleton.2 (.inr ⟨_, rfl, hsep⟩), h'⟩⟩
  · rintro ⟨word, rest, rfl, h, ⟨rfl, rfl⟩ | ⟨word', hdrop, h'⟩⟩
    · exact .single h
    · rcases dropSeparator_eq_singleton.1 hdrop with ⟨rfl, -⟩ | ⟨sep, rfl, hsep⟩
      · exact .adjacent h h'
      · exact .separated h hsep h'

end LayeredConfig.Redundancy
