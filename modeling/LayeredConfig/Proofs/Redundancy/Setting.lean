import LayeredConfig.Proofs.Redundancy.Grammar

/-!
# What a redundancy setting leaves in the masks

Recording a setting is an edit of each of the two rules, and which edit it is depends on the words
alone. So the setting means the same for all its categories, whatever was recorded before, and other
categories keep their bits.

* `settingEdit`, `applyWords_eq`: the edits that the words of a setting come to. Words that are no
  setting have some, too: what was recorded up to the word at fault.
* `parseEdit_of_reads`, `parseEdit_of_rejected`: words that are a setting give the two rules their
  meaning, and others that of the fallback, on top of what they recorded.
* `parse_meaning`: what the masks mean in the end.
* `rejected_as_fallback`: words that are no setting mean the fallback; `Traceless` says when the
  masks are those of the fallback as well.
-/

namespace LayeredConfig.Redundancy

variable {c : Categories}

def wordsOf (value : String) : List String := (Text.words value.toList).map String.ofList

def Meaning.fallback : Meaning := ⟨none, .report true (some true)⟩

/-! ## Words as edits -/

/-- The edit that a word comes to: its sign, and the rule if it is one. -/
def wordEdit (word : String) : Edit :=
  (Edit.sign (readWord word).1).andThen ((readWord word).2.elim {} Edit.rule)

def secondEdit (words : List String) : Bool × Edit :=
  if words.isEmpty then (true, .to .absent)
  else match dropSeparator words with
    | [] => (false, {})
    | word :: rest => ((readWord word).2.isSome && rest.isEmpty, wordEdit word)

def settingEdit : List String → Bool × Edit × Edit
  | [] => (false, {}, {})
  | word :: rest =>
    if (readWord word).2.isSome then ((secondEdit rest).1, wordEdit word, (secondEdit rest).2)
    else (false, wordEdit word, {})

/-- The edits that are left after words that are not accepted have been replaced. -/
def parseEdit (words : List String) : Edit × Edit :=
  if (settingEdit words).1 then (settingEdit words).2
  else ((settingEdit words).2.1.andThen (.to .fallback),
    (settingEdit words).2.2.andThen (.to .absent))

def Pair.edit (c : Categories) (e : Edit × Edit) (p : Pair) : Pair :=
  ⟨p.first.edit c e.1, p.second.edit c e.2⟩

theorem enterSign_clearSign (c : Categories) (sign : Option Bool) (r : Rules) :
    (r.clearSign c).enterSign c sign = r.edit c (.sign sign) := by
  rcases sign with _ | plus
  · rfl
  · have hmask := edited_edited r.hasSign c (some false) (some true)
    exact congrArg (fun mask =>
      { r with hasSign := mask, positive := assign r.positive c plus }) hmask

theorem enter_eq (c : Categories) (rule : Rule) (r : Rules) :
    r.enter c rule = r.edit c (.rule rule) := by
  rcases rule with _ | ⟨whole, _ | inst⟩ <;> rfl

theorem apply_none (c : Categories) (r : Rules) :
    r.apply none c = (true, r.edit c (.to .absent)) := rfl

theorem apply_some (word : String) (c : Categories) (r : Rules) :
    r.apply (some word) c = ((readWord word).2.isSome, r.edit c (wordEdit word)) := by
  simp only [Rules.apply, readWord, wordEdit, enterSign_clearSign]
  rcases Rule.ofWord? (Text.lowerAscii (String.ofList (splitSign word.toList).2)) with _ | rule
  · rfl
  · simp only [enter_eq, edit_edit]
    rfl

theorem applySecond_eq (words : List String) (c : Categories) (r : Rules) :
    applySecond words c r = ((secondEdit words).1, r.edit c (secondEdit words).2) := by
  unfold applySecond secondEdit
  split
  · rfl
  · rcases dropSeparator words with _ | ⟨word, rest⟩
    · rfl
    · simp only [apply_some]

theorem applyWords_eq (words : List String) (c : Categories) (p : Pair) :
    applyWords words c p = ((settingEdit words).1, p.edit c (settingEdit words).2) := by
  rcases words with _ | ⟨word, rest⟩
  · rfl
  · simp only [applyWords, settingEdit, apply_some, applySecond_eq]
    split <;> rfl

theorem wordEdit_fallback : wordEdit fallback = .to .fallback := by decide

/-- Recording a setting is an edit that depends on its words only. -/
theorem parse_eq (value : String) (c : Categories) (p : Pair) (key : String) :
    (parse value c p key).1 = p.edit c (parseEdit (wordsOf value)) := by
  have hwords := applyWords_eq (wordsOf value) c p
  rw [wordsOf] at hwords
  simp only [parse, hwords]
  unfold parseEdit
  rcases hedit : settingEdit (wordsOf value) with ⟨ok, e, e'⟩
  rw [wordsOf] at hedit
  rw [hedit]
  cases ok with
  | true => rfl
  | false => simp [apply_some, apply_none, wordEdit_fallback, Pair.edit, edit_edit]

/-! ## Edits by what the words mean -/

theorem Says.wordEdit_eq {word : String} {m : Meaning} (h : Says word m) :
    wordEdit word = .to m := by
  rw [wordEdit, says_iff.1 h]
  rfl

theorem Says.isSome {word : String} {m : Meaning} (h : Says word m) :
    (readWord word).2.isSome = true := exists_says_iff.1 ⟨m, h⟩

theorem settingEdit_of_reads {words : List String} {m m' : Meaning} (h : Reads words m m') :
    settingEdit words = (true, .to m, .to m') := by
  obtain ⟨word, rest, rfl, hword, hrest⟩ := reads_iff.1 h
  rw [settingEdit, if_pos hword.isSome, hword.wordEdit_eq]
  rcases hrest with ⟨rfl, rfl⟩ | ⟨word', hdrop, hword'⟩
  · rfl
  · have hne : rest.isEmpty = false := by
      rcases rest with _ | _
      · cases hdrop
      · rfl
    simp [secondEdit, hne, hdrop, hword'.isSome, hword'.wordEdit_eq]

theorem exists_reads_iff {words : List String} :
    (∃ m m', Reads words m m') ↔ (settingEdit words).1 = true := by
  constructor
  · rintro ⟨m, m', h⟩
    rw [settingEdit_of_reads h]
  · intro hok
    rcases words with _ | ⟨word, rest⟩
    · cases hok
    rw [settingEdit] at hok
    split at hok
    · rename_i hword
      obtain ⟨m, hm⟩ := exists_says_iff.2 hword
      simp only [secondEdit] at hok
      split at hok
      · rename_i hempty
        exact ⟨m, .absent, reads_iff.2
          ⟨word, rest, rfl, hm, .inl ⟨List.isEmpty_iff.1 hempty, rfl⟩⟩⟩
      · split at hok
        · cases hok
        · rename_i word' rest' hdrop
          simp only [Bool.and_eq_true] at hok
          obtain ⟨hword', hend⟩ := hok
          obtain ⟨m', hm'⟩ := exists_says_iff.2 hword'
          rw [List.isEmpty_iff.1 hend] at hdrop
          exact ⟨m, m', reads_iff.2 ⟨word, rest, rfl, hm, .inr ⟨word', hdrop, hm'⟩⟩⟩
    · cases hok

theorem not_reads_iff {words : List String} :
    (∀ m m', ¬Reads words m m') ↔ (settingEdit words).1 = false := by
  rw [← Bool.not_eq_true, ← exists_reads_iff]
  simp only [not_exists]

theorem parseEdit_of_reads {words : List String} {m m' : Meaning} (h : Reads words m m') :
    parseEdit words = (.to m, .to m') := by
  rw [parseEdit, settingEdit_of_reads h]
  rfl

theorem parseEdit_of_rejected {words : List String} (h : ∀ m m', ¬Reads words m m') :
    parseEdit words = ((settingEdit words).2.1.andThen (.to .fallback),
      (settingEdit words).2.2.andThen (.to .absent)) := by
  rw [parseEdit, not_reads_iff.1 h]
  rfl

theorem meaning_andThen_to (e : Edit) (m : Meaning) (x : Bits) :
    (x.edit (e.andThen (.to m))).meaning = m := by
  rw [edit_andThen, meaning_edit_to]

theorem meaning_edit {b : Nat} (hb : c.getLsbD b = true) (e : Edit) (r : Rules) :
    (r.edit c e).meaning b = ((r.bits b).edit e).meaning := by
  rw [Rules.meaning, bits_edit, if_pos hb]

theorem bits_edit_of_not_mem {b : Nat} (hb : c.getLsbD b = false) (e : Edit) (r : Rules) :
    (r.edit c e).bits b = r.bits b := by
  rw [bits_edit, if_neg (by simp [hb])]

/-! ## What is recorded -/

/-- **The masks mean what the text says.** For each of its categories, a text that is a setting
leaves the meaning of its first and its second rule, and every other text that of the fallback and no
second rule, whatever the masks held before. All twelve masks keep the bits of other categories, so
settings of disjoint categories can be recorded in either order. -/
theorem parse_meaning (value : String) (c : Categories) (p : Pair) (key : String) :
    let q := (parse value c p key).1
    (∀ b, c.getLsbD b = true →
      (∀ m m', Reads (wordsOf value) m m' → q.first.meaning b = m ∧ q.second.meaning b = m') ∧
      ((∀ m m', ¬Reads (wordsOf value) m m') →
        q.first.meaning b = .fallback ∧ q.second.meaning b = .absent)) ∧
    (∀ b, c.getLsbD b = false →
      q.first.bits b = p.first.bits b ∧ q.second.bits b = p.second.bits b) ∧
    ∀ value' c' key', c &&& c' = 0 → (parse value' c' q key').1 =
      (parse value c (parse value' c' p key').1 key).1 := by
  simp only [parse_eq]
  refine ⟨fun b hb => ⟨fun m m' h => ?_, fun h => ?_⟩, fun b hb => ?_, fun value' c' key' h => ?_⟩
  · rw [parseEdit_of_reads h, Pair.edit, meaning_edit hb, meaning_edit hb]
    exact ⟨meaning_edit_to m _, meaning_edit_to m' _⟩
  · rw [parseEdit_of_rejected h, Pair.edit, meaning_edit hb, meaning_edit hb]
    exact ⟨meaning_andThen_to _ _ _, meaning_andThen_to _ _ _⟩
  · exact ⟨bits_edit_of_not_mem hb _ _, bits_edit_of_not_mem hb _ _⟩
  · simp only [Pair.edit, edit_comm h]

/-- The grammar with a separator that need not stand in front of a rule. -/
inductive ReadsLoosely : List String → Meaning → Meaning → Prop
  | reads {words : List String} {m m' : Meaning} (h : Reads words m m') : ReadsLoosely words m m'
  | trailing {word sep : String} {m : Meaning} (h : Says word m) (hsep : Separates sep) :
      ReadsLoosely [word, sep] m .absent

/-- A separator with nothing behind it: the text is no setting. -/
theorem trailing_separator_rejected :
    ReadsLoosely (wordsOf "all or") ⟨none, .report true none⟩ .absent ∧
      (parse "all or" 1 {} "").1.first.meaning 0 = .fallback ∧
      Meaning.fallback ≠ ⟨none, .report true none⟩ := by
  refine ⟨.trailing (says_iff.2 ?_) (separates_iff.2 ?_), ?_, ?_⟩ <;> decide

/-! ## What words that are no setting leave behind -/

def Signed (word : String) : Prop := (splitSign word.toList).1 ≠ none

/-- The words record nothing that the fallback does not replace: the first one has no sign, and if
it is a rule, then the one for the second rule has no sign either and reports nothing. -/
def Traceless (words : List String) : Prop :=
  ∀ word rest, words = word :: rest → ¬Signed word ∧
    ((∃ m, Says word m) → ∀ word' rest', dropSeparator rest = word' :: rest' →
      ¬Signed word' ∧ ∀ m, Says word' m → m.rule = .off)

/-- The fallback replaces all that is recorded but for the sign that it does not look at. -/
theorem andThen_fallback (e : Edit) :
    e.andThen (.to .fallback) = .to .fallback ↔ e.positive = none := by
  simp [Edit.andThen, Edit.to, Edit.sign, Edit.rule, Meaning.fallback]

/-- That there is no rule replaces the rule and that it has a sign, and nothing else. -/
theorem andThen_absent (e : Edit) : e.andThen (.to .absent) = .to .absent ↔
    e.whole = none ∧ e.restricted = none ∧ e.installed = none ∧ e.positive = none := by
  simp [Edit.andThen, Edit.to, Edit.sign, Edit.rule, Meaning.absent]

theorem wordEdit_positive (word : String) : (wordEdit word).positive = none ↔ ¬Signed word := by
  have hsign : ∀ (sign : Option Bool) (rule : Option Rule),
      ((Edit.sign sign).andThen (rule.elim {} Edit.rule)).positive = sign := by
    intro sign rule
    rcases sign with _ | _ <;> rcases rule with _ | _ | ⟨_, _ | _⟩ <;> rfl
  rw [wordEdit, hsign]
  exact Classical.not_not.symm

theorem wordEdit_absent (word : String) : (wordEdit word).andThen (.to .absent) = .to .absent ↔
    ¬Signed word ∧ ∀ m, Says word m → m.rule = .off := by
  have hrule : (∀ m, Says word m → m.rule = .off) ↔
      ∀ rule, (readWord word).2 = some rule → rule = .off := by
    simp only [says_iff]
    constructor
    · exact fun h rule hrule => h ⟨(readWord word).1, rule⟩ (Prod.ext rfl hrule)
    · exact fun h m hm => h m.rule (congrArg Prod.snd hm)
  rw [andThen_absent, hrule, ← wordEdit_positive, wordEdit]
  rcases (readWord word).1 with _ | _ <;> rcases (readWord word).2 with _ | _ | ⟨_, _ | _⟩ <;>
    simp [Edit.andThen, Edit.sign, Edit.rule]

theorem parseEdit_eq_fallback {words : List String} (h : ∀ m m', ¬Reads words m m') :
    parseEdit words = (.to .fallback, .to .absent) ↔ Traceless words := by
  have hrejected := not_reads_iff.1 h
  rw [parseEdit_of_rejected h, Prod.mk.injEq, andThen_fallback]
  rcases words with _ | ⟨word, rest⟩
  · exact iff_of_true ⟨rfl, rfl⟩ nofun
  have hcons : Traceless (word :: rest) ↔ ¬Signed word ∧ ((readWord word).2.isSome = true →
      ∀ word' rest', dropSeparator rest = word' :: rest' →
        ¬Signed word' ∧ ∀ m, Says word' m → m.rule = .off) := by
    simp only [Traceless, exists_says_iff, List.cons.injEq, and_imp]
    exact ⟨fun h => h word rest rfl rfl, by rintro h _ _ rfl rfl; exact h⟩
  rw [hcons]
  by_cases hword : (readWord word).2.isSome = true
  · rw [settingEdit, if_pos hword] at hrejected ⊢
    simp only [hword, forall_const, wordEdit_positive]
    refine and_congr_right fun _ => ?_
    -- with nothing behind the first rule the words would have been accepted
    have hrest : rest.isEmpty = false := by
      rcases rest with _ | _
      · cases hrejected
      · rfl
    rw [secondEdit, hrest, if_neg Bool.false_ne_true]
    rcases dropSeparator rest with _ | ⟨word', rest'⟩
    · exact iff_of_true rfl nofun
    · rw [wordEdit_absent]
      exact ⟨by rintro h _ _ ⟨rfl, rfl⟩; exact h, fun h => h word' rest' rfl⟩
  · rw [settingEdit, if_neg hword]
    simp only [hword, Bool.false_eq_true, false_implies, and_true, wordEdit_positive]
    exact and_iff_left rfl

theorem parseEdit_fallback : parseEdit (wordsOf fallback) = (.to .fallback, .to .absent) := by
  decide

/-- **A text that is no setting means the fallback.** It leaves the same as the fallback in all masks
that are looked at, and what both rules mean for every category; other categories keep the bits
they had, as they do with the fallback.
What may differ are the sign of the first rule, which has none, and all but the first two masks of
the second rule, which there is not. All twelve masks are those of the fallback, whatever they held
before, exactly if the words leave no trace. -/
theorem rejected_as_fallback {value : String} (h : ∀ m m', ¬Reads (wordsOf value) m m')
    (c : Categories) (key key' : String) :
    (∀ p : Pair,
      let q := (parse value c p key).1
      let f := (parse fallback c p key').1
      (q.first.reported = f.first.reported ∧ q.first.whole = f.first.whole ∧
        q.first.restricted = f.first.restricted ∧ q.first.installed = f.first.installed ∧
        q.first.hasSign = f.first.hasSign) ∧
      (q.second.reported = f.second.reported ∧ q.second.hasSign = f.second.hasSign) ∧
      (∀ b, q.first.meaning b = f.first.meaning b ∧ q.second.meaning b = f.second.meaning b) ∧
      ∀ b, c.getLsbD b = false →
        (q.first.bits b = p.first.bits b ∧ q.second.bits b = p.second.bits b) ∧
          f.first.bits b = p.first.bits b ∧ f.second.bits b = p.second.bits b) ∧
    ((∀ p, (parse value c p key).1 = (parse fallback c p key').1) ↔
      c = 0 ∨ Traceless (wordsOf value)) := by
  simp only [parse_eq, parseEdit_fallback]
  constructor
  · intro p
    rw [parseEdit_of_rejected h]
    refine ⟨⟨rfl, rfl, rfl, rfl, rfl⟩, ⟨rfl, rfl⟩, fun b => ?_, fun b hb => ?_⟩
    · rcases hb : c.getLsbD b
      · simp only [Pair.edit, Rules.meaning, bits_edit_of_not_mem hb, and_self]
      · simp only [Pair.edit, meaning_edit hb, meaning_andThen_to, meaning_edit_to, and_self]
    · exact ⟨⟨bits_edit_of_not_mem hb _ _, bits_edit_of_not_mem hb _ _⟩,
        bits_edit_of_not_mem hb _ _, bits_edit_of_not_mem hb _ _⟩
  · rw [← parseEdit_eq_fallback h]
    constructor
    · intro hsame
      by_cases hc : c = 0
      · exact .inl hc
      · refine .inr (Prod.ext ?_ ?_)
        · exact edit_injective hc fun r => congrArg Pair.first (hsame ⟨r, r⟩)
        · exact edit_injective hc fun r => congrArg Pair.second (hsame ⟨r, r⟩)
    · rintro (rfl | hedit) p
      · simp only [Pair.edit, edit_empty]
      · rw [hedit]

/-- A third rule: the text is no setting, and what was recorded of the second rule is not looked at,
whatever the masks held before. -/
theorem third_rule_rejected : (∀ m m', ¬Reads (wordsOf "no || -some All") m m') ∧
    ∀ (p : Pair) (b : Nat), (parse "no || -some All" 5 p "K").1.second.meaning b =
      (parse fallback 5 p "K").1.second.meaning b := by
  have hrejected : ∀ m m', ¬Reads (wordsOf "no || -some All") m m' := not_reads_iff.2 (by decide)
  have hmasks := fun p => ((rejected_as_fallback hrejected 5 "K" "K").1 p).2.2.1
  exact ⟨hrejected, fun p b => (hmasks p b).2⟩

/-- A sign in front of a word that is no rule: it is left in the masks. -/
theorem sign_left_behind : (∀ m m', ¬Reads (wordsOf "+bogus") m m') ∧
    (parse "+bogus" 1 {} "").1.first.positive = 1 ∧ (parse fallback 1 {} "").1.first.positive = 0 :=
  ⟨not_reads_iff.2 (by decide), by decide, by decide⟩

end LayeredConfig.Redundancy
