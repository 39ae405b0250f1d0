import LayeredConfig.Text.Lowercase

/-!
# Comparing a text in any case with a word

A text is compared with a word of ASCII letters by its lower case. For that the ASCII letters of the
text are enough, unless the word has a `k`, which is the lower case of the Kelvin sign as well:
`lower_eq_iff`. Every other character outside ASCII has one in its lower case, too.
-/

namespace LayeredConfig.Text

/-- A character that only ASCII letters have as their lower case, or a `k`. -/
def IsPlainLetter (c : Char) : Prop := c.toNat < 0x80 ∧ c ≠ 'k'

instance (c : Char) : Decidable (IsPlainLetter c) := inferInstanceAs (Decidable (_ ∧ _))

theorem plain_of_all {word : List Char}
    (h : word.all (fun c => decide (IsPlainLetter c)) = true) : ∀ c ∈ word, IsPlainLetter c :=
  fun c hc => of_decide_eq_true (List.all_eq_true.1 h c hc)

theorem caseRuns_far : ∀ r ∈ caseRuns, r.last < 0x80 ∨
    (r.first = 0x212a ∧ r.last = 0x212a ∧ r.shift = 0x6b - 0x212a) ∨
    (0x80 ≤ r.first + r.shift ∧ r.last + r.shift < 0xd800) ∨
    (0xdfff < r.first + r.shift ∧ r.last + r.shift < 0x110000) := by
  decide +kernel

theorem toNat_ofNat_of_valid {n : Nat} (h : n.isValidChar) : (Char.ofNat n).toNat = n := by
  rw [Char.ofNat, dif_pos h]
  rfl

theorem exists_mem_lowerChar {c : Char} (hc : 0x80 ≤ c.toNat) :
    ∃ d ∈ lowerChar c, ¬IsPlainLetter d := by
  rw [lowerChar, if_neg (Nat.not_lt.2 hc)]
  split
  · exact ⟨Char.ofNat 0x307, by simp, by decide⟩
  · split
    · rename_i r hr
      have hcovers := List.find?_some hr
      simp only [CaseRun.covers, Bool.and_eq_true, decide_eq_true_eq] at hcovers
      obtain ⟨⟨hfirst, hlast⟩, -⟩ := hcovers
      refine ⟨_, List.mem_singleton.2 rfl, fun hplain => ?_⟩
      rcases caseRuns_far r (List.mem_of_find?_eq_some hr) with h | ⟨hf, hl, hs⟩ | h | h
      · omega
      · have hk : (c.toNat + r.shift).toNat = 0x6b := by omega
        rw [hk] at hplain
        exact hplain.2 rfl
      all_goals
        have hvalid : (c.toNat + r.shift).toNat.isValidChar := by
          unfold Nat.isValidChar
          omega
        have hlow := hplain.1
        rw [toNat_ofNat_of_valid hvalid] at hlow
        omega
    · exact ⟨c, List.mem_singleton.2 rfl, fun hplain => Nat.not_lt.2 hc hplain.1⟩

theorem toLower_of_far {c : Char} (hc : 0x80 ≤ c.toNat) : c.toLower = c := by
  have hval : 0x80 ≤ c.val.toNat := hc
  unfold Char.toLower
  split
  · rename_i hupper
    have hlow : c.val.toNat ≤ 'Z'.val.toNat := UInt32.le_iff_toNat_le.1 hupper.2
    exact absurd (Nat.le_trans hval hlow) (by decide)
  · rfl

theorem lowerBehind_of_ascii {cs : List Char} (h : ∀ c ∈ cs, c.toNat < 0x80) (before : List Char) :
    lowerBehind before cs = cs.map Char.toLower := by
  induction cs generalizing before with
  | nil => rfl
  | cons c cs ih =>
    have hc : c.toNat < 0x80 := h c List.mem_cons_self
    have hsigma : (c == 'Σ') = false := by
      rw [beq_eq_false_iff_ne]
      rintro rfl
      exact absurd hc (by decide)
    rw [lowerBehind, hsigma, ih fun d hd => h d (List.mem_cons_of_mem _ hd), lowerChar, if_pos hc]
    rfl

theorem exists_mem_lowerBehind {cs : List Char} {c : Char} (hmem : c ∈ cs) (hc : 0x80 ≤ c.toNat)
    (before : List Char) : ∃ d ∈ lowerBehind before cs, ¬IsPlainLetter d := by
  induction cs generalizing before with
  | nil => cases hmem
  | cons c' cs ih =>
    rw [lowerBehind]
    rcases List.mem_cons.1 hmem with rfl | hmem
    · by_cases hsigma : (c == 'Σ') = true
      · rw [if_pos hsigma]
        split
        · exact ⟨'ς', by simp, by decide⟩
        · exact ⟨'σ', by simp, by decide⟩
      · rw [if_neg hsigma]
        obtain ⟨d, hd, hplain⟩ := exists_mem_lowerChar hc
        exact ⟨d, List.mem_append_left _ hd, hplain⟩
    · obtain ⟨d, hd, hplain⟩ := ih hmem (c' :: before)
      exact ⟨d, List.mem_append_right _ hd, hplain⟩

/-- **Words can be compared by their ASCII letters.** A text has a word of plain letters as its lower
case exactly if it has with only its ASCII letters in lower case. -/
theorem lower_eq_iff {cs word : List Char} (hword : ∀ c ∈ word, IsPlainLetter c) :
    lower cs = word ↔ cs.map Char.toLower = word := by
  by_cases hascii : ∀ c ∈ cs, c.toNat < 0x80
  · rw [lower, lowerBehind_of_ascii hascii]
  · obtain ⟨c, hmem, hc⟩ : ∃ c ∈ cs, 0x80 ≤ c.toNat := by simpa using hascii
    refine iff_of_false ?_ ?_
    · rintro rfl
      obtain ⟨d, hd, hplain⟩ := exists_mem_lowerBehind hmem hc []
      exact hplain (hword d hd)
    · rintro rfl
      have hplain := hword _ (List.mem_map_of_mem hmem)
      rw [toLower_of_far hc] at hplain
      exact Nat.not_lt.2 hc hplain.1

end LayeredConfig.Text
