import LayeredConfig.Proofs.Directive.Escape
import LayeredConfig.Proofs.Directive.Search
import Mathlib.Data.Nat.Count

/-!
# Decoding by cutting

`unescape` reads a text character by character. The same text comes out of a search: escaped openers
are sought one behind the other, the text is cut behind the first percent sign of each, which is
left out, and the pieces are joined.

* `EscapeAt cs i`: an escaped opener stands at the place `i`. Escaped openers do not overlap, and
  `escapeCount` is how many there are.
* `unescapeByCuts`: the search, with one index where the next piece starts and one where the search
  goes on. `flatten_slices` is what its two indices keep up.
* `straddles_iff`: an escaped opener straddles a seam if it begins in front of it and ends behind it.
* `unescape_exact`: the two ways agree, and what decoding does to lengths and seams.
-/

namespace LayeredConfig.Directive

def escapedOpener : List Char := ['%', '%', '{']

def EscapeAt (cs : List Char) (i : Nat) : Prop := escapedOpener <+: cs.drop i

instance (cs : List Char) : DecidablePred (EscapeAt cs) := fun i =>
  inferInstanceAs (Decidable (escapedOpener <+: cs.drop i))

def escapeCount (cs : List Char) : Nat := Nat.count (EscapeAt cs) cs.length

def nextEscape? (cs : List Char) (pos : Nat) : Option Nat :=
  (List.range' pos (cs.length - pos)).find? (EscapeAt cs ·)

variable {xs ys cs : List Char} {c : Char} {i pos start n : Nat}

theorem nextEscape?_eq_some (h : nextEscape? cs pos = some i) :
    EscapeAt cs i ∧ pos ≤ i ∧ i < cs.length ∧ ∀ j, pos ≤ j → j < i → ¬EscapeAt cs j :=
  firstAt?_eq_some h

theorem nextEscape?_eq_none (h : nextEscape? cs pos = none) {j : Nat} (hj : pos ≤ j) :
    ¬EscapeAt cs j :=
  firstAt?_eq_none (List.cons_ne_nil _ _) h hj

/-- The pieces of a text, the first from `start` on: it ends at the first escaped opener at or
behind `pos`, and the next piece starts behind the percent sign there. -/
def slices (cs : List Char) (start pos : Nat) : List (List Char) :=
  match _h : nextEscape? cs pos with
  | none => [cs.drop start]
  | some i => cs.extract start i :: slices cs (i + 1) (i + 3)
termination_by cs.length - pos
decreasing_by
  obtain ⟨-, hle, hlt, -⟩ := nextEscape?_eq_some _h
  omega

/-- Decodes the escaped openers of a text by cutting it; one without any is left as it is. -/
def unescapeByCuts (text : String) : String :=
  match nextEscape? text.toList 0 with
  | none => text
  | some _ => String.ofList (slices text.toList 0 0).flatten

/-! ## The two ways agree -/

theorem escapeAt_drop : EscapeAt (cs.drop n) i ↔ EscapeAt cs (n + i) := by
  rw [EscapeAt, List.drop_drop, EscapeAt]

theorem EscapeAt.drop_eq (h : EscapeAt cs i) : cs.drop i = '%' :: '%' :: '{' :: cs.drop (i + 3) := by
  obtain ⟨rest, hrest⟩ := h
  have hdrop : cs.drop (i + 3) = rest := by rw [← List.drop_drop, ← hrest]; rfl
  rw [hdrop, ← hrest]
  rfl

theorem decodeEscapes_skip (n : Nat) (h : ∀ j < n, ¬EscapeAt cs j) :
    decodeEscapes cs = cs.take n ++ decodeEscapes (cs.drop n) := by
  induction n generalizing cs with
  | zero => rfl
  | succ n ih =>
    cases cs with
    | nil => rfl
    | cons c cs =>
      have hhead : ¬escapedOpener <+: c :: cs := h 0 (Nat.succ_pos n)
      have htail : ∀ j < n, ¬EscapeAt cs j := fun j hj => h (j + 1) (Nat.succ_lt_succ hj)
      rw [decodeEscapes_cons hhead, ih htail]
      rfl

theorem decodeEscapes_of_none (h : nextEscape? cs pos = none) :
    decodeEscapes (cs.drop pos) = cs.drop pos := by
  have hnot : ∀ j < (cs.drop pos).length, ¬EscapeAt (cs.drop pos) j := fun j _ hat =>
    nextEscape?_eq_none h (Nat.le_add_right pos j) (escapeAt_drop.1 hat)
  rw [decodeEscapes_skip _ hnot, List.take_length, List.drop_length]
  exact List.append_nil _

theorem decodeEscapes_of_some (h : nextEscape? cs pos = some i) :
    decodeEscapes (cs.drop pos) =
      (cs.drop pos).take (i - pos) ++ '%' :: '{' :: decodeEscapes (cs.drop (i + 3)) := by
  obtain ⟨hat, hle, -, hbefore⟩ := nextEscape?_eq_some h
  have hnot : ∀ j < i - pos, ¬EscapeAt (cs.drop pos) j := fun j hj hat' =>
    hbefore (pos + j) (Nat.le_add_right pos j) (by omega) (escapeAt_drop.1 hat')
  rw [decodeEscapes_skip _ hnot, List.drop_drop, Nat.add_sub_cancel' hle, hat.drop_eq,
    decodeEscapes]

theorem extract_append_drop (h : start ≤ pos) :
    cs.extract start pos ++ cs.drop pos = cs.drop start := by
  rw [List.extract_eq_take_drop, show cs.drop pos = (cs.drop start).drop (pos - start) by
    rw [List.drop_drop, Nat.add_sub_cancel' h], List.take_append_drop]

theorem extract_append_take (h : start ≤ pos) (hi : pos ≤ i) :
    cs.extract start pos ++ (cs.drop pos).take (i - pos) = cs.extract start i := by
  rw [List.extract_eq_take_drop, List.extract_eq_take_drop,
    show i - start = (pos - start) + (i - pos) by omega, List.take_add, List.drop_drop,
    Nat.add_sub_cancel' h]

/-- The text between the two indices is taken over as it is. -/
theorem flatten_slices (h : start ≤ pos) :
    (slices cs start pos).flatten = cs.extract start pos ++ decodeEscapes (cs.drop pos) := by
  fun_induction slices cs start pos with
  | case1 start pos hnone =>
    rw [List.flatten_singleton, decodeEscapes_of_none hnone, extract_append_drop h]
  | case2 start pos i hsome ih =>
    obtain ⟨hat, hle, -, -⟩ := nextEscape?_eq_some hsome
    have hkept : cs.extract (i + 1) (i + 3) = ['%', '{'] := by
      rw [List.extract_eq_take_drop, ← List.drop_drop, hat.drop_eq,
        show i + 3 - (i + 1) = 2 by omega]
      rfl
    rw [List.flatten_cons, ih (by omega), hkept, decodeEscapes_of_some hsome,
      ← List.append_assoc (cs.extract start pos), extract_append_take h hle]
    rfl

theorem unescapeByCuts_eq (text : String) : unescapeByCuts text = unescape text := by
  unfold unescapeByCuts unescape
  split
  · rename_i hnone
    have hsame : decodeEscapes text.toList = text.toList := decodeEscapes_of_none hnone
    rw [hsame, String.ofList_toList]
  · rw [flatten_slices (Nat.le_refl 0)]
    rfl

/-! ## Lengths -/

theorem escapeCount_cons (c : Char) (cs : List Char) :
    escapeCount (c :: cs) = escapeCount cs + if escapedOpener <+: c :: cs then 1 else 0 :=
  Nat.count_succ' _ _

theorem length_decodeEscapes (cs : List Char) :
    (decodeEscapes cs).length + escapeCount cs = cs.length := by
  fun_induction decodeEscapes cs with
  | case1 cs ih =>
    have hself : escapedOpener <+: '%' :: '%' :: '{' :: cs := List.prefix_append escapedOpener cs
    have hpercent : ¬escapedOpener <+: '%' :: '{' :: cs := by simp [escapedOpener]
    have hbrace : ¬escapedOpener <+: '{' :: cs := by simp [escapedOpener]
    rw [escapeCount_cons, if_pos hself, escapeCount_cons, if_neg hpercent, escapeCount_cons,
      if_neg hbrace]
    simp only [List.length_cons]
    omega
  | case2 c cs hne ih =>
    have hhead : ¬escapedOpener <+: c :: cs := by
      rintro ⟨rest, he⟩
      obtain ⟨rfl, rfl⟩ := List.cons.inj he
      exact hne rest rfl rfl
    rw [escapeCount_cons, if_neg hhead, List.length_cons, List.length_cons, ← ih]
    omega
  | case3 => rfl

/-! ## Seams -/

theorem straddles_iff :
    Straddles xs ys ↔ ∃ i, EscapeAt (xs ++ ys) i ∧ i < xs.length ∧ xs.length < i + 3 := by
  constructor
  · rintro (⟨⟨zs, rfl⟩, ⟨rest, rfl⟩⟩ | ⟨⟨zs, rfl⟩, ⟨rest, rfl⟩⟩)
    · exact ⟨zs.length, by simp [EscapeAt, escapedOpener], by simp, by simp⟩
    · exact ⟨zs.length, by simp [EscapeAt, escapedOpener], by simp, by simp⟩
  · rintro ⟨i, hat, hlt, hle⟩
    rw [EscapeAt, List.drop_append_of_le_length hlt.le] at hat
    have hlen : (xs.drop i).length = xs.length - i := List.length_drop
    have hsuffix : xs.drop i <:+ xs := List.drop_suffix i xs
    rcases hd : xs.drop i with _ | ⟨a, _ | ⟨b, _ | ⟨d, ds⟩⟩⟩ <;>
      simp only [hd, List.length_cons, List.length_nil] at hlen
    · omega
    · simp only [hd, escapedOpener, List.cons_append, List.nil_append,
        List.cons_prefix_cons] at hat hsuffix
      obtain ⟨rfl, hat⟩ := hat
      exact .inl ⟨hsuffix, by simpa using hat⟩
    · simp only [hd, escapedOpener, List.cons_append, List.nil_append,
        List.cons_prefix_cons] at hat hsuffix
      obtain ⟨rfl, rfl, hat⟩ := hat
      exact .inr ⟨hsuffix, by simpa using hat⟩
    · omega

/-! ## Texts -/

theorem toList_unescape (text : String) : (unescape text).toList = decodeEscapes text.toList :=
  String.toList_ofList

/-- **Escapes are decoded in one pass.** Cutting a text at its escaped openers comes to the same as
reading it from the left, where an escaped opener loses its first percent sign and every other
character stays. So a text gets shorter by the number of its escaped openers, and two texts are
decoded on their own exactly if no escaped opener stands across the seam between them. -/
theorem unescape_exact :
    (∀ text, unescapeByCuts text = unescape text) ∧
    (unescape "" = "" ∧
      (∀ text, unescape ("%%\x7b" ++ text) = "%\x7b" ++ unescape text) ∧
      ∀ c text, ¬escapedOpener <+: c :: text.toList →
        unescape (String.singleton c ++ text) = String.singleton c ++ unescape text) ∧
    (∀ text, (unescape text).length + escapeCount text.toList = text.length) ∧
    ∀ a b, unescape (a ++ b) = unescape a ++ unescape b ↔
      ∀ i, EscapeAt (a ++ b).toList i → i + 3 ≤ a.length ∨ a.length ≤ i := by
  refine ⟨unescapeByCuts_eq, ⟨rfl, fun text => ?_, fun c text h => ?_⟩, fun text => ?_,
    fun a b => ?_⟩
  · rw [← String.toList_inj, toList_unescape, String.toList_append, String.toList_append,
      toList_unescape]
    rfl
  · rw [← String.toList_inj, toList_unescape, String.toList_append, String.toList_append,
      toList_unescape, String.toList_singleton]
    exact decodeEscapes_cons h
  · rw [← String.length_toList, toList_unescape, length_decodeEscapes, String.length_toList]
  · rw [← String.toList_inj, toList_unescape, String.toList_append, String.toList_append,
      toList_unescape, toList_unescape, decodeEscapes_append_iff, straddles_iff]
    simp only [not_exists, not_and, Nat.not_lt, String.length_toList]
    refine forall_congr' fun i => imp_congr_right fun _ => ?_
    omega

/-- The percent sign that stays behind does not make another escaped opener. -/
example : unescapeByCuts "%%%\x7bX\x7d%%\x7b%%\x7b" = "%%\x7bX\x7d%\x7b%\x7b" := by cbv

end LayeredConfig.Directive
