import LayeredConfig.Directive.Escape
import LayeredConfig.Proofs.Directive.Marker

/-!
# Escapes over a seam

Escaped openers are decoded in one pass over a whole text. Decoding the two parts of a text comes
to the same, unless an escaped opener begins in the first and ends in the second.

* `Straddles xs ys`: behind `xs`, an escaped opener ends in `ys`.
* `decodeEscapes_append_iff`: the parts are decoded on their own exactly if nothing straddles.
* `straddles_decode_iff`: the end of a text takes part in a seam as it does when it is decoded.
-/

namespace LayeredConfig.Directive

/-- An escaped opener begins in the first text and ends in the second. -/
def Straddles (xs ys : List Char) : Prop :=
  (['%'] <:+ xs ∧ ['%', '{'] <+: ys) ∨ (['%', '%'] <:+ xs ∧ ['{'] <+: ys)

instance (xs ys : List Char) : Decidable (Straddles xs ys) :=
  inferInstanceAs (Decidable (_ ∨ _))

theorem decodeEscapes_cons {c : Char} {cs : List Char} (h : ¬['%', '%', '{'] <+: c :: cs) :
    decodeEscapes (c :: cs) = c :: decodeEscapes cs := by
  rw [decodeEscapes.eq_def]
  split
  · rename_i he
    cases he
    simp at h
  · rename_i he
    cases he
    rfl
  · simp_all

theorem Straddles.of_cons {c : Char} {xs ys : List Char} (h : Straddles xs ys) :
    Straddles (c :: xs) ys :=
  h.imp (And.imp_left fun h => h.trans (List.suffix_cons c xs))
    (And.imp_left fun h => h.trans (List.suffix_cons c xs))

theorem decodeEscapes_append {xs ys : List Char} (h : ¬Straddles xs ys) :
    decodeEscapes (xs ++ ys) = decodeEscapes xs ++ decodeEscapes ys := by
  fun_induction decodeEscapes xs with
  | case1 cs ih =>
    have hcs : ¬Straddles cs ys := fun hs => h hs.of_cons.of_cons.of_cons
    simp only [List.cons_append, decodeEscapes, ih hcs]
  | case2 c cs hne ih =>
    have hcs : ¬Straddles cs ys := fun hs => h hs.of_cons
    have hopen : ¬['%', '%', '{'] <+: c :: (cs ++ ys) := by
      intro hp
      obtain ⟨rest, hp⟩ := hp
      simp only [List.cons_append, List.nil_append, List.cons.injEq] at hp
      obtain ⟨rfl, hp⟩ := hp
      rcases cs with _ | ⟨c₁, cs⟩
      · exact h (.inl ⟨List.suffix_refl _, rest, by simpa using hp⟩)
      · simp only [List.cons_append, List.cons.injEq] at hp
        obtain ⟨rfl, hp⟩ := hp
        rcases cs with _ | ⟨c₂, cs⟩
        · exact h (.inr ⟨List.suffix_refl _, rest, by simpa using hp⟩)
        · simp only [List.cons_append, List.cons.injEq] at hp
          obtain ⟨rfl, -⟩ := hp
          exact hne cs rfl rfl
    rw [List.cons_append, decodeEscapes_cons hopen, ih hcs, List.cons_append]
  | case3 => rfl

theorem not_straddles_of_getLast? {xs ys : List Char} (h : xs.getLast? ≠ some '%') :
    ¬Straddles xs ys := by
  rintro (⟨⟨zs, rfl⟩, -⟩ | ⟨⟨zs, rfl⟩, -⟩) <;> simp at h

theorem not_straddles_of_head? {xs ys : List Char} (h : ¬['%', '{'] <+: ys)
    (h' : ¬['{'] <+: ys) : ¬Straddles xs ys := by
  rintro (⟨-, hp⟩ | ⟨-, hp⟩)
  · exact h hp
  · exact h' hp

theorem decodeEscapes_concat_percent (xs : List Char) :
    decodeEscapes (xs ++ ['%']) = decodeEscapes xs ++ ['%'] := by
  rw [decodeEscapes_append (not_straddles_of_head? (by decide) (by decide))]
  rfl

theorem decodeEscapes_getLast? (xs : List Char) : (decodeEscapes xs).getLast? = xs.getLast? := by
  fun_induction decodeEscapes xs with
  | case1 cs ih => cases cs <;> simp_all [List.getLast?_cons, decodeEscapes]
  | case2 c cs hne ih => simp only [List.getLast?_cons, ih]
  | case3 => rfl

theorem suffix_percent_iff {xs : List Char} : ['%'] <:+ xs ↔ xs.getLast? = some '%' := by
  constructor
  · rintro ⟨zs, rfl⟩
    simp
  · intro h
    obtain ⟨zs, rfl⟩ := List.getLast?_eq_some_iff.1 h
    exact ⟨zs, rfl⟩

theorem straddles_decode_iff {xs ys : List Char} :
    Straddles (decodeEscapes xs) ys ↔ Straddles xs ys := by
  have h1 : ∀ xs : List Char, ['%'] <:+ decodeEscapes xs ↔ ['%'] <:+ xs := by
    intro xs
    rw [suffix_percent_iff, suffix_percent_iff, decodeEscapes_getLast?]
  have h2 : ['%', '%'] <:+ decodeEscapes xs ↔ ['%', '%'] <:+ xs := by
    have hsplit : ∀ zs : List Char, ['%', '%'] <:+ zs ++ ['%'] ↔ ['%'] <:+ zs := by
      intro zs
      rw [List.suffix_concat_iff]
      constructor
      · rintro (h | ⟨t, ht, h⟩)
        · cases h
        · obtain rfl : ['%'] = t := List.append_cancel_right ht
          exact h
      · exact fun h => .inr ⟨['%'], rfl, h⟩
    by_cases hx : ['%'] <:+ xs
    · obtain ⟨zs, rfl⟩ := hx
      rw [decodeEscapes_concat_percent, hsplit, hsplit, h1]
    · have hsub : ['%'] <:+ ['%', '%'] := ⟨['%'], rfl⟩
      exact ⟨fun h => absurd ((h1 xs).1 (hsub.trans h)) hx, fun h => absurd (hsub.trans h) hx⟩
  unfold Straddles
  rw [h1, h2]

theorem decodeEscapes_behind {xs : List Char} (h : '%' ∉ xs) (ys : List Char) :
    decodeEscapes (xs ++ ys) = xs ++ decodeEscapes ys := by
  induction xs with
  | nil => rfl
  | cons c xs ih =>
    obtain ⟨hc, hxs⟩ := not_or.1 (mt List.mem_cons.2 h)
    have hopen : ¬['%', '%', '{'] <+: c :: (xs ++ ys) := fun hp => hc (List.cons_prefix_cons.1 hp).1
    rw [List.cons_append, decodeEscapes_cons hopen, ih hxs, List.cons_append]

theorem decodeEscapes_opener (xs ys : List Char) :
    decodeEscapes (xs ++ '%' :: '%' :: '{' :: ys) =
      decodeEscapes (xs ++ ['%']) ++ '{' :: decodeEscapes ys := by
  rw [decodeEscapes_append (not_straddles_of_head? (by simp) (by simp)),
    decodeEscapes_concat_percent, List.append_assoc]
  rfl

/-- The parts of a text are decoded on their own exactly if no escaped opener straddles the seam. -/
theorem decodeEscapes_append_iff {xs ys : List Char} :
    decodeEscapes (xs ++ ys) = decodeEscapes xs ++ decodeEscapes ys ↔ ¬Straddles xs ys := by
  refine ⟨fun heq hs => ?_, decodeEscapes_append⟩
  rcases hs with ⟨⟨zs, rfl⟩, ⟨rest, rfl⟩⟩ | ⟨⟨zs, rfl⟩, ⟨rest, rfl⟩⟩
  · rw [show zs ++ ['%'] ++ (['%', '{'] ++ rest) = zs ++ '%' :: '%' :: '{' :: rest by simp,
      decodeEscapes_opener, show ['%', '{'] ++ rest = '%' :: '{' :: rest from rfl,
      decodeEscapes_cons (by simp)] at heq
    simpa using List.append_cancel_left heq
  · have hxs : decodeEscapes (zs ++ ['%', '%']) = decodeEscapes (zs ++ ['%']) ++ ['%'] := by
      rw [← decodeEscapes_concat_percent, List.append_assoc]
      rfl
    rw [show zs ++ ['%', '%'] ++ (['{'] ++ rest) = zs ++ '%' :: '%' :: '{' :: rest by simp,
      decodeEscapes_opener, hxs, List.append_assoc] at heq
    simpa using List.append_cancel_left heq

/-! ## Seams and directives -/

theorem escapes_iff {xs : List Char} : escapes false xs = true ↔ ['%'] <:+ xs := by
  rw [suffix_percent_iff, escapes_false, Text.endsIn]
  cases xs.getLast? <;> simp

theorem not_straddles_of_escapes {xs ys : List Char} (h : escapes false xs = false) :
    ¬Straddles xs ys := by
  have hend : ¬['%'] <:+ xs := fun hs => by simp [escapes_iff.2 hs] at h
  exact not_straddles_of_getLast? (mt suffix_percent_iff.2 hend)

theorem decodeEscapes_marks {xs m : List Char} {d : Directive} (hm : Marks m d)
    (he : escapes false xs = true) (ys : List Char) :
    decodeEscapes (xs ++ (m ++ ys)) =
      decodeEscapes xs ++ (m.tail ++ decodeEscapes ys) := by
  obtain ⟨zs, rfl⟩ := escapes_iff.1 he
  obtain ⟨cs, rfl, -, hp⟩ := hm.opens
  obtain ⟨ms, hms⟩ := read?_opens (hm.reads [])
  obtain rfl : '{' :: ms = cs := by simpa using hms
  rw [show zs ++ ['%'] ++ ('%' :: '{' :: ms ++ ys) = zs ++ '%' :: '%' :: '{' :: (ms ++ ys) by simp,
    decodeEscapes_opener, decodeEscapes_behind (show '%' ∉ ms by simp_all)]
  rfl

theorem straddles_congr {xs bs cs ds : List Char} (hb : bs ≠ []) {e : Bool}
    (he : escapes e bs = false) :
    Straddles xs (bs ++ cs) ↔ Straddles xs (bs ++ ds) := by
  have h1 : ['{'] <+: bs ++ cs ↔ ['{'] <+: bs ++ ds := by
    obtain ⟨b, bs, rfl⟩ := List.exists_cons_of_ne_nil hb
    simp
  have h2 : ['%', '{'] <+: bs ++ cs ↔ ['%', '{'] <+: bs ++ ds := by
    obtain ⟨b, bs, rfl⟩ := List.exists_cons_of_ne_nil hb
    cases bs with
    | nil =>
      have hne : '%' ≠ b := by
        rintro rfl
        cases he
      simp [hne]
    | cons b' bs => simp
  unfold Straddles
  rw [h1, h2]

end LayeredConfig.Directive
