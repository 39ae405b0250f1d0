import LayeredConfig.Directive.Basic

/-!
# The grammar of directives

What can be written between an opener and its brace, said without the reader, and that reading
accepts exactly this.

* `Names`: a name and the reference that it writes; `Body`: a body and the directive that it writes.
* `names_iff`, `isElse_iff`: what the tests of the reader say of a name.
* `read?_iff`: a directive is read exactly if an opener, a body and a brace are written.
-/

namespace LayeredConfig.Directive

/-! ## What is written -/

def IsLetter (c : Char) : Prop := ('A' ≤ c ∧ c ≤ 'Z') ∨ ('a' ≤ c ∧ c ≤ 'z')

def Continues (c : Char) : Prop := c = '_' ∨ ('0' ≤ c ∧ c ≤ '9') ∨ IsLetter c

inductive Names : List Char → Reference → Prop
  | direct {c : Char} {cs : List Char} (hc : c = '_' ∨ IsLetter c) (hcs : ∀ d ∈ cs, Continues d) :
      Names (c :: cs) (.direct (String.ofList (c :: cs)))
  | indirect {cs : List Char} (hcs : ∀ d ∈ cs, Continues d) :
      Names ('*' :: cs) (.indirect (String.ofList cs))

def IsElse (word : List Char) : Prop :=
  ∃ a b c d, word = [a, b, c, d] ∧ (a = 'e' ∨ a = 'E') ∧ (b = 'l' ∨ b = 'L') ∧
    (c = 's' ∨ c = 'S') ∧ (d = 'e' ∨ d = 'E')

/-- What stands between an opener and its brace, and the directive that it writes. -/
inductive Body : List Char → Directive → Prop
  | close : Body [] .close
  | otherwise {word : List Char} (h : IsElse word) : Body word .otherwise
  | substitute {name : List Char} {ref : Reference} (h : Names name ref) (hne : ¬IsElse name) :
      Body name (.substitute ref)
  | whenTrue {name : List Char} {ref : Reference} (h : Names name ref) :
      Body ('?' :: name) (.whenTrue ref)
  | whenFalse {name : List Char} {ref : Reference} (h : Names name ref) :
      Body ('!' :: name) (.whenFalse ref)

/-! ## Reading accepts the grammar -/

theorem isAlpha_iff {c : Char} : c.isAlpha = true ↔ IsLetter c := by
  show (decide (c.val ≥ 'A'.val ∧ c.val ≤ 'Z'.val) ||
    (decide (c.val ≥ 'a'.val) && decide (c.val ≤ 'z'.val))) = true ↔ IsLetter c
  rw [Bool.or_eq_true, Bool.and_eq_true, decide_eq_true_eq, decide_eq_true_eq, decide_eq_true_eq]
  exact Iff.rfl

theorem isNameChar_iff {c : Char} : isNameChar c = true ↔ Continues c := by
  simp only [isNameChar, Char.isAlphanum, Bool.or_eq_true, beq_iff_eq, isAlpha_iff, Continues]
  simp only [Char.isDigit, Bool.and_eq_true, decide_eq_true_eq, Char.le_def, ge_iff_le]
  rw [or_comm (a := IsLetter c)]

theorem isNameStart_iff {c : Char} : isNameStart c = true ↔ c = '*' ∨ c = '_' ∨ IsLetter c := by
  simp only [isNameStart, Bool.or_eq_true, beq_iff_eq, isAlpha_iff, or_assoc]

theorem not_isLetter_star : ¬IsLetter '*' := by
  rw [← isAlpha_iff]
  decide

theorem names_iff {name : List Char} {ref : Reference} :
    Names name ref ↔ (∃ c cs, name = c :: cs ∧ isNameStart c ∧ ∀ d ∈ cs, isNameChar d) ∧
      toReference name = ref := by
  constructor
  · rintro (⟨hc, hcs⟩ | ⟨hcs⟩)
    · refine ⟨⟨_, _, rfl, isNameStart_iff.2 (.inr hc), fun d hd => isNameChar_iff.2 (hcs d hd)⟩, ?_⟩
      unfold toReference
      split
      · rename_i he
        obtain ⟨rfl, -⟩ := List.cons.inj he
        rcases hc with hc | hc
        · cases hc
        · exact absurd hc not_isLetter_star
      · rfl
    · exact ⟨⟨_, _, rfl, by decide, fun d hd => isNameChar_iff.2 (hcs d hd)⟩, rfl⟩
  · rintro ⟨⟨c, cs, rfl, hc, hcs⟩, rfl⟩
    have hcs' : ∀ d ∈ cs, Continues d := fun d hd => isNameChar_iff.1 (hcs d hd)
    rcases isNameStart_iff.1 hc with rfl | hc
    · exact .indirect hcs'
    · have hne : c ≠ '*' := by
        rintro rfl
        rcases hc with hc | hc
        · cases hc
        · exact not_isLetter_star hc
      have href : toReference (c :: cs) = .direct (String.ofList (c :: cs)) := by
        unfold toReference
        split
        · rename_i he
          exact absurd (List.cons.inj he).1 hne
        · rfl
      rw [href]
      exact .direct hc hcs'

theorem toLower_eq_iff {c d : Char} (hd : d = 'e' ∨ d = 'l' ∨ d = 's') :
    c.toLower = d ↔ c = d ∨ c = d.toUpper := by
  constructor
  · intro h
    unfold Char.toLower at h
    split at h
    · rename_i hc
      right
      have hval := congrArg (fun x => x.val.toNat) h
      simp only [UInt32.toNat_add] at hval
      have h1 := hc.1
      have h2 := hc.2
      simp only [ge_iff_le, UInt32.le_iff_toNat_le] at h1 h2
      apply Char.ext
      apply UInt32.toNat.inj
      rcases hd with rfl | rfl | rfl <;> simp at hval h1 h2 ⊢ <;> omega
    · exact .inl h
  · rintro (rfl | rfl)
    · rcases hd with rfl | rfl | rfl <;> decide
    · rcases hd with rfl | rfl | rfl <;> decide

theorem isElse_iff {word : List Char} : word.map Char.toLower = "else".toList ↔ IsElse word := by
  have he : ∀ c : Char, c.toLower = 'e' ↔ c = 'e' ∨ c = 'E' := fun c => toLower_eq_iff (by simp)
  have hl : ∀ c : Char, c.toLower = 'l' ↔ c = 'l' ∨ c = 'L' := fun c => toLower_eq_iff (by simp)
  have hs : ∀ c : Char, c.toLower = 's' ↔ c = 's' ∨ c = 'S' := fun c => toLower_eq_iff (by simp)
  show word.map Char.toLower = ['e', 'l', 's', 'e'] ↔ _
  constructor
  · intro h
    obtain ⟨a, b, c, d, rfl⟩ : ∃ a b c d, word = [a, b, c, d] := by
      have hlen := congrArg List.length h
      match word, hlen with
      | [a, b, c, d], _ => exact ⟨a, b, c, d, rfl⟩
    simp only [List.map_cons, List.map_nil, List.cons.injEq, and_true, he, hl, hs] at h
    exact ⟨a, b, c, d, rfl, h⟩
  · rintro ⟨a, b, c, d, rfl, h⟩
    simp only [List.map_cons, List.map_nil, List.cons.injEq, and_true, he, hl, hs]
    exact h

theorem exists_names {word : List Char} (h : IsElse word) : ∃ ref, Names word ref := by
  obtain ⟨a, b, c, d, rfl, ha, hb, hc, hd⟩ := h
  refine ⟨_, names_iff.2 ⟨⟨a, [b, c, d], rfl, ?_, ?_⟩, rfl⟩⟩
  · rcases ha with rfl | rfl <;> decide
  · intro x hx
    simp only [List.mem_cons, List.not_mem_nil, or_false] at hx
    rcases hx with rfl | rfl | rfl
    · rcases hb with rfl | rfl <;> decide
    · rcases hc with rfl | rfl <;> decide
    · rcases hd with rfl | rfl <;> decide

theorem readName?_iff {cs name rest : List Char} :
    readName? cs = some (name, rest) ↔ cs = name ++ '}' :: rest ∧ ∃ ref, Names name ref := by
  constructor
  · intro h
    cases cs with
    | nil => cases h
    | cons c cs =>
      simp only [readName?] at h
      split at h
      · rename_i hc
        split at h
        · rename_i rest₀ hd
          simp only [Option.some.injEq, Prod.mk.injEq] at h
          obtain ⟨rfl, rfl⟩ := h
          have hall : ∀ d ∈ cs.takeWhile isNameChar, isNameChar d :=
            List.all_eq_true.1 List.all_takeWhile
          refine ⟨?_, _, names_iff.2 ⟨⟨c, _, rfl, hc, hall⟩, rfl⟩⟩
          rw [List.cons_append, ← hd, List.takeWhile_append_dropWhile]
        · cases h
      · cases h
  · rintro ⟨rfl, ref, hname⟩
    obtain ⟨⟨c, cs, rfl, hc, hcs⟩, -⟩ := names_iff.1 hname
    have hdrop : (cs ++ '}' :: rest).dropWhile isNameChar = '}' :: rest := by
      rw [List.dropWhile_append_of_pos hcs]
      rfl
    have htake : (cs ++ '}' :: rest).takeWhile isNameChar = cs := by
      rw [List.takeWhile_append_of_pos hcs]
      simp [List.takeWhile, show isNameChar '}' = false by decide]
    simp only [List.cons_append, readName?, if_pos hc, hdrop, htake]

theorem Names.head {name : List Char} {ref : Reference} (h : Names name ref) :
    ∃ c cs, name = c :: cs ∧ c ≠ '}' ∧ c ≠ '?' ∧ c ≠ '!' := by
  obtain ⟨⟨c, cs, rfl, hc, -⟩, -⟩ := names_iff.1 h
  refine ⟨c, cs, rfl, ?_, ?_, ?_⟩ <;>
  · rintro rfl
    exact absurd hc (by decide)

theorem readBody?_name {name rest : List Char} {ref : Reference} (h : Names name ref) :
    readBody? (name ++ '}' :: rest) = some (ofName name, rest) := by
  have hread : readName? (name ++ '}' :: rest) = some (name, rest) := readName?_iff.2 ⟨rfl, ref, h⟩
  obtain ⟨c, cs, rfl, h1, h2, h3⟩ := h.head
  rw [List.cons_append] at hread ⊢
  unfold readBody?
  split
  · simp_all
  · simp_all
  · simp_all
  · rw [hread]
    rfl

theorem readBody?_iff {cs rest : List Char} {d : Directive} :
    readBody? cs = some (d, rest) ↔ ∃ body, cs = body ++ '}' :: rest ∧ Body body d := by
  constructor
  · intro h
    unfold readBody? at h
    split at h
    · simp only [Option.some.injEq, Prod.mk.injEq] at h
      obtain ⟨rfl, rfl⟩ := h
      exact ⟨[], rfl, .close⟩
    all_goals
      obtain ⟨⟨name, r⟩, hr, he⟩ := Option.map_eq_some_iff.1 h
      simp only [Prod.mk.injEq] at he
      obtain ⟨rfl, rfl⟩ := he
      obtain ⟨rfl, ref, hname⟩ := readName?_iff.1 hr
      have href := (names_iff.1 hname).2
    · rw [href]
      exact ⟨'?' :: name, rfl, .whenTrue hname⟩
    · rw [href]
      exact ⟨'!' :: name, rfl, .whenFalse hname⟩
    · refine ⟨name, rfl, ?_⟩
      unfold ofName
      split
      · rename_i helse
        exact .otherwise (isElse_iff.1 helse)
      · rename_i helse
        rw [href]
        exact .substitute hname (mt isElse_iff.2 helse)
  · rintro ⟨body, rfl, hbody⟩
    cases hbody with
    | close => rfl
    | @otherwise word h =>
      obtain ⟨ref, hname⟩ := exists_names h
      rw [readBody?_name hname, ofName, if_pos (isElse_iff.2 h)]
    | @substitute name ref h hne =>
      rw [readBody?_name h, ofName, if_neg (mt isElse_iff.1 hne), (names_iff.1 h).2]
    | @whenTrue name ref h =>
      have hread : readName? (name ++ '}' :: rest) = some (name, rest) :=
        readName?_iff.2 ⟨rfl, ref, h⟩
      show (readName? (name ++ '}' :: rest)).map _ = _
      rw [hread, ← (names_iff.1 h).2]
      rfl
    | @whenFalse name ref h =>
      have hread : readName? (name ++ '}' :: rest) = some (name, rest) :=
        readName?_iff.2 ⟨rfl, ref, h⟩
      show (readName? (name ++ '}' :: rest)).map _ = _
      rw [hread, ← (names_iff.1 h).2]
      rfl

theorem read?_iff {cs rest : List Char} {d : Directive} :
    read? cs = some (d, rest) ↔
      ∃ body, cs = '%' :: '{' :: (body ++ '}' :: rest) ∧ Body body d := by
  constructor
  · intro h
    unfold read? at h
    split at h
    · obtain ⟨body, rfl, hbody⟩ := readBody?_iff.1 h
      exact ⟨body, rfl, hbody⟩
    · cases h
  · rintro ⟨body, rfl, hbody⟩
    exact readBody?_iff.2 ⟨body, rfl, hbody⟩

/-! ## No percent sign inside -/

theorem Names.not_mem {name : List Char} {ref : Reference} (h : Names name ref) : '%' ∉ name := by
  obtain ⟨⟨c, cs, rfl, hc, hcs⟩, -⟩ := names_iff.1 h
  intro hm
  rcases List.mem_cons.1 hm with he | hm
  · rw [← he] at hc
    exact absurd hc (by decide)
  · exact absurd (hcs _ hm) (by decide)

theorem Body.not_mem {body : List Char} {d : Directive} (h : Body body d) : '%' ∉ body := by
  cases h with
  | close => exact List.not_mem_nil
  | otherwise h =>
    obtain ⟨ref, hname⟩ := exists_names h
    exact hname.not_mem
  | substitute h _ => exact h.not_mem
  | whenTrue h | whenFalse h => simpa using h.not_mem

end LayeredConfig.Directive
