import LayeredConfig.Redundancy

/-!
# How the masks of a rule are edited

What is recorded for some categories changes bits of these categories only, and in the same way for
each of them: some masks get a bit set or cleared, and others are left alone. An `Edit` says which.
So the masks can be looked at one category at a time.

* `Rules.edit`: an edit of the categories in a mask. `edit_edit`: two of them in a row are one.
* `Bits`: what the masks hold for one category; `bits_edit`: what an edit does to it.
* `Bits.meaning`: what the bits of a category stand for, of which some are not looked at.
* `edit_comm`: edits of disjoint categories can be made in either order.
* `edit_injective`: edits that do the same to all masks are the same.
-/

namespace LayeredConfig.Redundancy

variable {c d : Categories}

/-! ## Masks -/

/-- The categories `c` of a mask are set or cleared, or left alone. -/
def edited (mask c : Categories) : Option Bool → Categories
  | none => mask
  | some on => assign mask c on

theorem getLsbD_assign (mask c : Categories) (on : Bool) (b : Nat) :
    (assign mask c on).getLsbD b = if c.getLsbD b then on else mask.getLsbD b := by
  by_cases hb : b < 17
  · cases on <;> cases hc : c.getLsbD b <;>
      simp [assign, hc, hb, -BitVec.getLsbD_eq_getElem]
  · have hlarge : 17 ≤ b := Nat.le_of_not_lt hb
    rw [BitVec.getLsbD_of_ge _ b hlarge, BitVec.getLsbD_of_ge c b hlarge,
      BitVec.getLsbD_of_ge mask b hlarge]
    rfl

theorem getLsbD_edited (mask c : Categories) (change : Option Bool) (b : Nat) :
    (edited mask c change).getLsbD b =
      if c.getLsbD b then change.getD (mask.getLsbD b) else mask.getLsbD b := by
  cases change with
  | none => simp [edited]
  | some on => exact getLsbD_assign mask c on b

theorem edited_edited (mask c : Categories) (first second : Option Bool) :
    edited (edited mask c first) c second = edited mask c (second.or first) := by
  apply BitVec.eq_of_getLsbD_eq
  intro b _
  simp only [getLsbD_edited]
  cases c.getLsbD b <;> cases second <;> rfl

theorem getLsbD_empty (b : Nat) : (0 : Categories).getLsbD b = false := BitVec.getLsbD_zero

theorem exists_getLsbD (hc : c ≠ 0) : ∃ b, c.getLsbD b = true := by
  refine Classical.byContradiction fun hnone => hc (BitVec.eq_of_getLsbD_eq fun b _ => ?_)
  rw [getLsbD_empty]
  exact Bool.eq_false_iff.2 fun hb => hnone ⟨b, hb⟩

theorem edited_injective (hc : c ≠ 0) {change change' : Option Bool}
    (h : ∀ mask, edited mask c change = edited mask c change') : change = change' := by
  obtain ⟨b, hb⟩ := exists_getLsbD hc
  have hbit : ∀ mask : Categories, change.getD (mask.getLsbD b) = change'.getD (mask.getLsbD b) := by
    intro mask
    have hmask := congrArg (BitVec.getLsbD · b) (h mask)
    simpa only [getLsbD_edited, hb, if_true] using hmask
  have hzero := hbit 0
  have hones := hbit (BitVec.allOnes 17)
  have hin : b < 17 := BitVec.lt_of_getLsbD hb
  rw [getLsbD_empty] at hzero
  rw [BitVec.getLsbD_allOnes, decide_eq_true hin] at hones
  rcases change with _ | _ | _ <;> rcases change' with _ | _ | _ <;> simp_all

/-! ## Edits -/

/-- Which masks of a rule get a bit set or cleared, and which are left alone. -/
structure Edit where
  reported : Option Bool := none
  whole : Option Bool := none
  restricted : Option Bool := none
  installed : Option Bool := none
  hasSign : Option Bool := none
  positive : Option Bool := none
  deriving DecidableEq, Repr

def Edit.andThen (first second : Edit) : Edit where
  reported := second.reported.or first.reported
  whole := second.whole.or first.whole
  restricted := second.restricted.or first.restricted
  installed := second.installed.or first.installed
  hasSign := second.hasSign.or first.hasSign
  positive := second.positive.or first.positive

def Rules.edit (c : Categories) (e : Edit) (r : Rules) : Rules where
  reported := edited r.reported c e.reported
  whole := edited r.whole c e.whole
  restricted := edited r.restricted c e.restricted
  installed := edited r.installed c e.installed
  hasSign := edited r.hasSign c e.hasSign
  positive := edited r.positive c e.positive

theorem edit_edit (c : Categories) (first second : Edit) (r : Rules) :
    (r.edit c first).edit c second = r.edit c (first.andThen second) := by
  simp only [Rules.edit, Edit.andThen, edited_edited]

theorem edit_injective (hc : c ≠ 0) {e e' : Edit} (h : ∀ r : Rules, r.edit c e = r.edit c e') :
    e = e' := by
  obtain ⟨_, _, _, _, _, _⟩ := e
  obtain ⟨_, _, _, _, _, _⟩ := e'
  have hmasks := fun mask => Rules.mk.inj (h ⟨mask, mask, mask, mask, mask, mask⟩)
  congr 1
  · exact edited_injective hc fun mask => (hmasks mask).1
  · exact edited_injective hc fun mask => (hmasks mask).2.1
  · exact edited_injective hc fun mask => (hmasks mask).2.2.1
  · exact edited_injective hc fun mask => (hmasks mask).2.2.2.1
  · exact edited_injective hc fun mask => (hmasks mask).2.2.2.2.1
  · exact edited_injective hc fun mask => (hmasks mask).2.2.2.2.2

/-! ## One category at a time -/

structure Bits where
  reported : Bool
  whole : Bool
  restricted : Bool
  installed : Bool
  hasSign : Bool
  positive : Bool
  deriving DecidableEq, Repr

def Rules.bits (r : Rules) (b : Nat) : Bits where
  reported := r.reported.getLsbD b
  whole := r.whole.getLsbD b
  restricted := r.restricted.getLsbD b
  installed := r.installed.getLsbD b
  hasSign := r.hasSign.getLsbD b
  positive := r.positive.getLsbD b

def Bits.edit (e : Edit) (x : Bits) : Bits where
  reported := e.reported.getD x.reported
  whole := e.whole.getD x.whole
  restricted := e.restricted.getD x.restricted
  installed := e.installed.getD x.installed
  hasSign := e.hasSign.getD x.hasSign
  positive := e.positive.getD x.positive

theorem bits_edit (c : Categories) (e : Edit) (r : Rules) (b : Nat) :
    (r.edit c e).bits b = if c.getLsbD b then (r.bits b).edit e else r.bits b := by
  simp only [Rules.bits, Rules.edit, getLsbD_edited]
  cases c.getLsbD b <;> rfl

theorem ext_bits {r r' : Rules} (h : ∀ b, r.bits b = r'.bits b) : r = r' := by
  obtain ⟨_, _, _, _, _, _⟩ := r
  obtain ⟨_, _, _, _, _, _⟩ := r'
  have hbits := fun b => Bits.mk.inj (h b)
  congr 1 <;> refine BitVec.eq_of_getLsbD_eq fun b _ => ?_
  · exact (hbits b).1
  · exact (hbits b).2.1
  · exact (hbits b).2.2.1
  · exact (hbits b).2.2.2.1
  · exact (hbits b).2.2.2.2.1
  · exact (hbits b).2.2.2.2.2

theorem edit_empty (e : Edit) (r : Rules) : r.edit 0 e = r := by
  refine ext_bits fun b => ?_
  rw [bits_edit, getLsbD_empty, if_neg Bool.false_ne_true]

theorem edit_comm (h : c &&& d = 0) (e e' : Edit) (r : Rules) :
    (r.edit c e).edit d e' = (r.edit d e').edit c e := by
  refine ext_bits fun b => ?_
  have hb : (c.getLsbD b && d.getLsbD b) = false := by
    rw [← BitVec.getLsbD_and, h, getLsbD_empty]
  simp only [bits_edit]
  cases hc : c.getLsbD b <;> cases hd : d.getLsbD b <;> simp_all

/-! ## What the bits mean -/

/-- What is recorded for a category: the sign of its rule, if it has one, and the rule. -/
structure Meaning where
  sign : Option Bool
  rule : Rule
  deriving DecidableEq, Repr

/-- The mask of plus signs counts for categories with a sign, those for all entries and for the
restriction count for categories that are reported, and that for installed items for categories with
a restriction. -/
def Bits.meaning (x : Bits) : Meaning where
  sign := if x.hasSign then some x.positive else none
  rule :=
    if x.reported then .report x.whole (if x.restricted then some x.installed else none) else .off

def Rules.meaning (r : Rules) (b : Nat) : Meaning := (r.bits b).meaning

def Edit.sign : Option Bool → Edit
  | none => { hasSign := some false }
  | some plus => { hasSign := some true, positive := some plus }

def Edit.rule : Rule → Edit
  | .off => { reported := some false }
  | .report whole none =>
    { reported := some true, whole := some whole, restricted := some false }
  | .report whole (some inst) =>
    { reported := some true, whole := some whole, restricted := some true, installed := some inst }

def Edit.to (m : Meaning) : Edit := (sign m.sign).andThen (rule m.rule)

theorem edit_andThen (first second : Edit) (x : Bits) :
    x.edit (first.andThen second) = (x.edit first).edit second := by
  simp only [Bits.edit, Edit.andThen, Option.getD_or]

theorem meaning_edit_to (m : Meaning) (x : Bits) : (x.edit (.to m)).meaning = m := by
  obtain ⟨sign, rule⟩ := m
  rcases sign with _ | plus <;> rcases rule with _ | ⟨whole, _ | inst⟩ <;> rfl

end LayeredConfig.Redundancy
