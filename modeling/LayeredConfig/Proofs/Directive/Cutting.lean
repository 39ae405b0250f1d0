import LayeredConfig.Proofs.Directive.Search
import LayeredConfig.Proofs.Directive.Selection

/-!
# Cutting in place

`Block.read` takes the text behind an opener apart and `cut` joins what is kept. The same text comes
out of a loop that cuts the text as it goes: it searches from a cursor, counts the blocks that are
open, and keeps in mind from where on text is to be dropped.

* `Cutting.step`: one round of the loop, at the directive that was found; `Cutting.run`: the loop.
* `Cutting.run_branch`: up to the end of a branch the loop only moves its cursor.
* `cutInPlace_eq`: the loop gives what `cut` gives.
* `expandRest_loop`: an expansion as a loop over the text and a position in it.
-/

namespace LayeredConfig.Directive

/-- What the loop knows: the text, where its search goes on, from where on text is to be dropped if
any is, how many blocks are open, and whether an `otherwise` was met outside of them. -/
structure Cutting where
  value : List Char
  cursor : Nat
  dropFrom : Option Nat
  depth : Nat
  seenElse : Bool

namespace Cutting

/-- One round, at the directive that was found: the result, or what the next round knows. -/
def step (keepFirst : Bool) (s : Cutting) (m : Span) : Except BlockFault (List Char) ⊕ Cutting :=
  match m.directive with
  | .whenTrue _ | .whenFalse _ => .inr { s with depth := s.depth + 1, cursor := m.stop }
  | .close =>
    if s.depth ≠ 0 then .inr { s with depth := s.depth - 1, cursor := m.stop }
    else
      match s.dropFrom with
      | none => .inl (.ok (s.value.take m.start ++ s.value.drop m.stop))
      | some low => .inl (.ok (s.value.take low ++ s.value.drop m.stop))
  | .otherwise =>
    if s.depth ≠ 0 then .inr { s with cursor := m.stop }
    else if s.seenElse then .inl (.error .doubleElse)
    else if keepFirst then
      .inr { s with
        seenElse := true
        value := s.value.take m.start ++ s.value.drop m.stop
        dropFrom := some m.start
        cursor := m.start }
    else
      -- without a start nothing is dropped and the search begins anew; it has one here
      .inr { s with
        seenElse := true
        value := (s.dropFrom.elim s.value s.value.take) ++ s.value.drop m.stop
        dropFrom := none
        cursor := s.dropFrom.getD 0 }
  | .substitute _ => .inr { s with cursor := m.stop }

/-- Every round has less text before it, save for the first `otherwise`, which comes once. -/
theorem step_lt {keepFirst : Bool} {s s' : Cutting} {m : Span}
    (hm : nextFrom? s.value s.cursor = some m) (h : s.step keepFirst m = .inr s') :
    Prod.Lex (· < ·) (· < ·) ((!s'.seenElse).toNat, s'.value.length - s'.cursor)
      ((!s.seenElse).toNat, s.value.length - s.cursor) := by
  obtain ⟨hle, hlt, hstop⟩ := nextFrom?_bounds hm
  have hskip : s.value.length - m.stop < s.value.length - s.cursor := by omega
  unfold step at h
  split at h
  · obtain rfl := Sum.inr.inj h
    exact .right _ hskip
  · obtain rfl := Sum.inr.inj h
    exact .right _ hskip
  · split at h
    · obtain rfl := Sum.inr.inj h
      exact .right _ hskip
    · split at h <;> cases h
  · split at h
    · obtain rfl := Sum.inr.inj h
      exact .right _ hskip
    · split at h
      · cases h
      · rename_i hseen
        rw [Bool.not_eq_true] at hseen
        have hfirst : (!true).toNat < (!s.seenElse).toNat := by
          rw [hseen]
          exact Nat.zero_lt_one
        split at h
        · obtain rfl := Sum.inr.inj h
          exact .left _ _ hfirst
        · obtain rfl := Sum.inr.inj h
          exact .left _ _ hfirst
  · obtain rfl := Sum.inr.inj h
    exact .right _ hskip

def run (keepFirst : Bool) (s : Cutting) : Except BlockFault (List Char) :=
  match _hm : nextFrom? s.value s.cursor with
  | none => .error .unclosed
  | some m =>
    match _h : s.step keepFirst m with
    | .inl result => result
    | .inr s' => run keepFirst s'
termination_by ((!s.seenElse).toNat, s.value.length - s.cursor)
decreasing_by exact step_lt _hm _h

end Cutting

def cutInPlace (value : List Char) (opener : Span) (keepFirst : Bool) :
    Except BlockFault (List Char) :=
  if keepFirst then
    Cutting.run true
      ⟨value.take opener.start ++ value.drop opener.stop, opener.start, none, 0, false⟩
  else Cutting.run false ⟨value, opener.stop, some opener.start, 0, false⟩

/-! ## A branch -/

theorem behind_found {cs : List Char} {pos : Nat} {f : Found}
    (hf : find false (cs.drop pos) = some f) :
    cs.drop (f.at pos).stop = f.after ∧ escapes false (cs.take (f.at pos).stop) = false := by
  obtain ⟨m, hcs, hm, hlength, -, -⟩ := find_marks hf
  have hstop : (f.at pos).stop = pos + (f.before ++ m).length := by
    rw [List.length_append, ← hlength, ← Nat.add_assoc]
    rfl
  rw [← List.append_assoc] at hcs
  constructor
  · rw [hstop, ← List.drop_drop, hcs, List.drop_left]
  · rw [hstop, List.take_add, hcs, List.take_left, escapes_append, escapes_append, hm.escapes]

namespace Cutting

variable {keepFirst : Bool} {s : Cutting} {m : Span} {b : Branch}

theorem run_of_none (h : nextFrom? s.value s.cursor = none) :
    s.run keepFirst = .error .unclosed := by
  rw [run]
  split
  · rfl
  · simp_all

theorem run_of_some (h : nextFrom? s.value s.cursor = some m) :
    s.run keepFirst = (s.step keepFirst m).elim id (run keepFirst) := by
  rw [run]
  split
  · simp_all
  · rename_i m' hm
    obtain rfl := Option.some.inj (h.symm.trans hm)
    split <;> rename_i hstep <;> rw [hstep] <;> rfl

def ending (s : Cutting) (b : Branch) : Span :=
  ⟨s.cursor + b.text.length, s.value.length - b.after.length - (s.cursor + b.text.length), b.ending⟩

/-- How the loop goes on where a branch ends, if it does. -/
def goOn (keepFirst : Bool) (s : Cutting) : Option Branch → Except BlockFault (List Char)
  | none => .error .unclosed
  | some b => ({ s with depth := 0 }.step keepFirst (s.ending b)).elim id (run keepFirst)

variable {f : Found}

theorem next_of_find (hplain : escapes false (s.value.take s.cursor) = false)
    (hf : find false (s.value.drop s.cursor) = some f) :
    nextFrom? s.value s.cursor = some (f.at s.cursor) := by
  rw [nextFrom?_eq, hplain, hf]
  rfl

theorem run_here {other : Bool} (hplain : escapes false (s.value.take s.cursor) = false)
    (hf : find false (s.value.drop s.cursor) = some f) (hdepth : s.depth = 0)
    (hd : f.directive = if other then .otherwise else .close) :
    s.run keepFirst = s.goOn keepFirst (some ⟨f.before, other, f.after⟩) := by
  have hending : s.ending ⟨f.before, other, f.after⟩ = f.at s.cursor := by
    obtain ⟨m, hcs, -, hlength, -, -⟩ := find_marks hf
    have hlen := congrArg List.length hcs
    simp only [List.length_drop, List.length_append] at hlen
    simp only [ending, Found.at, Branch.ending, hd, Span.mk.injEq, true_and, and_true]
    omega
  rw [run_of_some (next_of_find hplain hf), goOn, hending, ← hdepth]

theorem run_skip {depth : Nat} {r : Option Branch}
    (hplain : escapes false (s.value.take s.cursor) = false)
    (hf : find false (s.value.drop s.cursor) = some f)
    (hstep : s.step keepFirst (f.at s.cursor) =
      .inr { s with depth := depth, cursor := (f.at s.cursor).stop })
    (hrun : { s with depth := depth, cursor := (f.at s.cursor).stop }.run keepFirst =
      { s with depth := depth, cursor := (f.at s.cursor).stop }.goOn keepFirst r) :
    s.run keepFirst =
      s.goOn keepFirst (r.map (Branch.prepend (f.upTo (s.value.drop s.cursor)))) := by
  rw [run_of_some (next_of_find hplain hf), hstep, Sum.elim_inr, hrun]
  cases r with
  | none => rfl
  | some b =>
    -- the end of the branch stands where it stood, whichever place it is counted from
    have hending : { s with depth := depth, cursor := (f.at s.cursor).stop }.ending b =
        s.ending (b.prepend (f.upTo (s.value.drop s.cursor))) := by
      obtain ⟨m, hcs, -, hlength, -, -⟩ := find_marks hf
      have hup := f.upTo_length (s.value.drop s.cursor) (Nat.le_of_lt (find_length hf))
      have hlen := congrArg List.length hcs
      simp only [List.length_append] at hlen
      simp only [ending, Branch.prepend, Found.at, Span.stop, List.length_append, Span.mk.injEq]
      refine ⟨by omega, by omega, rfl⟩
    rw [goOn, hending]
    rfl

/-- Up to the end of a branch the loop only moves its cursor and counts. -/
theorem run_branch (hplain : escapes false (s.value.take s.cursor) = false) :
    s.run keepFirst = s.goOn keepFirst (readBranch s.depth (s.value.drop s.cursor)) := by
  generalize hcs : s.value.drop s.cursor = cs
  generalize hdepth : s.depth = depth
  fun_induction readBranch depth cs generalizing s with
  | case1 depth cs hnone =>
    refine run_of_none ?_
    rw [nextFrom?_eq, hplain, hcs, hnone]
    rfl
  | case2 cs f hf hd | case3 cs f hf hd => exact run_here hplain (hcs ▸ hf) hdepth hd
  | case4 cs f hf depth hd ih =>
    subst hcs
    refine run_skip hplain hf ?_ (ih (behind_found hf).2 (behind_found hf).1 rfl)
    simp only [step, Found.at, hd, hdepth]
    rfl
  | case5 cs f hf ref depth hd ih | case6 cs f hf ref depth hd ih =>
    subst hcs
    refine run_skip hplain hf ?_ (ih (behind_found hf).2 (behind_found hf).1 rfl)
    simp only [step, Found.at, hd, hdepth]
  | case7 cs f hf depth hclose helse hclose' htrue hfalse ih =>
    subst hcs
    refine run_skip hplain hf ?_ (ih (behind_found hf).2 (behind_found hf).1 rfl)
    rcases hd : f.directive with ref | ref | ref | _ | _
    · simp only [step, Found.at, hd, hdepth]
    · exact (htrue ref hd).elim
    · exact (hfalse ref hd).elim
    · have hdeep : depth ≠ 0 := helse hd
      simp only [step, Found.at, hd, hdepth, if_pos hdeep]
    · cases depth with
      | zero => exact (hclose hd rfl).elim
      | succ d => exact (hclose' d hd rfl).elim

theorem goOn_of_close (h : b.hasOther = false) :
    s.goOn keepFirst (some b) =
      .ok (s.dropFrom.elim (s.value.take (s.ending b).start) s.value.take ++
        s.value.drop (s.ending b).stop) := by
  have hd : (s.ending b).directive = .close := by
    rw [ending, Branch.ending, h]
    rfl
  simp only [goOn, step, hd]
  cases s.dropFrom <;> rfl

theorem goOn_of_otherwise (h : b.hasOther = true) :
    s.goOn keepFirst (some b) =
      if s.seenElse then .error .doubleElse
      else if keepFirst then
        run keepFirst ⟨s.value.take (s.ending b).start ++ s.value.drop (s.ending b).stop,
          (s.ending b).start, some (s.ending b).start, 0, true⟩
      else
        run keepFirst ⟨s.dropFrom.elim s.value s.value.take ++ s.value.drop (s.ending b).stop,
          s.dropFrom.getD 0, none, 0, true⟩ := by
  have hd : (s.ending b).directive = .otherwise := by
    rw [ending, Branch.ending, h]
    rfl
  simp only [goOn, step, hd]
  cases s.seenElse <;> cases keepFirst <;> rfl

theorem ending_parts {depth : Nat} (hb : readBranch depth (s.value.drop s.cursor) = some b) :
    s.value.take (s.ending b).start = s.value.take s.cursor ++ b.text ∧
      s.value.drop (s.ending b).stop = b.after := by
  obtain ⟨mark, hcs, hmark⟩ := (readBranch_reads hb).text
  obtain ⟨ds, rfl, -, -⟩ := hmark.opens
  have hlen := congrArg List.length hcs
  have hstop : (s.ending b).stop = s.cursor + (b.text ++ '%' :: ds).length := by
    simp only [List.length_drop, List.length_append, List.length_cons] at hlen
    simp only [ending, Span.stop, List.length_append, List.length_cons]
    omega
  constructor
  · rw [ending, List.take_add, hcs, List.take_left]
  · rw [hstop, ← List.drop_drop, hcs, ← List.append_assoc, List.drop_left]

theorem run_append {front behind : List Char} (dropFrom : Option Nat) (seenElse : Bool)
    (hplain : escapes false front = false) :
    run keepFirst ⟨front ++ behind, front.length, dropFrom, 0, seenElse⟩ =
      match readBranch 0 behind with
      | none => .error .unclosed
      | some b =>
        if b.hasOther then
          if seenElse then .error .doubleElse
          else if keepFirst then
            run keepFirst ⟨front ++ b.text ++ b.after, (front ++ b.text).length,
              some (front ++ b.text).length, 0, true⟩
          else
            run keepFirst ⟨dropFrom.elim (front ++ behind) (front ++ behind).take ++ b.after,
              dropFrom.getD 0, none, 0, true⟩
        else .ok (dropFrom.elim (front ++ b.text) (front ++ behind).take ++ b.after) := by
  generalize hs : Cutting.mk (front ++ behind) front.length dropFrom 0 seenElse = s
  have htake : s.value.take s.cursor = front := by rw [← hs]; exact List.take_left
  have hdrop : s.value.drop s.cursor = behind := by rw [← hs]; exact List.drop_left
  have hdepth : s.depth = 0 := by rw [← hs]
  rw [run_branch (by rw [htake, hplain]), hdepth, hdrop]
  rcases hb : readBranch 0 behind with _ | b
  · rfl
  · obtain ⟨hfront, hafter⟩ := ending_parts (hdrop ▸ hb)
    have hstart : (s.ending b).start = (front ++ b.text).length := by
      rw [List.length_append, ← hs]
      rfl
    rw [htake] at hfront
    cases hother : b.hasOther with
    | false =>
      rw [goOn_of_close hother, hfront, hafter, ← hs]
      simp only [hother, Bool.false_eq_true, if_false]
    | true =>
      rw [goOn_of_otherwise hother, hfront, hafter, hstart, ← hs]
      simp only [hother, if_true]

end Cutting

/-! ## The whole cut -/

theorem cutInPlace_first {cs : List Char} {o : Span} (ho : Stands cs o) :
    cutInPlace cs o true =
      (Block.read (cs.drop o.stop)).map (cs.take o.start ++ ·.select true) := by
  have hlt := ho.start_lt
  have hstop := ho.stop_le
  have hfront : (cs.take o.start).length = o.start := by rw [List.length_take]; omega
  have hfirst := @Cutting.run_append true _ (cs.drop o.stop) none false ho.plain_start
  rw [hfront] at hfirst
  rw [Block.read, cutInPlace, if_pos rfl, hfirst]
  rcases hb : readBranch 0 (cs.drop o.stop) with _ | b
  · rfl
  have hplain : escapes false (cs.take o.start ++ b.text) = false := by
    rw [escapes_append, ho.plain_start, (readBranch_reads hb).plain]
  cases hother : b.hasOther with
  | false =>
    simp only [hother, Bool.false_eq_true, if_false, Option.elim_none, List.append_assoc]
    rfl
  | true =>
    -- what is kept stays in front of the cursor, and the rest is dropped at the end
    simp only [hother, Bool.false_eq_true, if_false, if_true]
    rw [Cutting.run_append _ true hplain]
    rcases readBranch 0 b.after with _ | c
    · rfl
    cases hother' : c.hasOther with
    | true => simp only [hother', if_true, Except.map]
    | false =>
      simp only [hother', Bool.false_eq_true, if_false, Option.elim_some]
      rw [List.take_left, List.append_assoc]
      rfl

theorem cutInPlace_second {cs : List Char} {o : Span} (ho : Stands cs o) :
    cutInPlace cs o false =
      (Block.read (cs.drop o.stop)).map (cs.take o.start ++ ·.select false) := by
  have hlt := ho.start_lt
  have hstop := ho.stop_le
  have hfront : (cs.take o.start).length = o.start := by rw [List.length_take]; omega
  have hopened : (cs.take o.stop).length = o.stop := by rw [List.length_take]; omega
  have hfirst := @Cutting.run_append false _ (cs.drop o.stop) (some o.start) false ho.plain_stop
  rw [hopened, List.take_append_drop] at hfirst
  rw [Block.read, cutInPlace, if_neg Bool.false_ne_true, hfirst]
  rcases readBranch 0 (cs.drop o.stop) with _ | b
  · rfl
  cases hother : b.hasOther with
  | false =>
    simp only [hother, Bool.false_eq_true, if_false, Option.elim_some]
    rfl
  | true =>
    -- the first branch is gone, and the cursor is where the opener was
    have hsecond := @Cutting.run_append false _ b.after none true ho.plain_start
    rw [hfront] at hsecond
    simp only [hother, Bool.false_eq_true, if_false, if_true, Option.elim_some, Option.getD_some]
    rw [hsecond]
    rcases readBranch 0 b.after with _ | c
    · rfl
    cases hother' : c.hasOther with
    | true => simp only [hother', if_true, Except.map]
    | false =>
      simp only [hother', Bool.false_eq_true, if_false, Option.elim_none, List.append_assoc]
      rfl

/-- The loop gives what is put together from the parts of the block. -/
theorem cutInPlace_eq {cs : List Char} {o : Span} (ho : Stands cs o) (keepFirst : Bool) :
    cutInPlace cs o keepFirst =
      (Block.read (cs.drop o.stop)).map (cs.take o.start ++ ·.select keepFirst) := by
  cases keepFirst with
  | true => exact cutInPlace_first ho
  | false => exact cutInPlace_second ho

theorem cut_eq {text : String} {o : Span} (ho : Stands text.toList o) (keepFirst : Bool) :
    cut text o keepFirst = (cutInPlace text.toList o keepFirst).map String.ofList := by
  rw [cutInPlace_eq ho, cut]
  cases Block.read (text.toList.drop o.stop) <;> rfl

end LayeredConfig.Directive

namespace LayeredConfig.Expansion

variable {answer : String → State → Outcome} {prefixKey key : String} {s : State}

theorem expandRest_of_some {done rest : List Char} {f : Directive.Found}
    (hf : Directive.find (Text.endsIn (· == '%') done) rest = some f) :
    expandRest answer prefixKey key done rest s =
      match f.directive with
      | .close => (.error (.strayClose key), s)
      | .otherwise => (.error (.strayElse key), s)
      | .substitute ref =>
        match follow answer prefixKey key ref s with
        | (.error e, s') => (.error e, s')
        | (.ok text, s') =>
          expandRest answer prefixKey key (done ++ f.before ++ text.toList) f.after s'
      | .whenTrue ref | .whenFalse ref =>
        match follow answer prefixKey key ref s with
        | (.error e, s') => (.error e, s')
        | (.ok text, s') =>
          match Directive.Block.read f.after with
          | .error e => (.error (blockFault key e), s')
          | .ok block =>
            let keepFirst := Setting.isTrue text == (f.directive matches .whenTrue _)
            expandRest answer prefixKey key (done ++ f.before) (block.select keepFirst) s' := by
  rw [expandRest]
  split
  · simp_all
  · rename_i g hg
    obtain rfl := Option.some.inj (hf.symm.trans hg)
    cases f.directive with
    | substitute ref => rfl
    | whenTrue ref | whenFalse ref =>
      dsimp only
      rcases follow answer prefixKey key ref s with ⟨_ | text, s'⟩
      · rfl
      · dsimp only
        split <;> rename_i hb <;> rw [hb]
    | otherwise => rfl
    | close => rfl

/-- An expansion is a loop over the text as it stands and a position in it: a reference is replaced
and the position is behind the new text, a block is cut down in place and the position is where its
opener stood. -/
theorem expandRest_loop {value : List Char} {pos : Nat} (hpos : pos ≤ value.length) :
    expandRest answer prefixKey key (value.take pos) (value.drop pos) s =
      match Directive.nextFrom? value pos with
      | none => (.ok (String.ofList value), s.finish key (String.ofList value))
      | some m =>
        match m.directive with
        | .close => (.error (.strayClose key), s)
        | .otherwise => (.error (.strayElse key), s)
        | .substitute ref =>
          match follow answer prefixKey key ref s with
          | (.error e, s') => (.error e, s')
          | (.ok text, s') =>
            let value' := value.take m.start ++ text.toList ++ value.drop m.stop
            let pos' := m.start + text.toList.length
            expandRest answer prefixKey key (value'.take pos') (value'.drop pos') s'
        | .whenTrue ref | .whenFalse ref =>
          match follow answer prefixKey key ref s with
          | (.error e, s') => (.error e, s')
          | (.ok text, s') =>
            let keepFirst := Setting.isTrue text == (m.directive matches .whenTrue _)
            match Directive.cutInPlace value m keepFirst with
            | .error e => (.error (blockFault key e), s')
            | .ok value' =>
              expandRest answer prefixKey key (value'.take m.start) (value'.drop m.start) s' := by
  rw [Directive.nextFrom?_eq, Directive.escapes_false]
  rcases hf : Directive.find (Text.endsIn (· == '%') (value.take pos)) (value.drop pos) with _ | f
  · rw [expandRest]
    split
    · rw [List.take_append_drop]
      rfl
    · simp_all
  have hlen : (value.take pos).length = pos := by rw [List.length_take]; omega
  obtain ⟨m, hrest, -, hlength, -, -⟩ := Directive.find_marks hf
  have hstands : Directive.Stands value (f.at pos) := by
    rw [← Directive.escapes_false] at hf
    have h := Directive.find_stands hf
    rwa [hlen, List.take_append_drop] at h
  have hfront : value.take (f.at pos).start = value.take pos ++ f.before := by
    rw [Directive.Found.at, List.take_add, hrest, List.take_left]
  have hafter : value.drop (f.at pos).stop = f.after := by
    rw [Directive.Found.at, Directive.Span.stop, hlength, Nat.add_assoc, ← List.length_append,
      ← List.drop_drop, hrest, ← List.append_assoc, List.drop_left]
  have hstart : (value.take pos ++ f.before).length = (f.at pos).start := by
    rw [List.length_append, hlen]
    rfl
  have hdirective : (f.at pos).directive = f.directive := rfl
  rw [expandRest_of_some hf, Option.map_some]
  simp only [hdirective, Directive.cutInPlace_eq hstands, hfront, hafter]
  cases f.directive with
  | substitute ref =>
    dsimp only
    rcases follow answer prefixKey key ref s with ⟨_ | text, s'⟩
    · rfl
    · dsimp only
      rw [← hstart, ← List.length_append, List.take_left, List.drop_left]
  | whenTrue ref | whenFalse ref =>
    dsimp only
    rcases follow answer prefixKey key ref s with ⟨_ | text, s'⟩
    · rfl
    · dsimp only
      rcases Directive.Block.read f.after with _ | b
      · rfl
      · dsimp only [Except.map]
        rw [← hstart, List.take_left, List.drop_left]
  | otherwise => rfl
  | close => rfl

end LayeredConfig.Expansion
