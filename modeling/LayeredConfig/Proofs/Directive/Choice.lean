import LayeredConfig.Proofs.Directive.Escape
import LayeredConfig.Proofs.Directive.Template
import LayeredConfig.Setting.Truth

/-!
# Choices and truth

A choice is a block with two branches and nothing around it. Which branch is kept depends on the
truth of a text whose escapes are not decoded yet.

* `choice`: a block as it is written; `Block.read_plain`: it is read into its branches if these hold
  no directive.
* `mem_decodeEscapes_percent`, `decodeEscapes_of_not_mem`: decoding takes percent signs away, but
  never the last one, and a text without any stays as it is.
* `Setting.isTrue_unescape`: so the truth of a text is that of the decoded text.
-/

namespace LayeredConfig

namespace Directive

def opening (wanted : Bool) (name : String) : String :=
  "%\x7b" ++ (if wanted then "?" else "!") ++ name ++ "\x7d"

def choice (wanted : Bool) (name first second : String) : String :=
  opening wanted name ++ first ++ "%\x7belse\x7d" ++ second ++ "%\x7b\x7d"

/-! ## Texts without a percent sign -/

section plain
variable {cs : List Char} (hcs : '%' ∉ cs)
include hcs

theorem find_of_not_mem (e : Bool) : find e cs = none := by
  have hbehind := find_behind hcs e []
  rw [List.append_nil] at hbehind
  exact hbehind

theorem escapes_of_not_mem : escapes false cs = false := by
  cases he : escapes false cs with
  | false => rfl
  | true =>
    obtain ⟨us, rfl⟩ := escapes_iff.1 he
    simp at hcs

theorem decodeEscapes_of_not_mem : decodeEscapes cs = cs := by
  have hbehind := decodeEscapes_behind hcs []
  rw [List.append_nil] at hbehind
  rw [hbehind, decodeEscapes, List.append_nil]

end plain

theorem mem_decodeEscapes_percent {cs : List Char} : '%' ∈ decodeEscapes cs ↔ '%' ∈ cs := by
  fun_induction decodeEscapes cs with
  | case1 cs ih => simp
  | case2 c cs hne ih => simp [ih]
  | case3 => simp

/-! ## Reading a choice -/

theorem Block.read_plain {xs ys mark mark' after : List Char} (hx : find false xs = none)
    (hxe : escapes false xs = false) (hy : find false ys = none) (hye : escapes false ys = false)
    (hm : Marks mark .otherwise) (hm' : Marks mark' .close) :
    Block.read (xs ++ (mark ++ (ys ++ (mark' ++ after)))) = .ok ⟨xs, ys, after⟩ := by
  have hfirst : readBranch 0 (xs ++ (mark ++ (ys ++ (mark' ++ after)))) =
      some ⟨xs, true, ys ++ (mark' ++ after)⟩ :=
    readBranch_found 0 (find_of_marks hx hxe hm _)
  have hsecond : readBranch 0 (ys ++ (mark' ++ after)) = some ⟨ys, false, after⟩ :=
    readBranch_found 0 (find_of_marks hy hye hm' after)
  simp [Block.read, hfirst, hsecond]

theorem marks_otherwise : Marks "%\x7belse\x7d".toList .otherwise := by
  have hread : read? "%\x7belse\x7d".toList = some (.otherwise, []) := by decide
  obtain ⟨mark, he, hm⟩ := read?_marks hread
  rw [he, List.append_nil]
  exact hm

theorem marks_close : Marks "%\x7b\x7d".toList .close := by
  have hread : read? "%\x7b\x7d".toList = some (.close, []) := by decide
  obtain ⟨mark, he, hm⟩ := read?_marks hread
  rw [he, List.append_nil]
  exact hm

theorem read_choice {wanted : Bool} {name first second : String} {d : Directive}
    (hname : read? (opening wanted name).toList = some (d, []))
    (hfirst : '%' ∉ first.toList) (hsecond : '%' ∉ second.toList) :
    ∃ after length, find false (choice wanted name first second).toList =
        some ⟨[], d, length, after⟩ ∧
      Block.read after = .ok ⟨first.toList, second.toList, []⟩ := by
  obtain ⟨mark, hmark, hm⟩ := read?_marks hname
  have htext : (choice wanted name first second).toList =
      [] ++ (mark ++ (first.toList ++ ("%\x7belse\x7d".toList ++
        (second.toList ++ ("%\x7b\x7d".toList ++ []))))) := by
    simp only [choice, String.toList_append, hmark, List.append_nil, List.nil_append,
      List.append_assoc]
  refine ⟨_, mark.length, ?_, Block.read_plain (find_of_not_mem hfirst false)
    (escapes_of_not_mem hfirst) (find_of_not_mem hsecond false) (escapes_of_not_mem hsecond)
    marks_otherwise marks_close⟩
  rw [htext]
  exact find_of_marks rfl rfl hm _

end Directive

/-! ## Truth -/

namespace Setting

theorem isTrue_of_percent {text : String} (h : '%' ∈ text.toList) : isTrue text = false := by
  have hlower : '%' ∈ (Text.lowerAscii text).toList := by
    rw [Text.lowerAscii, String.toList_ofList]
    exact List.mem_map.2 ⟨'%', h, rfl⟩
  have hwords : ∀ word ∈ trueWords, '%' ∉ word.toList := by decide
  rw [isTrue, ← Bool.not_eq_true, List.contains_iff_mem]
  exact fun hmem => hwords _ hmem hlower

theorem isTrue_unescape (text : String) : isTrue (Directive.unescape text) = isTrue text := by
  by_cases h : '%' ∈ text.toList
  · have hdecoded : '%' ∈ (Directive.unescape text).toList := by
      rw [Directive.unescape, String.toList_ofList]
      exact Directive.mem_decodeEscapes_percent.2 h
    rw [isTrue_of_percent h, isTrue_of_percent hdecoded]
  · rw [Directive.unescape, Directive.decodeEscapes_of_not_mem h, String.ofList_toList]

end Setting

end LayeredConfig
