import LayeredConfig.Proofs.Directive.Escape
import LayeredConfig.Proofs.Directive.Nesting

/-!
# Literal texts

A text is written as a literal by doubling the percent sign of every opener in it. No directive is
read in what is written, and decoding gives the text back.

* `escape`: a text as a literal.
* `find_encodeEscapes`: no directive is found in a literal, whatever stands in front of it;
  `references_escape`: so a value that is a literal refers to nothing.
* `unescape_escape`: a literal is decoded to its text.
-/

namespace LayeredConfig.Directive

/-- Puts a second percent sign in front of every opener. -/
def encodeEscapes : List Char → List Char
  | '%' :: '{' :: cs => '%' :: '%' :: '{' :: encodeEscapes cs
  | c :: cs => c :: encodeEscapes cs
  | [] => []

def escape (text : String) : String := String.ofList (encodeEscapes text.toList)

theorem encodeEscapes_head? (cs : List Char) : (encodeEscapes cs).head? = cs.head? := by
  fun_cases encodeEscapes cs <;> rfl

theorem not_opener_encodeEscapes (cs : List Char) : ¬['%', '{'] <+: encodeEscapes cs := by
  fun_cases encodeEscapes cs with
  | case1 cs => simp
  | case2 c cs hne =>
    intro hp
    obtain ⟨hc, rest, hrest⟩ := List.cons_prefix_cons.1 hp
    have hhead : cs.head? = some '{' := by
      rw [← encodeEscapes_head?, ← hrest]
      rfl
    obtain ⟨ds, rfl⟩ := List.head?_eq_some_iff.1 hhead
    exact hne ds hc.symm rfl
  | case3 => simp

theorem decodeEscapes_encodeEscapes (cs : List Char) : decodeEscapes (encodeEscapes cs) = cs := by
  fun_induction encodeEscapes cs with
  | case1 cs ih => rw [decodeEscapes, ih]
  | case2 c cs hne ih =>
    have hopen : ¬['%', '%', '{'] <+: c :: encodeEscapes cs := fun hp =>
      not_opener_encodeEscapes cs (List.cons_prefix_cons.1 hp).2
    rw [decodeEscapes_cons hopen, ih]
  | case3 => rfl

theorem unescape_escape (text : String) : unescape (escape text) = text := by
  rw [unescape, escape, String.toList_ofList, decodeEscapes_encodeEscapes, String.ofList_toList]

theorem find_encodeEscapes (e : Bool) (cs : List Char) : find e (encodeEscapes cs) = none := by
  fun_induction encodeEscapes cs generalizing e with
  | case1 cs ih => simp [find, read?, ih]
  | case2 c cs hne ih =>
    have hread : read? (c :: encodeEscapes cs) = none := by
      rcases hr : read? (c :: encodeEscapes cs) with _ | ⟨d, rest⟩
      · rfl
      · refine absurd (read?_opens hr) fun hp => ?_
        have hcons : encodeEscapes (c :: cs) = c :: encodeEscapes cs := encodeEscapes.eq_2 c cs hne
        exact not_opener_encodeEscapes (c :: cs) (hcons ▸ hp)
    simp [find, hread, ih]
  | case3 => rfl

theorem references_escape (text : String) : references (escape text) = [] := by
  have hfind : find false (escape text).toList = none := by
    rw [escape, String.toList_ofList, find_encodeEscapes]
  rw [references, spans_eq_nil_iff.2 hfind, List.filterMap_nil]

end LayeredConfig.Directive
