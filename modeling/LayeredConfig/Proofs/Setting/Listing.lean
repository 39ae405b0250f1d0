import LayeredConfig.Proofs.Rc.Assignment
import LayeredConfig.Setting.Listing

/-!
# What the listing of a setting says

Read as an rc file, an entry of a listing is one assignment among comments. It is just that if the
value that is assigned can stand for itself between single quotes, and each text that is put in a
comment may stand there.

* `shown`: the value that the entry assigns; `heading` and `remark`: the texts of its comments.
* `listing_eq`: the entry in terms of these.
* `Legible`: when the entry is read as it is meant; `effects_listing` says what it does then.
-/

namespace LayeredConfig.Setting

/-- The value that an entry assigns; an ad hoc setting has no default to assign. -/
def shown (useDefaults : Bool) (s : Setting) : String :=
  if s.kind = .adHoc then s.raw else if useDefaults then s.default else s.raw

def heading (s : Setting) : List String :=
  if s.kind = .adHoc then ["locally added:"] else [kindTitle s.kind, s.description]

def remark (useDefaults : Bool) (s : Setting) : List String :=
  if s.kind = .adHoc ∨ ¬ s.changed then []
  else if useDefaults then ["was locally changed to:", assignment s.key s.raw]
  else ["changed locally, default was:", assignment s.key s.default]

def commentOf (text : String) : List Char := "# ".toList ++ (Rc.commented text.toList ++ ['\n'])

/-- The entry is read as it is meant. -/
structure Legible (useDefaults : Bool) (s : Setting) : Prop where
  value : Rc.isQuotable (s.shown useDefaults).toList = true
  comments : ∀ text ∈ s.heading ++ s.remark useDefaults, Rc.isCommentable text.toList = true

instance (useDefaults : Bool) (s : Setting) : Decidable (s.Legible useDefaults) :=
  decidable_of_iff (Rc.isQuotable (s.shown useDefaults).toList = true ∧
      ∀ text ∈ s.heading ++ s.remark useDefaults, Rc.isCommentable text.toList = true)
    ⟨fun h => ⟨h.1, h.2⟩, fun h => ⟨h.value, h.comments⟩⟩

theorem toList_assignment (key value : String) :
    (assignment key value).toList = Rc.assignment key.toList value.toList := by
  simp [assignment, Rc.assignment]

theorem toList_continueComment (text : String) :
    (continueComment text).toList = Rc.commented text.toList := by
  rw [continueComment, String.toList_ofList]
  rfl

theorem commented_of_not_mem {cs : List Char} (h : '\n' ∉ cs) : Rc.commented cs = cs := by
  induction cs with
  | nil => rfl
  | cons c cs ih =>
    rw [List.mem_cons, not_or] at h
    have hc : (c == '\n') = false := by simp [Ne.symm h.1]
    rw [Rc.commented, List.flatMap_cons, hc]
    exact congrArg (c :: ·) (ih h.2)

theorem commentOf_kindTitle (kind : Kind) :
    commentOf (kindTitle kind) = ("# " ++ kindTitle kind ++ "\n").toList := by
  cases kind <;> rfl

theorem commentOf_eq (text : String) :
    commentOf text = ("# " ++ continueComment text ++ "\n").toList := by
  rw [commentOf, ← toList_continueComment, String.toList_append, String.toList_append,
    List.append_assoc]
  rfl

theorem effects_commentOf_iff (text : String) :
    (∀ tail, Rc.effects (commentOf text ++ tail) = Rc.effects tail) ↔
      Rc.isCommentable text.toList = true := by
  rw [← Rc.effects_comment_iff]
  refine forall_congr' fun tail => ?_
  rw [commentOf, List.append_assoc, List.append_assoc]
  rfl

theorem effects_comments {texts : List String}
    (h : ∀ text ∈ texts, Rc.isCommentable text.toList = true) (tail : List Char) :
    Rc.effects (texts.flatMap commentOf ++ tail) = Rc.effects tail := by
  induction texts with
  | nil => rfl
  | cons text texts ih =>
    rw [List.flatMap_cons, List.append_assoc, (effects_commentOf_iff text).2 (h text (by simp)),
      ih fun t ht => h t (by simp [ht])]

section entry
variable {s : Setting} (hkey : Rc.isName s.key.toList = true)
include hkey

theorem commentOf_assignment (value : String) :
    commentOf (assignment s.key value) =
      ("# " ++ assignment s.key (continueComment value) ++ "\n").toList := by
  have hname : Rc.commented s.key.toList = s.key.toList := by
    refine commented_of_not_mem fun hn => ?_
    obtain ⟨c, cs, hcs, hchars⟩ := Rc.isName_cons hkey
    exact absurd (hchars '\n' (hcs ▸ hn)).2.1 (by decide)
  have hcommented : Rc.commented (assignment s.key value).toList =
      (assignment s.key (continueComment value)).toList := by
    rw [toList_assignment, toList_assignment, toList_continueComment]
    simp only [Rc.assignment, Rc.commented, List.flatMap_append, List.flatMap_cons] at hname ⊢
    rw [hname]
    rfl
  rw [commentOf, hcommented, String.toList_append, String.toList_append, List.append_assoc]
  rfl

theorem listing_eq (useDefaults : Bool) :
    (listing useDefaults s).toList =
      s.heading.flatMap commentOf ++
        ((assignment s.key (s.shown useDefaults) ++ "\n").toList ++
          ((s.remark useDefaults).flatMap commentOf ++ "\n".toList)) := by
  have hadded : commentOf "locally added:" = "# locally added:\n".toList := rfl
  have hto : commentOf "was locally changed to:" =
      ("# " ++ "was locally changed to:" ++ "\n").toList := rfl
  have hwas : commentOf "changed locally, default was:" =
      ("# " ++ "changed locally, default was:" ++ "\n").toList := rfl
  have hend : "\n\n".toList = "\n".toList ++ "\n".toList := rfl
  have hmark : "\n# ".toList = "\n".toList ++ "# ".toList := rfl
  by_cases hkind : s.kind = .adHoc
  · simp only [listing, heading, remark, shown, hkind, if_true, true_or, hadded,
      List.flatMap_cons, List.flatMap_nil, String.toList_append, List.append_assoc, hend,
      List.nil_append, List.append_nil]
  · by_cases hchanged : s.changed = true <;> cases useDefaults <;>
      simp only [listing, heading, remark, shown, hkind, hchanged, if_true, if_false, false_or,
        not_true_eq_false, not_false_eq_true, Bool.false_eq_true, commentOf_kindTitle,
        commentOf_eq s.description, commentOf_assignment hkey, hto, hwas, List.flatMap_cons,
        List.flatMap_nil, String.toList_append, List.append_assoc, hend, hmark,
        List.nil_append, List.append_nil]

theorem effects_listing {useDefaults : Bool} (h : s.Legible useDefaults) (tail : List Char) :
    Rc.effects ((listing useDefaults s).toList ++ tail) =
      (.assign s.key.toList (s.shown useDefaults).toList .single, true) :: Rc.effects tail := by
  have hassignment : ∀ rest, (assignment s.key (s.shown useDefaults) ++ "\n").toList ++ rest =
      Rc.assignment s.key.toList (s.shown useDefaults).toList ++ '\n' :: rest := fun rest => by
    rw [String.toList_append, toList_assignment, List.append_assoc]
    rfl
  have hhead : ∀ text ∈ s.heading, Rc.isCommentable text.toList = true := fun text ht =>
    h.comments text (List.mem_append_left _ ht)
  have hremark : ∀ text ∈ s.remark useDefaults, Rc.isCommentable text.toList = true :=
    fun text ht => h.comments text (List.mem_append_right _ ht)
  rw [listing_eq hkey, List.append_assoc, effects_comments hhead, List.append_assoc, hassignment,
    Rc.effects_assignment hkey h.value, List.append_assoc, effects_comments hremark]
  exact congrArg _ (Rc.effects_space (by decide) tail)

end entry

theorem effects_listAll {useDefaults : Bool} {ss : List Setting}
    (hkeys : ∀ s ∈ ss, Rc.isName s.key.toList = true) (h : ∀ s ∈ ss, s.Legible useDefaults) :
    Rc.effects (listAll useDefaults ss).toList =
      ss.map fun s => (.assign s.key.toList (s.shown useDefaults).toList .single, true) := by
  rw [listAll, String.toList_join, List.flatMap_map]
  induction ss with
  | nil =>
    rw [Rc.effects, List.flatMap_nil, Rc.statementsFrom]
    rfl
  | cons s ss ih =>
    rw [List.flatMap_cons, effects_listing (hkeys s (by simp)) (h s (by simp)),
      ih (fun t ht => hkeys t (by simp [ht])) fun t ht => h t (by simp [ht]), List.map_cons]

theorem shown_cases (useDefaults : Bool) (s : Setting) :
    s.shown useDefaults = s.raw ∨ s.shown useDefaults = s.default := by
  unfold shown
  split
  · exact .inl rfl
  · split
    · exact .inr rfl
    · exact .inl rfl

theorem comment_cases {useDefaults : Bool} {s : Setting} {text : String}
    (h : text ∈ s.heading ++ s.remark useDefaults) :
    text ∈ ["locally added:", "was locally changed to:", "changed locally, default was:"] ∨
      text = kindTitle s.kind ∨ text = s.description ∨
      text = assignment s.key s.raw ∨ text = assignment s.key s.default := by
  rcases List.mem_append.1 h with h | h
  · unfold heading at h
    split at h <;> simp at h <;> grind
  · unfold remark at h
    split at h
    · cases h
    · split at h <;> simp at h <;> grind

/-- The texts of a setting hold no quote, no backslash and no carriage return. -/
def IsPlain (s : Setting) : Prop :=
  ∀ text ∈ [s.raw, s.default, s.description], ∀ c ∈ text.toList, c ≠ '\'' ∧ c ≠ '\\' ∧ c ≠ '\r'

instance (s : Setting) : Decidable s.IsPlain :=
  @List.decidableBAll _ _ (fun _ => List.decidableBAll _ _) _

section plain
variable {useDefaults : Bool} {s : Setting} (hkey : Rc.isName s.key.toList = true)
  (hplain : s.IsPlain)
include hkey hplain

theorem not_mem_assignment {value : String} (hvalue : value ∈ [s.raw, s.default, s.description]) :
    '\r' ∉ (assignment s.key value).toList := by
  intro hr
  obtain ⟨c, cs, hcs, hchars⟩ := Rc.isName_cons hkey
  have hv : '\r' ∉ value.toList := fun hr => (hplain value hvalue '\r' hr).2.2 rfl
  rw [toList_assignment, Rc.assignment, hcs] at hr
  simp only [List.mem_append, List.mem_cons, List.not_mem_nil, or_false, Char.reduceEq, hv] at hr
  exact absurd (hchars '\r' (by simpa using hr)).2.1 (by decide)

theorem not_mem_comment {text : String} (h : text ∈ s.heading ++ s.remark useDefaults) :
    '\r' ∉ text.toList := by
  rcases comment_cases h with hwords | rfl | rfl | rfl | rfl
  · have hfixed : ∀ words ∈ ["locally added:", "was locally changed to:",
        "changed locally, default was:"], '\r' ∉ words.toList := by decide
    exact hfixed text hwords
  · cases s.kind <;> decide
  · exact fun hr => (hplain s.description (by simp) '\r' hr).2.2 rfl
  · exact not_mem_assignment hkey hplain (by simp)
  · exact not_mem_assignment hkey hplain (by simp)

theorem Legible.of_plain : s.Legible useDefaults := by
  refine ⟨Rc.isQuotable_of_plain fun c hc => ?_, fun text ht =>
    Rc.isCommentable_of_not_mem (not_mem_comment hkey hplain ht)⟩
  rcases shown_cases useDefaults s with he | he <;> rw [he] at hc
  · exact ⟨(hplain s.raw (by simp) c hc).1, (hplain s.raw (by simp) c hc).2.1⟩
  · exact ⟨(hplain s.default (by simp) c hc).1, (hplain s.default (by simp) c hc).2.1⟩

theorem not_mem_listing : '\r' ∉ (listing useDefaults s).toList := by
  have hcomments : ∀ texts : List String, (∀ text ∈ texts, '\r' ∉ text.toList) →
      '\r' ∉ texts.flatMap commentOf := by
    intro texts ht hr
    obtain ⟨text, hin, hr⟩ := List.mem_flatMap.1 hr
    refine ht text hin ?_
    simp only [commentOf, List.mem_append, List.mem_singleton, Char.reduceEq, or_false] at hr
    obtain ⟨c, hc, hr⟩ := List.mem_flatMap.1 (hr.resolve_left (by decide))
    split at hr
    · exact absurd hr (by decide)
    · rwa [List.mem_singleton.1 hr]
  have hvalue : s.shown useDefaults ∈ [s.raw, s.default, s.description] := by
    rcases shown_cases useDefaults s with he | he <;> simp [he]
  have hheading := hcomments s.heading fun text ht =>
    not_mem_comment hkey hplain (List.mem_append_left (s.remark useDefaults) ht)
  have hremark := hcomments (s.remark useDefaults) fun text ht =>
    not_mem_comment hkey hplain (List.mem_append_right s.heading ht)
  have hassignment := not_mem_assignment hkey hplain hvalue
  rw [listing_eq hkey]
  simp [hheading, hremark, hassignment]

end plain

theorem not_mem_listAll {useDefaults : Bool} {ss : List Setting}
    (hkeys : ∀ s ∈ ss, Rc.isName s.key.toList = true) (hplain : ∀ s ∈ ss, s.IsPlain) :
    '\r' ∉ (listAll useDefaults ss).toList := by
  rw [listAll, String.toList_join, List.flatMap_map]
  intro hr
  obtain ⟨s, hs, hr⟩ := List.mem_flatMap.1 hr
  exact not_mem_listing (hkeys s hs) (hplain s hs) hr

end LayeredConfig.Setting
