import LayeredConfig.Expansion
import LayeredConfig.Proofs.Directive.Template

/-!
# Evaluation of trees

What well-formed values mean: the value of a key is that of the tree of its text, and the value of
a tree is joined from its literal texts, the values of its references and those of the branches
that its conditions keep. Nothing is cut or searched twice.

* `Evaluates s prefixKey term v`: the term has the value `v`.
* `Consults s prefixKey term k`: the evaluation of the term asks for the value of `k`.
* `Evaluates.of_append`, `Consults.of_append`: joined trees are evaluated one by one.
-/

namespace LayeredConfig.Expansion

open Directive (condition)

inductive Term where
  | key (name : String)
  | reference (ref : Reference)
  | tree (t : Template)

/-- The value of a term, found by recursion over trees. -/
inductive Evaluates (s : State) (prefixKey : String) : Term → String → Prop
  | stored {k : String} (hk : k ∉ s.pending) : Evaluates s prefixKey (.key k) (s.text k)
  | expanded {k v : String} {t : Template} (hk : k ∈ s.pending) (ht : t.Parses (s.text k).toList)
      (h : Evaluates s prefixKey (.tree t) v) : Evaluates s prefixKey (.key k) v
  | direct {name v : String} (h : Evaluates s prefixKey (.key name) v) :
      Evaluates s prefixKey (.reference (.direct name)) v
  | indirect {suffix stem v : String} (hs : Evaluates s prefixKey (.key prefixKey) stem)
      (h : Evaluates s prefixKey (.key (stem ++ suffix)) v) :
      Evaluates s prefixKey (.reference (.indirect suffix)) v
  | text {cs : List Char} : Evaluates s prefixKey (.tree (.text cs)) (String.ofList cs)
  | reference {b : List Char} {ref : Reference} {next : Template} {v w : String}
      (h : Evaluates s prefixKey (.reference ref) v) (hn : Evaluates s prefixKey (.tree next) w) :
      Evaluates s prefixKey (.tree (.reference b ref next)) (String.ofList b ++ (v ++ w))
  | optional {b : List Char} {wanted : Bool} {ref : Reference} {first next : Template}
      {c v w : String} (h : Evaluates s prefixKey (.reference ref) c)
      (hb : Evaluates s prefixKey
        (.tree (if Setting.isTrue c == wanted then first else .text [])) v)
      (hn : Evaluates s prefixKey (.tree next) w) :
      Evaluates s prefixKey (.tree (.optional b wanted ref first next))
        (String.ofList b ++ (v ++ w))
  | choice {b : List Char} {wanted : Bool} {ref : Reference} {first second next : Template}
      {c v w : String} (h : Evaluates s prefixKey (.reference ref) c)
      (hb : Evaluates s prefixKey
        (.tree (if Setting.isTrue c == wanted then first else second)) v)
      (hn : Evaluates s prefixKey (.tree next) w) :
      Evaluates s prefixKey (.tree (.choice b wanted ref first second next))
        (String.ofList b ++ (v ++ w))

/-- The evaluation of a term asks for the value of a key. Of a block it looks at the branch that it
keeps only. -/
inductive Consults (s : State) (prefixKey : String) : Term → String → Prop
  | key {k : String} : Consults s prefixKey (.key k) k
  | expanded {k x : String} {t : Template} (hk : k ∈ s.pending)
      (ht : t.Parses (s.text k).toList) (h : Consults s prefixKey (.tree t) x) :
      Consults s prefixKey (.key k) x
  | direct {name x : String} (h : Consults s prefixKey (.key name) x) :
      Consults s prefixKey (.reference (.direct name)) x
  | stem {suffix x : String} (h : Consults s prefixKey (.key prefixKey) x) :
      Consults s prefixKey (.reference (.indirect suffix)) x
  | indirect {suffix stem x : String} (hs : Evaluates s prefixKey (.key prefixKey) stem)
      (h : Consults s prefixKey (.key (stem ++ suffix)) x) :
      Consults s prefixKey (.reference (.indirect suffix)) x
  | ofReference {b : List Char} {ref : Reference} {next : Template} {x : String}
      (h : Consults s prefixKey (.reference ref) x) :
      Consults s prefixKey (.tree (.reference b ref next)) x
  | behindReference {b : List Char} {ref : Reference} {next : Template} {x : String}
      (h : Consults s prefixKey (.tree next) x) :
      Consults s prefixKey (.tree (.reference b ref next)) x
  | ofOptional {b : List Char} {wanted : Bool} {ref : Reference} {first next : Template}
      {x : String} (h : Consults s prefixKey (.reference ref) x) :
      Consults s prefixKey (.tree (.optional b wanted ref first next)) x
  | insideOptional {b : List Char} {wanted : Bool} {ref : Reference} {first next : Template}
      {c x : String} (hc : Evaluates s prefixKey (.reference ref) c)
      (h : Consults s prefixKey
        (.tree (if Setting.isTrue c == wanted then first else .text [])) x) :
      Consults s prefixKey (.tree (.optional b wanted ref first next)) x
  | behindOptional {b : List Char} {wanted : Bool} {ref : Reference} {first next : Template}
      {x : String} (h : Consults s prefixKey (.tree next) x) :
      Consults s prefixKey (.tree (.optional b wanted ref first next)) x
  | ofChoice {b : List Char} {wanted : Bool} {ref : Reference} {first second next : Template}
      {x : String} (h : Consults s prefixKey (.reference ref) x) :
      Consults s prefixKey (.tree (.choice b wanted ref first second next)) x
  | insideChoice {b : List Char} {wanted : Bool} {ref : Reference} {first second next : Template}
      {c x : String} (hc : Evaluates s prefixKey (.reference ref) c)
      (h : Consults s prefixKey
        (.tree (if Setting.isTrue c == wanted then first else second)) x) :
      Consults s prefixKey (.tree (.choice b wanted ref first second next)) x
  | behindChoice {b : List Char} {wanted : Bool} {ref : Reference} {first second next : Template}
      {x : String} (h : Consults s prefixKey (.tree next) x) :
      Consults s prefixKey (.tree (.choice b wanted ref first second next)) x

variable {s : State} {prefixKey : String}

theorem Evaluates.unique {term : Term} {v v' : String} (h : Evaluates s prefixKey term v)
    (h' : Evaluates s prefixKey term v') : v = v' := by
  induction h generalizing v' with
  | stored hk =>
    cases h' with
    | stored => rfl
    | expanded hk' => exact absurd hk' hk
  | expanded hk ht _ ih =>
    cases h' with
    | stored hk' => exact absurd hk hk'
    | expanded _ ht' h' =>
      obtain rfl := ht.unique ht'
      exact ih h'
  | direct _ ih =>
    cases h' with
    | direct h' => exact ih h'
  | indirect _ _ ihs ih =>
    cases h' with
    | indirect hs' h' =>
      obtain rfl := ihs hs'
      exact ih h'
  | text => cases h'; rfl
  | reference _ _ ih ihn =>
    cases h' with
    | reference h' hn' => rw [ih h', ihn hn']
  | optional _ _ _ ih ihb ihn =>
    cases h' with
    | optional h' hb' hn' =>
      obtain rfl := ih h'
      rw [ihb hb', ihn hn']
  | choice _ _ _ ih ihb ihn =>
    cases h' with
    | choice h' hb' hn' =>
      obtain rfl := ih h'
      rw [ihb hb', ihn hn']

/-! ## Joined trees -/

theorem Evaluates.of_prepend {xs : List Char} {t : Template} {v : String}
    (h : Evaluates s prefixKey (.tree (t.prepend xs)) v) :
    ∃ w, v = String.ofList xs ++ w ∧ Evaluates s prefixKey (.tree t) w := by
  cases t <;> cases h
  · exact ⟨_, by rw [String.ofList_append], .text⟩
  · rename_i h hn
    exact ⟨_, by rw [String.ofList_append, String.append_assoc], .reference h hn⟩
  · rename_i h hb hn
    exact ⟨_, by rw [String.ofList_append, String.append_assoc], .optional h hb hn⟩
  · rename_i h hb hn
    exact ⟨_, by rw [String.ofList_append, String.append_assoc], .choice h hb hn⟩

theorem Evaluates.of_append {t t' : Template} {v : String}
    (h : Evaluates s prefixKey (.tree (t.append t')) v) :
    ∃ w w', v = w ++ w' ∧ Evaluates s prefixKey (.tree t) w ∧
      Evaluates s prefixKey (.tree t') w' := by
  induction t generalizing v with
  | text cs =>
    obtain ⟨w, rfl, hw⟩ := h.of_prepend
    exact ⟨_, w, rfl, .text, hw⟩
  | reference b ref next ih =>
    cases h with
    | reference h hn =>
      obtain ⟨w, w', rfl, hw, hw'⟩ := ih hn
      exact ⟨_, w', by simp only [String.append_assoc], .reference h hw, hw'⟩
  | optional b wanted ref first next _ ih =>
    cases h with
    | optional h hb hn =>
      obtain ⟨w, w', rfl, hw, hw'⟩ := ih hn
      exact ⟨_, w', by simp only [String.append_assoc], .optional h hb hw, hw'⟩
  | choice b wanted ref first second next _ _ ih =>
    cases h with
    | choice h hb hn =>
      obtain ⟨w, w', rfl, hw, hw'⟩ := ih hn
      exact ⟨_, w', by simp only [String.append_assoc], .choice h hb hw, hw'⟩

theorem Consults.of_prepend {xs : List Char} {t : Template} {x : String}
    (h : Consults s prefixKey (.tree (t.prepend xs)) x) : Consults s prefixKey (.tree t) x := by
  cases t <;> cases h
  · exact .ofReference ‹_›
  · exact .behindReference ‹_›
  · exact .ofOptional ‹_›
  · exact .insideOptional ‹_› ‹_›
  · exact .behindOptional ‹_›
  · exact .ofChoice ‹_›
  · exact .insideChoice ‹_› ‹_›
  · exact .behindChoice ‹_›

theorem Consults.of_append {t t' : Template} {x : String}
    (h : Consults s prefixKey (.tree (t.append t')) x) :
    Consults s prefixKey (.tree t) x ∨ Consults s prefixKey (.tree t') x := by
  induction t with
  | text cs => exact .inr h.of_prepend
  | reference b ref next ih =>
    cases h with
    | ofReference h => exact .inl (.ofReference h)
    | behindReference h => exact (ih h).imp_left .behindReference
  | optional b wanted ref first next _ ih =>
    cases h with
    | ofOptional h => exact .inl (.ofOptional h)
    | insideOptional hc h => exact .inl (.insideOptional hc h)
    | behindOptional h => exact (ih h).imp_left .behindOptional
  | choice b wanted ref first second next _ _ ih =>
    cases h with
    | ofChoice h => exact .inl (.ofChoice h)
    | insideChoice hc h => exact .inl (.insideChoice hc h)
    | behindChoice h => exact (ih h).imp_left .behindChoice

/-! ## The first directive -/

theorem consults_first {cs : List Char} {f : Directive.Found} {ref : Reference} {t : Template}
    {x : String} (hf : Directive.find false cs = some f) (hd : f.directive.reference? = some ref)
    (ht : t.Parses cs) (h : Consults s prefixKey (.reference ref) x) :
    Consults s prefixKey (.tree t) x := by
  have hcond : ∀ wanted, f.directive = condition wanted ref →
      Consults s prefixKey (.tree t) x := by
    intro wanted hc
    obtain ⟨b, first, second, next, -, -, -, -, ⟨rfl, -⟩ | rfl⟩ := ht.of_condition hf hc
    · exact .ofOptional h
    · exact .ofChoice h
  rcases hdir : f.directive with r | r | r | _ | _ <;> rw [hdir] at hd <;> cases hd
  · obtain ⟨next, rfl, -⟩ := ht.of_substitute hf hdir
    exact .ofReference h
  · exact hcond true hdir
  · exact hcond false hdir

end LayeredConfig.Expansion
