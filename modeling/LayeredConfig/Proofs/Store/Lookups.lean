import LayeredConfig.Proofs.Expansion.Lookups
import LayeredConfig.Proofs.Store.Build

/-!
# What a build looks up

Layering makes settings of the names that the values refer to, and expansion looks names up. A name
that is looked up but was not layered has the empty text, whatever the sources say.

* `lookups_sourced`: a name that a value refers to is looked up with its value from the sources, and
  so is one that is made from a stem in front. The prefix key itself is not layered on account of an
  indirect reference, and nothing is on account of a directive that is not there before a branch is
  joined to the text behind its block.
-/

namespace LayeredConfig.Store

open Expansion (Active Arises Cuts Names Remembers Runs State)

variable {h : Host} {s : Store} {c : Config}

/-- **Which look-ups see the sources.** Let the keys of a store that is built be expanded one after
the other, as a build does. While a key `k` is expanded behind the keys `before`, let the text of
some key ask for a name. It is looked up with its value from the sources exactly if it is layered,
or has none. It is layered if the layered value of the key refers to it outright, or makes an
indirect reference that comes to it with one of the stems. Otherwise it is the prefix key of an
indirect reference, or a name behind a text that is no stem, or the directive that asks for it has
only been made by a branch and the text behind its block. -/
theorem lookups_sourced (hb : (s.build h).1 = .ok c) {before : List String} {k : String}
    {chain : List String} {key target : String} {st : State}
    (hask : Active true s.prefixKey k ((s.start h).after s.prefixKey before) chain
      (.demand key target) st) :
    ((s.start h).text target = s.sourced h target ↔
      target ∈ (s.layered h).keys ∨ s.sourced h target = "") ∧
    ((.direct target ∈ Directive.references (s.sourced h key) ∧ target ∈ (s.layered h).keys) ∨
      (∃ suffix, .indirect suffix ∈ Directive.references (s.sourced h key) ∧
        (target = s.prefixKey ∨ ∃ stem, target = stem ++ suffix ∧
          ((s.start h).resolve s.prefixKey s.prefixKey).1 = .ok stem ∧
          (stem ∈ s.plan.stems → target ∈ (s.layered h).keys))) ∨
      ∃ d ref, Arises s.prefixKey k ((s.start h).after s.prefixKey before) key d ∧
        d.reference? = some ref ∧ Names s.prefixKey (s.start h) ref target) := by
  have hp := build_prepared hb
  have hm := (Remembers.refl s.prefixKey (s.start h)).after before
  refine ⟨hp.text_eq_iff, ?_⟩
  obtain ⟨hpending, ref, href | ⟨d, harises, hd⟩, hnames⟩ := hask.demand_cases hm
  · have hkey := ((hp.pending key).1 hpending).1
    rw [hp.text hkey] at href
    rcases hnames with rfl | ⟨suffix, rfl, rfl | ⟨stem, rfl, hstem⟩⟩
    · exact .inl ⟨href, hp.refers key hkey _ href target (by simp [Layering.targets])⟩
    · exact .inr (.inl ⟨suffix, href, .inl rfl⟩)
    · refine .inr (.inl ⟨suffix, href, .inr ⟨stem, rfl, hstem, fun hin => ?_⟩⟩)
      exact hp.refers key hkey _ href _ (List.mem_map.2 ⟨stem, hin, rfl⟩)
  · exact .inr (.inr ⟨d, ref, harises, hd, hnames⟩)

/-- A store whose prefix key only the environment knows, and whose stems are its value and the
empty text. -/
def unlisted : Store where
  defaults := [("A", "%{*x}"), ("K", "%{x}%{x}"), ("VAR_x", "1"), ("x", "0")].map
    fun e => Setting.make e.1 .string e.2 "" "" ""
  plan := { stems := ["VAR_", ""] }

def unlistedHost : Host where
  env := Table.ofList [("VARPREFIX", "VAR_")]

def unlistedValues : Table String :=
  Table.ofList [("A", "%{*x}"), ("K", "%{x}%{x}"), ("VAR_x", "1"), ("x", "0")]

def unlistedState : State where
  values := unlistedValues
  pending := KeySet.ofList ["A", "K"]

theorem unlisted_merge :
    (Layering.merge unlisted.plan unlistedHost unlisted.defaults).1 = .ok unlistedValues := rfl

theorem unlisted_layer :
    Layering.Closed unlisted.plan.stems (Layering.layer unlisted.defaults unlistedValues) ∧
      (Layering.layer unlisted.defaults unlistedValues).referring.elems =
        unlistedState.pending.elems := by
  decide +kernel

theorem unlisted_start : unlisted.start unlistedHost = unlistedState := by
  rw [(start_closed unlisted_merge unlisted_layer.1).1, KeySet.ext_elems unlisted_layer.2]
  rfl

theorem unlisted_expanded :
    ((unlisted.start unlistedHost).resolveAll "VARPREFIX" (unlisted.keys unlistedHost)).1 = .ok () ∧
      (unlisted.expanded unlistedHost).entries =
        [("A", "0"), ("K", "00"), ("VAR_x", "1"), ("x", "0")] := by
  rw [expanded, unlisted_start, (start_closed unlisted_merge unlisted_layer.1).2]
  decide_cbv

theorem unlisted_config : ∃ c, (unlisted.build unlistedHost).1 = .ok c ∧ c.item "A" = .ok "0" ∧
    c.item "VAR_x" = .ok "1" := by
  obtain ⟨hok, hentries⟩ := unlisted_expanded
  obtain ⟨c, hb⟩ := (exists_build_iff rfl unlisted_merge).2 hok
  have hA : (unlisted.expanded unlistedHost).get? "A" = some "0" := by
    rw [Table.get?, hentries]
    decide
  have hx : (unlisted.expanded unlistedHost).get? "VAR_x" = some "1" := by
    rw [Table.get?, hentries]
    decide
  exact ⟨c, hb, item_of_expanded hb hA, item_of_expanded hb hx⟩

theorem unlisted_finds :
    Directive.find (Text.endsIn (· == '%') []) "%{x}%{x}".toList =
      some ⟨[], .substitute (.direct "x"), 4, "%{x}".toList⟩ ∧
    Directive.find (Text.endsIn (· == '%') ['0']) "%{x}".toList =
      some ⟨[], .substitute (.direct "x"), 4, []⟩ ∧
    Directive.find (Text.endsIn (· == '%') []) "%{*x}".toList =
      some ⟨[], .substitute (.indirect "x"), 5, []⟩ ∧
    Directive.references "%{x}%{x}" = [.direct "x", .direct "x"] := by
  decide_cbv

theorem unlisted_K_lone : Expansion.Lone unlistedState "K" "x"
    [([], "%{x}%{x}".toList), (['0'], "%{x}".toList), (['0', '0'], [])] :=
  Expansion.Lone.of_steps (by decide) (by decide) (.substituted unlisted_finds.1 rfl)
    (.substituted unlisted_finds.2.1 rfl) rfl

theorem unlisted_K_cuts {key : String} {branch after : List Char} :
    ¬Cuts "VARPREFIX" "K" unlistedState key branch after := by
  intro hcut
  obtain ⟨p, hp, f, wanted, b, hf, hd, -⟩ := unlisted_K_lone.joins hcut.joins
  simp only [List.mem_cons, List.not_mem_nil, or_false] at hp
  rcases hp with rfl | rfl | rfl
  · obtain rfl := Option.some.inj (unlisted_finds.1.symm.trans hf)
    cases hd
  · obtain rfl := Option.some.inj (unlisted_finds.2.1.symm.trans hf)
    cases hd
  · cases hf

/-- `K` refers to `x` outright. -/
theorem unlisted_K_sees_x : ∃ c, (unlisted.build unlistedHost).1 = .ok c ∧
    (unlisted.start unlistedHost).text "x" = unlisted.sourced unlistedHost "x" := by
  obtain ⟨c, hb, -⟩ := unlisted_config
  have hstart : (unlisted.start unlistedHost).after "VARPREFIX" [] = unlistedState :=
    unlisted_start
  have hopen : Active true "VARPREFIX" "K" unlistedState ["K"] (.rest "K" [] "%{x}%{x}".toList)
    unlistedState.fresh := Active.start.opened (by decide)
  have hask := (hopen.asked unlisted_finds.1 rfl).direct
  rw [← hstart] at hask
  refine ⟨c, hb, ?_⟩
  obtain ⟨hsees, ⟨-, hin⟩ | ⟨suffix, hindirect, -⟩ | ⟨d, ref, ⟨branch, after, hcut, -⟩, -⟩⟩ :=
    lookups_sourced hb hask
  · exact hsees.2 (.inl hin)
  · have hrefs : Directive.references (unlisted.sourced unlistedHost "K") =
      [.direct "x", .direct "x"] := unlisted_finds.2.2.2
    simp [hrefs] at hindirect
  · exact absurd (hstart ▸ hcut) unlisted_K_cuts

/-- The environment knows the prefix key, and its value is one of the stems, but it is looked up
as if it had none. -/
theorem unlisted_A_misses_prefix : ∃ c, (unlisted.build unlistedHost).1 = .ok c ∧
    unlisted.sourced unlistedHost "VARPREFIX" = "VAR_" ∧ "VAR_" ∈ unlisted.plan.stems ∧
    (∃ chain st, Active true "VARPREFIX" "A" (unlisted.start unlistedHost) chain
      (.demand "A" "VARPREFIX") st) ∧
    (unlisted.start unlistedHost).text "VARPREFIX" = "" ∧
    ((unlisted.start unlistedHost).resolve "VARPREFIX" "VARPREFIX").1 = .ok "" ∧
    "" ∈ unlisted.plan.stems ∧ c.item "A" = .ok "0" ∧ c.item "VAR_x" = .ok "1" := by
  obtain ⟨c, hb, hA, hx⟩ := unlisted_config
  have hopen : Active true "VARPREFIX" "A" unlistedState ["A"] (.rest "A" [] "%{*x}".toList)
    unlistedState.fresh := Active.start.opened (by decide)
  rw [unlisted_start]
  have hask := hopen.asked unlisted_finds.2.2.1 rfl
  exact ⟨c, hb, rfl, by decide, ⟨_, _, hask.stem⟩, rfl, rfl, by decide, hA, hx⟩

/-- A store with a value in which a branch makes a directive with the text behind its block. -/
def seamed : Store where
  defaults := [("K", "%{?T}%{%{}*x}"), ("T", "1"), ("VARPREFIX", "VAR_")].map
    fun e => Setting.make e.1 .string e.2 "" "" ""

def seamedHost : Host where
  env := Table.ofList [("VAR_x", "v")]

def seamedState : State where
  values := Table.ofList [("K", "%{?T}%{%{}*x}"), ("T", "1"), ("VARPREFIX", "VAR_")]
  pending := KeySet.ofList ["K"]

theorem seamed_start : seamed.start seamedHost = seamedState := by
  have hmerge : (Layering.merge seamed.plan seamedHost seamed.defaults).1 =
    .ok seamedState.values := rfl
  have hlayer : Layering.Closed seamed.plan.stems
        (Layering.layer seamed.defaults seamedState.values) ∧
      (Layering.layer seamed.defaults seamedState.values).referring.elems =
        seamedState.pending.elems := by
    decide +kernel
  rw [(start_closed hmerge hlayer.1).1, KeySet.ext_elems hlayer.2]
  rfl

/-- The environment knows a name that is made from a stem, but it is looked up as if it had no
value: no value refers to it before a branch has been joined to the text behind its block. -/
theorem seamed_K_misses_x :
    seamed.sourced seamedHost "VAR_x" = "v" ∧ "VAR_" ∈ seamed.plan.stems ∧
    (∃ chain st, Active true "VARPREFIX" "K" (seamed.start seamedHost) chain
      (.demand "K" "VAR_x") st) ∧
    (seamed.start seamedHost).text "VAR_x" = "" := by
  have hfind : Directive.find (Text.endsIn (· == '%') []) "%{?T}%{%{}*x}".toList =
      some ⟨[], .whenTrue (.direct "T"), 5, "%{%{}*x}".toList⟩ := by decide_cbv
  have hread : Directive.Block.read "%{%{}*x}".toList = .ok ⟨['%', '{'], [], ['*', 'x', '}']⟩ := by
    cbv
  have hjoined : Directive.find (Text.endsIn (· == '%') []) "%{*x}".toList =
      some ⟨[], .substitute (.indirect "x"), 5, []⟩ := by decide_cbv
  have hopen : Active true "VARPREFIX" "K" seamedState ["K"] (.rest "K" [] "%{?T}%{%{}*x}".toList)
    seamedState.fresh := Active.start.opened (by decide)
  have hT : Runs true "VARPREFIX" (.demand "K" "T") (seamedState.fresh.enter "K")
      (.ok "1", seamedState.fresh.enter "K") := .called (by decide) (.stored (by decide))
  have hstem : Runs true "VARPREFIX" (.demand "K" "VARPREFIX") (seamedState.fresh.enter "K")
      (.ok "VAR_", seamedState.fresh.enter "K") := .called (by decide) (.stored (by decide))
  have hrest : Active true "VARPREFIX" "K" seamedState ["K"] (.rest "K" [] "%{*x}".toList)
    seamedState.fresh := hopen.selected hfind rfl (.direct hT) hread
  rw [seamed_start]
  exact ⟨rfl, by decide, ⟨_, _, (hrest.asked hjoined rfl).indirect hstem⟩, rfl⟩

end LayeredConfig.Store
