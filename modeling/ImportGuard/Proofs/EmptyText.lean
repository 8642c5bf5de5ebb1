import ImportGuard.Proofs.History
import ImportGuard.Proofs.Installation
import ImportGuard.Proofs.Walk

namespace ImportGuard

namespace Regex

/-- The character at a position is there and passes the test. -/
def Subject.PassesAt (text : Subject) (ctx : Context) (test : CharClass) (i : Nat) : Prop :=
  ∃ ch, text[i]? = some ch ∧ test.test ctx.caseRule ctx.ascii ctx.dotAll ch = true

variable {text : Subject} {ctx : Context} {test : CharClass} {c : Cursor} {k : Rest}

theorem Subject.PassesAt.lt {i : Nat} (h : text.PassesAt ctx test i) : i < text.size := by
  obtain ⟨ch, hch, -⟩ := h
  exact (Array.getElem?_eq_some_iff.1 hch).1

theorem Node.run_one_of_passes (h : text.PassesAt ctx test c.pos) (k : Rest) :
    Node.run text ctx (.one test) c k = k { c with pos := c.pos + 1 } := by
  obtain ⟨ch, hch, htest⟩ := h
  rw [Node.run, hch]
  exact if_pos htest

theorem Node.run_one_of_not_passes (h : ¬ text.PassesAt ctx test c.pos) (k : Rest) :
    Node.run text ctx (.one test) c k = none := by
  rw [Node.run]
  cases hch : text[c.pos]? with
  | none => rfl
  | some ch => exact if_neg fun htest => h ⟨ch, hch, htest⟩

/-- What a repetition from the cursor can come to: after some rounds the rest goes through. -/
def Repeats (text : Subject) (ctx : Context) (test : CharClass) (c : Cursor) (k : Rest) : Prop :=
  ∃ n, (∀ i < n, text.PassesAt ctx test (c.pos + i)) ∧ (k { c with pos := c.pos + n }).isSome

theorem repeats_iff :
    Repeats text ctx test c k ↔ (k c).isSome ∨
      (text.PassesAt ctx test c.pos ∧ Repeats text ctx test { c with pos := c.pos + 1 } k) := by
  constructor
  · rintro ⟨n, hpass, hk⟩
    cases n with
    | zero => exact .inl hk
    | succ n =>
      refine .inr ⟨hpass 0 n.succ_pos, n, ?_, ?_⟩
      · intro i hi
        have hnext := hpass (i + 1) (Nat.succ_lt_succ hi)
        rwa [Nat.add_comm i, ← Nat.add_assoc] at hnext
      · rwa [Nat.add_assoc, Nat.add_comm 1]
  · rintro (hk | ⟨hfirst, n, hpass, hk⟩)
    · exact ⟨0, fun i hi => absurd hi i.not_lt_zero, hk⟩
    · refine ⟨n + 1, ?_, ?_⟩
      · intro i hi
        cases i with
        | zero => exact hfirst
        | succ i =>
          have hnext := hpass i (Nat.lt_of_succ_lt_succ hi)
          rwa [Nat.add_assoc, Nat.add_comm 1] at hnext
      · rwa [Nat.add_assoc, Nat.add_comm 1] at hk

/-- The loop tries every number of rounds. The induction is on the fuel, which lasts for the
characters left; each round moves on, so that none of them is taken for the last one. -/
theorem greedyLoop_isSome_iff {fuel count : Nat} {last : Option Nat}
    (hfuel : text.size - c.pos < fuel) (hlast : last ≠ some c.pos) :
    (greedyLoop (fun d r => Node.run text ctx (.one test) d r) 0 none fuel count last c k).isSome ↔
      Repeats text ctx test c k := by
  induction fuel generalizing count last c with
  | zero => exact absurd hfuel (Nat.not_lt_zero _)
  | succ fuel ih =>
    have hgo : (below count none && last != some c.pos) = true := by simp [below, hlast]
    rw [greedyLoop, if_neg count.not_lt_zero, if_pos hgo, repeats_iff]
    by_cases hpass : text.PassesAt ctx test c.pos
    · have hlt := hpass.lt
      let d : Cursor := { c with pos := c.pos + 1 }
      have hleft : text.size - d.pos < fuel := by
        change text.size - (c.pos + 1) < fuel
        omega
      have hmoved : some c.pos ≠ some d.pos := by simp [d]
      rw [Node.run_one_of_passes hpass, and_iff_right hpass, ← ih hleft hmoved]
      cases greedyLoop _ 0 none fuel (count + 1) (some c.pos) d k with
      | some r => simp
      | none => simp
    · rw [Node.run_one_of_not_passes hpass]
      simp only [hpass, false_and, or_false]

theorem run_star_isSome_iff (text : Subject) (ctx : Context) (test : CharClass) (c : Cursor)
    (k : Rest) :
    (Node.run text ctx (.loop .greedy 0 none (.one test)) c k).isSome ↔
      Repeats text ctx test c k := by
  rw [Node.run]
  exact greedyLoop_isSome_iff (by simp only [rounds]; omega) (Option.some_ne_none _).symm

theorem atEnd_isSome_iff : (atEnd text c).isSome ↔ c.pos = text.size := by
  rw [atEnd]
  split <;> simp_all

/-- The code points of a name. -/
theorem passesAt_iff {name : String} {i : Nat} :
    Subject.PassesAt (name.toList.map Char.toNat).toArray ctx test i ↔
      ∃ ch, name.toList[i]? = some ch ∧
        test.test ctx.caseRule ctx.ascii ctx.dotAll ch.toNat = true := by
  simp only [Subject.PassesAt, List.getElem?_toArray, List.getElem?_map, Option.map_eq_some_iff]
  constructor
  · rintro ⟨-, ⟨ch, hch, rfl⟩, htest⟩
    exact ⟨ch, hch, htest⟩
  · rintro ⟨ch, hch, htest⟩
    exact ⟨ch.toNat, ⟨ch, hch, rfl⟩, htest⟩

namespace Pattern

variable {p : Pattern}

/-- A pattern that repeats a single test matches the names all of whose characters pass it. -/
theorem fullMatch_star_iff (hroot : p.root = .loop .greedy 0 none (.one test)) (name : String) :
    p.fullMatch name ↔ ∀ ch ∈ name.toList,
      test.test p.context.caseRule p.context.ascii p.context.dotAll ch.toNat = true := by
  rw [fullMatch, hroot, run_star_isSome_iff, Repeats]
  simp only [atEnd_isSome_iff, passesAt_iff, Nat.zero_add, List.size_toArray, List.length_map]
  constructor
  · rintro ⟨n, hpass, rfl⟩ ch hch
    obtain ⟨i, hi, rfl⟩ := List.mem_iff_getElem.1 hch
    obtain ⟨ch, hget, htest⟩ := hpass i hi
    rw [List.getElem?_eq_getElem hi] at hget
    obtain rfl := Option.some.inj hget
    exact htest
  · intro hall
    refine ⟨name.toList.length, ?_, rfl⟩
    intro i hi
    exact ⟨_, List.getElem?_eq_getElem hi, hall _ (List.getElem_mem hi)⟩

theorem fullMatch_empty_iff (hroot : p.root = .empty) (name : String) :
    p.fullMatch name ↔ name = "" := by
  rw [fullMatch, hroot, Node.run, atEnd_isSome_iff, List.size_toArray, List.length_map,
    String.length_toList, eq_comm, String.length_eq_zero_iff]

theorem compile_matchAll_eq :
    compile matchAll = .ok ⟨matchAll, .loop .greedy 0 none (.one .any), 0, {}⟩ := rfl

theorem compile_empty_eq : compile "" = .ok ⟨"", .empty, 0, {}⟩ := rfl

/-- The dot takes every character but a line feed. -/
theorem fullMatch_matchAll_iff (hp : compile matchAll = .ok p) (name : String) :
    p.fullMatch name ↔ '\n' ∉ name.toList := by
  rw [compile_matchAll_eq] at hp
  obtain rfl := Except.ok.inj hp
  have htest (ch : Char) : CharClass.any.test .exact false false ch.toNat = true ↔ ch ≠ '\n' := by
    rw [CharClass.test, Bool.false_or, bne_iff_ne, ne_eq]
    exact not_congr (Char.toNat_inj (d := '\n'))
  rw [fullMatch_star_iff rfl]
  change (∀ ch ∈ name.toList, CharClass.any.test .exact false false ch.toNat = true) ↔ _
  simp only [htest]
  constructor
  · intro h hmem
    exact h _ hmem rfl
  · rintro h ch hch rfl
    exact h hch

theorem fullMatch_emptyText_iff (hp : compile "" = .ok p) (name : String) :
    p.fullMatch name ↔ name = "" := by
  rw [compile_empty_eq] at hp
  obtain rfl := Except.ok.inj hp
  exact fullMatch_empty_iff rfl name

end Pattern

end Regex

open Regex (Pattern)

/-- The name has no line feed. -/
def OneLine (name : String) : Prop := '\n' ∉ name.toList

instance (name : String) : Decidable (OneLine name) :=
  inferInstanceAs (Decidable ('\n' ∉ name.toList))

namespace Rule

variable {r : Rule} {o : RuleOptions}

theorem exists_pattern (hr : Rule.ofOptions o = .ok r) (slot : Slot) {text : String}
    (htext : o.get slot = some text) :
    ∃ p, Pattern.compile (slot.patternText text) = .ok p ∧ r.patterns.get slot = some p := by
  rw [ofOptions_eq] at hr
  cases hfirst : Slot.firstFailure? o.texts with
  | some failure =>
    rw [hfirst] at hr
    cases hr
  | none =>
    rw [hfirst] at hr
    obtain rfl := Except.ok.inj hr
    have hrel := Checker.patterns_rel (Slot.firstFailure?_eq_none_iff.1 hfirst) slot
    rw [htext] at hrel
    generalize o.patterns.get slot = pattern at hrel ⊢
    cases hrel with
    | some hp => exact ⟨_, hp, rfl⟩

theorem selects_scope_iff (hr : Rule.ofOptions o = .ok r) (slot : Slot) (hscope : slot.isScope)
    (htext : o.get slot = some "") (name : String) :
    selects (r.patterns.get slot) name ↔ OneLine name := by
  obtain ⟨p, hp, hget⟩ := exists_pattern hr slot htext
  have hall : slot.patternText "" = matchAll := by rw [Slot.patternText, hscope]; rfl
  rw [hall] at hp
  rw [hget]
  exact Pattern.fullMatch_matchAll_iff hp name

theorem any_selects_scope_iff (hr : Rule.ofOptions o = .ok r) (slot : Slot)
    (hscope : slot.isScope) (htext : o.get slot = some "") (name : Option String) :
    name.any (selects (r.patterns.get slot)) ↔ ∃ n, name = some n ∧ OneLine n := by
  simp only [Option.any_eq_true, selects_scope_iff hr slot hscope htext]

/-- With empty scope texts a run is in scope once it has met a package and a class, unless the name
of the last one has a line feed. -/
theorem inScope_emptyScopes_iff {forbid exclude : Option String}
    (hr : Rule.ofOptions ⟨some "", some "", forbid, exclude⟩ = .ok r) (hactive : r.isActive)
    {xs : List Record} (hxs : ∀ x ∈ xs, x.isNamed) :
    (r.scopeAfter xs beginFile).inScope ↔
      (∃ name, (xs.filterMap Record.package?).getLast? = some name ∧ OneLine name) ∧
        ∃ name, (xs.filterMap Record.class?).getLast? = some name ∧ OneLine name := by
  rw [scopeAfter_eq_history hactive hxs, history_inScope, inScopeAfter, Bool.and_eq_true]
  exact and_congr (any_selects_scope_iff hr .package rfl rfl _)
    (any_selects_scope_iff hr .className rfl rfl _)

/-- An empty exclude text takes out the empty name only. -/
theorem forbidden_emptyExclude {package className : Option String} {forbid : String}
    (hr : Rule.ofOptions ⟨package, className, some forbid, some ""⟩ = .ok r) :
    ∃ p, Pattern.compile forbid = .ok p ∧ r.patterns.forbid = some p ∧
      ∀ name, r.forbidden name ↔ p.fullMatch name ∧ name ≠ "" := by
  obtain ⟨p, hp, hforbid⟩ := exists_pattern hr .forbid rfl
  obtain ⟨q, hq, hexclude⟩ := exists_pattern hr .exclude rfl
  change r.patterns.forbid = some p at hforbid
  change r.patterns.exclude = some q at hexclude
  refine ⟨p, hp, hforbid, ?_⟩
  intro name
  rw [forbidden, hforbid, hexclude, Bool.and_eq_true, Bool.not_eq_true', ← Bool.not_eq_true,
    Pattern.fullMatch_emptyText_iff hq]

/-- The meaning of empty texts. As a scope, the empty text is a pattern for the names without a line
feed, so that a rule with two such texts has a file in scope as soon as a package and a class with
such names were met. Elsewhere it is a pattern for the empty name, so that excluding it leaves the
forbidden pattern to decide on every other name. -/
theorem empty_texts_meaning :
    (∀ option, ∃ p, PatternSet.compileScope option (some "") = .ok (some p) ∧
      ∀ name, p.fullMatch name ↔ OneLine name) ∧
    (∀ option, ∃ p, PatternSet.compileLiteral option (some "") = .ok (some p) ∧
      ∀ name, p.fullMatch name ↔ name = "") ∧
    (∀ forbid exclude r, Rule.ofOptions ⟨some "", some "", forbid, exclude⟩ = .ok r →
      (∀ name, selects r.patterns.package name ↔ OneLine name) ∧
      (∀ name, selects r.patterns.className name ↔ OneLine name) ∧
      (r.isActive → ∀ xs : List Record, (∀ x ∈ xs, x.isNamed) →
        ∃ outs, r.run xs beginFile = .ok outs ∧
          ((outs.getLast?.elim beginFile (·.scope)).inScope ↔
            (∃ name, (xs.filterMap Record.package?).getLast? = some name ∧ OneLine name) ∧
              ∃ name, (xs.filterMap Record.class?).getLast? = some name ∧ OneLine name))) ∧
    ∀ package className forbid r,
      Rule.ofOptions ⟨package, className, some forbid, some ""⟩ = .ok r →
      ∃ p, Pattern.compile forbid = .ok p ∧ r.patterns.forbid = some p ∧
        ∀ name, name ≠ "" → r.forbidden name = p.fullMatch name := by
  refine ⟨?_, ?_, ?_, ?_⟩
  · intro option
    refine ⟨_, rfl, ?_⟩
    exact Pattern.fullMatch_matchAll_iff Pattern.compile_matchAll_eq
  · intro option
    refine ⟨_, rfl, ?_⟩
    exact Pattern.fullMatch_emptyText_iff Pattern.compile_empty_eq
  · intro forbid exclude r hr
    refine ⟨selects_scope_iff hr .package rfl rfl,
      selects_scope_iff hr .className rfl rfl, ?_⟩
    intro hactive xs hxs
    refine ⟨_, run_eq_outcomes hactive hxs _, ?_⟩
    rw [getLast?_outcomes]
    exact inScope_emptyScopes_iff hr hactive hxs
  · intro package className forbid r hr
    obtain ⟨p, hp, hget, hforbidden⟩ := forbidden_emptyExclude hr
    refine ⟨p, hp, hget, ?_⟩
    intro name hname
    rw [Bool.eq_iff_iff, hforbidden, and_iff_left hname]

theorem empty_texts_meaning_sample :
    ∃ r, Rule.ofOptions ⟨some "", some "", some "os(\\..*)?", some ""⟩ = .ok r ∧ r.isActive ∧
      (∃ outs, r.run [.className 1 (some "Helper") none, .package 0 (some "") none] beginFile =
          .ok outs ∧ (outs.getLast?.elim beginFile (·.scope)).inScope) ∧
      ¬ selects r.patterns.package "app\n" ∧
      ∃ p, r.patterns.forbid = some p ∧ r.forbidden "os.path" = p.fullMatch "os.path" := by
  obtain ⟨-, -, hscopes, hexclude⟩ := empty_texts_meaning
  have hactive : ((Rule.ofOptions ⟨some "", some "", some "os(\\..*)?", some ""⟩).toOption.any
      (·.isActive)) = true := by decide +kernel
  cases hr : Rule.ofOptions ⟨some "", some "", some "os(\\..*)?", some ""⟩ with
  | error failure =>
    rw [hr] at hactive
    cases hactive
  | ok r =>
    rw [hr] at hactive
    obtain ⟨hpackage, -, hrun⟩ := hscopes _ _ r hr
    obtain ⟨p, -, hforbid, hforbidden⟩ := hexclude _ _ _ r hr
    obtain ⟨outs, houts, hinScope⟩ := hrun hactive
      [.className 1 (some "Helper") none, .package 0 (some "") none] (by decide)
    refine ⟨r, rfl, hactive, ⟨outs, houts, ?_⟩, ?_, p, hforbid, ?_⟩
    · exact hinScope.2 ⟨⟨"", rfl, by decide⟩, "Helper", rfl, by decide⟩
    · rw [hpackage]
      exact not_not_intro (by decide)
    · exact hforbidden "os.path" (by decide)

end Rule

end ImportGuard
