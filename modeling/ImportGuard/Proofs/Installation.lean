import ImportGuard.Checker
import ImportGuard.Proofs.Compilation
import ImportGuard.Proofs.Run
import Mathlib.Data.List.Forall2

namespace ImportGuard

open Regex (Pattern)

def Settings.get (s : Settings) : Slot → Option (Option String)
  | .package => s.package
  | .className => s.className
  | .forbid => s.forbid
  | .exclude => s.exclude

theorem Settings.get_toOptions (s : Settings) (slot : Slot) :
    s.toOptions.get slot = (s.get slot).getD slot.default := by
  cases slot <;> rfl

theorem Rule.ofOptions_eq (o : RuleOptions) :
    Rule.ofOptions o = match Slot.firstFailure? o.texts with
      | some f => .error f
      | none => .ok ⟨o.patterns⟩ := by
  have hmap : Rule.ofOptions o = (PatternSet.ofOptions o).map Rule.mk := rfl
  rw [hmap, PatternSet.ofOptions_eq]
  cases Slot.firstFailure? o.texts <;> rfl

/-- Rules are compiled one after the other, up to the first text that fails. -/
theorem mapM_ofOptions (os : List RuleOptions) :
    os.mapM Rule.ofOptions = match Slot.firstFailure? (os.flatMap RuleOptions.texts) with
      | some f => .error f
      | none => .ok (os.map fun o => ⟨o.patterns⟩) := by
  induction os with
  | nil => rfl
  | cons o os ih =>
    have happend : Slot.firstFailure? ((o :: os).flatMap RuleOptions.texts) =
        (Slot.firstFailure? o.texts).or (Slot.firstFailure? (os.flatMap RuleOptions.texts)) :=
      List.findSome?_append
    rw [List.mapM_cons, Rule.ofOptions_eq, ih, happend]
    cases Slot.firstFailure? o.texts with
    | some f => rfl
    | none =>
      rw [Option.none_or]
      cases Slot.firstFailure? (os.flatMap RuleOptions.texts) <;> rfl

namespace Checker

/-- The given texts of all rules, rule by rule, each rule's in the order of the slots. -/
def texts (c : Checker) : List (Slot × String) := c.options.flatMap RuleOptions.texts

/-- A program on the checker. A failure keeps what has been done up to it. -/
abbrev Procedure := EStateM Failure Checker

def install : Procedure Unit := do
  let rules ← (← get).options.mapM fun o => MonadExcept.ofExcept (Rule.ofOptions o)
  modify fun c => { c with rules }

theorem run_ofExcept {α : Type} (x : Except Failure α) (c : Checker) :
    (MonadExcept.ofExcept x : Procedure α).run c = match x with
      | .ok a => .ok a c
      | .error f => .error f c := by
  cases x <;> rfl

/-- Compiling leaves the checker alone, also up to the rule that fails. -/
theorem run_mapM_ofOptions (os : List RuleOptions) (c : Checker) :
    (os.mapM fun o => (MonadExcept.ofExcept (Rule.ofOptions o) : Procedure Rule)).run c =
      match os.mapM Rule.ofOptions with
      | .ok rules => .ok rules c
      | .error f => .error f c := by
  induction os with
  | nil => rfl
  | cons o os ih =>
    rw [List.mapM_cons, List.mapM_cons, EStateM.run_bind, run_ofExcept]
    cases Rule.ofOptions o with
    | error f => rfl
    | ok r =>
      change (((os.mapM fun o => (MonadExcept.ofExcept (Rule.ofOptions o) : Procedure Rule)) >>=
        fun rules => pure (r :: rules) : Procedure (List Rule)).run c) = _
      rw [EStateM.run_bind, ih]
      cases os.mapM Rule.ofOptions <;> rfl

theorem openRules_eq_map (c : Checker) :
    c.openRules = (c.options.mapM Rule.ofOptions).map fun rules => { c with rules } := rfl

theorem openRules_eq (c : Checker) :
    c.openRules = match Slot.firstFailure? c.texts with
      | some f => .error f
      | none => .ok { c with rules := c.options.map fun o => ⟨o.patterns⟩ } := by
  rw [openRules_eq_map, mapM_ofOptions, texts]
  cases Slot.firstFailure? (c.options.flatMap RuleOptions.texts) <;> rfl

theorem run_install (c : Checker) :
    install.run c = match c.openRules with
      | .ok d => .ok () d
      | .error f => .error f c := by
  have hbind : install.run c =
      ((c.options.mapM fun o => (MonadExcept.ofExcept (Rule.ofOptions o) : Procedure Rule)) >>=
        fun rules => (modify fun c => { c with rules } : Procedure Unit)).run c := rfl
  rw [hbind, EStateM.run_bind, run_mapM_ofOptions, openRules_eq_map]
  cases c.options.mapM Rule.ofOptions <;> rfl

/-- The texts of a rule all compile, so each slot has the pattern of its own text. -/
theorem patterns_rel {o : RuleOptions} (ho : ∀ e ∈ o.texts, e.1.Compiles e.2) (slot : Slot) :
    Option.Rel (fun text pattern => Pattern.compile (slot.patternText text) = .ok pattern)
      (o.get slot) (o.patterns.get slot) := by
  rw [RuleOptions.get_patterns, RuleOptions.pattern?]
  cases hget : o.get slot with
  | none => exact .none
  | some text =>
    obtain ⟨pattern, hpattern⟩ := ho (slot, text) (RuleOptions.mem_texts.2 hget)
    rw [Option.bind_some, Slot.pattern?, hpattern]
    exact .some hpattern

/-- The rules come from the options set from outside, with defaults for absent ones, and from the
configured ones, in that order. If all of their texts compile, each rule is installed with the
patterns of its own texts. Otherwise the first text that does not compile is told, and both the
installed rules and the open file stay as they are. -/
theorem openRules_all_or_nothing (c : Checker) :
    (∃ first, c.options = first :: c.configured ∧
      ∀ slot, first.get slot = (c.settings.get slot).getD slot.default) ∧
    ((∀ e ∈ c.texts, e.1.Compiles e.2) →
      ∃ rules, c.openRules = .ok { c with rules } ∧ install.run c = .ok () { c with rules } ∧
        rules.length = 1 + c.configured.length ∧
        List.Forall₂ (fun o r => ∀ slot, Option.Rel
          (fun text pattern => Pattern.compile (slot.patternText text) = .ok pattern)
          (o.get slot) (r.patterns.get slot)) c.options rules) ∧
    ((¬ ∀ e ∈ c.texts, e.1.Compiles e.2) →
      ∃ before slot text after error, c.texts = before ++ (slot, text) :: after ∧
        (∀ e ∈ before, e.1.Compiles e.2) ∧
        Pattern.compile (slot.patternText text) = .error error ∧
        c.openRules = .error (slot.failure text error) ∧
        install.run c = .error (slot.failure text error) c) := by
  have hopen := c.openRules_eq
  refine ⟨⟨_, rfl, c.settings.get_toOptions⟩, ?_, ?_⟩
  · intro hall
    rw [Slot.firstFailure?_eq_none_iff.2 hall] at hopen
    refine ⟨_, hopen, ?_, ?_, ?_⟩
    · rw [run_install, hopen]
    · rw [List.length_map, options, List.length_cons, Nat.add_comm]
    · rw [List.forall₂_map_right_iff, List.forall₂_same]
      intro o ho
      apply patterns_rel
      intro e he
      exact hall e (List.mem_flatMap.2 ⟨o, ho, he⟩)
  · intro hnot
    cases hfirst : Slot.firstFailure? c.texts with
    | none => exact absurd (Slot.firstFailure?_eq_none_iff.1 hfirst) hnot
    | some f =>
      rw [hfirst] at hopen
      obtain ⟨before, slot, text, after, error, hsplit, hbefore, herror, rfl⟩ :=
        Slot.firstFailure?_eq_some_iff.1 hfirst
      refine ⟨before, slot, text, after, error, hsplit, hbefore, herror, hopen, ?_⟩
      rw [run_install, hopen]

theorem openRules_all_or_nothing_sample :
    let good : RuleOptions := ⟨some "app", some "", none, some ""⟩
    let bad : RuleOptions := ⟨some "", some "[", some "(", some "x\x7b4294967295\x7d"⟩
    let c : Checker := {
      settings := { forbid := some (some "os") }
      configured := [good, bad, ⟨some "(", some "[", none, none⟩]
      rules := [Rule.sample]
      scopes := [(Rule.sample, ⟨true, false, {}⟩)] }
    let d : Checker := { c with configured := [good] }
    install.run c =
        .error (.badPattern "class-name-regexp" "[" .unterminatedSet (some 0)) c ∧
      ∃ rules, install.run d = .ok () { d with rules } ∧ rules.length = 2 ∧
        rules.map (·.patterns.sources) =
          [[some ".*", some ".*", some "os", none], [some "app", some ".*", none, some ""]] := by
  intro good bad c d
  constructor
  · have hnot : ¬ ∀ e ∈ c.texts, e.1.Compiles e.2 := by
      intro hall
      have hmem : (Slot.className, "[") ∈ c.texts := by decide +kernel
      have hfails : Slot.className.failure? "[" =
        some (.badPattern "class-name-regexp" "[" .unterminatedSet (some 0)) := by decide +kernel
      rw [Slot.failure?_eq_none_iff.2 (hall _ hmem)] at hfails
      cases hfails
    obtain ⟨-, -, hfailed⟩ := c.openRules_all_or_nothing
    obtain ⟨before, slot, text, after, error, -, -, -, hopen, hrun⟩ := hfailed hnot
    have hfirst : (match c.openRules with | .ok _ => none | .error f => some f) =
        some (.badPattern "class-name-regexp" "[" .unterminatedSet (some 0)) := by decide +kernel
    rw [hopen] at hfirst
    rw [hrun, Option.some.inj hfirst]
  · have hall : ∀ e ∈ d.texts, e.1.Compiles e.2 := by
      have hnone : Slot.firstFailure? d.texts = none := by decide +kernel
      exact Slot.firstFailure?_eq_none_iff.1 hnone
    obtain ⟨-, hinstalled, -⟩ := d.openRules_all_or_nothing
    obtain ⟨rules, hopen, hrun, hlength, -⟩ := hinstalled hall
    have hsources : (d.openRules.toOption.map fun d => d.rules.map (·.patterns.sources)) = some
        [[some ".*", some ".*", some "os", none], [some "app", some ".*", none, some ""]] := by
      decide +kernel
    rw [hopen] at hsources
    exact ⟨rules, hrun, hlength, Option.some.inj hsources⟩

end Checker

end ImportGuard
