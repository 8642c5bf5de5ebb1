import ImportGuard.Proofs.Isolation

namespace ImportGuard

namespace Rule

/-- The records that the checker hands to a rule. -/
def handed (r : Rule) (xs : List Record) : List Record := xs.filter (r.kinds.contains ·.kind)

/-- What the visits of a run come to together, for a rule that began in the scope `s`. -/
def together (s : Scope) (outs : List Outcome) : Report × Scope :=
  (⟨outs.flatMap (·.violations), outs.flatMap (·.events)⟩, outs.getLast?.elim s (·.scope))

variable {r : Rule} {xs : List Record}

theorem handed_cons (r : Rule) (x : Record) (xs : List Record) :
    r.handed (x :: xs) = if r.kinds.contains x.kind then x :: r.handed xs else r.handed xs :=
  List.filter_cons

theorem together_cons (s : Scope) (out : Outcome) (outs : List Outcome) :
    together s (out :: outs) =
      let rest := together out.scope outs
      (⟨out.violations, out.events⟩ ++ rest.1, rest.2) := by
  rw [together, List.getLast?_cons]
  cases h : outs.getLast? <;> simp [together, h] <;> rfl

/-- The checker runs a rule over the records it hands to it, and over no others. -/
theorem visitAll_eq_run (r : Rule) (xs : List Record) (s : Scope) :
    r.visitAll xs s = (r.run (r.handed xs) s).map (together s) := by
  induction xs generalizing s with
  | nil => rfl
  | cons x xs ih =>
    rw [visitAll, handed_cons]
    cases r.kinds.contains x.kind with
    | false => exact ih s
    | true =>
      rw [if_pos rfl, if_pos rfl, run]
      cases r.visit (.record x) s with
      | error e => rfl
      | ok out =>
        change (r.visitAll xs out.scope >>= _) = ((r.run (r.handed xs) out.scope >>= _).map _)
        rw [ih]
        cases r.run (r.handed xs) out.scope with
        | error e => rfl
        | ok outs => exact congrArg Except.ok (together_cons s out outs).symm

theorem run_handed (hn : ∀ x ∈ xs, x.isNamed) (s : Scope) :
    ∃ outs, r.run (r.handed xs) s = .ok outs := by
  cases hr : r.isActive with
  | false =>
    have hnone : r.handed xs = [] := by simp [handed, kinds, hr]
    rw [hnone]
    exact ⟨[], rfl⟩
  | true => exact ⟨_, run_eq_outcomes hr (fun x hx => hn x (List.mem_of_mem_filter hx)) s⟩

end Rule

theorem Hook.records_named (h : Hook) : ∀ x ∈ h.records, x.isNamed := by
  cases h with
  | enter m => exact m.walkRecords_named []
  | visit m t => exact t.records_named m
  | openRules | setOption | leave =>
    intro x hx
    cases hx

namespace Checker

/-- The calls, each with its answer. A failed one leaves the checker as it is. -/
def answers (c : Checker) : List Hook → List (Hook × Except Failure Report)
  | [] => []
  | h :: hooks => (h, (c.call h).map (·.1)) :: (c.step h).2.answers hooks

/-- Only compiling the rules can fail. -/
theorem call_eq_step (c : Checker) {h : Hook} (hh : h.isOpenRules = false) :
    c.call h = .ok (c.step h) := by
  cases h with
  | openRules => cases hh
  | setOption => rfl
  | enter m => rw [step_enter, call, enter_eq]
  | visit m t => rw [step_visit, call, visit_eq]
  | leave => rfl

theorem answers_fst (c : Checker) (hooks : List Hook) : (c.answers hooks).map (·.1) = hooks := by
  induction hooks generalizing c with
  | nil => rfl
  | cons h hooks ih => rw [answers, List.map_cons, ih]

theorem answers_ok (c : Checker) (hooks : List Hook) :
    ∀ e ∈ c.answers hooks, e.1.isOpenRules = false → ∃ report, e.2 = .ok report := by
  induction hooks generalizing c with
  | nil =>
    intro e he
    cases he
  | cons h hooks ih =>
    intro e he hh
    rcases List.mem_cons.1 he with rfl | he
    · exact ⟨_, by rw [c.call_eq_step hh]; rfl⟩
    · exact ih _ e he hh

/-- Whatever rules are installed and whatever calls come, with files left open, opened twice or
never opened: every call about a file is answered, and never refused by a rule. What a rule gets of
a call are those of its records whose kind it looks at; all of them have the name they need, and in
every scope the rule visits them all. -/
theorem rules_never_tripped (c : Checker) (hooks : List Hook) :
    (c.answers hooks).map (·.1) = hooks ∧
      (∀ e ∈ c.answers hooks, e.1.isOpenRules = false → ∃ report, e.2 = .ok report) ∧
      ∀ (h : Hook) (r : Rule) (s : Scope),
        r.visitAll h.records s = (r.run (r.handed h.records) s).map (Rule.together s) ∧
          (∀ x ∈ r.handed h.records, r.kinds.contains x.kind ∧ x.isNamed) ∧
          ∃ outs, r.run (r.handed h.records) s = .ok outs := by
  refine ⟨c.answers_fst hooks, c.answers_ok hooks, ?_⟩
  intro h r s
  refine ⟨r.visitAll_eq_run _ s, ?_, Rule.run_handed h.records_named s⟩
  intro x hx
  obtain ⟨hmem, hkind⟩ := List.mem_filter.1 hx
  exact ⟨hkind, h.records_named x hmem⟩

theorem rules_never_tripped_sample :
    let c : Checker := { rules := [⟨{}⟩, Rule.sample] }
    let m : Module := { name := some "app.main" }
    let callee : Tree := .attr (.call ⟨3, 0⟩ (.name "make") []) "run"
    let anonymous : Hook := .visit m (.call ⟨3, 0⟩ callee [])
    let hooks : List Hook := [.visit m (.importNames ⟨1, 0⟩ ["os"]), .enter m,
      .visit m (.classDef ⟨2, 0⟩ none []), anonymous, .enter m, .leave, .leave]
    anonymous.records.map Record.name = [none] ∧
      (∀ e ∈ c.answers hooks, ∃ report, e.2 = .ok report) ∧
      (⟨{}⟩ : Rule).handed anonymous.records = [] ∧
      ∃ outs, Rule.sample.run anonymous.records ⟨true, true, {}⟩ = .ok outs := by
  intro c m callee anonymous hooks
  obtain ⟨hcalls, hanswers, hhanded⟩ := c.rules_never_tripped hooks
  have hall : Rule.sample.handed anonymous.records = anonymous.records := by decide +kernel
  obtain ⟨-, -, hrun⟩ := hhanded anonymous Rule.sample ⟨true, true, {}⟩
  rw [hall] at hrun
  refine ⟨rfl, ?_, rfl, hrun⟩
  intro e he
  have hfile : ∀ h ∈ hooks, h.isOpenRules = false := by simp [hooks, anonymous, Hook.isOpenRules]
  apply hanswers e he
  apply hfile
  rw [← hcalls]
  exact List.mem_map_of_mem he

end Checker

end ImportGuard
