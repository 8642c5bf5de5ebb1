import ImportGuard.Proofs.Walk

namespace ImportGuard

/-- One call of the linter. A node comes with the module it stands in. -/
inductive Hook
  | openRules
  | setOption (slot : Slot) (value : Option (Option String))
  | enter (m : Module)
  | visit (m : Module) (t : Tree)
  | leave

/-- What a list of records makes the rules of an open file say. -/
def reportOf (scopes : List (Rule × Scope)) (xs : List Record) : Report where
  messages := scopes.flatMap fun e => (e.1.report xs e.2).messages
  events := scopes.flatMap fun e => (e.1.report xs e.2).events

def advance (scopes : List (Rule × Scope)) (xs : List Record) : List (Rule × Scope) :=
  scopes.map fun e => (e.1, e.1.scopeAfter xs e.2)

namespace Checker

/-- A checker that has not been called yet. -/
def start (settings : Settings) (configured : List RuleOptions) : Checker :=
  { settings, configured }

def call (c : Checker) : Hook → Except Failure (Report × Checker)
  | .openRules => return ({}, ← c.openRules)
  | .setOption slot value => return ({}, { c with settings := c.settings.put value slot })
  | .enter m => c.enter m
  | .visit m t => c.visit m t
  | .leave => return c.leave

/-- What a call comes to. One that fails says nothing and leaves the checker as it is. -/
def step (c : Checker) (h : Hook) : Report × Checker :=
  match c.call h with
  | .ok out => out
  | .error _ => ({}, c)

def afterCalls (c : Checker) (hooks : List Hook) : Checker :=
  hooks.foldl (fun c h => (c.step h).2) c

/-- The calls, each with what the checker says to it. -/
def transcript (c : Checker) : List Hook → List (Hook × Report)
  | [] => []
  | h :: hooks => (h, (c.step h).1) :: (c.step h).2.transcript hooks

theorem visit_eq (c : Checker) (m : Module) (t : Tree) :
    c.visit m t = .ok (reportOf c.scopes (t.records m),
      { c with scopes := advance c.scopes (t.records m) }) := by
  have he : c.visit m t = (dispatch (t.records m) c.scopes >>= fun p =>
      .ok (p.1, { c with scopes := p.2 })) := rfl
  rw [he, dispatch_eq (t.records_named m)]
  rfl

theorem step_visit (c : Checker) (m : Module) (t : Tree) :
    c.step (.visit m t) = (reportOf c.scopes (t.records m),
      { c with scopes := advance c.scopes (t.records m) }) := by
  rw [step, call, visit_eq]

theorem step_enter (c : Checker) (m : Module) : c.step (.enter m) = ({}, c.after m []) := by
  rw [step, call, enter_eq]

theorem step_openRules (c : Checker) :
    c.step .openRules = ({}, { c with
      rules := (c.options.mapM Rule.ofOptions).toOption.getD c.rules }) := by
  have he : c.call .openRules = ((c.options.mapM Rule.ofOptions >>= fun rules =>
      .ok { c with rules }) >>= fun c => .ok ({}, c)) := rfl
  rw [step, he]
  cases c.options.mapM Rule.ofOptions <;> rfl

@[simp] theorem afterCalls_nil (c : Checker) : c.afterCalls [] = c := rfl

@[simp] theorem afterCalls_cons (c : Checker) (h : Hook) (hooks : List Hook) :
    c.afterCalls (h :: hooks) = (c.step h).2.afterCalls hooks := rfl

theorem afterCalls_append (c : Checker) (hooks more : List Hook) :
    c.afterCalls (hooks ++ more) = (c.afterCalls hooks).afterCalls more :=
  List.foldl_append

end Checker

namespace Rule

/-- What holds of a rule and its scope between two calls. -/
structure Settled (r : Rule) (s : Scope) : Prop where
  none_waits : s.inScope → s.pending.entries = []
  waits_forbidden : ∀ i ∈ s.pending.entries, r.forbidden i.name
  inert_fresh : r.isActive = false → s = beginFile

variable {r : Rule} {s : Scope} {x : Record}

theorem settled_of_active (hr : r.isActive) (hnone : s.inScope → s.pending.entries = [])
    (hforbidden : ∀ i ∈ s.pending.entries, r.forbidden i.name) : r.Settled s := by
  refine ⟨hnone, hforbidden, ?_⟩
  intro hi
  rw [hr] at hi
  cases hi

theorem Settled.visitClass (h : r.Settled s) (hr : r.isActive) (name : String) :
    r.Settled (r.visitClass name s).scope := by
  rw [visitClass_scope]
  cases hin : s.packageMatches && selects r.patterns.className name with
  | true =>
    exact settled_of_active hr (fun _ => rfl) fun i hi => absurd hi List.not_mem_nil
  | false =>
    refine settled_of_active hr ?_ h.waits_forbidden
    intro hs
    rw [Scope.inScope, hin] at hs
    cases hs

theorem Settled.visitImport (h : r.Settled s) (hr : r.isActive) (i : Import) :
    r.Settled (r.visitImport i s).scope := by
  rw [visitImport_scope]
  cases hw : r.forbidden i.name && !s.inScope with
  | false => exact h
  | true =>
    obtain ⟨hf, hout⟩ := Bool.and_eq_true_iff.1 hw
    apply settled_of_active hr
    · intro hs
      have hs : s.inScope = true := hs
      rw [hs] at hout
      cases hout
    · intro j hj
      rcases List.mem_append.1 hj with hj | hj
      · exact h.waits_forbidden j hj
      · rwa [List.mem_singleton.1 hj]

/-- A record from below the module keeps the scope settled. A package would not: it could bring a
scope with waiting imports in scope. -/
theorem Settled.outcome (h : r.Settled s) (hx : x.isInner) : r.Settled (r.outcome x s).scope := by
  cases hr : r.isActive with
  | false =>
    rw [outcome_inert hr]
    exact h
  | true =>
    have hn := Record.isNamed_of_isInner hx
    cases x, hn using Record.casesNamed with
    | package => cases hx
    | className line name node =>
      rw [outcome_className hr]
      exact h.visitClass hr name
    | importName line name node =>
      rw [outcome_importName hr]
      exact h.visitImport hr ⟨line, name, node⟩
    | call line name dotted node =>
      rw [outcome_call hr]
      cases name with
      | none => exact h
      | some name =>
        rw [Option.elim_some, visitCall_scope]
        exact h

theorem Settled.scopeAfter (h : r.Settled s) {xs : List Record} (hxs : ∀ x ∈ xs, x.isInner) :
    r.Settled (r.scopeAfter xs s) := by
  induction xs generalizing s with
  | nil => exact h
  | cons x xs ih =>
    obtain ⟨hx, hxs⟩ := List.forall_mem_cons.1 hxs
    exact ih (h.outcome hx) hxs

theorem settled_enter (r : Rule) (m : Module) : r.Settled (r.scopeOn m []) := by
  have hs : r.scopeOn m [] = (r.outcome m.packageRecord beginFile).scope := rfl
  rw [hs]
  cases hr : r.isActive with
  | false =>
    rw [outcome_inert hr]
    exact ⟨fun _ => rfl, fun i hi => absurd hi List.not_mem_nil, fun _ => rfl⟩
  | true =>
    rw [Module.packageRecord, outcome_package hr]
    exact settled_of_active hr (fun _ => rfl) fun i hi => absurd hi List.not_mem_nil

end Rule

namespace Checker

def Settled (c : Checker) : Prop := ∀ e ∈ c.scopes, e.1.Settled e.2

theorem Settled.step {c : Checker} (hc : c.Settled) (h : Hook) : (c.step h).2.Settled := by
  cases h with
  | openRules =>
    rw [step_openRules]
    exact hc
  | setOption slot value => exact hc
  | enter m =>
    rw [step_enter]
    intro e he
    obtain ⟨r, -, rfl⟩ := List.mem_map.1 he
    exact r.settled_enter m
  | visit m t =>
    rw [step_visit]
    intro e he
    obtain ⟨e, hmem, rfl⟩ := List.mem_map.1 he
    exact (hc e hmem).scopeAfter (t.records_inner m)
  | leave =>
    intro e he
    exact absurd he List.not_mem_nil

theorem Settled.afterCalls {c : Checker} (hc : c.Settled) (hooks : List Hook) :
    (c.afterCalls hooks).Settled := by
  induction hooks generalizing c with
  | nil => exact hc
  | cons h hooks ih => exact ih (hc.step h)

/-- Whatever the calls were, each rule of the open file has a settled scope: in scope no import
waits, every import that waits is forbidden by that rule, and a rule that does not act has the
scope it began with. -/
theorem reachable_settled (settings : Settings) (configured : List RuleOptions)
    (hooks : List Hook) {r : Rule} {s : Scope}
    (he : (r, s) ∈ ((start settings configured).afterCalls hooks).scopes) :
    (s.inScope → s.pending.entries = []) ∧ (∀ i ∈ s.pending.entries, r.forbidden i.name) ∧
      (r.isActive = false →
        s = { packageMatches := false, classMatches := false, pending := {} }) := by
  have hstart : (start settings configured).Settled := by
    intro e he
    exact absurd he List.not_mem_nil
  have hsettled := hstart.afterCalls hooks (r, s) he
  exact ⟨hsettled.none_waits, hsettled.waits_forbidden, hsettled.inert_fresh⟩

/-- The options of `Rule.sample`, set from outside. -/
def sampleSettings : Settings :=
  ⟨some (some "app"), some (some ".*Service"), some (some "os(\\..*)?"), some (some "")⟩

theorem reachable_settled_sample :
    let m : Module := { name := some "app.main" }
    let i : Import := ⟨2, "os", some ⟨.importNames, 2, 0⟩⟩
    let hooks : List Hook := [.openRules, .enter m,
      .visit m (.classDef ⟨1, 0⟩ (some "UserService") []), .setOption .forbid (some (some "(")),
      .openRules, .enter m, .visit m (.importNames ⟨2, 0⟩ ["os", "sys"])]
    ∃ r s, (r, s) ∈ ((start sampleSettings [{}]).afterCalls hooks).scopes ∧
      s.pending.entries = [i] ∧ r.forbidden i.name := by
  intro m i hooks
  have hscopes : ((start sampleSettings [{}]).afterCalls hooks).scopes.map (·.2) =
      [⟨true, false, ⟨[i]⟩⟩, {}] := by decide +kernel
  have hmem : ⟨true, false, ⟨[i]⟩⟩ ∈
      ((start sampleSettings [{}]).afterCalls hooks).scopes.map (·.2) := by
    rw [hscopes]
    exact List.mem_cons_self
  obtain ⟨⟨r, s⟩, he, rfl⟩ := List.mem_map.1 hmem
  obtain ⟨-, hforbidden, -⟩ := reachable_settled sampleSettings [{}] hooks he
  exact ⟨r, _, he, rfl, hforbidden i List.mem_cons_self⟩

end Checker

end ImportGuard
