import ImportGuard.Proofs.History
import ImportGuard.Proofs.Walk

namespace ImportGuard

def Import.isPlaced (i : Import) : Bool := i.node.any (·.kind.isImport)

/-- The violation is about an import, and not about a call. -/
def Violation.isImport (v : Violation) : Bool := v.node.any (·.kind.isImport)

def Tree.imports (m : Module) : Tree → List Import
  | importNames place names =>
    (importedNames m (importNames place names)).map fun name =>
      ⟨place.line, name, some ⟨.importNames, place.line, place.column⟩⟩
  | importFrom place base level names =>
    (importedNames m (importFrom place base level names)).map fun name =>
      ⟨place.line, name, some ⟨.importFrom, place.line, place.column⟩⟩
  | _ => []

/-- The forbidden imports of nodes, in order and with repetitions. -/
def Rule.forbiddenImports (r : Rule) (m : Module) (ts : List Tree) : List Import :=
  (ts.flatMap (Tree.imports m)).filter (r.forbidden ·.name)

theorem filterMap_importName (line : Int) (node : Option NodeRef) (names : List String) :
    (names.map fun name => Record.importName line (some name) node).filterMap Record.import? =
      names.map fun name => ⟨line, name, node⟩ := by
  rw [List.filterMap_map]
  exact congrFun List.filterMap_eq_map names

theorem Tree.filterMap_records (m : Module) (t : Tree) :
    (t.records m).filterMap Record.import? = t.imports m := by
  cases t with
  | importNames place names => exact filterMap_importName _ _ _
  | importFrom place base level names => exact filterMap_importName _ _ _
  | name | attr | call | classDef | other => rfl

theorem Rule.filterMap_forbiddenImport? (r : Rule) (m : Module) (ts : List Tree) :
    (ts.flatMap (Tree.records m)).filterMap r.forbiddenImport? = r.forbiddenImports m ts := by
  have h : (ts.flatMap (Tree.records m)).filterMap Record.import? =
      ts.flatMap (Tree.imports m) := by
    simp only [List.filterMap_flatMap, Tree.filterMap_records]
  rw [forbiddenImports, ← h, List.filter_filterMap]
  rfl

namespace Rule

/-- What holds of a rule that has met the given imports in a file and has given the messages. In
scope nothing waits, so that an import that is reported at once comes after all earlier ones. -/
structure Accounts (r : Rule) (met : List Import) (messages : List Violation) (s : Scope) :
    Prop where
  settled : s.inScope → s.pending.entries = []
  placed : ∀ i ∈ met, i.isPlaced
  balance : ∃ reported, messages.filter Violation.isImport = reported.map r.violation ∧
    reported ++ s.pending.entries = met

variable {r : Rule} {met : List Import} {messages : List Violation} {s : Scope} {x : Record}

theorem filter_violations {is : List Import} (h : ∀ i ∈ is, i.isPlaced) :
    (is.map r.violation).filter Violation.isImport = is.map r.violation := by
  rw [List.filter_eq_self]
  intro v hv
  obtain ⟨i, hi, rfl⟩ := List.mem_map.1 hv
  exact h i hi

theorem Accounts.visitClass (h : r.Accounts met messages s) (name : String) :
    r.Accounts met (messages ++ (r.visitClass name s).violations) (r.visitClass name s).scope := by
  obtain ⟨reported, hmessages, hmet⟩ := h.balance
  rw [visitClass_violations, visitClass_scope]
  cases hin : s.packageMatches && selects r.patterns.className name with
  | true =>
    refine ⟨fun _ => rfl, h.placed, reported ++ s.pending.entries, ?_, ?_⟩
    · have hwait : ∀ i ∈ s.pending.entries, i.isPlaced := by
        intro i hi
        exact h.placed i (hmet ▸ List.mem_append_right _ hi)
      simp [List.filter_append, hmessages, filter_violations hwait]
    · simp [hmet]
  | false =>
    refine ⟨?_, h.placed, reported, ?_, hmet⟩
    · intro hs
      rw [Scope.inScope, hin] at hs
      cases hs
    · simp [hmessages]

theorem Accounts.visitImport (h : r.Accounts met messages s) {i : Import} (hi : i.isPlaced) :
    r.Accounts (met ++ ((some i).filter (r.forbidden ·.name)).toList)
      (messages ++ (r.visitImport i s).violations) (r.visitImport i s).scope := by
  obtain ⟨reported, hmessages, hmet⟩ := h.balance
  rw [visitImport_violations, visitImport_scope, Option.filter_some]
  cases hf : r.forbidden i.name with
  | false => simpa using h
  | true =>
    have hplaced : ∀ j ∈ met ++ [i], j.isPlaced := by
      intro j hj
      rcases List.mem_append.1 hj with hj | hj
      · exact h.placed j hj
      · rwa [List.mem_singleton.1 hj]
    cases hin : s.inScope with
    | true =>
      refine ⟨h.settled, hplaced, reported ++ [i], ?_, ?_⟩
      · have hv : (r.violation i).isImport := hi
        simp [List.filter_append, hmessages, hv]
      · -- In scope nothing waits, so the import follows all that came before it.
        have hempty := h.settled hin
        rw [hempty, List.append_nil] at hmet
        simp [hempty, hmet]
    | false =>
      refine ⟨?_, hplaced, reported, ?_, ?_⟩
      · intro hs
        exact absurd (hin.symm.trans hs) Bool.false_ne_true
      · simp [hmessages]
      · simp [Pending.defer, ← hmet]

theorem Accounts.visitCall (h : r.Accounts met messages s) {i : Import} (hi : i.isPlaced = false)
    (dotted : Bool) :
    r.Accounts met (messages ++ (r.visitCall i dotted s).violations)
      (r.visitCall i dotted s).scope := by
  obtain ⟨reported, hmessages, hmet⟩ := h.balance
  rw [visitCall_violations, visitCall_scope]
  refine ⟨h.settled, h.placed, reported, ?_, hmet⟩
  have hv : (r.violation i).isImport = false := hi
  split <;> simp [List.filter_append, hmessages, hv]

theorem Accounts.outcome (h : r.Accounts met messages s) (hr : r.isActive) (hx : x.isInner) :
    r.Accounts (met ++ (r.forbiddenImport? x).toList) (messages ++ (r.outcome x s).violations)
      (r.outcome x s).scope := by
  have hn := Record.isNamed_of_isInner hx
  cases x, hn using Record.casesNamed with
  | package => cases hx
  | className line name node =>
    have hi : r.forbiddenImport? (.className line (some name) node) = none := rfl
    rw [outcome_className hr, hi, Option.toList_none, List.append_nil]
    exact h.visitClass name
  | importName line name node =>
    rw [outcome_importName hr]
    exact h.visitImport hx
  | call line name dotted node =>
    have hi : r.forbiddenImport? (.call line name dotted node) = none := rfl
    rw [outcome_call hr, hi, Option.toList_none, List.append_nil]
    cases name with
    | none => simpa using h
    | some name => exact h.visitCall (Bool.not_eq_true' _ ▸ hx) dotted

theorem Accounts.run (h : r.Accounts met messages s) (hr : r.isActive) {xs : List Record}
    (hxs : ∀ x ∈ xs, x.isInner) :
    r.Accounts (met ++ xs.filterMap r.forbiddenImport?) (messages ++ (r.report xs s).messages)
      (r.scopeAfter xs s) := by
  induction xs generalizing met messages s with
  | nil => simpa [report, outcomes] using h
  | cons x xs ih =>
    obtain ⟨hx, hxs⟩ := List.forall_mem_cons.1 hxs
    have hstep := ih (h.outcome hr hx) hxs
    rw [List.append_assoc, List.append_assoc] at hstep
    have hmet : (x :: xs).filterMap r.forbiddenImport? =
        (r.forbiddenImport? x).toList ++ xs.filterMap r.forbiddenImport? := by
      rw [List.filterMap_cons]
      cases r.forbiddenImport? x <;> rfl
    rw [hmet, report_cons]
    exact hstep

theorem accounts_package (hr : r.isActive) (m : Module) :
    r.Accounts [] [] (r.scopeAfter [m.packageRecord] beginFile) := by
  rw [scopeAfter_cons, Module.packageRecord, outcome_package hr]
  exact ⟨fun _ => rfl, fun _ hi => absurd hi List.not_mem_nil, [], rfl, rfl⟩

/-- At every point of a file the account of an active rule is right. -/
theorem accounts_walk (hr : r.isActive) (m : Module) (ts : List Tree) :
    r.Accounts (r.forbiddenImports m ts) (r.messagesOn m ts) (r.scopeOn m ts) := by
  have hxs : ∀ x ∈ ts.flatMap (Tree.records m), x.isInner := by
    intro x hx
    obtain ⟨t, -, hx⟩ := List.mem_flatMap.1 hx
    exact t.records_inner m x hx
  have h := (accounts_package hr m).run hr hxs
  rw [filterMap_forbiddenImport?, List.nil_append, List.nil_append] at h
  rw [messagesOn, scopeOn, Module.walkRecords, ← List.singleton_append, report_append,
    report_package, scopeAfter_append]
  exact h

end Rule

namespace Checker

theorem reportAt_messages (c : Checker) (m : Module) (ts : List Tree) (t : Tree) :
    (c.reportAt m ts t).messages =
      c.rules.flatMap fun r => (r.messagesOn m (ts ++ [t])).drop (r.messagesOn m ts).length := by
  simp only [reportAt, Rule.messagesOn_snoc, List.drop_left]

/-- No forbidden import of a file is lost, doubled or moved. At every point of a walk the imports
that an active rule has reported, followed by those that wait, are the forbidden imports met so
far; leaving the file drops those that wait, each with one entry in the log and none with a
message. What a rule has reported grows by its share of what the checker says at a node. -/
theorem imports_reported_or_discarded (c : Checker) (m : Module) (ts : List Tree) {k : Nat}
    {r : Rule} (hk : c.rules[k]? = some r) (hr : r.isActive) :
    ∃ c₀ body c₁, c.enter m = .ok ({}, c₀) ∧ visitAll m ts c₀ = .ok (body, c₁) ∧
      c₁.scopes[k]? = some (r, r.scopeOn m ts) ∧
      (∃ reported, (r.messagesOn m ts).filter Violation.isImport = reported.map r.violation ∧
        reported ++ (r.scopeOn m ts).pending.entries = r.forbiddenImports m ts) ∧
      c₁.leave = ({ events := c₁.scopes.flatMap fun e =>
        e.2.pending.entries.map Import.discarding }, { c₁ with scopes := [] }) ∧
      r.messagesOn m [] = [] ∧
      ∀ t, ∃ report c₂, c₁.visit m t = .ok (report, c₂) ∧
        report.messages = c.rules.flatMap fun r =>
          (r.messagesOn m (ts ++ [t])).drop (r.messagesOn m ts).length := by
  have hscope : (c.after m ts).scopes[k]? = some (r, r.scopeOn m ts) := by
    rw [after, List.getElem?_map, hk]
    rfl
  refine ⟨c.after m [], c.reportFrom m [] ts, c.after m ts, c.enter_eq m,
    c.visitAll_after m [] ts, hscope, (r.accounts_walk hr m ts).balance, rfl, ?_, ?_⟩
  · exact congrArg Report.messages (r.report_package m)
  · intro t
    exact ⟨_, _, c.visit_after m ts t, c.reportAt_messages m ts t⟩

theorem imports_reported_or_discarded_sample :
    let c : Checker := { rules := [⟨{}⟩, Rule.sample] }
    let m : Module := { name := some "app.main" }
    let first : Import := ⟨1, "os", some ⟨.importNames, 1, 0⟩⟩
    let second : Import := ⟨4, "os.path", some ⟨.importFrom, 4, 0⟩⟩
    let ts : List Tree := [.importNames ⟨1, 0⟩ ["os"], .classDef ⟨2, 0⟩ (some "UserService") [],
      .classDef ⟨3, 0⟩ (some "Helper") [], .importFrom ⟨4, 0⟩ (some "os") 0 ["path"]]
    c.rules[1]? = some Rule.sample ∧ Rule.sample.isActive ∧
      (Rule.sample.scopeOn m ts).pending.entries = [second] ∧
      ∃ reported, (Rule.sample.messagesOn m ts).filter Violation.isImport =
          reported.map Rule.sample.violation ∧
        reported ++ [second] = [first, second] := by
  intro c m first second ts
  have hpending : (Rule.sample.scopeOn m ts).pending.entries = [second] := by decide +kernel
  have hmet : Rule.sample.forbiddenImports m ts = [first, second] := by decide +kernel
  obtain ⟨c₀, body, c₁, -, -, -, hbalance, -⟩ :=
    c.imports_reported_or_discarded m ts (k := 1) rfl Rule.sample_isActive
  rw [hpending, hmet] at hbalance
  exact ⟨rfl, Rule.sample_isActive, hpending, hbalance⟩

end Checker

end ImportGuard
