import ImportGuard.Proofs.Ledger

namespace ImportGuard

def Tree.className? : Tree → Option String
  | classDef _ id _ => some (id.getD "")
  | _ => none

namespace Rule

def endsSelected (r : Rule) (ts : List Tree) : Bool :=
  (ts.filterMap Tree.className?).getLast?.any (selects r.patterns.className)

/-- The last class before the node at `p`, or some class after it, is selected. -/
def covers (r : Rule) (ts : List Tree) (p : Nat) : Bool :=
  r.endsSelected (ts.take p) ||
    ((ts.drop (p + 1)).filterMap Tree.className?).any (selects r.patterns.className)

/-- The forbidden imports of the nodes that are not covered. -/
def uncovered (r : Rule) (m : Module) (ts : List Tree) : List Import :=
  (List.range ts.length).flatMap fun p =>
    if r.covers ts p then [] else r.forbiddenImports m ts[p]?.toList

variable {r : Rule} {m : Module} {ts : List Tree} {t : Tree} {p : Nat}

theorem covers_snoc (t : Tree) (hp : p < ts.length) :
    r.covers (ts ++ [t]) p =
      (r.covers ts p || t.className?.any (selects r.patterns.className)) := by
  rw [covers, covers, List.take_append_of_le_length hp.le, List.drop_append_of_le_length hp,
    List.filterMap_append, List.any_append, Bool.or_assoc]
  cases h : t.className? <;> simp [h]

theorem covers_last (r : Rule) (ts : List Tree) (t : Tree) :
    r.covers (ts ++ [t]) ts.length = r.endsSelected ts := by
  rw [covers, List.take_left, List.drop_of_length_le (by simp)]
  exact Bool.or_false _

theorem uncovered_snoc (r : Rule) (m : Module) (ts : List Tree) (t : Tree) :
    r.uncovered m (ts ++ [t]) =
      (if t.className?.any (selects r.patterns.className) then [] else r.uncovered m ts) ++
        (if r.endsSelected ts then [] else r.forbiddenImports m [t]) := by
  simp only [uncovered, List.length_append, List.length_singleton, List.range_succ,
    List.flatMap_append, List.flatMap_singleton, covers_last, List.getElem?_concat_length]
  congr 1
  split
  · rename_i ht
    rw [List.flatMap_eq_nil_iff]
    intro p hp
    rw [covers_snoc t (List.mem_range.1 hp), ht, Bool.or_true, if_pos rfl]
  · rename_i ht
    apply List.flatMap_congr
    intro p hp
    have hp := List.mem_range.1 hp
    rw [covers_snoc t hp, Bool.eq_false_iff.2 ht, Bool.or_false, List.getElem?_append_left hp]

theorem filterMap_package? (m : Module) (ts : List Tree) :
    (m.walkRecords ts).filterMap Record.package? = [m.packageName] := by
  have hinner : (ts.flatMap (Tree.records m)).filterMap Record.package? = [] := by
    rw [List.filterMap_eq_nil_iff]
    intro x hx
    obtain ⟨t, -, hx⟩ := List.mem_flatMap.1 hx
    have hx := t.records_inner m x hx
    cases x with
    | package => cases hx
    | className | importName | call => rfl
  rw [Module.walkRecords, List.filterMap_cons, hinner]
  rfl

theorem filterMap_class? (m : Module) (ts : List Tree) :
    (m.walkRecords ts).filterMap Record.class? = ts.filterMap Tree.className? := by
  have hnode (t : Tree) : (t.records m).filterMap Record.class? = t.className?.toList := by
    cases t with
    | importNames => simp [Tree.records, Tree.className?, List.filterMap_map, Record.class?]
    | importFrom => simp [Tree.records, Tree.className?, List.filterMap_map, Record.class?]
    | name | attr | call | classDef | other => rfl
  rw [Module.walkRecords, List.filterMap_cons_none rfl, List.filterMap_flatMap,
    List.filterMap_eq_flatMap_toList]
  simp only [hnode]

theorem scopeOn_packageMatches (hr : r.isActive) (m : Module) (ts : List Tree) :
    (r.scopeOn m ts).packageMatches = selects r.patterns.package m.packageName := by
  rw [scopeOn, scopeAfter_eq_history hr (m.walkRecords_named ts), history, filterMap_package?]
  rfl

theorem scopeOn_classMatches (hr : r.isActive) (m : Module) (ts : List Tree) :
    (r.scopeOn m ts).classMatches = r.endsSelected ts := by
  rw [scopeOn, scopeAfter_eq_history hr (m.walkRecords_named ts), history, filterMap_class?]
  rfl

theorem scopeAfter_imports (hr : r.isActive) {xs : List Record}
    (hxs : ∀ x ∈ xs, x.import?.isSome) (s : Scope) :
    r.scopeAfter xs s =
      { s with pending := if s.inScope then s.pending
          else ⟨s.pending.entries ++ xs.filterMap r.forbiddenImport?⟩ } := by
  induction xs generalizing s with
  | nil => simp
  | cons x xs ih =>
    obtain ⟨hx, hrest⟩ := List.forall_mem_cons.1 hxs
    cases x with
    | package | className | call => cases hx
    | importName line name node =>
      cases name with
      | none => cases hx
      | some name =>
        have hi : r.forbiddenImport? (.importName line (some name) node) =
            if r.forbidden name then some ⟨line, name, node⟩ else none := rfl
        rw [scopeAfter_cons, outcome_importName hr, visitImport_scope, ih hrest,
          List.filterMap_cons, hi]
        have hsame (p : Pending) : ({ s with pending := p } : Scope).inScope = s.inScope := rfl
        by_cases hs : s.inScope <;> by_cases hf : r.forbidden name <;>
          simp [hsame, hs, hf, Pending.defer]

theorem scopeAfter_importNode (hr : r.isActive) (s : Scope) (line : Int) (node : Option NodeRef)
    (names : List String)
    (ht : t.records m = names.map fun name => Record.importName line (some name) node) :
    (r.scopeAfter (t.records m) s).pending.entries =
      s.pending.entries ++ if s.inScope then [] else r.forbiddenImports m [t] := by
  have hxs : ∀ x ∈ t.records m, x.import?.isSome := by
    rw [ht]
    intro x hx
    obtain ⟨name, -, rfl⟩ := List.mem_map.1 hx
    rfl
  rw [scopeAfter_imports hr hxs, ← filterMap_forbiddenImport?, List.flatMap_singleton]
  cases s.inScope <;> simp

/-- What waits after some nodes of a selected package are the forbidden imports not covered. -/
theorem scopeOn_pending (hr : r.isActive) (hp : selects r.patterns.package m.packageName)
    (ts : List Tree) : (r.scopeOn m ts).pending.entries = r.uncovered m ts := by
  induction ts using List.reverseRecOn with
  | nil =>
    have hs : r.scopeOn m [] = (r.visitPackage m.packageName beginFile).scope :=
      congrArg Outcome.scope (outcome_package hr 0 m.packageName _ beginFile)
    rw [hs]
    rfl
  | append_singleton ts t ih =>
    have hpackage : (r.scopeOn m ts).packageMatches = true :=
      (scopeOn_packageMatches hr m ts).trans hp
    have hin : (r.scopeOn m ts).inScope = r.endsSelected ts := by
      rw [Scope.inScope, hpackage, scopeOn_classMatches hr, Bool.true_and]
    rw [scopeOn_snoc, uncovered_snoc, ← ih, ← hin]
    cases t with
    | name | attr | other => simp [Tree.records, Tree.className?, forbiddenImports, Tree.imports]
    | call place callee arguments =>
      rw [Tree.records, scopeAfter_cons, Tree.callRecord, outcome_call hr]
      cases callee.calleeName? <;> simp [Tree.className?, forbiddenImports, Tree.imports]
    | classDef place id parts =>
      rw [Tree.records, scopeAfter_cons, outcome_className hr, visitClass_scope, hpackage]
      by_cases h : selects r.patterns.className (id.getD "") <;>
        simp [h, Tree.className?, forbiddenImports, Tree.imports]
    | importNames place names => exact scopeAfter_importNode hr _ _ _ _ rfl
    | importFrom place base level names => exact scopeAfter_importNode hr _ _ _ _ rfl

theorem uncovered_eq_nil_iff (r : Rule) (m : Module) (ts : List Tree) :
    r.uncovered m ts = [] ↔
      ∀ p t, ts[p]? = some t → (∃ i ∈ t.imports m, r.forbidden i.name) → r.covers ts p := by
  have hnode (t : Tree) : r.forbiddenImports m [t] = [] ↔
      ¬ ∃ i ∈ t.imports m, r.forbidden i.name := by
    rw [forbiddenImports, List.flatMap_singleton, List.filter_eq_nil_iff, not_exists]
    exact forall_congr' fun i => not_and.symm
  rw [uncovered, List.flatMap_eq_nil_iff]
  constructor
  · intro h p t ht hi
    by_contra hc
    have hp := h p (List.mem_range.2 (List.getElem?_eq_some_iff.1 ht).1)
    rw [if_neg hc, ht] at hp
    exact (hnode t).1 hp hi
  · intro h p hp
    have ht := List.getElem?_eq_getElem (List.mem_range.1 hp)
    split
    · rfl
    · rename_i hc
      rw [ht]
      exact (hnode _).2 fun hi => hc (h p _ ht hi)

end Rule

namespace Checker

/-- A module of a selected package has all forbidden imports reported, each once, exactly when each
of them is covered: the last class before it is selected, or some class after it is. The forbidden
imports that are not covered are the ones left out. -/
theorem all_imports_reported_iff (c : Checker) (m : Module) {before after : List Rule} {r : Rule}
    (hc : c.rules = before ++ r :: after) (hr : r.isActive)
    (hp : Rule.selects r.patterns.package m.packageName) :
    c.messages m = .ok ((List.range m.nodeRecords.length).flatMap fun p =>
      (before.flatMap fun r => r.soloMessages m p) ++ r.soloMessages m p ++
        after.flatMap fun r => r.soloMessages m p) ∧
    (∃ reported, (r.moduleMessages m).filter Violation.isImport = reported.map r.violation ∧
      reported ++ r.uncovered m (Tree.preorderAll m.body) =
        r.forbiddenImports m (Tree.preorderAll m.body)) ∧
    (((r.moduleMessages m).filter Violation.isImport).Perm
        ((r.forbiddenImports m (Tree.preorderAll m.body)).map r.violation) ↔
      ∀ p t, (Tree.preorderAll m.body)[p]? = some t → (∃ i ∈ t.imports m, r.forbidden i.name) →
        r.covers (Tree.preorderAll m.body) p) := by
  obtain ⟨reported, hreported, hall⟩ := (r.accounts_walk hr m (Tree.preorderAll m.body)).balance
  rw [r.scopeOn_pending hr hp] at hall
  rw [← r.moduleMessages_eq] at hreported
  refine ⟨?_, ⟨reported, hreported, hall⟩, ?_⟩
  · rw [messages_eq, hc]
    simp only [List.flatMap_append, List.flatMap_cons, List.append_assoc]
  · rw [hreported, ← Rule.uncovered_eq_nil_iff, ← hall]
    constructor
    · intro hperm
      have hlen := hperm.length_eq
      simpa using hlen
    · intro hnil
      rw [hnil, List.append_nil]

theorem all_imports_reported_sample :
    let c : Checker := { rules := [⟨{}⟩, Rule.sample] }
    let m : Module := {
      name := some "app.main"
      body := [.importNames ⟨1, 0⟩ ["os"], .classDef ⟨2, 0⟩ (some "UserService")
        [.importFrom ⟨3, 4⟩ (some "os") 0 ["path", "remove"]],
        .classDef ⟨4, 0⟩ (some "Helper") []] }
    c.rules = [⟨{}⟩] ++ Rule.sample :: [] ∧ Rule.sample.isActive ∧
      Rule.selects Rule.sample.patterns.package m.packageName ∧
      ((Rule.sample.moduleMessages m).filter Violation.isImport).Perm
        ([⟨1, "os", some ⟨.importNames, 1, 0⟩⟩, ⟨3, "os.path", some ⟨.importFrom, 3, 4⟩⟩,
          ⟨3, "os.remove", some ⟨.importFrom, 3, 4⟩⟩].map Rule.sample.violation) := by
  intro c m
  have hc : c.rules = [⟨{}⟩] ++ Rule.sample :: [] := rfl
  have hp : Rule.selects Rule.sample.patterns.package m.packageName := by decide +kernel
  have hmet : Rule.sample.forbiddenImports m (Tree.preorderAll m.body) =
      [⟨1, "os", some ⟨.importNames, 1, 0⟩⟩, ⟨3, "os.path", some ⟨.importFrom, 3, 4⟩⟩,
        ⟨3, "os.remove", some ⟨.importFrom, 3, 4⟩⟩] := by decide +kernel
  have hnil : Rule.sample.uncovered m (Tree.preorderAll m.body) = [] := by decide +kernel
  obtain ⟨-, -, hiff⟩ := c.all_imports_reported_iff m hc Rule.sample_isActive hp
  rw [hmet, ← Rule.uncovered_eq_nil_iff] at hiff
  exact ⟨hc, Rule.sample_isActive, hp, hiff.2 hnil⟩

/-- A selected class in the module is not enough: the import after a later class is left out. -/
theorem selected_class_not_enough :
    let c : Checker := { rules := [Rule.sample] }
    let m : Module := {
      name := some "app.main"
      body := [.classDef ⟨1, 0⟩ (some "UserService") [], .classDef ⟨2, 0⟩ (some "Helper") [],
        .importNames ⟨3, 0⟩ ["os"]] }
    Rule.sample.isActive ∧ Rule.selects Rule.sample.patterns.package m.packageName ∧
      (∃ name ∈ (Tree.preorderAll m.body).filterMap Tree.className?,
        Rule.selects Rule.sample.patterns.className name) ∧
      Rule.sample.forbiddenImports m (Tree.preorderAll m.body) =
        [⟨3, "os", some ⟨.importNames, 3, 0⟩⟩] ∧
      c.messages m = .ok [] := by
  intro c m
  have hp : Rule.selects Rule.sample.patterns.package m.packageName := by decide +kernel
  have hclass : ∃ name ∈ (Tree.preorderAll m.body).filterMap Tree.className?,
      Rule.selects Rule.sample.patterns.className name := by decide +kernel
  have hmet : Rule.sample.forbiddenImports m (Tree.preorderAll m.body) =
      [⟨3, "os", some ⟨.importNames, 3, 0⟩⟩] := by decide +kernel
  refine ⟨Rule.sample_isActive, hp, hclass, hmet, ?_⟩
  rw [messages_eq]
  exact congrArg Except.ok (by decide +kernel)

end Checker

end ImportGuard
