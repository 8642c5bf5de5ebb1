import ImportGuard.Checker
import ImportGuard.Proofs.Run
import Mathlib.Data.List.Induction

namespace ImportGuard

def NodeKind.isImport : NodeKind → Bool
  | importNames | importFrom => true
  | module | classDef | call => false

/-- The record can come from a node below the module: it is no package, it has the name it needs,
and it points to an import statement just if it is an import. -/
def Record.isInner : Record → Bool
  | package _ _ _ => false
  | className _ name _ => name.isSome
  | importName _ name node => name.isSome && node.any (·.kind.isImport)
  | call _ _ _ node => !node.any (·.kind.isImport)

theorem Record.isNamed_of_isInner {x : Record} (hx : x.isInner) : x.isNamed := by
  cases x with
  | package => cases hx
  | className => exact hx
  | importName => exact (Bool.and_eq_true_iff.1 hx).1
  | call => rfl

theorem Tree.records_inner (m : Module) (t : Tree) : ∀ x ∈ t.records m, x.isInner := by
  intro x hx
  cases t with
  | importNames place names =>
    obtain ⟨name, -, rfl⟩ := List.mem_map.1 hx
    rfl
  | importFrom place base level names =>
    obtain ⟨name, -, rfl⟩ := List.mem_map.1 hx
    rfl
  | classDef place id parts =>
    obtain rfl := List.mem_singleton.1 hx
    rfl
  | call place callee arguments =>
    obtain rfl := List.mem_singleton.1 hx
    rfl
  | name | attr | other => cases hx

theorem Tree.records_named (m : Module) (t : Tree) : ∀ x ∈ t.records m, x.isNamed :=
  fun x hx => Record.isNamed_of_isInner (t.records_inner m x hx)

namespace Report

@[simp] theorem append_messages (a b : Report) : (a ++ b).messages = a.messages ++ b.messages := rfl

theorem append_empty (a : Report) : a ++ {} = a := by
  cases a with
  | mk messages events =>
    change Report.mk (messages ++ []) (events ++ []) = _
    rw [List.append_nil, List.append_nil]

theorem append_assoc (a b c : Report) : a ++ b ++ c = a ++ (b ++ c) := by
  change Report.mk (a.messages ++ b.messages ++ c.messages) (a.events ++ b.events ++ c.events) = _
  rw [List.append_assoc, List.append_assoc]
  rfl

end Report

namespace Rule

def report (r : Rule) (xs : List Record) (s : Scope) : Report where
  messages := (r.outcomes xs s).flatMap (·.violations)
  events := (r.outcomes xs s).flatMap (·.events)

variable {r : Rule} {xs : List Record}

theorem report_cons (r : Rule) (x : Record) (xs : List Record) (s : Scope) :
    r.report (x :: xs) s =
      ⟨(r.outcome x s).violations, (r.outcome x s).events⟩ ++
        r.report xs (r.outcome x s).scope := rfl

theorem report_append (r : Rule) (xs ys : List Record) (s : Scope) :
    r.report (xs ++ ys) s = r.report xs s ++ r.report ys (r.scopeAfter xs s) := by
  simp only [report, outcomes_append, List.flatMap_append]
  rfl

theorem report_inert (hr : r.isActive = false) (xs : List Record) (s : Scope) :
    r.report xs s = {} := by
  simp only [report, outcomes_inert hr]
  congr 1 <;> simp

/-- Within the checker a rule does what it does on its own; one that does not act is passed
over. -/
theorem visitAll_eq_report (hn : ∀ x ∈ xs, x.isNamed) (s : Scope) :
    r.visitAll xs s = .ok (r.report xs s, r.scopeAfter xs s) := by
  cases hr : r.isActive with
  | false =>
    rw [report_inert hr, scopeAfter_inert hr]
    induction xs with
    | nil => rfl
    | cons x xs ih =>
      have hk : r.kinds.contains x.kind = false := by simp [kinds, hr]
      rw [visitAll, hk]
      exact ih (List.forall_mem_cons.1 hn).2
  | true =>
    induction xs generalizing s with
    | nil => rfl
    | cons x xs ih =>
      obtain ⟨hx, hxs⟩ := List.forall_mem_cons.1 hn
      simp only [visitAll, mem_kinds hr, visit_eq_outcome hr hx, ↓reduceIte]
      change (r.visitAll xs (r.outcome x s).scope >>= _) = _
      rw [ih hxs]
      rfl

end Rule

theorem dispatch_eq {xs : List Record} (hn : ∀ x ∈ xs, x.isNamed)
    (scopes : List (Rule × Scope)) :
    dispatch xs scopes =
      .ok (⟨scopes.flatMap fun e => (e.1.report xs e.2).messages,
          scopes.flatMap fun e => (e.1.report xs e.2).events⟩,
        scopes.map fun e => (e.1, e.1.scopeAfter xs e.2)) := by
  induction scopes with
  | nil => rfl
  | cons e scopes ih =>
    obtain ⟨r, s⟩ := e
    rw [dispatch, Rule.visitAll_eq_report hn]
    change (dispatch xs scopes >>= _) = _
    rw [ih]
    rfl

theorem dispatch_rules {xs : List Record} (hn : ∀ x ∈ xs, x.isNamed) (rules : List Rule)
    (scope : Rule → Scope) :
    dispatch xs (rules.map fun r => (r, scope r)) =
      .ok (⟨rules.flatMap fun r => (r.report xs (scope r)).messages,
          rules.flatMap fun r => (r.report xs (scope r)).events⟩,
        rules.map fun r => (r, r.scopeAfter xs (scope r))) := by
  simp only [dispatch_eq hn, List.flatMap_map, List.map_map, Function.comp_def]

def Module.walkRecords (m : Module) (ts : List Tree) : List Record :=
  m.packageRecord :: ts.flatMap (Tree.records m)

theorem Module.walkRecords_named (m : Module) (ts : List Tree) :
    ∀ x ∈ m.walkRecords ts, x.isNamed := by
  intro x hx
  rcases List.mem_cons.1 hx with rfl | hx
  · rfl
  · obtain ⟨t, -, hx⟩ := List.mem_flatMap.1 hx
    exact t.records_named m x hx

theorem Module.walkRecords_snoc (m : Module) (ts : List Tree) (t : Tree) :
    m.walkRecords (ts ++ [t]) = m.walkRecords ts ++ t.records m := by
  rw [walkRecords, walkRecords, List.flatMap_append, List.flatMap_singleton, List.cons_append]

namespace Rule

/-- The scope of a rule on its own after the nodes `ts` of a file. -/
def scopeOn (r : Rule) (m : Module) (ts : List Tree) : Scope :=
  r.scopeAfter (m.walkRecords ts) beginFile

/-- What a rule on its own reports on the nodes `ts` of a file. -/
def messagesOn (r : Rule) (m : Module) (ts : List Tree) : List Violation :=
  (r.report (m.walkRecords ts) beginFile).messages

def reportAt (r : Rule) (m : Module) (ts : List Tree) (t : Tree) : Report :=
  r.report (t.records m) (r.scopeOn m ts)

theorem scopeOn_snoc (r : Rule) (m : Module) (ts : List Tree) (t : Tree) :
    r.scopeOn m (ts ++ [t]) = r.scopeAfter (t.records m) (r.scopeOn m ts) := by
  rw [scopeOn, m.walkRecords_snoc, scopeAfter_append]
  rfl

theorem messagesOn_snoc (r : Rule) (m : Module) (ts : List Tree) (t : Tree) :
    r.messagesOn m (ts ++ [t]) = r.messagesOn m ts ++ (r.reportAt m ts t).messages := by
  rw [messagesOn, m.walkRecords_snoc, report_append]
  rfl

theorem report_package (r : Rule) (m : Module) : r.report [m.packageRecord] beginFile = {} := by
  cases hr : r.isActive with
  | false => exact report_inert hr _ _
  | true =>
    rw [report_cons, Module.packageRecord, outcome_package hr]
    rfl

end Rule

namespace Checker

variable (c : Checker) (m : Module)

/-- The checker after the nodes `ts` of a file: each rule has the scope it has on its own. -/
def after (ts : List Tree) : Checker :=
  { c with scopes := c.rules.map fun r => (r, r.scopeOn m ts) }

def reportAt (ts : List Tree) (t : Tree) : Report where
  messages := c.rules.flatMap fun r => (r.reportAt m ts t).messages
  events := c.rules.flatMap fun r => (r.reportAt m ts t).events

def reportFrom : List Tree → List Tree → Report
  | _, [] => {}
  | ts, u :: us => c.reportAt m ts u ++ reportFrom (ts ++ [u]) us

def discards (ts : List Tree) : List Event :=
  c.rules.flatMap fun r => (r.scopeOn m ts).pending.entries.map Import.discarding

theorem enter_eq : c.enter m = .ok ({}, c.after m []) := by
  have he : c.enter m =
      (dispatch [m.packageRecord] (c.rules.map fun r => (r, Rule.beginFile)) >>= fun p =>
        .ok (p.1, { c with scopes := p.2 })) := rfl
  have hn : ∀ x ∈ [m.packageRecord], x.isNamed := m.walkRecords_named []
  rw [he, dispatch_rules hn]
  simp only [Rule.report_package, List.flatMap_eq_nil_iff.2 fun _ _ => rfl]
  rfl

theorem visit_after (ts : List Tree) (t : Tree) :
    (c.after m ts).visit m t = .ok (c.reportAt m ts t, c.after m (ts ++ [t])) := by
  have he : (c.after m ts).visit m t =
      (dispatch (t.records m) (c.rules.map fun r => (r, r.scopeOn m ts)) >>= fun p =>
        .ok (p.1, { c with scopes := p.2 })) := rfl
  rw [he, dispatch_rules (t.records_named m)]
  simp only [after, Rule.scopeOn_snoc]
  rfl

theorem visitAll_after (ts us : List Tree) :
    visitAll m us (c.after m ts) = .ok (c.reportFrom m ts us, c.after m (ts ++ us)) := by
  induction us generalizing ts with
  | nil => rw [List.append_nil]; rfl
  | cons u us ih =>
    rw [visitAll, visit_after]
    change (visitAll m us (c.after m (ts ++ [u])) >>= _) = _
    rw [ih, List.append_assoc]
    rfl

theorem leave_after (ts : List Tree) :
    (c.after m ts).leave = ({ events := c.discards m ts }, { c with scopes := [] }) := by
  simp only [leave, after, discards, List.flatMap_map]
  rfl

theorem checkModule_eq :
    c.checkModule m =
      .ok (c.reportFrom m [] (Tree.preorderAll m.body) ++
          { events := c.discards m (Tree.preorderAll m.body) },
        { c with scopes := [] }) := by
  rw [checkModule, enter_eq]
  change (visitAll m (Tree.preorderAll m.body) (c.after m []) >>= _) = _
  rw [visitAll_after]
  change Except.ok (_ ++ (leave _).1, (leave _).2) = _
  rw [List.nil_append, leave_after]
  rfl

end Checker

namespace Module

/-- The records that a module gives node by node: the module itself gives its package. -/
def nodeRecords (m : Module) : List (List Record) :=
  [m.packageRecord] :: (Tree.preorderAll m.body).map (Tree.records m)

def records (m : Module) : List Record := m.nodeRecords.flatten

def recordsBefore (m : Module) (p : Nat) : Nat := (m.nodeRecords.take p).flatten.length

variable (m : Module)

theorem length_nodeRecords : m.nodeRecords.length = (Tree.preorderAll m.body).length + 1 := by
  rw [nodeRecords, List.length_cons, List.length_map]

theorem records_take (p : Nat) :
    m.records.take (m.recordsBefore p) = (m.nodeRecords.take p).flatten := by
  have h : m.records = (m.nodeRecords.take p).flatten ++ (m.nodeRecords.drop p).flatten := by
    rw [← List.flatten_append, List.take_append_drop]
    rfl
  rw [h, recordsBefore, List.take_left]

theorem nodeRecords_take (p : Nat) :
    (m.nodeRecords.take (p + 1)).flatten = m.walkRecords ((Tree.preorderAll m.body).take p) := by
  rw [nodeRecords, List.take_succ_cons, List.flatten_cons, ← List.map_take, ← List.flatMap_def]
  rfl

theorem records_eq_walkRecords : m.records = m.walkRecords (Tree.preorderAll m.body) := by
  rw [records, nodeRecords, List.flatten_cons, ← List.flatMap_def]
  rfl

end Module

namespace Rule

/-- What the visits of a rule come to that visits all records of a module on its own. -/
def solo (r : Rule) (m : Module) : List Outcome := r.outcomes m.records beginFile

/-- The part of the run on its own that belongs to the node at `p`. -/
def soloAt (r : Rule) (m : Module) (p : Nat) : List Outcome :=
  ((r.solo m).take (m.recordsBefore (p + 1))).drop (m.recordsBefore p)

def soloMessages (r : Rule) (m : Module) (p : Nat) : List Violation :=
  (r.soloAt m p).flatMap (·.violations)

def moduleMessages (r : Rule) (m : Module) : List Violation :=
  (List.range m.nodeRecords.length).flatMap (r.soloMessages m)

/-- The scope in the run on its own after the node at `p`. -/
def soloScope (r : Rule) (m : Module) (p : Nat) : Scope :=
  ((r.solo m).take (m.recordsBefore (p + 1))).getLast?.elim beginFile (·.scope)

variable {r : Rule} {m : Module} {p : Nat}

theorem solo_take (r : Rule) (m : Module) (p : Nat) :
    (r.solo m).take (m.recordsBefore p) = r.outcomes (m.nodeRecords.take p).flatten beginFile := by
  rw [solo, outcomes_take, m.records_take]

theorem getLast?_outcomes (r : Rule) (xs : List Record) (s : Scope) :
    (r.outcomes xs s).getLast?.elim s (·.scope) = r.scopeAfter xs s := by
  induction xs using List.reverseRecOn with
  | nil => rfl
  | append_singleton xs x ih =>
    rw [outcomes_append, scopeAfter_append, outcomes, outcomes, List.getLast?_concat]
    rfl

theorem soloScope_eq (r : Rule) (m : Module) (p : Nat) :
    r.soloScope m p = r.scopeOn m ((Tree.preorderAll m.body).take p) := by
  rw [soloScope, solo_take, getLast?_outcomes, m.nodeRecords_take]
  rfl

theorem soloAt_eq {xs : List Record} (hp : m.nodeRecords[p]? = some xs) :
    r.soloAt m p = r.outcomes xs (r.scopeAfter (m.nodeRecords.take p).flatten beginFile) := by
  rw [soloAt, solo_take, List.take_add_one, hp, List.flatten_append, outcomes_append,
    Module.recordsBefore, List.drop_left' (length_outcomes _ _ _), Option.toList_some,
    List.flatten_singleton]

theorem soloMessages_zero (r : Rule) (m : Module) : r.soloMessages m 0 = [] := by
  rw [soloMessages, soloAt_eq (m := m) (p := 0) rfl]
  exact congrArg Report.messages (r.report_package m)

theorem soloMessages_succ {t : Tree} (hp : (Tree.preorderAll m.body)[p]? = some t) :
    r.soloMessages m (p + 1) =
      (r.reportAt m ((Tree.preorderAll m.body).take p) t).messages := by
  have hxs : m.nodeRecords[p + 1]? = some (t.records m) := by
    rw [Module.nodeRecords, List.getElem?_cons_succ, List.getElem?_map, hp]
    rfl
  rw [soloMessages, soloAt_eq hxs, m.nodeRecords_take]
  rfl

theorem soloMessages_flatMap (r : Rule) (m : Module) (p : Nat)
    (hp : p ≤ (Tree.preorderAll m.body).length) :
    (List.range (p + 1)).flatMap (r.soloMessages m) =
      r.messagesOn m ((Tree.preorderAll m.body).take p) := by
  induction p with
  | zero =>
    rw [List.range_one, List.flatMap_singleton, soloMessages_zero]
    exact (congrArg Report.messages (r.report_package m)).symm
  | succ p ih =>
    have hget : (Tree.preorderAll m.body)[p]? = some (Tree.preorderAll m.body)[p] :=
      List.getElem?_eq_getElem hp
    rw [List.range_succ, List.flatMap_append, ih (Nat.le_of_succ_le hp), List.flatMap_singleton,
      soloMessages_succ hget, List.take_add_one, hget, Option.toList_some, messagesOn_snoc]

theorem moduleMessages_eq (r : Rule) (m : Module) :
    r.moduleMessages m = r.messagesOn m (Tree.preorderAll m.body) := by
  rw [moduleMessages, m.length_nodeRecords, soloMessages_flatMap _ _ _ (Nat.le_refl _),
    List.take_length]

theorem soloMessages_inert (hr : r.isActive = false) (m : Module) (p : Nat) :
    r.soloMessages m p = [] := by
  rw [soloMessages, List.flatMap_eq_nil_iff]
  intro out hout
  have hmem := List.mem_of_mem_take (List.mem_of_mem_drop hout)
  rw [solo, outcomes_inert hr] at hmem
  rw [List.eq_of_mem_replicate hmem]

theorem soloScope_inert (hr : r.isActive = false) (m : Module) (p : Nat) :
    r.soloScope m p = beginFile := by
  rw [soloScope_eq, scopeOn, scopeAfter_inert hr]

end Rule

theorem flatMap_active {β : Type} {f : Rule → List β} (hf : ∀ r, r.isActive = false → f r = [])
    (rules : List Rule) : (rules.filter (·.isActive)).flatMap f = rules.flatMap f := by
  induction rules with
  | nil => rfl
  | cons r rules ih =>
    cases hr : r.isActive with
    | false => rw [List.filter_cons_of_neg (by simp [hr]), List.flatMap_cons, hf r hr, ih]; rfl
    | true => rw [List.filter_cons_of_pos hr, List.flatMap_cons, List.flatMap_cons, ih]

namespace Checker

def messages (c : Checker) (m : Module) : Except Failure (List Violation) :=
  (c.checkModule m).map fun p => p.1.messages

/-- What is said at the node at `p`, and the scopes after it, come from the runs of the rules on
their own. -/
def MatchesSolo (c : Checker) (m : Module) (p : Nat) (report : Report) (c' : Checker) : Prop :=
  report.messages = (c.rules.flatMap fun r => r.soloMessages m p) ∧
    c'.scopes = c.rules.map fun r => (r, r.soloScope m p)

theorem enter_matchesSolo (c : Checker) (m : Module) : c.MatchesSolo m 0 {} (c.after m []) := by
  constructor
  · exact (List.flatMap_eq_nil_iff.2 fun r _ => r.soloMessages_zero m).symm
  · simp only [after, Rule.soloScope_eq, List.take_zero]

theorem visit_matchesSolo (c : Checker) {m : Module} {p : Nat} {t : Tree}
    (hp : (Tree.preorderAll m.body)[p]? = some t) :
    c.MatchesSolo m (p + 1) (c.reportAt m ((Tree.preorderAll m.body).take p) t)
      (c.after m ((Tree.preorderAll m.body).take p ++ [t])) := by
  constructor
  · simp only [reportAt, Rule.soloMessages_succ hp]
  · simp only [after, Rule.soloScope_eq, List.take_add_one, hp, Option.toList_some]

theorem reportFrom_snoc (c : Checker) (m : Module) (ts us : List Tree) (u : Tree) :
    c.reportFrom m ts (us ++ [u]) = c.reportFrom m ts us ++ c.reportAt m (ts ++ us) u := by
  induction us generalizing ts with
  | nil =>
    rw [List.append_nil]
    exact Report.append_empty _
  | cons v us ih =>
    rw [List.cons_append, reportFrom, ih, reportFrom, List.append_assoc, Report.append_assoc]
    rfl

theorem reportFrom_messages (c : Checker) (m : Module) (p : Nat)
    (hp : p ≤ (Tree.preorderAll m.body).length) :
    (c.reportFrom m [] ((Tree.preorderAll m.body).take p)).messages =
      (List.range (p + 1)).flatMap fun q => c.rules.flatMap fun r => r.soloMessages m q := by
  induction p with
  | zero =>
    rw [List.range_one, List.flatMap_singleton]
    exact (c.enter_matchesSolo m).1
  | succ p ih =>
    have hget : (Tree.preorderAll m.body)[p]? = some (Tree.preorderAll m.body)[p] :=
      List.getElem?_eq_getElem hp
    rw [List.take_add_one, hget, Option.toList_some, reportFrom_snoc, Report.append_messages,
      ih (Nat.le_of_succ_le hp), List.nil_append, List.range_succ (n := p + 1),
      List.flatMap_append, List.flatMap_singleton, (c.visit_matchesSolo hget).1]

theorem messages_eq (c : Checker) (m : Module) :
    c.messages m =
      .ok ((List.range m.nodeRecords.length).flatMap fun p =>
        c.rules.flatMap fun r => r.soloMessages m p) := by
  have hm := c.reportFrom_messages m (Tree.preorderAll m.body).length (Nat.le_refl _)
  rw [List.take_length] at hm
  rw [messages, checkModule_eq, Except.map, Report.append_messages, hm, List.append_nil,
    m.length_nodeRecords]

/-- The walk of a module refines the runs of the rules on their own, each from a fresh scope over
the records of all nodes in order: at every node the checker says what the rules say there, one
rule after the other, and leaves each rule the scope it has on its own. A rule that does not act
says nothing and keeps a fresh scope, so that only the rules that act decide the messages. -/
theorem walk_refines_solo (c : Checker) (m : Module) :
    (∀ r : Rule, r.isActive → r.run m.records Rule.beginFile = .ok (r.solo m)) ∧
    (∀ r : Rule, r.isActive = false → ∀ p,
      r.soloMessages m p = [] ∧ r.soloScope m p = Rule.beginFile) ∧
    (∃ report c₀, c.enter m = .ok (report, c₀) ∧ c.MatchesSolo m 0 report c₀ ∧
      ∀ p t, (Tree.preorderAll m.body)[p]? = some t →
        ∃ earlier c₁ report c₂,
          visitAll m ((Tree.preorderAll m.body).take p) c₀ = .ok (earlier, c₁) ∧
          c₁.visit m t = .ok (report, c₂) ∧ c.MatchesSolo m (p + 1) report c₂) ∧
    c.messages m =
      .ok ((List.range m.nodeRecords.length).flatMap fun p =>
        c.rules.flatMap fun r => r.soloMessages m p) ∧
    ∀ rules : List Rule, rules.filter (·.isActive) = c.rules.filter (·.isActive) →
      (∀ p, (rules.flatMap fun r => r.soloMessages m p) =
        c.rules.flatMap fun r => r.soloMessages m p) ∧
      messages { c with rules } m = c.messages m := by
  refine ⟨?_, ?_, ⟨{}, c.after m [], c.enter_eq m, c.enter_matchesSolo m, ?_⟩,
    c.messages_eq m, ?_⟩
  · intro r hr
    rw [Rule.solo, m.records_eq_walkRecords]
    exact Rule.run_eq_outcomes hr (m.walkRecords_named _) _
  · intro r hr p
    exact ⟨Rule.soloMessages_inert hr m p, Rule.soloScope_inert hr m p⟩
  · intro p t hp
    exact ⟨_, _, _, _, c.visitAll_after m [] _, c.visit_after m _ t, c.visit_matchesSolo hp⟩
  · intro rules hrules
    have hsame (p : Nat) : (rules.flatMap fun r => r.soloMessages m p) =
        c.rules.flatMap fun r => r.soloMessages m p := by
      have hf (r : Rule) (hr : r.isActive = false) := Rule.soloMessages_inert hr m p
      rw [← flatMap_active hf rules, hrules, flatMap_active hf]
    refine ⟨hsame, ?_⟩
    simp only [messages_eq, hsame]

theorem walk_refines_solo_sample :
    let c : Checker := { rules := [Rule.sample, ⟨{}⟩, Rule.sample] }
    let m : Module := {
      name := some "app.main"
      body := [.importNames ⟨1, 0⟩ ["os", "sys"], .classDef ⟨2, 0⟩ (some "UserService")
        [.importFrom ⟨3, 4⟩ (some "os") 0 ["path", "*"]]] }
    let first : Violation := ⟨1, "os(\\..*)?", "os", some ⟨.importNames, 1, 0⟩⟩
    let second : Violation := ⟨3, "os(\\..*)?", "os.path", some ⟨.importFrom, 3, 4⟩⟩
    c.messages m = .ok [first, first, second, second] ∧
      messages { c with rules := [Rule.sample, Rule.sample] } m = c.messages m := by
  intro c m first second
  have hi : (⟨{}⟩ : Rule).isActive = false := rfl
  obtain ⟨-, -, -, hm, hrules⟩ := c.walk_refines_solo m
  refine ⟨?_, (hrules [Rule.sample, Rule.sample] ?_).2⟩
  · rw [hm]
    exact congrArg Except.ok (by decide +kernel)
  · simp only [c, List.filter, Rule.sample_isActive, hi]

end Checker

end ImportGuard
