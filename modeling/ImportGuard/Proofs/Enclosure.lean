import ImportGuard.Proofs.Callee
import ImportGuard.Proofs.Coverage

namespace ImportGuard

open Text (Dotted.join)

namespace Tree

/-- The nodes right below a node, in the order of the walk. -/
def children : Tree → List Tree
  | name _ | importNames _ _ | importFrom _ _ _ _ => []
  | attr value _ => [value]
  | call _ callee arguments => callee :: arguments
  | classDef _ _ parts | other parts => parts

/-- The node at the end of a path. Each step of a path goes to one of the children. -/
def subtree? (t : Tree) : List Nat → Option Tree
  | [] => some t
  | i :: path => t.children[i]?.bind (subtree? · path)

/-- The nodes that a walk meets before it comes to the end of a path. -/
def before (t : Tree) : List Nat → List Tree
  | [] => []
  | i :: path =>
    t :: (preorderAll (t.children.take i) ++ t.children[i]?.elim [] (before · path))

def isClass (t : Tree) : Bool := t.className?.isSome

theorem preorder_eq (t : Tree) : t.preorder = t :: preorderAll t.children := by
  cases t with
  | name | importNames | importFrom => simp [preorder, children, preorderAll]
  | attr => simp [preorder, children, preorderAll]
  | call => rw [preorder, children, preorderAll]
  | classDef => rw [preorder, children]
  | other => rw [preorder, children]

theorem preorderAll_append (ts us : List Tree) :
    preorderAll (ts ++ us) = preorderAll ts ++ preorderAll us := by
  induction ts with
  | nil => rw [preorderAll]; rfl
  | cons t ts ih => rw [List.cons_append, preorderAll, preorderAll, ih, List.append_assoc]

theorem mem_preorderAll {u : Tree} {ts : List Tree} :
    u ∈ preorderAll ts ↔ ∃ t ∈ ts, u ∈ t.preorder := by
  induction ts with
  | nil => simp [preorderAll]
  | cons t ts ih => rw [preorderAll, List.mem_append, ih, List.exists_mem_cons_iff]

theorem subtree?_cons_eq_some {t u : Tree} {i : Nat} {path : List Nat} :
    t.subtree? (i :: path) = some u ↔
      ∃ v, t.children[i]? = some v ∧ v.subtree? path = some u :=
  Option.bind_eq_some_iff

theorem subtree?_append (t : Tree) (a b : List Nat) :
    t.subtree? (a ++ b) = (t.subtree? a).bind (subtree? · b) := by
  induction a generalizing t with
  | nil => rfl
  | cons i a ih =>
    rw [List.cons_append, subtree?, subtree?]
    cases t.children[i]? with
    | none => rfl
    | some v => exact ih v

theorem before_append {t u : Tree} {a : List Nat} (ha : t.subtree? a = some u) (b : List Nat) :
    t.before (a ++ b) = t.before a ++ u.before b := by
  induction a generalizing t with
  | nil =>
    cases ha
    rfl
  | cons i a ih =>
    obtain ⟨v, hv, hu⟩ := subtree?_cons_eq_some.1 ha
    rw [List.cons_append, before, before, hv, Option.elim_some, Option.elim_some, ih hu,
      List.cons_append, List.append_assoc]

/-- A walk meets the nodes before the end of a path, then the node there with all below it, and then
the rest. -/
theorem preorder_split {t u : Tree} {path : List Nat} (h : t.subtree? path = some u) :
    ∃ later, t.preorder = t.before path ++ u.preorder ++ later := by
  induction path generalizing t with
  | nil =>
    cases h
    exact ⟨[], (List.append_nil _).symm⟩
  | cons i path ih =>
    obtain ⟨v, hv, hu⟩ := subtree?_cons_eq_some.1 h
    obtain ⟨later, hlater⟩ := ih hu
    have hchildren : t.children = t.children.take i ++ v :: t.children.drop (i + 1) := by
      obtain ⟨hi, rfl⟩ := List.getElem?_eq_some_iff.1 hv
      rw [List.getElem_cons_drop, List.take_append_drop]
    refine ⟨later ++ preorderAll (t.children.drop (i + 1)), ?_⟩
    calc t.preorder
        = t :: preorderAll (t.children.take i ++ v :: t.children.drop (i + 1)) := by
          rw [← hchildren, preorder_eq]
      _ = t :: (preorderAll (t.children.take i) ++ (v.before path ++ u.preorder ++ later) ++
            preorderAll (t.children.drop (i + 1))) := by
          rw [preorderAll_append, preorderAll, hlater]
          simp only [List.append_assoc]
      _ = t.before (i :: path) ++ u.preorder ++
            (later ++ preorderAll (t.children.drop (i + 1))) := by
          rw [before, hv, Option.elim_some]
          simp only [List.cons_append, List.append_assoc]

theorem sizeOf_children {t u : Tree} (h : u ∈ t.children) : sizeOf u < sizeOf t := by
  cases t with
  | name | importNames | importFrom => cases h
  | attr value id =>
    obtain rfl := List.mem_singleton.1 h
    simp
    omega
  | call place callee arguments =>
    rcases List.mem_cons.1 h with rfl | h
    · simp
      omega
    · have hlt : sizeOf u < sizeOf arguments := List.sizeOf_lt_of_mem h
      simp
      omega
  | classDef place id parts =>
    have hlt : sizeOf u < sizeOf parts := List.sizeOf_lt_of_mem h
    simp
    omega
  | other parts =>
    have hlt : sizeOf u < sizeOf parts := List.sizeOf_lt_of_mem h
    simp
    omega

theorem induction_children {motive : Tree → Prop}
    (step : ∀ t, (∀ u ∈ t.children, motive u) → motive t) (t : Tree) : motive t :=
  step t fun u _ => induction_children step u
termination_by sizeOf t
decreasing_by exact sizeOf_children ‹_›

theorem exists_path {t u : Tree} (h : u ∈ t.preorder) : ∃ path, t.subtree? path = some u := by
  induction t using induction_children with
  | step t ih =>
    rw [preorder_eq] at h
    rcases List.mem_cons.1 h with rfl | h
    · exact ⟨[], rfl⟩
    · obtain ⟨v, hv, hu⟩ := mem_preorderAll.1 h
      obtain ⟨i, hi⟩ := List.getElem?_of_mem hv
      obtain ⟨path, hpath⟩ := ih v hv hu
      exact ⟨i :: path, subtree?_cons_eq_some.2 ⟨v, hi, hpath⟩⟩

theorem mem_preorder {t u : Tree} : u ∈ t.preorder ↔ ∃ path, t.subtree? path = some u := by
  constructor
  · exact exists_path
  · rintro ⟨path, hpath⟩
    obtain ⟨later, hlater⟩ := preorder_split hpath
    rw [hlater, u.preorder_eq]
    simp

/-- The nodes below a node are those at the end of a path of at least one step. -/
theorem mem_below {t u : Tree} :
    u ∈ preorderAll t.children ↔ ∃ path, path ≠ [] ∧ t.subtree? path = some u := by
  rw [mem_preorderAll]
  constructor
  · rintro ⟨v, hv, hu⟩
    obtain ⟨i, hi⟩ := List.getElem?_of_mem hv
    obtain ⟨path, hpath⟩ := mem_preorder.1 hu
    exact ⟨i :: path, List.cons_ne_nil i path, subtree?_cons_eq_some.2 ⟨v, hi, hpath⟩⟩
  · rintro ⟨path, hne, hpath⟩
    cases path with
    | nil => exact absurd rfl hne
    | cons i path =>
      obtain ⟨v, hv, hu⟩ := subtree?_cons_eq_some.1 hpath
      exact ⟨v, List.mem_of_getElem? hv, mem_preorder.2 ⟨path, hu⟩⟩

end Tree

namespace Module

/-- The module as a node above its statements. -/
def root (m : Module) : Tree := .other m.body

/-- The nodes that the walk of a module meets before it comes to the end of a path. -/
def before (m : Module) (path : List Nat) : List Tree := (m.root.before path).tail

/-- No class stands below another one. -/
def SiblingClasses (m : Module) : Prop :=
  ∀ a b t u, m.root.subtree? a = some t → t.isClass → b ≠ [] →
    m.root.subtree? (a ++ b) = some u → u.isClass = false

theorem siblingClasses_iff (m : Module) :
    m.SiblingClasses ↔ ∀ t ∈ m.root.preorder, t.isClass →
      ∀ u ∈ Tree.preorderAll t.children, u.isClass = false := by
  constructor
  · intro hm t ht hclass u hu
    obtain ⟨a, ha⟩ := Tree.mem_preorder.1 ht
    obtain ⟨b, hb, hbu⟩ := Tree.mem_below.1 hu
    apply hm a b t u ha hclass hb
    rw [Tree.subtree?_append, ha, Option.bind_some, hbu]
  · intro hm a b t u ha hclass hb hu
    rw [Tree.subtree?_append, ha, Option.bind_some] at hu
    exact hm t (Tree.mem_preorder.2 ⟨a, ha⟩) hclass u (Tree.mem_below.2 ⟨b, hb, hu⟩)

variable {m : Module} {t : Tree} {a b : List Nat}

theorem preorderAll_split (ha : a ≠ []) (ht : m.root.subtree? a = some t) :
    ∃ later, Tree.preorderAll m.body = m.before a ++ t.preorder ++ later := by
  obtain ⟨later, hlater⟩ := Tree.preorder_split ht
  cases a with
  | nil => exact absurd rfl ha
  | cons i a =>
    rw [Tree.preorder_eq] at hlater
    exact ⟨later, (List.cons.inj hlater).2⟩

/-- Below a class the walk has met that class, and since then no other one. -/
theorem before_class (hm : m.SiblingClasses) {place : Place} {id : Option String}
    {parts : List Tree} (ha : m.root.subtree? a = some (.classDef place id parts)) (hb : b ≠ [])
    (ht : m.root.subtree? (a ++ b) = some t) :
    ∃ inner, m.before (a ++ b) = m.before a ++ .classDef place id parts :: inner ∧
      ∀ u ∈ inner, u.isClass = false := by
  have hbt : (Tree.classDef place id parts).subtree? b = some t := by
    rwa [Tree.subtree?_append, ha, Option.bind_some] at ht
  obtain ⟨later, hlater⟩ := Tree.preorder_split hbt
  cases a with
  | nil => cases ha
  | cons i a =>
    cases b with
    | nil => exact absurd rfl hb
    | cons j b =>
      refine ⟨((Tree.classDef place id parts).before (j :: b)).tail, ?_, ?_⟩
      · rw [before, Tree.before_append ha]
        rfl
      · intro u hu
        rw [Tree.preorder_eq] at hlater
        have hbelow : u ∈ Tree.preorderAll (Tree.classDef place id parts).children := by
          rw [(List.cons.inj hlater).2]
          exact List.mem_append_left _ (List.mem_append_left _ hu)
        exact (siblingClasses_iff m).1 hm _ (Tree.mem_preorder.2 ⟨_, ha⟩) rfl u hbelow

end Module

namespace Rule

variable {r : Rule} {m : Module} {place : Place} {callee : Tree}

theorem endsSelected_class (r : Rule) (ts inner : List Tree) (place : Place) (id : Option String)
    (parts : List Tree) (hinner : ∀ u ∈ inner, u.isClass = false) :
    r.endsSelected (ts ++ .classDef place id parts :: inner) =
      selects r.patterns.className (id.getD "") := by
  have hnone : inner.filterMap Tree.className? = [] := by
    rw [List.filterMap_eq_nil_iff]
    intro u hu
    simpa [Tree.isClass] using hinner u hu
  have hclass : (Tree.classDef place id parts :: inner).filterMap Tree.className? =
      [id.getD ""] := by
    rw [List.filterMap_cons, hnone]
    rfl
  rw [endsSelected, List.filterMap_append, hclass, List.getLast?_concat, Option.any_some]

def callViolation (r : Rule) (place : Place) (path : String) : Violation :=
  ⟨place.line, r.forbidSource.getD "", path, some ⟨.call, place.line, place.column⟩⟩

theorem report_call (hr : r.isActive) (s : Scope) :
    (r.report [Tree.callRecord place callee] s).messages =
      callee.calleeName?.elim [] fun path =>
        if s.inScope && callee.isAttr && !path.isEmpty && r.forbidden path then
          [r.callViolation place path] else [] := by
  rw [report_cons, Tree.callRecord, outcome_call hr]
  cases callee.calleeName? with
  | none => rfl
  | some path =>
    rw [Option.elim_some, Option.elim_some, Report.append_messages, visitCall_violations]
    exact List.append_nil _

theorem report_call_dotted (hr : r.isActive) (s : Scope) (root : String)
    {attributes : List String} (hattributes : attributes ≠ []) :
    (r.report [Tree.callRecord place (.dotted root attributes)] s).messages =
      if s.inScope && r.forbidden (Dotted.join (root :: attributes)) then
        [r.callViolation place (Dotted.join (root :: attributes))] else [] := by
  rw [report_call hr, Tree.calleeName?_dotted, Option.elim_some, Tree.isAttr_dotted,
    join_isEmpty root hattributes, List.isEmpty_eq_false_iff.2 hattributes]
  simp only [Bool.not_false, Bool.and_true]

theorem report_call_other (hr : r.isActive) (s : Scope)
    (hcallee : ∀ root attributes, attributes ≠ [] → callee ≠ .dotted root attributes) :
    (r.report [Tree.callRecord place callee] s).messages = [] := by
  rw [report_call hr]
  cases hname : callee.calleeName? with
  | none => rfl
  | some path =>
    obtain ⟨root, attributes, rfl, -⟩ := Tree.calleeName?_eq_some_iff.1 hname
    cases attributes with
    | nil => simp [Tree.isAttr_dotted]
    | cons id attributes => exact absurd rfl (hcallee root _ (List.cons_ne_nil id attributes))

/-- What an active rule says of a call in a given scope: one message if the callee is a forbidden
dotted path, and the scope is right. -/
theorem report_call_iff (hr : r.isActive) (s : Scope) :
    ((r.report [Tree.callRecord place callee] s).messages ≠ [] ↔
      s.inScope ∧ ∃ root attributes, attributes ≠ [] ∧ callee = .dotted root attributes ∧
        r.forbidden (Dotted.join (root :: attributes))) ∧
    ∀ root attributes, callee = .dotted root attributes →
      (r.report [Tree.callRecord place callee] s).messages = [] ∨
      (r.report [Tree.callRecord place callee] s).messages =
        [r.callViolation place (Dotted.join (root :: attributes))] := by
  by_cases hdotted : ∃ root attributes, attributes ≠ [] ∧ callee = .dotted root attributes
  · obtain ⟨root, attributes, hne, rfl⟩ := hdotted
    rw [report_call_dotted hr s root hne]
    refine ⟨?_, ?_⟩
    · constructor
      · intro h
        have hboth := (ite_ne_right_iff.1 h).1
        obtain ⟨hs, hf⟩ := Bool.and_eq_true_iff.1 hboth
        exact ⟨hs, root, attributes, hne, rfl, hf⟩
      · rintro ⟨hs, root', attributes', -, heq, hf⟩
        obtain ⟨rfl, rfl⟩ := Tree.dotted_inj heq
        rw [hs, hf]
        exact List.cons_ne_nil _ _
    · intro root' attributes' heq
      obtain ⟨rfl, rfl⟩ := Tree.dotted_inj heq
      split
      · exact .inr rfl
      · exact .inl rfl
  · have hsaid : (r.report [Tree.callRecord place callee] s).messages = [] := by
      apply report_call_other hr
      intro root attributes hne heq
      exact hdotted ⟨root, attributes, hne, heq⟩
    refine ⟨?_, fun _ _ _ => .inl hsaid⟩
    constructor
    · intro h
      exact absurd hsaid h
    · rintro ⟨-, root, attributes, hne, heq, -⟩
      exact absurd ⟨root, attributes, hne, heq⟩ hdotted

/-- Below a class of a selected package a rule is in scope just if it selects the class. -/
theorem inScope_below_class (hr : r.isActive) (hp : selects r.patterns.package m.packageName)
    (hm : m.SiblingClasses) {a b : List Nat} {id : Option String} {parts : List Tree} {t : Tree}
    (ha : m.root.subtree? a = some (.classDef place id parts)) (hb : b ≠ [])
    (ht : m.root.subtree? (a ++ b) = some t) :
    (r.scopeOn m (m.before (a ++ b))).inScope = selects r.patterns.className (id.getD "") := by
  obtain ⟨inner, hts, hinner⟩ := Module.before_class hm ha hb ht
  rw [Scope.inScope, scopeOn_packageMatches hr, hp, Bool.true_and, scopeOn_classMatches hr, hts,
    endsSelected_class r _ _ _ _ _ hinner]

end Rule

namespace Checker

/-- In a module without nested classes a call below a class is judged by that class alone. When the
walk comes to the call, an active rule whose package pattern selects the module gives a message
just if the class is selected, the callee is a name followed by attributes, and the dotted path is
forbidden; the message is the only one and stands at the call. -/
theorem class_decides_calls (c : Checker) {m : Module} (hm : m.SiblingClasses) {a b : List Nat}
    {classPlace place : Place} {id : Option String} {parts arguments : List Tree} {callee : Tree}
    (hclass : m.root.subtree? a = some (.classDef classPlace id parts))
    (hcall : m.root.subtree? (a ++ b) = some (.call place callee arguments)) :
    let ts := m.before (a ++ b)
    let t := Tree.call place callee arguments
    ∃ later c₀ earlier c₁ report c₂, Tree.preorderAll m.body = ts ++ t :: later ∧
      c.enter m = .ok ({}, c₀) ∧ visitAll m ts c₀ = .ok (earlier, c₁) ∧
      c₁.visit m t = .ok (report, c₂) ∧
      report.messages = (c.rules.flatMap fun r => (r.reportAt m ts t).messages) ∧
      ∀ r : Rule, r.isActive → Rule.selects r.patterns.package m.packageName →
        ((r.reportAt m ts t).messages ≠ [] ↔
          Rule.selects r.patterns.className (id.getD "") ∧ ∃ root attributes, attributes ≠ [] ∧
            callee = .dotted root attributes ∧
            r.forbidden (Dotted.join (root :: attributes))) ∧
        ∀ root attributes, callee = .dotted root attributes →
          (r.reportAt m ts t).messages = [] ∨
          (r.reportAt m ts t).messages =
            [⟨place.line, r.forbidSource.getD "", Dotted.join (root :: attributes),
              some ⟨.call, place.line, place.column⟩⟩] := by
  intro ts t
  have hb : b ≠ [] := by
    rintro rfl
    rw [List.append_nil, hclass] at hcall
    cases hcall
  have hab : a ++ b ≠ [] := List.append_ne_nil_of_right_ne_nil a hb
  obtain ⟨later, hlater⟩ := Module.preorderAll_split hab hcall
  rw [Tree.preorder_eq, List.append_assoc, List.cons_append] at hlater
  refine ⟨_, c.after m [], _, c.after m ts, _, _, hlater, c.enter_eq m, c.visitAll_after m [] ts,
    c.visit_after m ts t, rfl, ?_⟩
  intro r hr hp
  rw [← Rule.inScope_below_class hr hp hm hclass hb hcall]
  exact Rule.report_call_iff hr _

theorem class_decides_calls_sample :
    let c : Checker := { rules := [⟨{}⟩, Rule.sample] }
    let t : Tree := .call ⟨3, 14⟩ (.dotted "os" ["path", "join"]) []
    let parts : List Tree := [.other [.call ⟨3, 8⟩ (.name "print") [t]]]
    let m : Module := {
      name := some "app.main"
      body := [.classDef ⟨1, 0⟩ (some "Helper") [], .classDef ⟨2, 0⟩ (some "UserService") parts,
        .classDef ⟨5, 0⟩ (some "Helper") []] }
    let ts := m.before ([1] ++ [0, 0, 1])
    m.SiblingClasses ∧ m.root.subtree? [1] = some (.classDef ⟨2, 0⟩ (some "UserService") parts) ∧
      m.root.subtree? ([1] ++ [0, 0, 1]) = some t ∧
      ∃ c₀ earlier c₁ report c₂, c.enter m = .ok ({}, c₀) ∧ visitAll m ts c₀ = .ok (earlier, c₁) ∧
        c₁.visit m t = .ok (report, c₂) ∧
        report.messages = [⟨3, Rule.sample.forbidSource.getD "", Dotted.join ["os", "path", "join"],
          some ⟨.call, 3, 14⟩⟩] := by
  intro c t parts m ts
  have hm : m.SiblingClasses := by
    rw [Module.siblingClasses_iff]
    decide +kernel
  have hclass : m.root.subtree? [1] =
      some (.classDef ⟨2, 0⟩ (some "UserService") parts) := rfl
  have hcall : m.root.subtree? ([1] ++ [0, 0, 1]) = some t := rfl
  have hp : Rule.selects Rule.sample.patterns.package m.packageName := by decide +kernel
  have hselected : Rule.selects Rule.sample.patterns.className "UserService" := by decide +kernel
  have hforbidden : Rule.sample.forbidden (Dotted.join ["os", "path", "join"]) := by
    decide +kernel
  obtain ⟨_, c₀, earlier, c₁, report, c₂, -, henter, hwalk, hvisit, hmessages, hrule⟩ :=
    c.class_decides_calls hm hclass hcall
  obtain ⟨hiff, hone⟩ := hrule Rule.sample Rule.sample_isActive hp
  have hsaid := hiff.2 ⟨hselected, "os", ["path", "join"], by decide, rfl, hforbidden⟩
  refine ⟨hm, hclass, hcall, c₀, earlier, c₁, report, c₂, henter, hwalk, hvisit, ?_⟩
  rw [hmessages, List.flatMap_cons, List.flatMap_singleton,
    (hone "os" ["path", "join"] rfl).resolve_left hsaid, Rule.reportAt, Rule.report_inert rfl]
  rfl

end Checker

end ImportGuard
