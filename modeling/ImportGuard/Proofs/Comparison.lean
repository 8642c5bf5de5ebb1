import ImportGuard.Proofs.History
import Mathlib

namespace ImportGuard

/-- What a violation is about, whatever pattern it goes against. -/
def Violation.subject (v : Violation) : Import := ⟨v.line, v.name, v.node⟩

namespace Regex.Pattern

/-- A pattern matches no less with one more alternative. -/
theorem fullMatch_alternative {p q : Pattern} {other : Node} (hroot : q.root = p.root.alt other)
    (hgroups : q.groups = p.groups) (hcontext : q.context = p.context) (name : String)
    (h : p.fullMatch name) : q.fullMatch name := by
  simp only [fullMatch, hroot, hgroups, hcontext] at h ⊢
  obtain ⟨c, hc⟩ := Option.isSome_iff_exists.1 h
  rw [Node.run, hc]
  rfl

/-- The pattern of a text; what is no pattern gives the empty one. -/
def ofText (text : String) : Pattern := (compile text).toOption.getD ⟨text, .empty, 0, {}⟩

end Regex.Pattern

open Regex.Pattern (ofText)

namespace Rule

variable {r a b : Rule} {s t : Scope} {x : Record} {xs : List Record}

theorem violation_congr (h : a.patterns.forbid = b.patterns.forbid) :
    a.violation = b.violation := by
  funext i
  rw [violation, violation, forbidSource, forbidSource, h]

/-- The record is a class that brings the rule in scope. -/
def opens (r : Rule) (x : Record) (s : Scope) : Bool :=
  x.class?.any fun name => s.packageMatches && selects r.patterns.className name

/-- What the visit of a record brings out: all that waits, if it opens, and the record itself, if
the rule is in scope. -/
def reported (r : Rule) (x : Record) (s : Scope) : List Import :=
  (if r.opens x s then s.pending.entries else []) ++
    if s.inScope then (r.suspect? x).toList else []

/-- What waits after the visit of a record. -/
def kept (r : Rule) (x : Record) (s : Scope) : List Import :=
  (if r.opens x s then [] else s.pending.entries) ++
    if s.inScope then [] else (r.forbiddenImport? x).toList

theorem violations_outcome (hr : r.isActive) (hx : x.isNamed) (s : Scope) :
    (r.outcome x s).violations = (r.reported x s).map r.violation := by
  cases x, hx using Record.casesNamed with
  | package line name node =>
    rw [outcome_package hr]
    simp [visitPackage, reported, opens, Record.class?, suspect?, Record.subject?]
  | className line name node =>
    have hopens : r.opens (.className line (some name) node) s =
        (s.packageMatches && selects r.patterns.className name) := rfl
    rw [outcome_className hr, visitClass_violations, reported, hopens]
    split <;> simp [suspect?, Record.subject?]
  | importName line name node =>
    rw [outcome_importName hr, visitImport_violations, reported, suspect?_importName]
    cases r.forbidden name <;> cases s.inScope <;> simp [opens, Record.class?]
  | call line name dotted node =>
    rw [outcome_call hr]
    cases name with
    | none => simp [reported, opens, Record.class?, suspect?, Record.subject?]
    | some name =>
      rw [Option.elim_some, visitCall_violations, reported, suspect?_call]
      cases s.inScope <;> cases dotted <;> cases name.isEmpty <;> cases r.forbidden name <;>
        simp [opens, Record.class?]

theorem scope_outcome (hr : r.isActive) (hx : x.isNamed) (s : Scope) :
    (r.outcome x s).scope =
      { packageMatches := (x.package?.map (selects r.patterns.package)).getD s.packageMatches
        classMatches := (x.class?.map (selects r.patterns.className)).getD s.classMatches
        pending := ⟨r.kept x s⟩ } := by
  cases x, hx using Record.casesNamed with
  | package line name node =>
    rw [outcome_package hr]
    simp [visitPackage, kept, opens, Record.package?, Record.class?, forbiddenImport?,
      Record.import?]
  | className line name node =>
    have hopens : r.opens (.className line (some name) node) s =
        (s.packageMatches && selects r.patterns.className name) := rfl
    rw [outcome_className hr, visitClass_scope, kept, hopens]
    split <;> simp [Record.package?, Record.class?, forbiddenImport?, Record.import?]
  | importName line name node =>
    rw [outcome_importName hr, visitImport_scope, kept, forbiddenImport?, Record.import?,
      Option.filter_some]
    cases r.forbidden name <;> cases s.inScope <;>
      simp [opens, Record.package?, Record.class?, Pending.defer]
  | call line name dotted node =>
    have hscope : (r.outcome (.call line name dotted node) s).scope = s := by
      rw [outcome_call hr]
      cases name with
      | none => rfl
      | some name => exact visitCall_scope _ _ _ _
    rw [hscope]
    simp [kept, opens, Record.package?, Record.class?, forbiddenImport?, Record.import?]

/-- The rules select alike, and the first forbids nothing that the second does not forbid. -/
structure ForbidsLess (a b : Rule) : Prop where
  package : a.patterns.package = b.patterns.package
  className : a.patterns.className = b.patterns.className
  forbidden : ∀ name, a.forbidden name → b.forbidden name

/-- The scope in which just the imports that the rule forbids wait. -/
def restrict (r : Rule) (s : Scope) : Scope :=
  { s with pending := ⟨s.pending.entries.filter (r.forbidden ·.name)⟩ }

/-- The outcome of `a` is the outcome of `b`, cut down to the names that `a` forbids. -/
structure CutsDown (a b : Rule) (o o' : Outcome) : Prop where
  violations : ∃ imports : List Import, o'.violations = imports.map b.violation ∧
    o.violations = (imports.filter (a.forbidden ·.name)).map a.violation
  scope : o.scope = a.restrict o'.scope

theorem ForbidsLess.filter (h : a.ForbidsLess b) (i : Option Import) :
    i.filter (a.forbidden ·.name) =
      (i.filter (b.forbidden ·.name)).filter (a.forbidden ·.name) := by
  cases i with
  | none => rfl
  | some i =>
    by_cases hi : a.forbidden i.name
    · simp [Option.filter_some, hi, h.forbidden i.name hi]
    · by_cases hb : b.forbidden i.name <;> simp [Option.filter_some, hi, hb]

theorem ForbidsLess.opens (h : a.ForbidsLess b) (x : Record) (s : Scope) :
    a.opens x (a.restrict s) = b.opens x s := by
  rw [Rule.opens, Rule.opens, h.className]
  rfl

@[simp] theorem inScope_restrict (r : Rule) (s : Scope) : (r.restrict s).inScope = s.inScope := rfl

theorem ForbidsLess.reported (h : a.ForbidsLess b) (x : Record) (s : Scope) :
    a.reported x (a.restrict s) = (b.reported x s).filter (a.forbidden ·.name) := by
  have hself : a.suspect? x = (b.suspect? x).filter (a.forbidden ·.name) := h.filter x.subject?
  rw [Rule.reported, Rule.reported, h.opens, inScope_restrict, hself, List.filter_append]
  congr 1
  · cases b.opens x s <;> rfl
  · cases s.inScope <;> simp [Option.toList_filter]

theorem ForbidsLess.kept (h : a.ForbidsLess b) (x : Record) (s : Scope) :
    a.kept x (a.restrict s) = (b.kept x s).filter (a.forbidden ·.name) := by
  have hself : a.forbiddenImport? x = (b.forbiddenImport? x).filter (a.forbidden ·.name) :=
    h.filter x.import?
  rw [Rule.kept, Rule.kept, h.opens, inScope_restrict, hself, List.filter_append]
  congr 1
  · cases b.opens x s <;> rfl
  · cases s.inScope <;> simp [Option.toList_filter]

theorem ForbidsLess.outcome (h : a.ForbidsLess b) (ha : a.isActive) (hb : b.isActive)
    (hx : x.isNamed) (s : Scope) :
    a.CutsDown b (a.outcome x (a.restrict s)) (b.outcome x s) := by
  refine ⟨⟨b.reported x s, violations_outcome hb hx s, ?_⟩, ?_⟩
  · rw [violations_outcome ha hx, h.reported]
  · rw [scope_outcome ha hx, scope_outcome hb hx, h.kept, h.package, h.className]
    rfl

/-- A run of the rule that forbids less is the run of the other one, cut down at every step. -/
theorem ForbidsLess.outcomes (h : a.ForbidsLess b) (ha : a.isActive) (hb : b.isActive)
    (hn : ∀ x ∈ xs, x.isNamed) (s : Scope) :
    List.Forall₂ (a.CutsDown b) (a.outcomes xs (a.restrict s)) (b.outcomes xs s) := by
  induction xs generalizing s with
  | nil => exact .nil
  | cons x xs ih =>
    obtain ⟨hx, hxs⟩ := List.forall_mem_cons.1 hn
    have hstep := h.outcome ha hb hx s
    refine .cons hstep ?_
    rw [hstep.scope]
    exact ih hxs _

theorem CutsDown.subjects {o o' : Outcome} (h : a.CutsDown b o o') :
    o.violations.map Violation.subject =
      (o'.violations.filter (a.forbidden ·.name)).map Violation.subject := by
  obtain ⟨imports, hb, ha⟩ := h.violations
  rw [hb, ha, List.filter_map, List.map_map, List.map_map]
  rfl

/-- Under one forbidden pattern the violations are cut down as they are told. -/
theorem CutsDown.violations_eq {o o' : Outcome} (h : a.CutsDown b o o')
    (hforbid : a.patterns.forbid = b.patterns.forbid) :
    o.violations = o'.violations.filter (a.forbidden ·.name) := by
  obtain ⟨imports, hb, ha⟩ := h.violations
  rw [hb, ha, violation_congr hforbid, List.filter_map]
  rfl

/-- The rule with another pattern of excluded names. -/
def excluding (r : Rule) (exclude : Regex.Pattern) : Rule :=
  ⟨{ r.patterns with exclude := some exclude }⟩

theorem excluding_isActive (hr : r.isActive) (exclude : Regex.Pattern) :
    (r.excluding exclude).isActive := by
  simp only [isActive, PatternSet.isComplete, Bool.and_eq_true] at hr ⊢
  exact ⟨hr.1, rfl⟩

theorem forbidden_eq (hr : r.isActive) (name : String) :
    r.forbidden name =
      (selects r.patterns.forbid name && !selects r.patterns.exclude name) := by
  simp only [isActive, PatternSet.isComplete, Bool.and_eq_true, Option.isSome_iff_exists] at hr
  obtain ⟨⟨-, forbid, hforbid⟩, exclude, hexclude⟩ := hr
  simp only [forbidden, hforbid, hexclude, selects, Option.any_some]

theorem excluding_forbidsLess (hr : r.isActive) {exclude : Regex.Pattern}
    (hwider : ∀ name, selects r.patterns.exclude name → exclude.fullMatch name) :
    (r.excluding exclude).ForbidsLess r := by
  refine ⟨rfl, rfl, ?_⟩
  intro name hname
  rw [forbidden_eq (excluding_isActive hr exclude), Bool.and_eq_true] at hname
  rw [forbidden_eq hr, Bool.and_eq_true]
  refine ⟨hname.1, ?_⟩
  by_contra hselected
  rw [Bool.not_eq_true', Bool.not_eq_false] at hselected
  have hmatch : selects (r.excluding exclude).patterns.exclude name = true := hwider name hselected
  rw [hmatch] at hname
  cases hname.2

/-- At every step of a run the violations of a rule that forbids less are those of the other one
whose names it forbids, in the same order, and so are the imports that wait. With a wider pattern
of excluded names a rule says at every step what it said before, less some of the violations. -/
theorem forbidsLess_filters (h : a.ForbidsLess b) (ha : a.isActive) (hb : b.isActive)
    (hn : ∀ x ∈ xs, x.isNamed) :
    ∃ as bs, a.run xs beginFile = .ok as ∧ b.run xs beginFile = .ok bs ∧
      List.Forall₂ (fun o o' =>
        o.violations.map Violation.subject =
            (o'.violations.filter (a.forbidden ·.name)).map Violation.subject ∧
          o.scope.pending.entries = o'.scope.pending.entries.filter (a.forbidden ·.name)) as bs ∧
      ∀ exclude : Regex.Pattern,
        (∀ name, selects b.patterns.exclude name → exclude.fullMatch name) →
        ∃ cs, (b.excluding exclude).run xs beginFile = .ok cs ∧
          List.Forall₂ (fun o o' => o.violations =
            o'.violations.filter ((b.excluding exclude).forbidden ·.name)) cs bs := by
  refine ⟨_, _, run_eq_outcomes ha hn beginFile, run_eq_outcomes hb hn beginFile, ?_, ?_⟩
  · refine (h.outcomes ha hb hn beginFile).imp ?_
    intro o o' hcut
    exact ⟨hcut.subjects, congrArg (·.pending.entries) hcut.scope⟩
  · intro exclude hwider
    have hc := excluding_isActive hb exclude
    refine ⟨_, run_eq_outcomes hc hn beginFile, ?_⟩
    refine ((excluding_forbidsLess hb hwider).outcomes hc hb hn beginFile).imp ?_
    intro o o' hcut
    exact hcut.violations_eq rfl

theorem forbidsLess_filters_sample :
    let b := sample.excluding (ofText ".*path")
    let a := b.excluding (ofText ".*path|os")
    let xs : List Record := [.package 0 (some "app") none, .importName 1 (some "os") none,
      .importName 2 (some "os.remove") none, .importName 3 (some "os.path") none,
      .className 4 (some "UserService") none, .importName 5 (some "os") none,
      .call 6 (some "os.system") true none]
    a.ForbidsLess b ∧ a.isActive ∧ b.isActive ∧ (∀ x ∈ xs, x.isNamed) ∧
      ∃ as bs, a.run xs beginFile = .ok as ∧ b.run xs beginFile = .ok bs ∧
        bs.map (·.violations.map (·.name)) =
          [[], [], [], [], ["os", "os.remove"], ["os"], ["os.system"]] ∧
        as.map (·.violations.map Violation.subject) =
          [[], [], [], [], [⟨2, "os.remove", none⟩], [], [⟨6, "os.system", none⟩]] := by
  intro b a xs
  have hb : b.isActive := excluding_isActive sample_isActive _
  have ha : a.isActive := excluding_isActive hb _
  have h : a.ForbidsLess b := by
    apply excluding_forbidsLess hb
    intro name hname
    have hroot : (ofText ".*path|os").root = (ofText ".*path").root.alt (ofText "os").root := by
      cbv
    simp only [b, excluding, selects, Option.any_some] at hname
    exact Regex.Pattern.fullMatch_alternative hroot (by decide +kernel) (by decide +kernel) name
      hname
  have hn : ∀ x ∈ xs, x.isNamed := by decide +kernel
  obtain ⟨as, bs, hruna, hrunb, hall, -⟩ := forbidsLess_filters h ha hb hn
  obtain rfl : b.outcomes xs beginFile = bs :=
    Except.ok.inj ((run_eq_outcomes hb hn beginFile).symm.trans hrunb)
  refine ⟨h, ha, hb, hn, as, _, hruna, hrunb, by decide +kernel, ?_⟩
  have hcut : as.map (·.violations.map Violation.subject) = (b.outcomes xs beginFile).map fun o =>
      (o.violations.filter (a.forbidden ·.name)).map Violation.subject := by
    rw [← List.forall₂_eq_eq_eq, List.forall₂_map_left_iff, List.forall₂_map_right_iff]
    exact hall.imp fun o o' ho => ho.1
  rw [hcut]
  decide +kernel

/-- The rules forbid alike, and the second selects all that the first selects. -/
structure SelectsLess (a b : Rule) : Prop where
  package : ∀ name, selects a.patterns.package name → selects b.patterns.package name
  className : ∀ name, selects a.patterns.className name → selects b.patterns.className name
  forbid : a.patterns.forbid = b.patterns.forbid
  exclude : a.patterns.exclude = b.patterns.exclude

/-- One rule has given the violations `as` and holds the imports `ws`, another one has given `bs`
and holds `vs`. What the second does not hold any more it has given, and all that the first has
given besides. -/
def Outpaces (r : Rule) (as bs : List Violation) (ws vs : List Import) : Prop :=
  ∃ early : List Import, ws.Perm (early ++ vs) ∧ (as ++ early.map r.violation).Subperm bs

section Outpaces

variable {as bs : List Violation} {ws vs is js : List Import}

/-- Both give the same. -/
theorem Outpaces.give (h : r.Outpaces as bs ws vs) (is : List Import) :
    r.Outpaces (as ++ is.map r.violation) (bs ++ is.map r.violation) ws vs := by
  obtain ⟨early, hperm, hsub⟩ := h
  refine ⟨early, hperm, ?_⟩
  rw [List.append_assoc]
  apply (List.perm_append_comm.append_left as).subperm.trans
  rw [← List.append_assoc]
  exact (List.subperm_append_right _).2 hsub

/-- Both hold the same. -/
theorem Outpaces.hold (h : r.Outpaces as bs ws vs) (is : List Import) :
    r.Outpaces as bs (ws ++ is) (vs ++ is) := by
  obtain ⟨early, hperm, hsub⟩ := h
  refine ⟨early, ?_, hsub⟩
  rw [← List.append_assoc]
  exact hperm.append_right is

/-- The second gives what the first holds. -/
theorem Outpaces.giveEarly (h : r.Outpaces as bs ws vs) (hij : is.Sublist js) :
    r.Outpaces as (bs ++ js.map r.violation) (ws ++ is) vs := by
  obtain ⟨early, hperm, hsub⟩ := h
  refine ⟨early ++ is, ?_, ?_⟩
  · apply (hperm.append_right is).trans
    rw [List.append_assoc, List.append_assoc]
    exact List.perm_append_comm.append_left early
  · rw [List.map_append, ← List.append_assoc]
    exact hsub.append (hij.map r.violation).subperm

/-- The second gives all that it holds. -/
theorem Outpaces.flushEarly (h : r.Outpaces as bs ws vs) :
    r.Outpaces as (bs ++ vs.map r.violation) ws [] := by
  obtain ⟨early, hperm, hsub⟩ := h
  refine ⟨early ++ vs, by rwa [List.append_nil], ?_⟩
  rw [List.map_append, ← List.append_assoc]
  exact (List.subperm_append_right _).2 hsub

/-- Both give all that they hold. -/
theorem Outpaces.flush (h : r.Outpaces as bs ws vs) :
    r.Outpaces (as ++ ws.map r.violation) (bs ++ vs.map r.violation) [] [] := by
  obtain ⟨early, hperm, hsub⟩ := h.flushEarly
  rw [List.append_nil] at hperm
  refine ⟨[], .refl _, ?_⟩
  rw [List.map_nil, List.append_nil]
  exact ((hperm.map r.violation).append_left as).subperm.trans hsub

theorem Outpaces.subperm (h : r.Outpaces as bs ws vs) : as.Subperm bs := by
  obtain ⟨early, -, hsub⟩ := h
  exact (List.sublist_append_left as _).subperm.trans hsub

end Outpaces

/-- What holds of two rules over a run: where the first is in scope, so is the second, and the
second outpaces the first. -/
structure Behind (r : Rule) (as bs : List Violation) (s t : Scope) : Prop where
  package : s.packageMatches → t.packageMatches
  className : s.classMatches → t.classMatches
  outpaced : r.Outpaces as bs s.pending.entries t.pending.entries

variable {as bs : List Violation}

theorem SelectsLess.forbidden (h : a.SelectsLess b) : a.forbidden = b.forbidden := by
  funext name
  rw [Rule.forbidden, Rule.forbidden, h.forbid, h.exclude]

theorem SelectsLess.suspect? (h : a.SelectsLess b) (x : Record) : a.suspect? x = b.suspect? x := by
  rw [Rule.suspect?, Rule.suspect?, h.forbidden]

theorem SelectsLess.forbiddenImport? (h : a.SelectsLess b) (x : Record) :
    a.forbiddenImport? x = b.forbiddenImport? x := by
  rw [Rule.forbiddenImport?, Rule.forbiddenImport?, h.forbidden]

theorem forbiddenImport?_sublist (r : Rule) (x : Record) :
    (r.forbiddenImport? x).toList.Sublist (r.suspect? x).toList := by
  cases h : r.forbiddenImport? x with
  | none => exact List.nil_sublist _
  | some i => rw [suspect?_of_import h]

theorem opens_none (h : r.opens x s) : r.suspect? x = none ∧ r.forbiddenImport? x = none := by
  cases x with
  | className => exact ⟨rfl, rfl⟩
  | package | importName | call => cases h

theorem Behind.opens (h : r.Behind as bs s t) (hab : a.SelectsLess b) (hx : a.opens x s) :
    b.opens x t := by
  rw [Rule.opens] at hx ⊢
  cases hc : x.class? with
  | none => simp [hc] at hx
  | some name =>
    simp only [hc, Option.any_some, Bool.and_eq_true] at hx ⊢
    exact ⟨h.package hx.1, hab.className name hx.2⟩

theorem Behind.inScope (h : r.Behind as bs s t) (hs : s.inScope) : t.inScope := by
  simp only [Scope.inScope, Bool.and_eq_true] at hs ⊢
  exact ⟨h.package hs.1, h.className hs.2⟩

theorem Behind.reported (h : b.Behind as bs s t) (hab : a.SelectsLess b) (x : Record) :
    b.Outpaces (as ++ (a.reported x s).map b.violation) (bs ++ (b.reported x t).map b.violation)
      (a.kept x s) (b.kept x t) := by
  simp only [Rule.kept, Rule.reported, hab.suspect?, hab.forbiddenImport?]
  cases hopens : b.opens x t with
  | true =>
    -- A class is nothing to report itself, so only what waits matters.
    obtain ⟨hself, himport⟩ := opens_none hopens
    simp only [hself, himport, Option.toList_none, ite_self, List.append_nil, ↓reduceIte]
    cases a.opens x s with
    | true => exact h.outpaced.flush
    | false =>
      -- Here what waits for `b` is given ahead of `a`.
      simpa using h.outpaced.flushEarly
  | false =>
    have hshut : a.opens x s = false := by
      by_contra hx
      rw [h.opens hab (Bool.eq_true_of_not_eq_false hx)] at hopens
      cases hopens
    simp only [hshut, Bool.false_eq_true, ↓reduceIte, List.nil_append]
    cases hs : s.inScope with
    | true =>
      simp only [h.inScope hs, ↓reduceIte, List.append_nil]
      exact h.outpaced.give _
    | false =>
      simp only [Bool.false_eq_true, ↓reduceIte, List.map_nil, List.append_nil]
      cases t.inScope with
      | true => simpa using h.outpaced.giveEarly (b.forbiddenImport?_sublist x)
      | false => simpa using h.outpaced.hold (b.forbiddenImport? x).toList

theorem Behind.outcome (h : b.Behind as bs s t) (hab : a.SelectsLess b) (ha : a.isActive)
    (hb : b.isActive) (hx : x.isNamed) :
    b.Behind (as ++ (a.outcome x s).violations) (bs ++ (b.outcome x t).violations)
      (a.outcome x s).scope (b.outcome x t).scope := by
  rw [violations_outcome ha hx, violations_outcome hb hx, scope_outcome ha hx,
    scope_outcome hb hx, violation_congr hab.forbid]
  refine ⟨?_, ?_, h.reported hab x⟩
  · cases x.package? with
    | none => exact h.package
    | some name => exact hab.package name
  · cases x.class? with
    | none => exact h.className
    | some name => exact hab.className name

theorem Behind.run (h : b.Behind as bs s t) (hab : a.SelectsLess b) (ha : a.isActive)
    (hb : b.isActive) (hn : ∀ x ∈ xs, x.isNamed) :
    b.Behind (as ++ (a.outcomes xs s).flatMap (·.violations))
      (bs ++ (b.outcomes xs t).flatMap (·.violations)) (a.scopeAfter xs s)
      (b.scopeAfter xs t) := by
  -- The induction carries all that was given so far, as a violation may come earlier in `b`.
  induction xs generalizing as bs s t with
  | nil => simpa [outcomes] using h
  | cons x xs ih =>
    obtain ⟨hx, hxs⟩ := List.forall_mem_cons.1 hn
    have hstep := ih (h.outcome hab ha hb hx) hxs
    rw [List.append_assoc, List.append_assoc] at hstep
    exact hstep

/-- A rule that selects more packages and classes loses no violation: over a whole run those of the
other one are among its own, each as often and with the same text. -/
theorem selectsLess_subperm (h : a.SelectsLess b) (ha : a.isActive) (hb : b.isActive)
    (hn : ∀ x ∈ xs, x.isNamed) :
    ∃ as bs, a.run xs beginFile = .ok as ∧ b.run xs beginFile = .ok bs ∧
      (as.flatMap (·.violations)).Subperm (bs.flatMap (·.violations)) := by
  have hstart : b.Behind [] [] beginFile beginFile := ⟨id, id, [], .refl _, .refl _⟩
  exact ⟨_, _, run_eq_outcomes ha hn beginFile, run_eq_outcomes hb hn beginFile,
    (hstart.run h ha hb hn).outpaced.subperm⟩

theorem selectsLess_subperm_sample :
    let a : Rule := ⟨{ sample.patterns with className := some (ofText ".*Service") }⟩
    let b : Rule := ⟨{ sample.patterns with className := some (ofText ".*Service|Helper") }⟩
    let xs : List Record := [.package 0 (some "app") none, .importName 1 (some "os") none,
      .className 2 (some "Helper") none, .importName 3 (some "os.path") none,
      .call 4 (some "os.remove") true none, .className 5 (some "UserService") none]
    let first : Violation := ⟨1, "os(\\..*)?", "os", none⟩
    let second : Violation := ⟨3, "os(\\..*)?", "os.path", none⟩
    let third : Violation := ⟨4, "os(\\..*)?", "os.remove", none⟩
    a.SelectsLess b ∧ a.isActive ∧ b.isActive ∧ (∀ x ∈ xs, x.isNamed) ∧
      ∃ as bs, a.run xs beginFile = .ok as ∧ b.run xs beginFile = .ok bs ∧
        as.map (·.violations) = [[], [], [], [], [], [first, second]] ∧
        bs.map (·.violations) = [[], [], [first], [second], [third], []] ∧
        (as.flatMap (·.violations)).Subperm (bs.flatMap (·.violations)) := by
  intro a b xs first second third
  have ha : a.isActive := by decide +kernel
  have hb : b.isActive := by decide +kernel
  have h : a.SelectsLess b := by
    refine ⟨fun name hname => hname, ?_, rfl, rfl⟩
    intro name hname
    have hroot : (ofText ".*Service|Helper").root =
        (ofText ".*Service").root.alt (ofText "Helper").root := by cbv
    simp only [a, b, selects, Option.any_some] at hname ⊢
    exact Regex.Pattern.fullMatch_alternative hroot (by decide +kernel) (by decide +kernel) name
      hname
  have hn : ∀ x ∈ xs, x.isNamed := by decide +kernel
  obtain ⟨as, bs, hruna, hrunb, hsub⟩ := selectsLess_subperm h ha hb hn
  obtain rfl : a.outcomes xs beginFile = as :=
    Except.ok.inj ((run_eq_outcomes ha hn beginFile).symm.trans hruna)
  obtain rfl : b.outcomes xs beginFile = bs :=
    Except.ok.inj ((run_eq_outcomes hb hn beginFile).symm.trans hrunb)
  exact ⟨h, ha, hb, hn, _, _, hruna, hrunb, by decide +kernel, by decide +kernel, hsub⟩

end Rule

end ImportGuard
