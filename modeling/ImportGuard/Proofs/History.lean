import ImportGuard.Proofs.Run
import Mathlib.Data.List.Basic
import Mathlib.Data.List.Find
import Mathlib.Data.List.Induction

namespace ImportGuard

/-- The import, or the call under a dotted path, that a rule judges by its name. -/
def Record.subject? : Record → Option Import
  | importName line (some name) node => some ⟨line, name, node⟩
  | call line (some name) true node => if name.isEmpty then none else some ⟨line, name, node⟩
  | _ => none

namespace Rule

/-- The last package and the last class among the records are both selected. -/
def inScopeAfter (r : Rule) (xs : List Record) : Bool :=
  (xs.filterMap Record.package?).getLast?.any (selects r.patterns.package) &&
    (xs.filterMap Record.class?).getLast?.any (selects r.patterns.className)

/-- The record at a step is a class that leaves the run in scope. -/
def opensAt (r : Rule) (xs : List Record) (j : Nat) : Bool :=
  (xs[j]?.bind Record.class?).isSome && r.inScopeAfter (xs.take (j + 1))

def forbiddenImport? (r : Rule) (x : Record) : Option Import :=
  x.import?.filter (r.forbidden ·.name)

def suspect? (r : Rule) (x : Record) : Option Import :=
  x.subject?.filter (r.forbidden ·.name)

/-- The step at which the violation of the record at step `i` comes out. In scope that is the step
itself; out of scope a call is passed over, and an import comes out with the first later class that
leaves the run in scope. -/
def emission (r : Rule) (xs : List Record) (i : Nat) : Option Nat :=
  if (xs[i]?.bind r.suspect?).isNone then none
  else if r.inScopeAfter (xs.take i) then some i
  else if (xs[i]?.bind Record.import?).isNone then none
  else (List.range xs.length).find? fun j => i < j && r.opensAt xs j

/-- What the record at step `i` gives to the report of step `t`: one violation or none. -/
def contribution (r : Rule) (xs : List Record) (i t : Nat) : Option Violation :=
  if r.emission xs i = some t then (xs[i]?.bind r.suspect?).map r.violation else none

def emittedAt (r : Rule) (xs : List Record) (t : Nat) : List Violation :=
  (List.range xs.length).filterMap (r.contribution xs · t)

/-- `t` is the first step after `i` at which a class leaves the run in scope. -/
def FirstOpening (r : Rule) (xs : List Record) (i t : Nat) : Prop :=
  i < t ∧ r.opensAt xs t ∧ ∀ j, i < j → j < t → r.opensAt xs j = false

/-- The forbidden imports that have not come out yet. -/
def waiting (r : Rule) (xs : List Record) : List Import :=
  (List.range xs.length).filterMap fun i =>
    if r.emission xs i = none then xs[i]?.bind r.forbiddenImport? else none

def history (r : Rule) (xs : List Record) : Scope where
  packageMatches := (xs.filterMap Record.package?).getLast?.any (selects r.patterns.package)
  classMatches := (xs.filterMap Record.class?).getLast?.any (selects r.patterns.className)
  pending := ⟨r.waiting xs⟩

variable {r : Rule} {xs : List Record} {x : Record} {i j t : Nat}

@[simp] theorem history_inScope (r : Rule) (xs : List Record) :
    (r.history xs).inScope = r.inScopeAfter xs := rfl

theorem suspect?_importName (r : Rule) (line : Int) (name : String) (node : Option NodeRef) :
    r.suspect? (.importName line (some name) node) =
      if r.forbidden name then some ⟨line, name, node⟩ else none := rfl

theorem suspect?_call (r : Rule) (line : Int) (name : String) (dotted : Bool)
    (node : Option NodeRef) :
    r.suspect? (.call line (some name) dotted node) =
      if dotted && !name.isEmpty && r.forbidden name then some ⟨line, name, node⟩ else none := by
  cases dotted <;> cases he : name.isEmpty <;>
    simp [suspect?, Record.subject?, he, Option.filter_some]

theorem suspect?_of_import {y : Import} (h : r.forbiddenImport? x = some y) :
    r.suspect? x = some y := by
  cases x with
  | importName line name node => cases name <;> exact h
  | package => cases h
  | className => cases h
  | call => cases h

theorem isSome_forbiddenImport? (r : Rule) (x : Record) :
    (r.forbiddenImport? x).isSome = ((r.suspect? x).isSome && x.import?.isSome) := by
  cases x with
  | importName line name node => cases name <;> simp [forbiddenImport?, suspect?, Record.import?,
      Record.subject?]
  | package => rfl
  | className => rfl
  | call => simp [forbiddenImport?, Record.import?]

theorem opensAt_snoc (hj : j < xs.length) : r.opensAt (xs ++ [x]) j = r.opensAt xs j := by
  rw [opensAt, opensAt, List.getElem?_append_left hj, List.take_append_of_le_length hj]

theorem opensAt_last (r : Rule) (xs : List Record) (x : Record) :
    r.opensAt (xs ++ [x]) xs.length = (x.class?.isSome && r.inScopeAfter (xs ++ [x])) := by
  rw [opensAt, List.getElem?_concat_length, List.take_of_length_le (by simp)]
  rfl

theorem emission_lt (h : r.emission xs i = some t) : t < xs.length := by
  unfold emission at h
  split at h
  · cases h
  · rename_i hs
    split at h
    · cases h
      by_contra hi
      rw [List.getElem?_eq_none (Nat.le_of_not_lt hi)] at hs
      exact hs rfl
    · split at h
      · cases h
      · exact List.mem_range.1 (List.find?_range_eq_some.1 h).2.1

/-- An import that has not come out yet comes out with the next class that opens. -/
theorem emission_snoc (x : Record) (hi : i < xs.length) :
    r.emission (xs ++ [x]) i = (r.emission xs i).or
      (if (xs[i]?.bind r.forbiddenImport?).isSome && r.opensAt (xs ++ [x]) xs.length
        then some xs.length else none) := by
  obtain ⟨y, hy⟩ : ∃ y, xs[i]? = some y := ⟨_, List.getElem?_eq_getElem hi⟩
  have hfind : ((List.range xs.length).find? fun j => i < j && r.opensAt (xs ++ [x]) j) =
      (List.range xs.length).find? fun j => i < j && r.opensAt xs j := by
    apply List.find?_congr
    intro j hj
    rw [opensAt_snoc (List.mem_range.1 hj)]
  have hlast : ([xs.length].find? fun j => i < j && r.opensAt (xs ++ [x]) j) =
      if r.opensAt (xs ++ [x]) xs.length then some xs.length else none := by
    simp only [List.find?_singleton, hi, decide_true, Bool.true_and]
  simp only [emission, List.getElem?_append_left hi, List.take_append_of_le_length hi.le,
    List.length_append, List.length_singleton, List.range_succ, List.find?_append, hfind, hlast,
    hy, Option.bind_some, isSome_forbiddenImport?]
  cases hs : r.suspect? y with
  | none => rfl
  | some z =>
    cases hm : y.import? with
    | none => simp
    | some w =>
      by_cases hsc : r.inScopeAfter (xs.take i) = true <;> simp [hsc]

theorem emission_last (r : Rule) (xs : List Record) (x : Record) :
    r.emission (xs ++ [x]) xs.length =
      if (r.suspect? x).isSome && r.inScopeAfter xs then some xs.length else none := by
  have hfind : ((List.range (xs ++ [x]).length).find? fun j =>
      xs.length < j && r.opensAt (xs ++ [x]) j) = none := by
    rw [List.find?_range_eq_none]
    intro j hj
    have hle : ¬ xs.length < j := by simp at hj; omega
    simp [hle]
  simp only [emission, hfind, List.getElem?_concat_length, List.take_left', Option.bind_some,
    ite_self]
  cases r.suspect? x <;> rfl

theorem emission_snoc_eq_some (x : Record) (hi : i < xs.length) (ht : t < xs.length) :
    r.emission (xs ++ [x]) i = some t ↔ r.emission xs i = some t := by
  rw [emission_snoc x hi]
  cases r.emission xs i with
  | some u => rfl
  | none =>
    split
    · simp only [Option.none_or, Option.some.injEq, reduceCtorEq, iff_false]
      omega
    · rfl

theorem emittedAt_snoc (x : Record) (ht : t < xs.length) :
    r.emittedAt (xs ++ [x]) t = r.emittedAt xs t := by
  have hlast : r.emission (xs ++ [x]) xs.length ≠ some t := by
    rw [emission_last]
    split
    · simp only [ne_eq, Option.some.injEq]
      omega
    · simp
  simp only [emittedAt, contribution, List.length_append, List.length_singleton, List.range_succ,
    List.filterMap_append, List.filterMap_cons, if_neg hlast, List.filterMap_nil, List.append_nil]
  apply List.filterMap_congr
  intro i hi
  have hi := List.mem_range.1 hi
  simp only [emission_snoc_eq_some x hi ht, List.getElem?_append_left hi]

theorem emission_snoc_eq_last (x : Record) (hi : i < xs.length) :
    r.emission (xs ++ [x]) i = some xs.length ↔
      r.opensAt (xs ++ [x]) xs.length ∧ (xs[i]?.bind r.forbiddenImport?).isSome ∧
        r.emission xs i = none := by
  rw [emission_snoc x hi]
  cases he : r.emission xs i with
  | some u =>
    have hu := emission_lt he
    simp only [Option.some_or, Option.some.injEq, reduceCtorEq, and_false, iff_false]
    omega
  | none =>
    rw [Option.none_or, Option.ite_none_right_eq_some, Bool.and_eq_true]
    exact ⟨fun h => ⟨h.1.2, h.1.1, rfl⟩, fun h => ⟨⟨h.2.1, h.1⟩, rfl⟩⟩

theorem emission_snoc_eq_none {y : Import} (x : Record) (hi : i < xs.length)
    (hf : xs[i]?.bind r.forbiddenImport? = some y) :
    r.emission (xs ++ [x]) i = none ↔
      r.emission xs i = none ∧ r.opensAt (xs ++ [x]) xs.length = false := by
  simp [emission_snoc x hi, hf]

theorem bind_suspect?_of_import {o : Option Record} {y : Import}
    (h : o.bind r.forbiddenImport? = some y) : o.bind r.suspect? = some y := by
  cases o with
  | none => cases h
  | some x => exact suspect?_of_import h

theorem emittedAt_last (r : Rule) (xs : List Record) (x : Record) :
    r.emittedAt (xs ++ [x]) xs.length =
      (if r.opensAt (xs ++ [x]) xs.length then (r.waiting xs).map r.violation else []) ++
        (if r.inScopeAfter xs then (r.suspect? x).toList.map r.violation else []) := by
  simp only [emittedAt, contribution, List.length_append, List.length_singleton, List.range_succ,
    List.filterMap_append]
  congr 1
  · split
    · rename_i hop
      rw [waiting, List.map_filterMap]
      apply List.filterMap_congr
      intro i hi
      have hi := List.mem_range.1 hi
      simp only [emission_snoc_eq_last x hi, List.getElem?_append_left hi, hop, true_and]
      cases hf : xs[i]?.bind r.forbiddenImport? with
      | none => simp
      | some y => simp [bind_suspect?_of_import hf, apply_ite (Option.map r.violation)]
    · rename_i hop
      rw [List.filterMap_eq_nil_iff]
      intro i hi
      rw [if_neg]
      intro he
      exact hop ((emission_snoc_eq_last x (List.mem_range.1 hi)).1 he).1
  · simp only [List.filterMap_cons, List.filterMap_nil, emission_last,
      List.getElem?_concat_length, Option.bind_some]
    cases r.inScopeAfter xs <;> cases r.suspect? x <;> simp

theorem waiting_snoc (r : Rule) (xs : List Record) (x : Record) :
    r.waiting (xs ++ [x]) =
      (if r.opensAt (xs ++ [x]) xs.length then [] else r.waiting xs) ++
        (if r.inScopeAfter xs then [] else (r.forbiddenImport? x).toList) := by
  simp only [waiting, List.length_append, List.length_singleton, List.range_succ,
    List.filterMap_append]
  congr 1
  · split
    · rename_i hop
      rw [List.filterMap_eq_nil_iff]
      intro i hi
      have hi := List.mem_range.1 hi
      rw [List.getElem?_append_left hi]
      cases hf : xs[i]?.bind r.forbiddenImport? with
      | none => simp
      | some y => simp [emission_snoc_eq_none x hi hf, hop]
    · rename_i hop
      apply List.filterMap_congr
      intro i hi
      have hi := List.mem_range.1 hi
      rw [List.getElem?_append_left hi]
      cases hf : xs[i]?.bind r.forbiddenImport? with
      | none => simp
      | some y => simp [emission_snoc_eq_none x hi hf, hop]
  · simp only [List.filterMap_cons, List.filterMap_nil, emission_last,
      List.getElem?_concat_length, Option.bind_some]
    cases hf : r.forbiddenImport? x with
    | none => simp
    | some y =>
      rw [suspect?_of_import hf]
      cases r.inScopeAfter xs <;> simp

theorem history_package (r : Rule) (xs : List Record) (line : Int) (name : String)
    (node : Option NodeRef) :
    r.history (xs ++ [.package line (some name) node]) =
      (r.visitPackage name (r.history xs)).scope := by
  simp [history, waiting_snoc, opensAt_last, visitPackage, Record.package?, Record.class?,
    forbiddenImport?, Record.import?]

theorem inScopeAfter_className (r : Rule) (xs : List Record) (line : Int) (name : String)
    (node : Option NodeRef) :
    r.inScopeAfter (xs ++ [.className line (some name) node]) =
      ((r.history xs).packageMatches && selects r.patterns.className name) := by
  simp [inScopeAfter, history, Record.package?, Record.class?]

theorem history_className (r : Rule) (xs : List Record) (line : Int) (name : String)
    (node : Option NodeRef) :
    r.history (xs ++ [.className line (some name) node]) =
      (r.visitClass name (r.history xs)).scope := by
  have hw : r.waiting (xs ++ [.className line (some name) node]) =
      if (r.history xs).packageMatches && selects r.patterns.className name then []
      else r.waiting xs := by
    rw [waiting_snoc, opensAt_last, inScopeAfter_className]
    simp [Record.class?, forbiddenImport?, Record.import?]
  rw [visitClass_scope, history, hw]
  cases h : (r.history xs).packageMatches && selects r.patterns.className name <;>
    simp [history, Record.package?, Record.class?]

theorem history_importName (r : Rule) (xs : List Record) (line : Int) (name : String)
    (node : Option NodeRef) :
    r.history (xs ++ [.importName line (some name) node]) =
      (r.visitImport ⟨line, name, node⟩ (r.history xs)).scope := by
  have hw : r.waiting (xs ++ [.importName line (some name) node]) =
      if r.forbidden name && !r.inScopeAfter xs then r.waiting xs ++ [⟨line, name, node⟩]
      else r.waiting xs := by
    rw [waiting_snoc, opensAt_last]
    cases hf : r.forbidden name <;> cases r.inScopeAfter xs <;>
      simp [Record.class?, forbiddenImport?, Record.import?, hf]
  rw [visitImport_scope, history, hw, history_inScope]
  cases h : r.forbidden name && !r.inScopeAfter xs <;>
    simp [history, Record.package?, Record.class?, Pending.defer]

theorem history_call (r : Rule) (xs : List Record) (line : Int) (name : Option String)
    (dotted : Bool) (node : Option NodeRef) :
    r.history (xs ++ [.call line name dotted node]) = r.history xs := by
  simp [history, waiting_snoc, opensAt_last, Record.package?, Record.class?,
    forbiddenImport?, Record.import?]

theorem outcome_history_scope (hr : r.isActive) (hx : x.isNamed) (xs : List Record) :
    (r.outcome x (r.history xs)).scope = r.history (xs ++ [x]) := by
  cases x, hx using Record.casesNamed with
  | package line name node => rw [outcome_package hr, history_package]
  | className line name node => rw [outcome_className hr, history_className]
  | importName line name node => rw [outcome_importName hr, history_importName]
  | call line name dotted node =>
    rw [outcome_call hr, history_call]
    cases name with
    | none => rfl
    | some name => exact visitCall_scope _ _ _ _

theorem outcome_history_violations (hr : r.isActive) (hx : x.isNamed) (xs : List Record) :
    (r.outcome x (r.history xs)).violations = r.emittedAt (xs ++ [x]) xs.length := by
  rw [emittedAt_last, opensAt_last]
  cases x, hx using Record.casesNamed with
  | package line name node =>
    rw [outcome_package hr]
    simp [visitPackage, Record.class?, suspect?, Record.subject?]
  | className line name node =>
    rw [outcome_className hr, visitClass_violations, inScopeAfter_className]
    simp [history, Record.class?, suspect?, Record.subject?]
  | importName line name node =>
    rw [outcome_importName hr, visitImport_violations, history_inScope]
    rw [suspect?_importName]
    cases r.forbidden name <;> cases r.inScopeAfter xs <;> simp [Record.class?]
  | call line name dotted node =>
    rw [outcome_call hr]
    cases name with
    | none => simp [Record.class?, suspect?, Record.subject?]
    | some name =>
      rw [Option.elim_some, visitCall_violations, history_inScope, suspect?_call]
      cases r.inScopeAfter xs <;> cases dotted <;> cases name.isEmpty <;>
        cases r.forbidden name <;> rfl

/-- The scope that a rule carries along a run is the one that the records tell. -/
theorem scopeAfter_eq_history (hr : r.isActive) (hn : ∀ x ∈ xs, x.isNamed) :
    r.scopeAfter xs beginFile = r.history xs := by
  -- The history is told up to the last record, so the run is taken apart at its end.
  induction xs using List.reverseRecOn with
  | nil => rfl
  | append_singleton xs x ih =>
    obtain ⟨hxs, hx⟩ := List.forall_mem_append.1 hn
    rw [scopeAfter_append, ih hxs, scopeAfter_cons, scopeAfter_nil]
    exact outcome_history_scope hr (hx x (List.mem_singleton_self x)) xs

theorem outcomes_violations (hr : r.isActive) (hn : ∀ x ∈ xs, x.isNamed) :
    (r.outcomes xs beginFile).map (·.violations) =
      (List.range xs.length).map (r.emittedAt xs) := by
  induction xs using List.reverseRecOn with
  | nil => rfl
  | append_singleton xs x ih =>
    obtain ⟨hxs, hx⟩ := List.forall_mem_append.1 hn
    have hx := hx x (List.mem_singleton_self x)
    have hearlier : (List.range xs.length).map (r.emittedAt (xs ++ [x])) =
        (List.range xs.length).map (r.emittedAt xs) := by
      apply List.map_congr_left
      intro t ht
      exact emittedAt_snoc x (List.mem_range.1 ht)
    rw [outcomes_append, scopeAfter_eq_history hr hxs, List.map_append, ih hxs,
      List.length_append, List.length_singleton, List.range_succ, List.map_append, hearlier]
    simp only [outcomes, List.map_cons, List.map_nil, outcome_history_violations hr hx]

theorem opensAt_lt (h : r.opensAt xs j) : j < xs.length := by
  by_contra hj
  rw [opensAt, List.getElem?_eq_none (Nat.le_of_not_lt hj)] at h
  cases h

theorem find?_opensAt (r : Rule) (xs : List Record) (i t : Nat) :
    ((List.range xs.length).find? fun j => i < j && r.opensAt xs j) = some t ↔
      r.FirstOpening xs i t := by
  rw [List.find?_range_eq_some]
  simp only [Bool.and_eq_true, decide_eq_true_eq, List.mem_range, FirstOpening]
  constructor
  · rintro ⟨⟨hi, ht⟩, -, hfirst⟩
    refine ⟨hi, ht, ?_⟩
    intro j hij hjt
    simpa [hij] using hfirst j hjt
  · rintro ⟨hi, ht, hfirst⟩
    refine ⟨⟨hi, ht⟩, opensAt_lt ht, ?_⟩
    intro j hjt
    by_cases hij : i < j
    · simp [hfirst j hij hjt]
    · simp [hij]

theorem contribution_importName {line : Int} {name : String} {node : Option NodeRef}
    (hi : xs[i]? = some (.importName line (some name) node)) (t : Nat) (v : Violation) :
    r.contribution xs i t = some v ↔
      v = r.violation ⟨line, name, node⟩ ∧ r.forbidden name ∧
        (r.inScopeAfter (xs.take i) ∧ t = i ∨
          r.inScopeAfter (xs.take i) = false ∧ r.FirstOpening xs i t) := by
  rw [← find?_opensAt, contribution, emission, hi, Option.bind_some, suspect?_importName]
  cases r.forbidden name with
  | false => simp
  | true =>
    cases r.inScopeAfter (xs.take i) with
    | true => simp [eq_comm, and_comm]
    | false => simp [Record.import?, eq_comm, and_comm]

theorem contribution_call {line : Int} {name : Option String} {dotted : Bool}
    {node : Option NodeRef} (hi : xs[i]? = some (.call line name dotted node)) (t : Nat)
    (v : Violation) :
    r.contribution xs i t = some v ↔
      ∃ path, name = some path ∧ v = r.violation ⟨line, path, node⟩ ∧ t = i ∧
        r.inScopeAfter (xs.take i) ∧ dotted ∧ path ≠ "" ∧ r.forbidden path := by
  rw [contribution, emission, hi, Option.bind_some]
  cases name with
  | none => simp [suspect?, Record.subject?]
  | some path =>
    have hpath : path ≠ "" ↔ path.isEmpty = false := by simp
    rw [suspect?_call]
    simp only [Option.some.injEq, exists_eq_left', hpath]
    cases r.inScopeAfter (xs.take i) with
    | false => simp [Record.import?]
    | true =>
      cases dotted <;> cases path.isEmpty <;> cases r.forbidden path <;>
        simp [eq_comm, and_comm]

theorem contribution_eq_none (hi : xs[i]? = some x) (hx : x.subject? = none) (t : Nat) :
    r.contribution xs i t = none := by
  simp [contribution, hi, suspect?, hx]

/-- The exact decision of an active rule over a run of any length. Every visit succeeds, and a step
reports what the records give to it, in their order. An import gives one violation at the first
step that has it in scope, a dotted call one violation at its own step if that is in scope, and a
package or a class none. -/
theorem run_decides (hr : r.isActive) (hn : ∀ x ∈ xs, x.isNamed) :
    ∃ outs, r.run xs beginFile = .ok outs ∧
      outs.map (·.violations) = ((List.range xs.length).map fun t =>
          (List.range xs.length).filterMap fun i => r.contribution xs i t) ∧
      (∀ i line name node, xs[i]? = some (.importName line (some name) node) → ∀ t v,
        r.contribution xs i t = some v ↔
          v = r.violation ⟨line, name, node⟩ ∧ r.forbidden name ∧
            (r.inScopeAfter (xs.take i) ∧ t = i ∨
              r.inScopeAfter (xs.take i) = false ∧ r.FirstOpening xs i t)) ∧
      (∀ i line name (dotted : Bool) node, xs[i]? = some (.call line name dotted node) → ∀ t v,
        r.contribution xs i t = some v ↔
          ∃ path, name = some path ∧ v = r.violation ⟨line, path, node⟩ ∧ t = i ∧
            r.inScopeAfter (xs.take i) ∧ dotted ∧ path ≠ "" ∧ r.forbidden path) ∧
      ∀ i x, xs[i]? = some x → x.kind = .package ∨ x.kind = .className → ∀ t,
        r.contribution xs i t = none := by
  refine ⟨r.outcomes xs beginFile, run_eq_outcomes hr hn beginFile, outcomes_violations hr hn,
    fun i line name node hi => contribution_importName hi,
    fun i line name dotted node hi => contribution_call hi, ?_⟩
  intro i x hi hx t
  apply contribution_eq_none hi
  cases x with
  | package => rfl
  | className => rfl
  | importName => simp [Record.kind] at hx
  | call => simp [Record.kind] at hx

theorem run_decides_sample :
    let xs : List Record := [.package 0 (some "app") none, .importName 1 (some "os.path") none,
      .className 2 (some "UserService") none, .className 3 (some "Helper") none,
      .importName 4 (some "os") none, .call 5 (some "os.remove") true none,
      .className 6 (some "MailService") none]
    sample.isActive ∧ (∀ x ∈ xs, x.isNamed) ∧
      ∃ outs, sample.run xs beginFile = .ok outs ∧
        outs.map (·.violations) =
          [[], [], [⟨1, "os(\\..*)?", "os.path", none⟩], [], [], [],
            [⟨4, "os(\\..*)?", "os", none⟩]] := by
  intro xs
  have hn : ∀ x ∈ xs, x.isNamed := by decide +kernel
  obtain ⟨outs, hrun, hall, -⟩ := run_decides sample_isActive hn
  refine ⟨sample_isActive, hn, outs, hrun, ?_⟩
  rw [hall]
  decide +kernel

end Rule

end ImportGuard
