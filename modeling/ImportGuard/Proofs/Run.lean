import ImportGuard.Rule

namespace ImportGuard

namespace Record

/-- A pattern can be asked about the record: only a call may lack its name. -/
def isNamed : Record → Bool
  | package _ name _ | className _ name _ | importName _ name _ => name.isSome
  | call _ _ _ _ => true

def package? : Record → Option String
  | package _ name _ => name
  | _ => none

def class? : Record → Option String
  | className _ name _ => name
  | _ => none

def import? : Record → Option Import
  | importName line (some name) node => some ⟨line, name, node⟩
  | _ => none

theorem casesNamed {motive : (x : Record) → x.isNamed = true → Prop}
    (package : ∀ line name node, motive (.package line (some name) node) rfl)
    (className : ∀ line name node, motive (.className line (some name) node) rfl)
    (importName : ∀ line name node, motive (.importName line (some name) node) rfl)
    (call : ∀ line name dotted node, motive (.call line name dotted node) rfl)
    (x : Record) (hx : x.isNamed = true) : motive x hx := by
  cases x with
  | package line name node => cases name with
    | none => cases hx
    | some name => exact package line name node
  | className line name node => cases name with
    | none => cases hx
    | some name => exact className line name node
  | importName line name node => cases name with
    | none => cases hx
    | some name => exact importName line name node
  | call line name dotted node => exact call line name dotted node

end Record

namespace Rule

/-- What a visit comes to. A refused visit leaves the scope as it is. -/
def outcome (r : Rule) (x : Record) (s : Scope) : Outcome :=
  match r.visit (.record x) s with
  | .ok out => out
  | .error _ => { scope := s }

/-- Visits records one after the other, up to the first that is refused. -/
def run (r : Rule) : List Record → Scope → Except Failure (List Outcome)
  | [], _ => return []
  | x :: xs, s => do
    let out ← r.visit (.record x) s
    let outs ← r.run xs out.scope
    return out :: outs

def outcomes (r : Rule) : List Record → Scope → List Outcome
  | [], _ => []
  | x :: xs, s => r.outcome x s :: r.outcomes xs (r.outcome x s).scope

def scopeAfter (r : Rule) (xs : List Record) (s : Scope) : Scope :=
  xs.foldl (fun s x => (r.outcome x s).scope) s

variable {r : Rule} {s : Scope} {x : Record}

theorem mem_kinds (hr : r.isActive) (k : RecordKind) : r.kinds.contains k = true := by
  rw [kinds, if_pos hr]
  cases k <;> rfl

theorem visit_active (hr : r.isActive) (x : Record) (s : Scope) :
    r.visit (.record x) s = r.apply s x := by
  simp only [visit, mem_kinds hr, ↓reduceIte]

theorem visit_inert (hr : r.isActive = false) (x : Record) (s : Scope) :
    r.visit (.record x) s = .error (.wrongNode x.kind.tag x.quoted) := by
  simp only [visit, kinds, hr]
  rfl

theorem outcome_inert (hr : r.isActive = false) (x : Record) (s : Scope) :
    r.outcome x s = { scope := s } := by
  rw [outcome, visit_inert hr]

theorem outcome_active (hr : r.isActive) (x : Record) (s : Scope) :
    r.outcome x s = match r.apply s x with
      | .ok out => out
      | .error _ => { scope := s } := by
  rw [outcome, visit_active hr]

/-- An active rule refuses no record that has the name it needs. -/
theorem visit_eq_outcome (hr : r.isActive) (hx : x.isNamed) (s : Scope) :
    r.visit (.record x) s = .ok (r.outcome x s) := by
  rw [outcome_active hr, visit_active hr]
  cases x, hx using Record.casesNamed with
  | package => rfl
  | className => rfl
  | importName => rfl
  | call line name dotted node => cases name <;> rfl

theorem outcome_package (hr : r.isActive) (line : Int) (name : String) (node : Option NodeRef)
    (s : Scope) : r.outcome (.package line (some name) node) s = r.visitPackage name s := by
  rw [outcome_active hr]
  rfl

theorem outcome_className (hr : r.isActive) (line : Int) (name : String) (node : Option NodeRef)
    (s : Scope) : r.outcome (.className line (some name) node) s = r.visitClass name s := by
  rw [outcome_active hr]
  rfl

theorem outcome_importName (hr : r.isActive) (line : Int) (name : String)
    (node : Option NodeRef) (s : Scope) :
    r.outcome (.importName line (some name) node) s = r.visitImport ⟨line, name, node⟩ s := by
  rw [outcome_active hr]
  rfl

theorem outcome_call (hr : r.isActive) (line : Int) (name : Option String) (dotted : Bool)
    (node : Option NodeRef) (s : Scope) :
    r.outcome (.call line name dotted node) s =
      name.elim { scope := s } fun name => r.visitCall ⟨line, name, node⟩ dotted s := by
  rw [outcome_active hr]
  cases name <;> rfl

/-- A class that is met in scope brings out all that waits, also when nothing does. -/
theorem visitClass_violations (r : Rule) (name : String) (s : Scope) :
    (r.visitClass name s).violations =
      if s.packageMatches && selects r.patterns.className name then
        s.pending.entries.map r.violation
      else [] := by
  obtain ⟨p, c, ⟨entries⟩⟩ := s
  simp only [visitClass, Scope.inScope, Pending.isEmpty, Pending.flush]
  cases entries with
  | nil => simp
  | cons i entries =>
    by_cases h : (p && selects r.patterns.className name) = true <;>
      simp only [h, List.isEmpty_cons, Bool.not_false, Bool.and_self, Bool.false_and,
        Bool.false_eq_true, ↓reduceIte]

theorem visitClass_scope (r : Rule) (name : String) (s : Scope) :
    (r.visitClass name s).scope =
      { s with
        classMatches := selects r.patterns.className name
        pending := if s.packageMatches && selects r.patterns.className name then {}
          else s.pending } := by
  obtain ⟨p, c, ⟨entries⟩⟩ := s
  simp only [visitClass, Scope.inScope, Pending.isEmpty, Pending.flush]
  cases entries with
  | nil => simp
  | cons i entries =>
    by_cases h : (p && selects r.patterns.className name) = true <;>
      simp only [h, List.isEmpty_cons, Bool.not_false, Bool.and_self, Bool.false_and,
        Bool.false_eq_true, ↓reduceIte]

theorem visitImport_violations (r : Rule) (i : Import) (s : Scope) :
    (r.visitImport i s).violations =
      if r.forbidden i.name && s.inScope then [r.violation i] else [] := by
  rw [visitImport]
  cases r.forbidden i.name <;> cases s.inScope <;> rfl

theorem visitImport_scope (r : Rule) (i : Import) (s : Scope) :
    (r.visitImport i s).scope =
      { s with
        pending := if r.forbidden i.name && !s.inScope then s.pending.defer i
          else s.pending } := by
  rw [visitImport]
  cases r.forbidden i.name <;> cases s.inScope <;> rfl

theorem visitCall_violations (r : Rule) (i : Import) (dotted : Bool) (s : Scope) :
    (r.visitCall i dotted s).violations =
      if s.inScope && dotted && !i.name.isEmpty && r.forbidden i.name then [r.violation i]
      else [] := by
  rw [visitCall]
  split <;> rfl

@[simp] theorem visitCall_scope (r : Rule) (i : Import) (dotted : Bool) (s : Scope) :
    (r.visitCall i dotted s).scope = s := by
  rw [visitCall]
  split <;> rfl

@[simp] theorem length_outcomes (r : Rule) (xs : List Record) (s : Scope) :
    (r.outcomes xs s).length = xs.length := by
  induction xs generalizing s with
  | nil => rfl
  | cons x xs ih => rw [outcomes, List.length_cons, List.length_cons, ih]

@[simp] theorem scopeAfter_nil (r : Rule) (s : Scope) : r.scopeAfter [] s = s := rfl

@[simp] theorem scopeAfter_cons (r : Rule) (x : Record) (xs : List Record) (s : Scope) :
    r.scopeAfter (x :: xs) s = r.scopeAfter xs (r.outcome x s).scope := rfl

theorem scopeAfter_append (r : Rule) (xs ys : List Record) (s : Scope) :
    r.scopeAfter (xs ++ ys) s = r.scopeAfter ys (r.scopeAfter xs s) :=
  List.foldl_append

theorem outcomes_append (r : Rule) (xs ys : List Record) (s : Scope) :
    r.outcomes (xs ++ ys) s = r.outcomes xs s ++ r.outcomes ys (r.scopeAfter xs s) := by
  induction xs generalizing s with
  | nil => rfl
  | cons x xs ih => simp only [List.cons_append, outcomes, ih, scopeAfter_cons]

theorem outcomes_take (r : Rule) (xs : List Record) (s : Scope) (n : Nat) :
    (r.outcomes xs s).take n = r.outcomes (xs.take n) s := by
  induction xs generalizing s n with
  | nil => simp only [outcomes, List.take_nil]
  | cons x xs ih =>
    cases n with
    | zero => rfl
    | succ n => simp only [outcomes, List.take_succ_cons, ih]

theorem run_eq_outcomes {xs : List Record} (hr : r.isActive) (hn : ∀ x ∈ xs, x.isNamed)
    (s : Scope) : r.run xs s = .ok (r.outcomes xs s) := by
  induction xs generalizing s with
  | nil => rfl
  | cons x xs ih =>
    obtain ⟨hx, hxs⟩ := List.forall_mem_cons.1 hn
    rw [run, visit_eq_outcome hr hx]
    change (r.run xs (r.outcome x s).scope >>= fun outs => .ok (r.outcome x s :: outs)) = _
    rw [ih hxs]
    rfl

theorem scopeAfter_inert (hr : r.isActive = false) (xs : List Record) (s : Scope) :
    r.scopeAfter xs s = s := by
  induction xs with
  | nil => rfl
  | cons x xs ih => rw [scopeAfter_cons, outcome_inert hr, ih]

theorem outcomes_inert (hr : r.isActive = false) (xs : List Record) (s : Scope) :
    r.outcomes xs s = List.replicate xs.length { scope := s } := by
  induction xs with
  | nil => rfl
  | cons x xs ih =>
    rw [outcomes, outcome_inert hr, ih]
    rfl

/-- A rule that keeps `os` out of the services of the package `app`. -/
def sample : Rule :=
  (ofOptions ⟨some "app", some ".*Service", some "os(\\..*)?", some ""⟩).toOption.getD ⟨{}⟩

theorem sample_isActive : sample.isActive := by decide +kernel

end Rule

end ImportGuard
