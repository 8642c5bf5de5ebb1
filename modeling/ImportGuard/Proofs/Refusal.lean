import ImportGuard.Proofs.Run

namespace ImportGuard

namespace Visited

def isRecord : Visited → Bool
  | record _ => true
  | other _ => false

/-- A package, a class or an import without its name. -/
def lacksName : Visited → Bool
  | record x => !x.isNamed
  | other _ => false

end Visited

/-- A file at some point of a visit: the scope, and all that has been logged so far. -/
structure Progress where
  scope : Scope
  events : List Event := []
  deriving DecidableEq, Repr

/-- A program on the file. A failure keeps the progress made up to it. -/
abbrev Program := EStateM Failure Progress

namespace Program

/-- The name, when a pattern has to be asked about it. -/
def given : Option String → Program String
  | some name => return name
  | none => throw .missingName

def log (event : Event) : Program Unit :=
  modify fun p => { p with events := p.events ++ [event] }

def scope : Program Scope := return (← get).scope

def setPackage (matched : Bool) : Program Unit :=
  modify fun p => { p with scope := { p.scope with packageMatches := matched } }

def setClass (matched : Bool) : Program Unit :=
  modify fun p => { p with scope := { p.scope with classMatches := matched } }

def defer (i : Import) : Program Unit := do
  log i.deferring
  modify fun p => { p with scope := { p.scope with pending := p.scope.pending.defer i } }

def flush : Program (List Import) :=
  modifyGet fun p =>
    let (imports, rest) := p.scope.pending.flush
    (imports, { p with scope := { p.scope with pending := rest } })

section

variable (p : Progress)

@[simp] theorem run_ite {α : Type} (c : Prop) [Decidable c] (f g : Program α) :
    (if c then f else g).run p = if c then f.run p else g.run p :=
  apply_ite (EStateM.run · p) c f g

@[simp] theorem run_map {α β : Type} (f : α → β) (g : Program α) :
    (f <$> g).run p = match g.run p with
      | .ok a q => .ok (f a) q
      | .error e q => .error e q := by
  rw [← bind_pure_comp, EStateM.run_bind]
  cases g.run p <;> rfl

@[simp] theorem run_given_some (name : String) : (given (some name)).run p = .ok name p := rfl

@[simp] theorem run_given_none : (given none).run p = .error .missingName p := rfl

@[simp] theorem run_log (event : Event) :
    (log event).run p = .ok () { p with events := p.events ++ [event] } := rfl

@[simp] theorem run_scope : scope.run p = .ok p.scope p := rfl

@[simp] theorem run_setPackage (matched : Bool) :
    (setPackage matched).run p =
      .ok () { p with scope := { p.scope with packageMatches := matched } } := rfl

@[simp] theorem run_setClass (matched : Bool) :
    (setClass matched).run p =
      .ok () { p with scope := { p.scope with classMatches := matched } } := rfl

@[simp] theorem run_defer (i : Import) :
    (defer i).run p = .ok ()
      ⟨{ p.scope with pending := p.scope.pending.defer i }, p.events ++ [i.deferring]⟩ := rfl

@[simp] theorem run_flush :
    flush.run p = .ok p.scope.pending.entries
      { p with scope := { p.scope with pending := {} } } := rfl

end

end Program

namespace Rule

open Program

def stepPackage (r : Rule) (name : Option String) : Program (List Violation) := do
  if r.patterns.package.isSome then
    setPackage (selects r.patterns.package (← given name))
  return []

def stepClass (r : Rule) (name : Option String) : Program (List Violation) := do
  if r.patterns.className.isNone then return []
  let name ← given name
  setClass (selects r.patterns.className name)
  let s ← scope
  if !(s.inScope && !s.pending.isEmpty) then return []
  let imports ← flush
  log (.reporting name imports.length)
  return imports.map r.violation

def stepImport (r : Rule) (line : Int) (name : Option String) (node : Option NodeRef) :
    Program (List Violation) := do
  if r.patterns.forbid.isNone || r.patterns.exclude.isNone then return []
  let name ← given name
  if !r.forbidden name then return []
  if (← scope).inScope then return [r.violation ⟨line, name, node⟩]
  defer ⟨line, name, node⟩
  return []

def stepCall (r : Rule) (line : Int) (name : Option String) (dotted : Bool)
    (node : Option NodeRef) : Program (List Violation) := do
  let name := name.getD ""
  if !((← scope).inScope && dotted && !name.isEmpty) then return []
  if r.forbidden name then return [r.violation ⟨line, name, node⟩]
  return []

/-- The handler of each kind of record. -/
def handle (r : Rule) : Record → Program (List Violation)
  | .package _ name _ => r.stepPackage name
  | .className _ name _ => r.stepClass name
  | .importName line name node => r.stepImport line name node
  | .call line name dotted node => r.stepCall line name dotted node

/-- A visit as a program. -/
def perform (r : Rule) (v : Visited) : Program (List Violation) :=
  match v with
  | .record x =>
    if r.kinds.contains x.kind then r.handle x else throw (.wrongNode v.kindTag v.quoted)
  | .other _ => throw (.wrongNode v.kindTag v.quoted)

variable {r : Rule} {v : Visited}

/-- What a visit comes to from some progress on: an outcome adds to it, and a refusal leaves it as
it is. -/
def after (p : Progress) :
    Except Failure Outcome → EStateM.Result Failure Progress (List Violation)
  | .ok out => .ok out.violations ⟨out.scope, p.events ++ out.events⟩
  | .error e => .error e p

theorem after_quiet (p : Progress) (violations : List Violation) (s : Scope) :
    after p (.ok { violations, scope := s }) = .ok violations { p with scope := s } := by
  rw [after, List.append_nil]

theorem stepPackage_eq (hr : r.patterns.package.isSome) (name : Option String) (p : Progress) :
    (r.stepPackage name).run p = after p (name.elim (.error .missingName) fun name =>
      .ok (r.visitPackage name p.scope)) := by
  cases name with
  | none => simp [stepPackage, hr, after]
  | some name => simp [stepPackage, hr, after, visitPackage]

theorem stepClass_eq (hr : r.patterns.className.isSome) (name : Option String) (p : Progress) :
    (r.stepClass name).run p = after p (name.elim (.error .missingName) fun name =>
      .ok (r.visitClass name p.scope)) := by
  have hset : r.patterns.className.isNone = false := by simpa using hr
  cases name with
  | none => simp [stepClass, hset, after]
  | some name =>
    simp only [Option.elim_some, visitClass]
    split
    · rename_i h
      simp only [stepClass, hset, EStateM.run_bind, EStateM.run_pure, run_given_some, run_setClass,
        run_scope, h, Bool.not_true, Bool.false_eq_true, ↓reduceIte, run_flush, run_log]
      rfl
    · rename_i h
      simp only [stepClass, hset, EStateM.run_bind, EStateM.run_pure, run_given_some, run_setClass,
        run_scope, h, Bool.not_false, Bool.false_eq_true, ↓reduceIte, after_quiet]

theorem stepImport_eq (hf : r.patterns.forbid.isSome) (he : r.patterns.exclude.isSome) (line : Int)
    (name : Option String) (node : Option NodeRef) (p : Progress) :
    (r.stepImport line name node).run p = after p (name.elim (.error .missingName) fun name =>
      .ok (r.visitImport ⟨line, name, node⟩ p.scope)) := by
  have hset : (r.patterns.forbid.isNone || r.patterns.exclude.isNone) = false := by simp [hf, he]
  cases name with
  | none => simp [stepImport, hset, after]
  | some name =>
    simp only [Option.elim_some, visitImport]
    cases hf : r.forbidden name <;> cases hs : p.scope.inScope <;>
      simp [stepImport, hset, after, hf, hs]

theorem stepCall_eq (r : Rule) (line : Int) (name : Option String) (dotted : Bool)
    (node : Option NodeRef) (p : Progress) :
    (r.stepCall line name dotted node).run p = after p (.ok (name.elim { scope := p.scope }
      fun name => r.visitCall ⟨line, name, node⟩ dotted p.scope)) := by
  cases name with
  | none => simp [stepCall, after]
  | some name =>
    simp only [Option.elim_some, visitCall]
    cases hs : p.scope.inScope <;> cases dotted <;> cases hn : name.isEmpty <;>
      cases hf : r.forbidden name <;> simp [stepCall, after, hs, hn, hf]

theorem handle_eq (hr : r.isActive) (x : Record) (p : Progress) :
    (r.handle x).run p = after p (r.apply p.scope x) := by
  simp only [isActive, PatternSet.isComplete, Bool.and_eq_true] at hr
  obtain ⟨⟨⟨hpackage, hclass⟩, hforbid⟩, hexclude⟩ := hr
  cases x with
  | package line name node =>
    rw [handle, stepPackage_eq hpackage]
    cases name <;> rfl
  | className line name node =>
    rw [handle, stepClass_eq hclass]
    cases name <;> rfl
  | importName line name node =>
    rw [handle, stepImport_eq hforbid hexclude]
    cases name <;> rfl
  | call line name dotted node =>
    rw [handle, stepCall_eq]
    cases name <;> rfl

/-- The program of a visit does what the visit says. A refusal comes before the first change. -/
theorem perform_eq (r : Rule) (v : Visited) (p : Progress) :
    (r.perform v).run p = after p (r.visit v p.scope) := by
  cases v with
  | other v => rfl
  | record x =>
    cases hr : r.isActive with
    | true =>
      -- The handler asks for the name before it changes anything.
      simp only [perform, visit, mem_kinds hr, ↓reduceIte]
      exact handle_eq hr x p
    | false =>
      have hk : r.kinds.contains x.kind = false := by simp [kinds, hr]
      simp only [perform, visit, hk]
      rfl

/-- The rule acts, and the thing is a record with the name it needs. -/
def accepts (r : Rule) (v : Visited) : Bool := v.isRecord && r.isActive && !v.lacksName

theorem visit_unnamed (hr : r.isActive) {x : Record} (hx : x.isNamed = false) (s : Scope) :
    r.visit (.record x) s = .error .missingName := by
  rw [visit_active hr]
  cases x with
  | package line name node | className line name node | importName line name node =>
    cases name with
    | none => rfl
    | some name => cases hx
  | call => cases hx

/-- The answer to a visit hangs on the rule and the thing alone, and not on the scope. -/
theorem visit_cases (r : Rule) (v : Visited) (s : Scope) :
    (v.isRecord = false ∨ r.isActive = false) ∧
        r.visit v s = .error (.wrongNode v.kindTag v.quoted) ∨
      (r.isActive ∧ v.lacksName) ∧ r.visit v s = .error .missingName ∨
      r.accepts v ∧ ∃ out, r.visit v s = .ok out := by
  cases v with
  | other v => exact .inl ⟨.inl rfl, rfl⟩
  | record x =>
    cases hr : r.isActive with
    | false => exact .inl ⟨.inr rfl, visit_inert hr x s⟩
    | true =>
      cases hx : x.isNamed with
      | false =>
        have hlacks : (Visited.record x).lacksName = true := by simp [Visited.lacksName, hx]
        exact .inr (.inl ⟨⟨rfl, hlacks⟩, visit_unnamed hr hx s⟩)
      | true =>
        have haccepts : r.accepts (.record x) = true := by
          simp [accepts, Visited.isRecord, Visited.lacksName, hr, hx]
        exact .inr (.inr ⟨haccepts, _, visit_eq_outcome hr hx s⟩)

theorem visit_ok_iff (r : Rule) (v : Visited) (s : Scope) :
    (∃ out, r.visit v s = .ok out) ↔ r.accepts v := by
  rcases r.visit_cases v s with ⟨hrefused, h⟩ | ⟨⟨hr, hv⟩, h⟩ | ⟨haccepts, out, h⟩
  · rcases hrefused with hrefused | hrefused <;> simp [h, accepts, hrefused]
  · simp [h, accepts, hv]
  · exact ⟨fun _ => haccepts, fun _ => ⟨out, h⟩⟩

/-- The answer to a visit that is performed from some progress on. -/
def answer (r : Rule) (v : Visited) (p : Progress) : Except Failure (List Violation) :=
  match (r.perform v).run p with
  | .ok violations _ => .ok violations
  | .error e _ => .error e

/-- The progress after a visit, refused or not. -/
def next (r : Rule) (v : Visited) (p : Progress) : Progress :=
  match (r.perform v).run p with
  | .ok _ q => q
  | .error _ q => q

def answers (r : Rule) : List Visited → Progress → List (Except Failure (List Violation))
  | [], _ => []
  | v :: vs, p => r.answer v p :: r.answers vs (r.next v p)

theorem refused (h : r.accepts v = false) (p : Progress) :
    (r.answer v p).isOk = false ∧ r.next v p = p := by
  cases hv : r.visit v p.scope with
  | error e => simp [answer, next, perform_eq, hv, after, Except.isOk, Except.toBool]
  | ok out =>
    have haccepts := (r.visit_ok_iff v p.scope).1 ⟨out, hv⟩
    rw [h] at haccepts
    cases haccepts

end Rule

end ImportGuard
