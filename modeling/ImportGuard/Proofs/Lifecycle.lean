import ImportGuard.Services
import Mathlib.Data.List.Basic
import Mathlib.Data.List.Find
import Mathlib.Data.List.Induction

namespace ImportGuard

open Files (Disk Location)

namespace Services

/-- Services with which nothing has been registered yet. -/
def initial (number : Nat) (rules : List RuleOptions) : Services :=
  ⟨number, [(rulesKey, .rules rules), (namingKey, .naming),
    (registryKey, .registry Registry.builtIn)]⟩

/-- What services give under a key as long as nothing is registered under it. -/
def default? (rules : List RuleOptions) (key : String) : Option Service :=
  if key = rulesKey then some (.rules rules)
  else if key = namingKey then some .naming
  else if key = registryKey then some (.registry Registry.builtIn)
  else none

end Services

namespace Session

/-- What a program can do to its files and to the services. The services that something is
registered with are given by their number, as a program may have kept some from earlier. -/
inductive Action
  | changeDirectory (l : Location)
  | write (l : Location) (bytes : ByteArray)
  | remove (l : Location)
  | obtain
  | reset
  | register (number : Nat) (key : String) (service : Service)
  | get (key : String)

namespace Action

def isReset : Action → Bool
  | reset => true
  | _ => false

/-- The action needs the shared services, so that they are made if there are none. -/
def asks : Action → Bool
  | obtain | get _ => true
  | _ => false

/-- The action is about files only. -/
def onFiles : Action → Bool
  | changeDirectory _ | write _ _ | remove _ => true
  | _ => false

/-- What the action registers with the services of the given number. -/
def registers? (number : Nat) : Action → Option (String × Service)
  | register n key service => if n = number then some (key, service) else none
  | _ => none

/-- What the action makes of services that it does not forget. -/
def applyTo (x : Action) (services : Services) : Services :=
  (x.registers? services.number).elim services fun e => services.register e.1 e.2

end Action

def step (s : Session) : Action → Session
  | .changeDirectory l => s.changeDirectory l
  | .write l bytes => { s with disk := s.disk.write l bytes }
  | .remove l => { s with disk := s.disk.remove l }
  | .obtain => s.obtain.session
  | .reset => s.reset
  | .register number key service => s.registerWith number key service
  | .get key => (s.get key).session

def after (s : Session) (xs : List Action) : Session := xs.foldl step s

/-- The rules that the files configure, if they can be read. -/
def configured? (s : Session) : Option (List RuleOptions) :=
  (Project.load s.disk (some s.cwd)).toOption.bind fun t => (Config.load t).result.toOption

/-- `i` is the first step since the last reset that asks for the services and finds a configuration
that can be read. -/
structure MadeAt (s : Session) (xs : List Action) (i : Nat) : Prop where
  kept : ∀ x ∈ xs.drop i, x.isReset = false
  asked : xs[i]?.any Action.asks
  readable : (s.after (xs.take i)).configured?.isSome
  first : ∀ j < i, (∀ x ∈ xs.drop j, x.isReset = false) → xs[j]?.any Action.asks →
    (s.after (xs.take j)).configured? = none

/-- Step `i` comes after the last reset, asks for the services, and finds a configuration. -/
def canMake (s : Session) (xs : List Action) (i : Nat) : Bool :=
  (xs.drop i).all (!·.isReset) && xs[i]?.any Action.asks &&
    (s.after (xs.take i)).configured?.isSome

def madeAt? (s : Session) (xs : List Action) : Option Nat :=
  (List.range xs.length).find? (s.canMake xs)

/-- What has been registered with the services made at step `i`. -/
def registrations (s : Session) (xs : List Action) (i : Nat) : List (String × Service) :=
  (xs.drop i).filterMap (Action.registers? (s.after (xs.take i)).made)

/-- The services made at step `i`, with what has been registered since. -/
def servicesOf (s : Session) (xs : List Action) (i : Nat) : Option Services :=
  (s.after (xs.take i)).configured?.map fun rules =>
    let services := Services.initial (s.after (xs.take i)).made rules
    { services with entries := (s.registrations xs i).reverse ++ services.entries }

variable {s : Session} {xs : List Action} {x : Action} {i : Nat}

@[simp] theorem after_nil (s : Session) : s.after [] = s := rfl

@[simp] theorem after_cons (s : Session) (x : Action) (xs : List Action) :
    s.after (x :: xs) = (s.step x).after xs := rfl

theorem after_append (s : Session) (xs ys : List Action) :
    s.after (xs ++ ys) = (s.after xs).after ys :=
  List.foldl_append

theorem madeAt?_lt (h : s.madeAt? xs = some i) : i < xs.length :=
  List.mem_range.1 (List.find?_range_eq_some.1 h).2.1

theorem madeAt?_eq_some_iff (s : Session) (xs : List Action) (i : Nat) :
    s.madeAt? xs = some i ↔ s.MadeAt xs i := by
  have hcan (j : Nat) : s.canMake xs j = true ↔ (∀ x ∈ xs.drop j, x.isReset = false) ∧
      xs[j]?.any Action.asks ∧ (s.after (xs.take j)).configured?.isSome := by
    simp only [canMake, Bool.and_eq_true, List.all_eq_true, Bool.not_eq_true', and_assoc]
  rw [madeAt?, List.find?_range_eq_some, hcan]
  constructor
  · rintro ⟨⟨hkept, hasked, hreadable⟩, -, hfirst⟩
    refine ⟨hkept, hasked, hreadable, ?_⟩
    intro j hj hkept hasked
    have hnot : ¬ s.canMake xs j = true := by simpa using hfirst j hj
    rw [hcan] at hnot
    by_contra hne
    exact hnot ⟨hkept, hasked, Option.isSome_iff_ne_none.2 hne⟩
  · rintro ⟨hkept, hasked, hreadable, hfirst⟩
    refine ⟨⟨hkept, hasked, hreadable⟩, ?_, ?_⟩
    · apply List.mem_range.2
      by_contra hi
      rw [List.getElem?_eq_none (Nat.le_of_not_lt hi)] at hasked
      cases hasked
    · intro j hj
      simp only [Bool.not_eq_true']
      rw [Bool.eq_false_iff, ne_eq, hcan]
      rintro ⟨hkept, hasked, hreadable⟩
      rw [hfirst j hj hkept hasked] at hreadable
      cases hreadable

theorem canMake_snoc (x : Action) (hi : i < xs.length) :
    s.canMake (xs ++ [x]) i = (!x.isReset && s.canMake xs i) := by
  rw [canMake, canMake, List.drop_append_of_le_length hi.le, List.getElem?_append_left hi,
    List.take_append_of_le_length hi.le, List.all_append]
  simp only [List.all_cons, List.all_nil, Bool.and_true]
  cases x.isReset <;> simp

theorem canMake_last (s : Session) (xs : List Action) (x : Action) :
    s.canMake (xs ++ [x]) xs.length =
      (!x.isReset && (x.asks && (s.after xs).configured?.isSome)) := by
  rw [canMake, List.drop_left, List.getElem?_concat_length, List.take_left]
  simp only [List.all_cons, List.all_nil, Bool.and_true, Option.any_some, Bool.and_assoc]

/-- A reset forgets the services; any other action keeps them, and makes them if it asks for them
while there are none. -/
theorem madeAt?_snoc (s : Session) (xs : List Action) (x : Action) :
    s.madeAt? (xs ++ [x]) =
      if x.isReset then none
      else (s.madeAt? xs).or
        (if x.asks && (s.after xs).configured?.isSome then some xs.length else none) := by
  have hearlier : (List.range xs.length).find? (s.canMake (xs ++ [x])) =
      (List.range xs.length).find? fun i => !x.isReset && s.canMake xs i := by
    apply List.find?_congr
    intro i hi
    exact canMake_snoc x (List.mem_range.1 hi)
  rw [madeAt?, List.length_append, List.length_singleton, List.range_succ, List.find?_append,
    hearlier, List.find?_singleton, canMake_last]
  cases x.isReset with
  | true => simp
  | false => rfl

theorem registrations_snoc (x : Action) (hi : i ≤ xs.length) :
    s.registrations (xs ++ [x]) i =
      s.registrations xs i ++ (x.registers? (s.after (xs.take i)).made).toList := by
  rw [registrations, registrations, List.take_append_of_le_length hi,
    List.drop_append_of_le_length hi, List.filterMap_append, List.filterMap_cons]
  cases x.registers? (s.after (xs.take i)).made <;> rfl

theorem servicesOf_snoc (x : Action) (hi : i ≤ xs.length) :
    s.servicesOf (xs ++ [x]) i = (s.servicesOf xs i).map x.applyTo := by
  rw [servicesOf, servicesOf, registrations_snoc x hi, List.take_append_of_le_length hi,
    Option.map_map]
  congr 1
  funext rules
  simp only [Function.comp_apply, Action.applyTo, Services.initial]
  cases x.registers? (s.after (xs.take i)).made with
  | none => simp
  | some e => simp [Services.register]

theorem servicesOf_last (hx : x.asks) (s : Session) (xs : List Action) :
    s.servicesOf (xs ++ [x]) xs.length =
      (s.after xs).configured?.map (Services.initial (s.after xs).made) := by
  have hregisters (number : Nat) : x.registers? number = none := by
    cases x with
    | obtain | get => rfl
    | changeDirectory | write | remove | reset | register => cases hx
  rw [servicesOf, registrations, List.take_left, List.drop_left, List.filterMap_cons, hregisters]
  rfl

theorem create_result (s : Session) :
    (Services.create s.made s.disk s.cwd).result.toOption =
      s.configured?.map (Services.initial s.made) := by
  rw [configured?, Services.create]
  cases Project.load s.disk (some s.cwd) with
  | error f => rfl
  | ok t =>
    change ((Services.loadRules t).result.map _).toOption = (Config.load t).result.toOption.map _
    rw [Services.loadRules]
    cases (Config.load t).result <;> rfl

theorem obtain_none (h : s.shared = none) :
    s.obtain.result = (Services.create s.made s.disk s.cwd).result ∧
      s.obtain.session.shared = (Services.create s.made s.disk s.cwd).result.toOption := by
  simp only [obtain, h]
  cases (Services.create s.made s.disk s.cwd).result with
  | error f => exact ⟨rfl, h⟩
  | ok services => exact ⟨rfl, rfl⟩

theorem obtain_some {services : Services} (h : s.shared = some services) :
    s.obtain = ⟨s, [], .ok services⟩ := by
  simp only [obtain, h]

theorem obtain_shared (s : Session) :
    s.obtain.session.shared = s.shared.or (s.configured?.map (Services.initial s.made)) := by
  cases h : s.shared with
  | none => rw [(obtain_none h).2, create_result, Option.none_or]
  | some services => rw [obtain_some h, h, Option.some_or]

theorem get_session (s : Session) (key : String) : (s.get key).session = s.obtain.session := by
  rw [get, Reply.andThen]
  cases s.obtain.result <;> rfl

theorem step_shared (s : Session) (x : Action) :
    (s.step x).shared =
      if x.isReset then none
      else (s.shared.map x.applyTo).or
        (if x.asks then s.configured?.map (Services.initial s.made) else none) := by
  have hsame : s.shared = (s.shared.map id).or none := by
    rw [Option.map_id_apply, Option.or_none]
  cases x with
  | changeDirectory | write | remove => exact hsame
  | reset => rfl
  | obtain =>
    rw [step, obtain_shared]
    exact congrArg (Option.or · _) (Option.map_id_apply).symm
  | get key =>
    rw [step, get_session, obtain_shared]
    exact congrArg (Option.or · _) (Option.map_id_apply).symm
  | register number key service =>
    have hstep : (s.step (.register number key service)).shared =
        s.shared.map (Action.register number key service).applyTo := by
      change s.shared.map _ = s.shared.map _
      congr 1
      funext services
      rw [Action.applyTo, Action.registers?]
      by_cases hnumber : services.number = number
      · rw [if_pos hnumber, if_pos hnumber.symm, Option.elim_some]
      · rw [if_neg hnumber, if_neg (Ne.symm hnumber), Option.elim_none]
    rw [hstep]
    exact (Option.or_none).symm

/-- The services that are shared after some actions are the ones that the actions tell. -/
theorem after_shared (hs : s.shared = none) (xs : List Action) :
    (s.after xs).shared = (s.madeAt? xs).bind (s.servicesOf xs) := by
  induction xs using List.reverseRecOn with
  | nil => exact hs
  | append_singleton xs x ih =>
    rw [after_append, after_cons, after_nil, step_shared, ih, madeAt?_snoc]
    cases x.isReset with
    | true => rfl
    | false =>
      rw [if_neg Bool.false_ne_true, if_neg Bool.false_ne_true]
      cases hmade : s.madeAt? xs with
      | some i =>
        have hi := Nat.le_of_lt (madeAt?_lt hmade)
        obtain ⟨rules, hrules⟩ :=
          Option.isSome_iff_exists.1 ((madeAt?_eq_some_iff s xs i).1 hmade).readable
        rw [Option.some_or, Option.bind_some, Option.bind_some, servicesOf_snoc x hi, servicesOf,
          hrules]
        rfl
      | none =>
        cases hx : x.asks with
        | false => rfl
        | true =>
          cases hconfigured : (s.after xs).configured? with
          | none => rfl
          | some rules =>
            rw [Option.none_or, Option.isSome_some, Bool.and_true, if_pos rfl, if_pos rfl,
              Option.bind_some, servicesOf_last hx, hconfigured]
            rfl

theorem lookup_cons_ite (key k : String) (service : Service) (es : List (String × Service)) :
    ((k, service) :: es).lookup key = if key = k then some service else es.lookup key := by
  by_cases hk : key = k
  · rw [if_pos hk, hk, List.lookup_cons_self]
  · have hne : (key == k) = false := beq_false_of_ne hk
    rw [if_neg hk, List.lookup_cons, hne]

/-- The last registered service counts, and else the default. -/
theorem lookup_registered (number : Nat) (rules : List RuleOptions)
    (registered : List (String × Service)) (key : String) :
    (registered.reverse ++ (Services.initial number rules).entries).lookup key =
      ((registered.filter (·.1 == key)).getLast?.map Prod.snd).or
        (Services.default? rules key) := by
  induction registered using List.reverseRecOn with
  | nil =>
    change (Services.initial number rules).entries.lookup key = Services.default? rules key
    rw [Services.initial, lookup_cons_ite, lookup_cons_ite, lookup_cons_ite, List.lookup_nil,
      Services.default?]
  | append_singleton registered e ih =>
    obtain ⟨k, service⟩ := e
    rw [List.reverse_concat, List.cons_append, lookup_cons_ite, ih, List.filter_append]
    by_cases hk : key = k
    · simp [hk]
    · simp [hk, Ne.symm hk]

theorem get_result (s : Session) (key : String) :
    (s.get key).result = s.obtain.result.map fun services => (services, services.get? key) := by
  rw [get, Reply.andThen]
  cases s.obtain.result <;> rfl

theorem obtain_toOption (s : Session) : s.obtain.result.toOption = s.obtain.session.shared := by
  cases hs : s.shared with
  | none => rw [(obtain_none hs).1, (obtain_none hs).2]
  | some services =>
    rw [obtain_some hs]
    exact hs.symm

theorem get_shared (hs : s.shared = none) (xs : List Action) (key : String) :
    ((s.after xs).get key).result.toOption =
      ((s.madeAt? (xs ++ [.get key])).bind (s.servicesOf (xs ++ [.get key]))).map fun services =>
        (services, services.get? key) := by
  have hshared : (s.after xs).obtain.session.shared =
      (s.madeAt? (xs ++ [.get key])).bind (s.servicesOf (xs ++ [.get key])) := by
    rw [← after_shared hs, after_append, after_cons, after_nil, step, get_session]
  rw [get_result, ← hshared, ← obtain_toOption]
  cases (s.after xs).obtain.result <;> rfl

theorem toOption_eq_some {α : Type} {x : Except Failure α} {a : α} (h : x.toOption = some a) :
    x = .ok a := by
  cases x with
  | error f => cases h
  | ok b => exact congrArg Except.ok (Option.some.inj h)

theorem get_of_madeAt (hs : s.shared = none) {key : String}
    (hi : s.MadeAt (xs ++ [.get key]) i) :
    ∃ services rules, (s.after (xs.take i)).configured? = some rules ∧
      services.number = (s.after (xs.take i)).made ∧
      ((s.after xs).get key).result = .ok (services,
        (((s.registrations xs i).filter (·.1 == key)).getLast?.map Prod.snd).or
          (Services.default? rules key)) := by
  have hmade := (madeAt?_eq_some_iff s _ i).2 hi
  have hle : i ≤ xs.length := by
    have hlt := madeAt?_lt hmade
    rw [List.length_append, List.length_singleton] at hlt
    exact Nat.le_of_lt_succ hlt
  obtain ⟨rules, hrules⟩ := Option.isSome_iff_exists.1 hi.readable
  rw [List.take_append_of_le_length hle] at hrules
  have hget := get_shared hs xs key
  rw [hmade, Option.bind_some, servicesOf_snoc _ hle, servicesOf, hrules] at hget
  let number := (s.after (xs.take i)).made
  let entries := (s.registrations xs i).reverse ++ (Services.initial number rules).entries
  refine ⟨⟨number, entries⟩, rules, hrules, rfl, ?_⟩
  rw [← lookup_registered number]
  exact toOption_eq_some hget

theorem get_of_never_made (hs : s.shared = none) {key : String}
    (hnone : ∀ i, ¬ s.MadeAt (xs ++ [.get key]) i) :
    ∃ f, ((s.after xs).get key).result = .error f := by
  have hmade : s.madeAt? (xs ++ [.get key]) = none := by
    by_contra hne
    obtain ⟨i, hi⟩ := Option.ne_none_iff_exists'.1 hne
    exact hnone i ((madeAt?_eq_some_iff s _ i).1 hi)
  have hget := get_shared hs xs key
  rw [hmade] at hget
  cases hresult : ((s.after xs).get key).result with
  | error f => exact ⟨f, rfl⟩
  | ok answer =>
    rw [hresult] at hget
    cases hget

theorem create_eq_error_iff (number : Nat) (d : Disk) (cwd : Location) (f : Failure) :
    (Services.create number d cwd).result = .error f ↔
      Project.load d (some cwd) = .error f ∨
        ∃ t e, Project.load d (some cwd) = .ok t ∧ (Config.load t).result = .error e ∧
          f = .config e := by
  rw [Services.create]
  cases Project.load d (some cwd) with
  | error g =>
    simp
  | ok t =>
    cases hload : (Config.load t).result with
    | error e =>
      simp [Services.loadRules, hload, Except.map, Except.mapError, eq_comm]
    | ok rules => simp [Services.loadRules, hload, Except.map, Except.mapError]

theorem obtain_error {f : Failure} (h : s.obtain.result = .error f) :
    s.shared = none ∧ s.obtain.session = s := by
  cases hs : s.shared with
  | some services =>
    rw [obtain_some hs] at h
    cases h
  | none =>
    have hcreate : (Services.create s.made s.disk s.cwd).result = .error f :=
      (obtain_none hs).1.symm.trans h
    refine ⟨rfl, ?_⟩
    simp only [obtain, hs, hcreate]

theorem after_onFiles {ys : List Action} (hys : ∀ y ∈ ys, y.onFiles) :
    (s.after ys).shared = s.shared ∧ (s.after ys).made = s.made := by
  induction ys generalizing s with
  | nil => exact ⟨rfl, rfl⟩
  | cons y ys ih =>
    obtain ⟨hy, hys⟩ := List.forall_mem_cons.1 hys
    have hstep : (s.step y).shared = s.shared ∧ (s.step y).made = s.made := by
      cases y with
      | changeDirectory | write | remove => exact ⟨rfl, rfl⟩
      | obtain | reset | register | get => cases hy
    obtain ⟨hshared, hmade⟩ := ih (s := s.step y) hys
    exact ⟨hshared.trans hstep.1, hmade.trans hstep.2⟩

theorem create_get? (number : Nat) (d : Disk) (cwd : Location) (key : String) :
    ((Services.create number d cwd).result.map (·.get? key)) =
      (Services.create 0 d cwd).result.map (·.get? key) := by
  rw [Services.create, Services.create]
  cases Project.load d (some cwd) with
  | error f => rfl
  | ok t =>
    change ((Services.loadRules t).result.map _).map _ = ((Services.loadRules t).result.map _).map _
    cases (Services.loadRules t).result <;> rfl

theorem get_map_snd (h : s.shared = none) (key : String) :
    (s.get key).result.map Prod.snd =
      (Services.create 0 s.disk s.cwd).result.map (·.get? key) := by
  rw [get_result, (obtain_none h).1, ← create_get? s.made]
  cases (Services.create s.made s.disk s.cwd).result <;> rfl

/-- What a program gets under a key is told by what it has done. The services were made at the first
step since the last reset that asked for them and found a configuration; they give what was
registered with them last, or else their default, for the rules those of the files as they were at
that step. If there was no such step, there are no services, and each new attempt reads the files as
they are then. A reset leaves nothing of what was registered before. -/
theorem get_reflects_history (d : Disk) (cwd : Location) (xs : List Action) (key : String) :
    let s : Session := { disk := d, cwd }
    let here := s.after xs
    (∀ i, s.MadeAt (xs ++ [.get key]) i → ∃ services rules,
      (s.after (xs.take i)).configured? = some rules ∧
      services.number = (s.after (xs.take i)).made ∧
      (here.get key).result = .ok (services,
        (((s.registrations xs i).filter (·.1 == key)).getLast?.map Prod.snd).or
          (Services.default? rules key))) ∧
    ((∀ i, ¬ s.MadeAt (xs ++ [.get key]) i) → ∃ f, (here.get key).result = .error f) ∧
    (∀ f, here.obtain.result = .error f ↔ here.shared = none ∧
      (Project.load here.disk (some here.cwd) = .error f ∨
        ∃ t e, Project.load here.disk (some here.cwd) = .ok t ∧
          (Config.load t).result = .error e ∧ f = .config e)) ∧
    (∀ f, here.obtain.result = .error f → here.obtain.session = here ∧
      ∀ ys, (∀ y ∈ ys, y.onFiles) → (here.after ys).obtain.result =
        (Services.create here.made (here.after ys).disk (here.after ys).cwd).result) ∧
    (here.reset.get key).result.map Prod.snd =
      (({ disk := here.disk, cwd := here.cwd } : Session).get key).result.map Prod.snd := by
  intro s here
  refine ⟨fun i hi => get_of_madeAt rfl hi, get_of_never_made rfl, ?_, ?_, ?_⟩
  · intro f
    constructor
    · intro h
      have hnone := (obtain_error h).1
      rw [(obtain_none hnone).1, create_eq_error_iff] at h
      exact ⟨hnone, h⟩
    · rintro ⟨hnone, h⟩
      rw [(obtain_none hnone).1, create_eq_error_iff]
      exact h
  · intro f h
    obtain ⟨hnone, hsession⟩ := obtain_error h
    refine ⟨hsession, ?_⟩
    intro ys hys
    obtain ⟨hkept, hmade⟩ := after_onFiles (s := here) hys
    rw [(obtain_none (hkept.trans hnone)).1, hmade]
  · rw [get_map_snd rfl, get_map_snd rfl]
    rfl

theorem get_reflects_history_sample :
    let file : Location := [Project.fileName]
    let s : Session := { disk := { entries := [(file, .file "=".toUTF8)] } }
    let text := "[tool.forbid-imports]\nforbidden_imports_regexp = \"os\"\n"
    let xs : List Action := [.obtain, .write file text.toUTF8, .obtain, .remove file,
      .register 0 "audit" (.plain (.bool true)), .register 7 Services.rulesKey (.plain .null)]
    s.MadeAt (xs ++ [.get Services.rulesKey]) 2 ∧
      ∃ services, ((s.after xs).get Services.rulesKey).result =
        .ok (services, some (.rules [{ forbid := some "os" }])) := by
  intro file s text xs
  have hmade : s.MadeAt (xs ++ [.get Services.rulesKey]) 2 := by
    rw [← madeAt?_eq_some_iff]
    decide +kernel
  have hnone : (s.registrations xs 2).filter (·.1 == Services.rulesKey) = [] := by
    rw [← List.length_eq_zero_iff]
    decide +kernel
  have hread : (s.after (xs.take 2)).configured? = some [{ forbid := some "os" }] := by
    decide +kernel
  obtain ⟨services, rules, hrules, -, hget⟩ :=
    (get_reflects_history s.disk s.cwd xs Services.rulesKey).1 2 hmade
  rw [hnone] at hget
  cases hread.symm.trans hrules
  exact ⟨hmade, services, hget⟩

end Session

end ImportGuard
