import ImportGuard.Config
import ImportGuard.Guidance
import ImportGuard.Naming
import ImportGuard.Project

namespace ImportGuard

open Files (Disk Location)

/-- What can be shared: the configured rules, the names of modules, a registry, or any value. -/
inductive Service
  | rules (rules : List RuleOptions)
  | naming
  | registry (registry : Table)
  | plain (v : Value)

/-- Services under their keys; of several under one key the last registered counts. -/
structure Services where
  /-- Which of all services made so far these are. -/
  number : Nat
  entries : List (String × Service)

namespace Services

def rulesKey : String := "ConfigurationLoader"

def namingKey : String := "AstroidGateway"

def registryKey : String := "GuidanceService"

def get? (s : Services) (key : String) : Option Service := s.entries.lookup key

def register (s : Services) (key : String) (service : Service) : Services :=
  { s with entries := (key, service) :: s.entries }

/-- Reads the rules from a configuration table. -/
def loadRules (t : Table) : Logged Failure Service :=
  let loaded := Config.load t
  { events := loaded.events, result := (loaded.result.mapError Failure.config).map Service.rules }

/-- The services of a program that starts in a directory. The registry among them is the one that is
built in: an installation that has lost it, or has a malformed one, is left out. -/
def create (number : Nat) (d : Disk) (cwd : Location) : Logged Failure Services :=
  match Project.load d (some cwd) with
  | .error f => { result := .error f }
  | .ok t =>
    let rules := loadRules t
    { events := rules.events
      result := rules.result.map fun rules =>
        ⟨number,
          [(rulesKey, rules), (namingKey, .naming), (registryKey, .registry Registry.builtIn)]⟩ }

end Services

/-- A running program: its files, where it works, and its services if it has any. -/
structure Session where
  disk : Disk := {}
  cwd : Location := []
  shared : Option Services := none
  /-- How many services have been made. -/
  made : Nat := 0

namespace Session

/-- What a request gives: the state after it, what was logged, and its result. -/
structure Reply (α : Type) where
  session : Session
  events : List Event := []
  result : Except Failure α

/-- Goes on with the result of a request, if it has one. -/
def Reply.andThen {α β : Type} (r : Reply α) (next : Session → α → Reply β) : Reply β :=
  match r.result with
  | .error f => ⟨r.session, r.events, .error f⟩
  | .ok a =>
    let s := next r.session a
    ⟨s.session, r.events ++ s.events, s.result⟩

def changeDirectory (s : Session) (l : Location) : Session :=
  { s with disk := s.disk.makeDirectory l, cwd := l }

/-- Forgets the services. -/
def reset (s : Session) : Session := { s with shared := none }

/-- The shared services, made now if there are none. A failure leaves none. -/
def obtain (s : Session) : Reply Services :=
  match s.shared with
  | some services => ⟨s, [], .ok services⟩
  | none =>
    let made := Services.create s.made s.disk s.cwd
    match made.result with
    | .error f => ⟨s, made.events, .error f⟩
    | .ok services =>
      ⟨{ s with shared := some services, made := s.made + 1 }, made.events, .ok services⟩

/-- Registers a service with the services of the given number. If those are not the shared ones, what
is shared stays the same. -/
def registerWith (s : Session) (number : Nat) (key : String) (service : Service) : Session :=
  { s with
    shared := s.shared.map fun services =>
      if services.number = number then services.register key service else services }

/-- Registers a value under a key; under that of the rules it is a configuration table. -/
def register (s : Session) (key : String) (v : Value) : Reply Services :=
  s.obtain.andThen fun s services =>
    let service : Logged Failure Service :=
      if key == Services.rulesKey then
        Services.loadRules (match v with | .table t => t | _ => [])
      else { result := .ok (.plain v) }
    match service.result with
    | .error f => ⟨s, service.events, .error f⟩
    | .ok service' =>
      ⟨s.registerWith services.number key service', service.events,
        .ok (services.register key service')⟩

/-- What is registered under a key. -/
def get (s : Session) (key : String) : Reply (Services × Option Service) :=
  s.obtain.andThen fun s services => ⟨s, [], .ok (services, services.get? key)⟩

/-- The failure to ask something of a service that does not have it. -/
def cannot (service : Option Service) (wanted : String) : Failure :=
  match service with
  | some (.plain v) => .noAttribute v.fullKindName wanted
  | some (.rules _) => .noAttribute Services.rulesKey wanted
  | some .naming => .noAttribute Services.namingKey wanted
  | some (.registry _) => .noAttribute Services.registryKey wanted
  | none => .noAttribute Value.null.kindName wanted

/-- The configured rules. -/
def rules (s : Session) : Reply (Services × List RuleOptions) :=
  (s.get Services.rulesKey).andThen fun s (services, service) =>
    match service with
    | some (.rules rules) => ⟨s, [], .ok (services, rules)⟩
    | other => ⟨s, [], .error (cannot other "rule_options")⟩

/-- The registry entry for a key, symbol or code. -/
def entry (s : Session) (key : String) : Reply (Services × Option Table) :=
  (s.get Services.registryKey).andThen fun s (services, service) =>
    match service with
    | some (.registry registry) =>
      ⟨s, [], (Registry.entry? registry key).map fun entry => (services, entry)⟩
    | other => ⟨s, [], .error (cannot other "get_entry")⟩

/-- The package of a module. -/
def packageName (s : Session) (m : Module) : Reply (Services × String) :=
  (s.get Services.namingKey).andThen fun s (services, service) =>
    match service with
    | some .naming => ⟨s, [], .ok (services, m.packageName)⟩
    | other => ⟨s, [], .error (cannot other "package_name")⟩

end Session

end ImportGuard
