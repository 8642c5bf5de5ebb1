import ImportGuard.Proofs.Hooks
import Mathlib.Data.List.Basic

namespace ImportGuard

namespace Hook

/-- The call begins or ends a file. -/
def isBoundary : Hook → Bool
  | enter _ | leave => true
  | openRules | setOption _ _ | visit _ _ => false

/-- The call is about the rules or the options, and not about a file. -/
def isSetup : Hook → Bool
  | openRules | setOption _ _ => true
  | enter _ | visit _ _ | leave => false

def isOpenRules : Hook → Bool
  | openRules => true
  | _ => false

/-- The records that a call brings to the rules of the open file. -/
def records : Hook → List Record
  | enter m => [m.packageRecord]
  | visit m t => t.records m
  | openRules | setOption _ _ | leave => []

def adjust (s : Settings) : Hook → Settings
  | setOption slot value => s.put value slot
  | _ => s

end Hook

namespace Checker

def settingsAfter (c : Checker) (hooks : List Hook) : Settings := hooks.foldl Hook.adjust c.settings

/-- The rules that compiling gives after some calls, if it succeeds. -/
def compiled? (c : Checker) (hooks : List Hook) : Option (List Rule) :=
  (((c.settingsAfter hooks).toOptions :: c.configured).mapM Rule.ofOptions).toOption

/-- What the calls that compiled the rules have installed, one after the other. -/
def installations (c : Checker) (hooks : List Hook) : List (List Rule) :=
  (List.range hooks.length).filterMap fun i =>
    if hooks[i]?.any Hook.isOpenRules then c.compiled? (hooks.take i) else none

/-- The rules that were installed last. -/
def installed (c : Checker) (hooks : List Hook) : List Rule :=
  (c.installations hooks).getLast?.getD c.rules

theorem installations_snoc (c : Checker) (hooks : List Hook) (h : Hook) :
    c.installations (hooks ++ [h]) =
      c.installations hooks ++ if h.isOpenRules then (c.compiled? hooks).toList else [] := by
  simp only [installations, List.length_append, List.length_singleton, List.range_succ,
    List.filterMap_append]
  congr 1
  · apply List.filterMap_congr
    intro i hi
    have hi := List.mem_range.1 hi
    rw [List.getElem?_append_left hi, List.take_append_of_le_length (Nat.le_of_lt hi)]
  · simp only [List.filterMap_cons, List.filterMap_nil, List.getElem?_concat_length,
      Option.any_some, List.take_left]
    cases h.isOpenRules with
    | false => rfl
    | true => cases c.compiled? hooks <;> rfl

/-- Each call changes at most one thing besides the scopes: an option, or the installed rules. -/
theorem step_eq (c : Checker) (h : Hook) :
    (c.step h).2 =
      { settings := h.adjust c.settings
        configured := c.configured
        rules := if h.isOpenRules then (c.options.mapM Rule.ofOptions).toOption.getD c.rules
          else c.rules
        scopes := (c.step h).2.scopes } := by
  cases h with
  | openRules => rw [step_openRules]; rfl
  | setOption => rfl
  | enter => rw [step_enter]; rfl
  | visit => rw [step_visit]; rfl
  | leave => rfl

theorem afterCalls_options (c : Checker) (hooks : List Hook) :
    (c.afterCalls hooks).options = (c.settingsAfter hooks).toOptions :: c.configured := by
  induction hooks generalizing c with
  | nil => rfl
  | cons h hooks ih =>
    rw [afterCalls_cons, ih, step_eq]
    rfl

theorem afterCalls_rules (c : Checker) (hooks : List Hook) :
    (c.afterCalls hooks).rules = c.installed hooks := by
  induction hooks using List.reverseRecOn with
  | nil => rfl
  | append_singleton hooks h ih =>
    have hcompiled : ((c.afterCalls hooks).options.mapM Rule.ofOptions).toOption =
        c.compiled? hooks := by
      rw [afterCalls_options, compiled?]
    rw [afterCalls_append, afterCalls_cons, afterCalls_nil, step_eq, ih, hcompiled, installed,
      installed, installations_snoc]
    cases h.isOpenRules with
    | false => simp
    | true => cases c.compiled? hooks <;> simp

theorem advance_nil (scopes : List (Rule × Scope)) : advance scopes [] = scopes :=
  List.map_id _

theorem advance_append (scopes : List (Rule × Scope)) (xs ys : List Record) :
    advance (advance scopes xs) ys = advance scopes (xs ++ ys) := by
  simp only [advance, List.map_map, Function.comp_def, Rule.scopeAfter_append]

theorem reportOf_nil (scopes : List (Rule × Scope)) : reportOf scopes [] = {} := by
  have hnil (e : Rule × Scope) : e.1.report [] e.2 = {} := rfl
  simp [reportOf, hnil]

/-- Between two boundaries a call only brings its records to the open file. -/
theorem step_inside {h : Hook} (hh : h.isBoundary = false) (c : Checker) :
    (c.step h).1 = reportOf c.scopes h.records ∧
      (c.step h).2.scopes = advance c.scopes h.records := by
  cases h with
  | openRules =>
    rw [step_openRules]
    exact ⟨(reportOf_nil _).symm, (advance_nil _).symm⟩
  | setOption => exact ⟨(reportOf_nil _).symm, (advance_nil _).symm⟩
  | enter | leave => cases hh
  | visit m t =>
    rw [step_visit]
    exact ⟨rfl, rfl⟩

theorem step_setup {h : Hook} (hh : h.isSetup) (c : Checker) :
    (c.step h).1 = {} ∧ (c.step h).2.scopes = c.scopes := by
  have hinside : h.isBoundary = false ∧ h.records = [] := by
    cases h with
    | openRules | setOption => exact ⟨rfl, rfl⟩
    | enter | visit | leave => cases hh
  obtain ⟨hreport, hscopes⟩ := step_inside hinside.1 c
  rw [hreport, hscopes, hinside.2, reportOf_nil, advance_nil]
  exact ⟨rfl, rfl⟩

/-- Along the calls between two boundaries a checker stays in step with one that has the same open
file and gets the visits only. -/
theorem transcript_congr {c d : Checker} (hscopes : c.scopes = d.scopes) {hooks : List Hook}
    (hhooks : ∀ h ∈ hooks, h.isBoundary = false) :
    (c.afterCalls hooks).scopes = (d.afterCalls (hooks.filter (!·.isSetup))).scopes ∧
      (c.transcript hooks).filter (!·.1.isSetup) =
        d.transcript (hooks.filter (!·.isSetup)) := by
  induction hooks generalizing c d with
  | nil => exact ⟨hscopes, rfl⟩
  | cons h hooks ih =>
    obtain ⟨hh, hrest⟩ := List.forall_mem_cons.1 hhooks
    cases hs : h.isSetup with
    | true =>
      have hsame := (step_setup hs c).2.trans hscopes
      obtain ⟨hafter, htranscript⟩ := ih hsame hrest
      rw [List.filter_cons_of_neg (by simp [hs]), transcript,
        List.filter_cons_of_neg (by simp [hs])]
      exact ⟨hafter, htranscript⟩
    | false =>
      obtain ⟨hreport, hsame⟩ := step_inside hh c
      rw [hscopes, ← (step_inside hh d).1] at hreport
      rw [hscopes, ← (step_inside hh d).2] at hsame
      obtain ⟨hafter, htranscript⟩ := ih hsame hrest
      rw [List.filter_cons_of_pos (by simp [hs]), transcript,
        List.filter_cons_of_pos (by simp [hs]), transcript, hreport, htranscript]
      exact ⟨hafter, rfl⟩

theorem afterCalls_scopes (c : Checker) {hooks : List Hook}
    (hhooks : ∀ h ∈ hooks, h.isBoundary = false) :
    (c.afterCalls hooks).scopes = advance c.scopes (hooks.flatMap Hook.records) := by
  induction hooks generalizing c with
  | nil => exact (advance_nil _).symm
  | cons h hooks ih =>
    obtain ⟨hh, hrest⟩ := List.forall_mem_cons.1 hhooks
    rw [afterCalls_cons, ih _ hrest, (step_inside hh c).2, advance_append, List.flatMap_cons]

theorem afterCalls_enter (c : Checker) (m : Module) {hooks : List Hook}
    (hhooks : ∀ h ∈ hooks, h.isBoundary = false) :
    (c.afterCalls (.enter m :: hooks)).scopes = c.rules.map fun r =>
      (r, r.scopeAfter ((Hook.enter m :: hooks).flatMap Hook.records) Rule.beginFile) := by
  rw [afterCalls_cons, afterCalls_scopes _ hhooks, step_enter]
  simp only [advance, after, List.map_map, Function.comp_def, List.flatMap_cons,
    Rule.scopeAfter_append]
  rfl

theorem transcript_setup (c : Checker) (hooks : List Hook) :
    ∀ e ∈ c.transcript hooks, e.1.isSetup → e.2 = {} := by
  induction hooks generalizing c with
  | nil =>
    intro e he
    cases he
  | cons h hooks ih =>
    intro e he hs
    rcases List.mem_cons.1 he with rfl | he
    · exact (step_setup hs c).1
    · exact ih _ e he hs

/-- While no file is open, nothing is said and none becomes open. -/
theorem transcript_closed {c : Checker} (hclosed : c.scopes = []) {hooks : List Hook}
    (hhooks : ∀ h ∈ hooks, h.isBoundary = false) :
    (c.afterCalls hooks).scopes = [] ∧ ∀ e ∈ c.transcript hooks, e.2 = {} := by
  induction hooks generalizing c with
  | nil =>
    refine ⟨hclosed, ?_⟩
    intro e he
    cases he
  | cons h hooks ih =>
    obtain ⟨hh, hrest⟩ := List.forall_mem_cons.1 hhooks
    have hstep := step_inside hh c
    rw [hclosed] at hstep
    obtain ⟨hafter, htranscript⟩ := ih hstep.2 hrest
    refine ⟨hafter, ?_⟩
    intro e he
    rcases List.mem_cons.1 he with rfl | he
    · exact hstep.1
    · exact htranscript e he

theorem step_enter_congr {c d : Checker} (hrules : c.rules = d.rules) (m : Module) :
    (c.step (.enter m)).1 = (d.step (.enter m)).1 ∧
      (c.step (.enter m)).2.scopes = (d.step (.enter m)).2.scopes := by
  rw [step_enter, step_enter, after, after, hrules]
  exact ⟨rfl, rfl⟩

/-- From entering a file to the next boundary the checker answers as one that has the installed
rules, has done nothing before, and gets the file and its nodes alone: the scopes and the messages
come from these rules and the records of the file so far. The calls in between that compile rules or
set options are answered by nothing and change no scope. While no file is open, nothing is said at
all. -/
theorem file_isolated (settings : Settings) (configured : List RuleOptions)
    (earlier calls : List Hook) (m : Module) (hcalls : ∀ h ∈ calls, h.isBoundary = false) :
    let c := start settings configured
    let before := c.afterCalls earlier
    let alone : Checker := { rules := c.installed earlier }
    let file := Hook.enter m :: calls
    let scope := fun r : Rule => r.scopeAfter (file.flatMap Hook.records) Rule.beginFile
    (before.afterCalls file).scopes = (alone.afterCalls (file.filter (!·.isSetup))).scopes ∧
    (before.afterCalls file).scopes = ((c.installed earlier).map fun r => (r, scope r)) ∧
    (∀ n t, ((before.afterCalls file).step (.visit n t)).1.messages =
      (c.installed earlier).flatMap fun r => (r.report (t.records n) (scope r)).messages) ∧
    (before.transcript file).filter (!·.1.isSetup) =
      alone.transcript (file.filter (!·.isSetup)) ∧
    (∀ e ∈ before.transcript file, e.1.isSetup → e.2 = {}) ∧
    ((c.afterCalls calls).scopes = [] ∧ ∀ e ∈ c.transcript calls, e.2 = {}) ∧
    (before.step .leave).1.messages = [] ∧
    (before.afterCalls (.leave :: calls)).scopes = [] ∧
    ∀ e ∈ (before.step .leave).2.transcript calls, e.2 = {} := by
  intro c before alone file scope
  have hrules : before.rules = alone.rules := c.afterCalls_rules earlier
  obtain ⟨hreport, hscopes⟩ := step_enter_congr hrules m
  obtain ⟨hafter, htranscript⟩ := transcript_congr hscopes hcalls
  have hscope : (before.afterCalls file).scopes =
      (c.installed earlier).map fun r => (r, scope r) := by
    rw [before.afterCalls_enter m hcalls, hrules]
  refine ⟨hafter, hscope, ?_, ?_, before.transcript_setup file, transcript_closed rfl hcalls, rfl,
    transcript_closed rfl hcalls⟩
  · intro n t
    rw [step_visit, hscope]
    simp only [reportOf, List.flatMap_map]
  · rw [transcript, List.filter_cons_of_pos rfl, List.filter_cons_of_pos rfl, transcript, hreport,
      htranscript]

theorem file_isolated_sample :
    let m : Module := { name := some "app.main" }
    let c := start sampleSettings []
    let earlier : List Hook := [.openRules, .enter m, .visit m (.importNames ⟨1, 0⟩ ["os"]),
      .setOption .forbid (some (some "(")), .openRules]
    let calls : List Hook := [.visit m (.classDef ⟨1, 0⟩ (some "UserService") []),
      .setOption .forbid (some (some "sys")), .openRules,
      .visit m (.importNames ⟨2, 4⟩ ["os.path", "sys"])]
    let file := Hook.enter m :: calls
    let alone : Checker := { rules := c.installed earlier }
    (∀ h ∈ calls, h.isBoundary = false) ∧
      ((c.afterCalls earlier).transcript file).filter (!·.1.isSetup) =
        alone.transcript (file.filter (!·.isSetup)) ∧
      ((alone.transcript (file.filter (!·.isSetup))).map fun e => e.2.messages) =
        [[], [], [⟨2, "os(\\..*)?", "os.path", some ⟨.importNames, 2, 4⟩⟩]] := by
  intro m c earlier calls file alone
  have hcalls : ∀ h ∈ calls, h.isBoundary = false := by simp [calls, Hook.isBoundary]
  obtain ⟨-, -, -, htranscript, -⟩ :=
    file_isolated sampleSettings [] earlier calls m hcalls
  exact ⟨hcalls, htranscript, by decide +kernel⟩

end Checker

end ImportGuard
