import ImportGuard.Rule
import Mathlib.Data.List.Basic

namespace ImportGuard

open Regex (Pattern)

namespace Slot

/-- The text of an option that is not given. -/
def default (slot : Slot) : Option String := if slot.isScope then some "" else none

/-- The text that is compiled when the option has the given one. -/
def patternText (slot : Slot) (text : String) : String :=
  if slot.isScope && text.isEmpty then matchAll else text

/-- What is told when the text of the option does not compile. -/
def failure (slot : Slot) (text : String) : Regex.Error → Failure
  | .invalid cause pos => .badPattern slot.optionName text cause pos
  | error => .patternLimit error

def Compiles (slot : Slot) (text : String) : Prop :=
  ∃ pattern, Pattern.compile (slot.patternText text) = .ok pattern

def pattern? (slot : Slot) (text : String) : Option Pattern :=
  (Pattern.compile (slot.patternText text)).toOption

def failure? (slot : Slot) (text : String) : Option Failure :=
  match Pattern.compile (slot.patternText text) with
  | .ok _ => none
  | .error error => some (slot.failure text error)

/-- What is told of texts that are compiled one after the other. -/
def firstFailure? (texts : List (Slot × String)) : Option Failure :=
  texts.findSome? fun e => e.1.failure? e.2

theorem mem_all (slot : Slot) : slot ∈ all := by cases slot <;> simp [all]

theorem failure?_eq_none_iff {slot : Slot} {text : String} :
    slot.failure? text = none ↔ slot.Compiles text := by
  rw [failure?, Compiles]
  cases Pattern.compile (slot.patternText text) with
  | ok pattern => simp
  | error error => simp

theorem failure?_eq_some_iff {slot : Slot} {text : String} {f : Failure} :
    slot.failure? text = some f ↔
      ∃ error, Pattern.compile (slot.patternText text) = .error error ∧
        slot.failure text error = f := by
  rw [failure?]
  cases Pattern.compile (slot.patternText text) with
  | ok pattern => simp
  | error error => simp

theorem firstFailure?_eq_none_iff {texts : List (Slot × String)} :
    firstFailure? texts = none ↔ ∀ e ∈ texts, e.1.Compiles e.2 := by
  simp only [firstFailure?, List.findSome?_eq_none_iff, failure?_eq_none_iff]

theorem firstFailure?_eq_some_iff {texts : List (Slot × String)} {f : Failure} :
    firstFailure? texts = some f ↔
      ∃ before slot text after error, texts = before ++ (slot, text) :: after ∧
        (∀ e ∈ before, e.1.Compiles e.2) ∧
        Pattern.compile (slot.patternText text) = .error error ∧ slot.failure text error = f := by
  simp only [firstFailure?, List.findSome?_eq_some_iff, failure?_eq_none_iff,
    failure?_eq_some_iff]
  constructor
  · rintro ⟨before, ⟨slot, text⟩, after, hsplit, ⟨error, herror, hf⟩, hbefore⟩
    exact ⟨before, slot, text, after, error, hsplit, hbefore, herror, hf⟩
  · rintro ⟨before, slot, text, after, error, hsplit, hbefore, herror, hf⟩
    exact ⟨before, (slot, text), after, hsplit, ⟨error, herror, hf⟩, hbefore⟩

end Slot

namespace RuleOptions

def get (o : RuleOptions) : Slot → Option String
  | .package => o.package
  | .className => o.className
  | .forbid => o.forbid
  | .exclude => o.exclude

/-- The texts that are given for some slots, in their order. -/
def textsOf (o : RuleOptions) (slots : List Slot) : List (Slot × String) :=
  slots.filterMap fun slot => (o.get slot).map (slot, ·)

def texts (o : RuleOptions) : List (Slot × String) := o.textsOf Slot.all

def pattern? (o : RuleOptions) (slot : Slot) : Option Pattern := (o.get slot).bind slot.pattern?

/-- The patterns of those texts that compile. -/
def patterns (o : RuleOptions) : PatternSet :=
  ⟨o.pattern? .package, o.pattern? .className, o.pattern? .forbid, o.pattern? .exclude⟩

theorem get_patterns (o : RuleOptions) (slot : Slot) : o.patterns.get slot = o.pattern? slot := by
  cases slot <;> rfl

theorem mem_texts {o : RuleOptions} {slot : Slot} {text : String} :
    (slot, text) ∈ o.texts ↔ o.get slot = some text := by
  simp [texts, textsOf, slot.mem_all]

end RuleOptions

namespace PatternSet

theorem compile_matchAll : ∃ pattern, Pattern.compile matchAll = .ok pattern := by
  cases h : Pattern.compile matchAll with
  | ok pattern => exact ⟨pattern, rfl⟩
  | error error =>
    have hok : (Pattern.compile matchAll).isOk = true := by decide +kernel
    rw [h] at hok
    cases hok

theorem compileLiteral_some (slot : Slot) (text : String) :
    compileLiteral slot.optionName (some text) = match Pattern.compile text with
      | .ok pattern => .ok (some pattern)
      | .error error => .error (slot.failure text error) := by
  rw [compileLiteral]
  cases Pattern.compile text with
  | ok pattern => rfl
  | error error => cases error <;> rfl

theorem compile_none (slot : Slot) : compile slot none = .ok none := by
  cases slot <;> rfl

theorem compile_some (slot : Slot) (text : String) :
    compile slot (some text) = match Pattern.compile (slot.patternText text) with
      | .ok pattern => .ok (some pattern)
      | .error error => .error (slot.failure text error) := by
  rw [compile]
  cases hscope : slot.isScope with
  | false =>
    rw [if_neg Bool.false_ne_true, compileLiteral_some, Slot.patternText, hscope]
    rfl
  | true =>
    rw [if_pos rfl, compileScope, compileLiteral_some, Slot.patternText, hscope, Bool.true_and]
    cases text.isEmpty with
    | false => rfl
    | true =>
      -- The failure would name `.*` and not the empty text, but there is none.
      obtain ⟨pattern, hpattern⟩ := compile_matchAll
      rw [if_pos rfl, hpattern]

theorem set_eq (p : PatternSet) (o : RuleOptions) (slot : Slot) :
    p.set slot (o.get slot) = match (o.get slot).bind slot.failure? with
      | some f => .error f
      | none => .ok (p.put (o.pattern? slot) slot) := by
  have hset (text : Option String) :
      p.set slot text = (compile slot text).map (p.put · slot) := rfl
  rw [hset, RuleOptions.pattern?]
  cases o.get slot with
  | none =>
    rw [compile_none]
    rfl
  | some text =>
    rw [compile_some, Option.bind_some, Option.bind_some, Slot.failure?, Slot.pattern?]
    cases Pattern.compile (slot.patternText text) <;> rfl

/-- The texts of some slots are compiled up to the first failure. -/
theorem foldlM_set (o : RuleOptions) (slots : List Slot) (p : PatternSet) :
    slots.foldlM (fun p slot => p.set slot (o.get slot)) p =
      match Slot.firstFailure? (o.textsOf slots) with
      | some f => .error f
      | none => .ok (slots.foldl (fun p slot => p.put (o.pattern? slot) slot) p) := by
  induction slots generalizing p with
  | nil => rfl
  | cons slot slots ih =>
    rw [List.foldlM_cons, set_eq, List.foldl_cons, RuleOptions.textsOf, List.filterMap_cons]
    cases o.get slot with
    | none => exact ih _
    | some text =>
      rw [Option.bind_some, Option.map_some, Slot.firstFailure?, List.findSome?_cons]
      cases slot.failure? text with
      | some f => rfl
      | none => exact ih _

theorem ofOptions_eq_foldlM (o : RuleOptions) :
    ofOptions o = Slot.all.foldlM (fun p slot => p.set slot (o.get slot)) {} := by
  simp only [ofOptions, Slot.all, List.foldlM_cons, List.foldlM_nil, bind_pure, RuleOptions.get]

theorem ofOptions_eq (o : RuleOptions) :
    ofOptions o = match Slot.firstFailure? o.texts with
      | some f => .error f
      | none => .ok o.patterns := by
  rw [ofOptions_eq_foldlM, foldlM_set]
  rfl

end PatternSet

end ImportGuard
