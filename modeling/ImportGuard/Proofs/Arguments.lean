import ImportGuard.Command
import ImportGuard.Proofs.Compilation
import Mathlib.Data.List.Basic

namespace ImportGuard

theorem RuleOptions.ext_texts {o o' : RuleOptions} (h : o.texts = o'.texts) : o = o' := by
  have hget (slot : Slot) : o.get slot = o'.get slot := by
    apply Option.ext
    intro text
    rw [← mem_texts, ← mem_texts, h]
  obtain ⟨package, className, forbid, exclude⟩ := o
  congr 1
  · exact hget .package
  · exact hget .className
  · exact hget .forbid
  · exact hget .exclude

namespace Request

/-- The argument for an option with its value. -/
def optionArgument (e : Slot × String) : String := "--" ++ e.1.optionName ++ "=" ++ e.2

def ReadsAsOption (path : String) : Prop := ∃ e, path = optionArgument e

/-- The other request has the last options of this one as its first paths, and is the same in all
else. -/
def HandsOver (r s : Request) : Prop :=
  ∃ moved, r.options.texts = s.options.texts ++ moved ∧
    s.paths = moved.map optionArgument ++ r.paths

variable {r s : Request}

theorem optionArguments_namedOptions (r : Request) :
    optionArguments r.namedOptions = r.options.texts.map optionArgument := by
  obtain ⟨paths, package, className, forbid, exclude⟩ := r
  cases package <;> cases className <;> cases forbid <;> cases exclude <;> rfl

theorem arguments_eq (r : Request) :
    r.arguments = baseArguments ++ (r.options.texts.map optionArgument ++ r.paths) := by
  rw [arguments, argumentsFor, optionArguments_namedOptions, List.append_assoc]

theorem toList_optionArgument (e : Slot × String) :
    (optionArgument e).toList = ("--" ++ e.1.optionName).toList ++ '=' :: e.2.toList := by
  simp only [optionArgument, String.toList_append]
  rw [List.append_assoc]
  rfl

/-- The name ends at the first equals sign, as no name has one. -/
theorem takeWhile_optionArgument (e : Slot × String) :
    (optionArgument e).toList.takeWhile (· != '=') = ("--" ++ e.1.optionName).toList := by
  have hname : ("--" ++ e.1.optionName).toList.all (· != '=') = true := by
    cases e.1 <;> decide
  rw [toList_optionArgument, List.takeWhile_append_of_pos (List.all_eq_true.1 hname)]
  exact List.append_nil _

theorem optionArgument_inj {e e' : Slot × String} (h : optionArgument e = optionArgument e') :
    e = e' := by
  obtain ⟨slot, text⟩ := e
  obtain ⟨slot', text'⟩ := e'
  have hnames : "--" ++ slot.optionName = "--" ++ slot'.optionName := by
    rw [← String.toList_inj, ← takeWhile_optionArgument (slot, text), h,
      takeWhile_optionArgument]
  have hslot : slot = slot' := by
    revert hnames
    cases slot <;> cases slot' <;> decide
  subst hslot
  have htexts := congrArg String.toList h
  rw [toList_optionArgument, toList_optionArgument] at htexts
  have htext := List.tail_eq_of_cons_eq (List.append_cancel_left htexts)
  obtain rfl : text = text' := String.toList_inj.1 htext
  rfl

theorem map_optionArgument_eq_append {es es' : List (Slot × String)} {rest : List String} :
    es.map optionArgument = es'.map optionArgument ++ rest ↔
      ∃ moved, es = es' ++ moved ∧ rest = moved.map optionArgument := by
  constructor
  · intro h
    obtain ⟨first, moved, rfl, hfirst, hmoved⟩ := List.map_eq_append_iff.1 h
    rw [List.map_inj_right fun e e' => optionArgument_inj] at hfirst
    exact ⟨moved, by rw [hfirst], hmoved.symm⟩
  · rintro ⟨moved, rfl, rfl⟩
    exact List.map_append

theorem handsOver_iff :
    r.HandsOver s ↔ ∃ rest, r.options.texts.map optionArgument =
      s.options.texts.map optionArgument ++ rest ∧ s.paths = rest ++ r.paths := by
  simp only [map_optionArgument_eq_append]
  constructor
  · rintro ⟨moved, htexts, hpaths⟩
    exact ⟨_, ⟨moved, htexts, rfl⟩, hpaths⟩
  · rintro ⟨-, ⟨moved, htexts, rfl⟩, hpaths⟩
    exact ⟨moved, htexts, hpaths⟩

/-- What is handed over becomes the first path, unless nothing is. -/
theorem HandsOver.eq (h : r.HandsOver s) (hs : ∀ path ∈ s.paths.head?, ¬ ReadsAsOption path) :
    r = s := by
  obtain ⟨moved, htexts, hpaths⟩ := h
  cases moved with
  | nil =>
    rw [List.append_nil] at htexts
    obtain ⟨paths, options⟩ := r
    obtain ⟨paths', options'⟩ := s
    obtain rfl : options = options' := RuleOptions.ext_texts htexts
    obtain rfl : paths' = paths := hpaths
    rfl
  | cons e moved =>
    have hfirst : optionArgument e ∈ s.paths.head? := by
      rw [hpaths]
      rfl
    exact absurd ⟨e, rfl⟩ (hs _ hfirst)

/-- Paths as they are usually given are safe. -/
theorem not_readsAsOption {path : String} (h : path.toList.head? ≠ some '-') :
    ¬ ReadsAsOption path := by
  rintro ⟨e, rfl⟩
  rw [toList_optionArgument, String.toList_append] at h
  exact h rfl

/-- Two requests have the same arguments exactly if one hands over its last options as the first
paths of the other. So arguments determine the request as long as the first path does not read as
an option. -/
theorem arguments_determine_request (r s : Request) :
    (r.arguments = s.arguments ↔ r.HandsOver s ∨ s.HandsOver r) ∧
    ((∀ path ∈ r.paths.head?, ¬ ReadsAsOption path) →
      (∀ path ∈ s.paths.head?, ¬ ReadsAsOption path) →
      (r.arguments = s.arguments ↔ r.paths = s.paths ∧ r.options = s.options)) := by
  have hiff : r.arguments = s.arguments ↔ r.HandsOver s ∨ s.HandsOver r := by
    rw [arguments_eq, arguments_eq, List.append_cancel_left_eq, List.append_eq_append_iff,
      handsOver_iff, handsOver_iff, or_comm]
  refine ⟨hiff, ?_⟩
  intro hr hs
  constructor
  · intro hargs
    have heq : r = s := by
      rcases hiff.1 hargs with h | h
      · exact h.eq hs
      · exact (h.eq hr).symm
    exact ⟨congrArg paths heq, congrArg options heq⟩
  · rintro ⟨hpaths, hoptions⟩
    rw [arguments_eq, arguments_eq, hpaths, hoptions]

theorem arguments_determine_request_sample :
    let r : Request := ⟨["a.py", "--class-name-regexp=A"], ⟨some "x=y", none, some "", none⟩⟩
    let s : Request := ⟨["a.py", "--class-name-regexp=A"], ⟨some "x", none, some "=y", none⟩⟩
    (∀ path ∈ r.paths.head?, ¬ ReadsAsOption path) ∧
      (∀ path ∈ s.paths.head?, ¬ ReadsAsOption path) ∧ r.arguments ≠ s.arguments := by
  intro r s
  have hword : ¬ ReadsAsOption "a.py" := not_readsAsOption (by decide)
  have hr : ∀ path ∈ r.paths.head?, ¬ ReadsAsOption path := by
    rintro path ⟨⟩
    exact hword
  refine ⟨hr, hr, ?_⟩
  intro hargs
  obtain ⟨-, hoptions⟩ := ((arguments_determine_request r s).2 hr hr).1 hargs
  revert hoptions
  decide

/-- A path given behind two hyphens and an option with its value are two requests, but the arguments
for the linter are the same. -/
theorem path_taken_for_option :
    let r : Request := { paths := ["--package-name-regexp=x", "a.py"] }
    let s : Request := ⟨["a.py"], ⟨some "x", none, none, none⟩⟩
    Command.parse ["check", "--", "--package-name-regexp=x", "a.py"] = .check r ∧
      Command.parse ["check", "--package-name-regexp=x", "a.py"] = .check s ∧
      r.arguments = s.arguments ∧ r ≠ s := by
  intro r s
  refine ⟨?_, ?_, rfl, ?_⟩
  · decide +kernel
  · decide +kernel
  · decide

end Request

end ImportGuard
