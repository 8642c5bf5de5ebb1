import ImportGuard.Proofs.Compilation
import ImportGuard.Proofs.Limits

namespace ImportGuard

open Regex (Pattern)

namespace Regex

/-- Whether something other than a place of the text is wrong. -/
def Error.IsLimit : Error → Prop
  | .invalid _ _ => False
  | .repeatTooLarge | .countTooLong _ | .codeTooLarge | .clashingFlags => True

/-- Nothing in the text could be the reason for a limit. How deeply groups nest is not among the
limits. -/
structure Plain (text : String) : Prop where
  counts : ¬ LargeCount text.toList
  lengths : ¬ LongCount text.toList
  codes : ¬ LargeCode text.toList
  switches : ¬ (Switched .ascii text.toList ∧ Switched .unicode text.toList)

instance (text : String) : Decidable (Plain text) :=
  decidable_of_iff
    (¬ LargeCount text.toList ∧ ¬ LongCount text.toList ∧ ¬ LargeCode text.toList ∧
      ¬ (Switched .ascii text.toList ∧ Switched .unicode text.toList))
    ⟨fun h => ⟨h.1, h.2.1, h.2.2.1, h.2.2.2⟩, fun h => ⟨h.counts, h.lengths, h.codes, h.switches⟩⟩

theorem Plain.not_isLimit {text : String} {error : Error} (h : Plain text)
    (herror : Pattern.compile text = .error error) : ¬ error.IsLimit := by
  have hexplains := Pattern.explains_of_compile herror
  cases error with
  | invalid cause pos => exact not_false
  | repeatTooLarge => exact absurd hexplains h.counts
  | countTooLong digits => exact absurd hexplains h.lengths
  | codeTooLarge => exact absurd hexplains h.codes
  | clashingFlags => exact absurd hexplains h.switches

end Regex

namespace Slot

theorem failure_eq_badPattern_iff {slot slot' : Slot} {text text' : String} {error : Regex.Error} :
    (∃ cause pos, slot.failure text error = .badPattern slot'.optionName text' cause pos) ↔
      ¬ error.IsLimit ∧ slot.optionName = slot'.optionName ∧ text = text' := by
  cases error <;> simp [failure, Regex.Error.IsLimit]

end Slot

namespace RuleOptions

/-- The text is the first one, in the order of the slots, that does not compile. -/
structure Rejects (o : RuleOptions) (slot : Slot) (text : String) (error : Regex.Error) : Prop where
  first : ∃ before after, o.texts = before ++ (slot, text) :: after ∧
    ∀ e ∈ before, e.1.Compiles e.2
  refused : Pattern.compile (slot.patternText text) = .error error

/-- The options give patterns, or a failure that names the option of the first text that does not
compile, and the text. -/
def Reported (o : RuleOptions) : Prop :=
  (∃ p, PatternSet.ofOptions o = .ok p) ∨
    ∃ slot text error cause pos, o.Rejects slot text error ∧
      PatternSet.ofOptions o = .error (.badPattern slot.optionName text cause pos)

variable {o : RuleOptions} {slot : Slot} {text : String} {error : Regex.Error}

theorem firstFailure?_eq_some_iff {f : Failure} :
    Slot.firstFailure? o.texts = some f ↔
      ∃ slot text error, o.Rejects slot text error ∧ slot.failure text error = f := by
  rw [Slot.firstFailure?_eq_some_iff]
  constructor
  · rintro ⟨before, slot, text, after, error, hsplit, hbefore, herror, hf⟩
    exact ⟨slot, text, error, ⟨⟨before, after, hsplit, hbefore⟩, herror⟩, hf⟩
  · rintro ⟨slot, text, error, ⟨⟨before, after, hsplit, hbefore⟩, herror⟩, hf⟩
    exact ⟨before, slot, text, after, error, hsplit, hbefore, herror, hf⟩

theorem ofOptions_of_rejects (h : o.Rejects slot text error) :
    PatternSet.ofOptions o = .error (slot.failure text error) := by
  rw [PatternSet.ofOptions_eq, firstFailure?_eq_some_iff.2 ⟨slot, text, error, h, rfl⟩]

theorem Rejects.mem_texts (h : o.Rejects slot text error) : (slot, text) ∈ o.texts := by
  obtain ⟨before, after, hsplit, -⟩ := h.first
  rw [hsplit]
  exact List.mem_append_right _ List.mem_cons_self

/-- An empty scope text stands for another one, which compiles. -/
theorem Rejects.patternText_eq (h : o.Rejects slot text error) : slot.patternText text = text := by
  rw [Slot.patternText]
  split
  · rename_i hempty
    obtain ⟨pattern, hpattern⟩ := PatternSet.compile_matchAll
    have hrefused := h.refused
    rw [Slot.patternText, if_pos hempty, hpattern] at hrefused
    cases hrefused
  · rfl

theorem ofOptions_ok_or_rejects (o : RuleOptions) :
    PatternSet.ofOptions o = .ok o.patterns ∨ ∃ slot text error, o.Rejects slot text error := by
  rw [PatternSet.ofOptions_eq]
  cases hfirst : Slot.firstFailure? o.texts with
  | none => exact .inl rfl
  | some f =>
    obtain ⟨slot, text, error, hrejects, -⟩ := firstFailure?_eq_some_iff.1 hfirst
    exact .inr ⟨slot, text, error, hrejects⟩

theorem reported_iff_of_rejects (h : o.Rejects slot text error) :
    o.Reported ↔ ¬ error.IsLimit := by
  have hfails := ofOptions_of_rejects h
  constructor
  · rintro (⟨p, hp⟩ | ⟨slot', text', error', cause, pos, -, hbad⟩)
    · rw [hfails] at hp
      cases hp
    · rw [hfails] at hbad
      injection hbad with hbad
      exact (Slot.failure_eq_badPattern_iff.1 ⟨cause, pos, hbad⟩).1
  · intro hlimit
    obtain ⟨cause, pos, hbad⟩ := Slot.failure_eq_badPattern_iff.2 ⟨hlimit, rfl, rfl⟩
    exact .inr ⟨slot, text, error, cause, pos, h, by rw [hfails, hbad]⟩

theorem not_reported_of_limit (error : Regex.Error)
    (h : Slot.firstFailure? o.texts = some (.patternLimit error)) : ¬ o.Reported := by
  obtain ⟨slot, text, error', hrejects, hfailure⟩ := firstFailure?_eq_some_iff.1 h
  rw [reported_iff_of_rejects hrejects, not_not]
  cases error' with
  | invalid cause pos => cases hfailure
  | repeatTooLarge => trivial
  | countTooLong digits => trivial
  | codeTooLarge => trivial
  | clashingFlags => trivial

theorem reported_of_rejects_not_isLimit
    (h : ∀ slot text error, o.Rejects slot text error → ¬ error.IsLimit) : o.Reported := by
  rcases ofOptions_ok_or_rejects o with hok | ⟨slot, text, error, hrejects⟩
  · exact .inl ⟨_, hok⟩
  · exact (reported_iff_of_rejects hrejects).2 (h slot text error hrejects)

/-- All options with plain texts either give patterns or are refused for the first text that does
not compile. In general this is so exactly if that text does not run into a limit; the failure is
always the one of that text. That groups may nest too deeply to be compiled is left out. -/
theorem bad_pattern_reported_iff (o : RuleOptions) :
    ((∀ e ∈ o.texts, Regex.Plain e.2) → o.Reported) ∧
      (o.Reported ↔ ∀ slot text error, o.Rejects slot text error → ¬ error.IsLimit) ∧
      ∀ f, PatternSet.ofOptions o = .error f ↔
        ∃ slot text error, o.Rejects slot text error ∧ slot.failure text error = f := by
  refine ⟨fun hplain => ?_, ⟨fun h slot text error hrejects => ?_, ?_⟩, fun f => ?_⟩
  · apply reported_of_rejects_not_isLimit
    intro slot text error hrejects
    have hrefused := hrejects.refused
    rw [hrejects.patternText_eq] at hrefused
    exact (hplain _ hrejects.mem_texts).not_isLimit hrefused
  · exact (reported_iff_of_rejects hrejects).1 h
  · exact reported_of_rejects_not_isLimit
  · rw [← firstFailure?_eq_some_iff, PatternSet.ofOptions_eq]
    cases Slot.firstFailure? o.texts <;> simp

theorem bad_pattern_reported_iff_sample :
    let o : RuleOptions := ⟨some "", some "[A-Z]+Service", some "(os", some "["⟩
    o.Reported ∧ PatternSet.ofOptions o =
      .error (.badPattern "forbidden-imports-regexp" "(os" .unterminatedGroup (some 0)) := by
  intro o
  obtain ⟨hplain, -, hfailure⟩ := bad_pattern_reported_iff o
  refine ⟨hplain ?_, (hfailure _).2 (firstFailure?_eq_some_iff.1 ?_)⟩
  · decide +kernel
  · decide +kernel

/-- A repeat count, a character code and switches that patterns cannot hold. -/
theorem limit_not_reported :
    let o (text : String) : RuleOptions := ⟨some "", some "", some text, some ""⟩
    ¬ (o "x\x7b4294967295\x7d").Reported ∧ ¬ (o "\\UFFFFFFFF").Reported ∧
      ¬ (o "(?a)(?u)x").Reported := by
  intro o
  refine ⟨not_reported_of_limit .repeatTooLarge ?_, not_reported_of_limit .codeTooLarge ?_,
    not_reported_of_limit .clashingFlags ?_⟩
  · decide +kernel
  · decide +kernel
  · decide +kernel

end RuleOptions

end ImportGuard
