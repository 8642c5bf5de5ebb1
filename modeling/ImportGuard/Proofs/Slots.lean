import ImportGuard.Proofs.Compilation
import Mathlib.Data.List.Induction

namespace ImportGuard

open Regex (Pattern)

/-- Setting the slot to the text does not fail. -/
def Slot.Accepts (slot : Slot) : Option String → Prop
  | none => True
  | some text => slot.Compiles text

/-- The pattern is that of the text, and there is none without a text. -/
def Slot.Yields (slot : Slot) (text : Option String) (pattern : Option Pattern) : Prop :=
  Option.Rel (fun text pattern => Pattern.compile (slot.patternText text) = .ok pattern) text pattern

namespace PatternSet

variable {p q : PatternSet} {slot : Slot} {text : Option String}

theorem get_put (p : PatternSet) (pattern : Option Pattern) (slot slot' : Slot) :
    (p.put pattern slot).get slot' = if slot' = slot then pattern else p.get slot' := by
  cases slot <;> cases slot' <;> rfl

theorem get_empty (slot : Slot) : ({} : PatternSet).get slot = none := by
  cases slot <;> rfl

theorem ext_get (h : ∀ slot, p.get slot = q.get slot) : p = q := by
  obtain ⟨package, className, forbid, exclude⟩ := p
  congr 1
  · exact h .package
  · exact h .className
  · exact h .forbid
  · exact h .exclude

theorem isComplete_iff (p : PatternSet) : p.isComplete ↔ ∀ slot, (p.get slot).isSome := by
  simp only [isComplete, Bool.and_eq_true]
  constructor
  · rintro ⟨⟨⟨hpackage, hclass⟩, hforbid⟩, hexclude⟩ slot
    cases slot with
    | package => exact hpackage
    | className => exact hclass
    | forbid => exact hforbid
    | exclude => exact hexclude
  · intro h
    exact ⟨⟨⟨h .package, h .className⟩, h .forbid⟩, h .exclude⟩

/-- Sets a slot to a text. If that fails the set is kept. -/
def trySet (p : PatternSet) (call : Slot × Option String) : PatternSet :=
  match p.set call.1 call.2 with
  | .ok q => q
  | .error _ => p

theorem set_eq_map (p : PatternSet) (slot : Slot) (text : Option String) :
    p.set slot text = (compile slot text).map (p.put · slot) := rfl

theorem compile_of_accepts (h : slot.Accepts text) :
    ∃ pattern, compile slot text = .ok pattern ∧ slot.Yields text pattern := by
  cases text with
  | none => exact ⟨none, compile_none slot, .none⟩
  | some text =>
    obtain ⟨pattern, hpattern⟩ := h
    refine ⟨some pattern, ?_, .some hpattern⟩
    rw [compile_some, hpattern]

theorem compile_of_not_accepts (h : ¬ slot.Accepts text) :
    ∃ failure, compile slot text = .error failure := by
  cases text with
  | none => exact absurd trivial h
  | some text =>
    rw [compile_some]
    cases hcompile : Pattern.compile (slot.patternText text) with
    | ok pattern => exact absurd ⟨pattern, hcompile⟩ h
    | error error => exact ⟨_, rfl⟩

theorem set_ok_iff (p : PatternSet) : (∃ q, p.set slot text = .ok q) ↔ slot.Accepts text := by
  rw [set_eq_map]
  by_cases haccepts : slot.Accepts text
  · obtain ⟨pattern, hcompile, -⟩ := compile_of_accepts haccepts
    rw [hcompile]
    exact iff_of_true ⟨_, rfl⟩ haccepts
  · obtain ⟨failure, hcompile⟩ := compile_of_not_accepts haccepts
    rw [hcompile]
    apply iff_of_false _ haccepts
    rintro ⟨q, ⟨⟩⟩

theorem trySet_of_accepts (h : slot.Accepts text) :
    ∃ pattern, slot.Yields text pattern ∧ ∀ p, trySet p (slot, text) = p.put pattern slot := by
  obtain ⟨pattern, hcompile, hyields⟩ := compile_of_accepts h
  refine ⟨pattern, hyields, ?_⟩
  intro p
  rw [trySet, set_eq_map, hcompile]
  rfl

theorem trySet_of_not_accepts (h : ¬ slot.Accepts text) (p : PatternSet) :
    p.trySet (slot, text) = p := by
  obtain ⟨failure, hcompile⟩ := compile_of_not_accepts h
  rw [trySet, set_eq_map, hcompile]
  rfl

theorem get_trySet_of_ne {call : Slot × Option String} (h : slot ≠ call.1) (p : PatternSet) :
    (p.trySet call).get slot = p.get slot := by
  by_cases haccepts : call.1.Accepts call.2
  · obtain ⟨pattern, -, hset⟩ := trySet_of_accepts haccepts
    rw [hset, get_put, if_neg h]
  · rw [trySet_of_not_accepts haccepts]

/-- What becomes of a slot hangs only on what it held before. -/
theorem get_trySet_congr (h : p.get slot = q.get slot) (call : Slot × Option String) :
    (p.trySet call).get slot = (q.trySet call).get slot := by
  by_cases hslot : slot = call.1
  · by_cases haccepts : call.1.Accepts call.2
    · obtain ⟨pattern, -, hset⟩ := trySet_of_accepts haccepts
      rw [hset, hset, get_put, get_put, if_pos hslot, if_pos hslot]
    · rw [trySet_of_not_accepts haccepts, trySet_of_not_accepts haccepts, h]
  · rw [get_trySet_of_ne hslot, get_trySet_of_ne hslot, h]

/-- Sets slots to texts one after the other, from the empty set. -/
def setAll (calls : List (Slot × Option String)) : PatternSet := calls.foldl trySet {}

/-- The last text for the slot that was accepted yields the pattern, and there is no pattern if none
was accepted. -/
def LastYields (slot : Slot) (calls : List (Slot × Option String)) (pattern : Option Pattern) :
    Prop :=
  ((∀ text, (slot, text) ∈ calls → ¬ slot.Accepts text) ∧ pattern = none) ∨
    ∃ before text after, calls = before ++ (slot, text) :: after ∧ slot.Accepts text ∧
      (∀ later, (slot, later) ∈ after → ¬ slot.Accepts later) ∧ slot.Yields text pattern

variable {calls : List (Slot × Option String)} {call : Slot × Option String}

theorem setAll_snoc (calls : List (Slot × Option String)) (call : Slot × Option String) :
    setAll (calls ++ [call]) = (setAll calls).trySet call := by
  rw [setAll, List.foldl_append]
  rfl

/-- A text for another slot, or one that is not accepted, leaves the last one as it is. -/
theorem LastYields.snoc {pattern : Option Pattern} (h : LastYields slot calls pattern)
    (hcall : call.1 = slot → ¬ slot.Accepts call.2) : LastYields slot (calls ++ [call]) pattern := by
  have hlater {text : Option String} {rest : List (Slot × Option String)}
      (hrest : ∀ text, (slot, text) ∈ rest → ¬ slot.Accepts text)
      (hmem : (slot, text) ∈ rest ++ [call]) : ¬ slot.Accepts text := by
    rcases List.mem_append.1 hmem with hmem | hmem
    · exact hrest text hmem
    · obtain rfl := List.mem_singleton.1 hmem
      exact hcall rfl
  rcases h with ⟨hnone, hpattern⟩ | ⟨before, text, after, rfl, haccepts, hafter, hyields⟩
  · exact .inl ⟨fun text hmem => hlater hnone hmem, hpattern⟩
  · refine .inr ⟨before, text, after ++ [call], ?_, haccepts, ?_, hyields⟩
    · rw [List.append_assoc, List.cons_append]
    · intro later hmem
      exact hlater hafter hmem

theorem lastYields_setAll (slot : Slot) (calls : List (Slot × Option String)) :
    LastYields slot calls ((setAll calls).get slot) := by
  induction calls using List.reverseRecOn with
  | nil => exact .inl ⟨fun text hmem => absurd hmem List.not_mem_nil, get_empty slot⟩
  | append_singleton calls call ih =>
    obtain ⟨slot', text⟩ := call
    rw [setAll_snoc]
    by_cases haccepts : slot' = slot ∧ slot'.Accepts text
    · obtain ⟨rfl, haccepts⟩ := haccepts
      obtain ⟨pattern, hyields, hset⟩ := trySet_of_accepts haccepts
      refine .inr ⟨calls, text, [], rfl, haccepts, ?_, ?_⟩
      · intro later hmem
        exact absurd hmem List.not_mem_nil
      · rw [hset, get_put, if_pos rfl]
        exact hyields
    · have hkept : ((setAll calls).trySet (slot', text)).get slot = (setAll calls).get slot := by
        by_cases hslot : slot' = slot
        · subst hslot
          rw [trySet_of_not_accepts fun h => haccepts ⟨rfl, h⟩]
        · exact get_trySet_of_ne (Ne.symm hslot) _
      rw [hkept]
      apply ih.snoc
      rintro rfl h
      exact haccepts ⟨rfl, h⟩

/-- A slot is decided by the texts for it. -/
theorem get_setAll_filter (slot : Slot) (calls : List (Slot × Option String)) :
    (setAll calls).get slot = (setAll (calls.filter (·.1 = slot))).get slot := by
  induction calls using List.reverseRecOn with
  | nil => rfl
  | append_singleton calls call ih =>
    rw [setAll_snoc, List.filter_append]
    by_cases hslot : call.1 = slot
    · rw [List.filter_singleton, decide_eq_true hslot, cond_true, setAll_snoc]
      exact get_trySet_congr ih call
    · rw [List.filter_singleton, decide_eq_false hslot, cond_false, List.append_nil, ← ih]
      exact get_trySet_of_ne (Ne.symm hslot) _

theorem setAll_congr {calls' : List (Slot × Option String)}
    (h : ∀ slot, calls'.filter (·.1 = slot) = calls.filter (·.1 = slot)) :
    setAll calls' = setAll calls := by
  apply ext_get
  intro slot
  rw [get_setAll_filter, h, ← get_setAll_filter]

theorem setAll_erase_refused (before after : List (Slot × Option String))
    (h : ¬ call.1.Accepts call.2) : setAll (before ++ call :: after) = setAll (before ++ after) := by
  rw [setAll, setAll, List.foldl_append, List.foldl_append, List.foldl_cons,
    trySet_of_not_accepts h]

/-- Sets some slots to the texts that options have for them. -/
def callsOf (o : RuleOptions) (slots : List Slot) : List (Slot × Option String) :=
  slots.map fun slot => (slot, o.get slot)

/-- Without keeping the set on failures, all texts have to be accepted. -/
theorem foldlM_set_eq_ok_iff (calls : List (Slot × Option String)) (p q : PatternSet) :
    calls.foldlM (fun (p : PatternSet) call => p.set call.1 call.2) p = .ok q ↔
      (∀ call ∈ calls, call.1.Accepts call.2) ∧ calls.foldl trySet p = q := by
  induction calls generalizing p with
  | nil => simp [pure, Except.pure]
  | cons call calls ih =>
    obtain ⟨slot, text⟩ := call
    rw [List.foldlM_cons, List.foldl_cons, List.forall_mem_cons]
    by_cases haccepts : slot.Accepts text
    · obtain ⟨pattern, hcompile, -⟩ := compile_of_accepts haccepts
      have hset : p.set slot text = .ok (p.trySet (slot, text)) := by
        rw [trySet, set_eq_map, hcompile]
        rfl
      rw [hset, and_iff_right haccepts]
      exact ih (p.trySet (slot, text))
    · obtain ⟨failure, hcompile⟩ := compile_of_not_accepts haccepts
      apply iff_of_false
      · rw [set_eq_map, hcompile]
        rintro ⟨⟩
      · rintro ⟨⟨h, -⟩, -⟩
        exact haccepts h

theorem filter_callsOf (o : RuleOptions) {slots : List Slot} (hslots : slots.Perm Slot.all)
    (slot : Slot) : (callsOf o slots).filter (·.1 = slot) = [(slot, o.get slot)] := by
  have hcount : slots.count slot = 1 := by
    rw [hslots.count_eq]
    cases slot <;> rfl
  have hfilter : slots.filter (· = slot) = [slot] := by
    rw [List.filter_eq, hcount, List.replicate_one]
  rw [callsOf, List.filter_map]
  change List.map _ (slots.filter (· = slot)) = _
  rw [hfilter, List.map_singleton]

theorem ofOptions_eq_ok_iff (o : RuleOptions) (p : PatternSet) {slots : List Slot}
    (hslots : slots.Perm Slot.all) :
    ofOptions o = .ok p ↔
      (∀ slot : Slot, slot.Accepts (o.get slot)) ∧ setAll (callsOf o slots) = p := by
  have hofOptions : ofOptions o = (callsOf o Slot.all).foldlM
      (fun (p : PatternSet) call => p.set call.1 call.2) {} := by
    rw [ofOptions_eq_foldlM, callsOf, List.foldlM_map]
  have hsetAll : setAll (callsOf o slots) = setAll (callsOf o Slot.all) := by
    apply setAll_congr
    intro slot
    rw [filter_callsOf o hslots, filter_callsOf o (.refl _)]
  have haccepts : (∀ call ∈ callsOf o Slot.all, call.1.Accepts call.2) ↔
      ∀ slot : Slot, slot.Accepts (o.get slot) := by
    simp only [callsOf, List.forall_mem_map, Slot.mem_all, true_imp_iff]
  rw [hofOptions, foldlM_set_eq_ok_iff, haccepts, hsetAll, setAll]

/-- Texts are given to slots in any order and number, and those that are not accepted are passed
over. Each slot ends with the pattern of the last text for it that was accepted; neither the texts
that were not, nor those for other slots, nor the order between slots make a difference. A set is
complete if every slot has a pattern, and the patterns of options are those of their texts set in
any order. -/
theorem slots_independent (calls : List (Slot × Option String)) :
    (∀ (p : PatternSet) slot text, (∃ q, p.set slot text = .ok q) ↔ slot.Accepts text) ∧
    (∀ slot, LastYields slot calls ((setAll calls).get slot)) ∧
    (∀ slot, (setAll calls).get slot = (setAll (calls.filter (·.1 = slot))).get slot) ∧
    (∀ before call after, calls = before ++ call :: after → ¬ call.1.Accepts call.2 →
      setAll calls = setAll (before ++ after)) ∧
    (∀ calls' : List (Slot × Option String),
      (∀ slot, calls'.filter (·.1 = slot) = calls.filter (·.1 = slot)) →
      setAll calls' = setAll calls) ∧
    (∀ p : PatternSet, p.isComplete ↔ ∀ slot, ∃ pattern, p.get slot = some pattern) ∧
    ∀ (o : RuleOptions) (p : PatternSet) (slots : List Slot), slots.Perm Slot.all →
      (ofOptions o = .ok p ↔
        (∀ slot : Slot, slot.Accepts (o.get slot)) ∧ setAll (callsOf o slots) = p) := by
  refine ⟨fun p slot text => set_ok_iff p, fun slot => lastYields_setAll slot calls,
    fun slot => get_setAll_filter slot calls, ?_, fun calls' => setAll_congr, ?_,
    fun o p slots => ofOptions_eq_ok_iff o p⟩
  · rintro before call after rfl
    exact setAll_erase_refused before after
  · intro p
    simp only [isComplete_iff, Option.isSome_iff_exists]

theorem slots_independent_sample :
    let calls : List (Slot × Option String) := [(.forbid, some "os"), (.package, some "("),
      (.package, some "app"), (.exclude, some "x"), (.forbid, some "["), (.className, some ""),
      (.exclude, none)]
    let calls' : List (Slot × Option String) := [(.exclude, some "x"), (.package, some "("),
      (.forbid, some "os"), (.forbid, some "["), (.exclude, none), (.className, some ""),
      (.package, some "app")]
    let o : RuleOptions := ⟨some "app", some "", some "os", none⟩
    setAll calls' = setAll calls ∧ setAll calls = setAll (calls.eraseIdx 1) ∧
      (setAll calls).sources = [some "app", some ".*", some "os", none] ∧
      ofOptions o = .ok (setAll (callsOf o [.exclude, .className, .forbid, .package])) := by
  intro calls calls' o
  obtain ⟨-, -, -, herase, hreorder, -, hoptions⟩ := slots_independent calls
  have hsame : ∀ slot, calls'.filter (·.1 = slot) = calls.filter (·.1 = slot) := by
    intro slot
    cases slot <;> rfl
  have hrefused : ¬ Slot.package.Accepts (some "(") := by
    rw [Slot.Accepts, ← Slot.failure?_eq_none_iff]
    decide +kernel
  have haccepts : ∀ slot : Slot, slot.Accepts (o.get slot) := by
    intro slot
    cases slot with
    | exclude => trivial
    | package => exact Slot.failure?_eq_none_iff.1 (by decide +kernel)
    | className => exact Slot.failure?_eq_none_iff.1 (by decide +kernel)
    | forbid => exact Slot.failure?_eq_none_iff.1 (by decide +kernel)
  refine ⟨hreorder calls' hsame, herase [_] _ _ rfl hrefused, ?_, ?_⟩
  · decide +kernel
  · exact (hoptions o _ _ (by decide)).2 ⟨haccepts, rfl⟩

end PatternSet

end ImportGuard
