import ImportGuard.Config
import ImportGuard.Proofs.Compilation
import Mathlib.Data.List.Forall2
import Mathlib.Data.List.Induction

namespace ImportGuard

namespace Slot

/-- The key is a name of the option: the one with capitals, or the one with low lines, for which
hyphens may stand. -/
def SpelledBy (slot : Slot) (key : String) : Prop :=
  key = slot.camelName ∨ (key.map fun c => if c = '-' then '_' else c) = slot.fieldName

theorem map_eq_underscored (key : String) :
    (key.map fun c => if c = '-' then '_' else c) = underscored key := by
  rw [← String.toList_inj, String.toList_map, underscored, String.toList_ofList]

theorem camelName_inj {slot slot' : Slot} (h : slot.camelName = slot'.camelName) :
    slot = slot' := by
  revert h
  cases slot <;> cases slot' <;> decide

theorem fieldName_inj {slot slot' : Slot} (h : slot.fieldName = slot'.fieldName) :
    slot = slot' := by
  revert h
  cases slot <;> cases slot' <;> decide

theorem underscored_camelName_ne (slot slot' : Slot) :
    underscored slot.camelName ≠ slot'.fieldName := by
  cases slot <;> cases slot' <;> decide +kernel

theorem SpelledBy.unique {slot slot' : Slot} {key : String} (h : slot.SpelledBy key)
    (h' : slot'.SpelledBy key) : slot = slot' := by
  rw [SpelledBy, map_eq_underscored] at h h'
  rcases h with rfl | h
  · rcases h' with h' | h'
    · exact camelName_inj h'
    · exact absurd h' (underscored_camelName_ne slot slot')
  · rcases h' with rfl | h'
    · exact absurd h (underscored_camelName_ne slot' slot)
    · exact fieldName_inj (h.symm.trans h')

theorem ofKey?_eq_some_iff {slot : Slot} {key : String} :
    ofKey? key = some slot ↔ slot.SpelledBy key := by
  have hspelled (slot : Slot) :
      (key == slot.camelName || underscored key == slot.fieldName) = true ↔
        slot.SpelledBy key := by
    rw [SpelledBy, map_eq_underscored, Bool.or_eq_true, beq_iff_eq, beq_iff_eq]
  constructor
  · intro h
    have hfound := List.find?_some h
    exact (hspelled slot).1 hfound
  · intro h
    cases hfirst : ofKey? key with
    | none => exact absurd ((hspelled slot).2 h) (List.find?_eq_none.1 hfirst slot slot.mem_all)
    | some slot' =>
      have hfound := List.find?_some hfirst
      rw [((hspelled slot').1 hfound).unique h]

end Slot

namespace Value

def Spells (key : Value) (slot : Slot) : Prop := ∃ name, key = .text name ∧ slot.SpelledBy name

def IsOption (key : Value) : Prop := ∃ slot, key.Spells slot

theorem ofValue?_eq_some_iff {key : Value} {slot : Slot} :
    Slot.ofValue? key = some slot ↔ key.Spells slot := by
  cases key with
  | text name => simp [Slot.ofValue?, Spells, Slot.ofKey?_eq_some_iff]
  | _ => simp [Slot.ofValue?, Spells]

theorem isSome_ofValue?_iff {key : Value} : (Slot.ofValue? key).isSome ↔ key.IsOption := by
  simp only [Option.isSome_iff_exists, ofValue?_eq_some_iff, IsOption]

instance (key : Value) : Decidable key.IsOption := decidable_of_iff _ isSome_ofValue?_iff

theorem sameKey_text {key : Value} {name : String} :
    key.sameKey (.text name) = true ↔ key = .text name := by
  have hnone : (text name).integer? = none := rfl
  cases key with
  | text s => simp [sameKey, integer?]
  | float x =>
    simp only [sameKey, hnone]
    cases (float x).integer? <;> simp
  | _ => simp [sameKey, integer?]

theorem not_isOption_rules : ¬ (text "rules").IsOption := by
  rw [← isSome_ofValue?_iff]
  decide +kernel

end Value

namespace RuleOptions

theorem get_put (o : RuleOptions) (text : String) (slot slot' : Slot) :
    (o.put text slot).get slot' = if slot' = slot then some text else o.get slot' := by
  cases slot <;> cases slot' <;> rfl

theorem get_empty (slot : Slot) : ({} : RuleOptions).get slot = slot.default := by
  cases slot <;> rfl

end RuleOptions

theorem exists_first {α : Type} {p : α → Prop} {l : List α} (h : ∃ x ∈ l, p x) :
    ∃ before x after, l = before ++ x :: after ∧ (∀ y ∈ before, ¬ p y) ∧ p x := by
  induction l with
  | nil =>
    obtain ⟨x, hx, -⟩ := h
    cases hx
  | cons a l ih =>
    by_cases ha : p a
    · exact ⟨[], a, l, rfl, List.forall_mem_nil _, ha⟩
    · have hrest : ∃ x ∈ l, p x := by simpa [ha] using h
      obtain ⟨before, x, after, rfl, hbefore, hx⟩ := ih hrest
      exact ⟨a :: before, x, after, rfl, List.forall_mem_cons.2 ⟨ha, hbefore⟩, hx⟩

namespace Config

/-- The key sets an option, and the value is no text. -/
def Faulty (e : Value × Value) : Prop := e.1.IsOption ∧ ∀ text, e.2 ≠ .text text

def FirstFaulty (t : Table) (e : Value × Value) : Prop :=
  ∃ before after, t = before ++ e :: after ∧ (∀ x ∈ before, ¬ Faulty x) ∧ Faulty e

/-- The value is a table without faults. -/
def Sound (v : Value) : Prop := ∃ u, v = .table u ∧ ∀ e ∈ u, ¬ Faulty e

/-- The entries under `rules`; there are none if the key is missing. -/
def Entries (t : Table) (entries : List Value) : Prop :=
  t.get? "rules" = some (.list entries) ∨ t.get? "rules" = none ∧ entries = []

inductive EntryFault (index : Nat) : Value → ConfigError → Prop
  | shape {v : Value} (h : ∀ u, v ≠ .table u) : EntryFault index v (.ruleNotTable index)
  | key {u : Table} {e : Value × Value} (h : FirstFaulty u e) :
    EntryFault index (.table u) (.notText (entryPlace index) e.1.display e.2.kindName)

/-- Reading the table stops with an error after some entries, which are the ones passed. -/
inductive Stops (t : Table) : List Value → ConfigError → Prop
  | rules {v : Value} (hrules : t.get? "rules" = some v) (hv : ∀ entries, v ≠ .list entries) :
    Stops t [] .rulesNotList
  | entry {passed rest : List Value} {v : Value} {error : ConfigError}
    (hrules : t.get? "rules" = some (.list (passed ++ v :: rest)))
    (hpassed : ∀ w ∈ passed, Sound w) (hv : EntryFault passed.length v error) :
    Stops t passed error
  | top {entries : List Value} {e : Value × Value} (hrules : Entries t entries)
    (hentries : ∀ w ∈ entries, Sound w) (he : FirstFaulty t e) :
    Stops t entries (.notText topPlace e.1.display e.2.kindName)

/-- The options that a table gives: for each slot the text under the last key that spells it. -/
def Reads (t : Table) (o : RuleOptions) : Prop :=
  ∀ slot,
    (∃ before key text after, t = before ++ (key, .text text) :: after ∧ key.Spells slot ∧
      (∀ e ∈ after, ¬ e.1.Spells slot) ∧ o.get slot = some text) ∨
    ((∀ e ∈ t, ¬ e.1.Spells slot) ∧ o.get slot = slot.default)

def warnings (place : String) (t : Table) : List Event :=
  (t.filter fun e => ¬ e.1.IsOption).map fun e => .unknownKey e.1.display place

/-- The warnings about entries, the first of which has the given index. -/
def entryWarnings (index : Nat) (entries : List Value) : List Event :=
  (entries.zipIdx index).flatMap fun e => match e.1 with
    | .table u => warnings (entryPlace e.2) u
    | _ => []

variable {t : Table} {e : Value × Value} {v : Value} {place : String} {index : Nat}
  {passed entries rest : List Value} {error : ConfigError}

def assign (o : RuleOptions) (e : Value × Value) : RuleOptions :=
  match Slot.ofValue? e.1, e.2 with
  | some slot, .text text => o.put text slot
  | _, _ => o

theorem get_assign (he : ¬ Faulty e) (o : RuleOptions) (slot : Slot) :
    (∃ text, e.1.Spells slot ∧ e.2 = .text text ∧ (assign o e).get slot = some text) ∨
      (¬ e.1.Spells slot ∧ (assign o e).get slot = o.get slot) := by
  obtain ⟨key, value⟩ := e
  rw [← Value.ofValue?_eq_some_iff]
  cases hkey : Slot.ofValue? key with
  | none => exact .inr ⟨by simp, by simp only [assign, hkey]⟩
  | some slot' =>
    have hoption : key.IsOption := ⟨slot', Value.ofValue?_eq_some_iff.1 hkey⟩
    obtain ⟨text, rfl⟩ : ∃ text, value = .text text := by
      by_contra hno
      exact he ⟨hoption, fun text htext => hno ⟨text, htext⟩⟩
    have hassign : assign o (key, .text text) = o.put text slot' := by simp only [assign, hkey]
    rw [hassign, RuleOptions.get_put]
    by_cases hslot : slot = slot'
    · exact .inl ⟨text, by rw [hslot], rfl, if_pos hslot⟩
    · exact .inr ⟨by simpa using Ne.symm hslot, if_neg hslot⟩

theorem assign_of_not_isOption (he : ¬ e.1.IsOption) (o : RuleOptions) : assign o e = o := by
  have hnone : Slot.ofValue? e.1 = none := by
    rw [← Option.not_isSome_iff_eq_none, Value.isSome_ofValue?_iff]
    exact he
  simp only [assign, hnone]

theorem readOptions_cons (he : ¬ Faulty e) (t : Table) (o : RuleOptions) :
    readOptions place (e :: t) o = readOptions place t (assign o e) := by
  obtain ⟨key, value⟩ := e
  rw [readOptions]
  cases hkey : Slot.ofValue? key with
  | none => simp only [assign, hkey]
  | some slot =>
    have hoption : key.IsOption := ⟨slot, Value.ofValue?_eq_some_iff.1 hkey⟩
    cases value with
    | text text => simp only [assign, hkey]
    | _ => exact absurd ⟨hoption, fun text htext => nomatch htext⟩ he

theorem readOptions_append {before : Table} (hbefore : ∀ e ∈ before, ¬ Faulty e) (t : Table)
    (o : RuleOptions) :
    readOptions place (before ++ t) o = readOptions place t (before.foldl assign o) := by
  induction before generalizing o with
  | nil => rfl
  | cons e before ih =>
    obtain ⟨he, hrest⟩ := List.forall_mem_cons.1 hbefore
    rw [List.cons_append, readOptions_cons he, ih hrest, List.foldl_cons]

theorem readOptions_sound (ht : ∀ e ∈ t, ¬ Faulty e) (o : RuleOptions) :
    readOptions place t o = .ok (t.foldl assign o) := by
  have happend : readOptions place (t ++ []) o = _ := readOptions_append ht [] o
  rwa [List.append_nil] at happend

theorem readOptions_firstFaulty (h : FirstFaulty t e) (o : RuleOptions) :
    readOptions place t o = .error (.notText place e.1.display e.2.kindName) := by
  obtain ⟨before, after, rfl, hbefore, ⟨slot, hslot⟩, htext⟩ := h
  obtain ⟨key, value⟩ := e
  rw [readOptions_append hbefore, readOptions, Value.ofValue?_eq_some_iff.2 hslot]
  cases value with
  | text text => exact absurd rfl (htext text)
  | _ => rfl

/-- Keys that set no option can be left out. -/
theorem readOptions_filter {p : Value × Value → Bool} (hp : ∀ e ∈ t, e.1.IsOption → p e)
    (o : RuleOptions) : readOptions place (t.filter p) o = readOptions place t o := by
  induction t generalizing o with
  | nil => rfl
  | cons e t ih =>
    obtain ⟨he, ht⟩ := List.forall_mem_cons.1 hp
    have hrest := ih ht
    by_cases hoption : e.1.IsOption
    · rw [List.filter_cons_of_pos (he hoption)]
      by_cases hfaulty : Faulty e
      · have hfirst (u : Table) : FirstFaulty (e :: u) e :=
          ⟨[], u, rfl, List.forall_mem_nil _, hfaulty⟩
        rw [readOptions_firstFaulty (hfirst _), readOptions_firstFaulty (hfirst _)]
      · rw [readOptions_cons hfaulty, readOptions_cons hfaulty, hrest]
    · have hsound : ¬ Faulty e := fun h => hoption h.1
      have hsame := assign_of_not_isOption hoption o
      rw [readOptions_cons hsound, hsame, ← hrest, List.filter_cons]
      split
      · rw [readOptions_cons hsound, hsame]
      · rfl

theorem reads_foldl (ht : ∀ e ∈ t, ¬ Faulty e) : Reads t (t.foldl assign {}) := by
  -- From the end: the last pair decides its own slot and leaves the others to the pairs before it.
  induction t using List.reverseRecOn with
  | nil =>
    intro slot
    exact .inr ⟨List.forall_mem_nil _, RuleOptions.get_empty slot⟩
  | append_singleton t e ih =>
    obtain ⟨ht, he⟩ := List.forall_mem_append.1 ht
    intro slot
    rw [List.foldl_append, List.foldl_cons, List.foldl_nil]
    rcases get_assign (he e List.mem_cons_self) (t.foldl assign {}) slot with
      ⟨text, hspells, htext, hget⟩ | ⟨hspells, hget⟩
    · refine .inl ⟨t, e.1, text, [], ?_, hspells, List.forall_mem_nil _, hget⟩
      rw [← htext]
    · rw [hget]
      rcases ih ht slot with ⟨before, key, text, after, rfl, hkey, hafter, htext⟩ | ⟨hnone, htext⟩
      · refine .inl ⟨before, key, text, after ++ [e], ?_, hkey, ?_, htext⟩
        · rw [List.append_assoc, List.cons_append]
        · exact List.forall_mem_append.2 ⟨hafter, by simpa using hspells⟩
      · exact .inr ⟨List.forall_mem_append.2 ⟨hnone, by simpa using hspells⟩, htext⟩

theorem unknownKeys_eq (place : String) (t : Table) : unknownKeys place t = warnings place t := by
  rw [unknownKeys, warnings]
  congr 2
  funext e
  rw [Bool.eq_iff_iff, Option.isNone_iff_eq_none, ← Option.not_isSome_iff_eq_none,
    Value.isSome_ofValue?_iff, decide_eq_true_iff]

/-- The options of an entry without faults. -/
def entryOptions : Value → RuleOptions
  | .table u => u.foldl assign {}
  | _ => {}

theorem entryWarnings_cons (index : Nat) (u : Table) (entries : List Value) :
    entryWarnings index (.table u :: entries) =
      warnings (entryPlace index) u ++ entryWarnings (index + 1) entries := by
  rw [entryWarnings, List.zipIdx_cons, List.flatMap_cons]
  rfl

theorem loadEntries_append (hpassed : ∀ w ∈ passed, Sound w) (index : Nat) (rest : List Value) :
    loadEntries index (passed ++ rest) =
      let more := loadEntries (index + passed.length) rest
      ⟨entryWarnings index passed ++ more.events,
        more.result.map (passed.map entryOptions ++ ·)⟩ := by
  induction passed generalizing index with
  | nil =>
    cases hmore : loadEntries index rest with
    | mk events result => cases result <;> simp [entryWarnings, hmore, Except.map]
  | cons v passed ih =>
    obtain ⟨⟨u, rfl, hu⟩, hrest⟩ := List.forall_mem_cons.1 hpassed
    have hindex : index + 1 + passed.length = index + (passed.length + 1) := by omega
    simp only [List.cons_append, loadEntries, readOptions_sound hu, ih hrest, unknownKeys_eq,
      entryWarnings_cons, List.length_cons, hindex, List.append_assoc, List.map_cons, entryOptions]
    cases (loadEntries (index + (passed.length + 1)) rest).result <;> rfl

theorem loadEntries_fault (h : EntryFault index v error) (rest : List Value) :
    loadEntries index (v :: rest) = ⟨[], .error error⟩ := by
  cases h with
  | shape hv =>
    cases v with
    | table u => exact absurd rfl (hv u)
    | _ => rfl
  | key hfirst => rw [loadEntries, readOptions_firstFaulty hfirst]

theorem exists_entryFault (hv : ¬ Sound v) (index : Nat) : ∃ error, EntryFault index v error := by
  by_cases htable : ∃ u, v = .table u
  · obtain ⟨u, rfl⟩ := htable
    have hfaulty : ∃ e ∈ u, Faulty e := by
      by_contra hno
      exact hv ⟨u, rfl, fun e he hfault => hno ⟨e, he, hfault⟩⟩
    obtain ⟨before, e, after, hfirst⟩ := exists_first hfaulty
    exact ⟨_, .key ⟨before, after, hfirst⟩⟩
  · exact ⟨_, .shape fun u hu => htable ⟨u, hu⟩⟩

theorem loadEntries_sound (h : ∀ w ∈ entries, Sound w) (index : Nat) :
    loadEntries index entries =
      ⟨entryWarnings index entries, .ok (entries.map entryOptions)⟩ := by
  have happend := loadEntries_append h index []
  rw [List.append_nil] at happend
  simpa [loadEntries, Except.map] using happend

/-- The rule that the top level of a table without faults makes, if it makes one. -/
def topRule (t : Table) : List RuleOptions :=
  if ∃ e ∈ t, e.1.IsOption then [t.foldl assign {}] else []

theorem ne_rules_of_isOption {key : Value} (h : key.IsOption) : key ≠ .text "rules" := by
  rintro rfl
  exact Value.not_isOption_rules h

theorem mem_topLevel : e ∈ topLevel t ↔ e ∈ t ∧ e.1 ≠ .text "rules" := by
  rw [topLevel, List.mem_filter, Bool.not_eq_true', Bool.eq_false_iff, ne_eq, Value.sameKey_text]

theorem any_topLevel_iff :
    ((topLevel t).any fun e => (Slot.ofValue? e.1).isSome) = true ↔ ∃ e ∈ t, e.1.IsOption := by
  simp only [List.any_eq_true, mem_topLevel, Value.isSome_ofValue?_iff]
  constructor
  · rintro ⟨e, ⟨he, -⟩, hoption⟩
    exact ⟨e, he, hoption⟩
  · rintro ⟨e, he, hoption⟩
    exact ⟨e, ⟨he, ne_rules_of_isOption hoption⟩, hoption⟩

theorem readOptions_topLevel (place : String) (t : Table) (o : RuleOptions) :
    readOptions place (topLevel t) o = readOptions place t o := by
  apply readOptions_filter
  intro e he hoption
  exact (List.mem_filter.1 (mem_topLevel.2 ⟨he, ne_rules_of_isOption hoption⟩)).2

theorem loadTop_sound (ht : ∀ e ∈ t, ¬ Faulty e) :
    loadTop (topLevel t) = ⟨warnings topPlace (topLevel t), .ok (topRule t)⟩ := by
  rw [loadTop, topRule, readOptions_topLevel, readOptions_sound ht, unknownKeys_eq]
  by_cases hoption : ∃ e ∈ t, e.1.IsOption
  · rw [if_pos hoption, if_pos (any_topLevel_iff.2 hoption)]
  · rw [if_neg hoption, if_neg (mt any_topLevel_iff.1 hoption)]

theorem FirstFaulty.mem (h : FirstFaulty t e) : e ∈ t ∧ Faulty e := by
  obtain ⟨before, after, rfl, -, he⟩ := h
  exact ⟨by simp, he⟩

theorem loadTop_firstFaulty (h : FirstFaulty t e) :
    loadTop (topLevel t) = ⟨[], .error (.notText topPlace e.1.display e.2.kindName)⟩ := by
  obtain ⟨he, hoption, -⟩ := h.mem
  rw [loadTop, if_pos (any_topLevel_iff.2 ⟨e, he, hoption⟩), readOptions_topLevel,
    readOptions_firstFaulty h]

theorem Entries.load_eq (h : Entries t entries) :
    load t = match (loadEntries 0 entries).result with
      | .error error => ⟨(loadEntries 0 entries).events, .error error⟩
      | .ok rules =>
        ⟨(loadEntries 0 entries).events ++ (loadTop (topLevel t)).events,
          (loadTop (topLevel t)).result.map (rules ++ ·)⟩ := by
  rcases h with hrules | ⟨hrules, rfl⟩
  · rw [load, hrules]
    rfl
  · rw [load, hrules]
    rfl

theorem load_stops (h : Stops t passed error) :
    load t = ⟨entryWarnings 0 passed, .error error⟩ := by
  cases h with
  | rules hrules hv =>
    rename_i v
    rw [load, hrules, Option.getD_some]
    cases v with
    | list entries => exact absurd rfl (hv entries)
    | _ => rfl
  | entry hrules hpassed hv =>
    have hentries : Entries t _ := .inl hrules
    rw [hentries.load_eq, loadEntries_append hpassed, Nat.zero_add, loadEntries_fault hv]
    simp [Except.map]
  | top hrules hentries he =>
    rw [hrules.load_eq, loadEntries_sound hentries, loadTop_firstFaulty he]
    simp [Except.map]

theorem load_sound (hrules : Entries t entries) (hentries : ∀ w ∈ entries, Sound w)
    (ht : ∀ e ∈ t, ¬ Faulty e) :
    load t = ⟨entryWarnings 0 entries ++ warnings topPlace (topLevel t),
      .ok (entries.map entryOptions ++ topRule t)⟩ := by
  rw [hrules.load_eq, loadEntries_sound hentries, loadTop_sound ht]
  rfl

/-- A table either stops the reading somewhere or has no fault at all. -/
theorem stops_or_sound (t : Table) :
    (∃ passed error, Stops t passed error) ∨
      ∃ entries, Entries t entries ∧ (∀ w ∈ entries, Sound w) ∧ ∀ e ∈ t, ¬ Faulty e := by
  by_cases hlist : ∃ entries, Entries t entries
  · obtain ⟨entries, hrules⟩ := hlist
    by_cases hentries : ∀ w ∈ entries, Sound w
    · by_cases ht : ∃ e ∈ t, Faulty e
      · obtain ⟨before, e, after, hfirst⟩ := exists_first ht
        exact .inl ⟨_, _, .top hrules hentries ⟨before, after, hfirst⟩⟩
      · exact .inr ⟨entries, hrules, hentries, fun e he hfault => ht ⟨e, he, hfault⟩⟩
    · -- The first entry with a fault stops the reading, whatever comes after it.
      have hunsound : ∃ w ∈ entries, ¬ Sound w := by simpa using hentries
      obtain ⟨passed, v, rest, rfl, hpassed, hv⟩ := exists_first hunsound
      obtain ⟨error, herror⟩ := exists_entryFault hv passed.length
      rcases hrules with hrules | ⟨-, hnil⟩
      · exact .inl ⟨_, _, .entry hrules (fun w hw => not_not.1 (hpassed w hw)) herror⟩
      · simp at hnil
  · cases hrules : t.get? "rules" with
    | none => exact absurd ⟨[], .inr ⟨hrules, rfl⟩⟩ hlist
    | some v =>
      refine .inl ⟨_, _, .rules hrules ?_⟩
      rintro entries rfl
      exact hlist ⟨entries, .inl hrules⟩

theorem load_error_iff : (load t).result = .error error ↔ ∃ passed, Stops t passed error := by
  constructor
  · intro h
    rcases stops_or_sound t with ⟨passed, error', hstops⟩ | ⟨entries, hrules, hentries, ht⟩
    · rw [load_stops hstops] at h
      cases h
      exact ⟨passed, hstops⟩
    · rw [load_sound hrules hentries ht] at h
      cases h
  · rintro ⟨passed, hstops⟩
    rw [load_stops hstops]

theorem load_fails_iff :
    (∃ error, (load t).result = .error error) ↔
      (∃ v, t.get? "rules" = some v ∧ ∀ entries, v ≠ .list entries) ∨
      (∃ entries, t.get? "rules" = some (.list entries) ∧
        ∃ v ∈ entries, (∀ u, v ≠ .table u) ∨ ∃ u, v = .table u ∧ ∃ e ∈ u, Faulty e) ∨
      ∃ e ∈ t, e.1 ≠ .text "rules" ∧ Faulty e := by
  simp only [load_error_iff]
  constructor
  · rintro ⟨error, passed, hstops⟩
    cases hstops with
    | rules hrules hv => exact .inl ⟨_, hrules, hv⟩
    | entry hrules hpassed hfault =>
      refine .inr (.inl ⟨_, hrules, _, List.mem_append_right _ List.mem_cons_self, ?_⟩)
      cases hfault with
      | shape hv => exact .inl hv
      | key hfirst => exact .inr ⟨_, rfl, _, hfirst.mem⟩
    | top hrules hentries hfirst =>
      obtain ⟨he, hfaulty⟩ := hfirst.mem
      exact .inr (.inr ⟨_, he, ne_rules_of_isOption hfaulty.1, hfaulty⟩)
  · intro h
    rcases stops_or_sound t with ⟨passed, error, hstops⟩ | ⟨entries, hrules, hentries, ht⟩
    · exact ⟨error, passed, hstops⟩
    · exfalso
      rcases h with ⟨v, hv, hlist⟩ | ⟨others, hothers, v, hv, hfault⟩ | ⟨e, he, -, hfaulty⟩
      · rcases hrules with hrules | ⟨hrules, -⟩
        · exact hlist entries (Option.some.inj (hv.symm.trans hrules))
        · exact nomatch hv.symm.trans hrules
      · rcases hrules with hrules | ⟨hrules, -⟩
        · cases Option.some.inj (hothers.symm.trans hrules)
          obtain ⟨u, rfl, hu⟩ := hentries v hv
          rcases hfault with hshape | ⟨u', hu', e, he, hfaulty⟩
          · exact hshape u rfl
          · cases hu'
            exact hu e he hfaulty
        · exact nomatch hothers.symm.trans hrules
      · exact ht e he hfaulty

theorem reads_entryOptions (hv : Sound v) : ∃ u, v = .table u ∧ Reads u (entryOptions v) := by
  obtain ⟨u, rfl, hu⟩ := hv
  exact ⟨u, rfl, reads_foldl hu⟩

/-- Which keys set an option, when and where reading a table stops, and the rules it gives
otherwise: one for each entry under `rules` and one more if a key beside it sets an option, each
with the text under the last key of every option. -/
theorem load_exact (t : Table) :
    (∀ key slot, Slot.ofKey? key = some slot ↔
      key = slot.camelName ∨ (key.map fun c => if c = '-' then '_' else c) = slot.fieldName) ∧
    ((∃ error, (load t).result = .error error) ↔
      (∃ v, t.get? "rules" = some v ∧ ∀ entries, v ≠ .list entries) ∨
      (∃ entries, t.get? "rules" = some (.list entries) ∧
        ∃ v ∈ entries, (∀ u, v ≠ .table u) ∨ ∃ u, v = .table u ∧ ∃ e ∈ u, Faulty e) ∨
      ∃ e ∈ t, e.1 ≠ .text "rules" ∧ Faulty e) ∧
    (∀ error, (load t).result = .error error ↔ ∃ passed, Stops t passed error) ∧
    ((∀ error, (load t).result ≠ .error error) →
      ∃ entries os, Entries t entries ∧
        List.Forall₂ (fun v o => ∃ u, v = .table u ∧ Reads u o) entries os ∧
        ((∃ e ∈ t, e.1.IsOption) → ∃ o, Reads t o ∧ (load t).result = .ok (os ++ [o])) ∧
        ((¬ ∃ e ∈ t, e.1.IsOption) → (load t).result = .ok os)) := by
  refine ⟨fun key slot => Slot.ofKey?_eq_some_iff, load_fails_iff, fun error => load_error_iff, ?_⟩
  intro hnone
  rcases stops_or_sound t with ⟨passed, error, hstops⟩ | ⟨entries, hrules, hentries, ht⟩
  · exact absurd (load_error_iff.2 ⟨passed, hstops⟩) (hnone error)
  · refine ⟨entries, entries.map entryOptions, hrules, ?_, ?_, ?_⟩
    · rw [List.forall₂_map_right_iff, List.forall₂_same]
      intro v hv
      exact reads_entryOptions (hentries v hv)
    · intro hoption
      refine ⟨t.foldl assign {}, reads_foldl ht, ?_⟩
      rw [load_sound hrules hentries ht, topRule, if_pos hoption]
    · intro hoption
      rw [load_sound hrules hentries ht, topRule, if_neg hoption, List.append_nil]

theorem load_exact_sample :
    let good : Value := .table [(.text "package-name-regexp", .text "app"), (.text "color", .int 1),
      (.text "packageNameRegexp", .text "lib")]
    let bad : Value := .table [(.text "class_name-regexp", .int 3),
      (.text "forbiddenImportsRegexp", .null)]
    let broken : Table := [(.text "classNameRegexp", .bool true), (.text "rules", .list [good, bad])]
    let mended : Table := [(.text "classNameRegexp", .text ".*Service"),
      (.text "rules", .list [good])]
    (load broken).result = .error (.notText "rules[1]" "class_name-regexp" "int") ∧
      ∃ os o, Reads mended o ∧ (load mended).result = .ok (os ++ [o]) ∧
        os = [⟨some "lib", some "", none, none⟩] ∧
        o = ⟨some "", some ".*Service", none, none⟩ := by
  intro good bad broken mended
  constructor
  · have hgood : Sound good := by
      refine ⟨_, rfl, ?_⟩
      simp only [List.forall_mem_cons, List.not_mem_nil, false_imp_iff, implies_true, and_true]
      have hcolor : ¬ (Value.text "color").IsOption := by decide +kernel
      exact ⟨fun h => h.2 _ rfl, fun h => hcolor h.1, fun h => h.2 _ rfl⟩
    have hclass : (Value.text "class_name-regexp").IsOption := by decide +kernel
    have hbad : FirstFaulty [(.text "class_name-regexp", .int 3),
        (.text "forbiddenImportsRegexp", .null)] (.text "class_name-regexp", .int 3) :=
      ⟨[], _, rfl, List.forall_mem_nil _, hclass, fun text htext => nomatch htext⟩
    have hstops : Stops broken [good] (.notText (entryPlace 1) "class_name-regexp" "int") :=
      .entry rfl (by simpa using hgood) (.key hbad)
    have hplace : entryPlace 1 = "rules[1]" := by decide +kernel
    rw [hplace] at hstops
    obtain ⟨-, -, herror, -⟩ := load_exact broken
    exact (herror _).2 ⟨[good], hstops⟩
  · have hresult : (load mended).result.toOption = some
        [⟨some "lib", some "", none, none⟩, ⟨some "", some ".*Service", none, none⟩] := by
      decide +kernel
    obtain ⟨-, -, -, hrules⟩ := load_exact mended
    have hok : ∀ error, (load mended).result ≠ .error error := by
      intro error herror
      rw [herror] at hresult
      cases hresult
    obtain ⟨entries, os, -, -, htop, -⟩ := hrules hok
    obtain ⟨o, hreads, hload⟩ := htop (by decide +kernel)
    rw [hload] at hresult
    have happend : os ++ [o] = [⟨some "lib", some "", none, none⟩] ++ [_] :=
      Option.some.inj hresult
    obtain ⟨hos, ho⟩ := List.append_inj' happend rfl
    exact ⟨os, o, hreads, hload, hos, List.singleton_injective ho⟩

end Config

end ImportGuard
