import ImportGuard.Guidance
import ImportGuard.Proofs.Configuration

namespace ImportGuard.Registry

open Files (Disk)

/-- The entry under the key itself. -/
def Direct (registry : Table) (key : String) (entry : Table) : Prop :=
  registry.get? ("forbid-imports." ++ key) = some (.table entry)

/-- The entry has the text as its symbol or its code. -/
def Carries (text : String) (entry : Table) : Prop :=
  entry.get? "symbol" = some (.text text) ∨ entry.get? "code" = some (.text text)

/-- The pair is an entry of the domain that carries the text. -/
def Answers (text : String) (e : Value × Value) : Prop :=
  ∃ rest entry, e = (.text ("forbid-imports." ++ rest), .table entry) ∧ Carries text entry

def TextKey (e : Value × Value) : Prop := ∃ key, e.1 = .text key

def BytesKey (e : Value × Value) : Prop := ∃ bs, e.1 = .bytes bs

/-- The first entry that carries the text. Up to it all keys are texts. -/
def FirstAnswer (registry : Table) (text : String) (entry : Table) : Prop :=
  ∃ before rest after,
    registry = before ++ (.text ("forbid-imports." ++ rest), .table entry) :: after ∧
    Carries text entry ∧ (∀ x ∈ before, ¬ Answers text x) ∧ ∀ x ∈ before, TextKey x

/-- The entry under the key itself or, if there is none, the first one that carries the key. -/
def Found (registry : Table) (key : String) (entry : Table) : Prop :=
  Direct registry key entry ∨
    (∀ other, ¬ Direct registry key other) ∧ FirstAnswer registry key entry

/-- A key that is not a text stands before all entries that carry the text. -/
def Blocked (registry : Table) (text : String) : Prop :=
  ∃ before e after, registry = before ++ e :: after ∧ ¬ TextKey e ∧ ∀ x ∈ before, ¬ Answers text x

/-- The pair has the first key that is not a text, before all entries that carry the text. -/
def StoppedAt (registry : Table) (text : String) (e : Value × Value) : Prop :=
  ∃ before after, registry = before ++ e :: after ∧ ¬ TextKey e ∧
    (∀ x ∈ before, TextKey x) ∧ ∀ x ∈ before, ¬ Answers text x

variable {registry before after : Table} {key text label : String} {entry : Table}
  {e : Value × Value}

theorem isText_iff {v : Option Value} : isText text v = true ↔ v = some (.text text) := by
  cases v with
  | none => simp [isText]
  | some v => cases v <;> simp [isText]

theorem answersTo_iff : answersTo text entry = true ↔ Carries text entry := by
  rw [answersTo, Bool.or_eq_true, isText_iff, isText_iff, Carries]

theorem isPrefixOf_domain_iff :
    registryDomain.toList.isPrefixOf key.toList = true ↔ ∃ rest, key = registryDomain ++ rest := by
  rw [List.isPrefixOf_iff_prefix]
  constructor
  · rintro ⟨rest, hrest⟩
    refine ⟨String.ofList rest, ?_⟩
    rw [← String.toList_inj, ← hrest, String.toList_append, String.toList_ofList]
  · rintro ⟨rest, rfl⟩
    rw [String.toList_append]
    exact List.prefix_append _ _

theorem answers_entry_iff :
    (registryDomain.toList.isPrefixOf key.toList && answersTo text entry) = true ↔
      Answers text (.text key, .table entry) := by
  rw [Bool.and_eq_true, isPrefixOf_domain_iff, answersTo_iff]
  constructor
  · rintro ⟨⟨rest, rfl⟩, hcarries⟩
    exact ⟨rest, entry, rfl, hcarries⟩
  · rintro ⟨rest, entry, hpair, hcarries⟩
    cases hpair
    exact ⟨⟨rest, rfl⟩, hcarries⟩

theorem get?_cons_of_not_textKey (h : ¬ TextKey e) (rest : Table) (name : String) :
    Table.get? (e :: rest) name = rest.get? name := by
  have hpassed : e.1.sameKey (.text name) = false := by
    rw [Bool.eq_false_iff]
    exact fun hsame => h ⟨name, Value.sameKey_text.1 hsame⟩
  simp only [Table.get?, Table.lookup?, List.find?_cons, hpassed]

theorem search_pass (hkey : TextKey e) (hno : ¬ Answers text e) (rest : Table) :
    search text (e :: rest) = search text rest := by
  obtain ⟨key, value⟩ := e
  obtain ⟨key, rfl⟩ := hkey
  cases value with
  | table entry => rw [search, if_neg (mt answers_entry_iff.1 hno)]
  | _ => rfl

theorem search_found (h : Answers text (.text key, .table entry)) (rest : Table) :
    search text ((.text key, .table entry) :: rest) = .ok (some entry) := by
  rw [search, if_pos (answers_entry_iff.2 h)]
  rfl

theorem search_stopped (h : ¬ TextKey e) (rest : Table) :
    search text (e :: rest) = .error (refusal e.1) := by
  obtain ⟨key, value⟩ := e
  cases key with
  | text key => exact absurd ⟨key, rfl⟩ h
  | _ => rfl

theorem refusal_of_not_bytes (h : ¬ BytesKey e) :
    refusal e.1 = .noAttribute e.1.fullKindName "startswith" := by
  obtain ⟨key, value⟩ := e
  cases key with
  | bytes bs => exact absurd ⟨bs, rfl⟩ h
  | _ => rfl

theorem refusal_eq_textInBytes_iff : refusal e.1 = .textInBytes ↔ BytesKey e := by
  constructor
  · intro h
    by_contra hbytes
    rw [refusal_of_not_bytes hbytes] at h
    cases h
  · rintro ⟨bs, hbytes⟩
    rw [hbytes]
    rfl

theorem refusal_eq_noAttribute_iff :
    (∃ kind wanted, refusal e.1 = .noAttribute kind wanted) ↔ ¬ BytesKey e := by
  constructor
  · rintro ⟨kind, wanted, h⟩ hbytes
    rw [refusal_eq_textInBytes_iff.2 hbytes] at h
    cases h
  · intro h
    exact ⟨_, _, refusal_of_not_bytes h⟩

theorem search_append (hkeys : ∀ x ∈ before, TextKey x) (hno : ∀ x ∈ before, ¬ Answers text x)
    (rest : Table) : search text (before ++ rest) = search text rest := by
  induction before with
  | nil => rfl
  | cons x before ih =>
    obtain ⟨hkey, hkeys⟩ := List.forall_mem_cons.1 hkeys
    obtain ⟨hx, hno⟩ := List.forall_mem_cons.1 hno
    rw [List.cons_append, search_pass hkey hx, ih hkeys hno]

theorem search_missed (hkeys : ∀ x ∈ registry, TextKey x) (hno : ∀ x ∈ registry, ¬ Answers text x) :
    search text registry = .ok none := by
  have happend : search text (registry ++ []) = _ := search_append hkeys hno []
  rwa [List.append_nil] at happend

theorem StoppedAt.search_eq (h : StoppedAt registry text e) :
    search text registry = .error (refusal e.1) := by
  obtain ⟨before, after, rfl, he, hkeys, hno⟩ := h
  rw [search_append hkeys hno]
  exact search_stopped he after

theorem StoppedAt.blocked (h : StoppedAt registry text e) : Blocked registry text := by
  obtain ⟨before, after, hsplit, he, -, hno⟩ := h
  exact ⟨before, e, after, hsplit, he, hno⟩

/-- The search ends at the first key that is not a text, whatever entries come after it. -/
theorem Blocked.stoppedAt (h : Blocked registry text) : ∃ e, StoppedAt registry text e := by
  obtain ⟨before, e, after, rfl, he, hno⟩ := h
  have hstop : ∃ x ∈ before ++ [e], ¬ TextKey x := ⟨e, by simp, he⟩
  obtain ⟨passed, x, rest, hsplit, hpassed, hx⟩ := exists_first hstop
  have hkeys : ∀ y ∈ passed, TextKey y := fun y hy => not_not.1 (hpassed y hy)
  have hmissed : ∀ y ∈ passed, ¬ Answers text y := by
    intro y hy
    have hmem : y ∈ before ++ [e] := by
      rw [hsplit]
      exact List.mem_append_left _ hy
    rcases List.mem_append.1 hmem with hbefore | hlast
    · exact hno y hbefore
    · rw [List.mem_singleton] at hlast
      exact absurd (hkeys y hy) (hlast ▸ he)
  refine ⟨x, passed, rest ++ after, ?_, hx, hkeys, hmissed⟩
  rw [← List.singleton_append, ← List.append_assoc, hsplit, List.append_assoc]
  rfl

theorem FirstAnswer.search_eq (h : FirstAnswer registry text entry) :
    search text registry = .ok (some entry) := by
  obtain ⟨before, rest, after, rfl, hcarries, hno, hkeys⟩ := h
  rw [search_append hkeys hno]
  exact search_found ⟨rest, entry, rfl, hcarries⟩ after

theorem search_cases (registry : Table) (text : String) :
    (∃ entry, FirstAnswer registry text entry) ∨ (∃ e, StoppedAt registry text e) ∨
      ((∀ x ∈ registry, TextKey x) ∧ ∀ x ∈ registry, ¬ Answers text x) := by
  by_cases hend : ∃ x ∈ registry, ¬ (TextKey x ∧ ¬ Answers text x)
  · obtain ⟨before, e, after, rfl, hpassed, he⟩ := exists_first hend
    have hkeys : ∀ x ∈ before, TextKey x := fun x hx => (not_not.1 (hpassed x hx)).1
    have hno : ∀ x ∈ before, ¬ Answers text x := fun x hx => (not_not.1 (hpassed x hx)).2
    by_cases hkey : TextKey e
    · obtain ⟨rest, entry, rfl, hcarries⟩ : Answers text e := by
        by_contra hanswers
        exact he ⟨hkey, hanswers⟩
      exact .inl ⟨entry, before, rest, after, rfl, hcarries, hno, hkeys⟩
    · exact .inr (.inl ⟨e, before, after, rfl, hkey, hkeys, hno⟩)
  · have hall : ∀ x ∈ registry, TextKey x ∧ ¬ Answers text x := by
      intro x hx
      by_contra hfail
      exact hend ⟨x, hx, hfail⟩
    exact .inr (.inr ⟨fun x hx => (hall x hx).1, fun x hx => (hall x hx).2⟩)

theorem entry?_direct (h : Direct registry key entry) : entry? registry key = .ok (some entry) := by
  have hget : registry.get? (registryDomain ++ key) = some (.table entry) := h
  rw [Registry.entry?, hget]
  rfl

theorem entry?_search (h : ∀ entry, ¬ Direct registry key entry) :
    entry? registry key = search key registry := by
  rw [Registry.entry?]
  split
  · rename_i entry hget
    exact absurd hget (h entry)
  · rfl

theorem Direct.split (h : Direct registry key entry) :
    ∃ before after, registry =
      before ++ (.text ("forbid-imports." ++ key), .table entry) :: after ∧
      ∀ x ∈ before, x.1 ≠ .text ("forbid-imports." ++ key) := by
  obtain ⟨⟨found, value⟩, hfound, hvalue⟩ := Option.map_eq_some_iff.1 h
  obtain ⟨hkey, before, after, rfl, hbefore⟩ := List.find?_eq_some_iff_append.1 hfound
  cases Value.sameKey_text.1 hkey
  cases hvalue
  refine ⟨before, after, rfl, ?_⟩
  intro x hx hsame
  have hno := hbefore x hx
  rw [Bool.not_eq_true', Bool.eq_false_iff] at hno
  exact hno (Value.sameKey_text.2 hsame)

/-- An entry under its key is found by any text that it alone carries. -/
theorem Direct.entry?_label (h : Direct registry key entry) (hkeys : ∀ x ∈ registry, TextKey x)
    (hcarries : Carries label entry)
    (hother : ∀ x ∈ registry, x.1 ≠ .text ("forbid-imports." ++ key) → ¬ Answers label x)
    (hdirect : ∀ other, Direct registry label other → other = entry) :
    entry? registry label = .ok (some entry) := by
  by_cases hsome : ∃ other, Direct registry label other
  · obtain ⟨other, hsome⟩ := hsome
    rw [entry?_direct hsome, hdirect other hsome]
  · rw [entry?_search fun other hdir => hsome ⟨other, hdir⟩]
    obtain ⟨before, after, rfl, hbefore⟩ := h.split
    have hfirst : FirstAnswer (before ++ (.text ("forbid-imports." ++ key), .table entry) :: after)
        label entry := by
      refine ⟨before, key, after, rfl, hcarries, ?_, ?_⟩
      · intro x hx
        exact hother x (List.mem_append_left _ hx) (hbefore x hx)
      · intro x hx
        exact hkeys x (List.mem_append_left _ hx)
    exact hfirst.search_eq

/-- All ways in which looking up a key can end. -/
inductive Ends (registry : Table) (key : String) : Except Failure (Option Table) → Prop
  | direct {entry : Table} (h : Direct registry key entry) : Ends registry key (.ok (some entry))
  | first {entry : Table} (hnone : ∀ other, ¬ Direct registry key other)
    (h : FirstAnswer registry key entry) : Ends registry key (.ok (some entry))
  | missed (hnone : ∀ other, ¬ Direct registry key other) (hkeys : ∀ x ∈ registry, TextKey x)
    (hno : ∀ x ∈ registry, ¬ Answers key x) : Ends registry key (.ok none)
  | stopped {e : Value × Value} (hnone : ∀ other, ¬ Direct registry key other)
    (h : StoppedAt registry key e) : Ends registry key (.error (refusal e.1))

theorem entry?_ends (registry : Table) (key : String) :
    Ends registry key (Registry.entry? registry key) := by
  by_cases hdirect : ∃ entry, Direct registry key entry
  · obtain ⟨entry, hentry⟩ := hdirect
    rw [entry?_direct hentry]
    exact .direct hentry
  · have hnone : ∀ other, ¬ Direct registry key other := fun other h => hdirect ⟨other, h⟩
    rw [entry?_search hnone]
    rcases search_cases registry key with ⟨entry, hfirst⟩ | ⟨e, hstop⟩ | ⟨hkeys, hno⟩
    · rw [hfirst.search_eq]
      exact .first hnone hfirst
    · rw [hstop.search_eq]
      exact .stopped hnone hstop
    · rw [search_missed hkeys hno]
      exact .missed hnone hkeys hno

theorem entry?_eq_some_iff :
    entry? registry key = .ok (some entry) ↔ Found registry key entry := by
  constructor
  · intro h
    have hends := entry?_ends registry key
    rw [h] at hends
    cases hends with
    | direct hdirect => exact .inl hdirect
    | first hnone hfirst => exact .inr ⟨hnone, hfirst⟩
  · rintro (hdirect | ⟨hnone, hfirst⟩)
    · exact entry?_direct hdirect
    · rw [entry?_search hnone, hfirst.search_eq]

theorem entry?_eq_none_iff :
    entry? registry key = .ok none ↔
      (∀ other, ¬ Direct registry key other) ∧
        (∀ x ∈ registry, TextKey x) ∧ ∀ x ∈ registry, ¬ Answers key x := by
  constructor
  · intro h
    have hends := entry?_ends registry key
    rw [h] at hends
    cases hends with
    | missed hnone hkeys hno => exact ⟨hnone, hkeys, hno⟩
  · rintro ⟨hnone, hkeys, hno⟩
    rw [entry?_search hnone, search_missed hkeys hno]

theorem entry?_error_iff {failure : Failure} :
    entry? registry key = .error failure ↔
      (∀ other, ¬ Direct registry key other) ∧
        ∃ e, StoppedAt registry key e ∧ refusal e.1 = failure := by
  constructor
  · intro h
    have hends := entry?_ends registry key
    rw [h] at hends
    cases hends with
    | stopped hnone hstop => exact ⟨hnone, _, hstop, rfl⟩
  · rintro ⟨hnone, e, hstop, rfl⟩
    rw [entry?_search hnone, hstop.search_eq]

theorem entry?_fails_iff :
    (∃ failure, entry? registry key = .error failure) ↔
      (∀ other, ¬ Direct registry key other) ∧ Blocked registry key := by
  constructor
  · rintro ⟨failure, herror⟩
    obtain ⟨hnone, e, hstop, -⟩ := entry?_error_iff.1 herror
    exact ⟨hnone, hstop.blocked⟩
  · rintro ⟨hnone, hblocked⟩
    obtain ⟨e, hstop⟩ := hblocked.stoppedAt
    exact ⟨_, entry?_error_iff.2 ⟨hnone, e, hstop, rfl⟩⟩

theorem entry?_ok_iff :
    (∃ found, entry? registry key = .ok found) ↔
      (∃ entry, Direct registry key entry) ∨ ¬ Blocked registry key := by
  have hcases : (∃ found, entry? registry key = .ok found) ↔
      ¬ ∃ failure, entry? registry key = .error failure := by
    cases entry? registry key <;> simp
  rw [hcases, entry?_fails_iff, not_and_or]
  simp only [not_forall, not_not]

theorem entry?_noAttribute_iff :
    (∃ kind wanted, entry? registry key = .error (.noAttribute kind wanted)) ↔
      (∀ other, ¬ Direct registry key other) ∧ ∃ e, StoppedAt registry key e ∧ ¬ BytesKey e := by
  constructor
  · rintro ⟨kind, wanted, herror⟩
    obtain ⟨hnone, e, hstop, hrefusal⟩ := entry?_error_iff.1 herror
    exact ⟨hnone, e, hstop, refusal_eq_noAttribute_iff.1 ⟨kind, wanted, hrefusal⟩⟩
  · rintro ⟨hnone, e, hstop, hbytes⟩
    obtain ⟨kind, wanted, hrefusal⟩ := refusal_eq_noAttribute_iff.2 hbytes
    exact ⟨kind, wanted, entry?_error_iff.2 ⟨hnone, e, hstop, hrefusal⟩⟩

theorem entry?_textInBytes_iff :
    entry? registry key = .error .textInBytes ↔
      (∀ other, ¬ Direct registry key other) ∧ ∃ e, StoppedAt registry key e ∧ BytesKey e := by
  simp only [entry?_error_iff, refusal_eq_textInBytes_iff]

theorem entry?_error_kind {failure : Failure} (h : entry? registry key = .error failure) :
    failure = .textInBytes ∨ ∃ kind, failure = .noAttribute kind "startswith" := by
  obtain ⟨-, e, -, rfl⟩ := entry?_error_iff.1 h
  by_cases hbytes : BytesKey e
  · exact .inl (refusal_eq_textInBytes_iff.2 hbytes)
  · exact .inr ⟨_, refusal_of_not_bytes hbytes⟩

/-- The entry under the key itself is found, or else the first one with the key as its symbol or
code, and the search fails just if a key that is not a text stands before all of these. How it fails
depends on whether the first such key is bytes. So an entry is found by its key, its symbol and its
code alike if no other one goes by these. -/
theorem entry_found_exactly (registry : Table) (key : String) :
    (∀ entry, entry? registry key = .ok (some entry) ↔
      Direct registry key entry ∨
        (∀ other, ¬ Direct registry key other) ∧ FirstAnswer registry key entry) ∧
    (Registry.entry? registry key = .ok none ↔
      (∀ other, ¬ Direct registry key other) ∧
        (∀ x ∈ registry, TextKey x) ∧ ∀ x ∈ registry, ¬ Answers key x) ∧
    ((∃ failure, entry? registry key = .error failure) ↔
      (∀ other, ¬ Direct registry key other) ∧
        ∃ before e after, registry = before ++ e :: after ∧ ¬ TextKey e ∧
          ∀ x ∈ before, ¬ Answers key x) ∧
    ((∃ kind wanted, entry? registry key = .error (.noAttribute kind wanted)) ↔
      (∀ other, ¬ Direct registry key other) ∧ ∃ e, StoppedAt registry key e ∧ ¬ BytesKey e) ∧
    (Registry.entry? registry key = .error .textInBytes ↔
      (∀ other, ¬ Direct registry key other) ∧ ∃ e, StoppedAt registry key e ∧ BytesKey e) ∧
    (∀ failure, entry? registry key = .error failure →
      failure = .textInBytes ∨ ∃ kind, failure = .noAttribute kind "startswith") ∧
    ∀ (entry : Table) (symbol code : String), (∀ x ∈ registry, TextKey x) →
      Direct registry key entry →
      entry.get? "symbol" = some (.text symbol) → entry.get? "code" = some (.text code) →
      (∀ x ∈ registry, x.1 ≠ .text ("forbid-imports." ++ key) →
        ¬ Answers symbol x ∧ ¬ Answers code x) →
      (∀ other, Direct registry symbol other → other = entry) →
      (∀ other, Direct registry code other → other = entry) →
      entry? registry key = .ok (some entry) ∧ entry? registry symbol = .ok (some entry) ∧
        entry? registry code = .ok (some entry) := by
  refine ⟨fun entry => entry?_eq_some_iff, entry?_eq_none_iff, entry?_fails_iff,
    entry?_noAttribute_iff, entry?_textInBytes_iff, fun failure => entry?_error_kind, ?_⟩
  intro entry symbol code hkeys hdirect hsymbol hcode hother hbySymbol hbyCode
  refine ⟨entry?_direct hdirect, ?_, ?_⟩
  · exact hdirect.entry?_label hkeys (.inl hsymbol)
      (fun x hx hne => (hother x hx hne).1) hbySymbol
  · exact hdirect.entry?_label hkeys (.inr hcode)
      (fun x hx hne => (hother x hx hne).2) hbyCode

theorem entry_found_exactly_sample :
    let entry : Table := [(.text "code", .text "W9601"), (.text "symbol", .text "no-import")]
    let registry : Table := [(.text "forbid-imports.W9601", .list []),
      (.text "forbid-imports.main", .table entry), (.text "main", .table entry)]
    entry? registry "main" = .ok (some entry) ∧ entry? registry "no-import" = .ok (some entry) ∧
      entry? registry "W9601" = .ok (some entry) ∧
      (∃ kind wanted, entry? ((.int 404, .null) :: registry) "W9601" =
        .error (.noAttribute kind wanted)) ∧
      entry? ((.bytes [52], .null) :: registry) "W9601" = .error .textInBytes := by
  intro entry registry
  have hkeys : ∀ x ∈ registry, TextKey x := by simp [registry, TextKey]
  have houtside : registryDomain.toList.isPrefixOf "main".toList = false := by decide +kernel
  have hother (label : String) (x : Value × Value) (hx : x ∈ registry)
      (hne : x.1 ≠ .text ("forbid-imports." ++ "main")) : ¬ Answers label x := by
    simp only [registry, List.mem_cons, List.not_mem_nil, or_false] at hx
    rcases hx with rfl | rfl | rfl
    · simp [Answers]
    · exact absurd rfl hne
    · rw [← answers_entry_iff, houtside, Bool.false_and]
      exact Bool.false_ne_true
  have hmain : Direct registry "main" entry := by
    simp [registry, Direct, Table.get?, Table.lookup?, Value.sameKey, Value.integer?]
  have hlist : registry.get? ("forbid-imports." ++ "W9601") = some (.list []) := by
    simp [registry, Table.get?, Table.lookup?, Value.sameKey, Value.integer?]
  have hnone : registry.get? ("forbid-imports." ++ "no-import") = none := by
    simp [registry, Table.get?, Table.lookup?, Value.sameKey, Value.integer?]
  have hfound : entry? registry "main" = .ok (some entry) ∧
      entry? registry "no-import" = .ok (some entry) ∧
      entry? registry "W9601" = .ok (some entry) := by
    obtain ⟨-, -, -, -, -, -, hlabels⟩ := entry_found_exactly registry "main"
    apply hlabels entry "no-import" "W9601" hkeys hmain rfl rfl
    · intro x hx hne
      exact ⟨hother _ x hx hne, hother _ x hx hne⟩
    · intro other h
      cases hnone.symm.trans h
    · intro other h
      cases hlist.symm.trans h
  have hindirect (e : Value × Value) (he : ¬ TextKey e) (other : Table) :
      ¬ Direct (e :: registry) "W9601" other := by
    intro h
    rw [Direct, get?_cons_of_not_textKey he] at h
    cases hlist.symm.trans h
  have hstopped (e : Value × Value) (he : ¬ TextKey e) : StoppedAt (e :: registry) "W9601" e :=
    ⟨[], registry, rfl, he, List.forall_mem_nil _, List.forall_mem_nil _⟩
  obtain ⟨-, -, -, hattribute, -, -, -⟩ :=
    entry_found_exactly ((.int 404, .null) :: registry) "W9601"
  obtain ⟨-, -, -, -, hbytes, -, -⟩ :=
    entry_found_exactly ((.bytes [52], .null) :: registry) "W9601"
  have hint : ¬ TextKey (.int 404, .null) := by simp [TextKey]
  have hfour : ¬ TextKey (.bytes [52], .null) := by simp [TextKey]
  refine ⟨hfound.1, hfound.2.1, hfound.2.2, hattribute.2 ⟨hindirect _ hint, _, hstopped _ hint, ?_⟩,
    hbytes.2 ⟨hindirect _ hfour, _, hstopped _ hfour, [52], rfl⟩⟩
  simp [BytesKey]

/-- A registry file may have a key of bytes, and the search fails there in another way than at the
other keys that are no texts. -/
theorem bytes_key_fails_otherwise :
    let d : Disk := ⟨[(["rules.yaml"], .file "!!binary aGk=: x\n".toUTF8)]⟩
    let key := "forbid.certain.imports"
    ∃ registry, (load d [] (.parse "rules.yaml")).result = .ok registry ∧
      ¬ ((∃ kind wanted, entry? registry key = .error (.noAttribute kind wanted)) ↔
        (∀ other, ¬ Direct registry key other) ∧
          ∃ before e after, registry = before ++ e :: after ∧ ¬ TextKey e ∧
            ∀ x ∈ before, ¬ Answers key x) := by
  intro d key
  have hfails : ((load d [] (.parse "rules.yaml")).result.toOption.any fun registry =>
      Registry.entry? registry key matches .error .textInBytes) = true := by decide +kernel
  cases hload : (load d [] (.parse "rules.yaml")).result with
  | error failure =>
    rw [hload] at hfails
    cases hfails
  | ok registry =>
    have herror : entry? registry key = .error .textInBytes := by
      simp only [hload, Except.toOption, Option.any_some] at hfails
      split at hfails
      · assumption
      · cases hfails
    refine ⟨registry, rfl, ?_⟩
    intro hsame
    obtain ⟨kind, wanted, hattribute⟩ := hsame.2 (entry?_fails_iff.1 ⟨_, herror⟩)
    cases herror.symm.trans hattribute

end ImportGuard.Registry
