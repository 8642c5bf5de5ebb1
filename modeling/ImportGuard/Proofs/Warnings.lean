import ImportGuard.Proofs.Configuration

namespace ImportGuard.Config

variable {t : Table}

def pruneEntry : Value → Value
  | .table u => .table (u.filter fun e => e.1.IsOption)
  | v => v

def pruneRules : Value → Value
  | .list entries => .list (entries.map pruneEntry)
  | v => v

/-- The table without its unknown keys and without those of its entries. -/
def prune (t : Table) : Table :=
  t.filterMap fun e =>
    if e.1.sameKey (.text "rules") then some (e.1, pruneRules e.2)
    else if e.1.IsOption then some e else none

theorem get?_prune (t : Table) : (prune t).get? "rules" = (t.get? "rules").map pruneRules := by
  simp only [Table.get?, Table.lookup?, prune]
  induction t with
  | nil => rfl
  | cons e t ih =>
    rw [List.filterMap_cons, List.find?_cons]
    cases hrules : e.1.sameKey (.text "rules") with
    | true => simp [hrules]
    | false =>
      by_cases hoption : e.1.IsOption <;> simpa [hrules, hoption] using ih

theorem topLevel_prune (t : Table) :
    topLevel (prune t) = (topLevel t).filter fun e => e.1.IsOption := by
  simp only [topLevel, prune]
  induction t with
  | nil => rfl
  | cons e t ih =>
    rw [List.filterMap_cons, List.filter_cons]
    cases hrules : e.1.sameKey (.text "rules") with
    | true => simpa [hrules] using ih
    | false =>
      by_cases hoption : e.1.IsOption <;> simpa [hrules, hoption] using ih

theorem readOptions_isOption (place : String) (t : Table) (o : RuleOptions) :
    readOptions place (t.filter fun e => e.1.IsOption) o = readOptions place t o := by
  apply readOptions_filter
  intro e _ hoption
  exact decide_eq_true hoption

theorem unknownKeys_isOption (place : String) (t : Table) :
    unknownKeys place (t.filter fun e => e.1.IsOption) = [] := by
  simp [unknownKeys_eq, warnings]

theorem loadEntries_prune (index : Nat) (entries : List Value) :
    loadEntries index (entries.map pruneEntry) = ⟨[], (loadEntries index entries).result⟩ := by
  induction entries generalizing index with
  | nil => rfl
  | cons v entries ih =>
    cases v with
    | table u =>
      rw [List.map_cons, pruneEntry, loadEntries, loadEntries, readOptions_isOption,
        unknownKeys_isOption, ih]
      cases readOptions (entryPlace index) u {} <;> rfl
    | _ => rfl

theorem loadTop_prune (t : Table) :
    loadTop (t.filter fun e => e.1.IsOption) = ⟨[], (loadTop t).result⟩ := by
  have hany : ((t.filter fun e => e.1.IsOption).any fun e => (Slot.ofValue? e.1).isSome) =
      t.any fun e => (Slot.ofValue? e.1).isSome := by
    rw [Bool.eq_iff_iff]
    simp [Value.isSome_ofValue?_iff]
  rw [loadTop, loadTop, hany, readOptions_isOption, unknownKeys_isOption]
  split
  · cases readOptions topPlace t {} <;> rfl
  · rfl

theorem Entries.load_prune {entries : List Value} (h : Entries t entries) :
    load (prune t) = ⟨[], (load t).result⟩ := by
  have hprune : Entries (prune t) (entries.map pruneEntry) := by
    rw [Entries, get?_prune]
    rcases h with hrules | ⟨hrules, rfl⟩
    · exact .inl (by rw [hrules]; rfl)
    · exact .inr ⟨by rw [hrules]; rfl, rfl⟩
  rw [h.load_eq, hprune.load_eq, loadEntries_prune, topLevel_prune, loadTop_prune]
  cases (loadEntries 0 entries).result <;> rfl

/-- Without the unknown keys nothing is warned about, and the result is the same. -/
theorem load_prune (t : Table) : load (prune t) = ⟨[], (load t).result⟩ := by
  cases hrules : t.get? "rules" with
  | none => exact Entries.load_prune (.inr ⟨hrules, rfl⟩)
  | some v =>
    cases v with
    | list entries => exact Entries.load_prune (.inl hrules)
    | _ =>
      rw [load, load, get?_prune, hrules]
      rfl

/-- A table that can be read is warned about in this order: the unknown keys of each entry, then
those beside the entries. If reading stops, the warnings are those of the entries passed before.
Deleting the unknown keys everywhere leaves the rules or the error, and no warning. -/
theorem unknown_keys_warned_once (t : Table) :
    ((∀ error, (load t).result ≠ .error error) →
      ∃ entries, Entries t entries ∧
        (load t).events = entryWarnings 0 entries ++ warnings topPlace (topLevel t)) ∧
    (∀ error, (load t).result = .error error →
      (∃ passed, Stops t passed error) ∧
        ∀ passed, Stops t passed error → (load t).events = entryWarnings 0 passed) ∧
    load (prune t) = ⟨[], (load t).result⟩ := by
  refine ⟨?_, ?_, load_prune t⟩
  · intro hnone
    rcases stops_or_sound t with ⟨passed, error, hstops⟩ | ⟨entries, hrules, hentries, ht⟩
    · exact absurd (load_error_iff.2 ⟨passed, hstops⟩) (hnone error)
    · exact ⟨entries, hrules, by rw [load_sound hrules hentries ht]⟩
  · intro error herror
    refine ⟨load_error_iff.1 herror, ?_⟩
    intro passed hstops
    rw [load_stops hstops]

theorem unknown_keys_warned_once_sample :
    let entries : List Value := [.table [(.text "shape", .null), (.text "rules", .int 2)],
      .table [(.text "class-name-regexp", .text "A"), (.text "size", .text "B")]]
    let t : Table := [(.text "color", .int 1), (.text "rules", .list entries),
      (.text "Package_name_regexp", .null)]
    let broken : Table := (.text "packageNameRegexp", .null) :: t
    (load t).events = [.unknownKey "shape" "rules[0]", .unknownKey "rules" "rules[0]",
        .unknownKey "size" "rules[1]", .unknownKey "color" "top-level",
        .unknownKey "Package_name_regexp" "top-level"] ∧
      (load broken).events = [.unknownKey "shape" "rules[0]", .unknownKey "rules" "rules[0]",
        .unknownKey "size" "rules[1]"] ∧
      (prune t).length = 1 ∧ load (prune t) = ⟨[], (load t).result⟩ := by
  intro entries t broken
  have hfirst : Sound entries[0] := by
    refine ⟨_, rfl, ?_⟩
    have hshape : ¬ (Value.text "shape").IsOption := by decide +kernel
    simp only [List.forall_mem_cons, List.not_mem_nil, false_imp_iff, implies_true, and_true]
    exact ⟨fun h => hshape h.1, fun h => Value.not_isOption_rules h.1⟩
  have hsecond : Sound entries[1] := by
    refine ⟨_, rfl, ?_⟩
    simp only [List.forall_mem_cons, List.not_mem_nil, false_imp_iff, implies_true, and_true]
    exact ⟨fun h => h.2 _ rfl, fun h => h.2 _ rfl⟩
  have hentries : ∀ w ∈ entries, Sound w := by simpa [entries] using ⟨hfirst, hsecond⟩
  obtain ⟨hread, -, hprune⟩ := unknown_keys_warned_once t
  obtain ⟨-, hstopped, -⟩ := unknown_keys_warned_once broken
  refine ⟨?_, ?_, by decide +kernel, hprune⟩
  · have hok : ∀ error, (load t).result ≠ .error error := by
      have hresult : (load t).result.isOk = true := by decide +kernel
      intro error herror
      rw [herror] at hresult
      cases hresult
    obtain ⟨others, hrules, hevents⟩ := hread hok
    rcases hrules with hrules | ⟨hrules, -⟩
    · have hsame : entries = others := Value.list.inj (Option.some.inj hrules)
      rw [hevents, ← hsame]
      decide +kernel
    · cases hrules
  · have hoption : (Value.text "packageNameRegexp").IsOption := by decide +kernel
    have hfaulty : FirstFaulty broken (.text "packageNameRegexp", .null) :=
      ⟨[], t, rfl, List.forall_mem_nil _, hoption, fun text htext => nomatch htext⟩
    have hstops : Stops broken entries (.notText topPlace "packageNameRegexp" "NoneType") :=
      .top (.inl rfl) hentries hfaulty
    rw [(hstopped _ (load_error_iff.2 ⟨_, hstops⟩)).2 _ hstops]
    decide +kernel

end ImportGuard.Config
