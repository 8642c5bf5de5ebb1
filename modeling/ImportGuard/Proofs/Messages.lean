import ImportGuard.Guidance
import ImportGuard.Rule
import ImportGuard.Proofs.Lookup

namespace ImportGuard

open Files (Disk)

namespace Decimal

theorem Digits.positional_ne_nil (d : Digits) : d.positional ≠ [] := by
  rw [positional]
  split <;> simp

theorem Digits.scientific_ne_nil (d : Digits) : d.scientific ≠ [] := by
  simp [scientific]

theorem Binary.toText_ne_empty (x : Binary) : x.toText ≠ "" := by
  have hchars : x.toChars ≠ [] := by
    cases x with
    | nan => exact List.cons_ne_nil _ _
    | infinite negative => simp [toChars]
    | finite negative m e =>
      rw [toChars]
      split
      · simp
      · apply List.append_ne_nil_of_right_ne_nil
        split
        · exact Digits.positional_ne_nil _
        · exact Digits.scientific_ne_nil _
  rw [toText, ne_eq, ← String.toList_inj, String.toList_ofList]
  exact hchars

end Decimal

theorem Date.iso_ne_empty (d : Date) : d.iso ≠ "" := by simp [iso]

theorem Time.iso_ne_empty (t : Time) : t.iso ≠ "" := by simp [iso]

theorem toString_int_ne_empty (n : Int) : toString n ≠ "" := by
  rw [Int.toString_eq_repr]
  cases n with
  | ofNat m => exact Nat.repr_ne_empty
  | negSucc m => simp [Int.repr]

theorem Value.display_ne_empty {v : Value} (h : v.isTruthy) : v.display ≠ "" := by
  cases v with
  | null => cases h
  | bool b =>
    cases b with
    | false => cases h
    | true =>
      change "True" ≠ ""
      decide
  | int n => exact toString_int_ne_empty n
  | float x => exact x.toText_ne_empty
  | text s => simpa [isTruthy, display] using h
  | bytes bs =>
    change Text.quoteBytes bs ≠ ""
    simp [Text.quoteBytes, Text.Quoted.encodeBytes]
  | date d => exact d.iso_ne_empty
  | time t => exact t.iso_ne_empty
  | datetime d t zone => simp [display]
  | list items =>
    change "[" ++ quotedItems items ++ "]" ≠ ""
    simp
  | set members =>
    cases members with
    | nil => cases h
    | cons v vs =>
      change "\x7b" ++ quotedItems (v :: vs) ++ "\x7d" ≠ ""
      simp
  | pair k v =>
    change "(" ++ quoted k ++ ", " ++ quoted v ++ ")" ≠ ""
    simp
  | again isTable =>
    cases isTable with
    | false =>
      change "[...]" ≠ ""
      decide
    | true =>
      change "\x7b...\x7d" ≠ ""
      decide
  | table entries =>
    change "\x7b" ++ quotedEntries entries ++ "\x7d" ≠ ""
    simp

theorem exists_of_bind_ok {α β : Type} {x : Except Failure α} {f : α → Except Failure β} {b : β}
    (h : x >>= f = .ok b) : ∃ a, x = .ok a ∧ f a = .ok b := by
  cases x with
  | error failure => cases h
  | ok a => exact ⟨a, rfl, h⟩

theorem error_of_bind {α β : Type} {x : Except Failure α} {f : α → Except Failure β}
    {failure : Failure} (h : x >>= f = .error failure) :
    x = .error failure ∨ ∃ a, f a = .error failure := by
  cases x with
  | error failure =>
    cases h
    exact .inl rfl
  | ok a => exact .inr ⟨a, h⟩

namespace MessageText

/-- The field of an entry has the value, and it counts as present. -/
def Present (entry : Table) (field : String) (v : Value) : Prop :=
  entry.get? field = some v ∧ v.isTruthy

/-- The message of an entry takes one of its texts from the value. -/
inductive Shows (entry : Table) (v : Value) : Prop
  | template (h : Present entry "message_template" v)
  | symbol (h : Present entry "symbol" v)
  | name (h : Present entry "display_name" v)
  | description (hname : ∀ w, ¬ Present entry "display_name" w)
    (h : Present entry "short_description" v)

/-- No text is missing or empty. -/
structure Complete (m : MessageText) : Prop where
  template : m.template ≠ ""
  symbol : m.symbol ≠ ""
  description : m.description ≠ ""

variable {entry : Table} {field default text : String} {v : Value} {x : Option Value}
  {m : MessageText} {failure : Failure}

theorem present?_eq_some_iff : present? (entry.get? field) = some v ↔ Present entry field v :=
  Option.filter_eq_some_iff

theorem subject?_eq_some_iff :
    subject? entry = some v ↔ Present entry "display_name" v ∨
      (∀ w, ¬ Present entry "display_name" w) ∧ Present entry "short_description" v := by
  rw [subject?, Option.or_eq_some_iff, Option.eq_none_iff_forall_ne_some]
  simp only [ne_eq, present?_eq_some_iff]

theorem writtenOr_eq_ok (h : writtenOr default x = .ok text) :
    (x = none ∧ text = default) ∨ ∃ v, x = some v ∧ v.isWritable ∧ text = v.display := by
  cases x with
  | none =>
    cases h
    exact .inl ⟨rfl, rfl⟩
  | some v =>
    rw [writtenOr, written] at h
    split at h
    · next hwritable =>
      cases h
      exact .inr ⟨v, rfl, hwritable, rfl⟩
    · cases h

theorem writtenOr_error (h : writtenOr default x = .error failure) :
    ∃ v, x = some v ∧ ¬ v.isWritable ∧ failure = .excessDigits := by
  cases x with
  | none => cases h
  | some v =>
    rw [writtenOr, written] at h
    split at h
    · cases h
    · next hwritable =>
      cases h
      exact ⟨v, rfl, hwritable, rfl⟩

theorem writtenOr_ne_empty (h : writtenOr default x = .ok text) (hdefault : default ≠ "")
    (htruthy : ∀ v, x = some v → v.isTruthy) : text ≠ "" := by
  rcases writtenOr_eq_ok h with ⟨-, rfl⟩ | ⟨v, hv, -, rfl⟩
  · exact hdefault
  · exact Value.display_ne_empty (htruthy v hv)

theorem writable_of_writtenOr (h : writtenOr default (some v) = .ok text) : v.isWritable := by
  rcases writtenOr_eq_ok h with ⟨⟨⟩, -⟩ | ⟨w, hw, hwritable, -⟩
  cases hw
  exact hwritable

theorem ofEntry_eq_ok (h : ofEntry entry = .ok m) :
    writtenOr defaultTemplate (present? (entry.get? "message_template")) = .ok m.template ∧
    writtenOr defaultSymbol (present? (entry.get? "symbol")) = .ok m.symbol ∧
    writtenOr defaultDescription (subject? entry) = .ok m.description := by
  obtain ⟨template, htemplate, h⟩ := exists_of_bind_ok h
  obtain ⟨symbol, hsymbol, h⟩ := exists_of_bind_ok h
  obtain ⟨description, hdescription, h⟩ := exists_of_bind_ok h
  cases h
  exact ⟨htemplate, hsymbol, hdescription⟩

theorem complete_of_ofEntry (h : ofEntry entry = .ok m) : m.Complete := by
  obtain ⟨htemplate, hsymbol, hdescription⟩ := ofEntry_eq_ok h
  refine ⟨writtenOr_ne_empty htemplate (by decide) ?_, writtenOr_ne_empty hsymbol (by decide) ?_,
    writtenOr_ne_empty hdescription (by decide) ?_⟩
  · exact fun v hv => (present?_eq_some_iff.1 hv).2
  · exact fun v hv => (present?_eq_some_iff.1 hv).2
  · intro v hv
    rcases subject?_eq_some_iff.1 hv with hname | ⟨-, hshort⟩
    · exact hname.2
    · exact hshort.2

theorem Shows.isWritable (hshows : Shows entry v) (h : ofEntry entry = .ok m) :
    v.isWritable := by
  obtain ⟨htemplate, hsymbol, hdescription⟩ := ofEntry_eq_ok h
  cases hshows with
  | template hv =>
    rw [present?_eq_some_iff.2 hv] at htemplate
    exact writable_of_writtenOr htemplate
  | symbol hv =>
    rw [present?_eq_some_iff.2 hv] at hsymbol
    exact writable_of_writtenOr hsymbol
  | name hv =>
    rw [subject?_eq_some_iff.2 (.inl hv)] at hdescription
    exact writable_of_writtenOr hdescription
  | description hname hv =>
    rw [subject?_eq_some_iff.2 (.inr ⟨hname, hv⟩)] at hdescription
    exact writable_of_writtenOr hdescription

theorem ofEntry_error (h : ofEntry entry = .error failure) :
    ∃ v, Shows entry v ∧ ¬ v.isWritable ∧ failure = .excessDigits := by
  rcases error_of_bind h with htemplate | ⟨template, h⟩
  · obtain ⟨v, hv, hwritable, rfl⟩ := writtenOr_error htemplate
    exact ⟨v, .template (present?_eq_some_iff.1 hv), hwritable, rfl⟩
  rcases error_of_bind h with hsymbol | ⟨symbol, h⟩
  · obtain ⟨v, hv, hwritable, rfl⟩ := writtenOr_error hsymbol
    exact ⟨v, .symbol (present?_eq_some_iff.1 hv), hwritable, rfl⟩
  rcases error_of_bind h with hdescription | ⟨description, h⟩
  · obtain ⟨v, hv, hwritable, rfl⟩ := writtenOr_error hdescription
    rcases subject?_eq_some_iff.1 hv with hname | ⟨hname, hshort⟩
    · exact ⟨v, .name hname, hwritable, rfl⟩
    · exact ⟨v, .description hname hshort, hwritable, rfl⟩
  · cases h

theorem not_shows_nil : ¬ Shows [] v := by
  rintro (⟨⟨⟩, -⟩ | ⟨⟨⟩, -⟩ | ⟨⟨⟩, -⟩ | ⟨-, ⟨⟩, -⟩)

end MessageText

namespace Registry

variable {registry : Table} {key code : String}

open MessageText (Shows)

theorem messages_of_ok {found : Option Table} (h : entry? registry key = .ok found)
    (code : String) :
    messages registry key code =
      (MessageText.ofEntry (found.getD [])).map fun m => [(code, m)] := by
  rw [messages, messageText, h]
  change (MessageText.ofEntry (found.getD []) >>= fun m => pure [(code, m)]) = _
  cases MessageText.ofEntry (found.getD []) <;> rfl

theorem messages_error {failure : Failure} (h : entry? registry key = .error failure)
    (code : String) : messages registry key code = .error failure := by
  rw [messages, messageText, h]
  rfl

theorem shows_found_iff {found : Option Table} (h : entry? registry key = .ok found) {v : Value} :
    Shows (found.getD []) v ↔ ∃ entry, Found registry key entry ∧ Shows entry v := by
  cases found with
  | none =>
    apply iff_of_false MessageText.not_shows_nil
    rintro ⟨entry, hfound, -⟩
    cases h.symm.trans (entry?_eq_some_iff.2 hfound)
  | some entry =>
    constructor
    · intro hshows
      exact ⟨entry, entry?_eq_some_iff.1 h, hshows⟩
    · rintro ⟨other, hfound, hshows⟩
      cases h.symm.trans (entry?_eq_some_iff.2 hfound)
      exact hshows

/-- The message has all of its texts just if its entry stands under the key itself, or if every key
that is not a text comes after an entry with that symbol or code, and if no text is taken from a
value with an integer of too many digits. Otherwise there is no message, and the first key that is
not a text or such a value says why. That values may nest too deeply to be written is left out. -/
theorem messages_complete_iff (registry : Table) (key code : String) :
    ((∃ m : MessageText, messages registry key code = .ok [(code, m)] ∧
        m.template ≠ "" ∧ m.symbol ≠ "" ∧ m.description ≠ "") ↔
      ((∃ entry, Direct registry key entry) ∨
        ∀ before e after, registry = before ++ e :: after → ¬ TextKey e →
          ∃ x ∈ before, Answers key x) ∧
      ∀ entry v, Found registry key entry → Shows entry v → v.isWritable) ∧
    ∀ failure, messages registry key code = .error failure →
      (∃ e kind, StoppedAt registry key e ∧ ¬ BytesKey e ∧
        failure = .noAttribute kind "startswith") ∨
      (∃ e, StoppedAt registry key e ∧ BytesKey e ∧ failure = .textInBytes) ∨
      ∃ entry v, Found registry key entry ∧ Shows entry v ∧ ¬ v.isWritable ∧
        failure = .excessDigits := by
  have hfree : (∀ before e after, registry = before ++ e :: after → ¬ TextKey e →
      ∃ x ∈ before, Answers key x) ↔ ¬ Blocked registry key := by
    simp [Blocked]
  rw [hfree, ← entry?_ok_iff]
  cases hentry : entry? registry key with
  | ok found =>
    rw [messages_of_ok hentry]
    cases htexts : MessageText.ofEntry (found.getD []) with
    | ok m =>
      obtain ⟨htemplate, hsymbol, hdescription⟩ := MessageText.complete_of_ofEntry htexts
      constructor
      · apply iff_of_true
        · exact ⟨m, rfl, htemplate, hsymbol, hdescription⟩
        · refine ⟨⟨found, rfl⟩, ?_⟩
          intro entry v hfound hshows
          exact ((shows_found_iff hentry).2 ⟨entry, hfound, hshows⟩).isWritable htexts
      · rintro failure ⟨⟩
    | error failure =>
      obtain ⟨v, hshows, hwritable, rfl⟩ := MessageText.ofEntry_error htexts
      obtain ⟨entry, hfound, hshows⟩ := (shows_found_iff hentry).1 hshows
      constructor
      · apply iff_of_false
        · rintro ⟨m, ⟨⟩, -⟩
        · rintro ⟨-, hall⟩
          exact hwritable (hall entry v hfound hshows)
      · rintro failure ⟨⟩
        exact .inr (.inr ⟨entry, v, hfound, hshows, hwritable, rfl⟩)
  | error failure =>
    rw [messages_error hentry]
    constructor
    · apply iff_of_false
      · rintro ⟨m, ⟨⟩, -⟩
      · rintro ⟨⟨found, ⟨⟩⟩, -⟩
    · rintro failure ⟨⟩
      obtain ⟨-, e, hstop, rfl⟩ := entry?_error_iff.1 hentry
      by_cases hbytes : BytesKey e
      · exact .inr (.inl ⟨e, hstop, hbytes, refusal_eq_textInBytes_iff.2 hbytes⟩)
      · exact .inl ⟨e, _, hstop, hbytes, refusal_of_not_bytes hbytes⟩

theorem messages_complete_iff_sample :
    let entry : Table := [(.text "message_template", .set [.bytes [104, 105]]),
      (.text "symbol", .int 0), (.text "display_name", .null)]
    let registry : Table := [(.text "forbid-imports.forbid.certain.imports", .table entry),
      (.int 404, .null), (.bytes [52], .list [.pair (.int 1) (.again false)])]
    ∃ m : MessageText, messages registry Violation.messageKey "W1" = .ok [("W1", m)] ∧
      m.template ≠ "" ∧ m.symbol ≠ "" ∧ m.description ≠ "" := by
  intro entry registry
  have hdirect : Direct registry Violation.messageKey entry := by
    simp [registry, Direct, Violation.messageKey, Table.get?, Table.lookup?, Value.sameKey,
      Value.integer?]
  apply (messages_complete_iff registry Violation.messageKey "W1").1.2
  refine ⟨.inl ⟨entry, hdirect⟩, ?_⟩
  intro other v hfound hshows
  cases (entry?_eq_some_iff.2 (.inl hdirect)).symm.trans (entry?_eq_some_iff.2 hfound)
  rcases hshows with ⟨hv, -⟩ | ⟨hv, htruthy⟩ | ⟨hv, htruthy⟩ | ⟨-, hv, -⟩
  · cases hv
    rfl
  · cases hv
    cases htruthy
  · cases hv
    cases htruthy
  · cases hv

/-- A registry file may have a key that is no text, and then the message is not built. -/
theorem key_without_text_stops_messages :
    let d : Disk := ⟨[(["rules.yaml"], .file "404: gone\n".toUTF8)]⟩
    ∃ registry kind, (Registry.load d [] (.parse "rules.yaml")).result = .ok registry ∧
      messages registry Violation.messageKey Violation.code =
        .error (.noAttribute kind "startswith") := by
  intro d
  have hfails : ((Registry.load d [] (.parse "rules.yaml")).result.toOption.any fun registry =>
      Registry.entry? registry Violation.messageKey matches .error (.noAttribute _ _)) = true := by
    decide +kernel
  cases hload : (Registry.load d [] (.parse "rules.yaml")).result with
  | error failure =>
    rw [hload] at hfails
    cases hfails
  | ok registry =>
    simp only [hload, Except.toOption, Option.any_some] at hfails
    split at hfails
    · next kind wanted herror =>
      rcases entry?_error_kind herror with ⟨⟨⟩⟩ | ⟨kind, ⟨⟩⟩
      exact ⟨registry, kind, rfl, messages_error herror _⟩
    · cases hfails

end Registry

end ImportGuard
