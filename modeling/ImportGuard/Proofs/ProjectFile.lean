import ImportGuard.Project
import ImportGuard.Proofs.Configuration
import Mathlib.Data.List.Induction

namespace ImportGuard

open Files (Disk Entry Location)

namespace Files

variable {d : Disk} {l : Location} {bytes : ByteArray}

theorem Disk.file?_eq_some_iff : d.file? l = some bytes ↔ d.entry? l = some (.file bytes) := by
  rw [file?]
  cases d.entry? l with
  | none => simp
  | some e => cases e <;> simp

theorem Location.outwards_nil : outwards [] = [[]] := rfl

theorem Location.outwards_snoc (l : Location) (name : String) :
    outwards (l ++ [name]) = (l ++ [name]) :: outwards l := by
  have hinwards : inwards (l ++ [name]) = inwards l ++ [l ++ [name]] := by
    rw [inwards, inwards, List.length_append, List.length_singleton, List.range_succ,
      List.map_append]
    congr 1
    · apply List.map_congr_left
      intro n hn
      have hle := List.mem_range.1 hn
      rw [List.take_append_of_le_length (by omega)]
    · rw [List.map_singleton, List.take_of_length_le (by simp)]
  rw [outwards, hinwards, List.reverse_concat]
  rfl

theorem Location.mem_outwards {place : Location} : place ∈ outwards l ↔ place <+: l := by
  induction l using List.reverseRecOn with
  | nil => rw [outwards_nil, List.mem_singleton, List.prefix_nil]
  | append_singleton l name ih =>
    rw [outwards_snoc, List.mem_cons, ih, List.prefix_concat_iff]

end Files

namespace Project

/-- The place is where the search starts or lies above it. -/
def AtOrAbove (start : Option Location) (place : Location) : Prop := ∃ l ∈ start, place <+: l

/-- A project file stands in the place. A directory of that name is none. -/
def Holds (d : Disk) (place : Location) (bytes : ByteArray) : Prop :=
  d.entry? (place ++ ["pyproject.toml"]) = some (.file bytes)

/-- The first project file on the way out from the start. -/
structure Nearest (d : Disk) (start : Option Location) (place : Location) (bytes : ByteArray) :
    Prop where
  above : AtOrAbove start place
  holds : Holds d place bytes
  first : ∀ inner, AtOrAbove start inner → place.length < inner.length →
    ∀ other, ¬ Holds d inner other

def Absent (d : Disk) (start : Option Location) : Prop :=
  ∀ place, AtOrAbove start place → ∀ bytes, ¬ Holds d place bytes

/-- The second tree has the same under the name of a project file as the first, from the start up
to the nearest one; if there is none, all the way up. -/
def AgreesUpToNearest (d d' : Disk) (start : Option Location) : Prop :=
  ∀ inner, AtOrAbove start inner →
    (∀ place bytes, Nearest d start place bytes → place.length ≤ inner.length) →
    d'.entry? (inner ++ ["pyproject.toml"]) = d.entry? (inner ++ ["pyproject.toml"])

/-- The value under `tool` is something else than a table and not empty. -/
def ToolUnusable (file : Table) : Prop :=
  ∃ v, file.get? "tool" = some v ∧ v.isTruthy ∧ ∀ tool, v ≠ .table tool

/-- The file has the table as its configuration. -/
def Configures (file t : Table) : Prop :=
  ∃ tool, file.get? "tool" = some (.table tool) ∧
    Table.get? tool "forbid-imports" = some (.table t)

variable {d d' : Disk} {start : Option Location} {l place place' : Location}
  {bytes bytes' : ByteArray} {file t : Table}

theorem atOrAbove_some : AtOrAbove (some l) place ↔ place <+: l := by
  simp [AtOrAbove]

theorem file?_eq_some_iff_holds :
    d.file? (place ++ [fileName]) = some bytes ↔ Holds d place bytes :=
  Files.Disk.file?_eq_some_iff

theorem file?_eq_none_iff_holds :
    d.file? (place ++ [fileName]) = none ↔ ∀ bytes, ¬ Holds d place bytes := by
  rw [Option.eq_none_iff_forall_ne_some]
  simp only [ne_eq, file?_eq_some_iff_holds]

theorem nearest?_snoc (d : Disk) (l : Location) (name : String) :
    nearest? d (l ++ [name]) = (d.file? (l ++ [name] ++ [fileName])).or (nearest? d l) := by
  rw [nearest?, Location.outwards_snoc, List.findSome?_cons]
  cases d.file? (l ++ [name] ++ [fileName]) <;> rfl

theorem Nearest.snoc (h : Nearest d (some l) place bytes) {name : String}
    (hname : ∀ other, ¬ Holds d (l ++ [name]) other) :
    Nearest d (some (l ++ [name])) place bytes := by
  refine ⟨?_, h.holds, ?_⟩
  · rw [atOrAbove_some, List.prefix_concat_iff]
    exact .inr (atOrAbove_some.1 h.above)
  · intro inner hinner hlength
    rcases List.prefix_concat_iff.1 (atOrAbove_some.1 hinner) with rfl | hinner
    · exact hname
    · exact h.first inner (atOrAbove_some.2 hinner) hlength

theorem Nearest.here (h : Holds d l bytes) : Nearest d (some l) l bytes := by
  refine ⟨atOrAbove_some.2 (List.prefix_refl l), h, ?_⟩
  intro inner hinner hlength
  have hle := (atOrAbove_some.1 hinner).length_le
  omega

/-- The search finds the nearest project file, and finds nothing only if there is none. -/
theorem nearest?_cases (d : Disk) (l : Location) :
    (∃ place bytes, nearest? d l = some bytes ∧ Nearest d (some l) place bytes) ∨
      nearest? d l = none ∧ Absent d (some l) := by
  induction l using List.reverseRecOn with
  | nil =>
    have hroot : nearest? d [] = d.file? ([] ++ [fileName]) := by
      rw [nearest?, Location.outwards_nil, List.findSome?_singleton]
    cases hfile : d.file? ([] ++ [fileName]) with
    | some bytes =>
      exact .inl ⟨[], bytes, hroot.trans hfile, .here (file?_eq_some_iff_holds.1 hfile)⟩
    | none =>
      refine .inr ⟨hroot.trans hfile, ?_⟩
      intro place hplace
      rw [atOrAbove_some, List.prefix_nil] at hplace
      rw [hplace]
      exact file?_eq_none_iff_holds.1 hfile
  | append_singleton l name ih =>
    rw [nearest?_snoc]
    cases hfile : d.file? (l ++ [name] ++ [fileName]) with
    | some bytes =>
      exact .inl ⟨l ++ [name], bytes, rfl, .here (file?_eq_some_iff_holds.1 hfile)⟩
    | none =>
      have hname := file?_eq_none_iff_holds.1 hfile
      rw [Option.none_or]
      rcases ih with ⟨place, bytes, hfound, hnearest⟩ | ⟨hnone, habsent⟩
      · exact .inl ⟨place, bytes, hfound, hnearest.snoc hname⟩
      · refine .inr ⟨hnone, ?_⟩
        intro place hplace
        rcases List.prefix_concat_iff.1 (atOrAbove_some.1 hplace) with rfl | hplace
        · exact hname
        · exact habsent place (atOrAbove_some.2 hplace)

theorem Nearest.unique (h : Nearest d start place bytes) (h' : Nearest d start place' bytes') :
    place = place' ∧ bytes = bytes' := by
  have hlength : place.length = place'.length := by
    rcases Nat.lt_trichotomy place.length place'.length with hlt | heq | hlt
    · exact absurd h'.holds (h.first place' h'.above hlt bytes')
    · exact heq
    · exact absurd h.holds (h'.first place h.above hlt bytes)
  obtain ⟨l, hl, hplace⟩ := h.above
  obtain ⟨l', hl', hplace'⟩ := h'.above
  cases Option.some.inj (hl.symm.trans hl')
  have heq : place = place' :=
    (List.prefix_of_prefix_length_le hplace hplace' (Nat.le_of_eq hlength)).eq_of_length hlength
  subst heq
  refine ⟨rfl, ?_⟩
  cases h.holds.symm.trans h'.holds
  rfl

theorem load_cases (d : Disk) (start : Option Location) :
    (∃ place bytes, Nearest d start place bytes ∧ load d start = ofBytes bytes) ∨
      Absent d start ∧ load d start = .ok [] := by
  cases start with
  | none =>
    refine .inr ⟨?_, rfl⟩
    rintro place ⟨l, hl, -⟩
    cases hl
  | some l =>
    rw [load]
    rcases nearest?_cases d l with ⟨place, bytes, hfound, hnearest⟩ | ⟨hnone, habsent⟩
    · exact .inl ⟨place, bytes, hnearest, by rw [hfound]⟩
    · exact .inr ⟨habsent, by rw [hnone]; rfl⟩

theorem Nearest.load_eq (h : Nearest d start place bytes) : load d start = ofBytes bytes := by
  rcases load_cases d start with ⟨place', bytes', hnearest, hload⟩ | ⟨habsent, -⟩
  · rw [hload, (h.unique hnearest).2]
  · exact absurd h.holds (habsent place h.above bytes)

theorem Absent.load_eq (h : Absent d start) : load d start = .ok [] := by
  rcases load_cases d start with ⟨place, bytes, hnearest, -⟩ | ⟨-, hload⟩
  · exact absurd hnearest.holds (h place hnearest.above bytes)
  · exact hload

theorem Nearest.transfer (h : Nearest d start place bytes) (hagree : AgreesUpToNearest d d' start) :
    Nearest d' start place bytes := by
  have hinner (inner : Location) (habove : AtOrAbove start inner)
      (hle : place.length ≤ inner.length) (other : ByteArray) :
      Holds d' inner other ↔ Holds d inner other := by
    have hentry := hagree inner habove fun place' bytes' h' => (h.unique h').1 ▸ hle
    rw [Holds, Holds, hentry]
  refine ⟨h.above, (hinner place h.above (Nat.le_refl _) bytes).2 h.holds, ?_⟩
  intro inner habove hlt other hother
  exact h.first inner habove hlt other ((hinner inner habove (Nat.le_of_lt hlt) other).1 hother)

theorem Absent.transfer (h : Absent d start) (hagree : AgreesUpToNearest d d' start) :
    Absent d' start := by
  intro place habove bytes hholds
  have hentry := hagree place habove
    fun place' bytes' h' => absurd h'.holds (h place' h'.above bytes')
  rw [Holds, hentry] at hholds
  exact h place habove bytes hholds

theorem load_congr (hagree : AgreesUpToNearest d d' start) : load d' start = load d start := by
  rcases load_cases d start with ⟨place, bytes, hnearest, hload⟩ | ⟨habsent, hload⟩
  · rw [hload, (hnearest.transfer hagree).load_eq]
  · rw [hload, (habsent.transfer hagree).load_eq]

theorem tableIn_unusable (h : ToolUnusable file) :
    ∃ kind, tableIn file = .error (.noAttribute kind "get") := by
  obtain ⟨v, hv, htruthy, hother⟩ := h
  refine ⟨v.fullKindName, ?_⟩
  rw [tableIn, hv]
  cases v with
  | table tool => exact absurd rfl (hother tool)
  | _ => exact if_pos htruthy

theorem tableIn_configures (h : Configures file t) : tableIn file = .ok t := by
  obtain ⟨tool, htool, ht⟩ := h
  have hname : Table.get? tool tableName = some (.table t) := ht
  rw [tableIn, htool]
  simp only [hname]
  rfl

theorem tableIn_empty (h : ¬ ToolUnusable file) (hnone : ∀ t, ¬ Configures file t) :
    tableIn file = .ok [] := by
  rw [tableIn]
  cases htool : file.get? "tool" with
  | none => rfl
  | some v =>
    by_cases htable : ∃ tool, v = .table tool
    · obtain ⟨tool, rfl⟩ := htable
      cases hname : Table.get? tool tableName with
      | none => simp only [hname]; rfl
      | some w =>
        cases w with
        | table t => exact absurd ⟨tool, htool, hname⟩ (hnone t)
        | _ => simp only [hname]; rfl
    · have hfalsy : ¬ v.isTruthy := fun htruthy =>
        h ⟨v, htool, htruthy, fun tool hv => htable ⟨tool, hv⟩⟩
      cases v with
      | table tool => exact absurd ⟨tool, rfl⟩ htable
      | _ => exact if_neg hfalsy

theorem tableIn_noAttribute_iff :
    (∃ kind wanted, tableIn file = .error (.noAttribute kind wanted)) ↔ ToolUnusable file := by
  constructor
  · rintro ⟨kind, wanted, herror⟩
    by_contra h
    by_cases hsome : ∃ t, Configures file t
    · obtain ⟨t, ht⟩ := hsome
      rw [tableIn_configures ht] at herror
      cases herror
    · rw [tableIn_empty h fun t ht => hsome ⟨t, ht⟩] at herror
      cases herror
  · intro h
    obtain ⟨kind, hkind⟩ := tableIn_unusable h
    exact ⟨kind, "get", hkind⟩

theorem ofBytes_eq {text : String} (htext : String.fromUTF8? bytes = some text) :
    ofBytes bytes = match Toml.parse text with
      | none => .error .badToml
      | some file => tableIn file := by
  rw [ofBytes, htext]
  rfl

/-- From every start there is a nearest project file or none at all, and then the configuration is
empty. The nearest file fails as it cannot be read, is refused if its `tool` is something else than
a table, and otherwise gives its configuration table or an empty one. Trees that agree up to this
file give the same. -/
theorem nearest_project_file_decides (d : Disk) (start : Option Location) :
    ((∃ place bytes, Nearest d start place bytes) ∨ Absent d start) ∧
    (Absent d start → load d start = .ok []) ∧
    (∀ place bytes, Nearest d start place bytes →
      (String.fromUTF8? bytes = none → load d start = .error .badEncoding) ∧
      ∀ text, String.fromUTF8? bytes = some text →
        (Toml.parse text = none → load d start = .error .badToml) ∧
        ∀ file, Toml.parse text = some file →
          ((∃ kind wanted, load d start = .error (.noAttribute kind wanted)) ↔
            ToolUnusable file) ∧
          (∀ t, Configures file t → load d start = .ok t) ∧
          (¬ ToolUnusable file → (∀ t, ¬ Configures file t) → load d start = .ok [])) ∧
    ∀ d', AgreesUpToNearest d d' start → load d' start = load d start := by
  refine ⟨?_, Absent.load_eq, ?_, fun d' => load_congr⟩
  · rcases load_cases d start with ⟨place, bytes, hnearest, -⟩ | ⟨habsent, -⟩
    · exact .inl ⟨place, bytes, hnearest⟩
    · exact .inr habsent
  · intro place bytes hnearest
    rw [hnearest.load_eq]
    constructor
    · intro hnone
      rw [ofBytes, hnone]
      rfl
    · intro text htext
      rw [ofBytes_eq htext]
      constructor
      · intro hnone
        rw [hnone]
      · intro file hfile
        rw [hfile]
        exact ⟨tableIn_noAttribute_iff, fun t => tableIn_configures, tableIn_empty⟩

theorem nearest_project_file_decides_sample :
    let bytes := "[tool.forbid-imports]\nclass_name_regexp = \"A\"\n".toUTF8
    let d : Disk := ⟨[(["pyproject.toml"], .file "=".toUTF8),
      (["src", "pyproject.toml"], .file bytes), (["src", "app", "pyproject.toml"], .directory)]⟩
    let d' : Disk := ⟨[(["src", "pyproject.toml"], .file bytes), (["src", "setup.py"], .file bytes),
      (["src", "app", "pyproject.toml"], .directory)]⟩
    let start := some ["src", "app", "core"]
    Nearest d start ["src"] bytes ∧ AgreesUpToNearest d d' start ∧
      load d' start = load d start ∧
      (∃ t, load d start = .ok t ∧ Table.get? t "class_name_regexp" = some (.text "A")) ∧
      load d (some []) = .error .badToml := by
  intro bytes d d' start
  have hways (inner : Location) (habove : AtOrAbove start inner) :
      inner = ["src", "app", "core"] ∨ inner = ["src", "app"] ∨ inner = ["src"] ∨ inner = [] := by
    have hmem : inner ∈ [["src", "app", "core"], ["src", "app"], ["src"], []] :=
      Location.mem_outwards.2 (atOrAbove_some.1 habove)
    simpa using hmem
  have hnearest : Nearest d start ["src"] bytes := by
    refine ⟨⟨_, rfl, ["app", "core"], rfl⟩, rfl, ?_⟩
    intro inner habove hlength other hholds
    rcases hways inner habove with rfl | rfl | rfl | rfl
    · cases hholds
    · cases hholds
    · exact absurd hlength (by decide)
    · exact absurd hlength (by decide)
  have hagree : AgreesUpToNearest d d' start := by
    intro inner habove hlength
    rcases hways inner habove with rfl | rfl | rfl | rfl
    · rfl
    · rfl
    · rfl
    · exact absurd (hlength ["src"] bytes hnearest) (by decide)
  have hroot : Nearest d (some []) [] "=".toUTF8 := .here rfl
  obtain ⟨-, -, -, hframe⟩ := nearest_project_file_decides d start
  obtain ⟨-, -, hbroken, -⟩ := nearest_project_file_decides d (some [])
  refine ⟨hnearest, hagree, hframe d' hagree, ?_, ?_⟩
  · have hvalue : ((load d start).toOption.any fun t =>
        (Table.get? t "class_name_regexp").any (·.sameKey (.text "A"))) = true := by decide +kernel
    cases hload : load d start with
    | error failure =>
      rw [hload] at hvalue
      cases hvalue
    | ok t =>
      rw [hload] at hvalue
      have htext : (Table.get? t "class_name_regexp").any (·.sameKey (.text "A")) = true := hvalue
      obtain ⟨v, hv, hsame⟩ := (Option.any_eq_true _ _).1 htext
      rw [Value.sameKey_text] at hsame
      exact ⟨t, rfl, hsame ▸ hv⟩
  · have htext : String.fromUTF8? "=".toUTF8 = some "=" := by decide +kernel
    have hnone : Toml.parse "=" = none := Option.isNone_iff_eq_none.1 (by decide +kernel)
    exact ((hbroken [] _ hroot).2 "=" htext).1 hnone

end Project

end ImportGuard
