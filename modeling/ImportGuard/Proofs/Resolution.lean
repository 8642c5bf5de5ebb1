import ImportGuard.Naming
import ImportGuard.Proofs.Dotted

namespace ImportGuard

open Text Text.Dotted

theorem append_eq_intercalate (base part : String) :
    Dotted.append base part = ".".intercalate ([base, part].filter (· ≠ "")) := by
  rw [Dotted.append]
  by_cases hbase : base = "" <;> by_cases hpart : part = "" <;> simp [hbase, hpart]

namespace Module

variable {m : Module} {name : String}

/-- A package is its own package, and any other module lies in the package before its last dot. -/
theorem packageName_by_last_dot (hname : m.name = some name) :
    if m.isPackage then m.packageName = name
    else if '.' ∈ name.toList then
      ∃ last : String, '.' ∉ last.toList ∧ name = m.packageName ++ "." ++ last
    else m.packageName = "" := by
  simp only [packageName, hname, Option.getD_some]
  split
  · rfl
  · have hdots : '.' ∈ name.toList ↔ 0 < dots name := by rw [dots_eq_count, List.count_pos_iff]
    rw [Dotted.parent]
    split
    · rename_i hdot
      have hpos := hdots.1 hdot
      obtain ⟨removed, hlength, hparts, hsplit⟩ := eq_dropLast_append hpos
      obtain ⟨last, rfl⟩ := List.length_eq_one_iff.1 hlength
      rw [if_neg (Nat.ne_of_gt hpos)]
      refine ⟨last, hparts last List.mem_cons_self, ?_⟩
      simpa [String.append_assoc] using hsplit
    · rename_i hdot
      exact if_pos (Nat.eq_zero_of_not_pos (mt hdots.2 hdot))

/-- The two ways to count agree: dots of the name for the levels, and dots of the package for the
levels after the first. -/
theorem absolute?_eq (hname : m.name = some name) (hfile : m.neighbours = none) (part : String)
    {level : Nat} (hlevel : 1 ≤ level) :
    m.absolute? part level =
      if (m.isPackage ∨ 0 < dots name) ∧ level - 1 ≤ dots m.packageName then
        some (Dotted.append (dropLast (level - 1) m.packageName) part)
      else none := by
  have hbeside : m.isBeside part = false := by simp [isBeside, hfile]
  cases hpackage : m.isPackage with
  | true =>
    simp only [absolute?, packageName, hname, hpackage, Option.getD_some, ↓reduceIte, true_or,
      true_and]
    by_cases hup : level - 1 ≤ dots name
    · rw [if_pos hup, if_neg (by simp; omega)]
    · rw [if_neg hup, if_pos (by simp; omega)]
  | false =>
    simp only [absolute?, packageName, hname, hpackage, hbeside, Option.getD_some,
      Bool.false_eq_true, ↓reduceIte, false_or]
    by_cases hdot : dots name = 0
    · rw [if_pos (by simp; omega), if_neg (by omega)]
    · -- The package has one dot less than the name, and that dot makes up for the first level.
      have hparent : Dotted.parent name = dropLast 1 name := by rw [Dotted.parent, if_neg hdot]
      rw [hparent, dots_dropLast, dropLast_dropLast, Nat.sub_add_cancel hlevel]
      by_cases hup : level ≤ dots name
      · rw [if_neg (by simp; omega), if_pos (by omega)]
      · rw [if_pos (by simp; omega), if_neg (by omega)]

theorem importBase_eq (hname : m.name = some name) (hfile : m.neighbours = none)
    (part : Option String) {level : Nat} (hlevel : 1 ≤ level) :
    m.importBase part level =
      if (m.isPackage ∨ 0 < dots name) ∧ level - 1 ≤ dots m.packageName then
        Dotted.append (dropLast (level - 1) m.packageName) (part.getD "")
      else part.getD "" := by
  have hzero : level ≠ 0 := by omega
  simp only [importBase, if_neg hzero, absolute?_eq hname hfile _ hlevel]
  split <;> rfl

/-- Let the module be a package or have a dot in its name, and let its package have a dot for each
level after the first. Then a relative import starts from the package without its last parts, as
many as there are further levels. In every other case it starts from nothing. Each name that is
imported stands behind a dot after what the import starts from. -/
theorem relative_import_resolved (hname : m.name = some name) (hfile : m.neighbours = none)
    {level : Nat} (hlevel : 1 ≤ level) (place : Place) (part : Option String)
    (names : List String) :
    let package := m.packageName
    let up := level - 1
    let resolved := m.importBase part level
    let reachable := (m.isPackage ∨ '.' ∈ name.toList) ∧ up ≤ package.toList.count '.'
    (if m.isPackage then package = name
      else if '.' ∈ name.toList then
        ∃ last : String, '.' ∉ last.toList ∧ name = package ++ "." ++ last
      else package = "") ∧
    (reachable → ∃ (base : String) (removed : List String),
      removed.length = up ∧ (∀ last ∈ removed, '.' ∉ last.toList) ∧
      package = base ++ String.join (removed.map ("." ++ ·)) ∧
      resolved = ".".intercalate ([base, part.getD ""].filter (· ≠ ""))) ∧
    (¬ reachable → resolved = part.getD "") ∧
    (Tree.importFrom place part level names).importedNames m =
      (names.filter (· ≠ "*")).map fun id =>
        if resolved = "" then id else resolved ++ "." ++ id := by
  intro package up resolved reachable
  have hbase := importBase_eq hname hfile part hlevel
  have hreachable : reachable ↔ (m.isPackage ∨ 0 < dots name) ∧ up ≤ dots package := by
    rw [dots_eq_count, dots_eq_count, List.count_pos_iff]
  refine ⟨packageName_by_last_dot hname, ?_, ?_, ?_⟩
  · intro h
    obtain ⟨removed, hlength, hparts, hsplit⟩ := eq_dropLast_append (hreachable.1 h).2
    refine ⟨dropLast up package, removed, hlength, hparts, hsplit, ?_⟩
    rw [← append_eq_intercalate]
    exact hbase.trans (if_pos (hreachable.1 h))
  · intro h
    exact hbase.trans (if_neg (mt hreachable.2 h))
  · simp only [Tree.importedNames, String.isEmpty_iff, ne_eq, decide_not]
    congr

theorem relative_import_resolved_sample :
    let m : Module := { name := some "app.web.views" }
    let names := ["models", "*", "forms"]
    (∃ (base : String) (removed : List String), removed.length = 1 ∧
        "app.web" = base ++ String.join (removed.map ("." ++ ·)) ∧
        m.importBase (some "data") 2 = ".".intercalate ([base, "data"].filter (· ≠ ""))) ∧
      (Tree.importFrom ⟨1, 0⟩ (some "data") 2 names).importedNames m =
        ["app.data.models", "app.data.forms"] ∧
      (Tree.importFrom ⟨2, 0⟩ none 3 names).importedNames m = ["models", "forms"] := by
  intro m names
  have hpackage : m.packageName = "app.web" := by decide +kernel
  have hname : m.name = some "app.web.views" := rfl
  obtain ⟨-, hreached, -, hnear⟩ :=
    relative_import_resolved hname rfl (by decide : 1 ≤ 2) ⟨1, 0⟩ (some "data") names
  obtain ⟨-, -, hpassed, hfar⟩ :=
    relative_import_resolved hname rfl (by decide : 1 ≤ 3) ⟨2, 0⟩ none names
  rw [hpackage] at hreached hpassed
  obtain ⟨base, removed, hlength, -, hsplit, hresolved⟩ := hreached (by decide +kernel)
  refine ⟨⟨base, removed, hlength, hsplit, hresolved⟩, ?_, ?_⟩
  · rw [hnear]
    decide +kernel
  · rw [hfar, hpassed (by decide +kernel)]
    decide +kernel

end Module

end ImportGuard
