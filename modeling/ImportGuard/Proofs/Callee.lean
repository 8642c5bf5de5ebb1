import ImportGuard.Naming
import ImportGuard.Proofs.Dotted
import ImportGuard.Proofs.Run
import Mathlib.Data.List.Basic
import Mathlib.Data.List.Induction

namespace ImportGuard

open Text (Dotted.join Dotted.split)

/-- A name followed by attributes. -/
def Tree.dotted (root : String) (attributes : List String) : Tree :=
  attributes.foldl attr (name root)

namespace Tree

theorem dotted_snoc (root : String) (attributes : List String) (id : String) :
    dotted root (attributes ++ [id]) = attr (dotted root attributes) id :=
  List.foldl_concat ..

theorem chain?_foldl_attr (t : Tree) (attributes : List String) :
    (attributes.foldl attr t).chain? = t.chain?.map (attributes.reverse ++ ·) := by
  induction attributes generalizing t with
  | nil => simp
  | cons id attributes ih =>
    rw [List.foldl_cons, ih, chain?, Option.map_map]
    simp [Function.comp_def]

theorem chain?_dotted (root : String) (attributes : List String) :
    (dotted root attributes).chain? = some (root :: attributes).reverse := by
  rw [dotted, chain?_foldl_attr, chain?, Option.map_some, List.reverse_cons]

theorem dotted_inj {root root' : String} {attributes attributes' : List String}
    (h : dotted root attributes = dotted root' attributes') :
    root = root' ∧ attributes = attributes' := by
  have hchain := congrArg chain? h
  rw [chain?_dotted, chain?_dotted] at hchain
  exact List.cons.inj (List.reverse_injective (Option.some.inj hchain))

theorem exists_dotted_of_chain? {t : Tree} {parts : List String} (h : t.chain? = some parts) :
    ∃ root attributes, t = dotted root attributes ∧ parts = (root :: attributes).reverse := by
  fun_induction chain? t generalizing parts with
  | case1 id =>
    cases h
    exact ⟨id, [], rfl, rfl⟩
  | case2 value id ih =>
    obtain ⟨inner, hinner, rfl⟩ := Option.map_eq_some_iff.1 h
    obtain ⟨root, attributes, rfl, rfl⟩ := ih hinner
    refine ⟨root, attributes ++ [id], (dotted_snoc root attributes id).symm, ?_⟩
    rw [← List.cons_append, List.reverse_concat]
  | case3 => cases h

theorem calleeName?_dotted (root : String) (attributes : List String) :
    (dotted root attributes).calleeName? = some (Dotted.join (root :: attributes)) := by
  rw [calleeName?, chain?_dotted, Option.map_some, List.reverse_reverse]

theorem calleeName?_eq_some_iff {t : Tree} {path : String} :
    t.calleeName? = some path ↔
      ∃ root attributes, t = dotted root attributes ∧ path = Dotted.join (root :: attributes) := by
  constructor
  · intro h
    obtain ⟨parts, hparts, rfl⟩ := Option.map_eq_some_iff.1 h
    obtain ⟨root, attributes, rfl, rfl⟩ := exists_dotted_of_chain? hparts
    exact ⟨root, attributes, rfl, by rw [List.reverse_reverse]⟩
  · rintro ⟨root, attributes, rfl, rfl⟩
    exact calleeName?_dotted root attributes

theorem calleeName?_eq_none_iff {t : Tree} :
    t.calleeName? = none ↔ ∀ root attributes, t ≠ dotted root attributes := by
  constructor
  · rintro hnone root attributes rfl
    rw [calleeName?_dotted] at hnone
    cases hnone
  · intro hother
    by_contra hsome
    obtain ⟨path, hpath⟩ := Option.ne_none_iff_exists'.1 hsome
    obtain ⟨root, attributes, rfl, -⟩ := calleeName?_eq_some_iff.1 hpath
    exact hother root attributes rfl

/-- Attributes do not give a name to what has none. -/
theorem calleeName?_foldl_attr {t : Tree} (h : t.calleeName? = none) (attributes : List String) :
    (attributes.foldl attr t).calleeName? = none := by
  rw [calleeName?, Option.map_eq_none_iff] at h
  rw [calleeName?, chain?_foldl_attr, h]
  rfl

theorem split_calleeName? {root : String} {attributes : List String}
    (hparts : ∀ part ∈ root :: attributes, '.' ∉ part.toList) :
    (dotted root attributes).calleeName?.map Dotted.split = some (root :: attributes) := by
  rw [calleeName?_dotted, Option.map_some, Text.Dotted.split_join hparts (List.cons_ne_nil _ _)]

theorem calleeName?_dotted_inj {root root' : String} {attributes attributes' : List String}
    (hparts : ∀ part ∈ root :: attributes, '.' ∉ part.toList)
    (hparts' : ∀ part ∈ root' :: attributes', '.' ∉ part.toList)
    (h : (dotted root attributes).calleeName? = (dotted root' attributes').calleeName?) :
    root = root' ∧ attributes = attributes' := by
  have hsplit := congrArg (Option.map Dotted.split) h
  rw [split_calleeName? hparts, split_calleeName? hparts'] at hsplit
  exact List.cons.inj (Option.some.inj hsplit)

theorem isAttr_iff {t : Tree} : t.isAttr = true ↔ ∃ value id, t = attr value id := by
  cases t with
  | attr value id => exact iff_of_true rfl ⟨value, id, rfl⟩
  | _ => simp [isAttr]

theorem isAttr_dotted (root : String) (attributes : List String) :
    (dotted root attributes).isAttr = !attributes.isEmpty := by
  induction attributes using List.reverseRecOn with
  | nil => rfl
  | append_singleton attributes id ih =>
    rw [dotted_snoc, isAttr]
    simp

theorem two_le_parts_of_isAttr {t : Tree} {path : String} (hattr : t.isAttr)
    (hpath : t.calleeName? = some path) : 2 ≤ (Dotted.split path).length := by
  obtain ⟨root, attributes, rfl, rfl⟩ := calleeName?_eq_some_iff.1 hpath
  rw [isAttr_dotted] at hattr
  have hpos : 0 < attributes.length := by simpa [List.length_pos_iff] using hattr
  have hdots := Text.Dotted.length_le_dots_join root attributes
  rw [Text.Dotted.length_split]
  omega

end Tree

/-- A call that is not dotted leaves no trace, and a rule that does not act refuses it. -/
theorem Rule.visit_undotted (r : Rule) (line : Int) (name : Option String)
    (node : Option NodeRef) (s : Scope) :
    r.visit (.record (.call line name false node)) s =
      if r.isActive then .ok { scope := s }
      else .error (.wrongNode RecordKind.instantiation.tag
        (Record.call line name false node).quoted) := by
  cases hr : r.isActive with
  | false => exact visit_inert hr _ s
  | true =>
    rw [visit_eq_outcome hr rfl, outcome_call hr]
    cases name with
    | none => rfl
    | some name => simp [visitCall]

theorem join_isEmpty (root : String) {attributes : List String} (h : attributes ≠ []) :
    (Dotted.join (root :: attributes)).isEmpty = false := by
  cases attributes with
  | nil => exact absurd rfl h
  | cons id attributes => simp [Dotted.join, Text.glue]

namespace Tree

/-- A call has a name just if its callee is a name followed by attributes: the parts joined by dots,
which can be read back from it if they have no dots themselves. Only an attribute as callee makes a
dotted record, with a name of at least two parts, and a record that is not dotted is reported by no
rule. -/
theorem callee_name_inverts_chain (m : Module) (place : Place) (callee : Tree)
    (arguments : List Tree) :
    (call place callee arguments).records m =
      [.call place.line callee.calleeName? callee.isAttr
        (some ⟨.call, place.line, place.column⟩)] ∧
    (∀ path, callee.calleeName? = some path ↔ ∃ root attributes,
      callee = dotted root attributes ∧ path = ".".intercalate (root :: attributes)) ∧
    (callee.calleeName? = none ↔
      ∀ root attributes, callee ≠ dotted root attributes) ∧
    (callee.calleeName? = none →
      ∀ attributes : List String, (attributes.foldl attr callee).calleeName? = none) ∧
    (∀ root attributes, callee = dotted root attributes →
      (∀ part ∈ root :: attributes, '.' ∉ part.toList) →
      (∀ path, callee.calleeName? = some path →
        (path.toList.splitOn '.').map String.ofList = root :: attributes) ∧
      ∀ root' attributes', (∀ part ∈ root' :: attributes', '.' ∉ part.toList) →
        (callee.calleeName? = (dotted root' attributes').calleeName? ↔
          root = root' ∧ attributes = attributes')) ∧
    (callee.isAttr ↔ ∃ value id, callee = attr value id) ∧
    (∀ path, callee.isAttr → callee.calleeName? = some path →
      2 ≤ (path.toList.splitOn '.').length) ∧
    ∀ (r : Rule) (line : Int) (path : Option String) (node : Option NodeRef) (s : Scope),
      r.visit (.record (.call line path false node)) s =
        if r.isActive then .ok ⟨[], s, []⟩
        else .error (.wrongNode RecordKind.instantiation.tag
          (Record.call line path false node).quoted) := by
  refine ⟨rfl, ?_, calleeName?_eq_none_iff, calleeName?_foldl_attr, ?_, isAttr_iff, ?_,
    Rule.visit_undotted⟩
  · intro path
    simp only [← Text.Dotted.join_eq_intercalate]
    exact calleeName?_eq_some_iff
  · rintro root attributes rfl hparts
    constructor
    · intro path hpath
      have hsplit := split_calleeName? hparts
      rw [hpath, Option.map_some, Text.Dotted.split_eq_splitOn] at hsplit
      exact Option.some.inj hsplit
    · intro root' attributes' hparts'
      constructor
      · exact calleeName?_dotted_inj hparts hparts'
      · rintro ⟨rfl, rfl⟩
        rfl
  · intro path hattr hpath
    have hlength := two_le_parts_of_isAttr hattr hpath
    rwa [Text.Dotted.split_eq_splitOn, List.length_map] at hlength

theorem callee_name_inverts_chain_sample :
    let place : Place := ⟨3, 4⟩
    let m : Module := { name := some "app.main" }
    let callee := dotted "self" ["api", "fetch"]
    let made := call place (name "factory") []
    (∀ part ∈ ["self", "api", "fetch"], '.' ∉ part.toList) ∧
      callee.calleeName? = some "self.api.fetch" ∧
      ("self.api.fetch".toList.splitOn '.').map String.ofList = ["self", "api", "fetch"] ∧
      callee.calleeName? ≠ (dotted "self" ["fetch"]).calleeName? ∧
      (call place (dotted "self" ["api", "fetch"]) [made]).records m =
        [.call 3 (some "self.api.fetch") true (some ⟨.call, 3, 4⟩)] ∧
      (["Thing", "create"].foldl attr made).calleeName? = none := by
  intro place m callee made
  have hparts : ∀ part ∈ ["self", "api", "fetch"], '.' ∉ part.toList := by decide +kernel
  obtain ⟨hrecords, hname, -, -, hsplit, -⟩ := callee_name_inverts_chain m place callee [made]
  obtain ⟨-, -, -, hdeep, -⟩ := callee_name_inverts_chain m place made []
  have hpath : callee.calleeName? = some "self.api.fetch" :=
    (hname _).2 ⟨"self", ["api", "fetch"], rfl, by decide +kernel⟩
  obtain ⟨hback, hinj⟩ := hsplit "self" ["api", "fetch"] rfl hparts
  refine ⟨hparts, hpath, hback _ hpath, ?_, ?_, hdeep rfl _⟩
  · rw [Ne, hinj "self" ["fetch"] (by decide +kernel)]
    decide
  · rw [hrecords, hpath]
    rfl

end Tree

end ImportGuard
