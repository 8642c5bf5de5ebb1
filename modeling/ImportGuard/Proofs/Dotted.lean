import ImportGuard.Text.Dotted
import Mathlib.Data.List.Basic

namespace ImportGuard.Text

variable {mark : Char} {ps : List (List Char)}

theorem pieces_eq_splitOn (mark : Char) (cs : List Char) : pieces mark cs = cs.splitOn mark := by
  induction cs with
  | nil => rfl
  | cons c cs ih =>
    rw [pieces, List.splitOn_cons_eq_if_modifyHead, ih]
    obtain ⟨piece, rest, hsplit⟩ := List.exists_cons_of_ne_nil (List.splitOn_ne_nil mark cs)
    simp only [hsplit, beq_iff_eq, List.modifyHead_cons]

theorem glue_eq_intercalate (mark : Char) (ps : List (List Char)) :
    glue mark ps = [mark].intercalate ps := by
  induction ps with
  | nil => rfl
  | cons piece rest ih =>
    cases rest with
    | nil => exact List.intercalate_singleton.symm
    | cons next rest =>
      rw [List.intercalate_cons_cons, ← ih, List.append_assoc]
      rfl

theorem glue_pieces (mark : Char) (cs : List Char) : glue mark (pieces mark cs) = cs := by
  rw [glue_eq_intercalate, pieces_eq_splitOn, List.intercalate_splitOn]

theorem pieces_glue (hps : ∀ piece ∈ ps, mark ∉ piece) (hne : ps ≠ []) :
    pieces mark (glue mark ps) = ps := by
  rw [glue_eq_intercalate, pieces_eq_splitOn, List.splitOn_intercalate mark hps hne]

theorem length_pieces (mark : Char) (cs : List Char) :
    (pieces mark cs).length = cs.count mark + 1 := by
  rw [pieces_eq_splitOn]
  induction cs with
  | nil => rfl
  | cons c cs ih =>
    rw [List.splitOn_cons_eq_if_modifyHead, List.count_cons]
    by_cases hc : c = mark <;> simp [hc, ih]

theorem not_mem_of_mem_pieces {cs piece : List Char} (h : piece ∈ pieces mark cs) :
    mark ∉ piece := by
  rw [pieces_eq_splitOn] at h
  induction cs generalizing piece with
  | nil =>
    rw [List.splitOn_nil, List.mem_singleton] at h
    rw [h]
    exact List.not_mem_nil
  | cons c cs ih =>
    rw [List.splitOn_cons_eq_if_modifyHead] at h
    by_cases hc : c = mark
    · rw [if_pos (beq_iff_eq.2 hc)] at h
      rcases List.mem_cons.1 h with rfl | h
      · exact List.not_mem_nil
      · exact ih h
    · obtain ⟨first, rest, hsplit⟩ := List.exists_cons_of_ne_nil (List.splitOn_ne_nil mark cs)
      rw [if_neg (mt beq_iff_eq.1 hc), hsplit, List.modifyHead_cons] at h
      rw [hsplit] at ih
      rcases List.mem_cons.1 h with rfl | h
      · have hfirst := ih List.mem_cons_self
        simp [hfirst, Ne.symm hc]
      · exact ih (List.mem_cons_of_mem _ h)

theorem glue_cons (mark : Char) (piece : List Char) (rest : List (List Char)) :
    glue mark (piece :: rest) = piece ++ rest.flatMap (mark :: ·) := by
  induction rest generalizing piece with
  | nil => exact (List.append_nil piece).symm
  | cons next rest ih =>
    change piece ++ mark :: glue mark (next :: rest) = _
    rw [ih]
    rfl

theorem glue_append (hne : ps ≠ []) (qs : List (List Char)) :
    glue mark (ps ++ qs) = glue mark ps ++ qs.flatMap (mark :: ·) := by
  obtain ⟨piece, rest, rfl⟩ := List.exists_cons_of_ne_nil hne
  rw [List.cons_append, glue_cons, glue_cons, List.flatMap_append, List.append_assoc]

namespace Dotted

variable {parts : List String} {name : String} {k : Nat}

theorem split_ne_nil (name : String) : split name ≠ [] := by
  simp [split, pieces_eq_splitOn]

theorem join_split (name : String) : join (split name) = name := by
  simp only [join, split, List.map_map, Function.comp_def, String.toList_ofList, List.map_id',
    glue_pieces, String.ofList_toList]

theorem split_join (hparts : ∀ part ∈ parts, '.' ∉ part.toList) (hne : parts ≠ []) :
    split (join parts) = parts := by
  have hpieces : ∀ piece ∈ parts.map String.toList, '.' ∉ piece := by
    intro piece hpiece
    obtain ⟨part, hpart, rfl⟩ := List.mem_map.1 hpiece
    exact hparts part hpart
  have hmap : parts.map String.toList ≠ [] := by simpa using hne
  rw [split, join, String.toList_ofList, pieces_glue hpieces hmap, List.map_map]
  simp only [Function.comp_def, String.ofList_toList, List.map_id']

theorem split_eq_splitOn (name : String) :
    split name = (name.toList.splitOn '.').map String.ofList := by
  rw [split, pieces_eq_splitOn]

theorem join_eq_intercalate (parts : List String) : join parts = ".".intercalate parts := by
  rw [← String.toList_inj, join, String.toList_ofList, glue_eq_intercalate,
    String.toList_intercalate]
  rfl

theorem not_mem_of_mem_split {part : String} (h : part ∈ split name) : '.' ∉ part.toList := by
  obtain ⟨piece, hpiece, rfl⟩ := List.mem_map.1 h
  rw [String.toList_ofList]
  exact not_mem_of_mem_pieces hpiece

theorem length_split (name : String) : (split name).length = dots name + 1 := by
  have hpos := List.length_pos_of_ne_nil (split_ne_nil name)
  rw [dots]
  omega

theorem dots_eq_count (name : String) : dots name = name.toList.count '.' := by
  rw [dots, split, List.length_map, length_pieces, Nat.add_sub_cancel]

theorem join_append (hne : parts ≠ []) (more : List String) :
    join (parts ++ more) = join parts ++ String.join (more.map ("." ++ ·)) := by
  have hmap : parts.map String.toList ≠ [] := by simpa using hne
  rw [← String.toList_inj, join, join, List.map_append, glue_append hmap, String.toList_append,
    String.toList_ofList, String.toList_ofList, String.toList_join, List.flatMap_map,
    List.flatMap_map]
  simp only [String.toList_append]
  rfl

theorem length_le_dots_join (part : String) (parts : List String) :
    parts.length ≤ dots (join (part :: parts)) := by
  rw [dots_eq_count, join, String.toList_ofList, List.map_cons, glue_cons, List.count_append]
  apply Nat.le_add_left_of_le
  induction parts with
  | nil => exact Nat.zero_le _
  | cons next parts ih =>
    rw [List.map_cons, List.flatMap_cons, List.count_append, List.count_cons_self,
      List.length_cons]
    omega

theorem split_dropLast (n : Nat) (name : String) :
    split (dropLast n name) = (split name).take (max 1 ((split name).length - n)) := by
  apply split_join
  · intro part hpart
    exact not_mem_of_mem_split (List.mem_of_mem_take hpart)
  · have hpos := List.length_pos_of_ne_nil (split_ne_nil name)
    intro hnil
    have hlength := congrArg List.length hnil
    rw [List.length_take, List.length_nil] at hlength
    omega

theorem dots_dropLast (n : Nat) (name : String) : dots (dropLast n name) = dots name - n := by
  have hlength := congrArg List.length (split_dropLast n name)
  rw [List.length_take, length_split, length_split] at hlength
  omega

theorem dropLast_dropLast (k n : Nat) (name : String) :
    dropLast k (dropLast n name) = dropLast (k + n) name := by
  have hpos := List.length_pos_of_ne_nil (split_ne_nil name)
  rw [dropLast, split_dropLast, List.take_take, List.length_take, dropLast]
  congr 2
  omega

/-- What is left out are parts, each behind a dot. -/
theorem eq_dropLast_append (h : k ≤ dots name) :
    ∃ removed : List String, removed.length = k ∧ (∀ part ∈ removed, '.' ∉ part.toList) ∧
      name = dropLast k name ++ String.join (removed.map ("." ++ ·)) := by
  have hlength := length_split name
  have hkept : max 1 ((split name).length - k) = (split name).length - k := by omega
  refine ⟨(split name).drop ((split name).length - k), ?_, ?_, ?_⟩
  · rw [List.length_drop]
    omega
  · intro part hpart
    exact not_mem_of_mem_split (List.mem_of_mem_drop hpart)
  · have hne : (split name).take ((split name).length - k) ≠ [] := by
      intro hnil
      have hzero := congrArg List.length hnil
      rw [List.length_take, List.length_nil] at hzero
      omega
    rw [dropLast, hkept, ← join_append hne, List.take_append_drop, join_split]

end Dotted

end ImportGuard.Text
