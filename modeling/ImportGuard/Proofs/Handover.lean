import ImportGuard.Proofs.Queue
import Mathlib.Data.List.Basic

namespace ImportGuard

namespace Pending

/-- Lists that are changed in place. A list has a number, and a change shows to all who know it. -/
structure Memory where
  lists : List (List Import)

namespace Memory

variable {m : Memory} {a b : Nat} {i : Import}

def read (m : Memory) (a : Nat) : List Import := m.lists[a]?.getD []

def push (m : Memory) (a : Nat) (i : Import) : Memory := ⟨m.lists.modify a (· ++ [i])⟩

/-- The number that the next new list gets. -/
def fresh (m : Memory) : Nat := m.lists.length

def create (m : Memory) (is : List Import) : Memory := ⟨m.lists ++ [is]⟩

theorem read_push_self (h : a < m.fresh) : (m.push a i).read a = m.read a ++ [i] := by
  rw [fresh] at h
  simp [read, push, h]

theorem read_push_of_ne (h : a ≠ b) : (m.push b i).read a = m.read a := by
  simp [read, push, h.symm]

theorem fresh_push (m : Memory) (a : Nat) (i : Import) : (m.push a i).fresh = m.fresh :=
  List.length_modify _ _ _

@[simp] theorem read_create_fresh (m : Memory) (is : List Import) :
    (m.create is).read m.fresh = is := by
  simp [read, create, fresh]

theorem read_create_of_lt (h : a < m.fresh) (is : List Import) :
    (m.create is).read a = m.read a := by
  rw [read, create, List.getElem?_append_left h, read]

theorem fresh_lt_create (m : Memory) (is : List Import) : m.fresh < (m.create is).fresh := by
  simp [create, fresh]

end Memory

/-- An iteration under way: the list that it goes through and its place there. It is dropped when it
comes to the end, and does not go on if the list grows later. -/
abbrev Cursor := Option (Nat × Nat)

def Memory.rest (m : Memory) : Cursor → List Import
  | some (a, place) => (m.read a).drop place
  | none => []

/-- A queue in use, in memory: the list that imports are appended to, the lists that were handed
out, and the iterations. -/
structure Stored where
  memory : Memory := ⟨[[]]⟩
  pending : Nat := 0
  handedOut : List Nat := []
  cursors : List Cursor := []

namespace Stored

def step (s : Stored) : Step → Answer × Stored
  | .defer i => (.nothing, { s with memory := s.memory.push s.pending i })
  | .flush =>
    -- The list itself goes out, and the queue goes on with a new one.
    (.flushed (s.memory.read s.pending),
      { s with
        memory := s.memory.create []
        pending := s.memory.fresh
        handedOut := s.handedOut ++ [s.pending] })
  | .iterate =>
    -- The iteration goes through a copy.
    (.nothing,
      { s with
        memory := s.memory.create (s.memory.read s.pending)
        cursors := s.cursors ++ [some (s.memory.fresh, 0)] })
  | .next k =>
    match s.cursors[k]? with
    | some (some (a, place)) =>
      match (s.memory.read a)[place]? with
      | some i => (.yielded (some i), { s with cursors := s.cursors.set k (some (a, place + 1)) })
      | none => (.yielded none, { s with cursors := s.cursors.set k none })
    | _ => (.yielded none, s)

def after (s : Stored) (xs : List Step) : Stored := xs.foldl (fun s x => (s.step x).2) s

/-- What stands in the lists at the moment. -/
def view (s : Stored) : InUse where
  queue := ⟨s.memory.read s.pending⟩
  handedOut := s.handedOut.map s.memory.read
  iterations := s.cursors.map s.memory.rest

def Apart (s : Stored) (a : Nat) : Prop := a < s.memory.fresh ∧ a ≠ s.pending

/-- No one but the queue knows the list that imports are appended to. -/
structure Unshared (s : Stored) : Prop where
  pending_lt : s.pending < s.memory.fresh
  handedOut_apart : ∀ a ∈ s.handedOut, s.Apart a
  cursors_apart : ∀ a place, some (a, place) ∈ s.cursors → s.Apart a

variable {s : Stored}

/-- A change of the memory that leaves the lists known outside as they are does not show there. -/
theorem Unshared.view_congr (h : s.Unshared) {m : Memory}
    (hm : ∀ a, s.Apart a → m.read a = s.memory.read a) :
    s.handedOut.map m.read = s.handedOut.map s.memory.read ∧
      s.cursors.map m.rest = s.cursors.map s.memory.rest := by
  constructor
  · apply List.map_congr_left
    intro a ha
    exact hm a (h.handedOut_apart a ha)
  · apply List.map_congr_left
    intro c hc
    cases c with
    | none => rfl
    | some c =>
      obtain ⟨a, place⟩ := c
      rw [Memory.rest, Memory.rest, hm a (h.cursors_apart a place hc)]

theorem Unshared.grow (h : s.Unshared) {m : Memory} (hm : s.memory.fresh ≤ m.fresh) :
    Unshared { s with memory := m } := by
  refine ⟨Nat.lt_of_lt_of_le h.pending_lt hm, ?_, ?_⟩
  · intro a ha
    obtain ⟨hlt, hne⟩ := h.handedOut_apart a ha
    exact ⟨Nat.lt_of_lt_of_le hlt hm, hne⟩
  · intro a place hmem
    obtain ⟨hlt, hne⟩ := h.cursors_apart a place hmem
    exact ⟨Nat.lt_of_lt_of_le hlt hm, hne⟩

theorem Unshared.set_cursor (h : s.Unshared) (k : Nat) {c : Cursor}
    (hc : ∀ a place, c = some (a, place) → s.Apart a) :
    Unshared { s with cursors := s.cursors.set k c } := by
  refine ⟨h.pending_lt, h.handedOut_apart, ?_⟩
  intro a place hmem
  rcases List.mem_or_eq_of_mem_set hmem with hmem | heq
  · exact h.cursors_apart a place hmem
  · exact hc a place heq.symm

theorem Unshared.step (h : s.Unshared) (x : Step) : (s.step x).2.Unshared := by
  cases x with
  | defer i =>
    apply h.grow
    exact Nat.le_of_eq (s.memory.fresh_push s.pending i).symm
  | flush =>
    have hfresh := s.memory.fresh_lt_create []
    -- The new list is known to no one, since its number has not been given before.
    have hapart : ∀ a, a < s.memory.fresh → (s.step .flush).2.Apart a := by
      intro a ha
      exact ⟨Nat.lt_trans ha hfresh, Nat.ne_of_lt ha⟩
    refine ⟨hfresh, ?_, ?_⟩
    · intro a ha
      rcases List.mem_append.1 ha with ha | ha
      · exact hapart a (h.handedOut_apart a ha).1
      · obtain rfl := List.mem_singleton.1 ha
        exact hapart _ h.pending_lt
    · intro a place hmem
      exact hapart a (h.cursors_apart a place hmem).1
  | iterate =>
    have hfresh := s.memory.fresh_lt_create (s.memory.read s.pending)
    have hgrown := h.grow (Nat.le_of_lt hfresh)
    refine ⟨hgrown.pending_lt, hgrown.handedOut_apart, ?_⟩
    intro a place hmem
    rcases List.mem_append.1 hmem with hmem | hmem
    · exact hgrown.cursors_apart a place hmem
    · cases List.mem_singleton.1 hmem
      exact ⟨hfresh, Nat.ne_of_gt h.pending_lt⟩
  | next k =>
    simp only [Stored.step]
    split
    · rename_i a place hk
      split
      · apply h.set_cursor k
        rintro a' place' ⟨⟩
        exact h.cursors_apart a place (List.mem_of_getElem? hk)
      · apply h.set_cursor k
        rintro a' place' ⟨⟩
    · exact h

theorem map_set_cursor {m : Memory} {cs : List Cursor} {c d : Cursor} {k : Nat}
    (hk : cs[k]? = some c) (hd : m.rest d = (m.rest c).tail) :
    (cs.set k d).map m.rest = (cs.map m.rest).modify k List.tail := by
  rw [List.map_set, hd, List.modify_eq_set_getElem?, List.getElem?_map, hk]
  rfl

theorem view_next (s : Stored) (k : Nat) :
    s.view.step (.next k) = ((s.step (.next k)).1, (s.step (.next k)).2.view) := by
  have hview : s.view.step (.next k) =
      (.yielded ((s.cursors[k]?.map s.memory.rest).bind List.head?),
        { s.view with iterations := (s.cursors.map s.memory.rest).modify k List.tail }) := by
    rw [InUse.step, view, List.getElem?_map]
  rw [hview]
  cases hk : s.cursors[k]? with
  | none =>
    have hlength : (s.cursors.map s.memory.rest).length ≤ k := by
      rw [List.length_map]
      exact List.getElem?_eq_none_iff.1 hk
    rw [List.modify_eq_self hlength]
    simp only [Stored.step, hk]
    rfl
  | some c =>
    cases c with
    | none =>
      have hsame : s.cursors.set k none = s.cursors := by
        obtain ⟨hlt, hnone⟩ := List.getElem?_eq_some_iff.1 hk
        rw [← hnone, List.set_getElem_self]
      rw [← map_set_cursor hk (d := none) rfl, hsame]
      simp only [Stored.step, hk]
      rfl
    | some c =>
      obtain ⟨a, place⟩ := c
      have hhead : (s.memory.rest (some (a, place))).head? = (s.memory.read a)[place]? :=
        List.head?_drop
      rw [Option.map_some, Option.bind_some, hhead]
      cases hplace : (s.memory.read a)[place]? with
      | some i =>
        rw [← map_set_cursor hk (d := some (a, place + 1)) List.tail_drop.symm]
        simp only [Stored.step, hk, hplace]
        rfl
      | none =>
        -- At the end there is nothing left, and so the cursor can be dropped.
        have hend : s.memory.rest (some (a, place)) = [] :=
          List.drop_eq_nil_of_le (List.getElem?_eq_none_iff.1 hplace)
        rw [← map_set_cursor hk (d := none) (by rw [hend]; rfl)]
        simp only [Stored.step, hk, hplace]
        rfl

/-- The list of the queue is appended to or left, but what others hold does not change. -/
theorem Unshared.view_step (h : s.Unshared) (x : Step) :
    s.view.step x = ((s.step x).1, (s.step x).2.view) := by
  cases x with
  | defer i =>
    obtain ⟨hhanded, hcursors⟩ := h.view_congr (m := s.memory.push s.pending i)
      fun a ha => Memory.read_push_of_ne ha.2
    have hqueue := Memory.read_push_self (i := i) h.pending_lt
    simp only [InUse.step, Stored.step, view, defer, hhanded, hcursors, hqueue]
  | flush =>
    obtain ⟨hhanded, hcursors⟩ := h.view_congr (m := s.memory.create [])
      fun a ha => Memory.read_create_of_lt ha.1 []
    have hflushed := Memory.read_create_of_lt h.pending_lt []
    simp only [InUse.step, Stored.step, view, flush, List.map_append, List.map_singleton, hhanded,
      hcursors, hflushed, Memory.read_create_fresh]
  | iterate =>
    obtain ⟨hhanded, hcursors⟩ := h.view_congr (m := s.memory.create (s.memory.read s.pending))
      fun a ha => Memory.read_create_of_lt ha.1 _
    have hqueue := Memory.read_create_of_lt h.pending_lt (s.memory.read s.pending)
    simp only [InUse.step, Stored.step, view, List.map_append, List.map_singleton, hhanded,
      hcursors, hqueue, Memory.rest, Memory.read_create_fresh, List.drop_zero]
  | next k => exact s.view_next k

theorem Unshared.view_after (h : s.Unshared) (xs : List Step) :
    (s.after xs).Unshared ∧ (s.after xs).view = s.view.after xs := by
  induction xs generalizing s with
  | nil => exact ⟨h, rfl⟩
  | cons x xs ih =>
    rw [InUse.after_cons, h.view_step x]
    exact ih (h.step x)

theorem unshared_new : ({} : Stored).Unshared := by
  refine ⟨Nat.zero_lt_one, ?_, ?_⟩
  · intro a ha
    exact absurd ha List.not_mem_nil
  · intro a place hmem
    exact absurd hmem List.not_mem_nil

end Stored

/-- Whatever is done with a queue, what flushes have handed out, followed by what waits, are the
deferred imports in order. Going through the queue takes nothing out of it, and an iteration yields
what waited when it began, also if that is flushed meanwhile. The first flush then hands out all of
it, followed by what was deferred since, and the flushes after it hand out nothing until something
is deferred again. All this holds in memory too, where the lists that were handed out are read at
the end. -/
theorem handed_out_once (steps : List Step) :
    let s := InUse.after {} steps
    s.handedOut.flatten ++ s.queue.entries = deferred steps ∧
    s.queue.size = s.queue.entries.length ∧ (s.queue.isEmpty = false ↔ s.queue.entries ≠ []) ∧
    ((InUse.after {} (steps.filter (!·.isIteration))).queue = s.queue ∧
      (InUse.after {} (steps.filter (!·.isIteration))).handedOut = s.handedOut) ∧
    (∀ before middle, steps = before ++ .iterate :: middle →
      let k := before.count .iterate
      let began := (InUse.after {} before).queue.entries
      (s.step (.next k)).1 = .yielded began[middle.count (.next k)]? ∧
      (.flush ∉ middle → (s.step .flush).1 = .flushed (began ++ deferred middle))) ∧
    (∀ before middle, steps = before ++ .flush :: middle → deferred middle = [] →
      (s.step .flush).1 = .flushed []) ∧
    (let begun := (s.step .iterate).2
      let rounds := InUse.flushRounds (steps.count .iterate) s.queue.size
      begun.answers rounds =
          s.queue.flushEach.1.flatMap (fun e => [.yielded (some e.1), .flushed e.2]) ∧
        (begun.after rounds).queue = s.queue.flushEach.2) ∧
    s.queue.flushEach =
      (s.queue.entries.zip (s.queue.entries :: List.replicate s.queue.size []), {}) ∧
    (Stored.after {} steps).view = s ∧
    ∀ x, ((Stored.after {} steps).step x).1 = (s.step x).1 := by
  intro s
  obtain ⟨hunshared, hview⟩ := Stored.unshared_new.view_after steps
  refine ⟨InUse.handedOut_append_entries steps, rfl, ?_, InUse.after_filter {} {} rfl rfl steps,
    ?_, ?_, ?_, s.queue.flushEach_eq, hview, ?_⟩
  · simp [isEmpty]
  · rintro before middle rfl
    exact ⟨InUse.yields_entries_at_start before middle, InUse.flush_after_iterate before⟩
  · rintro before middle rfl
    exact InUse.flush_after_flush before
  · have hbegun : (s.step .iterate).2.iterations[steps.count .iterate]? = some s.queue.entries :=
      InUse.begun_iteration steps
    rw [flushEach_eq]
    refine ⟨InUse.answers_flushRounds hbegun, ?_⟩
    exact congrArg Pending.mk ((s.step .iterate).2.entries_flushRounds _)
  · intro x
    have hstep := hunshared.view_step x
    rw [hview] at hstep
    exact (congrArg Prod.fst hstep).symm

theorem handed_out_once_sample :
    let a : Import := ⟨1, "os", none⟩
    let b : Import := ⟨2, "os.path", none⟩
    let before : List Step := [.defer a, .defer a]
    let middle : List Step := [.next 0, .flush, .defer b, .iterate, .next 1]
    let steps : List Step := before ++ .iterate :: middle
    let s := InUse.after {} steps
    let rest := InUse.after {} (steps ++ [.flush, .next 0])
    s = ⟨⟨[b]⟩, [[a, a]], [[a], []]⟩ ∧ s.handedOut.flatten ++ [b] = deferred steps ∧
      (s.step (.next 0)).1 = .yielded (some a) ∧
      ((InUse.after {} (before ++ [.iterate, .next 0])).step .flush).1 = .flushed [a, a] ∧
      (rest.step .flush).1 = .flushed [] ∧
      (Stored.after {} steps).view.handedOut = [[a, a]] := by
  intro a b before middle steps s rest
  have hs : s = ⟨⟨[b]⟩, [[a, a]], [[a], []]⟩ := by decide
  obtain ⟨hbalance, -, -, -, hiteration, -, -, -, hview, -⟩ := handed_out_once steps
  obtain ⟨-, -, -, -, hfirst, -⟩ := handed_out_once (before ++ [.iterate, .next 0])
  obtain ⟨-, -, -, -, -, hlater, -⟩ := handed_out_once (steps ++ [.flush, .next 0])
  have hbalance : s.handedOut.flatten ++ s.queue.entries = deferred steps := hbalance
  have hview : (Stored.after {} steps).view = s := hview
  rw [hs] at hbalance hview
  refine ⟨hs, ?_, ?_, ?_, hlater steps [.next 0] rfl rfl, ?_⟩
  · rw [hs]
    exact hbalance
  · exact (hiteration before middle rfl).1.trans (by decide)
  · exact ((hfirst before [.next 0] rfl).2 (by decide)).trans (by decide)
  · rw [hview]

end Pending

end ImportGuard
