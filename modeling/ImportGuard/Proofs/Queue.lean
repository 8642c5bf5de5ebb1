import ImportGuard.Scope

namespace ImportGuard

namespace Pending

/-- One use of a queue. Iterations have numbers, in the order in which they begin, and one that has
not begun yields nothing. -/
inductive Step
  | defer (i : Import)
  | flush
  | iterate
  | next (k : Nat)
  deriving DecidableEq

inductive Answer
  | nothing
  | flushed (imports : List Import)
  | yielded (i : Option Import)
  deriving DecidableEq

namespace Step

def deferred? : Step → Option Import
  | defer i => some i
  | _ => none

def isIteration : Step → Bool
  | iterate | next _ => true
  | _ => false

end Step

/-- The imports that are deferred by some steps, in order and with repetitions. -/
def deferred (xs : List Step) : List Import := xs.filterMap Step.deferred?

theorem deferred_cons (x : Step) (xs : List Step) :
    deferred (x :: xs) = x.deferred?.toList ++ deferred xs := by
  rw [deferred, List.filterMap_cons]
  cases x.deferred? <;> rfl

/-- A queue in use: what waits, what flushes have handed out so far, and what each iteration has
still to yield. -/
structure InUse where
  queue : Pending := {}
  handedOut : List (List Import) := []
  iterations : List (List Import) := []
  deriving DecidableEq

namespace InUse

def step (s : InUse) : Step → Answer × InUse
  | .defer i => (.nothing, { s with queue := s.queue.defer i })
  | .flush =>
    let (imports, rest) := s.queue.flush
    (.flushed imports, { s with queue := rest, handedOut := s.handedOut ++ [imports] })
  | .iterate => (.nothing, { s with iterations := s.iterations ++ [s.queue.entries] })
  | .next k =>
    (.yielded (s.iterations[k]?.bind List.head?),
      { s with iterations := s.iterations.modify k List.tail })

def after (s : InUse) (xs : List Step) : InUse := xs.foldl (fun s x => (s.step x).2) s

def answers (s : InUse) : List Step → List Answer
  | [] => []
  | x :: xs => (s.step x).1 :: (s.step x).2.answers xs

variable {s : InUse} {xs : List Step}

@[simp] theorem after_nil (s : InUse) : s.after [] = s := rfl

@[simp] theorem after_cons (s : InUse) (x : Step) (xs : List Step) :
    s.after (x :: xs) = (s.step x).2.after xs := rfl

theorem after_append (s : InUse) (xs ys : List Step) :
    s.after (xs ++ ys) = (s.after xs).after ys :=
  List.foldl_append

theorem answer_flush (s : InUse) : (s.step .flush).1 = .flushed s.queue.entries := rfl

theorem answer_next (s : InUse) (k : Nat) :
    (s.step (.next k)).1 = .yielded (s.iterations[k]?.bind List.head?) := rfl

/-- Every flush hands out one list, and nothing that was deferred is lost, doubled or moved. -/
theorem after_balance (s : InUse) (xs : List Step) :
    ∃ out, (s.after xs).handedOut = s.handedOut ++ out ∧ out.length = xs.count .flush ∧
      out.flatten ++ (s.after xs).queue.entries = s.queue.entries ++ deferred xs := by
  induction xs generalizing s with
  | nil =>
    refine ⟨[], ?_, rfl, ?_⟩
    · rw [after_nil, List.append_nil]
    · rw [after_nil, deferred, List.filterMap_nil, List.append_nil, List.flatten_nil,
        List.nil_append]
  | cons x xs ih =>
    obtain ⟨out, hout, hlength, hbalance⟩ := ih (s.step x).2
    rw [after_cons, hout, deferred_cons]
    cases x with
    | defer i =>
      refine ⟨out, rfl, ?_, ?_⟩
      · rw [hlength, List.count_cons_of_ne (by simp)]
      · rw [hbalance]
        simp [step, defer, Step.deferred?]
    | flush =>
      -- All that waits goes out with this flush, so that the rest begins with an empty queue.
      refine ⟨s.queue.entries :: out, ?_, ?_, ?_⟩
      · simp [step, flush]
      · rw [List.length_cons, hlength, List.count_cons_self]
      · rw [List.flatten_cons, List.append_assoc, hbalance]
        simp [step, flush, Step.deferred?]
    | iterate | next =>
      refine ⟨out, rfl, ?_, hbalance⟩
      rw [hlength, List.count_cons_of_ne (by simp)]

theorem handedOut_append_entries (xs : List Step) :
    (after {} xs).handedOut.flatten ++ (after {} xs).queue.entries = deferred xs := by
  obtain ⟨out, hout, -, hbalance⟩ := after_balance {} xs
  rw [hout]
  exact hbalance

theorem entries_of_no_flush (h : .flush ∉ xs) :
    (s.after xs).queue.entries = s.queue.entries ++ deferred xs := by
  obtain ⟨out, -, hlength, hbalance⟩ := s.after_balance xs
  rw [List.count_eq_zero_of_not_mem h, List.length_eq_zero_iff] at hlength
  rwa [hlength] at hbalance

theorem entries_of_no_defer (hs : s.queue.entries = []) (h : deferred xs = []) :
    (s.after xs).queue.entries = [] := by
  obtain ⟨out, -, -, hbalance⟩ := s.after_balance xs
  rw [hs, h] at hbalance
  exact (List.append_eq_nil_iff.1 hbalance).2

/-- Iterations can be left out: the queue and what it hands out stay the same. -/
theorem after_filter (s t : InUse) (hqueue : s.queue = t.queue)
    (hhanded : s.handedOut = t.handedOut) (xs : List Step) :
    (s.after (xs.filter (!·.isIteration))).queue = (t.after xs).queue ∧
      (s.after (xs.filter (!·.isIteration))).handedOut = (t.after xs).handedOut := by
  induction xs generalizing s t with
  | nil => exact ⟨hqueue, hhanded⟩
  | cons x xs ih =>
    cases x with
    | defer i =>
      apply ih
      · simp [step, hqueue]
      · exact hhanded
    | flush =>
      apply ih
      · simp [step, hqueue]
      · simp [step, hqueue, hhanded]
    | iterate | next => exact ih s _ hqueue hhanded

theorem length_iterations (s : InUse) (xs : List Step) :
    (s.after xs).iterations.length = s.iterations.length + xs.count .iterate := by
  induction xs generalizing s with
  | nil => rfl
  | cons x xs ih =>
    rw [after_cons, ih]
    cases x with
    | iterate =>
      rw [List.count_cons_self]
      simp only [step, List.length_append, List.length_singleton]
      omega
    | defer | flush =>
      rw [List.count_cons_of_ne (by simp)]
      rfl
    | next k =>
      rw [List.count_cons_of_ne (by simp)]
      simp [step]

/-- What an iteration has still to yield changes only when it is asked. -/
theorem iterations_after {k : Nat} {rest : List Import} (h : s.iterations[k]? = some rest)
    (xs : List Step) :
    (s.after xs).iterations[k]? = some (rest.drop (xs.count (.next k))) := by
  induction xs generalizing s rest with
  | nil => exact h
  | cons x xs ih =>
    rw [after_cons]
    by_cases hx : x = .next k
    · subst hx
      have htail : (s.step (.next k)).2.iterations[k]? = some rest.tail := by
        simp [step, h]
      rw [ih htail, List.count_cons_self, List.drop_tail]
    · have hkept : (s.step x).2.iterations[k]? = some rest := by
        cases x with
        | defer | flush => exact h
        | iterate =>
          have hk := (List.getElem?_eq_some_iff.1 h).1
          exact (List.getElem?_append_left hk).trans h
        | next j =>
          have hj : j ≠ k := fun hj => hx (congrArg Step.next hj)
          simp [step, hj, h]
      rw [ih hkept, List.count_cons_of_ne hx]

theorem begun_iteration (before : List Step) :
    ((after {} before).step .iterate).2.iterations[before.count .iterate]? =
      some (after {} before).queue.entries := by
  have hlength := length_iterations {} before
  simp only [List.length_nil, Nat.zero_add] at hlength
  rw [step, ← hlength, List.getElem?_concat_length]

/-- An iteration yields what waited when it began, one import at a time, and then nothing. -/
theorem yields_entries_at_start (before middle : List Step) :
    ((after {} (before ++ .iterate :: middle)).step (.next (before.count .iterate))).1 =
      .yielded (after {} before).queue.entries[middle.count (.next (before.count .iterate))]? := by
  rw [after_append, after_cons, answer_next, iterations_after (begun_iteration before) middle,
    Option.bind_some, List.head?_drop]

/-- The first flush after an iteration has begun hands out all that the iteration yields. -/
theorem flush_after_iterate (before : List Step) (h : .flush ∉ xs) :
    ((after {} (before ++ .iterate :: xs)).step .flush).1 =
      .flushed ((after {} before).queue.entries ++ deferred xs) := by
  rw [after_append, after_cons, answer_flush, entries_of_no_flush h]
  rfl

theorem flush_after_flush (before : List Step) (h : deferred xs = []) :
    ((after {} (before ++ .flush :: xs)).step .flush).1 = .flushed [] := by
  rw [after_append, after_cons, answer_flush, entries_of_no_defer rfl h]

/-- The steps of going on with an iteration and flushing at each of its imports. -/
def flushRounds (k : Nat) : Nat → List Step
  | 0 => []
  | n + 1 => .next k :: .flush :: flushRounds k n

/-- The first flush hands out all that waits, and the later ones hand out nothing. -/
theorem answers_flushRounds {k : Nat} {rest : List Import} (h : s.iterations[k]? = some rest) :
    s.answers (flushRounds k rest.length) =
      (rest.zip (s.queue.entries :: List.replicate rest.length [])).flatMap fun e =>
        [.yielded (some e.1), .flushed e.2] := by
  induction rest generalizing s with
  | nil => rfl
  | cons i rest ih =>
    have htail : ((s.step (.next k)).2.step .flush).2.iterations[k]? = some rest := by
      simp [step, h]
    have hrest := ih htail
    simp only [List.length_cons, flushRounds, answers, hrest]
    simp [step, h, flush, List.replicate_succ]

theorem deferred_flushRounds (k n : Nat) : deferred (flushRounds k n) = [] := by
  induction n with
  | zero => rfl
  | succ n ih => exact ih

theorem entries_flushRounds (s : InUse) (k : Nat) :
    (s.after (flushRounds k s.queue.size)).queue.entries = [] := by
  cases hsize : s.queue.size with
  | zero => exact List.length_eq_zero_iff.1 hsize
  | succ n =>
    -- The first round empties the queue, and nothing is deferred in the others.
    rw [flushRounds, after_cons, after_cons]
    exact entries_of_no_defer rfl (deferred_flushRounds k n)

end InUse

theorem flushEach_loop (is : List Import) (acc : List (Import × List Import)) (q : Pending) :
    is.foldl (fun (acc, q) i => let (out, q) := q.flush; (acc ++ [(i, out)], q)) (acc, q) =
      (acc ++ is.zip (q.entries :: List.replicate is.length []), if is.isEmpty then q else {}) := by
  induction is generalizing acc q with
  | nil => simp
  | cons i is ih =>
    rw [List.foldl_cons, ih]
    simp [flush, List.replicate_succ]

theorem flushEach_eq (p : Pending) :
    p.flushEach = (p.entries.zip (p.entries :: List.replicate p.size []), {}) := by
  rw [flushEach, flushEach_loop]
  obtain ⟨entries⟩ := p
  cases entries <;> rfl

end Pending

end ImportGuard
