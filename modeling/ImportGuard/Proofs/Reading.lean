import ImportGuard.Regex.Group
import Mathlib.Data.List.Infix

namespace ImportGuard.Regex

/-- Digits in the text read as more than a repeat count can be. -/
def LargeCount (text : List Char) : Prop :=
  ∃ digits, digits <:+: text ∧ digits.all Char.isDigit ∧ repeatLimit ≤ number 10 digits

/-- The text has more digits in a row than a repeat count is read from. -/
def LongCount (text : List Char) : Prop :=
  ∃ digits, digits <:+: text ∧ digits.all Char.isDigit ∧ Decimal.maxDigits < digits.length

/-- A long escape in the text reads as more than a machine number. -/
def LargeCode (text : List Char) : Prop :=
  ∃ digits, '\\' :: 'U' :: digits <:+: text ∧ digits.all isHex ∧ digits.length = 8 ∧
    0x7FFFFFFF < number 16 digits

/-- A run of letters for switches, with one for each of the given ones. -/
structure Letters (letters : List Char) (flags : List Flag) : Prop where
  known : none ∉ letters.map Flag.ofChar?
  covers : ∀ f ∈ flags, some f ∈ letters.map Flag.ofChar?

theorem Letters.mono {letters : List Char} {flags flags' : List Flag} (h : Letters letters flags)
    (hsub : flags' ⊆ flags) : Letters letters flags' where
  known := h.known
  covers f hf := h.covers f (hsub hf)

theorem Letters.snoc {letters : List Char} {flags : List Flag} {c : Char} {f : Flag}
    (h : Letters letters flags) (hc : Flag.ofChar? c = some f) :
    Letters (letters ++ [c]) (f :: flags) where
  known := by
    rw [List.map_append, List.map_singleton, hc, List.mem_append, not_or]
    exact ⟨h.known, by simp⟩
  covers := by
    intro g hg
    rw [List.map_append, List.map_singleton, hc, List.mem_append]
    rcases List.mem_cons.1 hg with rfl | hg
    · exact .inr List.mem_cons_self
    · exact .inl (h.covers g hg)

theorem Letters.first {c : Char} {f : Flag} (hc : Flag.ofChar? c = some f) : Letters [c] [f] := by
  have hnone : Letters [] [] := ⟨List.not_mem_nil, fun _ h => absurd h List.not_mem_nil⟩
  exact hnone.snoc hc

/-- The letter of the switch stands in a run of such letters that begins a group. -/
def Switched (flag : Flag) (text : List Char) : Prop :=
  ∃ letters, '(' :: '?' :: letters <:+: text ∧ Letters letters [flag]

theorem Letters.switched {letters text : List Char} {flags : List Flag} (h : Letters letters flags)
    (hwithin : '(' :: '?' :: letters <:+: text) : ∀ f ∈ flags, Switched f text := by
  intro f hf
  refine ⟨letters, hwithin, h.mono ?_⟩
  exact List.cons_subset.2 ⟨hf, List.nil_subset _⟩

/-- A place of the text with a mark and something after it is found by trying all of them. -/
theorem exists_infix_iff {p : List Char → Prop} (mark text : List Char) :
    (∃ w, mark ++ w <:+: text ∧ p w) ↔
      ∃ t ∈ text.tails, mark <+: t ∧ ∃ w ∈ (t.drop mark.length).inits, p w := by
  simp only [List.mem_tails, List.mem_inits]
  constructor
  · rintro ⟨w, hw, hp⟩
    obtain ⟨t, ⟨rest, rfl⟩, ht⟩ := List.infix_iff_prefix_suffix.1 hw
    rw [List.append_assoc] at ht
    refine ⟨_, ht, List.prefix_append _ _, w, ?_, hp⟩
    rw [List.drop_left]
    exact List.prefix_append w rest
  · rintro ⟨_, ht, ⟨rest, rfl⟩, w, hw, hp⟩
    rw [List.drop_left] at hw
    refine ⟨w, ?_, hp⟩
    exact ((List.prefix_append_right_inj mark).2 hw).isInfix.trans ht.isInfix

instance (text : List Char) : Decidable (LargeCount text) :=
  decidable_of_iff' _ (exists_infix_iff [] text)

instance (text : List Char) : Decidable (LongCount text) :=
  decidable_of_iff' _ (exists_infix_iff [] text)

instance (text : List Char) : Decidable (LargeCode text) :=
  decidable_of_iff' _ (exists_infix_iff ['\\', 'U'] text)

instance (letters : List Char) (flags : List Flag) : Decidable (Letters letters flags) :=
  decidable_of_iff
    (none ∉ letters.map Flag.ofChar? ∧ ∀ f ∈ flags, some f ∈ letters.map Flag.ofChar?)
    ⟨fun h => ⟨h.1, h.2⟩, fun h => ⟨h.known, h.covers⟩⟩

instance (flag : Flag) (text : List Char) : Decidable (Switched flag text) :=
  decidable_of_iff' _ (exists_infix_iff ['(', '?'] text)

/-- A limit has its reason in the text. -/
def Explains (text : List Char) : Error → Prop
  | .invalid _ _ => True
  | .repeatTooLarge => LargeCount text
  | .countTooLong _ => LongCount text
  | .codeTooLarge => LargeCode text
  | .clashingFlags => Switched .ascii text ∧ Switched .unicode text

namespace Token

def chars : Token → List Char
  | char c => [c]
  | escape c => ['\\', c]
  | lone => ['\\']

theorem flatMap_chars_ofChars (cs : List Char) : (ofChars cs).flatMap chars = cs := by
  fun_induction ofChars cs with
  | case1 => rfl
  | case2 => rfl
  | case3 c cs ih => rw [List.flatMap_cons, ih]; rfl
  | case4 c cs _ _ ih => rw [List.flatMap_cons, ih]; rfl

end Token

/-- The characters that the reader has still to take. -/
def Reader.left (r : Reader) : List Char := r.rest.flatMap Token.chars

/-- The reader has come to a place of the text behind the characters `seen`, and all switches set so
far stand in the text. -/
structure Reader.At (text seen : List Char) (r : Reader) : Prop where
  place : seen ++ r.left <:+ text
  switched : ∀ f ∈ r.flags, Switched f text

namespace Reader.At

variable {text seen : List Char} {r : Reader}

theorem seen_within (h : r.At text seen) : seen <:+: text :=
  (List.prefix_append seen r.left).isInfix.trans h.place.isInfix

/-- What has been seen may be forgotten. -/
theorem nil (h : r.At text seen) : r.At text [] where
  place := (List.suffix_append seen r.left).trans h.place
  switched := h.switched

theorem congr {r' : Reader} (h : r.At text seen) (hrest : r'.rest = r.rest)
    (hflags : r'.flags = r.flags) : r'.At text seen where
  place := by rw [left, hrest]; exact h.place
  switched := by rw [hflags]; exact h.switched

/-- Before anything is taken the whole text is left. -/
theorem start (text : List Char) : At text [] { rest := Token.ofChars text } where
  place := by rw [List.nil_append, left, Token.flatMap_chars_ofChars]
  switched _ hf := absurd hf List.not_mem_nil

end Reader.At

namespace Parse

variable {α β : Type} {text seen : List Char} {P P' : Reader → Prop} {Q Q' : α → Reader → Prop}
  {R : β → Reader → Prop}

/-- From a reader with `P` the parser ends with `Q`, or it fails for a reason in the text. -/
def Ensures (text : List Char) (P : Reader → Prop) (x : Parse α) (Q : α → Reader → Prop) : Prop :=
  ∀ r, P r → match x.run r with
    | .ok (a, r') => Q a r'
    | .error e => Explains text e

namespace Ensures

theorem returns {a : α} (h : ∀ r, P r → Q a r) : Ensures text P (pure a) Q := h

/-- A cause with its place needs no reason. -/
theorem invalid (cause : Cause) (pos : Option Nat) :
    Ensures text P (throw (.invalid cause pos) : Parse α) Q := fun _ _ => trivial

theorem refuses (cause : Cause) (back : Nat) : Ensures text P (refuse cause back) Q :=
  fun _ _ => trivial

theorem raised {e : Error} {f : α → Parse β} (h : ∀ r, P r → Explains text e) :
    Ensures text P ((throw e : Parse α) >>= f) R := h

theorem invalidated (cause : Cause) (pos : Option Nat) {f : α → Parse β} :
    Ensures text P ((throw (.invalid cause pos) : Parse α) >>= f) R := fun _ _ => trivial

theorem refused (cause : Cause) (back : Nat) {f : α → Parse β} :
    Ensures text P (refuse cause back >>= f) R := fun _ _ => trivial

theorem changes {g : Reader → Reader} {Q : Unit → Reader → Prop} (h : ∀ r, P r → Q () (g r)) :
    Ensures text P (modify g) Q := h

theorem andThen {x : Parse α} {f : α → Parse β} (hx : Ensures text P x Q)
    (hf : ∀ a, Ensures text (Q a) (f a) R) : Ensures text P (x >>= f) R := by
  intro r hr
  have hxr := hx r hr
  rw [StateT.run_bind]
  cases hrun : x.run r with
  | error e =>
    rw [hrun] at hxr
    exact hxr
  | ok result =>
    rw [hrun] at hxr
    exact hf result.1 result.2 hxr

theorem before {x : Parse α} (hx : Ensures text P x Q) (hP : ∀ r, P' r → P r) :
    Ensures text P' x Q := fun r hr => hx r (hP r hr)

theorem after {x : Parse α} (hx : Ensures text P x Q) (hQ : ∀ a r, Q a r → Q' a r) :
    Ensures text P x Q' := by
  have hreturned := hx.andThen fun a => .returns (hQ a)
  rwa [bind_pure] at hreturned

/-- What all readers with `P` have in common may be used. -/
theorem fact {p : Prop} {x : Parse α} (h : ∀ r, P r → p) (hp : p → Ensures text P x Q) :
    Ensures text P x Q := fun r hr => hp (h r hr) r hr

/-- The reader may be taken as known. -/
theorem reads {f : Reader → Parse α} (h : ∀ r, P r → Ensures text (· = r) (f r) Q) :
    Ensures text P (get >>= f) Q := fun r hr => h r hr r rfl

theorem looks {f : Reader → Parse α} (h : ∀ r, P r → Ensures text P (f r) Q) :
    Ensures text P (get >>= f) Q := fun r hr => h r hr r hr

end Ensures

/-- The parser goes on in the text, from wherever it is. -/
def Steady (text : List Char) (x : Parse α) : Prop :=
  Ensures text (·.At text []) x fun _ r => r.At text []

namespace Steady

theorem returns (a : α) : Steady text (pure a : Parse α) := fun _ hr => hr

theorem andThen {x : Parse α} {f : α → Parse β} (hx : Steady text x)
    (hf : ∀ a, Steady text (f a)) : Steady text (x >>= f) := Ensures.andThen hx hf

theorem reads {f : Reader → Parse α} (h : ∀ r, Steady text (f r)) : Steady text (get >>= f) :=
  fun r hr => h r r hr

theorem changes {g : Reader → Reader} (hrest : ∀ r, (g r).rest = r.rest)
    (hflags : ∀ r, (g r).flags = r.flags) : Steady text (modify g) :=
  fun r hr => hr.congr (hrest r) (hflags r)

theorem resets {r : Reader} (hr : r.At text []) : Steady text (set r) := fun _ _ => hr

end Steady

/-- A steady parser may follow on characters that it need not know of. -/
theorem Ensures.steady {x : Parse α} (hx : Steady text x) :
    Ensures text (·.At text seen) x fun _ r => r.At text [] :=
  hx.before fun _ hr => hr.nil

theorem peek_ensures : Ensures text P peek fun t r => P r ∧ r.rest.head? = t :=
  fun _ hr => ⟨hr, rfl⟩

theorem peek_steady : Steady text peek := .reads fun _ => .returns _

theorem checkNext_ensures : Ensures text P checkNext fun _ => P := by
  refine peek_ensures.andThen fun t => ?_
  split
  · exact .refuses _ _
  · exact .returns fun r hr => hr.1

/-- What comes next is taken. -/
theorem next_ensures (t : Option Token) :
    Ensures text (fun r => r.At text seen ∧ r.rest.head? = t) next
      fun t' r => t' = t ∧ r.At text (seen ++ t.elim [] Token.chars) := by
  apply Ensures.reads
  rintro r ⟨hr, rfl⟩
  cases hrest : r.rest with
  | nil =>
    apply Ensures.returns
    rintro _ rfl
    refine ⟨rfl, ?_⟩
    rwa [List.head?_nil, Option.elim_none, List.append_nil]
  | cons t ts =>
    have hplace := hr.place
    rw [Reader.left, hrest, List.flatMap_cons, ← List.append_assoc] at hplace
    have hmoved : Ensures text (· = r)
        (modify fun r => { r with rest := ts, pos := r.pos + t.length })
        fun _ r => r.At text (seen ++ t.chars) := by
      apply Ensures.changes
      rintro _ rfl
      exact ⟨hplace, hr.switched⟩
    refine hmoved.andThen fun _ => ?_
    refine checkNext_ensures.andThen fun _ => ?_
    exact .returns fun r hr => ⟨rfl, hr⟩

theorem next_seen : Ensures text (·.At text seen) next
    fun t r => r.At text (seen ++ t.elim [] Token.chars) := by
  intro r hr
  have hnext := (next_ensures r.rest.head?).after
    fun t r h => (h.1 ▸ h.2 : r.At text (seen ++ t.elim [] Token.chars))
  exact hnext r ⟨hr, rfl⟩

theorem next_steady : Steady text next := next_seen.after fun _ _ hr => hr.nil

theorem accept_ensures (c : Char) : Ensures text (·.At text seen) (accept c)
    fun b r => r.At text (if b then seen ++ [c] else seen) := by
  refine peek_ensures.andThen fun t => ?_
  split
  · rename_i ht
    subst ht
    refine (next_ensures (some (.char c))).andThen fun _ => ?_
    exact .returns fun r hr => hr.2
  · exact .returns fun r hr => hr.1

theorem accept_steady (c : Char) : Steady text (accept c) :=
  (accept_ensures c).after fun _ _ hr => hr.nil

theorem takeWhile_ensures (p : Char → Bool) (n : Nat) : Ensures text (·.At text seen)
    (takeWhile p n) fun cs r => r.At text (seen ++ cs) ∧ cs.all p := by
  induction n generalizing seen with
  | zero =>
    refine .returns fun r hr => ⟨?_, rfl⟩
    rwa [List.append_nil]
  | succ n ih =>
    have hstop : Ensures text (fun r => r.At text seen) (pure []) fun cs r =>
        r.At text (seen ++ cs) ∧ cs.all p := by
      refine .returns fun r hr => ⟨?_, rfl⟩
      rwa [List.append_nil]
    refine peek_ensures.andThen fun t => ?_
    split
    · rename_i c
      split
      · rename_i hc
        refine (next_ensures (some (.char c))).andThen fun _ => ?_
        refine (ih.before fun _ hr => hr.2).andThen fun cs => ?_
        refine .returns fun r hr => ⟨?_, by rw [List.all_cons, hc, hr.2, Bool.and_self]⟩
        have hplace := hr.1
        rwa [Option.elim_some, Token.chars, List.append_assoc] at hplace
      · exact hstop.before fun _ hr => hr.1
    · exact hstop.before fun _ hr => hr.1

theorem takeWhile_steady (p : Char → Bool) (n : Nat) : Steady text (takeWhile p n) :=
  (takeWhile_ensures p n).after fun _ _ hr => hr.1.nil

theorem takeAll_ensures (p : Char → Bool) : Ensures text (·.At text seen)
    (takeAll p) fun cs r => r.At text (seen ++ cs) ∧ cs.all p := by
  apply Ensures.reads
  rintro r hr
  exact (takeWhile_ensures p _).before fun _ h => h ▸ hr

theorem untilLoop_steady (terminator : Char) (what : String) (n : Nat) (acc : String) :
    Steady text (untilLoop terminator what n acc) := by
  induction n generalizing acc with
  | zero => exact .returns acc
  | succ n ih =>
    refine next_steady.andThen fun t => ?_
    split
    · split
      · exact .refuses _ _
      · exact .refuses _ _
    · split
      · split
        · exact .refuses _ _
        · exact .returns _
      · exact ih _

theorem takeName_steady (terminator : Char) (what : String) :
    Steady text (takeName terminator what) :=
  .reads fun _ => untilLoop_steady terminator what _ _

theorem groupCount_steady : Steady text groupCount := .reads fun _ => .returns _

theorem isClosed_steady (index : Nat) : Steady text (isClosed index) := .reads fun _ => .returns _

theorem checkLookbehind_steady (index : Nat) : Steady text (checkLookbehind index) := by
  refine .reads fun r => ?_
  split
  · exact .returns ()
  · refine (isClosed_steady index).andThen fun closed => ?_
    dsimp only
    split
    · split
      · exact .refuses _ _
      · exact .returns ()
    · exact .refused _ _

end Parse

end ImportGuard.Regex
