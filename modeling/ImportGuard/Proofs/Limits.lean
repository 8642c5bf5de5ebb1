import ImportGuard.Regex.Parser
import ImportGuard.Proofs.Reading

namespace ImportGuard.Regex

namespace Parse

variable {text : List Char}

/-- Only the escape with eight digits can be too large. -/
theorem hexEscape_ensures {c : Char} {n : Nat} (hn : n = 8 → c = 'U') :
    Ensures text (·.At text ['\\', c]) (hexEscape c n) fun _ r => r.At text [] := by
  refine (takeWhile_ensures isHex n).andThen fun digits => ?_
  dsimp only
  split
  · exact .refused _ _
  · rename_i hlength
    split
    · rename_i hlarge
      rw [Bool.and_eq_true, decide_eq_true_eq] at hlarge
      obtain ⟨rfl, -⟩ := hlarge
      split
      · rename_i hcode
        apply Ensures.raised
        rintro r ⟨hr, hdigits⟩
        rw [hn rfl] at hr
        exact ⟨digits, hr.seen_within, hdigits, not_not.1 hlength, hcode⟩
      · exact .refused _ _
    · exact .returns fun r hr => hr.1.nil

theorem namedEscape_steady : Steady text namedEscape := by
  refine (accept_steady _).andThen fun found => ?_
  dsimp only
  split
  · refine (takeName_steady _ _).andThen fun name => ?_
    split
    · exact .returns _
    · exact .refuses _ _
  · exact .refused _ _

theorem codeEscape?_ensures (c : Char) :
    Ensures text (·.At text ['\\', c]) (codeEscape? c) fun _ r => r.At text [] := by
  unfold codeEscape?
  split
  · exact (hexEscape_ensures (by decide)).andThen fun _ => .returns fun _ hr => hr
  · exact (hexEscape_ensures (by decide)).andThen fun _ => .returns fun _ hr => hr
  · exact (hexEscape_ensures fun _ => rfl).andThen fun _ => .returns fun _ hr => hr
  · exact (Ensures.steady namedEscape_steady).andThen fun _ => .returns fun _ hr => hr
  · exact .returns fun _ hr => hr.nil

theorem plainEscape_steady (c : Char) : Steady text (plainEscape c) := by
  rw [plainEscape]
  dsimp only
  split
  · exact .refused _ _
  · exact .returns _

theorem setEscape_ensures (c : Char) :
    Ensures text (·.At text ['\\', c]) (setEscape c) fun _ r => r.At text [] := by
  rw [setEscape]
  split
  · exact .returns fun _ hr => hr.nil
  · split
    · exact .returns fun _ hr => hr.nil
    · refine (codeEscape?_ensures c).andThen fun code => ?_
      split
      · exact .returns fun _ hr => hr
      · split
        · refine Ensures.andThen (takeWhile_steady isOctal 2) fun digits => ?_
          dsimp only
          split
          · exact .refused _ _
          · exact .returns fun _ hr => hr
        · exact Ensures.andThen (plainEscape_steady c) fun _ => .returns fun _ hr => hr

theorem groupReference_steady (digits : List Char) : Steady text (groupReference digits) := by
  refine groupCount_steady.andThen fun count => ?_
  dsimp only
  split
  · refine (isClosed_steady _).andThen fun closed => ?_
    split
    · exact (checkLookbehind_steady _).andThen fun _ => .returns _
    · exact .refused _ _
  · exact .refuses _ _

theorem digitEscape_steady (c : Char) : Steady text (digitEscape c) := by
  refine (takeWhile_steady _ _).andThen fun ds => ?_
  split
  · exact groupReference_steady _
  · split
    · refine (takeWhile_steady _ _).andThen fun es => ?_
      split
      · exact groupReference_steady _
      · dsimp only
        split
        · exact .refused _ _
        · exact .returns _
    · exact groupReference_steady _

theorem escape_ensures (c : Char) :
    Ensures text (·.At text ['\\', c]) (escape c) fun _ r => r.At text [] := by
  rw [escape]
  split
  · exact .returns fun _ hr => hr.nil
  · split
    · exact .returns fun _ hr => hr.nil
    · split
      · exact .returns fun _ hr => hr.nil
      · refine (codeEscape?_ensures c).andThen fun code => ?_
        split
        · exact .returns fun _ hr => hr
        · split
          · exact Ensures.andThen (takeWhile_steady _ _) fun _ => .returns fun _ hr => hr
          · split
            · exact digitEscape_steady c
            · exact Ensures.andThen (plainEscape_steady c) fun _ => .returns fun _ hr => hr

theorem setMember_ensures (t : Token) :
    Ensures text (·.At text t.chars) (setMember t) fun _ r => r.At text [] := by
  cases t with
  | char c => exact .returns fun _ hr => hr.nil
  | escape c => exact setEscape_ensures c
  | lone => exact .refuses _ _

theorem setMembers_steady (start n : Nat) (acc : List Member) :
    Steady text (setMembers start n acc) := by
  induction n generalizing acc with
  | zero => exact .returns acc
  | succ n ih =>
    refine Ensures.andThen next_seen fun t => ?_
    cases t with
    | none => exact .invalid _ _
    | some t =>
      dsimp only
      split
      · exact .returns fun _ hr => hr.nil
      · refine (setMember_ensures t).andThen fun low => ?_
        refine Ensures.andThen (accept_steady _) fun found => ?_
        split
        · refine Ensures.andThen next_seen fun u => ?_
          cases u with
          | none => exact .invalid _ _
          | some u =>
            dsimp only
            split
            · exact .returns fun _ hr => hr.nil
            · refine (setMember_ensures u).andThen fun high => ?_
              split
              · split
                · exact .refused _ _
                · exact ih _
              · exact .refuses _ _
        · exact ih _

theorem bracketed_steady : Steady text bracketed := by
  refine .reads fun r => ?_
  refine (accept_steady _).andThen fun negated => ?_
  refine .reads fun r => ?_
  exact (setMembers_steady _ _ _).andThen fun members => .returns _

/-- A bound is too large or too long only if its digits are, and these stand in the text. -/
theorem bound_steady {digits : List Char} (hwithin : digits <:+: text)
    (hdigits : digits.all Char.isDigit) : Steady text (bound digits) := by
  rw [bound]
  dsimp only
  split
  · exact .returns none
  · split
    · rename_i hlong
      exact .raised fun _ _ => ⟨digits, hwithin, hdigits, hlong⟩
    · split
      · rename_i hlarge
        exact .raised fun _ _ => ⟨digits, hwithin, hdigits, hlarge⟩
      · exact .returns _

theorem digits_ensures : Ensures text (·.At text []) (takeAll Char.isDigit) fun digits r =>
    r.At text [] ∧ digits <:+: text ∧ digits.all Char.isDigit :=
  (takeAll_ensures Char.isDigit).after fun _ _ hr => ⟨hr.1.nil, hr.1.seen_within, hr.2⟩

theorem bracedCounts?_steady : Steady text bracedCounts? := by
  refine Ensures.looks fun start hstart => ?_
  split
  · exact .returns fun _ hr => hr
  · refine digits_ensures.andThen fun low => ?_
    refine .fact (fun _ hr => hr.2) fun hlow => ?_
    refine ((accept_steady _).before fun _ hr => hr.1).andThen fun comma => ?_
    extract_lets ending
    have hending (high : List Char) (hhigh : high <:+: text ∧ high.all Char.isDigit) :
        Steady text (ending high) := by
      refine (accept_steady _).andThen fun brace => ?_
      split
      · refine (bound_steady hlow.1 hlow.2).andThen fun least => ?_
        refine (bound_steady hhigh.1 hhigh.2).andThen fun most => ?_
        dsimp only
        split
        · exact .invalidated _ _
        · exact .returns _
      · -- Without a closing brace the reader goes back to where it was.
        exact Steady.andThen (.resets hstart) fun _ => .returns none
    split
    · refine digits_ensures.andThen fun high => ?_
      refine .fact (fun _ hr => hr.2) fun hhigh => ?_
      exact (hending high hhigh).before fun _ hr => hr.1
    · exact hending low hlow

theorem counts?_steady (c : Char) : Steady text (counts? c) := by
  unfold counts?
  split
  · exact .returns _
  · exact .returns _
  · exact .returns _
  · exact bracedCounts?_steady

theorem greed_steady : Steady text greed := by
  refine (accept_steady _).andThen fun lazy => ?_
  split
  · exact .returns _
  · refine (accept_steady _).andThen fun possessive => ?_
    split
    · exact .returns _
    · exact .returns _

/-- Switches that are turned on have their letters right behind the mark of the group. -/
theorem flagsOn_ensures (n : Nat) {letters : List Char} {flag : Flag} {acc : List Flag}
    (hletters : Letters letters (flag :: acc)) :
    Ensures text (·.At text ('(' :: '?' :: letters)) (flagsOn n flag acc) fun on r =>
      r.At text [] ∧ ∀ f ∈ on.1, Switched f text := by
  induction n generalizing letters flag acc with
  | zero =>
    have hacc : Letters letters acc := hletters.mono (List.subset_cons_self _ _)
    exact .returns fun r hr => ⟨hr.nil, hacc.switched hr.seen_within⟩
  | succ n ih =>
    have hon : Letters letters (if acc.contains flag then acc else acc ++ [flag]) := by
      apply hletters.mono
      split
      · exact List.subset_cons_self _ _
      · simp
    rw [flagsOn]
    dsimp only
    generalize (if acc.contains flag then acc else acc ++ [flag]) = on at hon ⊢
    split
    · exact .refused _ _
    · split
      · exact .refused _ _
      · refine next_seen.andThen fun t => ?_
        cases t with
        | none => exact .refuses _ _
        | some t =>
          dsimp only
          split
          · refine .returns fun r hr => ⟨hr.nil, hon.switched ?_⟩
            exact (List.prefix_append _ _).isInfix.trans hr.seen_within
          · cases t with
            | char c =>
              cases hc : Flag.ofChar? c with
              | none =>
                rw [flagOf?, hc]
                exact .refuses _ _
              | some f =>
                rw [flagOf?, hc]
                exact ih (hon.snoc hc)
            | escape c => exact .refuses _ _
            | lone => exact .refuses _ _

theorem flagsOff_steady (n : Nat) (flag : Flag) (acc : List Flag) :
    Steady text (flagsOff n flag acc) := by
  induction n generalizing flag acc with
  | zero => exact .returns acc
  | succ n ih =>
    rw [flagsOff]
    dsimp only
    split
    · exact .refused _ _
    · refine next_steady.andThen fun t => ?_
      split
      · exact .refuses _ _
      · split
        · exact .returns _
        · split
          · exact ih _ _
          · exact .refuses _ _

/-- Switches for the whole pattern are kept with their letters in the text. -/
theorem switches_ensures (t : Token) :
    Ensures text (·.At text ('(' :: '?' :: t.chars)) (switches t) fun _ r => r.At text [] := by
  refine Ensures.looks fun start _ => ?_
  extract_lets fuel ending
  have hending (on : List Flag × Token) :
      Ensures text (fun r => r.At text [] ∧ ∀ f ∈ on.1, Switched f text) (ending on)
        fun _ r => r.At text [] := by
    unfold ending
    split
    rename_i on stop
    extract_lets checked turnedOff
    have hchecked (off : List Flag) : Steady text (checked off) := by
      dsimp only [checked]
      split
      · exact .refused _ _
      · split
        · exact .refused _ _
        · exact .returns _
    have hturnedOff (u : Unit) : Steady text (turnedOff u) := by
      dsimp only [turnedOff]
      split
      · refine next_steady.andThen fun t => ?_
        split
        · exact .refused _ _
        · split
          · exact (flagsOff_steady _ _ _).andThen hchecked
          · exact .refused _ _
      · exact hchecked []
    dsimp only
    split
    · refine Ensures.andThen (.changes ?_) fun _ => .returns fun _ hr => hr
      rintro r ⟨hr, hon⟩
      exact ⟨hr.place, fun f hf => (List.mem_append.1 hf).elim (hr.switched f) (hon f)⟩
    · split
      · exact .refused _ _
      · exact (hturnedOff ()).before fun _ hr => hr.1
  cases hflag : flagOf? t with
  | none =>
    apply (hending ([], .char '-')).before
    exact fun r hr => ⟨hr.nil, fun f hf => absurd hf List.not_mem_nil⟩
  | some flag =>
    cases t with
    | char c =>
      exact (flagsOn_ensures _ (Letters.first hflag)).andThen hending
    | escape c => cases hflag
    | lone => cases hflag

theorem checkName_steady (name : String) : Steady text (checkName name) := by
  unfold checkName
  split
  · exact .returns ()
  · exact .refuses _ _

theorem namedReference_steady : Steady text namedReference := by
  refine (takeName_steady _ _).andThen fun name => ?_
  refine (checkName_steady name).andThen fun _ => ?_
  refine .reads fun r => ?_
  split
  · exact .refuses _ _
  · refine (isClosed_steady _).andThen fun closed => ?_
    dsimp only
    split
    · exact (checkLookbehind_steady _).andThen fun _ => .returns _
    · exact .refused _ _

theorem condition_steady : Steady text condition := by
  refine (takeName_steady _ _).andThen fun name => ?_
  dsimp only
  split
  · refine .reads fun r => ?_
    split
    · exact .refuses _ _
    · exact (checkLookbehind_steady _).andThen fun _ => .returns _
  · split
    · exact .refuses _ _
    · exact .refuses _ _
    · split
      · exact .refused _ _
      · refine Steady.andThen (.changes ?_ ?_) fun _ => ?_
        · intro r
          split <;> rfl
        · intro r
          split <;> rfl
        · exact (checkLookbehind_steady _).andThen fun _ => .returns _

theorem skipComment_steady (start n : Nat) : Steady text (skipComment start n) := by
  induction n with
  | zero => exact .returns _
  | succ n ih =>
    refine peek_steady.andThen fun t => ?_
    split
    · exact .invalid _ _
    · refine next_steady.andThen fun t => ?_
      split
      · exact .returns _
      · exact ih

theorem lookbehind_steady : Steady text lookbehind := by
  refine next_steady.andThen fun t => ?_
  split
  · exact .refuses _ _
  · exact .returns _
  · exact .returns _
  · exact .refuses _ _

theorem named_steady : Steady text named := by
  refine (accept_steady _).andThen fun bracket => ?_
  split
  · refine (takeName_steady _ _).andThen fun name => ?_
    exact (checkName_steady name).andThen fun _ => .returns _
  · refine (accept_steady _).andThen fun equals => ?_
    split
    · exact namedReference_steady
    · refine next_steady.andThen fun t => ?_
      split
      · exact .refuses _ _
      · exact .refuses _ _

theorem opening_ensures (start : Nat) :
    Ensures text (·.At text ['(']) (opening start) fun _ r => r.At text [] := by
  refine (accept_ensures '?').andThen fun mark => ?_
  split
  · refine next_seen.andThen fun t => ?_
    split
    · exact .refuses _ _
    · exact .steady named_steady
    · exact .returns fun _ hr => hr.nil
    · exact Ensures.steady (.reads fun r => skipComment_steady _ _)
    · exact .returns fun _ hr => hr.nil
    · exact .returns fun _ hr => hr.nil
    · exact .steady lookbehind_steady
    · exact .steady condition_steady
    · exact .returns fun _ hr => hr.nil
    · split
      · exact switches_ensures _
      · exact .refuses _ _
  · exact .returns fun _ hr => hr.nil

theorem openGroup_steady (name : Option String) : Steady text (openGroup name) := by
  refine groupCount_steady.andThen fun count => ?_
  extract_lets index number
  have hnumber (u : Unit) : Steady text (number u) :=
    Steady.andThen (.changes (fun _ => rfl) fun _ => rfl) fun _ => .returns _
  split
  · refine .reads fun r => ?_
    split
    · exact .refused _ _
    · exact Steady.andThen (.changes (fun _ => rfl) fun _ => rfl) hnumber
  · exact hnumber ()

theorem widthOf_steady (n : Node) : Steady text (widthOf n) := .reads fun _ => .returns _

theorem closeGroup_steady (index : Nat) (body : Node) : Steady text (closeGroup index body) :=
  (widthOf_steady body).andThen fun _ => .changes (fun _ => rfl) fun _ => rfl

theorem skipLine_steady (n : Nat) : Steady text (skipLine n) := by
  induction n with
  | zero => exact .returns ()
  | succ n ih =>
    refine next_steady.andThen fun t => ?_
    split
    · exact .returns ()
    · split
      · exact .returns ()
      · exact ih

theorem topContext_steady : Steady text topContext := .reads fun _ => .returns _

theorem expectClose_steady (start : Nat) : Steady text (expectClose start) := by
  refine (accept_steady _).andThen fun found => ?_
  split
  · exact .returns ()
  · exact .invalid _ _

theorem quantify_steady (place low : Nat) (high : Option Nat) (items : List Item) :
    Steady text (quantify place low high items) := by
  cases items with
  | nil => exact .invalid _ _
  | cons item items =>
    rw [quantify]
    split
    · exact .invalid _ _
    · exact .invalid _ _
    · exact greed_steady.andThen fun g => .returns _

/-- The parser of sequences and groups is steady up to a depth; a group goes on from the parenthesis
that was taken. -/
structure SteadyUpTo (text : List Char) (fuel : Nat) : Prop where
  alternation : ∀ ctx top, Steady text (alternation fuel ctx top)
  branches : ∀ ctx top first, Steady text (branches fuel ctx top first)
  sequence : ∀ ctx first items, Steady text (sequence fuel ctx first items)
  group : ∀ ctx first items start, Ensures text (·.At text ['('])
    (group fuel ctx first items start) fun _ r => r.At text []

namespace SteadyUpTo

variable {fuel : Nat}

theorem branches_succ (h : SteadyUpTo text fuel) (ctx : Context) (top first : Bool) :
    Steady text (Parse.branches (fuel + 1) ctx top first) := by
  rw [Parse.branches]
  refine (h.sequence _ _ _).andThen fun branch => ?_
  refine (accept_steady _).andThen fun bar => ?_
  split
  · dsimp only
    split
    · refine topContext_steady.andThen fun ctx => ?_
      exact (h.branches _ _ _).andThen fun _ => .returns _
    · exact (h.branches _ _ _).andThen fun _ => .returns _
  · exact .returns _

theorem sequence_succ (h : SteadyUpTo text fuel) (ctx : Context) (first : Bool)
    (items : List Item) : Steady text (Parse.sequence (fuel + 1) ctx first items) := by
  rw [Parse.sequence]
  refine Ensures.andThen peek_ensures fun t => ?_
  have hends : Ensures text (fun r => r.At text [] ∧ r.rest.head? = t)
      (pure (items.reverse.flatMap Item.parts)) fun _ r => r.At text [] :=
    .returns fun _ hr => hr.1
  split
  · exact hends
  · exact hends
  · exact hends
  · rename_i t _ _
    -- The characters taken stay seen: an escape and the switches of a group are explained by them.
    refine (next_ensures (some t)).andThen fun _ => ?_
    refine Ensures.before (P := (·.At text t.chars)) ?_ fun _ hr => hr.2
    split
    · exact .returns fun _ hr => hr.nil
    · exact (escape_ensures _).andThen fun _ => h.sequence _ _ _
    · split
      · exact .steady (h.sequence _ _ _)
      · split
        · refine .steady (.reads fun r => ?_)
          exact (skipLine_steady _).andThen fun _ => h.sequence _ _ _
        · split
          · exact .steady (bracketed_steady.andThen fun _ => h.sequence _ _ _)
          · exact .steady (h.sequence _ _ _)
          · exact .steady (h.sequence _ _ _)
          · exact .steady (h.sequence _ _ _)
          · exact .looks fun _ _ => h.group _ _ _ _
          · split
            · refine .steady (.reads fun r => ?_)
              refine (counts?_steady _).andThen fun counts => ?_
              split
              · exact (quantify_steady _ _ _ _).andThen fun _ => h.sequence _ _ _
              · exact h.sequence _ _ _
            · exact .steady (h.sequence _ _ _)

theorem group_succ (h : SteadyUpTo text fuel) (ctx : Context) (first : Bool) (items : List Item)
    (start : Nat) : Ensures text (·.At text ['(']) (Parse.group (fuel + 1) ctx first items start)
      fun _ r => r.At text [] := by
  rw [Parse.group]
  refine (opening_ensures start).andThen fun opened => ?_
  cases opened with
  | comment => exact h.sequence _ _ _
  | globalFlags =>
    dsimp only
    split
    · exact .invalidated _ _
    · exact Steady.andThen topContext_steady fun _ => h.sequence _ _ _
  | reference index => exact h.sequence _ _ _
  | capture name =>
    refine Steady.andThen (openGroup_steady _) fun index => ?_
    refine (h.alternation _ _).andThen fun body => ?_
    refine (expectClose_steady _).andThen fun _ => ?_
    exact (closeGroup_steady _ _).andThen fun _ => h.sequence _ _ _
  | plain on off =>
    refine Steady.andThen (h.alternation _ _) fun parts => ?_
    refine (expectClose_steady _).andThen fun _ => ?_
    split
    · exact h.sequence _ _ _
    · exact h.sequence _ _ _
  | atomic =>
    refine Steady.andThen (h.alternation _ _) fun body => ?_
    exact (expectClose_steady _).andThen fun _ => h.sequence _ _ _
  | ahead negated =>
    refine Steady.andThen (h.alternation _ _) fun body => ?_
    exact (expectClose_steady _).andThen fun _ => h.sequence _ _ _
  | behind negated =>
    refine Steady.reads fun r => ?_
    refine groupCount_steady.andThen fun count => ?_
    refine Steady.andThen (.changes (fun _ => rfl) fun _ => rfl) fun _ => ?_
    refine (h.alternation _ _).andThen fun body => ?_
    refine Steady.andThen (.changes (fun _ => rfl) fun _ => rfl) fun _ => ?_
    refine (expectClose_steady _).andThen fun _ => ?_
    exact (widthOf_steady _).andThen fun _ => h.sequence _ _ _
  | condition index =>
    refine Steady.andThen (h.sequence _ _ _) fun yes => ?_
    extract_lets ending
    have hending (no : List Node) : Steady text (ending no) :=
      (expectClose_steady _).andThen fun _ => h.sequence _ _ _
    refine (accept_steady _).andThen fun bar => ?_
    split
    · refine (h.sequence _ _ _).andThen fun no => ?_
      refine peek_steady.andThen fun t => ?_
      split
      · exact .refused _ _
      · exact hending no
    · exact hending []

end SteadyUpTo

theorem steadyUpTo (fuel : Nat) : SteadyUpTo text fuel := by
  induction fuel with
  | zero =>
    exact ⟨fun _ _ => .returns _, fun _ _ _ => .returns _, fun _ _ _ => .returns _,
      fun _ _ _ _ => .returns fun _ hr => hr.nil⟩
  | succ fuel ih =>
    exact ⟨fun _ _ => (ih.branches _ _ _).andThen fun _ => .returns _, ih.branches_succ,
      ih.sequence_succ, ih.group_succ⟩

theorem pattern_steady : Steady text pattern := by
  refine Ensures.andThen checkNext_ensures fun _ => ?_
  refine Steady.reads fun r => ?_
  refine ((steadyUpTo _).alternation _ _).andThen fun nodes => ?_
  refine Ensures.looks fun r hr => ?_
  dsimp only
  split
  · rename_i hclash
    rw [Bool.and_eq_true, List.contains_iff_mem, List.contains_iff_mem] at hclash
    exact .raised fun _ _ => ⟨hr.switched _ hclash.1, hr.switched _ hclash.2⟩
  · split
    · exact .refused _ _
    · split
      · exact .invalid _ _
      · exact .returns fun _ hr => hr

end Parse

/-- A text that does not compile is told what is wrong with it, or has the reason for a limit. -/
theorem Pattern.explains_of_compile {text : String} {e : Error} (h : compile text = .error e) :
    Explains text.toList e := by
  have hrun := Parse.pattern_steady _ (Reader.At.start text.toList)
  rw [compile] at h
  cases hpattern : Parse.pattern.run { rest := Token.ofChars text.toList } with
  | error e' =>
    rw [hpattern] at h hrun
    cases h
    exact hrun
  | ok result =>
    obtain ⟨root, reader⟩ := result
    rw [hpattern] at h
    dsimp only [bind, Except.bind] at h
    cases hflaw : root.flaw? (reader.flags.contains .template) with
    | some cause =>
      rw [hflaw] at h
      cases h
      trivial
    | none =>
      rw [hflaw] at h
      cases h

end ImportGuard.Regex
