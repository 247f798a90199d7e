import Mathlib.Data.List.Induction
import Mathlib.Data.List.Nodup
import Mathlib.Data.List.Perm.Subperm
import TransferRegistry.Pattern.Basic

/-!
# What patterns match

`Pattern.Match` says what a pattern is: from which place of a text to which other one it leads. The ends that are
computed are those (`Pattern.mem_ends`).

* `Cursor.Follows`: a place further on in the same text, which is determined by how much is left (`Follows.eq`); so
  nothing is lost where only one place of each kind is kept (`mem_distinct`).
* `Steps`: a number of steps one after the other. `mem_repeatSteps` and `mem_upTo` are the two loops, which stop as soon
  as nothing changes.
* `Pattern.mem_ends`, `Pattern.matchesIn_iff`: the computed ends are the matches.
* `Pattern.matchesIn_whole`, `Pattern.match_plus`: patterns between anchors, and repeated sets of characters.
* `Pattern.match_literal`, `Pattern.match_oneOf`: fixed texts, and a choice of them.
-/

namespace TransferRegistry

namespace Cursor

/-! ## Places of a text -/

/-- The second place is in the same text as the first, and not before it. -/
inductive Follows : Cursor → Cursor → Prop where
  | refl (c : Cursor) : Follows c c
  | next {before : Option Char} {x : Char} {rest : List Char} {d : Cursor} :
    Follows ⟨some x, rest⟩ d → Follows ⟨before, x :: rest⟩ d

variable {c d e : Cursor} {cs : List Cursor}

theorem Follows.length_le (h : c.Follows d) : d.rest.length ≤ c.rest.length := by
  induction h with
  | refl c => exact Nat.le_refl _
  | next _ ih => exact Nat.le_succ_of_le ih

theorem Follows.trans (h : c.Follows d) (h' : d.Follows e) : c.Follows e := by
  induction h with
  | refl c => exact h'
  | next _ ih => exact .next (ih h')

/-- How much is left tells where one is. -/
theorem Follows.eq (hd : c.Follows d) (he : c.Follows e) (hlength : d.rest.length = e.rest.length) : d = e := by
  induction hd with
  | refl c =>
    cases he with
    | refl => rfl
    | next he =>
      have hle := he.length_le
      simp only [List.length_cons] at hlength hle
      omega
  | next hd ih =>
    cases he with
    | refl =>
      have hle := hd.length_le
      simp only [List.length_cons] at hlength hle
      omega
    | next he => exact ih he hlength

theorem Follows.length_lt (h : c.Follows d) (hne : d ≠ c) : d.rest.length < c.rest.length := by
  refine Nat.lt_of_le_of_ne h.length_le fun hlength => hne ?_
  exact h.eq (.refl c) hlength

/-- Every place is one of those after another. -/
def Line (c : Cursor) (cs : List Cursor) : Prop := ∀ d ∈ cs, c.Follows d

theorem mem_of_mem_distinct (h : d ∈ distinct cs) : d ∈ cs := by
  induction cs with
  | nil => exact h
  | cons e cs ih =>
    unfold distinct at h
    rw [List.foldr_cons] at h
    split at h
    · exact List.mem_cons_of_mem _ (ih h)
    · rcases List.mem_cons.1 h with rfl | hd
      · exact List.mem_cons_self
      · exact List.mem_cons_of_mem _ (ih hd)

/-- For each place one with as much left is kept. -/
theorem exists_mem_distinct (h : d ∈ cs) : ∃ e ∈ distinct cs, e.rest.length = d.rest.length := by
  induction cs with
  | nil => cases h
  | cons e cs ih =>
    unfold distinct
    rw [List.foldr_cons]
    split
    · rename_i hany
      rcases List.mem_cons.1 h with rfl | hd
      · obtain ⟨f, hf, hlength⟩ := List.any_eq_true.1 hany
        exact ⟨f, hf, of_decide_eq_true hlength⟩
      · exact ih hd
    · rcases List.mem_cons.1 h with rfl | hd
      · exact ⟨d, List.mem_cons_self, rfl⟩
      · obtain ⟨f, hf, hlength⟩ := ih hd
        exact ⟨f, List.mem_cons_of_mem _ hf, hlength⟩

theorem mem_distinct (h : c.Line cs) : d ∈ distinct cs ↔ d ∈ cs := by
  constructor
  · exact mem_of_mem_distinct
  · intro hd
    obtain ⟨e, he, hlength⟩ := exists_mem_distinct hd
    rwa [← (h e (mem_of_mem_distinct he)).eq (h d hd) hlength]

theorem nodup_distinct (cs : List Cursor) : (distinct cs).Nodup := by
  induction cs with
  | nil => exact List.nodup_nil
  | cons e cs ih =>
    unfold distinct
    rw [List.foldr_cons]
    split
    · exact ih
    · rename_i hany
      refine List.nodup_cons.2 ⟨fun he => hany ?_, ih⟩
      exact List.any_eq_true.2 ⟨e, he, decide_eq_true rfl⟩

theorem Line.distinct (h : c.Line cs) : c.Line (distinct cs) := fun d hd => h d (mem_of_mem_distinct hd)

end Cursor

/-! ## Steps -/

/-- A number of steps, one after the other. -/
def Steps (R : Cursor → Cursor → Prop) : Nat → Cursor → Cursor → Prop
  | 0, c, d => d = c
  | n + 1, c, e => ∃ d, R c d ∧ Steps R n d e

section

variable {R : Cursor → Cursor → Prop} {c d : Cursor} {cs : List Cursor} {step : Cursor → List Cursor}

theorem Steps.follows (hR : ∀ c d, R c d → c.Follows d) {n : Nat} (h : Steps R n c d) : c.Follows d := by
  induction n generalizing c with
  | zero =>
    obtain rfl := h
    exact .refl d
  | succ n ih =>
    obtain ⟨e, he, hrest⟩ := h
    exact (hR c e he).trans (ih hrest)

/-- Steps that lead nowhere can be left out, and each other one leaves less of the text. -/
theorem Steps.shorten (hR : ∀ c d, R c d → c.Follows d) {n : Nat} (h : Steps R n c d) :
    ∃ k ≤ c.rest.length, Steps R k c d := by
  induction n generalizing c with
  | zero => exact ⟨0, Nat.zero_le _, h⟩
  | succ n ih =>
    obtain ⟨e, he, hrest⟩ := h
    obtain ⟨k, hk, hsteps⟩ := ih hrest
    by_cases hstay : e = c
    · subst hstay
      exact ⟨k, hk, hsteps⟩
    · have hlt := (hR c e he).length_lt hstay
      exact ⟨k + 1, by omega, e, he, hsteps⟩

/-- Where the places do not change in one step, they do not change in more. -/
theorem mem_iff_steps (h : ∀ d, d ∈ cs ↔ ∃ c ∈ cs, R c d) (n : Nat) : d ∈ cs ↔ ∃ c ∈ cs, Steps R n c d := by
  induction n with
  | zero =>
    constructor
    · exact fun hd => ⟨d, hd, rfl⟩
    · rintro ⟨c, hc, rfl⟩
      exact hc
  | succ n ih =>
    rw [ih]
    constructor
    · rintro ⟨c, hc, hsteps⟩
      obtain ⟨b, hb, hbc⟩ := (h c).1 hc
      exact ⟨b, hb, c, hbc, hsteps⟩
    · rintro ⟨b, hb, c, hbc, hsteps⟩
      exact ⟨c, (h c).2 ⟨b, hb, hbc⟩, hsteps⟩

/-- No number of steps leads out of places that one step does not lead out of. -/
theorem Steps.mem_of_closed (h : ∀ c ∈ cs, ∀ e, R c e → e ∈ cs) {n : Nat} (hsteps : Steps R n c d) (hc : c ∈ cs) :
    d ∈ cs := by
  induction n generalizing c with
  | zero =>
    obtain rfl := hsteps
    exact hc
  | succ n ih =>
    obtain ⟨b, hb, hrest⟩ := hsteps
    exact ih hrest (h c hc b hb)

/-- One step more at most is a step or none, and then no more steps than before. -/
theorem exists_steps_succ (n : Nat) : (∃ c ∈ cs, ∃ k ≤ n + 1, Steps R k c d) ↔
    ∃ e, (e ∈ cs ∨ ∃ c ∈ cs, R c e) ∧ ∃ k ≤ n, Steps R k e d := by
  constructor
  · rintro ⟨c, hc, k, hk, hsteps⟩
    cases k with
    | zero => exact ⟨c, Or.inl hc, 0, Nat.zero_le _, hsteps⟩
    | succ k =>
      obtain ⟨e, hce, hsteps⟩ := hsteps
      exact ⟨e, Or.inr ⟨c, hc, hce⟩, k, Nat.le_of_succ_le_succ hk, hsteps⟩
  · rintro ⟨e, hold | ⟨c, hc, hce⟩, k, hk, hsteps⟩
    · exact ⟨e, hold, k, Nat.le_succ_of_le hk, hsteps⟩
    · exact ⟨c, hc, k + 1, Nat.succ_le_succ hk, e, hce, hsteps⟩

theorem nodup_repeatSteps (n : Nat) (hcs : cs.Nodup) : (Pattern.repeatSteps step n cs).Nodup := by
  induction n generalizing cs with
  | zero => exact hcs
  | succ n ih =>
    rw [Pattern.repeatSteps]
    split
    · exact hcs
    · exact ih (Cursor.nodup_distinct _)

variable (hstep : ∀ c d, d ∈ step c ↔ R c d) (hR : ∀ c d, R c d → c.Follows d)

include hstep hR

theorem line_flatMap {start : Cursor} (h : start.Line cs) : start.Line (cs.flatMap step) := by
  intro d hd
  obtain ⟨c, hc, hcd⟩ := List.mem_flatMap.1 hd
  exact (h c hc).trans (hR c d ((hstep c d).1 hcd))

theorem mem_distinct_flatMap {start : Cursor} (h : start.Line cs) :
    d ∈ Cursor.distinct (cs.flatMap step) ↔ ∃ c ∈ cs, R c d := by
  rw [Cursor.mem_distinct (line_flatMap hstep hR h), List.mem_flatMap]
  simp only [hstep]

theorem mem_repeatSteps {start : Cursor} (n : Nat) (h : start.Line cs) :
    d ∈ Pattern.repeatSteps step n cs ↔ ∃ c ∈ cs, Steps R n c d := by
  induction n generalizing cs with
  | zero =>
    constructor
    · exact fun hd => ⟨d, hd, rfl⟩
    · rintro ⟨c, hc, rfl⟩
      exact hc
  | succ n ih =>
    rw [Pattern.repeatSteps]
    split
    · rename_i hsame
      apply mem_iff_steps
      intro e
      rw [← mem_distinct_flatMap hstep hR h, hsame]
    · rw [ih (line_flatMap hstep hR h).distinct]
      constructor
      · rintro ⟨e, he, hsteps⟩
        obtain ⟨c, hc, hce⟩ := (mem_distinct_flatMap hstep hR h).1 he
        exact ⟨c, hc, e, hce, hsteps⟩
      · rintro ⟨c, hc, e, hce, hsteps⟩
        exact ⟨e, (mem_distinct_flatMap hstep hR h).2 ⟨c, hc, hce⟩, hsteps⟩

theorem line_repeatSteps {start : Cursor} (n : Nat) (h : start.Line cs) :
    start.Line (Pattern.repeatSteps step n cs) := by
  intro d hd
  obtain ⟨c, hc, hsteps⟩ := (mem_repeatSteps hstep hR n h).1 hd
  exact (h c hc).trans (hsteps.follows hR)

/-- The places and those one step further, without repetition. -/
theorem mem_distinct_append {start : Cursor} (h : start.Line cs) :
    d ∈ Cursor.distinct (cs ++ cs.flatMap step) ↔ d ∈ cs ∨ ∃ c ∈ cs, R c d := by
  have hline : start.Line (cs ++ cs.flatMap step) := by
    intro e he
    rcases List.mem_append.1 he with hold | hnew
    · exact h e hold
    · exact line_flatMap hstep hR h e hnew
  rw [Cursor.mem_distinct hline, List.mem_append, List.mem_flatMap]
  simp only [hstep]

theorem mem_upTo {start : Cursor} (n : Nat) (hcs : cs.Nodup) (h : start.Line cs) :
    d ∈ Pattern.upTo step n cs ↔ ∃ c ∈ cs, ∃ k ≤ n, Steps R k c d := by
  induction n generalizing cs with
  | zero =>
    constructor
    · exact fun hd => ⟨d, hd, 0, Nat.le_refl 0, rfl⟩
    · rintro ⟨c, hc, k, hk, hsteps⟩
      obtain rfl := Nat.le_zero.1 hk
      obtain rfl := hsteps
      exact hc
  | succ n ih =>
    have hnext := fun d => mem_distinct_append (d := d) hstep hR h
    rw [Pattern.upTo]
    split
    · rename_i hlength
      -- as many places as before, so they are the same ones, and no step leads out of them
      have hsub : cs.Subperm (Cursor.distinct (cs ++ cs.flatMap step)) :=
        List.subperm_of_subset hcs fun e he => (hnext e).2 (Or.inl he)
      have hperm := hsub.perm_of_length_le (Nat.le_of_eq hlength)
      have hclosed : ∀ c ∈ cs, ∀ e, R c e → e ∈ cs := fun c hc e he =>
        hperm.mem_iff.2 ((hnext e).2 (Or.inr ⟨c, hc, he⟩))
      constructor
      · exact fun hd => ⟨d, hd, 0, Nat.zero_le _, rfl⟩
      · rintro ⟨c, hc, k, -, hsteps⟩
        exact hsteps.mem_of_closed hclosed hc
    · have hline : start.Line (Cursor.distinct (cs ++ cs.flatMap step)) := by
        intro e he
        rcases (hnext e).1 he with hold | ⟨c, hc, hce⟩
        · exact h e hold
        · exact (h c hc).trans (hR c e hce)
      rw [ih (Cursor.nodup_distinct _) hline, exists_steps_succ]
      simp only [hnext]

end

/-! ## Matches -/

namespace Pattern

/-- From which places of a text a pattern leads to which others. -/
def Match : Pattern → Cursor → Cursor → Prop
  | empty, c, d => d = c
  | char s, c, d => ∃ x rest, c.rest = x :: rest ∧ s.contains x = true ∧ d = ⟨some x, rest⟩
  | assertion a, c, d => c.satisfies a = true ∧ d = c
  | seq p q, c, e => ∃ d, p.Match c d ∧ q.Match d e
  | alt p q, c, d => p.Match c d ∨ q.Match c d
  | times p least greatest, c, e =>
    ∃ d, Steps p.Match least c d ∧ ∃ k, (∀ n ∈ greatest, k ≤ n - least) ∧ Steps p.Match k d e

theorem Match.follows {p : Pattern} {c d : Cursor} (h : p.Match c d) : c.Follows d := by
  induction p generalizing c d with
  | empty =>
    obtain rfl := h
    exact .refl d
  | char s =>
    obtain ⟨x, rest, hrest, -, rfl⟩ := h
    obtain ⟨before, rest'⟩ := c
    obtain rfl := hrest
    exact .next (.refl _)
  | assertion a =>
    obtain ⟨-, rfl⟩ := h
    exact .refl d
  | seq p q ihp ihq =>
    obtain ⟨e, hp, hq⟩ := h
    exact (ihp hp).trans (ihq hq)
  | alt p q ihp ihq =>
    rcases h with hp | hq
    · exact ihp hp
    · exact ihq hq
  | times p least greatest ih =>
    obtain ⟨e, hfirst, k, -, hrest⟩ := h
    exact (hfirst.follows fun _ _ => ih).trans (hrest.follows fun _ _ => ih)

theorem mem_ends_char {s : CharSet} {c d : Cursor} : d ∈ (char s).ends c ↔ (char s).Match c d := by
  obtain ⟨before, rest⟩ := c
  cases rest with
  | nil =>
    constructor
    · exact nofun
    · rintro ⟨x, rest, hrest, -⟩
      cases hrest
  | cons x rest =>
    simp only [ends]
    split
    · rename_i hs
      rw [List.mem_singleton]
      constructor
      · exact fun hd => ⟨x, rest, rfl, hs, hd⟩
      · rintro ⟨y, tail, heq, -, rfl⟩
        obtain ⟨rfl, rfl⟩ := List.cons.inj heq
        rfl
    · rename_i hs
      constructor
      · exact nofun
      · rintro ⟨y, tail, heq, hy, -⟩
        obtain ⟨rfl, rfl⟩ := List.cons.inj heq
        exact absurd hy hs

theorem mem_ends_assertion {a : Assertion} {c d : Cursor} : d ∈ (assertion a).ends c ↔ (assertion a).Match c d := by
  simp only [ends]
  split
  · rename_i hc
    rw [List.mem_singleton]
    exact ⟨fun hd => ⟨hc, hd⟩, And.right⟩
  · rename_i hc
    exact ⟨nofun, fun hd => absurd hd.1 hc⟩

theorem mem_ends_times {p : Pattern} (ih : ∀ c d, d ∈ p.ends c ↔ p.Match c d) {least : Nat} {greatest : Option Nat}
    {c d : Cursor} : d ∈ (times p least greatest).ends c ↔ (times p least greatest).Match c d := by
  have hR : ∀ c d, p.Match c d → c.Follows d := fun _ _ => Match.follows
  have hstart : c.Line [c] := by
    intro e he
    rw [List.mem_singleton.1 he]
    exact .refl c
  have hfirst : ∀ e, e ∈ repeatSteps p.ends least [c] ↔ Steps p.Match least c e := by
    intro e
    rw [mem_repeatSteps ih hR least hstart]
    simp only [List.mem_singleton, exists_eq_left]
  have hline := line_repeatSteps ih hR least hstart
  have hupTo : ∀ n, d ∈ upTo p.ends n (repeatSteps p.ends least [c]) ↔
      ∃ e, Steps p.Match least c e ∧ ∃ k ≤ n, Steps p.Match k e d := by
    intro n
    rw [mem_upTo ih hR n (nodup_repeatSteps least (List.nodup_singleton c)) hline]
    simp only [hfirst]
  cases greatest with
  | some n =>
    rw [ends, hupTo]
    simp only [Match, Option.mem_some_iff, forall_eq']
  | none =>
    rw [ends, hupTo]
    constructor
    · rintro ⟨e, he, k, -, hsteps⟩
      exact ⟨e, he, k, nofun, hsteps⟩
    · rintro ⟨e, he, k, -, hsteps⟩
      -- no more steps count than there are characters left
      obtain ⟨k, hk, hsteps⟩ := hsteps.shorten hR
      have hle := (he.follows hR).length_le
      exact ⟨e, he, k, by omega, hsteps⟩

/-- The ends that are computed are those of the matches. -/
theorem mem_ends (p : Pattern) (c d : Cursor) : d ∈ p.ends c ↔ p.Match c d := by
  induction p generalizing c d with
  | empty => exact List.mem_singleton
  | char s => exact mem_ends_char
  | assertion a => exact mem_ends_assertion
  | seq p q ihp ihq =>
    have hline : c.Line (p.ends c) := fun e he => ((ihp c e).1 he).follows
    rw [ends, mem_distinct_flatMap ihq (fun _ _ => Match.follows) hline]
    simp only [ihp]
    rfl
  | alt p q ihp ihq =>
    have hline : c.Line (p.ends c ++ q.ends c) := by
      intro e he
      rcases List.mem_append.1 he with hp | hq
      · exact ((ihp c e).1 hp).follows
      · exact ((ihq c e).1 hq).follows
    rw [ends, Cursor.mem_distinct hline, List.mem_append, ihp, ihq]
    rfl
  | times p least greatest ih => exact mem_ends_times ih

/-- A text is matched where a match starts anywhere in it. -/
theorem matchesIn_iff {p : Pattern} {text : String} :
    p.matchesIn text = true ↔ ∃ c ∈ Cursor.all none text.toList, ∃ d, p.Match c d := by
  unfold matchesIn
  rw [List.any_eq_true]
  simp only [Bool.not_eq_true', List.isEmpty_eq_false_iff_exists_mem, mem_ends]

/-! ## The whole text -/

theorem before_of_mem_all {before : Option Char} {cs : List Char} {c : Cursor} (h : c ∈ Cursor.all before cs) :
    c = ⟨before, cs⟩ ∨ c.before.isSome = true := by
  induction cs generalizing before with
  | nil => exact Or.inl (List.mem_singleton.1 h)
  | cons x cs ih =>
    rcases List.mem_cons.1 h with rfl | hrest
    · exact Or.inl rfl
    · rcases ih hrest with rfl | hbefore
      · exact Or.inr rfl
      · exact Or.inr hbefore

theorem mem_all_self (before : Option Char) (cs : List Char) : ⟨before, cs⟩ ∈ Cursor.all before cs := by
  cases cs with
  | nil => exact List.mem_singleton_self _
  | cons x cs => exact List.mem_cons_self

/-- The pattern for a whole text, between the two anchors. -/
def whole (p : Pattern) : Pattern := .seq (.seq (.seq .empty (.assertion .textStart)) p) (.assertion .textEnd)

/-- Between the anchors, a pattern leads from the start of the text to its end. -/
theorem matchesIn_whole {p : Pattern} {text : String} :
    (whole p).matchesIn text = true ↔ ∃ d, p.Match ⟨none, text.toList⟩ d ∧ d.rest = [] := by
  have hstart : ∀ c d : Cursor, (seq empty (assertion .textStart)).Match c d ↔ c.before = none ∧ d = c := by
    intro c d
    simp only [Match, exists_eq_left, Cursor.satisfies, Option.isNone_iff_eq_none]
  have hend : ∀ c d : Cursor, (assertion .textEnd).Match c d ↔ c.rest = [] ∧ d = c := by
    intro c d
    simp only [Match, Cursor.satisfies, List.isEmpty_iff]
  rw [matchesIn_iff]
  constructor
  · rintro ⟨c, hc, d, e, ⟨b, hb, hp⟩, he⟩
    obtain ⟨hbefore, rfl⟩ := (hstart c b).1 hb
    obtain ⟨hrest, rfl⟩ := (hend e d).1 he
    rcases before_of_mem_all hc with rfl | hsome
    · exact ⟨d, hp, hrest⟩
    · rw [hbefore] at hsome
      cases hsome
  · rintro ⟨d, hp, hrest⟩
    exact ⟨⟨none, text.toList⟩, mem_all_self none text.toList, d, d, ⟨_, (hstart _ _).2 ⟨rfl, rfl⟩, hp⟩,
      (hend d d).2 ⟨hrest, rfl⟩⟩

theorem steps_char {s : CharSet} {n : Nat} {c : Cursor} :
    (∃ d, Steps (char s).Match n c d ∧ d.rest = []) ↔ c.rest.length = n ∧ ∀ x ∈ c.rest, s.contains x = true := by
  induction n generalizing c with
  | zero =>
    simp only [Steps, exists_eq_left, List.length_eq_zero_iff]
    constructor
    · intro hrest
      rw [hrest]
      exact ⟨rfl, nofun⟩
    · exact And.left
  | succ n ih =>
    constructor
    · rintro ⟨d, ⟨e, ⟨x, rest, hrest, hx, rfl⟩, hsteps⟩, hd⟩
      obtain ⟨hlength, hall⟩ := ih.1 ⟨d, hsteps, hd⟩
      rw [hrest]
      exact ⟨congrArg (· + 1) hlength, List.forall_mem_cons.2 ⟨hx, hall⟩⟩
    · rintro ⟨hlength, hall⟩
      cases hrest : c.rest with
      | nil =>
        rw [hrest] at hlength
        cases hlength
      | cons x rest =>
        rw [hrest] at hlength hall
        obtain ⟨hx, hall⟩ := List.forall_mem_cons.1 hall
        obtain ⟨d, hsteps, hd⟩ := (@ih ⟨some x, rest⟩).2 ⟨Nat.succ.inj hlength, hall⟩
        exact ⟨d, ⟨_, ⟨x, rest, hrest, hx, rfl⟩, hsteps⟩, hd⟩

/-- One or more characters of a set, from a place to the end of the text. -/
theorem match_plus {s : CharSet} {c : Cursor} :
    (∃ d, (times (char s) 1 none).Match c d ∧ d.rest = []) ↔ c.rest ≠ [] ∧ ∀ x ∈ c.rest, s.contains x = true := by
  have hsteps : (∃ d, (times (char s) 1 none).Match c d ∧ d.rest = []) ↔
      ∃ k d, Steps (char s).Match (k + 1) c d ∧ d.rest = [] := by
    constructor
    · rintro ⟨d, ⟨e, ⟨b, hb, rfl⟩, k, -, hrest⟩, hd⟩
      exact ⟨k, d, ⟨e, hb, hrest⟩, hd⟩
    · rintro ⟨k, d, ⟨e, he, hrest⟩, hd⟩
      exact ⟨d, ⟨e, ⟨e, he, rfl⟩, k, nofun, hrest⟩, hd⟩
  rw [hsteps]
  simp only [steps_char]
  constructor
  · rintro ⟨k, hlength, hall⟩
    refine ⟨fun hnil => ?_, hall⟩
    rw [hnil] at hlength
    cases hlength
  · rintro ⟨hne, hall⟩
    exact ⟨c.rest.length - 1, by have := List.length_pos_iff.2 hne; omega, hall⟩

/-! ## Fixed texts -/

/-- The pattern for some characters, one after the other. -/
def literal (cs : List Char) : Pattern := cs.foldl (fun p c => .seq p (.char (.single c))) .empty

/-- The pattern for any of some texts. -/
def oneOf (first : String) : List String → Pattern
  | [] => literal first.toList
  | next :: others => .alt (literal first.toList) (oneOf next others)

theorem contains_single {c x : Char} : (CharSet.single c).contains x = true ↔ x = c := by
  simp only [CharSet.single, CharSet.contains, Bool.and_eq_true, decide_eq_true_eq]
  constructor
  · rintro ⟨hle, hge⟩
    exact Char.le_antisymm hge hle
  · rintro rfl
    exact ⟨Char.le_refl x, Char.le_refl x⟩

theorem match_single {x : Char} {c : Cursor} {rest : List Char} :
    (∃ d, (char (.single x)).Match c d ∧ d.rest = rest) ↔ c.rest = x :: rest := by
  constructor
  · rintro ⟨d, ⟨y, tail, hrest, hy, rfl⟩, rfl⟩
    rw [hrest, contains_single.1 hy]
  · intro hrest
    exact ⟨⟨some x, rest⟩, ⟨x, rest, hrest, contains_single.2 rfl, rfl⟩, rfl⟩

/-- Fixed characters lead past themselves, and nowhere else. -/
theorem match_literal {cs : List Char} {c : Cursor} {rest : List Char} :
    (∃ d, (literal cs).Match c d ∧ d.rest = rest) ↔ c.rest = cs ++ rest := by
  -- the pattern is built from the left, so the last character is taken off
  induction cs using List.reverseRecOn generalizing rest with
  | nil => exact ⟨fun ⟨_, hd, hrest⟩ => hd ▸ hrest, fun hrest => ⟨c, rfl, hrest⟩⟩
  | append_singleton cs x ih =>
    have hlast : literal (cs ++ [x]) = .seq (literal cs) (.char (.single x)) := by
      rw [literal, List.foldl_append]
      rfl
    rw [hlast, List.append_assoc, List.singleton_append, ← ih]
    simp only [← match_single]
    constructor
    · rintro ⟨e, ⟨d, hd, he⟩, hrest⟩
      exact ⟨d, hd, e, he, hrest⟩
    · rintro ⟨d, hd, e, he, hrest⟩
      exact ⟨e, ⟨d, hd, he⟩, hrest⟩

/-- Up to the end of the text, one of the texts is what is left. -/
theorem match_oneOf {first : String} {others : List String} {c : Cursor} :
    (∃ d, (oneOf first others).Match c d ∧ d.rest = []) ↔ ∃ text ∈ first :: others, c.rest = text.toList := by
  have hliteral : ∀ text : String, (∃ d, (literal text.toList).Match c d ∧ d.rest = []) ↔ c.rest = text.toList := by
    intro text
    rw [match_literal, List.append_nil]
  induction others generalizing first with
  | nil =>
    rw [oneOf, hliteral]
    simp only [List.mem_singleton, exists_eq_left]
  | cons next others ih =>
    rw [List.exists_mem_cons_iff, oneOf]
    simp only [Match, or_and_right, exists_or]
    exact or_congr (hliteral first) ih

end Pattern

end TransferRegistry
