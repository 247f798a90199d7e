import Mathlib.Data.List.Infix
import TransferRegistry.Bulk

/-!
# What a tally says

* `BulkTally.ofOutcomes_eq`: the tally of a list has each outcome of the list in one of its counts, so it is `Balanced`.
* `Text.Mentions`: a text has some words in it. `BulkTally.mentions_notFound`, `mentions_invalid`: after its label, the
  message of a tally speaks of items that were not found where there are some, and so of transitions that were invalid.
* `BulkResponse.Reports`: an answer says what a tally has counted. `BulkTally.Balanced.reports`: the answer of a balanced
  tally does.
-/

namespace TransferRegistry

/-! ## Words in a text -/

namespace Text

/-- The words are somewhere in the text. -/
def Mentions (text words : String) : Prop := words.toList <:+: text.toList

instance (text words : String) : Decidable (Mentions text words) :=
  inferInstanceAs (Decidable (words.toList <:+: text.toList))

/-- Words without some character are before it or after it. -/
theorem infix_append_cons_iff {c : Char} {words : List Char} (hc : c ∉ words) (front back : List Char) :
    words <:+: front ++ c :: back ↔ words <:+: front ∨ words <:+: back := by
  constructor
  · rintro ⟨before, after, h⟩
    rcases List.append_eq_append_iff.1 h with ⟨rest, rfl, -⟩ | ⟨rest, hleft, hright⟩
    · exact Or.inl ⟨before, rest, rfl⟩
    cases rest with
    | nil =>
      rw [List.append_nil] at hleft
      exact Or.inl ⟨before, [], (List.append_nil _).trans hleft⟩
    | cons d rest =>
      obtain ⟨rfl, rfl⟩ := List.cons.inj hright
      rcases List.append_eq_append_iff.1 hleft with ⟨middle, -, rfl⟩ | ⟨middle, -, hwords⟩
      · exact absurd (List.mem_append_right _ List.mem_cons_self) hc
      cases middle with
      | nil => exact absurd (by rw [← List.nil_append words, ← hwords]; exact List.mem_cons_self) hc
      | cons e middle =>
        obtain ⟨-, rfl⟩ := List.cons.inj hwords
        exact Or.inr ⟨middle, after, by simp⟩
  · rintro (⟨before, after, rfl⟩ | ⟨before, after, rfl⟩)
    · exact ⟨before, after ++ c :: back, by simp⟩
    · exact ⟨front ++ c :: before, after, by simp⟩

/-- A number has no characters but digits. -/
theorem not_mem_toDigits {c : Char} (hc : c.isDigit = false) (n : Nat) : c ∉ Nat.toDigits 10 n := by
  intro hmem
  rw [Nat.isDigit_of_mem_toDigits (by decide) (by decide) hmem] at hc
  cases hc

end Text

theorem toList_counted (n : Nat) (noun : String) :
    (counted n noun).toList = n.repr.toList ++ ' ' :: noun.toList ++ if n = 1 then [] else ['s'] := by
  unfold counted
  split <;> simp [toString]

namespace BulkTally

open Text (Mentions infix_append_cons_iff not_mem_toDigits)

/-! ## Counting outcomes -/

theorem ofOutcomes_eq (outcomes : List ItemOutcome) :
    ofOutcomes outcomes = {
      requested := outcomes.length
      processed := outcomes.countP ItemOutcome.processed
      notFound := outcomes.count .notFound
      invalid := outcomes.count .invalidTransition } := by
  rw [ofOutcomes, ← List.foldr_reverse, ← outcomes.length_reverse, ← outcomes.countP_reverse,
    ← outcomes.count_reverse, ← outcomes.count_reverse]
  induction outcomes.reverse with
  | nil => rfl
  | cons outcome outcomes ih =>
    rw [List.foldr_cons, ih]
    cases outcome <;> simp [record, List.countP_cons, ItemOutcome.processed]

/-- The counts of a tally are all that was requested. -/
structure Balanced (t : BulkTally) (requested : Nat) : Prop where
  requested : t.requested = requested
  sum : t.processed + t.notFound + t.invalid = t.requested

theorem balanced_ofOutcomes (outcomes : List ItemOutcome) : (ofOutcomes outcomes).Balanced outcomes.length := by
  rw [ofOutcomes_eq]
  refine ⟨rfl, ?_⟩
  induction outcomes with
  | nil => rfl
  | cons outcome outcomes ih => cases outcome <;> simp [List.countP_cons, ItemOutcome.processed] at ih ⊢ <;> omega

/-! ## The message -/

/-- What the message of a tally says of the number of items. -/
def opening (t : BulkTally) : List Char :=
  ": processed ".toList ++ t.processed.repr.toList ++ '/' :: (counted t.requested "item").toList

/-- What it says of items that were not found. -/
def absence (t : BulkTally) : List Char := ' ' :: t.notFound.repr.toList ++ " not found".toList

/-- What it says of transitions that were invalid. -/
def refusal (t : BulkTally) : List Char := ' ' :: (counted t.invalid "invalid transition").toList

/-- What the message of a tally says after its label. -/
def account (t : BulkTally) : String :=
  .ofList (t.opening ++ (if 0 < t.notFound then ',' :: t.absence else []) ++
    if 0 < t.invalid then ',' :: t.refusal else [])

theorem message_eq (t : BulkTally) (label : String) : t.message label = label ++ t.account := by
  refine String.toList_inj.1 ?_
  rw [String.toList_append, account, String.toList_ofList]
  unfold message opening absence refusal
  generalize counted t.requested "item" = requested
  generalize counted t.invalid "invalid transition" = invalid
  have hcomma : ", ".toList = [',', ' '] := by decide
  have hslash : "/".toList = ['/'] := by decide
  by_cases hn : 0 < t.notFound <;> by_cases hi : 0 < t.invalid <;>
    simp only [hn, hi, if_true, if_false, toString, String.toList_append, hcomma, hslash, String.toList_empty,
      List.append_assoc, List.cons_append, List.nil_append, List.append_nil]

/-- Words without a comma are in one of the parts of the account. -/
theorem mentions_account_iff (t : BulkTally) {words : String} (hc : ',' ∉ words.toList) :
    Mentions t.account words ↔ (words.toList <:+: t.opening ∨ 0 < t.notFound ∧ words.toList <:+: t.absence) ∨
      0 < t.invalid ∧ words.toList <:+: t.refusal := by
  have hpart : ∀ (front back : List Char) (n : Nat), words.toList <:+: front ++ (if 0 < n then ',' :: back else []) ↔
      words.toList <:+: front ∨ 0 < n ∧ words.toList <:+: back := by
    intro front back n
    split
    · rename_i hn
      rw [infix_append_cons_iff hc, and_iff_right hn]
    · rename_i hn
      rw [List.append_nil, or_iff_left fun h => hn h.1]
  rw [Mentions, account, String.toList_ofList, hpart, hpart]

theorem not_mem_counted {c : Char} (hdigit : c.isDigit = false) {noun : String} (hnoun : c ∉ ' ' :: noun.toList)
    (hs : c ≠ 's') (n : Nat) : c ∉ (counted n noun).toList := by
  rw [toList_counted, Nat.toList_repr, List.append_assoc, List.mem_append, not_or]
  refine ⟨not_mem_toDigits hdigit n, ?_⟩
  split <;> simp_all

theorem not_mem_opening (t : BulkTally) {c : Char} (hdigit : c.isDigit = false)
    (hc : c ∉ '/' :: ": processed ".toList) (hitem : c ∉ ' ' :: "item".toList) (hs : c ≠ 's') : c ∉ t.opening := by
  have hcounted := not_mem_counted hdigit hitem hs t.requested
  rw [List.mem_cons, not_or] at hc
  unfold opening
  rw [Nat.toList_repr, List.mem_append, List.mem_append, List.mem_cons]
  rintro ((h | h) | h | h)
  · exact hc.2 h
  · exact not_mem_toDigits hdigit _ h
  · exact hc.1 h
  · exact hcounted h

theorem mentions_notFound (t : BulkTally) : Mentions t.account "not found" ↔ 0 < t.notFound := by
  have hopening : ¬"not found".toList <:+: t.opening := fun h =>
    not_mem_opening t (c := 'f') (by decide) (by decide) (by decide) (by decide) (h.mem (by decide))
  have habsence : "not found".toList <:+: t.absence := by
    unfold absence
    exact ⟨' ' :: t.notFound.repr.toList ++ [' '], [], by simp⟩
  have hrefusal : ¬"not found".toList <:+: t.refusal := fun h => by
    have hmem : 'f' ∈ t.refusal := h.mem (by decide)
    unfold refusal at hmem
    exact not_mem_counted (c := 'f') (by decide) (by decide) (by decide) _ (List.mem_of_ne_of_mem (by decide) hmem)
  rw [mentions_account_iff t (by decide)]
  simp only [habsence, hopening, hrefusal, false_or, and_true, and_false, or_false]

theorem mentions_invalid (t : BulkTally) : Mentions t.account "invalid transition" ↔ 0 < t.invalid := by
  have hopening : ¬"invalid transition".toList <:+: t.opening := fun h =>
    not_mem_opening t (c := 'v') (by decide) (by decide) (by decide) (by decide) (h.mem (by decide))
  have habsence : ¬"invalid transition".toList <:+: t.absence := fun h => by
    have hmem : 'v' ∈ t.absence := h.mem (by decide)
    unfold absence at hmem
    simp [not_mem_toDigits (show 'v'.isDigit = false by decide)] at hmem
  have hrefusal : "invalid transition".toList <:+: t.refusal := by
    unfold refusal
    rw [toList_counted]
    exact ⟨' ' :: t.invalid.repr.toList ++ [' '], if t.invalid = 1 then [] else ['s'], by simp⟩
  rw [mentions_account_iff t (by decide)]
  simp only [habsence, hopening, hrefusal, false_or, and_true, and_false, or_false]

theorem mentions_absence {t : BulkTally} (h : 0 < t.notFound) : Mentions t.account s!", {t.notFound} not found" := by
  unfold Mentions account absence
  rw [if_pos h, String.toList_ofList]
  refine ⟨t.opening, if 0 < t.invalid then ',' :: t.refusal else [], ?_⟩
  simp [toString]

theorem mentions_refusal {t : BulkTally} (h : 0 < t.invalid) :
    Mentions t.account (", " ++ counted t.invalid "invalid transition") := by
  unfold Mentions account refusal
  rw [if_pos h, String.toList_ofList]
  refine ⟨t.opening ++ if 0 < t.notFound then ',' :: t.absence else [], [], ?_⟩
  simp

end BulkTally

/-! ## The answer -/

/-- An answer says what a tally has counted. -/
structure BulkResponse.Reports (response : BulkResponse) (label : String) (hidden : Nat) (t : BulkTally) : Prop where
  processed : response.processed = t.processed
  remaining : response.remaining = t.notFound + t.invalid
  conserved : response.processed + response.remaining = t.requested
  successful : response.successful = true ↔ response.remaining = 0
  hidden : response.hidden = hidden
  /-- After the label the message gives each of the two counts of what is not as was asked, unless it is zero. -/
  message : ∃ account, response.message = label ++ account ∧
    (Text.Mentions account "not found" ↔ 0 < t.notFound) ∧
    (0 < t.notFound → Text.Mentions account s!", {t.notFound} not found") ∧
    (Text.Mentions account "invalid transition" ↔ 0 < t.invalid) ∧
    (0 < t.invalid → Text.Mentions account (", " ++ counted t.invalid "invalid transition"))

theorem BulkTally.Balanced.reports {t : BulkTally} {requested : Nat} (h : t.Balanced requested) (label : String)
    (hidden : Nat) : (t.response label hidden).Reports label hidden t := by
  have hremaining : t.remaining = t.notFound + t.invalid := by
    rw [BulkTally.remaining, ← h.sum, Nat.add_assoc, Nat.add_sub_cancel_left]
  refine ⟨rfl, hremaining, ?_, decide_eq_true_iff, rfl, t.account, t.message_eq label, t.mentions_notFound,
    BulkTally.mentions_absence, t.mentions_invalid, BulkTally.mentions_refusal⟩
  show t.processed + t.remaining = t.requested
  rw [hremaining, ← h.sum, Nat.add_assoc]

end TransferRegistry
