import TransferRegistry.Proofs.Registry.Gate
import TransferRegistry.Proofs.Registry.Pointwise

/-!
# What bulk requests account for

* `Registry.tallyAlone`, `Registry.tallyHidden`: what became of the ids of a request, counted over the distinct ids.
* `Registry.settled_applyAction`, `settled_unhide`, `settled_unhideAll`: each of the three bulk requests answers with
  such a tally, whose counts add up to what was asked for.
* `Registry.Settles`: no bulk request leaves anything out of its count. `settles` says so of every registry, and of the
  tally of every list of outcomes.
-/

namespace TransferRegistry

namespace Registry

theorem card_distinctIds (ids : List ItemId) : (distinctIds ids).length = ids.toFinset.card := by
  rw [length_distinctIds, List.card_toFinset]

variable (r : Registry) (now : Int64) (action : ItemAction) (ids : List ItemId)

/-! ## Actions -/

/-- What an action would tell of each id of a list alone, counted. -/
def tallyAlone : BulkTally where
  requested := ids.toFinset.card
  processed := r.countAlone now action ids [.applied, .unchanged, .alreadyProcessed]
  notFound := r.countAlone now action ids [.notFound]
  invalid := r.countAlone now action ids [.invalidTransition]

theorem ofOutcomes_alone :
    BulkTally.ofOutcomes ((distinctIds ids).map fun id => (r.applyOne now action id).answer) =
      r.tallyAlone now action ids := by
  have hprocessed : ((distinctIds ids).map fun id => (r.applyOne now action id).answer).countP ItemOutcome.processed =
      r.countAlone now action ids [.applied, .unchanged, .alreadyProcessed] :=
    r.countP_outcomes now action ids (by intro outcome; cases outcome <;> decide)
  have hone : ∀ outcome : ItemOutcome,
      ((distinctIds ids).map fun id => (r.applyOne now action id).answer).count outcome =
        r.countAlone now action ids [outcome] := fun outcome => by
    rw [List.count_eq_countP]
    exact r.countP_outcomes now action ids (by simp)
  rw [BulkTally.ofOutcomes_eq, hprocessed, hone, hone, List.length_map, card_distinctIds]
  rfl

theorem balanced_tallyAlone : (r.tallyAlone now action ids).Balanced ids.toFinset.card := by
  have h := BulkTally.balanced_ofOutcomes ((distinctIds ids).map fun id => (r.applyOne now action id).answer)
  rwa [ofOutcomes_alone, List.length_map, card_distinctIds] at h

theorem settled_applyAction {ids : List ItemId} (hids : ids ≠ []) :
    ∃ response, (r.applyAction now action ids).answer = .ok response ∧
      response.Reports action.name (r.applyAction now action ids).state.hiddenCount (r.tallyAlone now action ids) := by
  refine ⟨_, r.answer_applyAction now action hids, ?_⟩
  rw [ofOutcomes_alone]
  exact (r.balanced_tallyAlone now action ids).reports _ _

/-- To delete is never refused, and an id that is gone is as was asked. -/
theorem countAlone_delete {outcomes : List ItemOutcome} (h : ∀ outcome ∈ outcomes, outcome.processed = false) :
    r.countAlone now .delete ids outcomes = 0 := by
  rw [countAlone, Finset.card_eq_zero, Finset.filter_eq_empty_iff]
  intro id _ hmem
  have hprocessed := r.processed_deleteOne id
  rw [applyOne, if_pos rfl] at hmem
  rw [h _ hmem] at hprocessed
  cases hprocessed

theorem remaining_delete {ids : List ItemId} {response : BulkResponse}
    (h : (r.applyAction now .delete ids).answer = .ok response) : response.remaining = 0 := by
  by_cases hids : ids = []
  · rw [applyAction, if_pos hids] at h
    cases h
  obtain ⟨reported, hanswer, hreports⟩ := r.settled_applyAction now .delete hids
  obtain rfl : reported = response := Except.ok.inj (hanswer.symm.trans h)
  have hnone : ∀ outcome : ItemOutcome, outcome.processed = false → r.countAlone now .delete ids [outcome] = 0 :=
    fun outcome houtcome => countAlone_delete r now ids fun other hother => by rwa [List.mem_singleton.1 hother]
  rw [hreports.remaining]
  exact Nat.add_eq_zero_iff.2 ⟨hnone .notFound rfl, hnone .invalidTransition rfl⟩

/-! ## The end of hiding -/

/-- The ids of a list that are hidden, and those that are not, counted. -/
def tallyHidden : BulkTally where
  requested := ids.toFinset.card
  processed := (ids.toFinset.filter fun id => r.hidden.contains id = true).card
  notFound := (ids.toFinset.filter fun id => ¬r.hidden.contains id = true).card
  invalid := 0

theorem balanced_tallyHidden : (r.tallyHidden ids).Balanced ids.toFinset.card where
  requested := rfl
  sum := by
    unfold tallyHidden
    exact Finset.card_filter_add_card_filter_not (s := ids.toFinset) fun id => r.hidden.contains id = true

theorem length_takeOut : (r.hidden.takeOut (distinctIds ids)).1.length = (r.tallyHidden ids).processed := by
  have hentry : ∀ id, Option.isSome ( r.hidden.entry? id) = r.hidden.contains id := fun id => by
    unfold HiddenSet.entry?
    rw [Option.isSome_map, HiddenSet.contains_eq_isSome]
  rw [HiddenSet.takeOut_of_nodup _ (nodup_distinctIds ids), List.length_filterMap_eq_countP]
  simp only [hentry]
  exact countP_distinctIds ids r.hidden.contains

/-- What is taken out is what was processed, the rest was not found. -/
theorem answer_finishUnhide {requested : Nat} {removed : List HiddenEntry} {t : BulkTally}
    (ht : t.Balanced requested) (hremoved : removed.length = t.processed) (hinvalid : t.invalid = 0) :
    (r.finishUnhide requested removed).answer =
      .ok (t.response "unhide" (r.finishUnhide requested removed).state.hiddenCount) := by
  have htally : t = ⟨requested, removed.length, requested - removed.length, 0⟩ := by
    obtain ⟨hrequested, hsum⟩ := ht
    have habsent : t.notFound = requested - removed.length := by omega
    rw [← habsent, ← hinvalid, ← hrequested, hremoved]
  rw [htally]
  rfl

variable {passkey : Option String}

theorem settled_unhide {ids : List ItemId} (hids : ids ≠ []) (hopens : r.hidden.opens passkey = true) :
    ∃ response, (r.unhide ids passkey).answer = .ok response ∧
      response.Reports "unhide" (r.unhide ids passkey).state.hiddenCount (r.tallyHidden ids) := by
  have hbalanced := r.balanced_tallyHidden ids
  rw [unhide_eq r hids, if_pos hopens, card_distinctIds]
  exact ⟨_, answer_finishUnhide _ hbalanced (r.length_takeOut ids) rfl, hbalanced.reports _ _⟩

theorem settled_unhideAll (hopens : r.hidden.opens passkey = true) :
    ∃ response, (r.unhideAll passkey).answer = .ok response ∧
      response.Reports "unhide" (r.unhideAll passkey).state.hiddenCount ⟨r.hiddenCount, r.hiddenCount, 0, 0⟩ := by
  have hbalanced : (⟨r.hiddenCount, r.hiddenCount, 0, 0⟩ : BulkTally).Balanced r.hiddenCount := ⟨rfl, rfl⟩
  have hremoved : (r.hidden.takeOut (r.hidden.entries.map (·.id))).1.length = r.hiddenCount := by
    rw [HiddenSet.takeOut_entries, HiddenSet.length_entries, hiddenCount]
  rw [unhideAll_eq, if_pos hopens]
  exact ⟨_, answer_finishUnhide _ hbalanced hremoved rfl, hbalanced.reports _ _⟩

/-! ## Every request -/

/-- What the bulk requests answer adds up to what they were asked. -/
structure Settles : Prop where
  acted : ∀ now action ids, ids ≠ [] → ∃ response, (r.applyAction now action ids).answer = .ok response ∧
    response.Reports action.name (r.applyAction now action ids).state.hiddenCount (r.tallyAlone now action ids)
  deleted : ∀ now ids response, (r.applyAction now .delete ids).answer = .ok response → response.remaining = 0
  unhid : ∀ ids passkey, ids ≠ [] → r.hidden.opens passkey = true →
    ∃ response, (r.unhide ids passkey).answer = .ok response ∧
      response.Reports "unhide" (r.unhide ids passkey).state.hiddenCount (r.tallyHidden ids)
  unhidAll : ∀ passkey, r.hidden.opens passkey = true →
    ∃ response, (r.unhideAll passkey).answer = .ok response ∧
      response.Reports "unhide" (r.unhideAll passkey).state.hiddenCount ⟨r.hiddenCount, r.hiddenCount, 0, 0⟩
  /-- No entry is taken out that was not asked for, so what was not found is no negative number. -/
  fits : ∀ ids, (r.hidden.takeOut (distinctIds ids)).1.length ≤ (distinctIds ids).length
  /-- Any other bulk request is refused. -/
  refused : ∀ now action ids passkey,
    (ids = [] → (r.applyAction now action ids).answer = .error .emptyIds) ∧
    (ids = [] → (r.unhide ids passkey).answer = .error .emptyIds) ∧
    (ids ≠ [] → r.hidden.opens passkey = false → (r.unhide ids passkey).answer = .error .unauthorized) ∧
    (r.hidden.opens passkey = false → (r.unhideAll passkey).answer = .error .unauthorized)

/-- **Counting is conserved**, by every bulk request to any registry and by the tally of any list of outcomes. -/
theorem settles : r.Settles ∧ ∀ outcomes : List ItemOutcome,
    BulkTally.ofOutcomes outcomes = {
      requested := outcomes.length
      processed := outcomes.countP ItemOutcome.processed
      notFound := outcomes.count .notFound
      invalid := outcomes.count .invalidTransition } ∧
    (BulkTally.ofOutcomes outcomes).Balanced outcomes.length ∧
    ∀ label hidden, ((BulkTally.ofOutcomes outcomes).response label hidden).Reports label hidden
      (BulkTally.ofOutcomes outcomes) where
  left := {
    acted := fun now action _ => r.settled_applyAction now action
    deleted := fun now _ _ => r.remaining_delete now
    unhid := fun _ _ => r.settled_unhide
    unhidAll := fun _ => r.settled_unhideAll
    fits := fun ids => r.hidden.length_takeOut_le (distinctIds ids)
    refused := fun now action ids passkey => by
      have hrefuses (hopens : r.hidden.opens passkey = false) : r.Refuses passkey :=
        refuses_of_not_opens (Bool.not_eq_true _ ▸ hopens)
      refine ⟨fun hids => ?_, fun hids => ?_, fun hids hopens => ?_, fun hopens => ?_⟩
      · rw [applyAction, if_pos hids]
      · rw [unhide, if_pos hids]
      · exact ((hrefuses hopens).unhide ids hids).1
      · exact (hrefuses hopens).unhideAll.1 }
  right outcomes :=
    have hbalanced := BulkTally.balanced_ofOutcomes outcomes
    ⟨BulkTally.ofOutcomes_eq outcomes, hbalanced, hbalanced.reports⟩

end Registry

end TransferRegistry
