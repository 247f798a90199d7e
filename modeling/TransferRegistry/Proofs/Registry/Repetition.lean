import Mathlib.Data.List.Basic
import TransferRegistry.Proofs.Item.Lifecycle
import TransferRegistry.Proofs.Registry.Batch

/-!
# Asking twice

* `Registry.SameAt.again`: an action that was done to an id, after which nothing else was, leaves the registry as it is
  when it is done once more, and what it tells counts as what it told.
* `Registry.repeat_applyAction`: so a bulk action that is asked for again answers the same and changes nothing.
-/

namespace TransferRegistry

/-- Two outcomes are counted alike: only how an item came to be as was asked can differ. -/
def ItemOutcome.CountsAs (first second : ItemOutcome) : Prop :=
  second = first ∨ (first.processed = true ∧ second.processed = true)

namespace BulkTally

theorem record_of_processed {outcome : ItemOutcome} (h : outcome.processed = true) (t : BulkTally) :
    t.record outcome = { t with processed := t.processed + 1 } := by
  cases outcome with
  | notFound | invalidTransition => cases h
  | _ => rfl

theorem record_of_countsAs {first second : ItemOutcome} (h : first.CountsAs second) (t : BulkTally) :
    t.record second = t.record first := by
  rcases h with rfl | ⟨hfirst, hsecond⟩
  · rfl
  · rw [record_of_processed hfirst, record_of_processed hsecond]

theorem ofOutcomes_map_congr {ids : List ItemId} {first second : ItemId → ItemOutcome}
    (h : ∀ id ∈ ids, (first id).CountsAs (second id)) : ofOutcomes (ids.map second) = ofOutcomes (ids.map first) := by
  rw [ofOutcomes, ofOutcomes, List.foldl_map, List.foldl_map]
  refine List.foldl_ext _ _ empty fun t id hid => ?_
  rw [record_of_countsAs (h id hid)]

end BulkTally

namespace Registry

variable {r s : Registry} {id : ItemId} {action : ItemAction} {item : Item}

/-! ## One item -/

/-- An id that is gone can be deleted again. -/
theorem deleteOne_of_gone (hslot : r.items.slot? id = none) (hshown : r.hidden.contains id = false) :
    r.deleteOne id = ⟨r, .alreadyProcessed, []⟩ := by
  simp only [deleteOne, hslot, hshown, Store.remove_of_none hslot, Bool.false_eq_true, if_false]

theorem processed_deleteOne (r : Registry) (id : ItemId) : (r.deleteOne id).answer.processed = true := by
  unfold deleteOne
  cases r.items.slot? id <;> rfl

theorem processed_hideOne (r : Registry) (now : Int64) (id : ItemId) : (r.hideOne now id).answer.processed = true := by
  unfold hideOne
  split <;> rfl

theorem items_hideOne (r : Registry) (now : Int64) (id : ItemId) : (r.hideOne now id).state.items = r.items := by
  unfold hideOne
  split <;> rfl

theorem processed_changeOne (r : Registry) (id : ItemId) (item : Item) (transition : Transition) :
    (r.changeOne id item transition).answer.processed = true := by
  unfold changeOne
  split <;> rfl

theorem applyOne_hide (r : Registry) (now : Int64) (id : ItemId) :
    r.applyOne now .hide id = if (r.items.item? id).isSome then r.hideOne now id else ⟨r, .notFound, []⟩ := by
  rw [applyOne, if_neg (by decide)]
  cases r.items.item? id <;> rfl

/-! ## One item again -/

theorem SameAt.delete_again (h : SameAt id (r.deleteOne id).state s) : s.deleteOne id = ⟨s, .alreadyProcessed, []⟩ := by
  obtain ⟨hslot, htime⟩ := r.gone_deleteOne id
  have hshown : s.hidden.contains id = false := HiddenSet.contains_eq_false_iff.2 (h.time.trans htime)
  exact deleteOne_of_gone (h.slot.trans hslot) hshown

theorem SameAt.hide_again {now : Int64} (h : SameAt id (r.hideOne now id).state s) (later : Int64) :
    s.hideOne later id = ⟨s, .unchanged, []⟩ := by
  have hhidden : (r.hideOne now id).state.hidden.contains id = true := by
    cases hbefore : r.hidden.contains id with
    | true => rwa [hideOne, hbefore]
    | false =>
      have hafter : (r.hideOne now id).state.hidden = r.hidden.hide id now := by
        rw [hideOne, hbefore]
        rfl
      rw [hafter, HiddenSet.contains_eq_isSome, HiddenSet.times_hide, if_pos ⟨rfl, hbefore⟩, Option.isSome_some]
  rw [hideOne, h.contains, hhidden]
  rfl

theorem SameAt.change_again {transition : Transition} (h : SameAt id (r.changeOne id item transition).state s)
    (hplain : action.Plain) (hshown : r.shown? id = some item) (hplan : action.plan item = .ok transition)
    (later : Int64) : s.applyOne later action id = ⟨s, .unchanged, []⟩ := by
  obtain ⟨again, hagain, hidle⟩ := ItemAction.plan_applyTo hplan
  have hmade : (r.changeOne id item transition).state.shown? id = some (transition.applyTo item) := by
    rcases r.changeOne_cases id item transition with ⟨hunchanged, hstate⟩ | ⟨-, hstate⟩
    · rw [hstate, Transition.applyTo_of_not_changes hunchanged, hshown]
    · rw [hstate, shown?_put (shown?_eq_some.1 hshown).2, if_pos rfl]
  rw [applyOne_of_shown hplain (h.shown?.trans hmade), hagain]
  simp only [changeOne, hidle, Bool.false_eq_true, if_false]

/-- Done again to an id to which nothing else was done since, an action does nothing, and tells the same or that the item
is as was asked again. -/
theorem SameAt.again {now : Int64} (h : SameAt id (r.applyOne now action id).state s) (later : Int64) :
    (s.applyOne later action id).state = s ∧
      (r.applyOne now action id).answer.CountsAs (s.applyOne later action id).answer := by
  by_cases hdelete : action = .delete
  · subst hdelete
    rw [applyOne, if_pos rfl] at h ⊢
    rw [applyOne, if_pos rfl, h.delete_again]
    exact ⟨rfl, Or.inr ⟨r.processed_deleteOne id, rfl⟩⟩
  by_cases hhide : action = .hide
  · subst hhide
    rw [r.applyOne_hide] at h ⊢
    rw [s.applyOne_hide]
    by_cases hstored : (r.items.item? id).isSome = true
    · rw [if_pos hstored] at h ⊢
      have hthere : (s.items.item? id).isSome = true := by rwa [h.item?, items_hideOne]
      rw [if_pos hthere, h.hide_again later]
      exact ⟨rfl, Or.inr ⟨r.processed_hideOne now id, rfl⟩⟩
    · rw [if_neg hstored] at h ⊢
      rw [h.item?, if_neg hstored]
      exact ⟨rfl, Or.inl rfl⟩
  -- what pausing, archiving and resuming do depends on what is shown of the id
  have hplain : action.Plain := ⟨hdelete, hhide⟩
  cases hshown : r.shown? id with
  | none =>
    rw [applyOne_of_not_shown hplain hshown] at h ⊢
    rw [applyOne_of_not_shown hplain (h.shown?.trans hshown)]
    exact ⟨rfl, Or.inl rfl⟩
  | some item =>
    rw [applyOne_of_shown hplain hshown] at h ⊢
    cases hplan : action.plan item with
    | error e =>
      rw [hplan] at h
      rw [applyOne_of_shown hplain (h.shown?.trans hshown), hplan]
      exact ⟨rfl, Or.inl rfl⟩
    | ok transition =>
      rw [hplan] at h
      rw [h.change_again hplain hshown hplan later]
      exact ⟨rfl, Or.inr ⟨r.processed_changeOne id item transition, rfl⟩⟩

/-! ## Many items -/

/-- Two registries have the same items, hidden ids with their times, and queues. -/
structure SameContent (r s : Registry) : Prop where
  items : s.items = r.items
  hidden : s.hidden = r.hidden
  itemUpdates : s.itemUpdates = r.itemUpdates
  hiddenUpdates : s.hiddenUpdates = r.hiddenUpdates

theorem state_applyEach_of_done {now : Int64} (ids : List ItemId)
    (hdone : ∀ id ∈ ids, (r.applyOne now action id).state = r) : (r.applyEach now action ids).state = r := by
  induction ids with
  | nil => rfl
  | cons id ids ih =>
    rw [applyEach, hdone id List.mem_cons_self]
    exact ih fun other ho => hdone other (List.mem_cons_of_mem _ ho)

/-- **A bulk action can be asked for twice.** Right after it, it answers the same and changes no item, no hidden id and
no queue. -/
theorem repeat_applyAction (r : Registry) (now later : Int64) (action : ItemAction) {ids : List ItemId}
    (hids : ids ≠ []) :
    ∃ response, (r.applyAction now action ids).answer = .ok response ∧
      ((r.applyAction now action ids).state.applyAction later action ids).answer = .ok response ∧
      SameContent (r.applyAction now action ids).state
        ((r.applyAction now action ids).state.applyAction later action ids).state := by
  have hfirst := r.answer_applyAction now action hids
  have halike : ∀ id ∈ distinctIds ids,
      AlikeAt id (r.applyOne now action id).state (r.applyAction now action ids).state := fun id hid => by
    have h := r.alikeAt_applyAction now action ids id
    rwa [if_pos (mem_distinctIds.1 hid)] at h
  generalize (r.applyAction now action ids).state = s at hfirst halike ⊢
  -- the second request counts itself first, which none of its items can tell
  have hdone : ((s.addStat .bulkCalls 1).applyEach later action (distinctIds ids)).state = s.addStat .bulkCalls 1 := by
    refine state_applyEach_of_done (distinctIds ids) fun id hid => ?_
    have hcounted : SameAt id (r.applyOne now action id).state (s.addStat .bulkCalls 1) :=
      ⟨(halike id hid).slot, (halike id hid).time⟩
    exact (hcounted.again later).1
  have hsame : SameContent s (s.applyAction later action ids).state := by
    unfold applyAction
    rw [if_neg hids]
    simp only [hdone]
    exact ⟨rfl, rfl, rfl, rfl⟩
  refine ⟨_, hfirst, ?_, hsame⟩
  rw [s.answer_applyAction later action hids, hiddenCount, hiddenCount, hsame.hidden]
  rw [BulkTally.ofOutcomes_map_congr fun id hid => ((halike id hid).again later).2]

/-- An item is there, and hidden. -/
def Sample.concealed : Registry :=
  ((start ⟨"info", ⟨"open sesame"⟩, ⟨8, 2, ["seed"]⟩, ⟨true, ".", 60⟩⟩ 0).serve
    (.addItem (.fresh default "item" 10))).serve (.applyOne 1 .hide default)

/-- The item is deleted, and then it is gone already. -/
theorem repeat_applyAction_sample :
    [(default : ItemId)] ≠ [] ∧
      (Sample.concealed.applyOne 2 .delete default).answer = .applied ∧
      ((Sample.concealed.applyOne 2 .delete default).state.applyOne 3 .delete default).answer = .alreadyProcessed ∧
      ∃ response, (Sample.concealed.applyAction 2 .delete [default]).answer = .ok response ∧
        ((Sample.concealed.applyAction 2 .delete [default]).state.applyAction 3 .delete [default]).answer = .ok response ∧
        SameContent (Sample.concealed.applyAction 2 .delete [default]).state
          ((Sample.concealed.applyAction 2 .delete [default]).state.applyAction 3 .delete [default]).state :=
  ⟨by decide, by decide +kernel, by decide +kernel, repeat_applyAction _ 2 3 .delete (by decide)⟩

end Registry

end TransferRegistry
