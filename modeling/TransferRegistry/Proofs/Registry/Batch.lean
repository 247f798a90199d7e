import TransferRegistry.Proofs.Registry.Move

/-!
# One id among others

* `Registry.SameAt`: two registries have the same record and the same hidden time of an id, which is all that an action
  to it looks at (`SameAt.answer_applyOne`). `Registry.AlikeAt`: they have the same of it in their queues too.
* `Move.alikeAt`, `alikeAt_applyOne`: an action to one item leaves every other id as it is; `AlikeAt.applyOne`: what it
  does to its own id depends on what is kept of that id alone.
* `alikeAt_applyAction`, `answer_applyAction`: so an action to many items does to each of them, and tells of each of
  them, what it would if it were to it alone.
-/

namespace TransferRegistry

namespace Registry

/-- Two registries have the same slot and the same hidden time for an id. -/
structure SameAt (id : ItemId) (r s : Registry) : Prop where
  slot : s.items.slot? id = r.items.slot? id
  time : s.hidden.times[id]? = r.hidden.times[id]?

/-- Two registries have the same of an id in the store, in the hidden set and in the queues. -/
structure AlikeAt (id : ItemId) (r s : Registry) : Prop extends SameAt id r s where
  itemUpdate : s.itemUpdates[id]? = r.itemUpdates[id]?
  hiddenUpdate : s.hiddenUpdates[id]? = r.hiddenUpdates[id]?

section

variable {r s t : Registry} {id other : ItemId} {now : Int64} {action : ItemAction}

theorem SameAt.item? (h : SameAt id r s) : s.items.item? id = r.items.item? id := by
  rw [Store.item?, Store.item?, h.slot]

theorem SameAt.contains (h : SameAt id r s) : s.hidden.contains id = r.hidden.contains id :=
  HiddenSet.contains_congr h.time

theorem SameAt.shown? (h : SameAt id r s) : s.shown? id = r.shown? id := by
  rw [Registry.shown?, Registry.shown?, h.contains, h.item?]

theorem AlikeAt.refl (id : ItemId) (r : Registry) : AlikeAt id r r := ⟨⟨rfl, rfl⟩, rfl, rfl⟩

theorem AlikeAt.trans (h : AlikeAt id r s) (h' : AlikeAt id s t) : AlikeAt id r t where
  slot := h'.slot.trans h.slot
  time := h'.time.trans h.time
  itemUpdate := h'.itemUpdate.trans h.itemUpdate
  hiddenUpdate := h'.hiddenUpdate.trans h.hiddenUpdate

/-! ## The other ids -/

theorem Move.alikeAt (hmove : Move (.applyOne now action id) r s) (hne : id ≠ other) : AlikeAt other r s := by
  have hpush : ∀ (pending : Pending) (pushed : UpdatesAction), (pending.push id pushed)[other]? = pending[other]? :=
    fun pending pushed => (pending.getElem?_push id other pushed).trans (if_neg hne)
  cases hmove with
  | add hq => cases hq
  | pendItem hq => cases hq
  | pendHidden hq => cases hq
  | report hq => exact hq.elim
  | act hq =>
    obtain ⟨-, -, rfl⟩ := hq
    exact ⟨⟨(Store.slot?_put ..).trans (if_neg hne), rfl⟩, hpush .., rfl⟩
  | hide hq =>
    obtain ⟨-, -, rfl⟩ := hq
    exact ⟨⟨rfl, (HiddenSet.times_hide ..).trans (if_neg fun h => hne h.1)⟩, rfl, hpush ..⟩
  | unhide hq =>
    rcases hq with ⟨_, -, -, rfl⟩ | ⟨_, hq, -⟩
    · exact ⟨⟨rfl, (HiddenSet.times_erase ..).trans (if_neg hne)⟩, rfl, hpush ..⟩
    · exact hq.elim
  | delete hq =>
    obtain ⟨-, -, rfl⟩ := hq
    exact ⟨⟨(Store.slot?_remove ..).trans (if_neg hne), rfl⟩, hpush .., rfl⟩
  | _ => exact ⟨⟨rfl, rfl⟩, rfl, rfl⟩

theorem alikeAt_applyOne (r : Registry) (now : Int64) (action : ItemAction) (hne : id ≠ other) :
    AlikeAt other r (r.applyOne now action id).state := by
  have hq : Request.Asks (.applyOne now action id) now action id := ⟨rfl, rfl, rfl⟩
  have hmoves : Moves (.applyOne now action id) r (r.applyOne now action id).state := applyOne_moves hq r
  generalize (r.applyOne now action id).state = s at hmoves ⊢
  induction hmoves with
  | refl => exact AlikeAt.refl other r
  | tail _ hmove ih => exact ih.trans (hmove.alikeAt hne)

/-! ## The id itself -/

/-- A deleted id is neither stored nor hidden. -/
theorem gone_deleteOne (r : Registry) (id : ItemId) :
    (r.deleteOne id).state.items.slot? id = none ∧ (r.deleteOne id).state.hidden.times[id]? = none := by
  have hitems : (r.deleteOne id).state.items = r.items.remove id := by
    simp only [deleteOne]
    split <;> split <;> rfl
  have hhidden : ((r.unhideOne id).takeOne id).hidden = (r.unhideOne id).hidden := by
    unfold takeOne
    split <;> rfl
  have hgone := r.contains_unhideOne id
  rw [HiddenSet.contains_eq_false_iff, ← hhidden] at hgone
  obtain ⟨stats, hstate⟩ := r.deleteOne_state id
  refine ⟨by rw [hitems, Store.slot?_remove, if_pos rfl], ?_⟩
  rw [hstate]
  exact hgone

theorem queues_deleteOne (r : Registry) (id : ItemId) :
    (r.deleteOne id).state.itemUpdates =
        (if (r.items.slot? id).isSome then r.itemUpdates.push id .remove else r.itemUpdates) ∧
      (r.deleteOne id).state.hiddenUpdates =
        (if r.hidden.contains id then r.hiddenUpdates.push id .remove else r.hiddenUpdates) := by
  simp only [deleteOne]
  cases r.hidden.contains id <;> cases r.items.slot? id <;> exact ⟨rfl, rfl⟩

theorem AlikeAt.queueItem (h : AlikeAt id r s) (pushed : UpdatesAction) :
    AlikeAt id (r.queueItem id pushed) (s.queueItem id pushed) where
  __ := h
  itemUpdate := by
    show (s.itemUpdates.push id pushed)[id]? = (r.itemUpdates.push id pushed)[id]?
    rw [Pending.getElem?_push, Pending.getElem?_push, h.itemUpdate]

theorem AlikeAt.queueHidden (h : AlikeAt id r s) (pushed : UpdatesAction) :
    AlikeAt id (r.queueHidden id pushed) (s.queueHidden id pushed) where
  __ := h
  hiddenUpdate := by
    show (s.hiddenUpdates.push id pushed)[id]? = (r.hiddenUpdates.push id pushed)[id]?
    rw [Pending.getElem?_push, Pending.getElem?_push, h.hiddenUpdate]

theorem AlikeAt.deleteOne (h : AlikeAt id r s) : AlikeAt id (r.deleteOne id).state (s.deleteOne id).state := by
  obtain ⟨hritem, hrhidden⟩ := r.queues_deleteOne id
  obtain ⟨hsitem, hshidden⟩ := s.queues_deleteOne id
  have hr := r.gone_deleteOne id
  have hs := s.gone_deleteOne id
  refine ⟨⟨hs.1.trans hr.1.symm, hs.2.trans hr.2.symm⟩, ?_, ?_⟩
  · rw [hritem, hsitem, h.slot]
    split
    · exact (h.queueItem .remove).itemUpdate
    · exact h.itemUpdate
  · rw [hrhidden, hshidden, h.contains]
    split
    · exact (h.queueHidden .remove).hiddenUpdate
    · exact h.hiddenUpdate

theorem AlikeAt.hideOne (h : AlikeAt id r s) : AlikeAt id (r.hideOne now id).state (s.hideOne now id).state := by
  unfold Registry.hideOne
  rw [h.contains]
  split
  · exact h
  · have htime : (s.hidden.hide id now).times[id]? = (r.hidden.hide id now).times[id]? := by
      rw [HiddenSet.times_hide, HiddenSet.times_hide, h.contains, h.time]
    exact ⟨⟨h.slot, htime⟩, h.itemUpdate, (h.queueHidden .add).hiddenUpdate⟩

theorem AlikeAt.changeOne (h : AlikeAt id r s) (item : Item) (transition : Transition) :
    AlikeAt id (r.changeOne id item transition).state (s.changeOne id item transition).state := by
  unfold Registry.changeOne
  split
  · have hslot : (s.items.put id (transition.applyTo item)).slot? id =
        (r.items.put id (transition.applyTo item)).slot? id := by
      rw [Store.slot?_put, Store.slot?_put, if_pos rfl, if_pos rfl]
    exact ⟨⟨hslot, h.time⟩, (h.queueItem .update).itemUpdate, h.hiddenUpdate⟩
  · exact h

theorem AlikeAt.applyOne (h : AlikeAt id r s) :
    AlikeAt id (r.applyOne now action id).state (s.applyOne now action id).state := by
  unfold Registry.applyOne
  split
  · exact h.deleteOne
  · rw [h.item?, h.contains]
    split
    · exact h
    · split
      · exact h
      · split
        · exact h
        · exact h.hideOne
        · exact h.changeOne _ _

/-- What an action tells of an item depends on its slot and its hidden time alone. -/
theorem SameAt.answer_applyOne (h : SameAt id r s) :
    (s.applyOne now action id).answer = (r.applyOne now action id).answer := by
  unfold Registry.applyOne
  split
  · unfold Registry.deleteOne
    rw [h.slot]
    cases r.items.slot? id <;> rfl
  · rw [h.item?, h.contains]
    split
    · rfl
    · split
      · rfl
      · split
        · rfl
        · unfold Registry.hideOne
          rw [h.contains]
          split <;> rfl
        · unfold Registry.changeOne
          split <;> rfl

/-! ## Batches -/

theorem alikeAt_applyEach_of_not_mem (ids : List ItemId) (hid : other ∉ ids) (r : Registry) :
    AlikeAt other r (r.applyEach now action ids).state := by
  induction ids generalizing r with
  | nil => exact AlikeAt.refl other r
  | cons id ids ih =>
    rw [List.mem_cons, not_or] at hid
    exact (alikeAt_applyOne r now action (Ne.symm hid.1)).trans (ih hid.2 _)

theorem alikeAt_applyEach_of_mem (ids : List ItemId) (hids : ids.Nodup) (hid : id ∈ ids) (r : Registry) :
    AlikeAt id (r.applyOne now action id).state (r.applyEach now action ids).state := by
  induction ids generalizing r with
  | nil => cases hid
  | cons first ids ih =>
    obtain ⟨hfirst, hids⟩ := List.nodup_cons.1 hids
    by_cases heq : first = id
    · subst heq
      exact alikeAt_applyEach_of_not_mem ids hfirst _
    · have hbefore := alikeAt_applyOne r now action heq
      have hlater := ih hids (List.mem_of_ne_of_mem (Ne.symm heq) hid) (r.applyOne now action first).state
      exact hbefore.applyOne.trans hlater

/-- Of each of many items the action tells what it would tell of it alone. -/
theorem answer_applyEach (ids : List ItemId) (hids : ids.Nodup) (r : Registry) :
    (r.applyEach now action ids).answer = ids.map fun id => (r.applyOne now action id).answer := by
  induction ids generalizing r with
  | nil => rfl
  | cons first ids ih =>
    obtain ⟨hfirst, hids⟩ := List.nodup_cons.1 hids
    rw [applyEach, ih hids, List.map_cons]
    refine congrArg (List.cons _) (List.map_congr_left fun id hid => ?_)
    have hne : first ≠ id := fun heq => hfirst (heq ▸ hid)
    exact (alikeAt_applyOne r now action hne).answer_applyOne

theorem nodup_distinctIds (ids : List ItemId) : (distinctIds ids).Nodup := by
  refine Std.ExtTreeSet.distinct_toList.imp fun hne heq => hne ?_
  rw [heq]
  exact Std.ReflCmp.compare_self

/-- An action to many items does to each of them what it would do to it alone, and nothing to any other. -/
theorem alikeAt_applyAction (r : Registry) (now : Int64) (action : ItemAction) (ids : List ItemId) (id : ItemId) :
    AlikeAt id (if id ∈ ids then (r.applyOne now action id).state else r) (r.applyAction now action ids).state := by
  unfold applyAction
  by_cases hnil : ids = []
  · rw [if_pos hnil, hnil, if_neg List.not_mem_nil]
    exact AlikeAt.refl id r
  have hcounted : AlikeAt id r (r.addStat .bulkCalls 1) := ⟨⟨rfl, rfl⟩, rfl, rfl⟩
  have hdone : AlikeAt id (if id ∈ ids then (r.applyOne now action id).state else r)
      ((r.addStat .bulkCalls 1).applyEach now action (distinctIds ids)).state := by
    split
    · rename_i hid
      exact hcounted.applyOne.trans
        (alikeAt_applyEach_of_mem _ (nodup_distinctIds ids) (mem_distinctIds.2 hid) (r.addStat .bulkCalls 1))
    · rename_i hid
      exact hcounted.trans (alikeAt_applyEach_of_not_mem _ (mt mem_distinctIds.1 hid) (r.addStat .bulkCalls 1))
  rw [if_neg hnil]
  exact ⟨⟨hdone.slot, hdone.time⟩, hdone.itemUpdate, hdone.hiddenUpdate⟩

/-- An action to many items answers with the tally of what it would tell of each of them alone. -/
theorem answer_applyAction (r : Registry) (now : Int64) (action : ItemAction) {ids : List ItemId} (hids : ids ≠ []) :
    (r.applyAction now action ids).answer =
      .ok ((BulkTally.ofOutcomes ((distinctIds ids).map fun id => (r.applyOne now action id).answer)).response action.name
        (r.applyAction now action ids).state.hiddenCount) := by
  have hcounted : ∀ id, SameAt id r (r.addStat .bulkCalls 1) := fun id => ⟨rfl, rfl⟩
  have houtcomes : ((r.addStat .bulkCalls 1).applyEach now action (distinctIds ids)).answer =
      (distinctIds ids).map fun id => (r.applyOne now action id).answer := by
    rw [answer_applyEach _ (nodup_distinctIds ids)]
    exact List.map_congr_left fun id _ => (hcounted id).answer_applyOne
  unfold applyAction
  rw [if_neg hids, ← houtcomes]

end

end Registry

end TransferRegistry
