import TransferRegistry.Proofs.Registry.Settlement

/-!
# The end of hiding

* `Registry.times_unhide`, `hiddenUpdates_unhide`, `kept_unhide`: what ending the hiding of some ids changes of the times
  and of the queue, and what it leaves as it is.
* `Registry.Consistent.unhide_hide`: it undoes the hiding of ids that were not hidden before.
* `Registry.unhideAll_eq_unhide`: to end all hiding is to end that of all hidden ids.
* `Registry.Unhides`: all this for one who has the passkey. `unhides_run` says so after every run, and of every hidden set
  which entries it gives back.
-/

namespace TransferRegistry

/-- Ids in their order, each once, are what is left of them when they are ordered. -/
theorem distinctIds_of_ascending {ids : List ItemId} (h : ids.Pairwise fun a b => compare a b = .lt) :
    distinctIds ids = ids := by
  have hnodup : ids.Nodup := h.imp fun hlt heq => by simp [heq] at hlt
  have hperm : (distinctIds ids).Perm ids :=
    (List.perm_ext_iff_of_nodup (Registry.nodup_distinctIds ids) hnodup).2 fun _ => Registry.mem_distinctIds
  refine hperm.eq_of_pairwise (fun a b _ _ hab hba => ?_) Std.ExtTreeSet.ordered_toList h
  exact absurd hba (Std.OrientedCmp.not_lt_of_lt hab)

namespace Registry

/-! ## What is queued -/

theorem kept_queueTaken (removed : List HiddenEntry) (r : Registry) :
    (queueTaken r removed).items = r.items ∧ (queueTaken r removed).hidden = r.hidden ∧
      (queueTaken r removed).itemUpdates = r.itemUpdates := by
  induction removed generalizing r with
  | nil => exact ⟨rfl, rfl, rfl⟩
  | cons entry removed ih => exact ih (r.queueHidden entry.id .remove)

theorem hiddenUpdates_queueTaken (removed : List HiddenEntry) (r : Registry) (id : ItemId) :
    (queueTaken r removed).hiddenUpdates[id]? =
      if ∃ entry ∈ removed, entry.id = id then some .remove else r.hiddenUpdates[id]? := by
  induction removed generalizing r with
  | nil => simp [queueTaken]
  | cons entry removed ih =>
    have hpush : (r.queueHidden entry.id .remove).hiddenUpdates[id]? =
        if entry.id = id then some .remove else r.hiddenUpdates[id]? := by
      refine (Pending.getElem?_push r.hiddenUpdates entry.id id .remove).trans ?_
      rw [UpdatesAction.after_eq]
      rfl
    rw [show queueTaken r (entry :: removed) = queueTaken (r.queueHidden entry.id .remove) removed from rfl, ih, hpush]
    simp only [List.exists_mem_cons_iff]
    by_cases hid : entry.id = id <;> simp [hid]

section

variable {r : Registry} {ids : List ItemId} {passkey : Option String}

/-- To end the hiding of some ids takes them out and queues what was taken out. -/
theorem state_unhide (hids : ids ≠ []) (hopens : r.hidden.opens passkey = true) :
    ∃ stats counted, (r.unhide ids passkey).state =
      { queueTaken { r with hidden := (r.hidden.takeOut (distinctIds ids)).2, stats := counted }
          (r.hidden.takeOut (distinctIds ids)).1 with stats } := by
  rw [unhide_eq r hids, if_pos hopens]
  obtain ⟨stats, hstate⟩ := finishUnhide_state { r with hidden := (r.hidden.takeOut (distinctIds ids)).2 }
    (distinctIds ids).length (r.hidden.takeOut (distinctIds ids)).1
  exact ⟨stats, _, hstate⟩

/-- The items are not touched. -/
theorem kept_unhide (hids : ids ≠ []) (hopens : r.hidden.opens passkey = true) :
    (r.unhide ids passkey).state.items = r.items ∧ (r.unhide ids passkey).state.itemUpdates = r.itemUpdates := by
  obtain ⟨stats, counted, hstate⟩ := state_unhide hids hopens
  have hkept := kept_queueTaken (r.hidden.takeOut (distinctIds ids)).1
    { r with hidden := (r.hidden.takeOut (distinctIds ids)).2, stats := counted }
  rw [hstate]
  exact ⟨hkept.1, hkept.2.2⟩

theorem hidden_unhide (hids : ids ≠ []) (hopens : r.hidden.opens passkey = true) :
    (r.unhide ids passkey).state.hidden = (r.hidden.takeOut (distinctIds ids)).2 := by
  obtain ⟨stats, counted, hstate⟩ := state_unhide hids hopens
  rw [hstate]
  exact (kept_queueTaken _ _).2.1

/-- The listed ids are hidden no longer, the others are as they were. -/
theorem times_unhide (hids : ids ≠ []) (hopens : r.hidden.opens passkey = true) (id : ItemId) :
    (r.unhide ids passkey).state.hidden.times[id]? = if id ∈ ids then none else r.hidden.times[id]? := by
  rw [hidden_unhide hids hopens, HiddenSet.times_takeOut]
  simp only [mem_distinctIds]

/-- The ids that were hidden are queued to be removed, and no others. -/
theorem hiddenUpdates_unhide (hids : ids ≠ []) (hopens : r.hidden.opens passkey = true) (id : ItemId) :
    (r.unhide ids passkey).state.hiddenUpdates[id]? =
      if id ∈ ids ∧ r.hidden.contains id = true then some .remove else r.hiddenUpdates[id]? := by
  have htaken : (∃ entry ∈ (r.hidden.takeOut (distinctIds ids)).1, entry.id = id) ↔
      id ∈ ids ∧ r.hidden.contains id = true := by
    rw [HiddenSet.takeOut_of_nodup _ (nodup_distinctIds ids), HiddenSet.contains_eq_isSome, Option.isSome_iff_exists]
    simp only [List.mem_filterMap, mem_distinctIds, HiddenSet.entry?_eq_some]
    constructor
    · rintro ⟨entry, ⟨other, hother, hentry, htime⟩, rfl⟩
      exact ⟨hentry ▸ hother, _, hentry ▸ htime⟩
    · rintro ⟨hid, time, htime⟩
      exact ⟨⟨id, time⟩, ⟨id, hid, rfl, htime⟩, rfl⟩
  obtain ⟨stats, counted, hstate⟩ := state_unhide hids hopens
  rw [hstate]
  show (queueTaken _ _).hiddenUpdates[id]? = _
  rw [hiddenUpdates_queueTaken]
  simp only [htaken]

/-! ## Hiding undone -/

theorem items_hide (r : Registry) (now : Int64) (ids : List ItemId) :
    ∀ id, (r.applyAction now .hide ids).state.items.item? id = r.items.item? id := by
  intro id
  rw [(r.alikeAt_applyAction now .hide ids id).item?]
  split
  · rw [applyOne_hide]
    split
    · rw [items_hideOne]
    · rfl
  · rfl

/-- Who hides items that are not hidden and ends their hiding has done nothing to them. -/
theorem Consistent.unhide_hide (h : r.Consistent) (now : Int64) (hids : ids ≠ [])
    (hopens : r.hidden.opens passkey = true)
    (hshown : ∀ id ∈ ids, r.items.contains id = true → r.hidden.contains id = false) :
    ((r.applyAction now .hide ids).state.unhide ids passkey).state.items = r.items ∧
      ((r.applyAction now .hide ids).state.unhide ids passkey).state.hidden = r.hidden := by
  have hmoves := applyAction_moves r now .hide ids
  have hconsistent := hmoves.consistent h
  have hpasskey := hmoves.passkey_eq
  have hitems : (r.applyAction now .hide ids).state.items = r.items :=
    hconsistent.items_sound.ext_item? h.items_sound (r.items_hide now ids)
  have hother : ∀ id ∉ ids, (r.applyAction now .hide ids).state.hidden.times[id]? = r.hidden.times[id]? :=
    fun id hid => by
      have halike := r.alikeAt_applyAction now .hide ids id
      rw [if_neg hid] at halike
      exact halike.time
  generalize (r.applyAction now .hide ids).state = s at hitems hpasskey hother ⊢
  have hopens' : s.hidden.opens passkey = true := by
    rw [HiddenSet.opens_iff, hpasskey]
    exact (HiddenSet.opens_iff _ _).1 hopens
  have hnone : ∀ id ∈ ids, r.hidden.times[id]? = none := fun id hid => by
    -- a hidden id is stored, so a listed one was not hidden
    rw [← HiddenSet.contains_eq_false_iff, ← Bool.not_eq_true]
    intro hcontains
    obtain ⟨item, hitem⟩ := h.hidden_stored id hcontains
    have hstored : r.items.contains id = true := by
      rw [Store.contains_eq_isSome, Store.slot?_of_item? hitem, Option.isSome_some]
    rw [hshown id hid hstored] at hcontains
    cases hcontains
  refine ⟨(kept_unhide hids hopens').1.trans hitems, HiddenSet.ext_times (fun id => ?_)
    ((unhide_moves s ids passkey).passkey_eq.trans hpasskey)⟩
  rw [times_unhide hids hopens']
  split
  · rename_i hid
    exact (hnone id hid).symm
  · rename_i hid
    exact hother id hid

/-! ## All hidden ids -/

theorem unhideAll_eq_unhide (hhidden : r.hiddenCount ≠ 0) (hids : ∀ id, id ∈ ids ↔ r.hidden.contains id = true) :
    r.unhideAll passkey = r.unhide ids passkey := by
  have hmem : ∀ id, id ∈ ids ↔ id ∈ r.hidden.entries.map (·.id) := fun id => by
    rw [hids, contains_iff_entry, List.mem_map]
  have hdistinct : distinctIds ids = r.hidden.entries.map (·.id) := by
    rw [distinctIds_congr hmem]
    exact distinctIds_of_ascending (List.pairwise_map.2 r.hidden.ascending_entries)
  have hsome : ids ≠ [] := by
    rintro rfl
    rw [hiddenCount, ← HiddenSet.length_entries, Ne, List.length_eq_zero_iff] at hhidden
    obtain ⟨entry, hentry⟩ := List.exists_mem_of_ne_nil _ hhidden
    exact List.not_mem_nil ((hmem _).2 (List.mem_map_of_mem hentry))
  rw [unhideAll_eq, unhide_eq r hsome, hdistinct, List.length_map, HiddenSet.length_entries]

end

/-! ## After every run -/

/-- For who has the passkey the end of hiding is exact and undoes hiding, for all ids as for some. -/
structure Unhides (r : Registry) (passkey : Option String) : Prop where
  answered : ∀ ids, ids ≠ [] → ∃ response, (r.unhide ids passkey).answer = .ok response ∧
    response.processed = (ids.toFinset.filter fun id => r.hidden.contains id = true).card
  times : ∀ ids, ids ≠ [] → ∀ id,
    (r.unhide ids passkey).state.hidden.times[id]? = if id ∈ ids then none else r.hidden.times[id]?
  queued : ∀ ids, ids ≠ [] → ∀ id, (r.unhide ids passkey).state.hiddenUpdates[id]? =
    if id ∈ ids ∧ r.hidden.contains id = true then some .remove else r.hiddenUpdates[id]?
  kept : ∀ ids, ids ≠ [] →
    (r.unhide ids passkey).state.items = r.items ∧ (r.unhide ids passkey).state.itemUpdates = r.itemUpdates
  undone : ∀ now ids, ids ≠ [] → (∀ id ∈ ids, r.items.contains id = true → r.hidden.contains id = false) →
    ((r.applyAction now .hide ids).state.unhide ids passkey).state.items = r.items ∧
      ((r.applyAction now .hide ids).state.unhide ids passkey).state.hidden = r.hidden ∧
      ((r.applyAction now .hide ids).state.unhide ids passkey).state.listItems = r.listItems
  /-- The registry, the answer and what is logged are the same. -/
  all : ∀ ids, r.hiddenCount ≠ 0 → (∀ id, id ∈ ids ↔ r.hidden.contains id = true) →
    r.unhideAll passkey = r.unhide ids passkey

theorem Consistent.unhides {r : Registry} (h : r.Consistent) {passkey : Option String}
    (hopens : r.hidden.opens passkey = true) : r.Unhides passkey where
  answered ids hids := by
    obtain ⟨response, hanswer, hreports⟩ := r.settled_unhide hids hopens
    exact ⟨response, hanswer, hreports.processed⟩
  times _ hids := times_unhide hids hopens
  queued _ hids := hiddenUpdates_unhide hids hopens
  kept _ hids := kept_unhide hids hopens
  undone now ids hids hshown := by
    obtain ⟨hitems, hhidden⟩ := h.unhide_hide now hids hopens hshown
    exact ⟨hitems, hhidden, by rw [listItems, listItems, hitems, hhidden]⟩
  all _ hhidden hids := unhideAll_eq_unhide hhidden hids

/-- **The end of hiding undoes hiding** and touches nothing else, in every registry that the program can come to. What a
hidden set gives back are the listed entries, each once, as they were, in the order in which the list first has them. -/
theorem unhides_run (config : Configuration) (start : Int64) (ops : List Operation)
    (hpasskey : config.core.hiddenPasskey ≠ "") :
    ((Registry.start config start).run ops).Unhides (some config.core.hiddenPasskey) ∧
      ∀ (h : HiddenSet) (ids : List ItemId) (passkey : Option String), h.opens passkey = true →
        ∃ left, h.unhide ids passkey = .ok (ids.eraseDups.filterMap h.entry?, left) ∧ left.passkey = h.passkey ∧
          ∀ id, left.times[id]? = if id ∈ ids then none else h.times[id]? := by
  have hopens : ((Registry.start config start).run ops).hidden.opens (some config.core.hiddenPasskey) = true := by
    rw [HiddenSet.opens_iff, passkey_run]
    exact ⟨rfl, hpasskey⟩
  refine ⟨(consistent_run config start ops).unhides hopens, fun h ids passkey hopens => ?_⟩
  refine ⟨(h.takeOut ids).2, ?_, h.passkey_takeOut ids, h.times_takeOut ids⟩
  rw [HiddenSet.unhide_eq, if_pos hopens, ← HiddenSet.fst_takeOut]

/-- An item is hidden, and one who has the passkey ends its hiding. -/
theorem unhides_run_sample :
    "open sesame" ≠ "" ∧ (Sample.fresh.run Sample.operations).hidden.contains default = true ∧
      (Sample.fresh.run Sample.operations).Unhides (some "open sesame") :=
  ⟨by decide, by decide +kernel,
    (unhides_run ⟨"info", ⟨"open sesame"⟩, ⟨8, 2, ["seed"]⟩, ⟨true, ".", 60⟩⟩ 0 Sample.operations (by decide)).1⟩

end Registry

end TransferRegistry
