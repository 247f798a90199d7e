import TransferRegistry.Proofs.Registry.Flush
import TransferRegistry.Proofs.Registry.Load
import TransferRegistry.Proofs.Registry.Move

/-!
# The two views of the store

* `Registry.Consistent`: the store is sound, and every hidden id has a stored item. `Move.consistent` has a case for
  each change that a request can make, and each step of loading has its lemma; `consistent_run` is the run.
* `Registry.hiddenList` and `Registry.listItems` share out the items of a consistent registry, so after every run
  `Registry.ViewsAgree`.
-/

namespace TransferRegistry

/-! ## Records that stay as they were -/

namespace Item

/-- The state of a record has no part in its ratio. -/
theorem refreshRatio_withState {item : Item} (h : item.refreshRatio = item) (state : ItemState) :
    (item.withState state).refreshRatio = item.withState state := by
  rw [← h]
  rfl

theorem takeProgress_fits (item : Item) (update : ProgressUpdate) :
    (item.takeProgress update).id = item.id ∧
      (item.takeProgress update).refreshRatio = item.takeProgress update := by
  unfold takeProgress
  simp only
  split <;> exact ⟨rfl, rfl⟩

end Item

/-- A report keeps the id of a record and computes its ratio. -/
theorem Request.Reports.fits {q : Request} {id : ItemId} {before after : Item} (h : q.Reports id before after)
    (hcur : before.refreshRatio = before) : after.id = before.id ∧ after.refreshRatio = after := by
  cases q with
  | reportProgress item update =>
    obtain ⟨rfl, h⟩ := h
    unfold Item.applyProgress at h
    split at h
    · cases h
    · obtain rfl := Except.ok.inj h
      exact before.takeProgress_fits update
  | reportError item =>
    obtain ⟨rfl, rfl⟩ := h
    exact ⟨rfl, Item.refreshRatio_withState hcur .error⟩
  | resetUploaded item =>
    obtain ⟨rfl, rfl⟩ := h
    exact ⟨rfl, rfl⟩
  | _ => exact h.elim

theorem Transition.applyTo_fits (transition : Transition) {item : Item} (hcur : item.refreshRatio = item) :
    (transition.applyTo item).id = item.id ∧
      (transition.applyTo item).refreshRatio = transition.applyTo item := by
  cases transition with
  | setState state => exact ⟨rfl, Item.refreshRatio_withState hcur state⟩
  | archive =>
    refine ⟨rfl, ?_⟩
    rw [applyTo, ← hcur]
    rfl
  | _ => exact ⟨rfl, hcur⟩

namespace Registry

/-- The store is as the requests leave it, and no hidden id is without an item. -/
structure Consistent (r : Registry) : Prop where
  items_sound : r.items.Sound
  hidden_stored : ∀ id, r.hidden.contains id = true → ∃ item, r.items.item? id = some item

theorem contains_erase (h : HiddenSet) (id other : ItemId) :
    (h.erase id).contains other = (decide (id ≠ other) && h.contains other) := by
  rw [HiddenSet.contains_eq_isSome, HiddenSet.contains_eq_isSome, HiddenSet.times_erase]
  by_cases heq : id = other <;> simp [heq]

theorem consistent_start (config : Configuration) (now : Int64) : (start config now).Consistent where
  items_sound := Store.empty_sound
  hidden_stored id h := by
    rw [HiddenSet.contains_eq_isSome] at h
    simp [start, HiddenSet.empty] at h

/-! ## One change -/

/-- To put a record of an id in keeps the items that are stored. -/
theorem Consistent.put {r : Registry} (h : r.Consistent) {id : ItemId} {item : Item} (hid : item.id = id)
    (hcur : item.refreshRatio = item) (action : UpdatesAction) :
    ({ r with items := r.items.put id item }.queueItem id action).Consistent where
  items_sound := h.items_sound.put hid hcur
  hidden_stored other ho := by
    show ∃ stored, (r.items.put id item).item? other = some stored
    rw [Store.item?_put]
    split
    · exact ⟨item, rfl⟩
    · exact h.hidden_stored other ho

theorem Move.consistent {q : Request} {r s : Registry} (hmove : Move q r s) (h : r.Consistent) : s.Consistent := by
  cases hmove with
  | count => exact ⟨h.items_sound, h.hidden_stored⟩
  | pendItem => exact ⟨h.items_sound, h.hidden_stored⟩
  | pendHidden => exact ⟨h.items_sound, h.hidden_stored⟩
  | seeds => exact ⟨h.items_sound, h.hidden_stored⟩
  | add _ hinsert =>
    obtain ⟨-, rfl⟩ := Store.insert_eq_ok hinsert
    exact h.put rfl (Item.refreshRatio_refreshRatio _) .add
  | report hq hitem =>
    obtain ⟨hid, hcur⟩ := hq.fits (h.items_sound.current hitem)
    exact h.put (hid.trans (h.items_sound.id_eq hitem)) hcur .update
  | @act _ _ _ _ transition _ hitem =>
    obtain ⟨hid, hcur⟩ := transition.applyTo_fits (h.items_sound.current hitem)
    exact h.put (hid.trans (h.items_sound.id_eq hitem)) hcur .update
  | @hide now id item _ hitem =>
    refine ⟨h.items_sound, fun other ho => ?_⟩
    rw [hidden_queueHidden, HiddenSet.contains_eq_isSome, HiddenSet.times_hide] at ho
    split at ho
    · rename_i heq
      exact heq.1 ▸ ⟨item, hitem⟩
    · exact h.hidden_stored other ((HiddenSet.contains_eq_isSome _ _).trans ho)
  | unhide =>
    refine ⟨h.items_sound, fun other ho => ?_⟩
    rw [hidden_queueHidden, contains_erase, Bool.and_eq_true] at ho
    exact h.hidden_stored other ho.2
  | @delete now id slot _ _ hshown =>
    refine ⟨h.items_sound.remove _, fun other ho => ?_⟩
    -- an item that is taken out is not hidden, so the hidden ones are others
    have hne : id ≠ other := by
      rintro rfl
      rw [hidden_queueItem, hshown] at ho
      cases ho
    rw [items_queueItem, Store.item?_remove, if_neg hne]
    exact h.hidden_stored other ho

theorem Moves.consistent {q : Request} {r s : Registry} (hmoves : Moves q r s) (h : r.Consistent) : s.Consistent := by
  induction hmoves with
  | refl => exact h
  | tail _ hmove ih => exact hmove.consistent ih

/-! ## Loading -/

theorem consistent_loadItems {r : Registry} (h : r.Consistent) (items : List Item) :
    (r.loadItems items).state.Consistent := by
  obtain ⟨store, hstate, hsound, hitem⟩ := insertLoaded_spec items r h.items_sound
  rw [loadItems_state, hstate]
  refine ⟨hsound, fun id hid => ?_⟩
  obtain ⟨item, hi⟩ := h.hidden_stored id hid
  exact ⟨item, by rw [hitem, hi, Option.some_or]⟩

/-- An entry that stays hidden has an item: the one of its record, or one that was stored before. -/
theorem consistent_loadHidden {r : Registry} (h : r.Consistent) (records : List HiddenRecord) :
    (r.loadHidden records).state.Consistent := by
  have hspec := insertHidden_spec records r h.items_sound
  obtain ⟨stats, hstate⟩ := loadHidden_state records r h.items_sound
  rw [hstate]
  refine ⟨hspec.sound, fun id hid => ?_⟩
  show ∃ item, (r.insertHidden records).state.items.item? id = some item
  rw [hspec.item?]
  cases hi : r.items.item? id with
  | some item => exact ⟨item, Option.some_or⟩
  | none =>
    rw [HiddenSet.contains_eq_isSome, HiddenSet.times_restore] at hid
    cases hentry : (((records.filter fun record => record.item.id = record.entry.id).map (·.entry)).reverse.find?
        (·.id = id)) with
    | none =>
      rw [hentry, Option.map_none, Option.none_or, ← HiddenSet.contains_eq_isSome] at hid
      obtain ⟨item, hsome⟩ := h.hidden_stored id hid
      rw [hi] at hsome
      cases hsome
    | some entry =>
      have hid := List.find?_some hentry
      have hmem := List.mem_of_find?_eq_some hentry
      simp only [List.mem_reverse, List.mem_map, List.mem_filter, decide_eq_true_eq] at hmem hid
      obtain ⟨record, ⟨hrecord, hagrees⟩, rfl⟩ := hmem
      have hfound : (records.find? (·.Agrees id)).isSome := by
        rw [List.find?_isSome]
        exact ⟨record, hrecord, by simpa using ⟨hid, hagrees.trans hid⟩⟩
      obtain ⟨found, hfound⟩ := Option.isSome_iff_exists.1 hfound
      exact ⟨_, by rw [hfound, Option.none_or, Option.map_some]⟩

theorem consistent_loadSeeds {r : Registry} (h : r.Consistent) (seeds : Option SeedConfig) :
    (r.loadSeeds seeds).state.Consistent := by
  unfold loadSeeds
  split <;> exact ⟨h.items_sound, h.hidden_stored⟩

/-! ## Runs -/

theorem consistent_perform {r : Registry} (op : Operation) (h : r.Consistent) : (r.perform op).Consistent := by
  cases op with
  | request q => exact (serve_moves r q).consistent h
  | load backend s =>
    exact load_induction (P := Consistent) (fun r items h => consistent_loadItems h items)
      (fun r records h => consistent_loadHidden h records) (fun r seeds h => consistent_loadSeeds h seeds) r backend s h
  | flush now backend s =>
    obtain ⟨hitems, hhidden, -⟩ := r.kept_flush now backend s
    refine ⟨?_, fun id hid => ?_⟩
    · show (r.flush now backend s).state.1.items.Sound
      rw [hitems]
      exact h.items_sound
    · show ∃ item, (r.flush now backend s).state.1.items.item? id = some item
      rw [hitems]
      exact h.hidden_stored id (hhidden ▸ hid)

theorem consistent_run (config : Configuration) (now : Int64) (ops : List Operation) :
    ((start config now).run ops).Consistent :=
  run_induction (fun _ op h => consistent_perform op h) ops (consistent_start config now)

/-! ## The passkey -/

theorem Moves.passkey_eq {q : Request} {r s : Registry} (hmoves : Moves q r s) :
    s.hidden.passkey = r.hidden.passkey := by
  induction hmoves with
  | refl => rfl
  | tail _ hmove ih =>
    rw [← ih]
    cases hmove with
    | @hide now id =>
      rw [hidden_queueHidden, HiddenSet.hide]
      split <;> rfl
    | _ => rfl

/-- No operation changes the passkey. -/
theorem passkey_perform {r : Registry} (op : Operation) (h : r.Consistent) :
    (r.perform op).hidden.passkey = r.hidden.passkey := by
  cases op with
  | request q => exact (serve_moves r q).passkey_eq
  | flush now backend s => rw [perform, (r.kept_flush now backend s).2.1]
  | load backend s =>
    refine (load_induction (P := fun s => s.Consistent ∧ s.hidden.passkey = r.hidden.passkey)
      (fun s items hs => ⟨consistent_loadItems hs.1 items, ?_⟩)
      (fun s records hs => ⟨consistent_loadHidden hs.1 records, ?_⟩)
      (fun s seeds hs => ⟨consistent_loadSeeds hs.1 seeds, ?_⟩) r backend s ⟨h, rfl⟩).2
    · obtain ⟨store, hstate, -, -⟩ := insertLoaded_spec items s hs.1.items_sound
      rw [loadItems_state, hstate]
      exact hs.2
    · obtain ⟨stats, hstate⟩ := loadHidden_state records s hs.1.items_sound
      rw [hstate]
      exact hs.2
    · rw [← hs.2]
      unfold loadSeeds
      split <;> rfl

theorem passkey_run (config : Configuration) (now : Int64) (ops : List Operation) :
    ((start config now).run ops).hidden.passkey = config.core.hiddenPasskey := by
  have h := run_induction (P := fun r => r.Consistent ∧ r.hidden.passkey = config.core.hiddenPasskey)
    (fun r op hr => ⟨consistent_perform op hr.1, (passkey_perform op hr.1).trans hr.2⟩) ops
    (r := start config now) ⟨consistent_start config now, rfl⟩
  exact h.2

/-! ## The views -/

/-- The items of the hidden ids, in the order of the ids. -/
def hiddenList (r : Registry) : List Item := r.hidden.entries.filterMap fun entry => r.items.item? entry.id

/-- Who has the passkey gets the hidden ids and their items. -/
theorem hidden_of_opens {r : Registry} {passkey : Option String} (h : r.hidden.opens passkey = true) :
    r.hiddenEntries passkey = ⟨r, .ok r.hidden.entries, []⟩ ∧ r.hiddenItems passkey = ⟨r, .ok r.hiddenList, []⟩ := by
  simp only [hiddenEntries, hiddenItems, HiddenSet.gatedEntries_eq, h, if_true, hiddenList, and_self]

theorem contains_iff_entry (h : HiddenSet) (id : ItemId) :
    h.contains id = true ↔ ∃ entry ∈ h.entries, entry.id = id := by
  rw [HiddenSet.contains_eq_isSome, Option.isSome_iff_exists]
  constructor
  · rintro ⟨time, ht⟩
    exact ⟨⟨id, time⟩, HiddenSet.mem_entries.2 ht, rfl⟩
  · rintro ⟨entry, he, rfl⟩
    exact ⟨_, HiddenSet.mem_entries.1 he⟩

namespace Consistent

variable {r : Registry}

/-- No hidden id is left out: the items come one for one with the entries. -/
theorem ids_hiddenList (h : r.Consistent) : r.hiddenList.map (·.id) = r.hidden.entries.map (·.id) := by
  have hentry : ∀ entry ∈ r.hidden.entries, (r.items.item? entry.id).map (·.id) = some entry.id := fun entry he => by
    obtain ⟨item, hitem⟩ := h.hidden_stored entry.id ((contains_iff_entry _ _).2 ⟨entry, he, rfl⟩)
    rw [hitem, Option.map_some, h.items_sound.id_eq hitem]
  rw [hiddenList, List.map_filterMap, List.filterMap_congr hentry, List.filterMap_eq_map']

theorem ascending_hiddenList (h : r.Consistent) : Ascending r.hiddenList := by
  have hids : (r.hiddenList.map (·.id)).Pairwise fun a b => compare a b = .lt := by
    rw [h.ids_hiddenList, List.pairwise_map]
    exact r.hidden.ascending_entries
  exact List.pairwise_map.1 hids

theorem mem_hiddenList (h : r.Consistent) (item : Item) :
    item ∈ r.hiddenList ↔ item ∈ r.items.toList ∧ r.hidden.contains item.id = true := by
  rw [h.items_sound.mem_toList, hiddenList, List.mem_filterMap, contains_iff_entry]
  constructor
  · rintro ⟨entry, he, hitem⟩
    have hid := h.items_sound.id_eq hitem
    exact ⟨hid ▸ hitem, entry, he, hid.symm⟩
  · rintro ⟨hitem, entry, he, hid⟩
    exact ⟨entry, he, hid ▸ hitem⟩

theorem hiddenList_eq (h : r.Consistent) :
    r.hiddenList = r.items.toList.filter fun item => r.hidden.contains item.id := by
  refine h.ascending_hiddenList.ext (h.items_sound.ascending_toList.filter _) fun item => ?_
  rw [h.mem_hiddenList, List.mem_filter]

theorem mem_listItems (h : r.Consistent) (item : Item) :
    item ∈ r.listItems ↔ r.items.item? item.id = some item ∧ r.hidden.contains item.id = false := by
  rw [listItems, List.mem_filter, h.items_sound.mem_toList, Bool.not_eq_true']

/-- Each stored item is in one of the two views, and nothing else is. -/
theorem listItems_perm (h : r.Consistent) : (r.listItems ++ r.hiddenList).Perm r.items.toList := by
  rw [h.hiddenList_eq, listItems]
  have hperm := List.filter_append_perm (fun item => !r.hidden.contains item.id) r.items.toList
  simpa only [Bool.not_not] using hperm

theorem length_listItems (h : r.Consistent) : r.listItems.length + r.hiddenCount = r.itemCount := by
  have hcount : r.hiddenList.length = r.hiddenCount := by
    rw [hiddenCount, ← r.hidden.length_entries, ← List.length_map (f := (·.id)), h.ids_hiddenList, List.length_map]
  rw [← hcount, ← List.length_append, h.listItems_perm.length_eq, h.items_sound.length_toList, itemCount]

theorem getItem_ok_iff (h : r.Consistent) (id : ItemId) (item : Item) :
    r.getItem id = .ok item ↔ item ∈ r.listItems ∧ item.id = id := by
  rw [h.mem_listItems, getItem, Store.get]
  constructor
  · intro hget
    split at hget
    · cases hget
    · rename_i hshown
      split at hget
      · rename_i hitem
        cases hget
        have hid := h.items_sound.id_eq hitem
        exact ⟨⟨hid ▸ hitem, by simpa [hid] using hshown⟩, hid⟩
      · cases hget
  · rintro ⟨⟨hitem, hshown⟩, rfl⟩
    rw [hshown, hitem]
    rfl

end Consistent

/-! ## After every run -/

/-- No hidden id is without an item, and what anyone sees and what `passkey` shows share out the store. -/
structure ViewsAgree (passkey : String) (r : Registry) : Prop where
  hidden_stored : ∀ id, r.hidden.contains id = true → ∃ item, r.items.item? id = some item ∧ item.id = id
  ascending : Ascending r.listItems
  counted : r.listItems.length + r.hiddenCount = r.itemCount
  getItem_iff : ∀ id item, r.getItem id = .ok item ↔ item ∈ r.listItems ∧ item.id = id
  /-- An empty passkey shows nothing, so there is no second view then. -/
  with_passkey : passkey ≠ "" → ∃ hidden entries,
    (r.hiddenItems (some passkey)).answer = .ok hidden ∧ (r.hiddenEntries (some passkey)).answer = .ok entries ∧
      Ascending hidden ∧ hidden.length = entries.length ∧
      (∀ shown ∈ r.listItems, ∀ item ∈ hidden, shown.id ≠ item.id) ∧
      (r.listItems ++ hidden).Perm r.items.toList

theorem Consistent.viewsAgree {r : Registry} (h : r.Consistent) : r.ViewsAgree r.hidden.passkey where
  hidden_stored id hid := by
    obtain ⟨item, hitem⟩ := h.hidden_stored id hid
    exact ⟨item, hitem, h.items_sound.id_eq hitem⟩
  ascending := h.items_sound.ascending_toList.filter _
  counted := h.length_listItems
  getItem_iff := h.getItem_ok_iff
  with_passkey hne := by
    obtain ⟨hentries, hitems⟩ := hidden_of_opens ((r.hidden.opens_iff (some r.hidden.passkey)).2 ⟨rfl, hne⟩)
    refine ⟨r.hiddenList, r.hidden.entries, by rw [hitems], by rw [hentries], h.ascending_hiddenList, ?_,
      fun shown hs item hi heq => ?_, h.listItems_perm⟩
    · rw [← List.length_map (f := (·.id)), h.ids_hiddenList, List.length_map]
    · have hshown := ((h.mem_listItems shown).1 hs).2
      rw [heq, ((h.mem_hiddenList item).1 hi).2] at hshown
      cases hshown

/-- The views agree whatever was asked of the registry, whatever a backend answered and wherever it failed. -/
theorem viewsAgree_run (config : Configuration) (now : Int64) (ops : List Operation) :
    ((start config now).run ops).ViewsAgree config.core.hiddenPasskey := by
  have h := (consistent_run config now ops).viewsAgree
  rwa [passkey_run] at h

end Registry

end TransferRegistry
