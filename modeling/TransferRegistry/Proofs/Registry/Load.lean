import TransferRegistry.Proofs.Hidden
import TransferRegistry.Proofs.Registry.Move
import TransferRegistry.Registry.Load

/-!
# What loading leaves

* `Registry.insertLoaded_spec`: of loaded items, the first of an id is stored, unless the id is stored already.
* `Registry.insertHidden_spec`: of loaded hidden records, those whose entry and item disagree are dropped and queued;
  the first of those that agree is stored, unless its id is stored already, and then the id is queued.
* `Registry.load_induction`: loading is up to three steps; `Registry.load_of_ok`: all three where no call fails.
-/

namespace TransferRegistry

namespace Registry

theorem insertLoaded_spec (items : List Item) (r : Registry) (h : r.items.Sound) :
    ∃ store, (r.insertLoaded items).state = { r with items := store } ∧ store.Sound ∧
      ∀ id, store.item? id = (r.items.item? id).or ((items.find? (·.id = id)).map (·.refreshRatio)) := by
  induction items generalizing r with
  | nil => exact ⟨r.items, rfl, h, by simp⟩
  | cons item items ih =>
    rcases h.insert_cases item with ⟨hnone, hinsert⟩ | ⟨stored, hstored, hinsert⟩
    · obtain ⟨store, hstate, hsound, hitem⟩ :=
        ih { r with items := r.items.put item.id item.refreshRatio } (h.insert hinsert)
      refine ⟨store, ?_, hsound, fun id => ?_⟩
      · rw [insertLoaded, hinsert]
        exact hstate
      · rw [hitem id, Store.item?_put]
        by_cases hid : item.id = id
        · subst hid
          simp [hnone]
        · simp [hid]
    · obtain ⟨store, hstate, hsound, hitem⟩ := ih r h
      refine ⟨store, ?_, hsound, fun id => ?_⟩
      · rw [insertLoaded, hinsert]
        exact hstate
      · rw [hitem id]
        by_cases hid : item.id = id
        · subst hid
          simp [hstored]
        · simp [hid]

/-- What loaded hidden records make of a registry: the store, the queues and the answer. -/
structure Inserted (r : Registry) (records : List HiddenRecord) (done : Step Registry (List HiddenEntry)) : Prop where
  config : done.state.config = r.config
  hidden : done.state.hidden = r.hidden
  seeds : done.state.seeds = r.seeds
  sound : done.state.items.Sound
  item? : ∀ id, done.state.items.item? id =
    (r.items.item? id).or ((records.find? (·.Agrees id)).map (·.item.refreshRatio))
  itemUpdates : ∀ id, id ∈ done.state.itemUpdates ↔
    id ∈ r.itemUpdates ∨ 2 ≤ (r.items.item? id).toList.length + records.countP (·.Agrees id)
  hiddenUpdates : ∀ id, id ∈ done.state.hiddenUpdates ↔
    id ∈ r.hiddenUpdates ∨ ∃ record ∈ records, record.entry.id = id ∧ record.item.id ≠ id
  answer : done.answer = (records.filter fun record => record.item.id = record.entry.id).map (·.entry)

section Records

variable {r : Registry} {record : HiddenRecord} {records : List HiddenRecord} {done : Step Registry (List HiddenEntry)}

theorem Inserted.dropped (hid : record.item.id ≠ record.entry.id)
    (h : Inserted (r.queueHidden record.entry.id .remove) records done) (log : List Event) :
    Inserted r (record :: records) { done with log } := by
  have hagrees : ∀ id, ¬record.Agrees id := fun id h => hid (h.2.trans h.1.symm)
  refine ⟨h.config, h.hidden, h.seeds, h.sound, fun id => ?_, fun id => ?_, fun id => ?_, ?_⟩
  · rw [h.item? id, items_queueHidden, List.find?_cons_of_neg (by simpa using hagrees id)]
  · rw [h.itemUpdates id, itemUpdates_queueHidden, items_queueHidden,
      List.countP_cons_of_neg (by simpa using hagrees id)]
  · rw [h.hiddenUpdates id, mem_hiddenUpdates_queueHidden, List.exists_mem_cons_iff]
    by_cases heq : record.entry.id = id
    · subst heq
      simp [hid]
    · simp [heq]
  · rw [h.answer, List.filter_cons_of_neg (by simpa using hid)]

theorem agrees_iff (hid : record.item.id = record.entry.id) (id : ItemId) :
    record.Agrees id ↔ record.item.id = id := by rw [HiddenRecord.Agrees, ← hid, and_self]

/-- A record whose entry and item agree is no reason to queue its hidden id. -/
theorem Inserted.hiddenUpdates_cons (hid : record.item.id = record.entry.id) (id : ItemId) :
    (∃ other ∈ record :: records, other.entry.id = id ∧ other.item.id ≠ id) ↔
      ∃ other ∈ records, other.entry.id = id ∧ other.item.id ≠ id := by
  have hagrees : ¬(record.entry.id = id ∧ record.item.id ≠ id) := fun ⟨h₁, h₂⟩ => h₂ (hid.trans h₁)
  rw [List.exists_mem_cons_iff, or_iff_right hagrees]

theorem Inserted.stored (hid : record.item.id = record.entry.id) (hnone : r.items.item? record.item.id = none)
    (h : Inserted { r with items := r.items.put record.item.id record.item.refreshRatio } records done) :
    Inserted r (record :: records) { done with answer := record.entry :: done.answer } := by
  refine ⟨h.config, h.hidden, h.seeds, h.sound, fun id => ?_, fun id => ?_, fun id => ?_, ?_⟩
  · rw [h.item? id, Store.item?_put, List.find?_cons]
    by_cases heq : record.item.id = id
    · subst heq
      simp [agrees_iff hid, hnone]
    · simp [agrees_iff hid, heq]
  · rw [h.itemUpdates id, Store.item?_put, List.countP_cons]
    by_cases heq : record.item.id = id
    · subst heq
      simp [agrees_iff hid, hnone, Nat.add_comm]
    · simp [agrees_iff hid, heq]
  · rw [h.hiddenUpdates id, Inserted.hiddenUpdates_cons hid]
  · show record.entry :: done.answer = _
    rw [h.answer, List.filter_cons_of_pos (by simpa using hid), List.map_cons]

theorem Inserted.repeated (hid : record.item.id = record.entry.id) {item : Item}
    (hsome : r.items.item? record.item.id = some item)
    (h : Inserted (r.queueItem record.entry.id .update) records done) (log : List Event) :
    Inserted r (record :: records) { done with answer := record.entry :: done.answer, log } := by
  refine ⟨h.config, h.hidden, h.seeds, h.sound, fun id => ?_, fun id => ?_, fun id => ?_, ?_⟩
  · rw [h.item? id, items_queueItem, List.find?_cons]
    by_cases heq : record.item.id = id
    · subst heq
      simp [hsome]
    · simp [agrees_iff hid, heq]
  · rw [h.itemUpdates id, mem_itemUpdates_queueItem, items_queueItem, List.countP_cons, ← hid]
    by_cases heq : record.item.id = id
    · subst heq
      have htwice : ∀ n, 2 ≤ 1 + (n + 1) := fun n => by omega
      simp [agrees_iff hid, hsome, htwice]
    · simp [agrees_iff hid, heq]
  · rw [h.hiddenUpdates id, hiddenUpdates_queueItem, Inserted.hiddenUpdates_cons hid]
  · show record.entry :: done.answer = _
    rw [h.answer, List.filter_cons_of_pos (by simpa using hid), List.map_cons]

end Records

theorem insertHidden_spec (records : List HiddenRecord) (r : Registry) (h : r.items.Sound) :
    Inserted r records (r.insertHidden records) := by
  induction records generalizing r with
  | nil =>
    refine ⟨rfl, rfl, rfl, h, by simp [insertHidden], fun id => ?_, by simp [insertHidden], rfl⟩
    cases r.items.item? id <;> simp [insertHidden]
  | cons record records ih =>
    by_cases hid : record.item.id = record.entry.id
    · rcases h.insert_cases record.item with ⟨hnone, hinsert⟩ | ⟨item, hsome, hinsert⟩
      · rw [insertHidden, if_neg (not_not.2 hid), hinsert]
        exact (ih _ (h.insert hinsert)).stored hid hnone
      · rw [insertHidden, if_neg (not_not.2 hid), hinsert]
        exact (ih (r.queueItem record.entry.id .update) h).repeated hid hsome _
    · rw [insertHidden, if_pos hid]
      exact (ih (r.queueHidden record.entry.id .remove) h).dropped hid _

/-! ## The three calls -/

theorem loadItems_state (r : Registry) (items : List Item) : (r.loadItems items).state = (r.insertLoaded items).state :=
  rfl

/-- Taking hidden records over hides the entries of those that agree with their item. -/
theorem loadHidden_state (records : List HiddenRecord) (r : Registry) (h : r.items.Sound) :
    ∃ stats, (r.loadHidden records).state = { (r.insertHidden records).state with
      hidden := r.hidden.restore ((records.filter fun record => record.item.id = record.entry.id).map (·.entry))
      stats } := by
  have hspec := insertHidden_spec records r h
  rw [← hspec.answer, ← hspec.hidden]
  exact ⟨_, rfl⟩

theorem pends_loadHidden {r : Registry} (h : r.items.Sound) (records : List HiddenRecord) (id : ItemId) :
    (id ∈ r.itemUpdates → id ∈ (r.loadHidden records).state.itemUpdates) ∧
      (id ∈ r.hiddenUpdates → id ∈ (r.loadHidden records).state.hiddenUpdates) := by
  have hspec := insertHidden_spec records r h
  exact ⟨fun hid => (hspec.itemUpdates id).2 (Or.inl hid), fun hid => (hspec.hiddenUpdates id).2 (Or.inl hid)⟩

/-- Loading ends no hiding. -/
theorem contains_loadHidden {r : Registry} (h : r.items.Sound) {id : ItemId} (hid : r.hidden.contains id = true)
    (records : List HiddenRecord) : (r.loadHidden records).state.hidden.contains id = true := by
  obtain ⟨stats, hstate⟩ := loadHidden_state records r h
  rw [hstate, HiddenSet.contains_eq_isSome, HiddenSet.times_restore, Option.isSome_or,
    ← HiddenSet.contains_eq_isSome, hid, Bool.or_true]

/-- An item that is there is not hidden without being queued. -/
theorem loadHidden_times {r : Registry} (h : r.items.Sound) {id : ItemId} (hitem : r.items.item? id ≠ none)
    (records : List HiddenRecord) : id ∈ (r.loadHidden records).state.itemUpdates ∨
      (r.loadHidden records).state.hidden.times[id]? = r.hidden.times[id]? := by
  have hspec := insertHidden_spec records r h
  obtain ⟨stats, hstate⟩ := loadHidden_state records r h
  obtain ⟨item, hsome⟩ := Option.ne_none_iff_exists'.1 hitem
  rw [hstate]
  refine or_iff_not_imp_left.2 fun hp => ?_
  -- no record is one of the id
  have hcount : records.countP (·.Agrees id) = 0 := by
    have hfew := mt (hspec.itemUpdates id).2 hp
    rw [hsome, Option.toList_some, List.length_singleton] at hfew
    omega
  have hfind : (((records.filter fun record => record.item.id = record.entry.id).map (·.entry)).reverse.find?
      (·.id = id)) = none := by
    rw [List.find?_eq_none]
    intro entry hentry
    obtain ⟨record, hmem, rfl⟩ := List.mem_map.1 (List.mem_reverse.1 hentry)
    obtain ⟨hmem, hagrees⟩ := List.mem_filter.1 hmem
    have hother := List.countP_eq_zero.1 hcount record hmem
    simp only [decide_eq_true_eq] at hagrees hother ⊢
    exact fun hid => hother ⟨hid, hagrees.trans hid⟩
  rw [HiddenSet.times_restore, hfind, Option.map_none, Option.none_or]

/-- The record of an item that is there stays. -/
theorem item?_loadItems {r : Registry} (h : r.items.Sound) {id : ItemId} {item : Item}
    (hitem : r.items.item? id = some item) (items : List Item) :
    (r.loadItems items).state.items.item? id = some item := by
  obtain ⟨store, hstate, -, hstored⟩ := insertLoaded_spec items r h
  rw [loadItems_state, hstate, hstored, hitem, Option.some_or]

theorem item?_loadHidden {r : Registry} (h : r.items.Sound) {id : ItemId} {item : Item}
    (hitem : r.items.item? id = some item) (records : List HiddenRecord) :
    (r.loadHidden records).state.items.item? id = some item := by
  obtain ⟨stats, hstate⟩ := loadHidden_state records r h
  rw [hstate]
  show (r.insertHidden records).state.items.item? id = some item
  rw [(insertHidden_spec records r h).item?, hitem, Option.some_or]

variable {σ : Type}

/-- What each of the three steps keeps holds after loading, whichever call fails. -/
theorem load_induction {P : Registry → Prop} (hitems : ∀ r items, P r → P (r.loadItems items).state)
    (hhidden : ∀ r records, P r → P (r.loadHidden records).state)
    (hseeds : ∀ r seeds, P r → P (r.loadSeeds seeds).state) (r : Registry) (backend : Backend σ) (s : σ) (h : P r) :
    P (r.load backend s).state.1 := by
  simp only [load]
  split
  · exact h
  · split
    · exact hitems r _ h
    · split
      · exact hhidden _ _ (hitems r _ h)
      · exact hseeds _ _ (hhidden _ _ (hitems r _ h))

/-- Where every call answers, loading takes over what they answer. -/
theorem load_of_ok {r : Registry} {backend : Backend σ} {s : σ} {items : List Item} {records : List HiddenRecord}
    {seeds : Option SeedConfig} (hitems : (backend.loadItems s).answer = .ok items)
    (hhidden : (backend.loadHidden (backend.loadItems s).state).answer = .ok records)
    (hseeds : (backend.loadSeeds (backend.loadHidden (backend.loadItems s).state).state).answer = .ok seeds) :
    (r.load backend s).answer = .ok () ∧
      (r.load backend s).state.1 = (((r.loadItems items).state.loadHidden records).state.loadSeeds seeds).state ∧
      (r.load backend s).state.2 = (backend.loadSeeds (backend.loadHidden (backend.loadItems s).state).state).state := by
  simp only [load, hitems, hhidden, hseeds, and_self]

end Registry

end TransferRegistry
