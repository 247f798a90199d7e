import TransferRegistry.Proofs.Registry.Statistics
import TransferRegistry.Proofs.Storage.Content

/-!
# Loads that fail

Loading takes over one collection after the other and stops at the first that cannot be loaded; what was taken over until
then stays.

* `Registry.slots_insertLoaded`: which items are taken over, whatever is stored.
* `Registry.FailedLoad`: how far a load came, and what the registry is then. `failedLoad` says so of every load that fails,
  and `partlyLoaded` shows one that leaves items behind.
-/

namespace TransferRegistry

/-- The place without its seeds. -/
def Backend.withoutSeeds {σ : Type} (backend : Backend σ) : Backend σ :=
  { backend with loadSeeds := fun s => ⟨s, .ok none, []⟩ }

namespace Registry

/-- Of loaded items the first of each id is stored whose slot is free, and nothing else is changed. -/
theorem slots_insertLoaded (items : List Item) (r : Registry) :
    ∃ store, (r.insertLoaded items).state = { r with items := store } ∧
      ∀ id, store.slot? id = (r.items.slot? id).or ((storedCopy items id).map fun item => ⟨item, false⟩) := by
  induction items generalizing r with
  | nil => exact ⟨r.items, rfl, fun id => by simp [storedCopy]⟩
  | cons item items ih =>
    cases hslot : r.items.slot? item.id with
    | none =>
      obtain ⟨store, hstate, hstored⟩ := ih { r with items := r.items.put item.id item.refreshRatio }
      refine ⟨store, ?_, fun id => ?_⟩
      · rw [insertLoaded, Store.insert_of_none hslot]
        exact hstate
      · rw [hstored, Store.slot?_put]
        by_cases hid : item.id = id
        · subst hid
          simp [storedCopy, hslot]
        · simp [storedCopy, hid]
    | some slot =>
      obtain ⟨store, hstate, hstored⟩ := ih r
      refine ⟨store, ?_, fun id => ?_⟩
      · rw [insertLoaded, Store.insert_of_some hslot]
        exact hstate
      · rw [hstored]
        by_cases hid : item.id = id
        · subst hid
          simp [hslot]
        · simp [storedCopy, hid]

variable {σ : Type}

/-- A registry that took items over, and nothing else. -/
structure TookItems (r : Registry) (items : List Item) (after : Registry) : Prop where
  slots (id : ItemId) :
    after.items.slot? id = (r.items.slot? id).or ((storedCopy items id).map fun item => ⟨item, false⟩)
  config : after.config = r.config
  hidden : after.hidden = r.hidden
  seeds : after.seeds = r.seeds
  itemUpdates : after.itemUpdates = r.itemUpdates
  hiddenUpdates : after.hiddenUpdates = r.hiddenUpdates
  started : after.stats.started = r.stats.started
  stats (event : StatsEvent) : event ≠ .items → after.stats.get event = r.stats.get event

/-- A registry that took items and hidden records over and counted them, as if no seeds were stored. -/
structure TookRecords (r : Registry) (backend : Backend σ) (s : σ) (after : Registry) : Prop where
  answer : (r.load backend.withoutSeeds s).answer = .ok ()
  state : (r.load backend.withoutSeeds s).state.1 = after
  config : after.config = r.config
  seeds : after.seeds = r.seeds
  items : after.stats.items = tallied after.itemCount
  hidden : after.stats.hidden = tallied after.hiddenCount
  /-- The queues are counted if they were before. -/
  queues : CountsQueues r after quiet
  started : after.stats.started = r.stats.started
  stats (event : StatsEvent) : event ∉ [.items, .hidden, .itemsUpdates, .hiddenUpdates] →
    after.stats.get event = r.stats.get event

/-- How far a load came that failed, and the registry after it. -/
inductive FailedLoad (r : Registry) (backend : Backend σ) (s : σ) (e : StorageError) : Registry → Prop where
  | items (hfailed : (backend.loadItems s).answer = .error e) : FailedLoad r backend s e r
  | hidden {items : List Item} {after : Registry} (hitems : (backend.loadItems s).answer = .ok items)
    (hfailed : (backend.loadHidden (backend.loadItems s).state).answer = .error e) (htook : TookItems r items after) :
    FailedLoad r backend s e after
  | seeds {items : List Item} {records : List HiddenRecord} {after : Registry}
    (hitems : (backend.loadItems s).answer = .ok items)
    (hhidden : (backend.loadHidden (backend.loadItems s).state).answer = .ok records)
    (hfailed : (backend.loadSeeds (backend.loadHidden (backend.loadItems s).state).state).answer = .error e)
    (htook : TookRecords r backend s after) : FailedLoad r backend s e after

theorem tookItems_loadItems (r : Registry) (items : List Item) : TookItems r items (r.loadItems items).state := by
  obtain ⟨store, hstate, hslots⟩ := slots_insertLoaded items r
  rw [loadItems_state, hstate]
  exact ⟨hslots, rfl, rfl, rfl, rfl, rfl, rfl, fun _ _ => rfl⟩

/-- What is loaded has nothing to do with the configuration and the seeds, and only the queues are counted. -/
theorem kept_insertHidden (records : List HiddenRecord) (r : Registry) :
    (r.insertHidden records).state.config = r.config ∧ (r.insertHidden records).state.seeds = r.seeds ∧
      (r.insertHidden records).state.stats.started = r.stats.started ∧
      ∀ event, event ≠ .itemsUpdates → event ≠ .hiddenUpdates →
        (r.insertHidden records).state.stats.get event = r.stats.get event := by
  induction records generalizing r with
  | nil => exact ⟨rfl, rfl, rfl, fun _ _ _ => rfl⟩
  | cons record records ih =>
    rw [insertHidden]
    split
    · obtain ⟨hconfig, hseeds, hstarted, hstats⟩ := ih (r.queueHidden record.entry.id .remove)
      refine ⟨hconfig, hseeds, hstarted, fun event hitem hhidden => ?_⟩
      exact (hstats event hitem hhidden).trans (Stats.get_set_of_ne (Ne.symm hhidden) _ _)
    · split
      · rename_i store _
        exact ih { r with items := store }
      · obtain ⟨hconfig, hseeds, hstarted, hstats⟩ := ih (r.queueItem record.entry.id .update)
        refine ⟨hconfig, hseeds, hstarted, fun event hitem hhidden => ?_⟩
        exact (hstats event hitem hhidden).trans (Stats.get_set_of_ne (Ne.symm hitem) _ _)

theorem tookRecords_loadHidden {r : Registry} {backend : Backend σ} {s : σ} {items : List Item}
    {records : List HiddenRecord} (hitems : (backend.loadItems s).answer = .ok items)
    (hhidden : (backend.loadHidden (backend.loadItems s).state).answer = .ok records) :
    TookRecords r backend s ((r.loadItems items).state.loadHidden records).state := by
  obtain ⟨hcounted, hitemCount, hhiddenCount⟩ := counts_loadHidden (r.loadItems items).state records
  obtain ⟨hanswer, hstate⟩ : (r.load backend.withoutSeeds s).answer = .ok () ∧
      (r.load backend.withoutSeeds s).state.1 = ((r.loadItems items).state.loadHidden records).state := by
    simp only [load, Backend.withoutSeeds, hitems, hhidden, loadSeeds, and_self]
  have htook := tookItems_loadItems r items
  obtain ⟨hconfig, hseeds, hstarted, hstats⟩ := kept_insertHidden records (r.loadItems items).state
  exact {
    answer := hanswer
    state := hstate
    config := hconfig.trans htook.config
    seeds := hseeds.trans htook.seeds
    items := hitemCount
    hidden := hhiddenCount
    queues := (countsQueues_insertLoaded items r).then hcounted
    started := hstarted.trans htook.started
    stats := fun event hevent => by
      simp only [List.mem_cons, List.not_mem_nil, or_false, not_or] at hevent
      obtain ⟨hitem, hidden, hqueues⟩ := hevent
      rw [← htook.stats event hitem, ← hstats event hqueues.1 hqueues.2]
      exact (Stats.get_set_of_ne (Ne.symm hidden) _ _).trans (Stats.get_set_of_ne (Ne.symm hitem) _ _) }

/-- **What a load that fails leaves**: all as it was where the items could not be loaded, and otherwise what had been
loaded before the call that failed. -/
theorem failedLoad {r : Registry} {backend : Backend σ} {s : σ} {e : StorageError}
    (h : (r.load backend s).answer = .error e) : FailedLoad r backend s e (r.load backend s).state.1 := by
  unfold load at h ⊢
  simp only at h ⊢
  split at h
  · rename_i hfailed
    obtain rfl := Except.error.inj h
    exact .items hfailed
  · rename_i items hitems
    split at h
    · rename_i hfailed
      obtain rfl := Except.error.inj h
      exact .hidden hitems hfailed (tookItems_loadItems r items)
    · rename_i records hhidden
      split at h
      · rename_i hfailed
        obtain rfl := Except.error.inj h
        exact .seeds hitems hhidden hfailed (tookRecords_loadHidden hitems hhidden)
      · cases h

/-- An item is stored, and neither hidden records nor seeds can be loaded. -/
def Sample.unopened : Recorder := ⟨[.fresh default "item" 10], [], none, ["load_hidden", "load_seeds"], []⟩

theorem failedLoad_sample :
    (Sample.fresh.load Recorder.backend Sample.unopened).answer = .error (.sealing "injected load_hidden") ∧
      FailedLoad Sample.fresh Recorder.backend Sample.unopened (.sealing "injected load_hidden")
        (Sample.fresh.load Recorder.backend Sample.unopened).state.1 :=
  ⟨by decide +kernel, failedLoad (by decide +kernel)⟩

/-- The load fails, and the item is there that was not there before. -/
theorem partlyLoaded :
    (Sample.fresh.load Recorder.backend Sample.unopened).answer = .error (.sealing "injected load_hidden") ∧
      Sample.fresh.itemCount = 0 ∧ Sample.fresh.items.item? default = none ∧
      (Sample.fresh.load Recorder.backend Sample.unopened).state.1.itemCount = 1 ∧
      (Sample.fresh.load Recorder.backend Sample.unopened).state.1.items.item? default =
        some (.fresh default "item" 10) := by
  decide +kernel

end Registry

end TransferRegistry
