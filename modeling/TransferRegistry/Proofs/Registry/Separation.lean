import TransferRegistry.Proofs.Registry.Durability

/-!
# Hidden items and the visible documents

* `Registry.Plan`: what is to be stored of an id, by its present state. `plan_collectChanges` says that this is all
  that drained queues ask for, whatever is in them.
* `Registry.Separates`: what follows for upserts, removals and hidden records, each id by its own plan
  (`separates_of_plan`).
* `Registry.KeepsClear`: no call that stores visible items has a record of a hidden id.
* `Registry.Lifetime`: a registry and a disk that a program comes to, with loading at any time. `Lifetime.screens`: a
  hidden item that is still stored as a visible one is queued.
* `Registry.keepsClear_run`: every run keeps clear, and once all is stored no visible item of a directory is hidden.
-/

namespace TransferRegistry.Registry

/-- What drained queues ask to be stored of an id: nothing if the id is in neither, and otherwise what its item and its
entry are now. -/
inductive Plan (r : Registry) (items hidden : Pending) (c : ChangeSet) (id : ItemId) : Prop where
  | idle (hdrained : ¬(id ∈ items ∨ id ∈ hidden)) (hupsert : c.upserts[id]? = none) (hremoval : c.removals[id]? = none)
    (hrecord : c.hiddenRecords[id]? = none)
  | gone (hdrained : id ∈ items ∨ id ∈ hidden) (hitem : r.items.item? id = none) (hupsert : c.upserts[id]? = none)
    (hremoval : c.removals[id]? = if id ∈ items then some ⟨none, .remove⟩ else none)
    (hrecord : c.hiddenRecords[id]? = if id ∈ hidden then some ⟨none, .remove⟩ else none)
  | shown {item : Item} (hdrained : id ∈ items ∨ id ∈ hidden) (hitem : r.items.item? id = some item)
    (hentry : r.hidden.entry? id = none)
    (hupsert : c.upserts[id]? = some ⟨some item, if items[id]? = some .add then .add else .update⟩)
    (hremoval : c.removals[id]? = none)
    (hrecord : c.hiddenRecords[id]? = if id ∈ hidden then some ⟨none, .remove⟩ else none)
  | sealed {item : Item} {entry : HiddenEntry} (hdrained : id ∈ items ∨ id ∈ hidden)
    (hitem : r.items.item? id = some item) (hentry : r.hidden.entry? id = some entry) (hupsert : c.upserts[id]? = none)
    (hremoval : c.removals[id]? = some ⟨none, .remove⟩)
    (hrecord : c.hiddenRecords[id]? = some ⟨some ⟨entry, item⟩, .update⟩)

section

variable {r : Registry} {items hidden : Pending} {id : ItemId}

theorem getElem?_collected {α : Type} (items hidden : Pending) (f : ItemId → Option α) (id : ItemId) :
    (tabulate (distinctIds (items.keys ++ hidden.keys)) f)[id]? = if id ∈ items ∨ id ∈ hidden then f id else none := by
  have hmem : id ∈ distinctIds (items.keys ++ hidden.keys) ↔ id ∈ items ∨ id ∈ hidden := by
    rw [mem_distinctIds, List.mem_append, Std.ExtTreeMap.mem_keys, Std.ExtTreeMap.mem_keys]
  have htable : (tabulate (distinctIds (items.keys ++ hidden.keys)) f)[id]? =
      if id ∈ distinctIds (items.keys ++ hidden.keys) then f id else none :=
    getElem?_tabulate Std.ExtTreeSet.distinct_toList f id
  simpa only [hmem] using htable

theorem plan_collectChanges (r : Registry) (items hidden : Pending) (id : ItemId) :
    Plan r items hidden (r.collectChanges items hidden) id := by
  have hupsert := getElem?_collected items hidden (r.upsertOf items) id
  have hremoval := getElem?_collected items hidden (r.removalOf items) id
  have hrecord := getElem?_collected items hidden (r.hiddenRecordOf hidden) id
  by_cases hdrained : id ∈ items ∨ id ∈ hidden
  case neg =>
    rw [if_neg hdrained] at hupsert hremoval hrecord
    exact .idle hdrained hupsert hremoval hrecord
  rw [if_pos hdrained] at hupsert hremoval hrecord
  unfold upsertOf at hupsert
  unfold removalOf at hremoval
  unfold hiddenRecordOf at hrecord
  cases hitem : r.items.item? id with
  | none =>
    simp only [hitem, Std.ExtTreeMap.contains_iff_mem] at hupsert hremoval hrecord
    exact .gone hdrained hitem hupsert hremoval hrecord
  | some item =>
    cases hentry : r.hidden.entry? id with
    | none =>
      simp only [hitem, hentry, Std.ExtTreeMap.contains_iff_mem] at hupsert hremoval hrecord
      exact .shown hdrained hitem hentry hupsert hremoval hrecord
    | some entry =>
      simp only [hitem, hentry] at hupsert hremoval hrecord
      exact .sealed hdrained hitem hentry hupsert hremoval hrecord

end

/-- What drained queues ask to be stored keeps hidden items and visible ones apart. -/
structure Separates (r : Registry) (items hidden : Pending) (c : ChangeSet) : Prop where
  drained (id : ItemId) : id ∈ c.upserts ∨ id ∈ c.removals ∨ id ∈ c.hiddenRecords ↔ id ∈ items ∨ id ∈ hidden
  apart (id : ItemId) : id ∈ c.upserts → id ∉ c.removals
  upsert {id : ItemId} {change : Change Item} : c.upserts[id]? = some change →
    ∃ item, change = ⟨some item, if items[id]? = some .add then .add else .update⟩ ∧
      r.items.item? id = some item ∧ item.id = id ∧ r.hidden.contains id = false
  removal {id : ItemId} {change : Change Item} : c.removals[id]? = some change → change = ⟨none, .remove⟩
  record {id : ItemId} {change : Change HiddenRecord} {record : HiddenRecord} :
    c.hiddenRecords[id]? = some change → change.record = some record →
      r.hidden.entry? id = some record.entry ∧ r.items.item? id = some record.item ∧
        record.entry.id = id ∧ record.item.id = id
  /-- A hidden item is stored as a hidden one, and taken out of the visible ones. -/
  sealed {id : ItemId} {item : Item} : id ∈ items ∨ id ∈ hidden → r.items.item? id = some item →
    r.hidden.contains id = true →
      (∃ entry, c.hiddenRecords[id]? = some ⟨some ⟨entry, item⟩, .update⟩) ∧ c.removals[id]? = some ⟨none, .remove⟩
  gone {id : ItemId} : r.items.item? id = none →
    c.upserts[id]? = none ∧ c.removals[id]? = (if id ∈ items then some ⟨none, .remove⟩ else none) ∧
      c.hiddenRecords[id]? = if id ∈ hidden then some ⟨none, .remove⟩ else none

section

variable {r : Registry} {items hidden : Pending} {c : ChangeSet}

theorem mem_of_getElem? {α : Type} {changes : Changes α} {id : ItemId} {change : Change α}
    (h : changes[id]? = some change) : id ∈ changes := by
  rw [Std.ExtTreeMap.mem_iff_isSome_getElem?, h]
  rfl

theorem not_mem_of_getElem? {α : Type} {changes : Changes α} {id : ItemId} (h : changes[id]? = none) :
    id ∉ changes := by
  rw [Std.ExtTreeMap.mem_iff_isSome_getElem?, h]
  exact nofun

theorem Plan.drained_iff {id : ItemId} (h : Plan r items hidden c id) :
    id ∈ c.upserts ∨ id ∈ c.removals ∨ id ∈ c.hiddenRecords ↔ id ∈ items ∨ id ∈ hidden := by
  cases h with
  | idle hdrained hupsert hremoval hrecord =>
    exact iff_of_false (fun h => h.elim (not_mem_of_getElem? hupsert) fun h =>
      h.elim (not_mem_of_getElem? hremoval) (not_mem_of_getElem? hrecord)) hdrained
  | gone hdrained hitem hupsert hremoval hrecord =>
    refine iff_of_true (Or.inr ?_) hdrained
    rcases hdrained with hid | hid
    · exact Or.inl (mem_of_getElem? (hremoval.trans (if_pos hid)))
    · exact Or.inr (mem_of_getElem? (hrecord.trans (if_pos hid)))
  | shown hdrained hitem hentry hupsert => exact iff_of_true (Or.inl (mem_of_getElem? hupsert)) hdrained
  | sealed hdrained hitem hentry hupsert hremoval =>
    exact iff_of_true (Or.inr (Or.inl (mem_of_getElem? hremoval))) hdrained

theorem Plan.upsert_eq {id : ItemId} {change : Change Item} (h : Plan r items hidden c id)
    (hchange : c.upserts[id]? = some change) :
    ∃ item, change = ⟨some item, if items[id]? = some .add then .add else .update⟩ ∧ r.items.item? id = some item ∧
      r.hidden.entry? id = none := by
  cases h with
  | shown hdrained hitem hentry hupsert => exact ⟨_, Option.some.inj (hchange.symm.trans hupsert), hitem, hentry⟩
  | idle _ hupsert | gone _ _ hupsert | sealed _ _ _ hupsert =>
    rw [hupsert] at hchange
    cases hchange

theorem Plan.removal_eq {id : ItemId} {change : Change Item} (h : Plan r items hidden c id)
    (hchange : c.removals[id]? = some change) : change = ⟨none, .remove⟩ := by
  cases h with
  | idle _ _ hremoval | shown _ _ _ _ hremoval =>
    rw [hremoval] at hchange
    cases hchange
  | gone _ _ _ hremoval =>
    rw [hremoval] at hchange
    split at hchange
    · exact (Option.some.inj hchange).symm
    · cases hchange
  | sealed _ _ _ _ hremoval => exact Option.some.inj (hchange.symm.trans hremoval)

theorem Plan.record_eq {id : ItemId} {change : Change HiddenRecord} {record : HiddenRecord}
    (h : Plan r items hidden c id) (hchange : c.hiddenRecords[id]? = some change) (hsome : change.record = some record) :
    r.hidden.entry? id = some record.entry ∧ r.items.item? id = some record.item := by
  cases h with
  | idle _ _ _ hrecord =>
    rw [hrecord] at hchange
    cases hchange
  | gone _ _ _ _ hrecord | shown _ _ _ _ _ hrecord =>
    -- a record is taken out at most, and nothing is put in
    rw [hrecord] at hchange
    split at hchange
    all_goals cases hchange
    cases hsome
  | sealed hdrained hitem hentry _ _ hrecord =>
    obtain rfl := Option.some.inj (hchange.symm.trans hrecord)
    obtain rfl := Option.some.inj hsome
    exact ⟨hentry, hitem⟩

theorem Plan.sealed_of_hidden {id : ItemId} {item : Item} (h : Plan r items hidden c id)
    (hdrained : id ∈ items ∨ id ∈ hidden) (hitem : r.items.item? id = some item)
    (hhidden : r.hidden.contains id = true) :
    (∃ entry, c.hiddenRecords[id]? = some ⟨some ⟨entry, item⟩, .update⟩) ∧ c.removals[id]? = some ⟨none, .remove⟩ := by
  cases h with
  | idle hidle => exact absurd hdrained hidle
  | gone _ hnone =>
    rw [hnone] at hitem
    cases hitem
  | shown _ _ hentry => exact absurd hentry (HiddenSet.entry?_ne_none.2 hhidden)
  | sealed _ hsome _ _ hremoval hrecord =>
    obtain rfl := Option.some.inj (hitem.symm.trans hsome)
    exact ⟨⟨_, hrecord⟩, hremoval⟩

theorem separates_of_plan (hr : r.Consistent) (h : ∀ id, Plan r items hidden c id) : Separates r items hidden c where
  drained id := (h id).drained_iff
  apart id hid := by
    cases h id with
    | shown hdrained hitem hentry hupsert hremoval => exact not_mem_of_getElem? hremoval
    | idle _ hupsert | gone _ _ hupsert | sealed _ _ _ hupsert => exact absurd hid (not_mem_of_getElem? hupsert)
  upsert {id change} hchange := by
    obtain ⟨item, hchange, hitem, hentry⟩ := (h id).upsert_eq hchange
    refine ⟨item, hchange, hitem, hr.items_sound.id_eq hitem, ?_⟩
    rwa [← Bool.not_eq_true, ← HiddenSet.entry?_ne_none, not_not]
  removal {id _} hchange := (h id).removal_eq hchange
  record {id change record} hchange hsome := by
    obtain ⟨hentry, hitem⟩ := (h id).record_eq hchange hsome
    exact ⟨hentry, hitem, (HiddenSet.entry?_eq_some.1 hentry).1, hr.items_sound.id_eq hitem⟩
  sealed {id _} hdrained hitem hhidden := (h id).sealed_of_hidden hdrained hitem hhidden
  gone {id} hnone := by
    cases h id with
    | idle hidle hupsert hremoval hrecord =>
      exact ⟨hupsert, hremoval.trans (if_neg (mt Or.inl hidle)).symm, hrecord.trans (if_neg (mt Or.inr hidle)).symm⟩
    | gone _ _ hupsert hremoval hrecord => exact ⟨hupsert, hremoval, hrecord⟩
    | shown _ hsome | sealed _ hsome =>
      rw [hsome] at hnone
      cases hnone

end

/-! ## Calls that store visible items -/

/-- Changes of the visible items without a record of a hidden id. -/
def Clear (r : Registry) (changes : ItemChanges) : Prop :=
  ∀ (id : ItemId) (change : Change Item) (item : Item), changes[id]? = some change → change.record = some item →
    r.hidden.contains id = false ∧ r.hidden.contains item.id = false

section

variable {σ : Type} {r : Registry} {backend other : Backend σ}

theorem clear_writes (hr : r.Consistent) {w : Write} (hw : w ∈ r.writes) {changes : ItemChanges}
    (hchanges : w = .upserts changes ∨ w = .removals changes) : r.Clear changes := by
  have hseparates := separates_of_plan hr (plan_collectChanges r r.itemUpdates r.hiddenUpdates)
  have hstage := mem_stages List.prefix_rfl hw
  simp only [ChangeSet.stages, List.mem_cons, List.not_mem_nil, or_false] at hstage
  intro id change item hchange hrecord
  rcases hchanges with rfl | rfl
  · obtain rfl : changes = r.changes.upserts := by simpa using hstage
    obtain ⟨stored, rfl, -, hid, hshown⟩ := hseparates.upsert hchange
    obtain rfl := Option.some.inj hrecord
    exact ⟨hshown, hid ▸ hshown⟩
  · obtain rfl : changes = r.changes.removals := by simpa using hstage
    obtain rfl := hseparates.removal hchange
    cases hrecord

theorem runWrites_congr {writes : List Write} (h : ∀ w ∈ writes, w.run backend = w.run other) (s : σ) :
    runWrites backend writes s = runWrites other writes s := by
  induction writes generalizing s with
  | nil => rfl
  | cons w writes ih =>
    have hrest := ih fun w hw => h w (List.mem_cons_of_mem _ hw)
    simp only [runWrites, h w List.mem_cons_self, hrest]

/-- What is done in other calls does not matter. -/
theorem flush_congr (hr : r.Consistent)
    (hitems : ∀ changes, r.Clear changes → backend.saveItems changes = other.saveItems changes)
    (hhidden : backend.saveHidden = other.saveHidden) (hseeds : backend.saveSeeds = other.saveSeeds) (now : Int64)
    (s : σ) : r.flush now backend s = r.flush now other s := by
  have hwrites : (r.collectChanges r.itemUpdates r.hiddenUpdates).writes = r.writes := rfl
  have hrun : ∀ w ∈ r.writes, w.run backend = w.run other := by
    intro w hw
    cases w with
    | upserts changes => exact hitems changes (clear_writes hr hw (Or.inl rfl))
    | hiddenRecords changes => exact congrFun hhidden changes
    | removals changes => exact hitems changes (clear_writes hr hw (Or.inr rfl))
  simp only [flush, flushSeeds, hwrites, runWrites_congr hrun, hseeds]

end

/-- Visible items are stored without those that are hidden. -/
structure KeepsClear (r : Registry) : Prop where
  separates (items hidden : Pending) : Separates r items hidden (r.collectChanges items hidden)
  writes {w : Write} {changes : ItemChanges} : w ∈ r.writes → w = .upserts changes ∨ w = .removals changes →
    r.Clear changes
  /-- No other calls that store visible items are made. -/
  flush {σ : Type} {backend other : Backend σ} :
    (∀ changes, r.Clear changes → backend.saveItems changes = other.saveItems changes) →
    backend.saveHidden = other.saveHidden → backend.saveSeeds = other.saveSeeds →
      ∀ now s, r.flush now backend s = r.flush now other s

theorem Consistent.keepsClear {r : Registry} (hr : r.Consistent) : KeepsClear r where
  separates items hidden := separates_of_plan hr (plan_collectChanges r items hidden)
  writes hw hchanges := clear_writes hr hw hchanges
  flush := flush_congr hr

/-! ## The visible document -/

/-- A backend that loads and saves in the directory, but may fail in every request. -/
structure Faulty (dir : StateDirectory) (backend : Backend Disk) : Prop extends dir.Unreliable backend where
  loadItems : dir.Attempts backend.loadItems dir.backend.loadItems
  loadHidden : dir.Attempts backend.loadHidden dir.backend.loadHidden
  loadSeeds : dir.Attempts backend.loadSeeds dir.backend.loadSeeds

theorem faulty_backend (dir : StateDirectory) : Faulty dir dir.backend where
  __ := StateDirectory.unreliable_backend dir
  loadItems _ := Or.inl rfl
  loadHidden _ := Or.inl rfl
  loadSeeds _ := Or.inl rfl

/-- What a program comes to that is first started on an empty directory, and loads, stores and is started anew at any
time, with backends that may fail. -/
inductive Lifetime (dir : StateDirectory) : Registry → Disk → Prop where
  | fresh {d : Disk} (config : Configuration) (now : Int64) (hkey : d.key = none)
    (hempty : ∀ name ∈ StateDirectory.documents, d.files.read (dir.file name) = .error .notFound) :
    Lifetime dir (start config now) d
  | request {r : Registry} {d : Disk} (h : Lifetime dir r d) (q : Request) : Lifetime dir (r.serve q) d
  | load {r : Registry} {d : Disk} {backend : Backend Disk} (h : Lifetime dir r d) (hb : Faulty dir backend) :
    Lifetime dir (r.load backend d).state.1 (r.load backend d).state.2
  | flush {r : Registry} {d : Disk} {backend : Backend Disk} (h : Lifetime dir r d) (now : Int64)
    (hb : Faulty dir backend) : Lifetime dir (r.flush now backend d).state.1 (r.flush now backend d).state.2
  | restart {r : Registry} {d d' : Disk} (h : Lifetime dir r d) (config : Configuration) (now : Int64)
    (hd : dir.Alike d d') : Lifetime dir (start config now) d'

/-- A hidden item that is stored as a visible one is queued. -/
def Screens (r : Registry) (a : Archive) : Prop :=
  ∀ id, a.visible[id]? ≠ none → r.hidden.contains id = true → r.Pends id

section Screens

variable {dir : StateDirectory} {r s : Registry} {d : Disk} {a : Archive} {backend : Backend Disk}

theorem item_copies_ne_none {id : ItemId} : (a.copies id).item ≠ none ↔ a.visible[id]? ≠ none :=
  not_congr Option.map_eq_none_iff

theorem item_copies_of_hidden (hr : r.Consistent) {id : ItemId} (h : r.hidden.contains id = true) :
    (r.copies id).item = none ∧ (r.copies id).record ≠ none := by
  obtain ⟨item, hitem⟩ := hr.hidden_stored id h
  have hrecord : (r.copies id).record ≠ none := by
    rw [Ne, record_eq_none, hitem, h]
    exact fun hnone => hnone.elim nofun nofun
  exact ⟨by_contra fun hsome => hrecord (r.record_of_item id hsome), hrecord⟩

theorem Screens.advance (h : Screens r a) (hs : s.Consistent) (ha : Advances r s) : Screens s a := by
  intro id hstored hid
  by_cases hbefore : r.hidden.contains id = true
  · exact ha.pends (h id hstored hbefore)
  · -- an id that was not hidden has other copies now
    refine (ha.changed id).resolve_left fun hsame => ?_
    have hrecord := (item_copies_of_hidden hs hid).2
    rw [hsame, Ne, record_eq_none, not_or, Bool.not_eq_false] at hrecord
    exact hbefore hrecord.2

/-- Stored items are there once they were loaded. -/
theorem Screens.loadItems (h : Screens r a) (hr : r.Consistent) (ha : a.WellKeyed) :
    Screens (r.loadItems a.visible.values).state a ∧
      ∀ id, a.visible[id]? ≠ none → (r.loadItems a.visible.values).state.items.item? id ≠ none := by
  obtain ⟨store, hstate, -, hitem⟩ := insertLoaded_spec a.visible.values r hr.items_sound
  rw [loadItems_state, hstate]
  refine ⟨h, fun id hstored => ?_⟩
  show store.item? id ≠ none
  rw [hitem, ha.visible.find?_values, Ne, Option.or_eq_none_iff, Option.map_eq_none_iff]
  exact fun hnone => hstored hnone.2

/-- A stored item that loading hides is queued. -/
theorem Screens.loadHidden (h : Screens r a) (hr : r.Consistent)
    (hloaded : ∀ id, a.visible[id]? ≠ none → r.items.item? id ≠ none) (records : List HiddenRecord) :
    Screens (r.loadHidden records).state a := by
  intro id hstored hid
  obtain ⟨hitemUpdates, hhiddenUpdates⟩ := pends_loadHidden hr.items_sound records id
  rcases loadHidden_times hr.items_sound (hloaded id hstored) records with hqueued | hsame
  · exact Or.inl hqueued
  · rw [HiddenSet.contains_congr hsame] at hid
    exact (h id hstored hid).imp hitemUpdates hhiddenUpdates

/-- Each of the three calls may fail, and what was loaded before it stays. -/
theorem Screens.load (h : Screens r a) (hr : r.Consistent) (hholds : dir.Holds d a) (hb : Faulty dir backend) :
    Screens (r.load backend d).state.1 a ∧ dir.Alike d (r.load backend d).state.2 := by
  obtain ⟨hitems, hd₁⟩ := hholds.loadItems
  obtain ⟨hrecords, hd₂⟩ := (hholds.alike hd₁.alike).loadHidden
  obtain ⟨hseeds, hd₃⟩ := ((hholds.alike hd₁.alike).alike hd₂.alike).contains.loadSeeds
  obtain ⟨hscreens, hthere⟩ := h.loadItems hr hholds.wellKeyed
  have hloaded := hscreens.loadHidden (consistent_loadItems hr a.visible.values) hthere a.hidden.values
  rcases hb.loadItems d with heq | ⟨⟨e, he⟩, halike⟩
  · rcases hb.loadHidden (dir.backend.loadItems d).state with heq' | ⟨⟨e, he⟩, halike⟩
    · rcases hb.loadSeeds (dir.backend.loadHidden (dir.backend.loadItems d).state).state with heq'' | ⟨⟨e, he⟩, halike⟩
      · simp only [Registry.load, heq, hitems, heq', hrecords, heq'', hseeds]
        refine ⟨?_, ((hd₁.trans hd₂).trans hd₃).alike⟩
        cases a.content.seeds <;> exact hloaded
      · simp only [Registry.load, heq, hitems, heq', hrecords, he]
        exact ⟨hloaded, (hd₁.trans hd₂).alike.trans halike⟩
    · simp only [Registry.load, heq, hitems, he]
      exact ⟨hscreens, hd₁.alike.trans halike⟩
  · simp only [Registry.load, he]
    exact ⟨h, halike⟩

/-- What some writes of a flush leave among the visible items is not hidden, or was there before. -/
theorem Screens.writes (h : Screens r a) (hr : r.Consistent) {done : List Write} (hdone : done <+: r.writes) :
    Screens r (done.foldl Archive.after a) := by
  intro id hstored hid
  rw [← item_copies_ne_none, Archive.copies_foldl_after] at hstored
  have hcases := (effects_cases hr id (fun w hw => mem_stages hdone hw) (a.copies id)).1
  rcases hcases with heq | heq
  · exact h id (item_copies_ne_none.1 (heq ▸ hstored)) hid
  · exact absurd (heq.trans (item_copies_of_hidden hr hid).1) hstored

theorem Screens.allWrites (h : Screens r a) (hr : r.Consistent) {id : ItemId} (hid : r.hidden.contains id = true) :
    (r.writes.foldl Archive.after a).visible[id]? = none := by
  obtain ⟨hnone, hrecord⟩ := item_copies_of_hidden hr hid
  rw [← not_not (a := _ = none), ← Ne, ← item_copies_ne_none, Archive.copies_foldl_after, not_not]
  show (effects r.writes id (a.copies id)).item = none
  by_cases hp : r.Pends id
  · -- as it is queued, its copies need not be tracked
    obtain ⟨item, hitem⟩ := hr.hidden_stored id hid
    have htracks : r.Tracks id (a.copies id) :=
      ⟨fun hn => absurd hp hn, fun _ hn => absurd hn hrecord, fun _ hn => by rw [hitem] at hn; cases hn⟩
    rw [htracks.effects_writes hr, hnone]
  · rw [effects_of_not_pends hp fun w hw => mem_stages List.prefix_rfl hw]
    by_contra hstored
    exact hp (h id (item_copies_ne_none.1 hstored) hid)

theorem Screens.flush (h : Screens r a) (hr : r.Consistent) (hholds : dir.Holds d a) (hb : dir.Unreliable backend)
    (now : Int64) :
    ∃ a', dir.Holds (r.flush now backend d).state.2 a' ∧ Screens (r.flush now backend d).state.1 a' := by
  obtain ⟨k, -, -, hwrites, hall⟩ :=
    hholds.runWrites hb r.writes fun w hw => wellKeyed_stages hr (mem_stages List.prefix_rfl hw)
  rcases r.flush_cases now backend d with ⟨e, stats, -, -, hstate⟩ | ⟨e, hwritten, -, hsaved, -, hstate⟩ |
    ⟨stats, hwritten, -, hsaved, -, hstate⟩ | ⟨stats, hwritten, -, -, hstate⟩
  · rw [hstate]
    exact ⟨_, hwrites, h.writes hr (List.take_prefix k r.writes)⟩
  -- after all writes no hidden item is stored as a visible one
  all_goals
    rw [hall hwritten] at hwrites
    rw [hstate]
  · have hends := hwrites.ends_saveSeeds hb r.seeds.config
    rw [hsaved] at hends
    exact ⟨_, hwrites.alike hends, fun id hstored hid => absurd (h.allWrites hr hid) hstored⟩
  · have hends := hwrites.ends_saveSeeds hb r.seeds.config
    rw [hsaved] at hends
    exact ⟨_, hends, fun id hstored hid => absurd (h.allWrites hr hid) hstored⟩
  · exact ⟨_, hwrites, fun id hstored hid => absurd (h.allWrites hr hid) hstored⟩

theorem screens_start (config : Configuration) (now : Int64) (a : Archive) : Screens (start config now) a := by
  intro id _ hid
  rw [HiddenSet.contains_eq_isSome] at hid
  simp [start, HiddenSet.empty] at hid

theorem Lifetime.screens (h : Lifetime dir r d) : r.Consistent ∧ ∃ a, dir.Holds d a ∧ Screens r a := by
  induction h with
  | fresh config now hkey hempty =>
    have hfits : ∀ d : Disk, d.key = none → dir.KeyFits d := fun d hnone key hkey => by rw [hnone] at hkey; cases hkey
    exact ⟨consistent_start config now, _, StateDirectory.holds_empty (hfits _ hkey) hempty, screens_start config now _⟩
  | request h q ih =>
    obtain ⟨hr, a, hholds, hscreens⟩ := ih
    have hserved := (serve_moves _ q).consistent hr
    exact ⟨hserved, a, hholds, hscreens.advance hserved (serve_advances _ q)⟩
  | load h hb ih =>
    obtain ⟨hr, a, hholds, hscreens⟩ := ih
    obtain ⟨hloaded, halike⟩ := hscreens.load hr hholds hb
    exact ⟨consistent_perform (.load _ _) hr, a, hholds.alike halike, hloaded⟩
  | flush h now hb ih =>
    obtain ⟨hr, a, hholds, hscreens⟩ := ih
    exact ⟨consistent_perform (.flush now _ _) hr, hscreens.flush hr hholds hb.toUnreliable now⟩
  | restart h config now hd ih =>
    obtain ⟨-, a, hholds, -⟩ := ih
    exact ⟨consistent_start config now, a, hholds.alike hd, screens_start config now a⟩

end Screens

/-- The visible items of a directory can be loaded, and none is hidden. -/
def ShowsNoHidden (dir : StateDirectory) (r : Registry) (d : Disk) : Prop :=
  ∃ items, (dir.backend.loadItems d).answer = .ok items ∧ ∀ item ∈ items, r.hidden.contains item.id = false

theorem showsNoHidden_flush {dir : StateDirectory} {r : Registry} {d : Disk} {backend : Backend Disk}
    (h : Lifetime dir r d) (hb : Faulty dir backend) (now : Int64) (hok : (r.flush now backend d).answer = .ok ()) :
    ShowsNoHidden dir (r.flush now backend d).state.1 (r.flush now backend d).state.2 := by
  obtain ⟨-, a, hholds, hscreens⟩ := (h.flush now hb).screens
  refine ⟨_, hholds.loadItems.1, fun item hitem => ?_⟩
  have hstored : a.visible[item.id]? = some item := (hholds.wellKeyed.visible.mem_values item).1 hitem
  rw [← Bool.not_eq_true]
  exact fun hid => not_pends_flush hok item.id (hscreens item.id (by rw [hstored]; exact nofun) hid)

/-- **Hidden items are not stored as visible ones.** No run hands a hidden item over to be stored as a visible one, and
once all is stored, no visible item of a directory that was empty at first is hidden. -/
theorem keepsClear_run :
    (∀ config now ops, KeepsClear ((start config now).run ops)) ∧
      ∀ {dir : StateDirectory} {r : Registry} {d : Disk} {backend : Backend Disk} (now : Int64),
        Lifetime dir r d → Faulty dir backend → (r.flush now backend d).answer = .ok () →
          ShowsNoHidden dir (r.flush now backend d).state.1 (r.flush now backend d).state.2 :=
  ⟨fun config now ops => (consistent_run config now ops).keepsClear,
    fun now h hb hok => showsNoHidden_flush h hb now hok⟩

theorem Sample.faulty_failing : Faulty Sample.directory Sample.failing where
  __ := Sample.unreliable_failing
  loadItems _ := Or.inl rfl
  loadHidden _ := Or.inl rfl
  loadSeeds _ := Or.inl rfl

theorem keepsClear_run_sample :
    ShowsNoHidden Sample.directory
      ((Sample.hidden Sample.failing).flush 3 Sample.directory.backend
        (Sample.added.flush 1 Sample.failing Sample.disk).state.2).state.1
      ((Sample.hidden Sample.failing).flush 3 Sample.directory.backend
        (Sample.added.flush 1 Sample.failing Sample.disk).state.2).state.2 := by
  have hempty : ∀ name ∈ StateDirectory.documents,
      Sample.disk.files.read (Sample.directory.file name) = .error .notFound := by decide +kernel
  have hstart : Lifetime Sample.directory (start Sample.configuration 0) Sample.disk := .fresh _ 0 rfl hempty
  have hadded : Lifetime Sample.directory Sample.added Sample.disk :=
    hstart.request (.addItem (.fresh default "item" 10))
  have hhidden : Lifetime Sample.directory (Sample.hidden Sample.failing)
      (Sample.added.flush 1 Sample.failing Sample.disk).state.2 :=
    (hadded.flush 1 Sample.faulty_failing).request (.applyOne 2 .hide default)
  have hok : ((Sample.hidden Sample.failing).flush 3 Sample.directory.backend
      (Sample.added.flush 1 Sample.failing Sample.disk).state.2).answer = .ok () := by decide +kernel
  exact keepsClear_run.2 3 hhidden (faulty_backend Sample.directory) hok

end TransferRegistry.Registry
