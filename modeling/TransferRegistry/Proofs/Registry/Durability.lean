import TransferRegistry.Proofs.Registry.Session

/-!
# What storing promises

* `StoresAll`: what a flush leaves behind that answers that all is stored. A restart gives what the registry keeps.
* `Survives`: what a restart gives after a flush that was cut short. No item is lost, none is back that was neither
  stored nor there, and none is shown that was stored as hidden and still is.
* `Mixes`: that this is so of each id, because each copy is the old one or the present one.
-/

namespace TransferRegistry

open Registry

variable {dir : StateDirectory} {config : Configuration} {r : Registry} {d : Disk} {a : Archive}

/-- A new registry has loaded what another one keeps. -/
structure RestoredAs (r : Registry) (loaded : Step (Registry × Disk) (Except StorageError Unit)) : Prop where
  answer : loaded.answer = .ok ()
  items : loaded.state.1.items = r.items
  hidden : loaded.state.1.hidden = r.hidden
  seeds : loaded.state.1.seeds.config = { r.seeds.config with restartRequired := false }

/-- No id is in the documents twice. -/
def StoredOnce (dir : StateDirectory) (d : Disk) : Prop :=
  ∃ items records, (dir.backend.loadItems d).answer = .ok items ∧ (dir.backend.loadHidden d).answer = .ok records ∧
    (items.map (·.id) ++ records.map (·.item.id)).Nodup

/-- What a flush leaves behind that has stored all. -/
structure StoresAll (dir : StateDirectory) (config : Configuration) (r saved : Registry) (d : Disk) : Prop where
  items : saved.items = r.items
  hidden : saved.hidden = r.hidden
  seeds : saved.seeds.config = r.seeds.config
  itemUpdates : saved.itemUpdates = ∅
  hiddenUpdates : saved.hiddenUpdates = ∅
  storedOnce : StoredOnce dir d
  restored (d' : Disk) : dir.Alike d d' → ∀ now, RestoredAs saved ((start config now).load dir.backend d')

/-! ## Nothing is queued -/

theorem Archive.WellKeyed.ids_hidden (ha : a.WellKeyed) : a.hidden.values.map (·.item.id) = a.hidden.keys := by
  rw [← ha.entry.keys_values]
  refine List.map_congr_left fun record hr => ?_
  exact ((ha.agrees_of_mem hr record.entry.id).2 rfl).2

theorem storedOnce_of_copies (h : dir.Holds d a) (hcopies : ∀ id, a.copies id = r.copies id) : StoredOnce dir d := by
  refine ⟨_, _, h.loadItems.1, h.loadHidden.1, ?_⟩
  rw [h.wellKeyed.visible.keys_values, h.wellKeyed.ids_hidden, List.nodup_append]
  refine ⟨Std.ExtTreeMap.nodup_keys, Std.ExtTreeMap.nodup_keys, ?_⟩
  rintro id hvisible _ hhidden rfl
  rw [Std.ExtTreeMap.mem_keys, Std.ExtTreeMap.mem_iff_isSome_getElem?, Option.isSome_iff_ne_none] at hvisible hhidden
  have hitem : (r.copies id).item ≠ none := by
    rw [← hcopies]
    exact mt Option.map_eq_none_iff.1 hvisible
  have hrecord := r.record_of_item id hitem
  rw [← hcopies] at hrecord
  exact hhidden (Option.map_eq_none_iff.1 hrecord)

/-- Where nothing is queued, a restart gives what the registry keeps. -/
theorem Synced.restoredAs (h : Synced dir r d a) (hr : r.Consistent)
    (hpasskey : r.hidden.passkey = config.core.hiddenPasskey) (hconfig : r.config = config)
    (hcopies : ∀ id, a.copies id = r.copies id) (hclean : r.seeds.dirty = false) (now : Int64) :
    RestoredAs r ((start config now).load dir.backend d) := by
  obtain ⟨hanswer, hrestores, -⟩ := restore_spec h.holds config now
  obtain ⟨hitems, htimes⟩ := hr.ext_copies hrestores.consistent fun id => by
    rw [hrestores.copies, hcopies, Copies.loaded_eq_self (r.record_of_item id)]
  refine ⟨hanswer, hitems, ?_, ?_⟩
  · have hkey := hrestores.passkey.trans hpasskey.symm
    exact (HiddenSet.mk.injEq ..).mpr ⟨htimes, hkey⟩
  · rw [hrestores.seeds, ← hconfig]
    exact h.seeds hclean

/-- **What is stored is restored.** Once a flush has answered that all is stored, nothing is queued, no id is stored
twice, and a restart gives what the registry keeps. -/
theorem storesAll_flush (h : Session dir config r d) {backend : Backend Disk} (hb : dir.Unreliable backend)
    (now : Int64) (hok : (r.flush now backend d).answer = .ok ()) :
    StoresAll dir config r (r.flush now backend d).state.1 (r.flush now backend d).state.2 := by
  obtain ⟨hitems, hhidden, -⟩ := r.kept_flush now backend d
  obtain ⟨hitemUpdates, hhiddenUpdates, hseeds⟩ := flush_ok hok
  have hinv := (h.flush now hb).invariant
  obtain ⟨a, hsynced⟩ := hinv.synced
  have hcopies : ∀ id, a.copies id = (r.flush now backend d).state.1.copies id := fun id => by
    refine (hsynced.tracks id).settled fun hp => ?_
    rw [Pends, hitemUpdates, hhiddenUpdates] at hp
    exact hp.elim Std.ExtTreeMap.not_mem_empty Std.ExtTreeMap.not_mem_empty
  exact {
    items := hitems
    hidden := hhidden
    seeds := by rw [hseeds]
    itemUpdates := hitemUpdates
    hiddenUpdates := hhiddenUpdates
    storedOnce := storedOnce_of_copies hsynced.holds hcopies
    restored := fun d' hd later => (hsynced.alike hd).restoredAs hinv.consistent hinv.passkey hinv.config_eq hcopies
      (by rw [hseeds]) later }

/-! ## A small session -/

namespace Sample

/-- The working directory. -/
def directory : StateDirectory := ⟨[], "open sesame"⟩

def disk : Disk := Disk.start ∅ none default

/-- An item was added. -/
def added : Registry := (start configuration 0).serve (.addItem (.fresh default "item" 10))

/-- The directory, but items cannot be stored. -/
def failing : Backend Disk := { directory.backend with saveItems := fun _ d => ⟨d, .error .io, []⟩ }

/-- The item was to be stored, or could not be; and it was hidden then. -/
def hidden (backend : Backend Disk) : Registry :=
  (added.flush 1 backend disk).state.1.serve (.applyOne 2 .hide default)

theorem unreliable_failing : directory.Unreliable failing where
  saveItems _ d := Or.inr ⟨⟨_, rfl⟩, StateDirectory.Alike.refl directory d⟩
  saveHidden _ _ := Or.inl rfl
  saveSeeds _ _ := Or.inl rfl

theorem session_saved {backend : Backend Disk} (hb : directory.Unreliable backend) :
    Session directory configuration (added.flush 1 backend disk).state.1 (added.flush 1 backend disk).state.2 := by
  have hempty : ∀ name ∈ StateDirectory.documents, disk.files.read (directory.file name) = .error .notFound := by
    decide +kernel
  have hstart : Session directory configuration (start configuration 0) disk := .fresh 0 rfl hempty
  have hadded : Session directory configuration added disk := hstart.request (.addItem (.fresh default "item" 10))
  exact hadded.flush 1 hb

theorem session_hidden {backend : Backend Disk} (hb : directory.Unreliable backend) :
    Session directory configuration (hidden backend) (added.flush 1 backend disk).state.2 :=
  (session_saved hb).request (.applyOne 2 .hide default)

end Sample

/-- The item could not be stored at first, and is stored as a hidden one then. -/
theorem storesAll_flush_sample :
    ((Sample.hidden Sample.failing).flush 3 Sample.directory.backend
      (Sample.added.flush 1 Sample.failing Sample.disk).state.2).answer = .ok () ∧
    StoresAll Sample.directory Sample.configuration (Sample.hidden Sample.failing)
      ((Sample.hidden Sample.failing).flush 3 Sample.directory.backend
        (Sample.added.flush 1 Sample.failing Sample.disk).state.2).state.1
      ((Sample.hidden Sample.failing).flush 3 Sample.directory.backend
        (Sample.added.flush 1 Sample.failing Sample.disk).state.2).state.2 := by
  have hok : ((Sample.hidden Sample.failing).flush 3 Sample.directory.backend
      (Sample.added.flush 1 Sample.failing Sample.disk).state.2).answer = .ok () := by decide +kernel
  exact ⟨hok, storesAll_flush (Sample.session_hidden Sample.unreliable_failing)
    (StateDirectory.unreliable_backend Sample.directory) 3 hok⟩

/-! ## A flush that is cut short -/

/-- The disk when a flush was cut short: some first writes are done, and what came then left the documents as they
were. -/
structure CutShort (dir : StateDirectory) (r : Registry) (backend : Backend Disk) (k : Nat) (d d' : Disk) : Prop where
  written : (runWrites backend (r.writes.take k) d).answer = .ok ()
  left : dir.Alike (runWrites backend (r.writes.take k) d).state d'

/-- A registry that was loaded after a flush was cut short, where `items` and `records` were stored before it. -/
structure Survives (items : List Item) (records : List HiddenRecord) (r : Registry)
    (loaded : Step (Registry × Disk) (Except StorageError Unit)) : Prop where
  answer : loaded.answer = .ok ()
  /-- What was stored and is there is there once. -/
  kept (id : ItemId) : id ∈ items.map (·.id) ∨ id ∈ records.map (·.entry.id) → r.items.item? id ≠ none →
    (loaded.state.1.items.toList.map (·.id)).count id = 1
  known (item : Item) : item ∈ loaded.state.1.items.toList →
    item.id ∈ items.map (·.id) ∨ item.id ∈ records.map (·.entry.id) ∨ r.items.item? item.id ≠ none
  /-- A record is a stored one or the present one. -/
  origin (item : Item) : item ∈ loaded.state.1.items.toList →
    (∃ stored ∈ items, item = stored.refreshRatio) ∨ (∃ record ∈ records, item = record.item.refreshRatio) ∨
      r.items.item? item.id = some item
  hidden (id : ItemId) : id ∈ records.map (·.entry.id) → r.hidden.contains id = true →
    loaded.state.1.hidden.contains id = true
  times (entry : HiddenEntry) : entry ∈ loaded.state.1.hidden.entries →
    entry ∈ records.map (·.entry) ∨ entry ∈ r.hidden.entries

/-- What a flush that was cut short left of the copies of an id is stored or present, and what is still there is not
lost. -/
structure Mixes (r : Registry) (id : ItemId) (c : Copies) (s : Registry) : Prop where
  kept : c.Alive → r.items.item? id ≠ none → s.items.item? id ≠ none
  origin (item : Item) : s.items.item? id = some item →
    c.item = some item ∨ c.record.map (·.item) = some item ∨ r.items.item? id = some item
  hidden : c.record ≠ none → r.hidden.entry? id ≠ none → s.hidden.entry? id ≠ none
  entry (entry : HiddenEntry) : s.hidden.entry? id = some entry →
    c.record.map (·.entry) = some entry ∨ r.hidden.entry? id = some entry

theorem mixes_effects {s : Registry} {id : ItemId} {c : Copies} {done : List Write} (hr : r.Consistent)
    (hs : s.Consistent) (hdone : done <+: r.writes) (hcopies : s.copies id = (effects done id c).loaded) :
    Mixes r id c s := by
  have hsitem : s.items.item? id = (effects done id c).item.or ((effects done id c).record.map (·.item)) := by
    rw [s.item?_eq, hcopies, Copies.item_loaded]
  have hsentry : s.hidden.entry? id = (effects done id c).record.map (·.entry) := by
    rw [hs.entry?_eq, hcopies, Copies.entry_loaded]
  obtain ⟨hitem, hrecord⟩ := effects_cases hr id (fun w hw => mem_stages hdone hw) c
  refine ⟨fun halive hthere => ?_, fun item hi => ?_, fun hsealed hhidden => ?_, fun entry he => ?_⟩
  · rw [hsitem, Ne, Option.or_eq_none_iff, Option.map_eq_none_iff, not_and_or]
    exact alive_effects hr hdone halive (Option.ne_none_iff_exists'.1 hthere)
  · rw [hsitem, Option.or_eq_some_iff] at hi
    rcases hi with hi | ⟨-, hi⟩
    · rcases hitem with heq | heq <;> rw [heq] at hi
      · exact Or.inl hi
      · exact Or.inr (Or.inr (by rw [r.item?_eq, hi, Option.some_or]))
    · rcases hrecord with heq | heq <;> rw [heq] at hi
      · exact Or.inr (Or.inl hi)
      · -- a hidden item is not visible too
        have hnone : (r.copies id).item = none := by
          by_contra hsome
          rw [r.record_of_item id hsome] at hi
          cases hi
        exact Or.inr (Or.inr (by rw [r.item?_eq, hnone, Option.none_or, hi]))
  · rw [hsentry, Ne, Option.map_eq_none_iff]
    rw [hr.entry?_eq, Ne, Option.map_eq_none_iff] at hhidden
    rcases hrecord with heq | heq <;> rw [heq]
    · exact hsealed
    · exact hhidden
  · rw [hsentry] at he
    rw [hr.entry?_eq]
    rcases hrecord with heq | heq <;> rw [heq] at he
    · exact Or.inl he
    · exact Or.inr he

section Stored

variable {id : ItemId}

theorem mem_ids_visible (ha : a.WellKeyed) : id ∈ a.visible.values.map (·.id) ↔ (a.copies id).item ≠ none := by
  rw [ha.visible.keys_values, Std.ExtTreeMap.mem_keys, Std.ExtTreeMap.mem_iff_isSome_getElem?,
    Option.isSome_iff_ne_none]
  exact not_congr Option.map_eq_none_iff.symm

theorem mem_ids_hidden (ha : a.WellKeyed) : id ∈ a.hidden.values.map (·.entry.id) ↔ (a.copies id).record ≠ none := by
  rw [ha.entry.keys_values, Std.ExtTreeMap.mem_keys, Std.ExtTreeMap.mem_iff_isSome_getElem?,
    Option.isSome_iff_ne_none]
  exact not_congr Option.map_eq_none_iff.symm

theorem mem_visible_of_copies (ha : a.WellKeyed) {item : Item} (h : (a.copies id).item = some item) :
    ∃ stored ∈ a.visible.values, item = stored.refreshRatio := by
  obtain ⟨stored, hstored, rfl⟩ := Option.map_eq_some_iff.1 h
  exact ⟨stored, ha.visible.mem_of_getElem? hstored, rfl⟩

theorem mem_hidden_of_copies (ha : a.WellKeyed) {record : HiddenRecord} (h : (a.copies id).record = some record) :
    ∃ stored ∈ a.hidden.values, record = stored.refresh := by
  obtain ⟨stored, hstored, rfl⟩ := Option.map_eq_some_iff.1 h
  exact ⟨stored, ha.entry.mem_of_getElem? hstored, rfl⟩

end Stored

theorem survives_of_mixes (ha : a.WellKeyed) {loaded : Step (Registry × Disk) (Except StorageError Unit)}
    (hanswer : loaded.answer = .ok ()) (hs : loaded.state.1.Consistent)
    (hmixes : ∀ id, Mixes r id (a.copies id) loaded.state.1) : Survives a.visible.values a.hidden.values r loaded := by
  have hitems : ∀ item ∈ loaded.state.1.items.toList, loaded.state.1.items.item? item.id = some item := fun item hi =>
    hs.items_sound.mem_toList.1 hi
  refine ⟨hanswer, fun id hid hthere => ?_, fun item hi => ?_, fun item hi => ?_, fun id hid hhidden => ?_,
    fun entry he => ?_⟩
  · rw [mem_ids_visible ha, mem_ids_hidden ha] at hid
    obtain ⟨item, hitem⟩ := Option.ne_none_iff_exists'.1 ((hmixes id).kept hid hthere)
    have hmem : id ∈ loaded.state.1.items.toList.map (·.id) := by
      have hitemId := hs.items_sound.id_eq hitem
      subst hitemId
      exact List.mem_map_of_mem (hs.items_sound.mem_toList.2 hitem)
    exact List.count_eq_one_of_mem hs.items_sound.ascending_toList.nodup hmem
  · rw [mem_ids_visible ha, mem_ids_hidden ha]
    rcases (hmixes item.id).origin item (hitems item hi) with heq | heq | heq
    · exact Or.inl (heq ▸ nofun)
    · refine Or.inr (Or.inl fun hnone => ?_)
      rw [hnone] at heq
      cases heq
    · exact Or.inr (Or.inr (heq ▸ nofun))
  · rcases (hmixes item.id).origin item (hitems item hi) with heq | heq | heq
    · exact Or.inl (mem_visible_of_copies ha heq)
    · obtain ⟨record, hrecord, rfl⟩ := Option.map_eq_some_iff.1 heq
      obtain ⟨stored, hstored, rfl⟩ := mem_hidden_of_copies ha hrecord
      exact Or.inr (Or.inl ⟨stored, hstored, rfl⟩)
    · exact Or.inr (Or.inr heq)
  · rw [mem_ids_hidden ha] at hid
    exact HiddenSet.entry?_ne_none.1 ((hmixes id).hidden hid (HiddenSet.entry?_ne_none.2 hhidden))
  · rcases (hmixes entry.id).entry entry (HiddenSet.mem_entries_iff_entry?.1 he) with heq | heq
    · obtain ⟨record, hrecord, rfl⟩ := Option.map_eq_some_iff.1 heq
      obtain ⟨stored, hstored, rfl⟩ := mem_hidden_of_copies ha hrecord
      exact Or.inl (List.mem_map.2 ⟨stored, hstored, rfl⟩)
    · exact Or.inr (HiddenSet.mem_entries_iff_entry?.2 heq)

/-- A flush that fails was cut short after some of its writes. -/
theorem cutShort_of_error (h : dir.Holds d a) (hr : r.Consistent) {backend : Backend Disk} (hb : dir.Unreliable backend)
    {now : Int64} {e : StorageError} (he : (r.flush now backend d).answer = .error e) :
    ∃ k, CutShort dir r backend k d (r.flush now backend d).state.2 := by
  obtain ⟨k, hwritten, halike, hholds, hall⟩ :=
    h.runWrites hb r.writes fun w hw => wellKeyed_stages hr (mem_stages List.prefix_rfl hw)
  refine ⟨k, hwritten, ?_⟩
  rcases r.flush_cases now backend d with ⟨_, stats, -, -, hstate⟩ | ⟨_, hdone, -, hsaved, -, hstate⟩ |
    ⟨stats, -, -, -, hok, -⟩ | ⟨stats, -, -, hok, -⟩
  · rw [hstate]
    exact halike
  · have hends := hholds.ends_saveSeeds hb r.seeds.config
    rw [hsaved] at hends
    rw [hstate]
    exact halike.trans hends
  all_goals
    rw [he] at hok
    cases hok

/-- **A flush that is cut short loses nothing.** A flush that fails was cut short after some of its writes; and
whenever one is cut short, what was stored and is still there is restored, once, as it was stored or as it is now; what
is restored was stored or is there; and what was stored as hidden and is hidden is hidden. -/
theorem survives_cutShort (h : Session dir config r d) {backend : Backend Disk} (hb : dir.Unreliable backend) :
    (∀ now e, (r.flush now backend d).answer = .error e →
      ∃ k, CutShort dir r backend k d (r.flush now backend d).state.2) ∧
    ∃ items records, (dir.backend.loadItems d).answer = .ok items ∧ (dir.backend.loadHidden d).answer = .ok records ∧
      ∀ k d', CutShort dir r backend k d d' → ∀ now,
        Survives items records r ((start config now).load dir.backend d') := by
  have hinv := h.invariant
  obtain ⟨a, hsynced⟩ := hinv.synced
  refine ⟨fun now e he => cutShort_of_error hsynced.holds hinv.consistent hb he, _, _, hsynced.holds.loadItems.1,
    hsynced.holds.loadHidden.1, fun k d' hcut now => ?_⟩
  have hkeyed : ∀ w ∈ r.writes.take k, w.WellKeyed := fun w hw =>
    wellKeyed_stages hinv.consistent (mem_stages (List.take_prefix k r.writes) hw)
  obtain ⟨j, -, -, hholds, hall⟩ := hsynced.holds.runWrites hb (r.writes.take k) hkeyed
  rw [hall hcut.written] at hholds
  obtain ⟨hanswer, hrestores, -⟩ := restore_spec (hholds.alike hcut.left) config now
  refine survives_of_mixes hsynced.holds.wellKeyed hanswer hrestores.consistent fun id => ?_
  refine mixes_effects hinv.consistent hrestores.consistent (List.take_prefix k r.writes) ?_
  rw [hrestores.copies, Archive.copies_foldl_after]
  rfl

/-- The item was stored as a visible one, and the flush stops when it is stored as a hidden one too. -/
theorem survives_cutShort_sample : ∃ items records,
    (Sample.directory.backend.loadItems (Sample.added.flush 1 Sample.directory.backend Sample.disk).state.2).answer =
      .ok items ∧
    (Sample.directory.backend.loadHidden (Sample.added.flush 1 Sample.directory.backend Sample.disk).state.2).answer =
      .ok records ∧
    Survives items records (Sample.hidden Sample.directory.backend)
      ((start Sample.configuration 3).load Sample.directory.backend
        (runWrites Sample.directory.backend ((Sample.hidden Sample.directory.backend).writes.take 1)
          (Sample.added.flush 1 Sample.directory.backend Sample.disk).state.2).state) := by
  have hsure := StateDirectory.unreliable_backend Sample.directory
  obtain ⟨-, items, records, hitems, hrecords, hsurvives⟩ :=
    survives_cutShort (Sample.session_hidden hsure) hsure
  exact ⟨items, records, hitems, hrecords,
    hsurvives 1 _ ⟨by decide +kernel, StateDirectory.Alike.refl Sample.directory _⟩ 3⟩

end TransferRegistry
