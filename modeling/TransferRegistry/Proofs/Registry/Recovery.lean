import TransferRegistry.Proofs.Registry.Durability
import TransferRegistry.Proofs.Storage.Writable

/-!
# Recovery

* `Registry.Idle`: nothing is to be stored, and a flush calls no backend. `idle_of_settled`: so it is where nothing is
  queued.
* `contains_flush`: after a flush that has stored all, the documents contain what the registry keeps.
* `Mirrored` and `ReloadedAs`: what is stored then, and what a new registry loads. Both are read off the copies of every
  id (`mirrored_of_copies`, `reloadedAs_of_copies`).
* `recovered_load`: documents with any items of distinct ids and any hidden records are loaded, and repaired by the next
  flush that succeeds; where nothing is to be repaired, there is nothing to be stored. `flush_load_of_ready`: in a
  directory that can be written the next flush does succeed.
-/

namespace TransferRegistry

open Registry

variable {dir : StateDirectory} {config : Configuration} {r : Registry} {d d' : Disk} {a : Archive} {c : Content}

/-! ## What is tracked after loading -/

/-- What is loaded from documents is queued where they are to be repaired. -/
theorem Registry.Recovers.tracks (h : Recovers config a r) (id : ItemId) : r.Tracks id (a.copies id) where
  settled hp := by
    have hagreed : a.agreed id = a.copies id := by
      by_cases hrecord : (a.agreed id).record = none
      · have hnone : (a.copies id).record = none := by
          by_contra hsome
          exact hp (Or.inr ((h.hiddenUpdates id).2 ⟨hsome, hrecord⟩))
        exact congrArg (Copies.mk (a.copies id).item) (hrecord.trans hnone.symm)
      · exact congrArg (Copies.mk (a.copies id).item) (Archive.record_of_agreed hrecord)
    have hsingle : (a.agreed id).item ≠ none → (a.agreed id).record = none := fun hitem => by
      by_contra hrecord
      exact hp (Or.inl ((h.itemUpdates id).2 ⟨hitem, hrecord⟩))
    rw [h.copies, Copies.loaded_eq_self hsingle, hagreed]
  unsealed hsome hnone := by
    rw [h.copies, Copies.record_loaded] at hnone
    exact (h.hiddenUpdates id).2 ⟨hsome, hnone⟩
  removed hsome hnone := by
    -- an item that is stored is there
    have hitem := r.item?_eq id
    rw [h.copies, Copies.item_loaded, hnone] at hitem
    exact absurd (Option.or_eq_none_iff.1 hitem.symm).1 hsome

/-! ## Nothing to store -/

/-- Nothing is to be stored, and no backend is called to store it. -/
structure Registry.Idle (r : Registry) : Prop where
  itemUpdates : r.itemUpdates = ∅
  hiddenUpdates : r.hiddenUpdates = ∅
  flush {σ : Type} (now : Int64) (backend : Backend σ) (s : σ) :
    (r.flush now backend s).answer = .ok () ∧ (r.flush now backend s).state.2 = s ∧ (r.flush now backend s).log = []

theorem idle_of_settled (hp : ∀ id, ¬r.Pends id) (hclean : r.seeds.dirty = false) : r.Idle := by
  have hitems : r.itemUpdates = ∅ := Std.ExtTreeMap.eq_empty_iff_forall_not_mem.2 fun id hid => hp id (Or.inl hid)
  have hhidden : r.hiddenUpdates = ∅ := Std.ExtTreeMap.eq_empty_iff_forall_not_mem.2 fun id hid => hp id (Or.inr hid)
  have hwrites : (r.collectChanges r.itemUpdates r.hiddenUpdates).writes = [] := by
    rw [hitems, hhidden]
    rfl
  have hkept : r.drained.seeds = r.seeds := rfl
  refine ⟨hitems, hhidden, fun now backend s => ?_⟩
  simp only [flush, flushSeeds, hwrites, runWrites, hkept, hclean, Bool.false_eq_true, if_false]
  exact ⟨trivial, trivial, rfl⟩

/-! ## Writing -/

/-- After a flush that has stored all, the documents contain what the registry keeps. -/
theorem contains_flush (h : dir.Contains d c) (hitems : (c.items.map (·.id)).Nodup) (hr : r.Consistent)
    (htracks : ∀ id, r.Tracks id (c.archive.copies id)) (hclean : r.seeds.dirty = false) {backend : Backend Disk}
    (hb : dir.Unreliable backend) {now : Int64} (hok : (r.flush now backend d).answer = .ok ()) :
    ∃ c', dir.Contains (r.flush now backend d).state.2 c' ∧ (c'.items.map (·.id)).Nodup ∧
      ∀ id, c'.archive.copies id = (r.flush now backend d).state.1.copies id := by
  have hwellKeyed : ∀ w ∈ r.writes, w.WellKeyed := fun w hw => wellKeyed_stages hr (mem_stages List.prefix_rfl hw)
  obtain ⟨k, -, -, hcontains, hall⟩ := h.runWrites hb r.writes hwellKeyed
  obtain ⟨harchive, hnodup⟩ := Content.foldl_after hwellKeyed hitems
  rcases r.flush_cases now backend d with ⟨e, -, -, he, -⟩ | ⟨e, -, -, -, he, -⟩ | ⟨-, -, hdirty, -, -, -⟩ |
    ⟨stats, hwritten, -, -, hstate⟩
  · rw [hok] at he
    cases he
  · rw [hok] at he
    cases he
  · rw [hclean] at hdirty
    cases hdirty
  · rw [hall hwritten] at hcontains
    rw [hstate]
    refine ⟨_, hcontains, hnodup, fun id => ?_⟩
    rw [harchive, Archive.copies_foldl_after]
    exact (htracks id).effects_writes hr

/-- Where the documents can be read and written, all is stored. -/
theorem flush_of_ready (h : dir.Contains d c) (hready : dir.Ready d) (hpasskey : dir.passkey ≠ "")
    (hr : r.Consistent) (now : Int64) : (r.flush now dir.backend d).answer = .ok () := by
  have hwellKeyed : ∀ w ∈ r.writes, w.WellKeyed := fun w hw => wellKeyed_stages hr (mem_stages List.prefix_rfl hw)
  obtain ⟨hwritten, hstill⟩ := StateDirectory.Contains.runWrites_ok hpasskey r.writes hwellKeyed h hready
  rcases r.flush_cases now dir.backend d with ⟨e, -, hfailed, -⟩ | ⟨e, -, -, hfailed, -⟩ | ⟨-, -, -, -, hok, -⟩ |
    ⟨-, -, -, hok, -⟩
  · rw [hwritten] at hfailed
    cases hfailed
  · rw [StateDirectory.saveSeeds_ok hstill] at hfailed
    cases hfailed
  · exact hok
  · exact hok

/-! ## What is stored then -/

/-- Where no record is dropped and no id is stored twice, loading leaves nothing to store. -/
theorem Registry.Recovers.idle (h : Recovers config a r)
    (hagrees : ∀ (id : ItemId) (record : HiddenRecord), a.hidden[id]? = some record → record.Agrees id)
    (hapart : ∀ id, (a.copies id).item ≠ none → (a.copies id).record = none) : r.Idle := by
  refine idle_of_settled (fun id hp => ?_) (by rw [h.seeds])
  have hagreed : a.agreed id = a.copies id := Archive.agreed_of_agrees (hagrees id)
  rcases hp with hid | hid
  · obtain ⟨hitem, hrecord⟩ := (h.itemUpdates id).1 hid
    rw [hagreed] at hitem hrecord
    exact hrecord (hapart id hitem)
  · obtain ⟨hsome, hnone⟩ := (h.hiddenUpdates id).1 hid
    rw [hagreed] at hnone
    exact hsome hnone

theorem item_copies_iff {id : ItemId} {item : Item} :
    (r.copies id).item = some item ↔ r.items.item? id = some item ∧ r.hidden.contains id = false := by
  rw [← Bool.not_eq_true, ← HiddenSet.entry?_ne_none, not_not, Registry.copies]
  cases r.items.item? id <;> cases r.hidden.entry? id <;> simp

theorem record_copies {id : ItemId} {record : HiddenRecord} (h : (r.copies id).record = some record) :
    r.items.item? id = some record.item := by
  rcases r.copies_cases id with ⟨-, hcopies⟩ | ⟨_, -, -, hcopies⟩ | ⟨item, entry, hitem, -, hcopies⟩ <;> rw [hcopies] at h
  · cases h
  · cases h
  · obtain rfl := Option.some.inj h
    exact hitem

/-- A new registry has loaded what another one keeps, and has nothing to store. -/
structure ReloadedAs (r : Registry) (loaded : Step (Registry × Disk) (Except StorageError Unit)) : Prop where
  answer : loaded.answer = .ok ()
  items : loaded.state.1.items = r.items
  entries : loaded.state.1.hidden.entries = r.hidden.entries
  idle : loaded.state.1.Idle

/-- A directory has what a registry keeps: every visible item and a record for every hidden id, and no id twice. -/
structure Mirrored (dir : StateDirectory) (r : Registry) (d : Disk) (items : List Item) (records : List HiddenRecord) :
    Prop where
  loadItems : (dir.backend.loadItems d).answer = .ok items
  loadHidden : (dir.backend.loadHidden d).answer = .ok records
  visible : (items.map (·.refreshRatio)).Perm r.listItems
  entries : records.map (·.entry) = r.hidden.entries
  current (record : HiddenRecord) : record ∈ records →
    record.item.id = record.entry.id ∧ r.items.item? record.entry.id = some record.item.refreshRatio
  apart : (items.map (·.id) ++ records.map (·.entry.id)).Nodup

section Copies

variable (h : dir.Contains d c) (hitems : (c.items.map (·.id)).Nodup) (hr : r.Consistent)
  (hcopies : ∀ id, c.archive.copies id = r.copies id)

theorem item_archive_iff (hitems : (c.items.map (·.id)).Nodup) {id : ItemId} {item : Item} :
    (c.archive.copies id).item = some item ↔ ∃ stored ∈ c.items, stored.id = id ∧ stored.refreshRatio = item := by
  have hvisible : c.archive.visible[id]? = c.items.find? (·.id = id) := getElem?_byId_of_nodup hitems id
  rw [Archive.copies, hvisible, Option.map_eq_some_iff]
  simp only [find?_eq_some_iff_of_nodup hitems, and_assoc]

include hr hcopies in
theorem agrees_of_copies (id : ItemId) (record : HiddenRecord) (hrecord : c.hidden[id]? = some record) :
    record.Agrees id ∧ r.items.item? id = some record.item.refreshRatio := by
  have hcopy : (r.copies id).record = some record.refresh := by
    rw [← hcopies]
    exact congrArg (Option.map HiddenRecord.refresh) hrecord
  exact ⟨(hr.copies_record hcopy).1, record_copies hcopy⟩

include hitems hr hcopies in
theorem visible_perm : (c.items.map (·.refreshRatio)).Perm r.listItems := by
  have hids : ((c.items.map (·.refreshRatio)).map (·.id)).Nodup := by
    rw [List.map_map]
    exact hitems
  have hlist : (r.listItems.map (·.id)).Nodup := (hr.items_sound.ascending_toList.filter _).nodup
  refine (List.perm_ext_iff_of_nodup hids.of_map hlist.of_map).2 fun item => ?_
  rw [hr.mem_listItems, ← item_copies_iff, ← hcopies, item_archive_iff hitems, List.mem_map]
  constructor
  · rintro ⟨stored, hs, rfl⟩
    exact ⟨stored, hs, rfl, rfl⟩
  · rintro ⟨stored, hs, -, heq⟩
    exact ⟨stored, hs, heq⟩

include h hr hcopies in
theorem entries_eq : c.hidden.values.map (·.entry) = r.hidden.entries := by
  have htimes : (c.hidden.map fun _ record => record.entry.hiddenAt) = r.hidden.times := by
    refine Std.ExtTreeMap.ext_getElem? fun id => ?_
    have hentry := hr.entry?_eq id
    rw [← hcopies, HiddenSet.entry?] at hentry
    have htime := congrArg (Option.map (·.hiddenAt)) hentry.symm
    rw [getElem?_map_eq]
    simpa [Archive.copies, Content.archive, Function.comp_def, HiddenRecord.refresh] using htime
  rw [HiddenSet.entries, ← htimes, Std.ExtTreeMap.toList_map, List.map_map, values_eq, List.map_map]
  refine List.map_congr_left fun entry he => ?_
  have hid := StateDirectory.keyed_hiddenIn h.hidden entry.1 entry.2 (Std.ExtTreeMap.mem_toList_iff_getElem?_eq_some.1 he)
  show entry.2.entry = ⟨entry.1, entry.2.entry.hiddenAt⟩
  rw [← hid]

include h hitems hr hcopies in
theorem mirrored_of_copies : Mirrored dir r d c.items c.hidden.values where
  loadItems := h.loadItems.1
  loadHidden := h.loadHidden.1
  visible := visible_perm hitems hr hcopies
  entries := entries_eq h hr hcopies
  current record hrecord := by
    have hstored := ((StateDirectory.keyed_hiddenIn h.hidden).mem_values record).1 hrecord
    obtain ⟨hagrees, hitem⟩ := agrees_of_copies hr hcopies _ record hstored
    exact ⟨hagrees.2, hitem⟩
  apart := by
    -- an item and a record of one id would be two copies of it
    refine List.nodup_append.2 ⟨hitems, (StateDirectory.keyed_hiddenIn h.hidden).nodup_values, ?_⟩
    rintro _ hitem _ hrecord rfl
    obtain ⟨item, hi, hid⟩ := List.mem_map.1 hitem
    obtain ⟨record, hr, hentry⟩ := List.mem_map.1 hrecord
    have hstored := ((StateDirectory.keyed_hiddenIn h.hidden).mem_values record).1 hr
    have hcopy := (item_archive_iff hitems).2 ⟨item, hi, hid.trans hentry.symm, rfl⟩
    have hnone := r.record_of_item record.entry.id (by rw [← hcopies, hcopy]; exact nofun)
    rw [← hcopies] at hnone
    exact absurd (hstored.symm.trans (Option.map_eq_none_iff.1 hnone)) nofun

include h hitems hr hcopies in
theorem reloadedAs_of_copies (config : Configuration) (now : Int64) :
    ReloadedAs r ((start config now).load dir.backend d) := by
  obtain ⟨hanswer, hrecovers, -⟩ := recover_spec h hitems config now
  have hagrees : ∀ (id : ItemId) (record : HiddenRecord), c.archive.hidden[id]? = some record → record.Agrees id :=
    fun id record hrecord => (agrees_of_copies hr hcopies id record hrecord).1
  obtain ⟨hsame, htimes⟩ := hr.ext_copies hrecovers.consistent fun id => by
    rw [hrecovers.copies, Archive.agreed_of_agrees (hagrees id), hcopies, Copies.loaded_eq_self (r.record_of_item id)]
  refine ⟨hanswer, hsame, by rw [HiddenSet.entries, htimes, ← HiddenSet.entries], hrecovers.idle hagrees fun id => ?_⟩
  rw [hcopies]
  exact r.record_of_item id

end Copies

/-! ## Every content -/

/-- What is so once documents were repaired: they have what the registry keeps, a new registry loads it, and neither has
anything to store. -/
structure Repaired (dir : StateDirectory) (r : Registry) (d : Disk) : Prop where
  mirrored : ∃ items records, Mirrored dir r d items records
  reloaded (d' : Disk) : dir.Alike d d' → ∀ config now, ReloadedAs r ((start config now).load dir.backend d')
  idle : r.Idle

/-- What is so once documents with `items` and `records` were loaded. -/
structure Recovered (dir : StateDirectory) (items : List Item) (records : List HiddenRecord)
    (loaded : Step (Registry × Disk) (Except StorageError Unit)) : Prop where
  answer : loaded.answer = .ok ()
  stored (item : Item) : item ∈ items → loaded.state.1.items.item? item.id = some item.refreshRatio
  hidden (id : ItemId) : loaded.state.1.hidden.contains id = true ↔ ∃ record ∈ records, record.Agrees id
  /-- The next flush that stores all repairs the documents. -/
  repaired {backend : Backend Disk} (now : Int64) : dir.Unreliable backend →
    (loaded.state.1.flush now backend loaded.state.2).answer = .ok () →
      Repaired dir (loaded.state.1.flush now backend loaded.state.2).state.1
        (loaded.state.1.flush now backend loaded.state.2).state.2
  /-- There is nothing to repair where no id is stored twice and all records agree. -/
  idle : (∀ item ∈ items, ∀ record ∈ records, item.id ≠ record.entry.id) →
    (∀ record ∈ records, record.item.id = record.entry.id) → loaded.state.1.Idle

/-- The ids that are hidden after loading are those of the records that agree. -/
theorem Registry.Recovers.contains_iff (h : Recovers config c.archive r)
    (hhidden : Keyed (fun record : HiddenRecord => record.entry.id) c.hidden) (id : ItemId) :
    r.hidden.contains id = true ↔ ∃ record ∈ c.hidden.values, record.Agrees id := by
  rw [← HiddenSet.entry?_ne_none, h.consistent.entry?_eq, h.copies, Copies.entry_loaded, Archive.agreed, Option.map_map,
    Ne, Option.map_eq_none_iff]
  show ¬c.hidden[id]?.filter (·.Agrees id) = none ↔ _
  rw [← find?_agrees hhidden, List.find?_eq_none]
  simp only [decide_eq_true_eq, not_forall, not_not, exists_prop]

/-- Once a flush has stored all, there is nothing to store. -/
theorem idle_flush {backend : Backend Disk} {now : Int64} (hok : (r.flush now backend d).answer = .ok ()) :
    (r.flush now backend d).state.1.Idle := by
  obtain ⟨-, -, hseeds⟩ := flush_ok hok
  exact idle_of_settled (not_pends_flush hok) (by rw [hseeds])

theorem repaired_flush (h : dir.Contains d c) (hitems : (c.items.map (·.id)).Nodup) (hr : Recovers config c.archive r)
    {backend : Backend Disk} (hb : dir.Unreliable backend) {now : Int64}
    (hok : (r.flush now backend d).answer = .ok ()) :
    Repaired dir (r.flush now backend d).state.1 (r.flush now backend d).state.2 := by
  have hclean : r.seeds.dirty = false := by rw [hr.seeds]
  have hconsistent := consistent_perform (.flush now backend d) hr.consistent
  obtain ⟨c', hcontains, hnodup, hcopies⟩ := contains_flush h hitems hr.consistent hr.tracks hclean hb hok
  refine ⟨⟨_, _, mirrored_of_copies hcontains hnodup hconsistent hcopies⟩, fun d' hd config now => ?_, idle_flush hok⟩
  exact reloadedAs_of_copies (hcontains.alike hd) hnodup hconsistent hcopies config now

/-- In a directory that can be written, documents are repaired by the first flush. -/
theorem flush_load_of_ready (h : dir.Contains d c) (hitems : (c.items.map (·.id)).Nodup)
    (hready : dir.Ready d) (hpasskey : dir.passkey ≠ "") (config : Configuration) (now later : Int64) :
    (((start config now).load dir.backend d).state.1.flush later dir.backend
      ((start config now).load dir.backend d).state.2).answer = .ok () := by
  obtain ⟨-, hrecovers, hfiles⟩ := recover_spec h hitems config now
  exact flush_of_ready (h.alike hfiles.alike) (hready.sameFiles hfiles.toSameFiles) hpasskey hrecovers.consistent later

/-- **Whatever was stored is recovered.** -/
theorem recovered_load {items : List Item} {records : List HiddenRecord} {seeds : Option SeedConfig}
    (hkey : dir.KeyFits d) (hitems : (dir.backend.loadItems d).answer = .ok items)
    (hhidden : (dir.backend.loadHidden d).answer = .ok records) (hseeds : (dir.backend.loadSeeds d).answer = .ok seeds)
    (hnodup : (items.map (·.id)).Nodup) (config : Configuration) (now : Int64) :
    Recovered dir items records ((start config now).load dir.backend d) := by
  obtain ⟨hidden, rfl, hcontains⟩ := StateDirectory.contains_of_loads hkey hitems hhidden hseeds
  obtain ⟨hanswer, hrecovers, hfiles⟩ := recover_spec hcontains hnodup config now
  have hkeyed := StateDirectory.keyed_hiddenIn hcontains.hidden
  refine ⟨hanswer, fun item hitem => ?_, fun id => ?_, fun later hb hok => ?_, fun hapart hagrees => ?_⟩
  · have hagreed : ((Content.archive ⟨items, hidden, seeds⟩).agreed item.id).item = some item.refreshRatio :=
      (item_archive_iff hnodup).2 ⟨item, hitem, rfl, rfl⟩
    rw [Registry.item?_eq, hrecovers.copies, Copies.item_loaded, hagreed, Option.some_or]
  · exact hrecovers.contains_iff hkeyed id
  · exact repaired_flush (hcontains.alike hfiles.alike) hnodup hrecovers hb hok
  · refine hrecovers.idle (fun id record hrecord => ?_) fun id hsome => ?_
    · have hid := hkeyed id record hrecord
      exact ⟨hid, (hagrees record (hkeyed.mem_of_getElem? hrecord)).trans hid⟩
    · by_contra hrecord
      obtain ⟨_, hcopy⟩ := Option.ne_none_iff_exists'.1 hsome
      obtain ⟨item, hitem, rfl, -⟩ := (item_archive_iff hnodup).1 hcopy
      obtain ⟨record, hrecord⟩ := Option.ne_none_iff_exists'.1 (mt Option.map_eq_none_iff.2 hrecord)
      exact hapart item hitem record (hkeyed.mem_of_getElem? hrecord) (hkeyed _ record hrecord).symm

/-! ## Damaged documents -/

namespace Sample

/-- An id whose last byte is given. -/
def id (last : UInt8) : ItemId := ⟨Vector.ofFn fun i => if i = 31 then last else 0⟩

def item (last : UInt8) : Item := .fresh (id last) "item" 10

/-- Two visible items. -/
def visible : ItemChanges := .ofList [(id 1, ⟨some (item 1), .add⟩), (id 2, ⟨some (item 2), .add⟩)] compare

/-- One of them is stored as a hidden item as well, and under the id of the other one is the record of a third. -/
def records : HiddenChanges :=
  .ofList [(id 1, ⟨some ⟨⟨id 1, 5⟩, item 1⟩, .update⟩), (id 2, ⟨some ⟨⟨id 2, 6⟩, item 3⟩, .update⟩)] compare

/-- A disk with these items and records. -/
def damaged : Disk := (directory.backend.saveHidden records (directory.backend.saveItems visible disk).state).state

def content : Content := (Archive.empty.content.after (.upserts visible)).after (.hiddenRecords records)

example : content.items.map (·.id) = [id 1, id 2] ∧
    content.hidden.values.map (fun record => (record.entry.id, record.item.id)) = [(id 1, id 1), (id 2, id 3)] := by
  decide +kernel

theorem contains_damaged : directory.Contains damaged content ∧ directory.Ready damaged := by
  have hpasskey : directory.passkey ≠ "" := by decide
  have hb := StateDirectory.unreliable_backend directory
  have hkey : directory.KeyFits disk := fun key h => nomatch (show none = some key from h)
  have hready : directory.Ready disk := ⟨rfl, by decide +kernel⟩
  have hstart : directory.Contains disk Archive.empty.content :=
    (StateDirectory.holds_empty hkey (by decide +kernel)).contains
  -- no record is sealed or opened here: that what is sealed can be opened is known in general
  obtain ⟨_, hitemsOk, hready⟩ := hstart.write_ok hready hpasskey (.upserts visible)
  have hitems := hstart.finishes_saveItems hb visible
  rw [show (directory.backend.saveItems visible disk).answer = _ from hitemsOk] at hitems
  obtain ⟨_, hrecordsOk, hready⟩ :=
    StateDirectory.Contains.write_ok hitems hready hpasskey (.hiddenRecords records)
  have hentries : ∀ entry ∈ records.toList, ∀ record ∈ entry.2.result, record.entry.id = entry.1 := by decide +kernel
  have hrecords := StateDirectory.Contains.finishes_saveHidden hitems hb fun id change record hchange hresult =>
    hentries (id, change) (Std.ExtTreeMap.mem_toList_iff_getElem?_eq_some.2 hchange) record hresult
  rw [show (directory.backend.saveHidden records _).answer = _ from hrecordsOk] at hrecords
  exact ⟨hrecords, hready⟩

end Sample

/-- Documents with an id in both places and a record that is of another id are loaded and repaired. -/
theorem recovered_load_sample :
    Recovered Sample.directory Sample.content.items Sample.content.hidden.values
      ((start Sample.configuration 0).load Sample.directory.backend Sample.damaged) ∧
    (((start Sample.configuration 0).load Sample.directory.backend Sample.damaged).state.1.flush 1
      Sample.directory.backend
      ((start Sample.configuration 0).load Sample.directory.backend Sample.damaged).state.2).answer = .ok () := by
  obtain ⟨hcontains, hready⟩ := Sample.contains_damaged
  have hnodup : (Sample.content.items.map (·.id)).Nodup := by decide +kernel
  exact ⟨recovered_load hcontains.key hcontains.loadItems.1 hcontains.loadHidden.1 hcontains.loadSeeds.1 hnodup
      Sample.configuration 0,
    flush_load_of_ready hcontains hnodup hready (by decide) Sample.configuration 0 1⟩

end TransferRegistry
