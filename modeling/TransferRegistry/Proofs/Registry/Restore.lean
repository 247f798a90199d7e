import TransferRegistry.Proofs.Registry.Tracking
import TransferRegistry.Proofs.Storage.Backend

/-!
# A registry out of the documents

* `Archive.agreed`: of what is stored of an id, all but a hidden record whose entry and item disagree.
* `Registry.recover_spec`: a new registry loads what the documents of a directory contain. Where an id is stored in both
  places it is hidden, its record is the visible one, and it is queued; so is an id whose record is dropped.
* `Registry.restore_spec`: what a directory holds agrees, so no record is dropped.
-/

namespace TransferRegistry

/-- What becomes of the copies of an id that are loaded: a hidden id stays hidden, with the visible record if there
is one. -/
def Copies.loaded (c : Copies) : Copies :=
  match c.record with
  | some record => ⟨none, some { record with item := c.item.getD record.item }⟩
  | none => c

theorem Copies.loaded_eq_self {c : Copies} (h : c.item ≠ none → c.record = none) : c.loaded = c := by
  obtain ⟨item, record⟩ := c
  cases record with
  | none => rfl
  | some record =>
    cases item with
    | none => rfl
    | some item => exact absurd (h nofun) nofun

theorem Copies.record_loaded {c : Copies} : c.loaded.record = none ↔ c.record = none := by
  obtain ⟨item, record⟩ := c
  cases record <;> simp [loaded]

theorem Copies.item_loaded (c : Copies) : c.loaded.item.or (c.loaded.record.map (·.item)) =
    c.item.or (c.record.map (·.item)) := by
  obtain ⟨item, record⟩ := c
  cases item <;> cases record <;> rfl

theorem Copies.entry_loaded (c : Copies) : c.loaded.record.map (·.entry) = c.record.map (·.entry) := by
  obtain ⟨item, record⟩ := c
  cases record <;> rfl

/-- Seeds after a restart. -/
def SeedConfig.restarted (config : SeedConfig) : SeedConfig := { config with restartRequired := false }

namespace Archive

/-- What is stored of an id, without a hidden record whose entry and item disagree. -/
def agreed (a : Archive) (id : ItemId) : Copies :=
  ⟨(a.copies id).item, (a.hidden[id]?.filter (·.Agrees id)).map (·.refresh)⟩

theorem agreed_of_agrees {a : Archive} {id : ItemId} (h : ∀ record, a.hidden[id]? = some record → record.Agrees id) :
    a.agreed id = a.copies id := by
  rw [agreed, copies]
  cases hr : a.hidden[id]? with
  | none => rfl
  | some record => rw [Option.filter_some, if_pos (by simpa using h record hr)]

/-- A record that was dropped was there. -/
theorem record_of_agreed {a : Archive} {id : ItemId} (h : (a.agreed id).record ≠ none) :
    (a.agreed id).record = (a.copies id).record := by
  rw [agreed, copies] at *
  cases hr : a.hidden[id]? with
  | none => rfl
  | some record =>
    rw [hr, Option.filter_some] at h
    rw [Option.filter_some]
    split at h
    · rw [if_pos ‹_›]
    · exact absurd rfl h

namespace WellKeyed

variable {a : Archive} (ha : a.WellKeyed)

include ha

theorem agrees_of_mem {record : HiddenRecord} (hr : record ∈ a.hidden.values) (id : ItemId) :
    record.Agrees id ↔ record.entry.id = id := by
  have hagrees := ha.hidden _ record ((ha.entry.mem_values record).1 hr)
  refine ⟨fun h => h.1, ?_⟩
  rintro rfl
  exact hagrees

theorem agreed_eq (id : ItemId) : a.agreed id = a.copies id := agreed_of_agrees (ha.hidden id)

end WellKeyed

end Archive

/-! ## Records that agree -/

section Agreed

variable {hidden : Std.ExtTreeMap ItemId HiddenRecord} (h : Keyed (fun record : HiddenRecord => record.entry.id) hidden)

include h

theorem getElem?_of_agrees {record : HiddenRecord} (hr : record ∈ hidden.values) {id : ItemId}
    (hid : record.entry.id = id) : hidden[id]? = some record := hid ▸ (h.mem_values record).1 hr

theorem find?_agrees (id : ItemId) : hidden.values.find? (·.Agrees id) = hidden[id]?.filter (·.Agrees id) := by
  refine Option.ext fun record => ?_
  rw [Option.filter_eq_some_iff]
  constructor
  · intro hfound
    have hagrees : record.Agrees id := by simpa using List.find?_some hfound
    exact ⟨getElem?_of_agrees h (List.mem_of_find?_eq_some hfound) hagrees.1, by simpa using hagrees⟩
  · rintro ⟨hr, hagrees⟩
    cases hfound : hidden.values.find? (·.Agrees id) with
    | none => exact absurd hagrees (List.find?_eq_none.1 hfound record (h.mem_of_getElem? hr))
    | some other =>
      have hother : other.Agrees id := by simpa using List.find?_some hfound
      rw [← hr, getElem?_of_agrees h (List.mem_of_find?_eq_some hfound) hother.1]

/-- At most one record is of an id. -/
theorem countP_agrees (id : ItemId) :
    hidden.values.countP (·.Agrees id) = (hidden[id]?.filter (·.Agrees id)).toList.length := by
  cases hr : hidden[id]?.filter (·.Agrees id) with
  | none =>
    rw [← find?_agrees h, List.find?_eq_none] at hr
    exact List.countP_eq_zero.2 hr
  | some record =>
    obtain ⟨hr, hagrees⟩ := Option.filter_eq_some_iff.1 hr
    have hcount := h.countP_values id
    rw [hr] at hcount
    refine Eq.trans (List.countP_congr fun other ho => ?_) hcount
    simp only [decide_eq_true_eq]
    refine ⟨fun hother => hother.1, fun hid => ?_⟩
    obtain rfl := Option.some.inj (hr.symm.trans (getElem?_of_agrees h ho hid))
    simpa using hagrees

/-- What is dropped was there and does not agree. -/
theorem dropped_iff (id : ItemId) :
    (∃ record ∈ hidden.values, record.entry.id = id ∧ record.item.id ≠ id) ↔
      hidden[id]? ≠ none ∧ hidden[id]?.filter (·.Agrees id) = none := by
  constructor
  · rintro ⟨record, hr, hid, hother⟩
    rw [getElem?_of_agrees h hr hid, Option.filter_some, if_neg (by simpa using fun hagrees => hother hagrees.2)]
    exact ⟨nofun, rfl⟩
  · rintro ⟨hsome, hnone⟩
    obtain ⟨record, hr⟩ := Option.ne_none_iff_exists'.1 hsome
    have hid := h id record hr
    refine ⟨record, h.mem_of_getElem? hr, hid, fun hitem => ?_⟩
    rw [hr, Option.filter_some, if_pos (decide_eq_true ⟨hid, hitem⟩)] at hnone
    cases hnone

end Agreed

namespace Registry

/-- The registry of a configuration that has loaded what documents contain. -/
structure Recovers (config : Configuration) (a : Archive) (r : Registry) : Prop where
  consistent : r.Consistent
  passkey : r.hidden.passkey = config.core.hiddenPasskey
  config_eq : r.config = config
  copies (id : ItemId) : r.copies id = (a.agreed id).loaded
  itemUpdates (id : ItemId) : id ∈ r.itemUpdates ↔ (a.agreed id).item ≠ none ∧ (a.agreed id).record ≠ none
  hiddenUpdates (id : ItemId) : id ∈ r.hiddenUpdates ↔ (a.copies id).record ≠ none ∧ (a.agreed id).record = none
  seeds : r.seeds = ⟨(a.seeds.getD (SeedKeeper.ofGeneration config.seeds).config).restarted, false⟩

theorem copies_eq_loaded {r : Registry} {id : ItemId} {c : Copies}
    (hitem : r.items.item? id = c.item.or (c.record.map (·.item)))
    (hentry : r.hidden.entry? id = c.record.map (·.entry)) : r.copies id = c.loaded := by
  obtain ⟨item, record⟩ := c
  rw [Registry.copies, hitem, hentry]
  cases item <;> cases record <;> rfl

theorem loadSeeds_state (r : Registry) (seeds : Option SeedConfig) :
    (r.loadSeeds seeds).state = { r with
      seeds := match seeds with
        | some config => r.seeds.restore config
        | none => r.seeds } := by
  cases seeds <;> rfl

section

variable {c : Content} (hitems : (c.items.map (·.id)).Nodup)
  (hhidden : Keyed (fun record : HiddenRecord => record.entry.id) c.hidden)

include hitems in
theorem insertLoaded_items (config : Configuration) (now : Int64) :
    ∃ store, ((start config now).insertLoaded c.items).state = { start config now with items := store } ∧
      store.Sound ∧ ∀ id, store.item? id = (c.archive.agreed id).item := by
  obtain ⟨store, hstate, hsound, hitem⟩ :=
    insertLoaded_spec c.items (start config now) (consistent_start config now).items_sound
  refine ⟨store, hstate, hsound, fun id => ?_⟩
  have hstart : (start config now).items.item? id = none := Store.item?_empty id
  have hvisible : c.archive.visible[id]? = c.items.find? (·.id = id) := getElem?_byId_of_nodup hitems id
  rw [hitem, hstart, Option.none_or, Archive.agreed, Archive.copies, hvisible]

include hhidden in
theorem entry?_restore (passkey : String) (id : ItemId) :
    HiddenSet.entry? ((HiddenSet.empty passkey).restore
        ((c.hidden.values.filter fun record => record.item.id = record.entry.id).map (·.entry))) id =
      (c.archive.agreed id).record.map (·.entry) := by
  have hempty : (HiddenSet.empty passkey).times[id]? = none := Std.ExtTreeMap.getElem?_empty
  have hnodup : ((c.hidden.values.filter fun record => record.item.id = record.entry.id).map (·.entry.id)).Nodup :=
    hhidden.nodup_values.sublist (List.filter_sublist.map _)
  have hfind : (c.hidden.values.filter fun record => record.item.id = record.entry.id).find? (·.entry.id = id) =
      c.hidden[id]?.filter (·.Agrees id) := by
    rw [List.find?_filter, ← find?_agrees hhidden]
    refine List.find?_congr fun record _ => ?_
    simp only [decide_eq_true_eq, decide_eq_decide]
    refine ⟨fun ⟨hitem, hentry⟩ => ⟨hentry, hitem.trans hentry⟩, fun ⟨hentry, hitem⟩ => ?_⟩
    exact ⟨hitem.trans hentry.symm, hentry⟩
  unfold HiddenSet.entry?
  rw [HiddenSet.times_restore, hempty, Option.or_none, ← List.map_reverse, List.find?_map]
  simp only [Function.comp_def]
  rw [find?_reverse_of_nodup hnodup, hfind, Archive.agreed, Content.archive]
  cases hr : c.hidden[id]?.filter (·.Agrees id) with
  | none => rfl
  | some record =>
    obtain ⟨-, hagrees⟩ := Option.filter_eq_some_iff.1 hr
    have hid : record.entry.id = id := (of_decide_eq_true hagrees).1
    subst hid
    rfl

include hitems hhidden in
/-- A new registry that takes over what documents contain. -/
theorem recovers_load (config : Configuration) (now : Int64) :
    Recovers config c.archive ((((start config now).loadItems c.items).state.loadHidden c.hidden.values).state.loadSeeds
      c.seeds).state := by
  have hconsistent := consistent_loadSeeds (consistent_loadHidden
    (consistent_loadItems (consistent_start config now) c.items) c.hidden.values) c.seeds
  obtain ⟨store, hstored, hsound, hvisible⟩ := insertLoaded_items hitems config now
  rw [loadItems_state, hstored] at hconsistent ⊢
  have hspec := insertHidden_spec c.hidden.values { start config now with items := store } hsound
  obtain ⟨stats, hloaded⟩ := loadHidden_state c.hidden.values { start config now with items := store } hsound
  rw [hloaded, loadSeeds_state] at hconsistent ⊢
  refine ⟨hconsistent, rfl, hspec.config, fun id => copies_eq_loaded ?_ (entry?_restore hhidden _ id), fun id => ?_,
    fun id => ?_, ?_⟩
  · show ({ start config now with items := store }.insertHidden c.hidden.values).state.items.item? id = _
    rw [hspec.item?, hvisible, find?_agrees hhidden, Archive.agreed, Option.map_map]
    rfl
  · show id ∈ ({ start config now with items := store }.insertHidden c.hidden.values).state.itemUpdates ↔ _
    have hnone : id ∉ (start config now).itemUpdates := Std.ExtTreeMap.not_mem_empty
    rw [hspec.itemUpdates, or_iff_right hnone, hvisible, countP_agrees hhidden]
    show 2 ≤ (c.archive.agreed id).item.toList.length + (c.hidden[id]?.filter (·.Agrees id)).toList.length ↔
      (c.archive.agreed id).item ≠ none ∧ (c.hidden[id]?.filter (·.Agrees id)).map (·.refresh) ≠ none
    cases (c.archive.agreed id).item <;> cases c.hidden[id]?.filter (·.Agrees id) <;> simp
  · show id ∈ ({ start config now with items := store }.insertHidden c.hidden.values).state.hiddenUpdates ↔ _
    have hnone : id ∉ (start config now).hiddenUpdates := Std.ExtTreeMap.not_mem_empty
    rw [hspec.hiddenUpdates, or_iff_right hnone, dropped_iff hhidden, Archive.agreed, Archive.copies, Ne, Ne,
      Option.map_eq_none_iff, Option.map_eq_none_iff]
    rfl
  · show (match c.seeds with
      | some config => _
      | none => _) = _
    rw [hspec.seeds]
    show _ = SeedKeeper.mk (c.seeds.getD _).restarted false
    cases c.seeds <;> rfl

end

variable {dir : StateDirectory} {d : Disk} {a : Archive} {c : Content}

/-- What documents contain can always be loaded, and to load it leaves the files as they were. -/
theorem load_of_contains (h : dir.Contains d c) (r : Registry) :
    (r.load dir.backend d).answer = .ok () ∧
      (r.load dir.backend d).state.1 =
        (((r.loadItems c.items).state.loadHidden c.hidden.values).state.loadSeeds c.seeds).state ∧
      dir.Untouched d (r.load dir.backend d).state.2 := by
  obtain ⟨hload₁, hd₁⟩ := h.loadItems
  obtain ⟨hload₂, hd₂⟩ := (h.alike hd₁.alike).loadHidden
  obtain ⟨hload₃, hd₃⟩ := ((h.alike hd₁.alike).alike hd₂.alike).loadSeeds
  obtain ⟨hanswer, hstate, hdisk⟩ := load_of_ok (r := r) hload₁ hload₂ hload₃
  refine ⟨hanswer, hstate, ?_⟩
  rw [hdisk]
  exact (hd₁.trans hd₂).trans hd₃

theorem recover_spec (h : dir.Contains d c) (hitems : (c.items.map (·.id)).Nodup) (config : Configuration) (now : Int64) :
    ((start config now).load dir.backend d).answer = .ok () ∧
      Recovers config c.archive ((start config now).load dir.backend d).state.1 ∧
      dir.Untouched d ((start config now).load dir.backend d).state.2 := by
  obtain ⟨hanswer, hstate, hfiles⟩ := load_of_contains h (start config now)
  refine ⟨hanswer, ?_, hfiles⟩
  rw [hstate]
  exact recovers_load hitems (StateDirectory.keyed_hiddenIn h.hidden) config now

/-! ## Archives -/

/-- The registry of a configuration that has loaded an archive. -/
structure Restores (config : Configuration) (a : Archive) (r : Registry) : Prop where
  consistent : r.Consistent
  passkey : r.hidden.passkey = config.core.hiddenPasskey
  config_eq : r.config = config
  copies (id : ItemId) : r.copies id = (a.copies id).loaded
  itemUpdates (id : ItemId) : id ∈ r.itemUpdates ↔ (a.copies id).item ≠ none ∧ (a.copies id).record ≠ none
  hiddenUpdates (id : ItemId) : id ∉ r.hiddenUpdates
  seeds : r.seeds = ⟨(a.seeds.getD (SeedKeeper.ofGeneration config.seeds).config).restarted, false⟩

theorem Recovers.restores {config : Configuration} {r : Registry} (h : Recovers config a r)
    (hagreed : ∀ id, a.agreed id = a.copies id) : Restores config a r where
  consistent := h.consistent
  passkey := h.passkey
  config_eq := h.config_eq
  copies id := by rw [h.copies, hagreed]
  itemUpdates id := by rw [h.itemUpdates, hagreed]
  hiddenUpdates id := by
    rw [h.hiddenUpdates, hagreed]
    exact fun hdropped => hdropped.1 hdropped.2
  seeds := h.seeds

/-- What a directory holds can always be loaded, and to load it leaves the documents as they were. -/
theorem restore_spec (h : dir.Holds d a) (config : Configuration) (now : Int64) :
    ((start config now).load dir.backend d).answer = .ok () ∧
      Restores config a ((start config now).load dir.backend d).state.1 ∧
      dir.Alike d ((start config now).load dir.backend d).state.2 := by
  obtain ⟨hanswer, hrecovers, hfiles⟩ := recover_spec h.contains h.wellKeyed.visible.nodup_values config now
  rw [h.wellKeyed.archive_content] at hrecovers
  exact ⟨hanswer, hrecovers.restores h.wellKeyed.agreed_eq, hfiles.alike⟩

end Registry

end TransferRegistry
