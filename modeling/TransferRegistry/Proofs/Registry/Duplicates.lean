import TransferRegistry.Proofs.Registry.Durability
import TransferRegistry.Proofs.Storage.Writable

/-!
# Two records of one id

A document can have several records of one id. Loading takes over the first of them; who saves changes reads the document
by ids, which keeps the last.

* `Content.storedCopy_after`: of an id that a write does not name, the last record is what is stored.
* `storedCopy_loaded`: the first one is what is loaded.
* `Registry.resaved_load`: so the records that are loaded before a save and after it are the first and the last of the
  document. They are the same where no id has two records, and in `replaced` they are not.
-/

namespace TransferRegistry

open Registry
open Json (reread)

/-- The changes are not to an id, and there is no record of it among them. -/
structure Spares (changes : ItemChanges) (id : ItemId) : Prop where
  key : changes[id]? = none
  record (other : ItemId) (change : Change Item) (item : Item) :
    changes[other]? = some change → change.result = some item → item.id ≠ id

theorem spares_empty (id : ItemId) : Spares ∅ id where
  key := Std.ExtTreeMap.getElem?_empty
  record other change _ h := by
    rw [Std.ExtTreeMap.getElem?_empty] at h
    cases h

variable {changes : ItemChanges} {id : ItemId}

/-- The only record of an id is the first and the last. -/
theorem storedCopy_reverse {items : List Item} (h : items.countP (·.id = id) ≤ 1) :
    storedCopy items.reverse id = storedCopy items id := by
  have hsame : (items.filter (·.id = id)).reverse = items.filter (·.id = id) := by
    rw [List.countP_eq_length_filter] at h
    rcases hitems : items.filter (·.id = id) with _ | ⟨item, _ | ⟨other, rest⟩⟩
    · exact hitems ▸ rfl
    · exact hitems ▸ rfl
    · rw [hitems, List.length_cons, List.length_cons] at h
      omega
  rw [storedCopy, storedCopy, ← List.head?_filter, ← List.head?_filter, List.filter_reverse, hsame]

theorem Content.storedCopy_after (c : Content) (h : Spares changes id) :
    storedCopy (c.after (.upserts changes)).items id = storedCopy c.items.reverse id := by
  have honly : ∀ other stored, ((applyChanges (byId (·.id) c.items) changes).map fun _ => reread)[other]? = some stored →
      (stored.id = id ↔ other = id) := by
    intro other stored hstored
    rw [getElem?_map_eq, Option.map_eq_some_iff] at hstored
    obtain ⟨item, hitem, rfl⟩ := hstored
    rw [getElem?_applyChanges] at hitem
    rw [Item.id_reread]
    cases hchange : changes[other]? with
    | none =>
      rw [hchange] at hitem
      have hid : item.id = other := keyed_byId _ c.items other item hitem
      rw [hid]
    | some change =>
      -- the changed record is of another id, and so is the id it is stored under
      rw [hchange] at hitem
      have hother : other ≠ id := by
        rintro rfl
        rw [h.key] at hchange
        cases hchange
      exact iff_of_false (h.record other change item hchange hitem) hother
  rw [items_after_upserts, storedCopy, find?_values_of_only honly, getElem?_map_eq, getElem?_applyChanges, h.key]
  simp only [getElem?_byId, storedCopy, Option.map_map]
  rfl

namespace Registry

variable {dir : StateDirectory} {d : Disk} {c : Content}

/-- Without hidden records, a new registry has what is loaded of the items. -/
theorem storedCopy_loaded (h : dir.Contains d c) (hhidden : c.hidden = ∅) (config : Configuration) (now : Int64)
    (id : ItemId) :
    ((start config now).load dir.backend d).answer = .ok () ∧
      ((start config now).load dir.backend d).state.1.items.item? id = storedCopy c.items id ∧
      dir.Untouched d ((start config now).load dir.backend d).state.2 := by
  obtain ⟨hanswer, hstate, hfiles⟩ := load_of_contains h (start config now)
  obtain ⟨store, hloaded, -, hitem⟩ :=
    insertLoaded_spec c.items (start config now) (consistent_start config now).items_sound
  have hnone : (start config now).items.item? id = none := Store.item?_empty id
  refine ⟨hanswer, ?_, hfiles⟩
  rw [hstate, hhidden, loadSeeds_state, loadItems_state, hloaded]
  show store.item? id = _
  rw [hitem, hnone, Option.none_or, storedCopy]

/-- After a save, it has what was loaded last of an id that has nothing to do with the changes; a save that fails changes
nothing. -/
theorem storedCopy_resaved (h : dir.Contains d c) (hhidden : c.hidden = ∅) (hspares : Spares changes id)
    (config : Configuration) (now : Int64) :
    ((start config now).load dir.backend (dir.backend.saveItems changes d).state).answer = .ok () ∧
      ((start config now).load dir.backend (dir.backend.saveItems changes d).state).state.1.items.item? id =
        storedCopy (if (dir.backend.saveItems changes d).answer.isOk then c.items.reverse else c.items) id := by
  have hsaved := h.finishes_saveItems (StateDirectory.unreliable_backend dir) changes
  generalize dir.backend.saveItems changes d = saved at hsaved ⊢
  cases hanswer : saved.answer with
  | error e =>
    rw [hanswer] at hsaved
    obtain ⟨hloaded, hitem, -⟩ := storedCopy_loaded (h.alike hsaved) hhidden config now id
    exact ⟨hloaded, hitem⟩
  | ok count =>
    rw [hanswer] at hsaved
    obtain ⟨hloaded, hitem, -⟩ := storedCopy_loaded hsaved hhidden config now id
    exact ⟨hloaded, hitem.trans (c.storedCopy_after hspares)⟩

/-- One registry loads a document, changes are saved, and another registry loads the document then: of an id that has
nothing to do with the changes, the first has the first record, and the second the last one. -/
structure Resaved (items : List Item) (id : ItemId) (before : Step (Registry × Disk) (Except StorageError Unit))
    (saved : Step Disk (Except StorageError Nat)) (after : Step (Registry × Disk) (Except StorageError Unit)) : Prop where
  loaded : before.answer = .ok ()
  reloaded : after.answer = .ok ()
  first : before.state.1.items.item? id = storedCopy items id
  last : after.state.1.items.item? id = storedCopy (if saved.answer.isOk then items.reverse else items) id
  /-- So they agree if there is no other record of the id. -/
  agrees : items.countP (·.id = id) ≤ 1 → after.state.1.items.item? id = before.state.1.items.item? id

/-- **The record that is saved is the last of its id**, and not the one that was loaded. -/
theorem resaved_load (h : dir.Contains d c) (hhidden : c.hidden = ∅) (hspares : Spares changes id)
    (config next : Configuration) (now later : Int64) :
    Resaved c.items id ((start config now).load dir.backend d)
      (dir.backend.saveItems changes ((start config now).load dir.backend d).state.2)
      ((start next later).load dir.backend
        (dir.backend.saveItems changes ((start config now).load dir.backend d).state.2).state) := by
  obtain ⟨hloaded, hfirst, hfiles⟩ := storedCopy_loaded h hhidden config now id
  obtain ⟨hreloaded, hlast⟩ := storedCopy_resaved (h.alike hfiles.alike) hhidden hspares next later
  refine ⟨hloaded, hreloaded, hfirst, hlast, fun honce => ?_⟩
  rw [hlast, hfirst]
  split
  · exact storedCopy_reverse honce
  · rfl

end Registry

/-! ## A document with two records of one id -/

namespace Sample

/-- More was downloaded according to the first record. -/
def ahead : Item := { Item.fresh default "item" 100 with downloaded := 60, remaining := 40 }

def behind : Item := { Item.fresh default "item" 100 with downloaded := 10, remaining := 90 }

def doubled : Disk :=
  Disk.start ⟨(∅ : FileTree).nodes.insert (directory.file StateDirectory.itemsFile)
    (.file (StateDocument.bytes [ahead, behind]))⟩ none default

theorem contains_doubled : directory.Contains doubled ⟨[ahead, behind].map reread, ∅, none⟩ := by
  have hother : ∀ name, name ≠ StateDirectory.itemsFile → (∅ : FileTree).read (directory.file name) = .error .notFound →
      doubled.files.read (directory.file name) = .error .notFound := fun name hname hnone =>
    (FileTree.read_insert_of_aside (directory.file_aside hname.symm) _).trans hnone
  refine StateDirectory.contains_items (fun key h => nomatch (show none = some key from h)) ?_
    (hother _ (by decide) (by decide +kernel)) (hother _ (by decide) (by decide +kernel))
  have hnone : (∅ : FileTree).read (directory.file StateDirectory.itemsFile) = .error .notFound := by decide +kernel
  exact FileTree.read_insert (directory.file_ne_nil _) (by rw [hnone]; exact nofun) _

/-- A registry loads the document, nothing is saved but the document anew, and another registry loads it. -/
def loaded : Step (Registry × Disk) (Except StorageError Unit) := (start configuration 0).load directory.backend doubled

def saved : Step Disk (Except StorageError Nat) := directory.backend.saveItems ∅ loaded.state.2

def reloaded : Step (Registry × Disk) (Except StorageError Unit) :=
  (start configuration 1).load directory.backend saved.state

end Sample

theorem resaved_load_sample : Resaved ([Sample.ahead, Sample.behind].map reread) default Sample.loaded Sample.saved
    Sample.reloaded := by
  unfold Sample.reloaded Sample.saved Sample.loaded
  exact resaved_load Sample.contains_doubled rfl (spares_empty default) Sample.configuration Sample.configuration 0 1

/-- The save succeeds, and less was downloaded then than before. -/
theorem replaced :
    Sample.directory.Contains Sample.doubled ⟨[Sample.ahead, Sample.behind].map reread, ∅, none⟩ ∧
    Spares ∅ default ∧ Sample.loaded.answer = .ok () ∧ Sample.saved.answer.isOk = true ∧
    Sample.reloaded.answer = .ok () ∧
    Sample.loaded.state.1.items.item? default = some Sample.ahead.refreshRatio ∧
    Sample.reloaded.state.1.items.item? default = some Sample.behind.refreshRatio ∧
    Sample.behind.refreshRatio.downloaded < Sample.ahead.refreshRatio.downloaded := by
  unfold Sample.reloaded Sample.saved Sample.loaded
  obtain ⟨hloaded, hfirst, hfiles⟩ := storedCopy_loaded Sample.contains_doubled rfl Sample.configuration 0 default
  have hcontains := Sample.contains_doubled.alike hfiles.alike
  obtain ⟨hreloaded, hlast⟩ := storedCopy_resaved hcontains rfl (spares_empty default) Sample.configuration 1
  have hready : Sample.directory.Ready Sample.doubled := ⟨rfl, by decide +kernel⟩
  obtain ⟨count, hcount, -⟩ := hcontains.write_ok (hready.sameFiles hfiles.toSameFiles) (by decide) (.upserts ∅)
  rw [Write.run] at hcount
  have hsaved : (Except.ok count : Except StorageError Nat).isOk = true := rfl
  rw [← hcount] at hsaved
  rw [if_pos hsaved] at hlast
  exact ⟨Sample.contains_doubled, spares_empty default, hloaded, hsaved, hreloaded, hfirst, hlast, by decide⟩

end TransferRegistry
