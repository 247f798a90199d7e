import TransferRegistry.Proofs.Hidden
import TransferRegistry.Proofs.Storage.Collection
import TransferRegistry.Proofs.Storage.Document
import TransferRegistry.Registry.Flush

/-!
# Archives

* `Archive`: the content of the three documents, and `Archive.after` what a write makes of it.
* `Archive.copies`: what an archive keeps of one id, and `Write.effect` what a write makes of that. A write has its
  effect on every id for itself (`copies_foldl_after`), and none on an id that it does not name.
-/

namespace TransferRegistry

open Json (reread)

/-- A hidden record with the ratio of its item computed anew. -/
def HiddenRecord.refresh (record : HiddenRecord) : HiddenRecord := { record with item := record.item.refreshRatio }

/-- What is kept of one id, with the ratios computed anew. -/
structure Copies where
  item : Option Item
  record : Option HiddenRecord
deriving DecidableEq

/-- Something is kept. -/
def Copies.Alive (c : Copies) : Prop := c.item ≠ none ∨ c.record ≠ none

namespace Write

/-- The records of a write are of the ids they are stored under. -/
def WellKeyed : Write → Prop
  | .upserts changes | .removals changes =>
    ∀ (id : ItemId) (change : Change Item) (item : Item),
      changes[id]? = some change → change.result = some item → item.id = id
  | .hiddenRecords changes =>
    ∀ (id : ItemId) (change : Change HiddenRecord) (record : HiddenRecord),
      changes[id]? = some change → change.result = some record → record.Agrees id

/-- What a write makes of the copies of an id. -/
def effect (id : ItemId) (c : Copies) : Write → Copies
  | .upserts changes | .removals changes =>
    match changes[id]?.map (·.result) with
    | some result => { c with item := result.map (·.refreshRatio) }
    | none => c
  | .hiddenRecords changes =>
    match changes[id]?.map (·.result) with
    | some result => { c with record := result.map (·.refresh) }
    | none => c

end Write

/-- The content of the documents. -/
structure Archive where
  visible : Std.ExtTreeMap ItemId Item
  hidden : Std.ExtTreeMap ItemId HiddenRecord
  seeds : Option SeedConfig

namespace Archive

/-- Without documents. -/
def empty : Archive := ⟨∅, ∅, none⟩

/-- The content after a write. -/
def after (a : Archive) : Write → Archive
  | .upserts changes | .removals changes =>
    { a with visible := (applyChanges a.visible changes).map fun _ => reread }
  | .hiddenRecords changes => { a with hidden := (applyChanges a.hidden changes).map fun _ => reread }

theorem seeds_foldl_after (writes : List Write) (a : Archive) : (writes.foldl after a).seeds = a.seeds := by
  induction writes generalizing a with
  | nil => rfl
  | cons write writes ih =>
    rw [List.foldl_cons, ih]
    cases write <;> rfl

/-! ## Records under their ids -/

/-- The records are of the ids they are stored under. -/
structure WellKeyed (a : Archive) : Prop where
  visible : Keyed (·.id) a.visible
  hidden (id : ItemId) (record : HiddenRecord) : a.hidden[id]? = some record → record.Agrees id

theorem wellKeyed_empty : empty.WellKeyed where
  visible := keyed_empty _
  hidden id record h := by
    rw [empty, Std.ExtTreeMap.getElem?_empty] at h
    cases h

theorem WellKeyed.entry {a : Archive} (h : a.WellKeyed) : Keyed (·.entry.id) a.hidden :=
  fun id record hr => (h.hidden id record hr).1

theorem WellKeyed.applyVisible {a : Archive} (h : a.WellKeyed) {changes : ItemChanges}
    (hc : (Write.upserts changes).WellKeyed) : Keyed (·.id) (applyChanges a.visible changes) := h.visible.applyChanges hc

theorem WellKeyed.applyHidden {a : Archive} (h : a.WellKeyed) {changes : HiddenChanges}
    (hc : (Write.hiddenRecords changes).WellKeyed) (id : ItemId) (record : HiddenRecord)
    (hr : (applyChanges a.hidden changes)[id]? = some record) : record.Agrees id := by
  rw [getElem?_applyChanges] at hr
  cases hchange : changes[id]? with
  | none =>
    rw [hchange] at hr
    exact h.hidden id record hr
  | some change =>
    rw [hchange] at hr
    exact hc id change record hchange hr

theorem WellKeyed.after {a : Archive} (h : a.WellKeyed) {w : Write} (hw : w.WellKeyed) : (a.after w).WellKeyed := by
  cases w with
  | upserts changes => exact ⟨(h.applyVisible hw).map Item.id_reread, h.hidden⟩
  | removals changes => exact ⟨(h.applyVisible hw).map Item.id_reread, h.hidden⟩
  | hiddenRecords changes =>
    refine ⟨h.visible, fun id record hr => ?_⟩
    have hr : ((applyChanges a.hidden changes).map fun _ => reread)[id]? = some record := hr
    rw [getElem?_map_eq, Option.map_eq_some_iff] at hr
    obtain ⟨stored, hs, rfl⟩ := hr
    exact h.applyHidden hw id stored hs

/-! ## One id -/

/-- What is kept of an id. -/
def copies (a : Archive) (id : ItemId) : Copies := ⟨a.visible[id]?.map (·.refreshRatio), a.hidden[id]?.map (·.refresh)⟩

/-- What was stored after changes is read back with the ratios that are computed from it. -/
theorem map_applyChanges {α β : Type} {f : α → α} {g : α → β} (h : ∀ record, g (f record) = g record)
    (stored : Std.ExtTreeMap ItemId α) (changes : Changes α) (id : ItemId) :
    ((applyChanges stored changes).map fun _ => f)[id]?.map g =
      match changes[id]? with
      | some change => change.result.map g
      | none => stored[id]?.map g := by
  have hg : g ∘ f = g := funext h
  rw [getElem?_map_eq, Option.map_map, hg, getElem?_applyChanges]
  cases changes[id]? <;> rfl

theorem copies_after (a : Archive) (w : Write) (id : ItemId) : (a.after w).copies id = w.effect id (a.copies id) := by
  cases w with
  | upserts changes | removals changes =>
    rw [Write.effect, copies, after, map_applyChanges Item.refreshRatio_reread]
    cases changes[id]? <;> rfl
  | hiddenRecords changes =>
    have hreread : ∀ record : HiddenRecord, (reread record).refresh = record.refresh := fun _ => rfl
    rw [Write.effect, copies, after, map_applyChanges hreread]
    cases changes[id]? <;> rfl

/-- Writes have their effects on every id for itself. -/
theorem copies_foldl_after (writes : List Write) (a : Archive) (id : ItemId) :
    (writes.foldl after a).copies id = writes.foldl (fun c w => w.effect id c) (a.copies id) := by
  induction writes generalizing a with
  | nil => rfl
  | cons write writes ih => rw [List.foldl_cons, ih, copies_after, List.foldl_cons]

end Archive

end TransferRegistry
