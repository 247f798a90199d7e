import TransferRegistry.Proofs.Item.Store
import TransferRegistry.Proofs.Storage.Formats
import TransferRegistry.Proofs.Storage.Writable

/-!
# The document of the items as a map

Each request to save items reads the whole document, takes the last record of each id, and writes all of them anew.

* `merged`: the items that a request writes; each id has the record of its change, or the last one that was stored
  (`lastRecord_merged`).
* `IsMerge`: items that are stored items with a list of changes, the last of an id counting. It determines the items but
  for ratios (`IsMerge.unrated_eq`).
* `StateDirectory.saveEach`: changes that are saved one after the other. `written_saveItems` is one request,
  `written_saveEach` all of them.
* `merges_saveEach`: what is answered and loaded, and that the order of changes to different ids does not matter.
  Without any request the document is loaded as it stands (`unordered_unsaved`).
-/

namespace TransferRegistry

open Json (reread toJson)

/-! ## Records of an id -/

/-- The last record of an id. -/
def lastRecord (items : List Item) (id : ItemId) : Option Item := items.reverse.find? (·.id = id)

/-- The last of the changes of an id. -/
def lastChange (all : List ItemChanges) (id : ItemId) : Option (Change Item) :=
  all.reverse.findSome? fun (changes : ItemChanges) => changes[id]?

/-- The record of an id after changes to stored items. -/
def mergedRecord (stored : List Item) (all : List ItemChanges) (id : ItemId) : Option Item :=
  match lastChange all id with
  | some change => if change.action = .remove then none else change.record
  | none => lastRecord stored id

theorem lastChange_cons (changes : ItemChanges) (rest : List ItemChanges) (id : ItemId) :
    lastChange (changes :: rest) id = (lastChange rest id).or changes[id]? := by
  unfold lastChange
  rw [List.reverse_cons, List.findSome?_append, List.findSome?_singleton]

theorem result_eq (change : Change Item) :
    change.result = if change.action = .remove then none else change.record := by
  obtain ⟨record, action⟩ := change
  cases action <;> rfl

theorem lastRecord_unrated (items : List Item) (id : ItemId) :
    lastRecord (items.map unrated) id = (lastRecord items id).map unrated := by
  unfold lastRecord
  rw [← List.map_reverse, List.find?_map]
  rfl

theorem lastRecord_reread (items : List Item) (id : ItemId) :
    (lastRecord (items.map reread) id).map unrated = (lastRecord items id).map unrated := by
  rw [← lastRecord_unrated, ← lastRecord_unrated]
  exact congrArg (lastRecord · id) (Rated.unrated_reread items)

/-- In an ascending list the last record of an id is the only one. -/
theorem Ascending.lastRecord_eq_some_iff {items : List Item} (h : Ascending items) {item : Item} :
    lastRecord items item.id = some item ↔ item ∈ items := by
  unfold lastRecord
  rw [find?_reverse_of_nodup h.nodup, find?_eq_some_iff_of_nodup h.nodup]
  simp

theorem Ascending.unrated {items : List Item} (h : Ascending items) : Ascending (items.map unrated) := by
  unfold Ascending
  rw [List.pairwise_map]
  exact h

/-! ## Merged items -/

/-- The items that are written for changes to stored items. -/
def merged (stored : List Item) (changes : ItemChanges) : List Item :=
  (applyChanges (byId (·.id) stored) changes).values

section

variable {stored : List Item} {changes : ItemChanges}

theorem keyed_merged (hkeyed : (Write.upserts changes).WellKeyed) :
    Keyed (·.id) (applyChanges (byId (fun item : Item => item.id) stored) changes) :=
  (keyed_byId _ stored).applyChanges hkeyed

theorem ascending_merged (hkeyed : (Write.upserts changes).WellKeyed) : Ascending (merged stored changes) :=
  (keyed_merged hkeyed).ascending_values

theorem lastRecord_merged (hkeyed : (Write.upserts changes).WellKeyed) (id : ItemId) :
    lastRecord (merged stored changes) id = mergedRecord stored [changes] id := by
  unfold lastRecord merged mergedRecord
  rw [(keyed_merged hkeyed).find?_reverse_values, getElem?_applyChanges, getElem?_byId, lastChange_cons]
  cases changes[id]? with
  | none => rfl
  | some change => exact result_eq change

end

/-- Items are the stored ones with changes, but for ratios. Without changes they are the stored ones as they stand;
with some they are in the order of their ids. -/
structure IsMerge (stored : List Item) (all : List ItemChanges) (items : List Item) : Prop where
  unchanged : all = [] → items = stored
  ascending : all ≠ [] → Ascending items
  record : ∀ id, (lastRecord items id).map unrated = (mergedRecord stored all id).map unrated

namespace IsMerge

variable {stored items : List Item} {all : List ItemChanges}

theorem single {changes : ItemChanges} (hkeyed : (Write.upserts changes).WellKeyed) :
    IsMerge stored [changes] (merged stored changes) where
  unchanged := nofun
  ascending _ := ascending_merged hkeyed
  record id := by rw [lastRecord_merged hkeyed]

/-- What was written first is read again for the changes that follow. -/
theorem cons {changes : ItemChanges} (hkeyed : (Write.upserts changes).WellKeyed) (hne : all ≠ [])
    (h : IsMerge ((merged stored changes).map reread) all items) : IsMerge stored (changes :: all) items where
  unchanged := nofun
  ascending _ := h.ascending hne
  record id := by
    rw [h.record id]
    unfold mergedRecord
    rw [lastChange_cons]
    cases lastChange all id with
    | some change => rfl
    | none =>
      simp only [Option.none_or]
      rw [lastRecord_reread, lastRecord_merged hkeyed]
      unfold mergedRecord
      rw [lastChange_cons]
      rfl

theorem reread (h : IsMerge stored all items) (hne : all ≠ []) : IsMerge stored all (items.map reread) where
  unchanged hall := absurd hall hne
  ascending _ := by
    unfold Ascending
    rw [List.pairwise_map]
    exact h.ascending hne
  record id := by rw [lastRecord_reread, h.record]

/-- The records determine the items, but for ratios. -/
theorem unrated_eq {others : List Item} {others' : List ItemChanges} (h : IsMerge stored all items)
    (h' : IsMerge stored others' others) (hne : all ≠ []) (hne' : others' ≠ [])
    (hrecord : ∀ id, mergedRecord stored all id = mergedRecord stored others' id) :
    items.map unrated = others.map unrated := by
  have hitems := (h.ascending hne).unrated
  have hothers := (h'.ascending hne').unrated
  apply hitems.ext hothers
  intro item
  rw [← hitems.lastRecord_eq_some_iff, ← hothers.lastRecord_eq_some_iff, lastRecord_unrated, lastRecord_unrated,
    h.record, h'.record, hrecord]

end IsMerge

/-! ## Changes to different ids -/

/-- No id is named in both. -/
def Apart (first second : ItemChanges) : Prop := ∀ id : ItemId, first[id]? = none ∨ second[id]? = none

/-- Two sets of changes at once, or one after the other in either order. -/
def orders (first second : ItemChanges) : List (List ItemChanges) :=
  [[first ∪ second], [first, second], [second, first]]

theorem wellKeyed_union {first second : ItemChanges} (hfirst : (Write.upserts first).WellKeyed)
    (hsecond : (Write.upserts second).WellKeyed) : (Write.upserts (first ∪ second)).WellKeyed := by
  intro id change item hchange hresult
  rw [Std.ExtTreeMap.getElem?_union, Option.or_eq_some_iff] at hchange
  rcases hchange with hchange | ⟨-, hchange⟩
  · exact hsecond id change item hchange hresult
  · exact hfirst id change item hchange hresult

theorem Apart.lastChange_eq {first second : ItemChanges} (h : Apart first second) {all : List ItemChanges}
    (hall : all ∈ orders first second) (id : ItemId) : lastChange all id = first[id]?.or second[id]? := by
  have hswap : second[id]?.or first[id]? = first[id]?.or second[id]? := by
    rcases h id with hnone | hnone <;> rw [hnone, Option.none_or, Option.or_none]
  have hnil : lastChange [] id = none := rfl
  simp only [orders, List.mem_cons, List.not_mem_nil, or_false] at hall
  rcases hall with rfl | rfl | rfl <;>
    simp only [lastChange_cons, hnil, Option.none_or, Std.ExtTreeMap.getElem?_union, hswap]

theorem Apart.mergedRecord_eq {first second : ItemChanges} (h : Apart first second) {all others : List ItemChanges}
    (hall : all ∈ orders first second) (hothers : others ∈ orders first second) (stored : List Item) (id : ItemId) :
    mergedRecord stored all id = mergedRecord stored others id := by
  unfold mergedRecord
  rw [h.lastChange_eq hall, h.lastChange_eq hothers]

theorem ne_nil_of_mem_orders {first second : ItemChanges} {all : List ItemChanges} (hall : all ∈ orders first second) :
    all ≠ [] := by
  rintro rfl
  simp [orders] at hall

theorem wellKeyed_of_mem_orders {first second : ItemChanges} (hfirst : (Write.upserts first).WellKeyed)
    (hsecond : (Write.upserts second).WellKeyed) {all : List ItemChanges} (hall : all ∈ orders first second) :
    ∀ changes ∈ all, (Write.upserts changes).WellKeyed := by
  intro changes hchanges
  simp only [orders, List.mem_cons, List.not_mem_nil, or_false] at hall
  rcases hall with rfl | rfl | rfl <;> simp only [List.mem_cons, List.not_mem_nil, or_false] at hchanges
  · rw [hchanges]
    exact wellKeyed_union hfirst hsecond
  · rcases hchanges with rfl | rfl
    · exact hfirst
    · exact hsecond
  · rcases hchanges with rfl | rfl
    · exact hsecond
    · exact hfirst

/-! ## Ratios in the text -/

/-- What is written of an item but for its ratio does not depend on the ratio. -/
theorem masked_unrated (item : Item) : (toJson (unrated item)).masked = (toJson item).masked := by
  apply Json.masked_record_congr
  repeat first
    | exact .nil
    | refine .cons ⟨rfl, Or.inl rfl⟩ ?_
    | refine .cons ⟨rfl, Or.inr rfl⟩ ?_

theorem masked_items (items : List Item) : (toJson (items.map unrated)).masked = (toJson items).masked := by
  show (Json.arr ((items.map unrated).map toJson)).masked = (Json.arr (items.map toJson)).masked
  rw [Json.masked, Json.masked, Json.maskedElements_eq_map, Json.maskedElements_eq_map, List.map_map, List.map_map,
    List.map_map]
  exact congrArg Json.arr (List.map_congr_left fun item _ => masked_unrated item)

/-- Documents of items that are the same but for ratios are the same but for ratios. -/
theorem sameButRatio_items {items others : List Item} (h : items.map unrated = others.map unrated) :
    SameButRatio (⟨stateVersion, items⟩ : StateDocument (List Item)) ⟨stateVersion, others⟩ := by
  have hdata : (toJson others).masked = (toJson items).masked := by rw [← masked_items, ← h, masked_items]
  have hmasked : (toJson (⟨stateVersion, others⟩ : StateDocument (List Item))).masked =
      (toJson (⟨stateVersion, items⟩ : StateDocument (List Item))).masked :=
    Json.masked_record_congr (.cons ⟨rfl, Or.inr rfl⟩ (.cons ⟨rfl, Or.inr hdata⟩ .nil))
  exact ⟨congrArg (StateDocument.mk stateVersion) h.symm, by rw [hmasked], by rw [hmasked]⟩

namespace StateDirectory

open DiskAction (on_bind call_eq)

/-! ## Requests -/

variable (dir : StateDirectory)

/-- The items of a tree of files; none where there is no document. -/
def itemsIn (t : FileTree) : Except StorageError (List Item) := (dir.document t itemsFile).map (·.getD [])

/-- Saves changes one after the other; gives the answers and the disk at the end. -/
def saveEach : List ItemChanges → Disk → List (Except StorageError Nat) × Disk
  | [], d => ([], d)
  | changes :: rest, d =>
    let saved := dir.backend.saveItems changes d
    let (answers, after) := saveEach rest saved.state
    (saved.answer :: answers, after)

/-- The files fail none of the requests. -/
def Smooth (d : Disk) (all : List ItemChanges) : Prop := .error .io ∉ (dir.saveEach all d).1

variable {dir} {d : Disk} {stored : List Item}

theorem itemsIn_of_read {t : FileTree} {items : List Item}
    (h : t.read (dir.file itemsFile) = .ok (StateDocument.bytes items)) : dir.itemsIn t = .ok (items.map reread) := by
  unfold itemsIn document
  rw [h]
  show ((StateDocument.ofBytes itemsFile (StateDocument.bytes items)).map some).map (·.getD []) = _
  rw [StateDocument.ofBytes_bytes]
  rfl

/-- What the files do not fail is done, and the document has the merged items. -/
theorem written_saveItems (h : dir.itemsIn d.files = .ok stored) {changes : ItemChanges}
    (hio : (dir.backend.saveItems changes d).answer ≠ .error .io) :
    (dir.backend.saveItems changes d).answer = .ok changes.size ∧
      (dir.backend.saveItems changes d).state.files.read (dir.file itemsFile) =
        .ok (StateDocument.bytes (merged stored changes)) := by
  have hread : d.files.read (dir.file itemsFile) ≠ .error .other := by
    intro hother
    unfold itemsIn document at h
    rw [hother] at h
    cases h
  obtain ⟨answer, d', hwrite, -, -, hdone⟩ :=
    dir.on_writeDocument itemsFile_mem (merged stored changes) { d with log := [] }
  have hon : (dir.saveItems changes).on { d with log := [] } = (answer.map fun _ => changes.size, d') := by
    unfold saveItems
    rw [on_bind, on_loadItems]
    have hitems : (dir.document d.files itemsFile).map (·.getD []) = .ok stored := h
    simp only [hitems]
    rw [on_bind]
    have hwrite : (dir.writeDocument itemsFile (applyChanges (byId (·.id) stored) changes).values).on
        { d with log := [] } = (answer, d') := hwrite
    rw [hwrite]
    cases answer <;> rfl
  obtain ⟨hanswer, hstate⟩ := call_eq hon
  have hanswer : (dir.backend.saveItems changes d).answer = answer.map fun _ => changes.size := hanswer
  have hstate : (dir.backend.saveItems changes d).state = d' := hstate
  cases answer with
  | error e =>
    rw [hdone.1] at hanswer
    exact absurd hanswer hio
  | ok _ =>
    rw [hstate]
    exact ⟨hanswer, hdone hread⟩

/-- After requests that the files do not fail, the document has the stored items with all the changes. -/
theorem written_saveEach (rest : List ItemChanges) (changes : ItemChanges)
    (hkeyed : ∀ c ∈ changes :: rest, (Write.upserts c).WellKeyed) (h : dir.itemsIn d.files = .ok stored)
    (hsmooth : dir.Smooth d (changes :: rest)) :
    (dir.saveEach (changes :: rest) d).1 = (changes :: rest).map (fun c => .ok c.size) ∧
      ∃ items, (dir.saveEach (changes :: rest) d).2.files.read (dir.file itemsFile) = .ok (StateDocument.bytes items) ∧
        IsMerge stored (changes :: rest) items := by
  induction rest generalizing changes d stored with
  | nil =>
    obtain ⟨hanswer, hread⟩ := written_saveItems h fun hio => hsmooth (List.mem_singleton.2 hio.symm)
    exact ⟨congrArg ([·]) hanswer, merged stored changes, hread, .single (hkeyed changes List.mem_cons_self)⟩
  | cons next rest ih =>
    obtain ⟨hanswer, hread⟩ := written_saveItems h fun hio => hsmooth (hio ▸ List.mem_cons_self)
    obtain ⟨hanswers, items, hitems, hmerge⟩ := ih next (fun c hc => hkeyed c (List.mem_cons_of_mem _ hc))
      (itemsIn_of_read hread) fun hio => hsmooth (List.mem_cons_of_mem _ hio)
    refine ⟨?_, items, hitems, hmerge.cons (hkeyed changes List.mem_cons_self) (List.cons_ne_nil _ _)⟩
    rw [List.map_cons, ← hanswers, ← hanswer]
    rfl

theorem itemsIn_of_loads (h : (dir.backend.loadItems d).answer = .ok stored) : dir.itemsIn d.files = .ok stored :=
  (dir.loadItems_eq d).1.symm.trans h

theorem loads_of_itemsIn (h : dir.itemsIn d.files = .ok stored) : (dir.backend.loadItems d).answer = .ok stored :=
  (dir.loadItems_eq d).1.trans h

/-- Files that can be written fail no request. -/
theorem smooth_of_ready (all : List ItemChanges) (h : dir.itemsIn d.files = .ok stored) (hready : dir.Ready d) :
    dir.Smooth d all := by
  induction all generalizing d stored with
  | nil => exact List.not_mem_nil
  | cons changes rest ih =>
    obtain ⟨d', hon, hafter⟩ := on_saveItems_ok (d := { d with log := [] }) h hready.unlogged changes
    obtain ⟨hanswer, hstate⟩ := call_eq hon
    have hanswer : (dir.backend.saveItems changes d).answer = .ok changes.size := hanswer
    have hstate : (dir.backend.saveItems changes d).state = d' := hstate
    have hok : (dir.backend.saveItems changes d).answer ≠ .error .io := by
      rw [hanswer]
      exact nofun
    have hread := (written_saveItems h hok).2
    intro hio
    rcases List.mem_cons.1 hio with hfirst | hrest
    · exact nomatch hfirst.trans hanswer
    · exact ih (itemsIn_of_read hread) (hstate ▸ hafter) hrest

/-! ## Results -/

/-- Each request has answered how many changes it was, and the items that are loaded then are the stored ones with all
the changes; without any request, the very items that were stored. -/
structure Merges (dir : StateDirectory) (d : Disk) (stored : List Item) (all : List ItemChanges) : Prop where
  answers : (dir.saveEach all d).1 = all.map fun changes => .ok changes.size
  loads : ∃ listed, (dir.backend.loadItems (dir.saveEach all d).2).answer = .ok listed ∧ IsMerge stored all listed

/-- Two disks have documents of items that are the same but for ratios. -/
def SameItems (dir : StateDirectory) (d d' : Disk) : Prop :=
  ∃ items others, d.files.read (dir.file itemsFile) = .ok (StateDocument.bytes items) ∧
    d'.files.read (dir.file itemsFile) = .ok (StateDocument.bytes others) ∧
    SameButRatio (⟨stateVersion, items⟩ : StateDocument (List Item)) ⟨stateVersion, others⟩

/-- **To save items is to merge them by their ids.** Whatever is stored, requests that the files do not fail put the
last change of each id in the place of its record and leave the others; changes to different ids may be saved at once
or in any order. -/
theorem merges_saveEach (hload : (dir.backend.loadItems d).answer = .ok stored) :
    (∀ all, (∀ changes ∈ all, (Write.upserts changes).WellKeyed) → dir.Smooth d all → dir.Merges d stored all) ∧
      ∀ first second, (Write.upserts first).WellKeyed → (Write.upserts second).WellKeyed → Apart first second →
        ∀ one ∈ orders first second, ∀ other ∈ orders first second, dir.Smooth d one → dir.Smooth d other →
          dir.SameItems (dir.saveEach one d).2 (dir.saveEach other d).2 := by
  have hitems := itemsIn_of_loads hload
  constructor
  · intro all hkeyed hsmooth
    cases all with
    | nil => exact ⟨rfl, stored, hload, fun _ => rfl, fun hne => absurd rfl hne, fun id => rfl⟩
    | cons changes rest =>
      obtain ⟨hanswers, items, hread, hmerge⟩ := written_saveEach rest changes hkeyed hitems hsmooth
      exact ⟨hanswers, items.map reread, loads_of_itemsIn (itemsIn_of_read hread), hmerge.reread (List.cons_ne_nil _ _)⟩
  · intro first second hfirst hsecond hapart one hone other hother hsmooth hsmooth'
    have hwritten : ∀ all ∈ orders first second, dir.Smooth d all →
        ∃ items, (dir.saveEach all d).2.files.read (dir.file itemsFile) = .ok (StateDocument.bytes items) ∧
          IsMerge stored all items := by
      intro all hall hsmooth
      have hkeyed := wellKeyed_of_mem_orders hfirst hsecond hall
      cases all with
      | nil => exact absurd rfl (ne_nil_of_mem_orders hall)
      | cons changes rest => exact (written_saveEach rest changes hkeyed hitems hsmooth).2
    obtain ⟨items, hread, hmerge⟩ := hwritten one hone hsmooth
    obtain ⟨others, hread', hmerge'⟩ := hwritten other hother hsmooth'
    have hsame := hmerge.unrated_eq hmerge' (ne_nil_of_mem_orders hone) (ne_nil_of_mem_orders hother)
      (hapart.mergedRecord_eq hone hother stored)
    exact ⟨items, others, hread, hread', sameButRatio_items hsame⟩

namespace Sample

/-- An item; every byte of its id is the same. -/
def entry (b : UInt8) : Item := .fresh ⟨.replicate 32 b⟩ "item" 10

/-- A document in which the second id comes first. -/
def shuffled : Disk :=
  .start ⟨(∅ : FileTree).nodes.insert (vault.file itemsFile) (.file (StateDocument.bytes [entry 2, entry 1]))⟩ none
    default

/-- The first item is removed, and a third one is added. -/
def leaving : ItemChanges := (∅ : ItemChanges).insert (entry 1).id ⟨some (entry 1), .remove⟩

def coming : ItemChanges := (∅ : ItemChanges).insert (entry 3).id ⟨some (entry 3), .add⟩

theorem loads_shuffled :
    (vault.backend.loadItems shuffled).answer = .ok [entry 2, entry 1] ∧ vault.Ready shuffled := by
  have hread : shuffled.files.read (vault.file itemsFile) = .ok (StateDocument.bytes [entry 2, entry 1]) := by
    apply FileTree.read_insert (vault.file_ne_nil _)
    have hnone : (∅ : FileTree).read (vault.file itemsFile) = .error .notFound := by decide +kernel
    rw [hnone]
    exact nofun
  have hreread : [entry 2, entry 1].map reread = [entry 2, entry 1] := by decide +kernel
  have hitems := itemsIn_of_read hread
  rw [hreread] at hitems
  exact ⟨loads_of_itemsIn hitems, rfl, by decide +kernel⟩

theorem wellKeyed_single {item : Item} {action : UpdatesAction} :
    (Write.upserts ((∅ : ItemChanges).insert item.id ⟨some item, action⟩)).WellKeyed := by
  intro id change other hchange hresult
  rw [Std.ExtTreeMap.getElem?_insert] at hchange
  split at hchange
  · rename_i hid
    obtain rfl := Option.some.inj hchange
    have hother : some item = some other := by
      cases action with
      | remove => cases hresult
      | _ => exact hresult
    rw [← Option.some.inj hother]
    exact Std.compare_eq_iff_eq.1 hid
  · rw [Std.ExtTreeMap.getElem?_empty] at hchange
    cases hchange

end Sample

/-- An item leaves and another one comes, in either order. -/
theorem merges_saveEach_shuffled :
    Sample.vault.Merges Sample.shuffled [Sample.entry 2, Sample.entry 1] [Sample.leaving, Sample.coming] ∧
      Sample.vault.SameItems (Sample.vault.saveEach [Sample.leaving, Sample.coming] Sample.shuffled).2
        (Sample.vault.saveEach [Sample.coming, Sample.leaving] Sample.shuffled).2 := by
  obtain ⟨hload, hready⟩ := Sample.loads_shuffled
  have hsmooth : ∀ all, Sample.vault.Smooth Sample.shuffled all := fun all =>
    smooth_of_ready all (itemsIn_of_loads hload) hready
  have hleaving : (Write.upserts Sample.leaving).WellKeyed := Sample.wellKeyed_single
  have hcoming : (Write.upserts Sample.coming).WellKeyed := Sample.wellKeyed_single
  have hapart : Apart Sample.leaving Sample.coming := by
    intro id
    unfold Sample.leaving Sample.coming
    rw [Std.ExtTreeMap.getElem?_insert, Std.ExtTreeMap.getElem?_insert]
    by_cases hid : (Sample.entry 1).id = id
    · subst hid
      exact Or.inr (by decide +kernel)
    · exact Or.inl (by rw [if_neg (by rwa [Std.compare_eq_iff_eq]), Std.ExtTreeMap.getElem?_empty])
  obtain ⟨hmerges, hsame⟩ := merges_saveEach hload
  refine ⟨hmerges _ ?_ (hsmooth _), hsame _ _ hleaving hcoming hapart _ ?_ _ ?_ (hsmooth _) (hsmooth _)⟩
  · intro changes hchanges
    simp only [List.mem_cons, List.not_mem_nil, or_false] at hchanges
    rcases hchanges with rfl | rfl
    · exact hleaving
    · exact hcoming
  · simp [orders]
  · simp [orders]

/-- Where nothing is saved, the items are loaded in the order in which they stand. -/
theorem unordered_unsaved :
    (Sample.vault.backend.loadItems Sample.shuffled).answer = .ok [Sample.entry 2, Sample.entry 1] ∧
      Sample.vault.Smooth Sample.shuffled [] ∧
      (Sample.vault.backend.loadItems (Sample.vault.saveEach [] Sample.shuffled).2).answer =
        .ok [Sample.entry 2, Sample.entry 1] ∧
      ¬Ascending [Sample.entry 2, Sample.entry 1] := by
  obtain ⟨hload, hready⟩ := Sample.loads_shuffled
  refine ⟨hload, smooth_of_ready [] (itemsIn_of_loads hload) hready, hload, ?_⟩
  intro hascending
  have hlt := List.rel_of_pairwise_cons hascending (List.mem_singleton_self _)
  revert hlt
  decide +kernel

end StateDirectory

end TransferRegistry
