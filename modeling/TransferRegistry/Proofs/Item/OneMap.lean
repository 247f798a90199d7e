import TransferRegistry.Proofs.Item.Store
import TransferRegistry.Proofs.Storage.Collection

/-!
# The store in use

A new store answers any requests as one map of the records does, and its handles follow their slots.

* `StoreRequest`, `StoreAnswer`: what is asked of a store. `HeldStore.serve` answers from the shards, `ItemMap.serve`
  from one map; `serveAll` is many requests, one after the other.
* `Store.Represents`: a store has the records of a map. `Represents.put` and `Represents.remove` are the two changes,
  `Represents.serve` is one request, and `represents_after` all of them.
* `getElem?_handles_serve`: a handle changes only when the item of its slot is removed (`getElem?_handles_remove_self`).
* `serves_as_one_map`: the answers, the list, the slots and the handles of every run.
-/

namespace TransferRegistry

variable {α ρ σ : Type}

/-! ## Requests -/

/-- A change of a record that leaves its id alone, and gives an answer. -/
structure RecordChange (α : Type) where
  apply : Item → α × Item
  id_eq : ∀ item, (apply item).2.id = item.id

/-- The state is set; the answer is the state before. -/
def RecordChange.setState (state : ItemState) : RecordChange ItemState where
  apply item := (item.state, { item with state })
  id_eq _ := rfl

/-- What can be asked of a store. -/
inductive StoreRequest (α : Type) where
  | insert (item : Item)
  | remove (id : ItemId)
  | get (id : ItemId)
  | updateState (id : ItemId) (state : ItemState)
  | read (id : ItemId) (look : Item → α)
  | change (id : ItemId) (f : RecordChange α)
  | contains (id : ItemId)
  | list
  | size
  | isEmpty
  | hold (id : ItemId)

inductive StoreAnswer (α : Type) where
  | done (outcome : Except ItemError Unit)
  | removed (last : Option Item)
  | record (outcome : Except ItemError Item)
  | previous (outcome : Except ItemError ItemState)
  | told (outcome : Except ItemError α)
  | truth (b : Bool)
  | records (items : List Item)
  | count (n : Nat)

/-- The answers to requests, one after the other, and what there is afterwards. -/
def serveAll (serve : σ → StoreRequest α → StoreAnswer α × σ) (s : σ) : List (StoreRequest α) → List (StoreAnswer α) × σ
  | [] => ([], s)
  | q :: rest =>
    let (answer, s) := serve s q
    let (answers, s) := serveAll serve s rest
    (answer :: answers, s)

theorem serveAll_append (serve : σ → StoreRequest α → StoreAnswer α × σ) (s : σ)
    (first second : List (StoreRequest α)) :
    (serveAll serve s (first ++ second)).2 = (serveAll serve (serveAll serve s first).2 second).2 := by
  induction first generalizing s with
  | nil => rfl
  | cons q rest ih => exact ih (serve s q).2

/-- What each request of a list keeps is kept by all of them. -/
theorem serveAll_induction {P : σ → Prop} {serve : σ → StoreRequest α → StoreAnswer α × σ}
    {requests : List (StoreRequest α)} (hstep : ∀ s, ∀ q ∈ requests, P s → P (serve s q).2) {s : σ} (h : P s) :
    P (serveAll serve s requests).2 := by
  induction requests generalizing s with
  | nil => exact h
  | cons q rest ih =>
    exact ih (fun s q hq => hstep s q (List.mem_cons_of_mem _ hq)) (hstep s q List.mem_cons_self h)

namespace HeldStore

/-- The handles stay when the store is another one. -/
def keep (held : HeldStore) : Except ItemError (ρ × Store) → Except ItemError ρ × HeldStore
  | .ok (answer, store) => (.ok answer, { held with store })
  | .error e => (.error e, held)

def serve (held : HeldStore) : StoreRequest α → StoreAnswer α × HeldStore
  | .insert item =>
    let (outcome, held) := held.keep (((), ·) <$> held.store.insert item)
    (.done outcome, held)
  | .remove id => (.removed ((held.store.slot? id).map (·.item)), held.remove id)
  | .get id => (.record (held.store.get id), held)
  | .updateState id state =>
    let (outcome, held) := held.keep (held.store.updateState id state)
    (.previous outcome, held)
  | .read id look => (.told (held.store.read id look), held)
  | .change id f =>
    let (outcome, held) := held.keep (held.store.change id f.apply)
    (.told outcome, held)
  | .contains id => (.truth (held.store.contains id), held)
  | .list => (.records held.store.toList, held)
  | .size => (.count held.store.size, held)
  | .isEmpty => (.truth held.store.isEmpty, held)
  | .hold id =>
    match held.hold id with
    | some (_, held) => (.truth true, held)
    | none => (.truth false, held)

/-- A new store after requests. -/
def after (requests : List (StoreRequest α)) : HeldStore := (serveAll serve .empty requests).2

end HeldStore

/-- One map of the records. -/
abbrev ItemMap := Std.ExtTreeMap ItemId Item

namespace ItemMap

def record (m : ItemMap) (id : ItemId) : Except ItemError Item :=
  match m[id]? with
  | some item => .ok item
  | none => .error (.notFound id)

def change (m : ItemMap) (id : ItemId) (f : RecordChange ρ) : Except ItemError ρ × ItemMap :=
  match m[id]? with
  | some item => (.ok (f.apply item).1, m.insert id (f.apply item).2)
  | none => (.error (.notFound id), m)

def serve (m : ItemMap) : StoreRequest α → StoreAnswer α × ItemMap
  | .insert item =>
    if item.id ∈ m then (.done (.error (.alreadyExists item.id)), m)
    else (.done (.ok ()), m.insert item.id item.refreshRatio)
  | .remove id => (.removed m[id]?, m.erase id)
  | .get id => (.record (record m id), m)
  | .updateState id state =>
    let (outcome, m) := change m id (.setState state)
    (.previous outcome, m)
  | .read id look => (.told (look <$> record m id), m)
  | .change id f =>
    let (outcome, m) := change m id f
    (.told outcome, m)
  | .contains id => (.truth (m.contains id), m)
  | .list => (.records m.values, m)
  | .size => (.count m.size, m)
  | .isEmpty => (.truth m.isEmpty, m)
  | .hold id => (.truth (m.contains id), m)

/-- An empty map after requests. -/
def after (requests : List (StoreRequest α)) : ItemMap := (serveAll serve ∅ requests).2

/-- A record stays until it is removed. -/
theorem mem_serve {m : ItemMap} {id : ItemId} {q : StoreRequest α} (h : id ∈ m) (hq : q ≠ .remove id) :
    id ∈ (serve m q).2 := by
  have hinsert : ∀ other item, id ∈ m.insert other item := fun other item =>
    Std.ExtTreeMap.mem_insert.2 (Or.inr h)
  have hchange : ∀ {ρ : Type} (other : ItemId) (f : RecordChange ρ), id ∈ (change m other f).2 := by
    intro ρ other f
    unfold change
    split
    · exact hinsert _ _
    · exact h
  cases q with
  | insert item =>
    simp only [serve]
    split
    · exact h
    · exact hinsert _ _
  | remove other =>
    apply Std.ExtTreeMap.mem_erase.2
    refine ⟨?_, h⟩
    rw [ne_eq, Std.compare_eq_iff_eq]
    intro hother
    exact hq (congrArg StoreRequest.remove hother)
  | updateState other state => exact hchange other (.setState state)
  | change other f => exact hchange other f
  | _ => exact h

theorem mem_serveAll {m : ItemMap} {id : ItemId} {requests : List (StoreRequest α)} (h : id ∈ m)
    (hrequests : .remove id ∉ requests) : id ∈ (serveAll serve m requests).2 := by
  refine serveAll_induction (P := fun m : ItemMap => id ∈ m) (fun m q hq hid => mem_serve hid ?_) h
  rintro rfl
  exact hrequests hq

end ItemMap

/-! ## A store and its map -/

namespace Store

/-- A store has the records of a map. -/
structure Represents (store : Store) (m : ItemMap) : Prop where
  tidy : store.Tidy
  item?_eq : ∀ id, store.item? id = m[id]?

variable {store : Store} {m : ItemMap}

theorem represents_empty : Represents ∅ ∅ where
  tidy := empty_tidy
  item?_eq id := by rw [item?_empty, Std.ExtTreeMap.getElem?_empty]

namespace Represents

theorem put (h : store.Represents m) {id : ItemId} {item : Item} (hid : item.id = id) :
    (store.put id item).Represents (m.insert id item) where
  tidy := h.tidy.put hid
  item?_eq other := by simp only [item?_put, Std.ExtTreeMap.getElem?_insert, Std.compare_eq_iff_eq, h.item?_eq]

theorem remove (h : store.Represents m) (id : ItemId) : (store.remove id).Represents (m.erase id) where
  tidy := h.tidy.remove id
  item?_eq other := by simp only [item?_remove, Std.ExtTreeMap.getElem?_erase, Std.compare_eq_iff_eq, h.item?_eq]

theorem slot?_eq (h : store.Represents m) (id : ItemId) : (store.slot? id).map (·.item) = m[id]? := by
  rw [← h.tidy.item?_eq, h.item?_eq]

theorem keyed (h : store.Represents m) : Keyed (·.id) m := by
  intro id item hitem
  rw [← h.item?_eq] at hitem
  exact h.tidy.id_eq id _ (slot?_of_item? hitem)

theorem contains_eq (h : store.Represents m) (id : ItemId) : store.contains id = m.contains id := by
  rw [contains_eq_isSome, ← Option.isSome_map, h.slot?_eq, Std.ExtTreeMap.isSome_getElem?_eq_contains]

theorem get_eq (h : store.Represents m) (id : ItemId) : store.get id = ItemMap.record m id := by
  cases hitem : m[id]? with
  | none => simp only [get, ItemMap.record, h.item?_eq, hitem]
  | some item => simp only [get, ItemMap.record, h.item?_eq, hitem]

theorem toList_eq (h : store.Represents m) : store.toList = m.values := by
  apply h.tidy.ascending_toList.ext h.keyed.ascending_values
  intro item
  rw [h.tidy.mem_toList, h.item?_eq, h.keyed.mem_values]

theorem size_eq (h : store.Represents m) : store.size = m.size := by
  rw [← h.tidy.length_toList, h.toList_eq, values_eq, List.length_map, Std.ExtTreeMap.length_toList]

theorem isEmpty_eq (h : store.Represents m) : store.isEmpty = m.isEmpty := by
  have hzero : store.isEmpty ↔ store.size = 0 := by
    rw [isEmpty, List.all_eq_true, size_eq_sum, List.sum_eq_zero_iff_forall_eq_nat, List.forall_mem_map]
    simp only [Std.ExtTreeMap.isEmpty_iff, Std.ExtTreeMap.eq_empty_iff_size_eq_zero]
  rw [Bool.eq_iff_iff, hzero, h.size_eq, Std.ExtTreeMap.isEmpty_iff, Std.ExtTreeMap.eq_empty_iff_size_eq_zero]

/-- A change of a record answers the same, and leaves the same records. -/
theorem change {held : HeldStore} (h : held.store.Represents m) (id : ItemId) (f : RecordChange ρ) :
    (held.keep (held.store.change id f.apply)).1 = (ItemMap.change m id f).1 ∧
      (held.keep (held.store.change id f.apply)).2.store.Represents (ItemMap.change m id f).2 := by
  unfold Store.change ItemMap.change
  rw [h.get_eq, ItemMap.record]
  cases hitem : m[id]? with
  | none => exact ⟨rfl, h⟩
  | some item => exact ⟨rfl, h.put ((f.id_eq item).trans (h.keyed id item hitem))⟩

end Represents

end Store

theorem HeldStore.store_remove (held : HeldStore) (id : ItemId) : (held.remove id).store = held.store.remove id := by
  unfold remove
  split
  · rename_i hnone
    rw [Store.remove_of_none hnone]
  · rfl

open Store (Represents)

/-- A request is answered as by the map, and the store that is left has the records of the map that is left. -/
theorem Store.Represents.serve {held : HeldStore} {m : ItemMap} (h : held.store.Represents m) (q : StoreRequest α) :
    (held.serve q).1 = (ItemMap.serve m q).1 ∧ (held.serve q).2.store.Represents (ItemMap.serve m q).2 := by
  cases q with
  | insert item =>
    have hmem : item.id ∈ m ↔ (held.store.item? item.id).isSome := by
      rw [Std.ExtTreeMap.mem_iff_isSome_getElem?, h.item?_eq]
    simp only [HeldStore.serve, ItemMap.serve]
    rcases h.tidy.insert_cases item with ⟨hnone, hok⟩ | ⟨stored, hsome, herror⟩
    · rw [hok, if_neg (by rw [hmem, hnone]; exact nofun)]
      exact ⟨rfl, h.put rfl⟩
    · rw [herror, if_pos (by rw [hmem, hsome]; rfl)]
      exact ⟨rfl, h⟩
  | remove id =>
    refine ⟨congrArg StoreAnswer.removed (h.slot?_eq id), ?_⟩
    show (held.remove id).store.Represents (m.erase id)
    rw [held.store_remove]
    exact h.remove id
  | get id => exact ⟨congrArg StoreAnswer.record (h.get_eq id), h⟩
  | updateState id state =>
    obtain ⟨hanswer, hleft⟩ := h.change id (.setState state)
    exact ⟨congrArg StoreAnswer.previous hanswer, hleft⟩
  | read id look => exact ⟨congrArg (fun record => StoreAnswer.told (look <$> record)) (h.get_eq id), h⟩
  | change id f =>
    obtain ⟨hanswer, hleft⟩ := h.change id f
    exact ⟨congrArg StoreAnswer.told hanswer, hleft⟩
  | contains id => exact ⟨congrArg StoreAnswer.truth (h.contains_eq id), h⟩
  | list => exact ⟨congrArg StoreAnswer.records h.toList_eq, h⟩
  | size => exact ⟨congrArg StoreAnswer.count h.size_eq, h⟩
  | isEmpty => exact ⟨congrArg StoreAnswer.truth h.isEmpty_eq, h⟩
  | hold id =>
    simp only [HeldStore.serve, HeldStore.hold, ItemMap.serve]
    rw [h.contains_eq]
    cases m.contains id with
    | false => exact ⟨rfl, h⟩
    | true => exact ⟨rfl, h⟩

theorem Store.Represents.serveAll {held : HeldStore} {m : ItemMap} (h : held.store.Represents m)
    (requests : List (StoreRequest α)) :
    (serveAll HeldStore.serve held requests).1 = (serveAll ItemMap.serve m requests).1 ∧
      (serveAll HeldStore.serve held requests).2.store.Represents (serveAll ItemMap.serve m requests).2 := by
  induction requests generalizing held m with
  | nil => exact ⟨rfl, h⟩
  | cons q rest ih =>
    obtain ⟨hanswer, hleft⟩ := h.serve q
    obtain ⟨hanswers, hlast⟩ := ih hleft
    exact ⟨congrArg₂ List.cons hanswer hanswers, hlast⟩

theorem represents_after (requests : List (StoreRequest α)) :
    (HeldStore.after requests).store.Represents (ItemMap.after requests) :=
  (Represents.serveAll Store.represents_empty requests).2

/-! ## Handles -/

namespace HeldStore

variable {held : HeldStore} {n : Nat}

theorem handles_keep (held : HeldStore) (outcome : Except ItemError (ρ × Store)) :
    (held.keep outcome).2.handles = held.handles := by
  cases outcome <;> rfl

theorem getElem?_handles_remove_of_ne {handle : Handle} {id : ItemId} (h : held.handles[n]? = some handle)
    (hid : handle ≠ .stored id) : (held.remove id).handles[n]? = some handle := by
  unfold remove
  split
  · exact h
  · rw [List.getElem?_map, h]
    cases handle with
    | detached slot => rfl
    | stored other =>
      have hother : other ≠ id := fun heq => hid (congrArg Handle.stored heq)
      simp only [Option.map_some, if_neg hother]

/-- The handle on a slot that is taken out keeps it, marked. -/
theorem getElem?_handles_remove_self {id : ItemId} {slot : Slot} (h : held.handles[n]? = some (.stored id))
    (hslot : held.store.slot? id = some slot) :
    (held.remove id).handles[n]? = some (.detached { slot with removed := true }) := by
  unfold remove
  rw [hslot]
  simp only [List.getElem?_map, h, Option.map_some, if_pos]

theorem getElem?_handles_hold {handle : Handle} (h : held.handles[n]? = some handle) (id : ItemId) :
    (held.serve (α := α) (.hold id)).2.handles[n]? = some handle := by
  simp only [serve, hold]
  cases held.store.contains id with
  | false => exact h
  | true =>
    obtain ⟨hlt, -⟩ := List.getElem?_eq_some_iff.1 h
    exact (List.getElem?_append_left hlt).trans h

/-- A handle changes only when the item of its slot is removed. -/
theorem getElem?_handles_serve {handle : Handle} {q : StoreRequest α} (h : held.handles[n]? = some handle)
    (hq : ∀ id, q = .remove id → handle ≠ .stored id) : (held.serve q).2.handles[n]? = some handle := by
  cases q with
  | insert item =>
    simp only [serve, handles_keep]
    exact h
  | updateState id state =>
    simp only [serve, handles_keep]
    exact h
  | change id f =>
    simp only [serve, handles_keep]
    exact h
  | remove id => exact getElem?_handles_remove_of_ne h (hq id rfl)
  | hold id => exact getElem?_handles_hold h id
  | _ => exact h

theorem getElem?_handles_serveAll {handle : Handle} {requests : List (StoreRequest α)}
    (h : held.handles[n]? = some handle) (hrequests : ∀ id, .remove id ∈ requests → handle ≠ .stored id) :
    (serveAll serve held requests).2.handles[n]? = some handle := by
  refine serveAll_induction (P := fun held : HeldStore => held.handles[n]? = some handle) (fun held q hq hn => ?_) h
  apply getElem?_handles_serve hn
  rintro id rfl
  exact hrequests id hq

/-- Requests that do not remove an item leave the handle on its slot, and its record in the map. -/
theorem stored_serveAll {m : ItemMap} {id : ItemId} {requests : List (StoreRequest α)} (hheld : held.store.Represents m)
    (h : held.handles[n]? = some (.stored id)) (hmem : id ∈ m) (hrequests : .remove id ∉ requests) :
    (serveAll serve held requests).2.handles[n]? = some (.stored id) ∧
      ∃ record, (serveAll ItemMap.serve m requests).2[id]? = some record ∧
        (serveAll serve held requests).2.store.slot? id = some ⟨record, false⟩ := by
  have hrecord := ItemMap.mem_serveAll hmem hrequests
  rw [Std.ExtTreeMap.mem_iff_isSome_getElem?] at hrecord
  obtain ⟨record, hsome⟩ := Option.isSome_iff_exists.1 hrecord
  refine ⟨getElem?_handles_serveAll h ?_, record, hsome, Store.slot?_of_item? ?_⟩
  · intro other hother heq
    cases heq
    exact hrequests hother
  · rw [(hheld.serveAll requests).2.item?_eq, hsome]

/-- A handle on a slot that was taken out shows it whatever is asked afterwards. -/
theorem slot?_of_detached {slot : Slot} (h : held.handles[n]? = some (.detached slot))
    (requests : List (StoreRequest α)) : (serveAll serve held requests).2.slot? n = some slot := by
  unfold slot?
  rw [getElem?_handles_serveAll h fun id hid => Handle.noConfusion]
  rfl

theorem slot?_of_stored {id : ItemId} (h : held.handles[n]? = some (.stored id)) :
    held.slot? n = held.store.slot? id := by
  unfold slot?
  rw [h]
  rfl

end HeldStore

/-! ## Results -/

/-- The requests are answered as by one map, the records are listed once each and in order, and each slot is at home. -/
structure ServesAsOneMap (requests : List (StoreRequest α)) : Prop where
  answers : (serveAll HeldStore.serve .empty requests).1 = (serveAll ItemMap.serve ∅ requests).1
  ascending : Ascending (HeldStore.after requests).store.toList
  once : ∀ item, (HeldStore.after requests).store.toList.count item =
    if (ItemMap.after requests)[item.id]? = some item then 1 else 0
  slots : ∀ (i : Fin 256) (id : ItemId) (slot : Slot),
    ((HeldStore.after requests).store.shards.get i)[id]? = some slot →
      id.shard = i ∧ slot.item.id = id ∧ slot.removed = false

/-- A handle on an id that is taken after some requests shows the record of the id, until this is removed; then it shows
the last record for good. -/
structure HandleFollows (before : List (StoreRequest α)) (id : ItemId) : Prop where
  shows : ∀ between, .remove id ∉ between →
    ∃ record, (ItemMap.after (before ++ .hold id :: between))[id]? = some record ∧
      (HeldStore.after (before ++ .hold id :: between)).slot? (HeldStore.after before).handles.length =
        some ⟨record, false⟩
  keeps : ∀ between later, .remove id ∉ between →
    ∃ last, (ItemMap.after (before ++ .hold id :: between))[id]? = some last ∧
      (HeldStore.after ((before ++ .hold id :: between) ++ .remove id :: later)).slot?
        (HeldStore.after before).handles.length = some ⟨last, true⟩

/-- What a handle on an id has after the requests between its being taken and the removal. -/
theorem stored_after {before between : List (StoreRequest α)} {id : ItemId} (hmem : id ∈ ItemMap.after before)
    (hbetween : .remove id ∉ between) :
    (HeldStore.after (before ++ .hold id :: between)).handles[(HeldStore.after before).handles.length]? =
        some (.stored id) ∧
      ∃ record, (ItemMap.after (before ++ .hold id :: between))[id]? = some record ∧
        (HeldStore.after (before ++ .hold id :: between)).store.slot? id = some ⟨record, false⟩ := by
  have hcontains : (HeldStore.after before).store.contains id = true := by
    rw [(represents_after before).contains_eq]
    exact hmem
  have hhandle : (HeldStore.serve (HeldStore.after before) (.hold id : StoreRequest α)).2.handles[
      (HeldStore.after before).handles.length]? = some (.stored id) := by
    simp only [HeldStore.serve, HeldStore.hold, hcontains, if_true]
    exact List.getElem?_concat_length
  have hheld := ((represents_after before).serve (.hold id : StoreRequest α)).2
  have hafter := HeldStore.stored_serveAll hheld hhandle hmem hbetween
  unfold HeldStore.after ItemMap.after at hafter ⊢
  rw [serveAll_append, serveAll_append]
  exact hafter

/-- **A store is one map of its records.** Whatever is asked of a new store, the answers are those of one ordered map;
and a handle follows its slot until the item is removed, and shows the last record from then on. -/
theorem serves_as_one_map :
    (∀ requests : List (StoreRequest α), ServesAsOneMap requests) ∧
      ∀ (before : List (StoreRequest α)) (id : ItemId), id ∈ ItemMap.after before → HandleFollows before id := by
  constructor
  · intro requests
    have h := represents_after requests
    refine ⟨(Represents.serveAll Store.represents_empty requests).1, h.tidy.ascending_toList, ?_, ?_⟩
    · intro item
      simp only [h.tidy.ascending_toList.nodup.of_map.count, h.tidy.mem_toList, h.item?_eq]
    · intro i id slot hslot
      have hentry : (id, slot) ∈ (HeldStore.after requests).store.shards[i].toList :=
        Std.ExtTreeMap.mem_toList_iff_getElem?_eq_some.2 hslot
      obtain ⟨hid, hfound⟩ := h.tidy.of_mem_shard hentry
      exact ⟨hid, h.tidy.id_eq id slot hfound, h.tidy.live id slot hfound⟩
  · intro before id hmem
    constructor
    · intro between hbetween
      obtain ⟨hhandle, record, hrecord, hslot⟩ := stored_after hmem hbetween
      exact ⟨record, hrecord, (HeldStore.slot?_of_stored hhandle).trans hslot⟩
    · intro between later hbetween
      obtain ⟨hhandle, last, hlast, hslot⟩ := stored_after hmem hbetween
      refine ⟨last, hlast, ?_⟩
      have hdetached := HeldStore.getElem?_handles_remove_self hhandle hslot
      rw [HeldStore.after, serveAll_append]
      exact HeldStore.slot?_of_detached hdetached later

namespace Sample

/-- Two items with one id. -/
def first : Item := .fresh ⟨.replicate 32 1⟩ "first" 10

def second : Item := .fresh first.id "second" 20

/-- The first item is stored. -/
def stored : List (StoreRequest Nat) := [.insert first]

/-- Its state changes, and the second item is refused. -/
def used : List (StoreRequest Nat) := [.updateState first.id .stalled, .insert second]

end Sample

/-- A handle on the first item is not on the second one, which is stored under the id after the first is removed. -/
theorem serves_as_one_map_reinserted :
    Sample.first.id ∈ ItemMap.after Sample.stored ∧ .remove Sample.first.id ∉ Sample.used ∧
      (HeldStore.after ((Sample.stored ++ .hold Sample.first.id :: Sample.used) ++
        .remove Sample.first.id :: [.insert Sample.second])).slot? (HeldStore.after Sample.stored).handles.length =
          some ⟨Sample.first.withState .stalled, true⟩ := by
  have hmem : Sample.first.id ∈ ItemMap.after Sample.stored := by decide +kernel
  have hused : .remove Sample.first.id ∉ Sample.used := by simp [Sample.used]
  refine ⟨hmem, hused, ?_⟩
  obtain ⟨last, hlast, hslot⟩ := (serves_as_one_map.2 Sample.stored Sample.first.id hmem).keeps Sample.used
    [.insert Sample.second] hused
  have hrecord : (ItemMap.after (Sample.stored ++ .hold Sample.first.id :: Sample.used))[Sample.first.id]? =
      some (Sample.first.withState .stalled) := by decide +kernel
  rw [hslot, ← Option.some.inj (hlast.symm.trans hrecord)]

end TransferRegistry
