import Mathlib.Algebra.BigOperators.Group.List.Basic
import Mathlib.Algebra.GroupWithZero.Nat
import Mathlib.Data.List.Nodup
import TransferRegistry.Item.Store

/-!
# The store as one ordered map

A store is 256 maps; `Store.item?` looks at one of them, and this file says that it is as if there were one.

* `Store.Tidy`: every slot is in the shard of its id, holds a record of that id, and is not marked.
* `Store.Sound`: a tidy store whose records have the ratios of their counters. `empty_sound`, `Sound.insert`,
  `Sound.put` and `Sound.remove` keep it.
* `item?_insert`, `item?_put`, `item?_remove`: reading after a change.
* `Sound.ext_item?`: sound stores with the same records are the same.
* `Tidy.mem_toList`, `Tidy.ascending_toList`, `Tidy.length_toList`: the list of the records, in the order of their ids.
* `size_put_of_none`, `size_put_of_some`, `size_remove`: the number of slots after a change.
-/

namespace TransferRegistry

/-- Each record has a smaller id than those after it. -/
def Ascending (items : List Item) : Prop := items.Pairwise fun a b => compare a.id b.id = .lt

theorem Ascending.nodup {items : List Item} (h : Ascending items) : (items.map (·.id)).Nodup := by
  rw [List.Nodup, List.pairwise_map]
  refine h.imp fun hlt heq => ?_
  simp [heq] at hlt

theorem Ascending.filter {items : List Item} (h : Ascending items) (p : Item → Bool) :
    Ascending (items.filter p) := List.Pairwise.filter p h

/-- An ascending list is determined by its records. -/
theorem Ascending.ext {items others : List Item} (h : Ascending items) (ho : Ascending others)
    (hmem : ∀ item, item ∈ items ↔ item ∈ others) : items = others := by
  have hperm : items.Perm others := (List.perm_ext_iff_of_nodup h.nodup.of_map ho.nodup.of_map).2 hmem
  refine hperm.eq_of_pairwise (fun a b _ _ hab hba => ?_) h ho
  have hswap : compare a.id b.id = (compare b.id a.id).swap := Std.OrientedCmp.eq_swap
  rw [hswap, hba] at hab
  cases hab

@[simp] theorem Item.refreshRatio_refreshRatio (item : Item) : item.refreshRatio.refreshRatio = item.refreshRatio :=
  rfl

/-! ## The order of ids -/

/-- An id in a smaller shard is smaller. -/
theorem ItemId.compare_of_shard_lt {a b : ItemId} (h : a.shard < b.shard) : compare a b = .lt := by
  have hbyte : compare a.bytes[0] b.bytes[0] = .lt := by
    rw [Std.compare_eq_lt]
    exact UInt8.lt_iff_toNat_lt.2 h
  have ha : a.bytes.toList = a.bytes[0] :: a.bytes.toList.tail := by
    rw [← List.cons_head_tail (by simp : a.bytes.toList ≠ [])]
    simp [List.head_eq_getElem]
  have hb : b.bytes.toList = b.bytes[0] :: b.bytes.toList.tail := by
    rw [← List.cons_head_tail (by simp : b.bytes.toList ≠ [])]
    simp [List.head_eq_getElem]
  show compare a.bytes b.bytes = .lt
  rw [Vector.compare_eq_compare_toList, ha, hb, List.compare_cons_cons, hbyte]
  rfl

namespace Store

/-! ## Shards -/

theorem shard_setShard (store : Store) (id other : ItemId) (shard : Shard) :
    (store.setShard id shard).shard other = if id.shard = other.shard then shard else store.shard other := by
  simp only [Store.shard, setShard, Fin.getElem_fin, Vector.getElem_set, Fin.val_inj]

theorem slot?_empty (id : ItemId) : (∅ : Store).slot? id = none := by
  show (Store.shard empty id)[id]? = none
  simp [Store.shard, empty]

/-- A slot that is put among those of its shard is the one that is found. -/
theorem slot?_setShard_insert (store : Store) (id other : ItemId) (slot : Slot) :
    (store.setShard id ((store.shard id).insert id slot)).slot? other =
      if id = other then some slot else store.slot? other := by
  rw [slot?, shard_setShard]
  by_cases h : id = other
  · simp [h]
  · by_cases hs : id.shard = other.shard
    · have hsame : store.shard id = store.shard other := by simp [Store.shard, hs]
      simp [h, hs, hsame, Std.ExtTreeMap.getElem?_insert, slot?]
    · simp [h, hs, slot?]

theorem slot?_put (store : Store) (id other : ItemId) (item : Item) :
    (store.put id item).slot? other = if id = other then some ⟨item, false⟩ else store.slot? other :=
  slot?_setShard_insert store id other _

theorem slot?_remove (store : Store) (id other : ItemId) :
    (store.remove id).slot? other = if id = other then none else store.slot? other := by
  rw [slot?, remove, shard_setShard]
  by_cases h : id = other
  · simp [h]
  · by_cases hs : id.shard = other.shard
    · have hsame : store.shard id = store.shard other := by simp [Store.shard, hs]
      simp [h, hs, hsame, Std.ExtTreeMap.getElem?_erase, slot?]
    · simp [h, hs, slot?]

theorem contains_eq_isSome (store : Store) (id : ItemId) : store.contains id = (store.slot? id).isSome := by
  rw [contains, slot?, Std.ExtTreeMap.isSome_getElem?_eq_contains]

/-- An item is stored where its id has no slot yet, and then only its slot is new. -/
theorem insert_eq_ok {store next : Store} {item : Item} (h : store.insert item = .ok next) :
    store.slot? item.id = none ∧ next = store.put item.id item.refreshRatio := by
  unfold insert at h
  split at h
  · cases h
  · rename_i hc
    rw [contains_eq_isSome, Bool.not_eq_true, Option.isSome_eq_false_iff, Option.isNone_iff_eq_none] at hc
    exact ⟨hc, (Except.ok.inj h).symm⟩

theorem insert_of_none {store : Store} {item : Item} (h : store.slot? item.id = none) :
    store.insert item = .ok (store.put item.id item.refreshRatio) := by
  rw [insert, contains_eq_isSome, h]
  rfl

theorem insert_of_some {store : Store} {item : Item} {slot : Slot} (h : store.slot? item.id = some slot) :
    store.insert item = .error (.alreadyExists item.id) := by
  rw [insert, contains_eq_isSome, h]
  rfl

/-- The record of an id is in a slot that is not marked. -/
theorem slot?_of_item? {store : Store} {id : ItemId} {item : Item} (h : store.item? id = some item) :
    store.slot? id = some ⟨item, false⟩ := by
  unfold item? at h
  split at h
  · rename_i slot hs
    split at h
    · cases h
    · rename_i hlive
      rw [hs, ← Option.some.inj h, ← Bool.eq_false_iff.2 hlive]
  · cases h

/-- To put the record back that is there changes nothing. -/
theorem put_self {store : Store} {id : ItemId} {item : Item} (h : store.item? id = some item) :
    store.put id item = store := by
  have hs : (store.shard id)[id]? = some ⟨item, false⟩ := slot?_of_item? h
  have hinsert : (store.shard id).insert id ⟨item, false⟩ = store.shard id := by
    refine Std.ExtTreeMap.ext_getElem? fun other => ?_
    rw [Std.ExtTreeMap.getElem?_insert]
    split
    · rename_i heq
      rw [← Std.LawfulEqCmp.eq_of_compare heq, hs]
    · rfl
  rw [put, hinsert, setShard, shard]
  simp

/-- To take out what is not there changes nothing. -/
theorem remove_of_none {store : Store} {id : ItemId} (h : store.slot? id = none) : store.remove id = store := by
  have hs : (store.shard id)[id]? = none := h
  have herase : (store.shard id).erase id = store.shard id := by
    refine Std.ExtTreeMap.ext_getElem? fun other => ?_
    rw [Std.ExtTreeMap.getElem?_erase]
    split
    · rename_i heq
      rw [← Std.LawfulEqCmp.eq_of_compare heq, hs]
    · rfl
  rw [remove, herase, setShard, shard]
  simp

/-! ## Tidy stores -/

/-- Every id is in its own shard, and every slot has a record of its id and is not marked. -/
structure Tidy (store : Store) : Prop where
  placed : ∀ (i : Fin 256) (id : ItemId), id ∈ store.shards[i] → id.shard = i
  id_eq : ∀ (id : ItemId) (slot : Slot), store.slot? id = some slot → slot.item.id = id
  live : ∀ (id : ItemId) (slot : Slot), store.slot? id = some slot → slot.removed = false

theorem empty_tidy : Tidy ∅ where
  placed i id h := by
    have : (Vector.replicate 256 (∅ : Shard))[i] = ∅ := by simp
    exact absurd (this ▸ h) Std.ExtTreeMap.not_mem_empty
  id_eq id slot h := by
    rw [slot?_empty] at h
    cases h
  live id slot h := by
    rw [slot?_empty] at h
    cases h

theorem Tidy.item?_eq {store : Store} (h : store.Tidy) (id : ItemId) :
    store.item? id = (store.slot? id).map (·.item) := by
  rw [item?]
  cases hs : store.slot? id with
  | none => rfl
  | some slot => simp [h.live id slot hs]

theorem Tidy.slot?_eq_none {store : Store} (h : store.Tidy) {id : ItemId} :
    store.slot? id = none ↔ store.item? id = none := by
  rw [h.item?_eq, Option.map_eq_none_iff]

/-- Other slots for a shard, each of them at home there. -/
theorem Tidy.placed_setShard {store : Store} (h : store.Tidy) {id : ItemId} {shard : Shard}
    (hshard : ∀ other ∈ shard, other = id ∨ other ∈ store.shard id) (i : Fin 256) (other : ItemId)
    (ho : other ∈ (store.setShard id shard).shards[i]) : other.shard = i := by
  simp only [setShard, Fin.getElem_fin, Vector.getElem_set, Fin.val_inj] at ho
  split at ho
  · rename_i hi
    rcases hshard other ho with rfl | hm
    · exact hi
    · exact (h.placed id.shard other hm).trans hi
  · exact h.placed i other ho

theorem Tidy.put {store : Store} (h : store.Tidy) {id : ItemId} {item : Item} (hid : item.id = id) :
    (store.put id item).Tidy where
  placed := h.placed_setShard fun other ho => by
    rw [Std.ExtTreeMap.mem_insert, Std.compare_eq_iff_eq] at ho
    exact ho.imp_left Eq.symm
  id_eq other slot hs := by
    rw [slot?_put] at hs
    split at hs
    · rename_i heq
      cases hs
      exact hid.trans heq
    · exact h.id_eq other slot hs
  live other slot hs := by
    rw [slot?_put] at hs
    split at hs
    · cases hs
      rfl
    · exact h.live other slot hs

theorem slot?_of_slot?_remove {store : Store} {id other : ItemId} {slot : Slot}
    (h : (store.remove id).slot? other = some slot) : store.slot? other = some slot := by
  rw [slot?_remove] at h
  split at h
  · cases h
  · exact h

theorem Tidy.remove {store : Store} (h : store.Tidy) (id : ItemId) : (store.remove id).Tidy where
  placed := h.placed_setShard fun _ ho => Or.inr (Std.ExtTreeMap.mem_of_mem_erase ho)
  id_eq other slot hs := h.id_eq other slot (slot?_of_slot?_remove hs)
  live other slot hs := h.live other slot (slot?_of_slot?_remove hs)

/-! ## Sound stores -/

/-- A slot as the requests leave it: a record of the id, not marked, with the ratio of its counters. -/
structure Fits (id : ItemId) (slot : Slot) : Prop where
  id_eq : slot.item.id = id
  live : slot.removed = false
  current : slot.item.refreshRatio = slot.item

/-- Every id is in its own shard, and every slot is as the requests leave it. -/
structure Sound (store : Store) : Prop where
  placed : ∀ (i : Fin 256) (id : ItemId), id ∈ store.shards[i] → id.shard = i
  fits : ∀ (id : ItemId) (slot : Slot), store.slot? id = some slot → Fits id slot

theorem Sound.tidy {store : Store} (h : store.Sound) : store.Tidy where
  placed := h.placed
  id_eq id slot hs := (h.fits id slot hs).id_eq
  live id slot hs := (h.fits id slot hs).live

theorem empty_sound : Sound ∅ where
  placed := empty_tidy.placed
  fits id slot h := by
    rw [slot?_empty] at h
    cases h

theorem Sound.slot?_eq_none {store : Store} (h : store.Sound) {id : ItemId} :
    store.slot? id = none ↔ store.item? id = none := h.tidy.slot?_eq_none

theorem Sound.id_eq {store : Store} (h : store.Sound) {id : ItemId} {item : Item}
    (hi : store.item? id = some item) : item.id = id := (h.fits id _ (slot?_of_item? hi)).id_eq

theorem Sound.current {store : Store} (h : store.Sound) {id : ItemId} {item : Item}
    (hi : store.item? id = some item) : item.refreshRatio = item := (h.fits id _ (slot?_of_item? hi)).current

theorem Sound.put {store : Store} (h : store.Sound) {id : ItemId} {item : Item} (hid : item.id = id)
    (hcur : item.refreshRatio = item) : (store.put id item).Sound where
  placed := (h.tidy.put hid).placed
  fits other slot hs := by
    rw [slot?_put] at hs
    split at hs
    · rename_i heq
      cases hs
      exact ⟨hid.trans heq, rfl, hcur⟩
    · exact h.fits other slot hs

theorem Sound.remove {store : Store} (h : store.Sound) (id : ItemId) : (store.remove id).Sound where
  placed := (h.tidy.remove id).placed
  fits _ slot hs := h.fits _ slot (slot?_of_slot?_remove hs)

theorem Sound.insert {store next : Store} {item : Item} (h : store.Sound) (hi : store.insert item = .ok next) :
    next.Sound := by
  obtain ⟨-, rfl⟩ := insert_eq_ok hi
  exact h.put rfl (Item.refreshRatio_refreshRatio item)

theorem shard_eq {store : Store} {id : ItemId} {i : Fin 256} (h : id.shard = i) :
    store.shard id = store.shards[i] := by
  subst h
  rfl

/-! ## Records -/

theorem item?_empty (id : ItemId) : (∅ : Store).item? id = none := by rw [item?, slot?_empty]

theorem item?_put (store : Store) (id other : ItemId) (item : Item) :
    (store.put id item).item? other = if id = other then some item else store.item? other := by
  simp only [item?, slot?_put]
  by_cases h : id = other <;> simp [h]

theorem item?_remove (store : Store) (id other : ItemId) :
    (store.remove id).item? other = if id = other then none else store.item? other := by
  simp only [item?, slot?_remove]
  by_cases h : id = other <;> simp [h]

theorem item?_insert {store next : Store} {item : Item} (h : store.insert item = .ok next) (other : ItemId) :
    next.item? other = if item.id = other then some item.refreshRatio else store.item? other := by
  obtain ⟨-, rfl⟩ := insert_eq_ok h
  exact item?_put store item.id other _

theorem Tidy.insert_cases {store : Store} (h : store.Tidy) (item : Item) :
    (store.item? item.id = none ∧ store.insert item = .ok (store.put item.id item.refreshRatio)) ∨
    (∃ stored, store.item? item.id = some stored ∧ store.insert item = .error (.alreadyExists item.id)) := by
  cases hi : store.item? item.id with
  | none => exact Or.inl ⟨rfl, insert_of_none (h.slot?_eq_none.2 hi)⟩
  | some stored => exact Or.inr ⟨stored, rfl, insert_of_some (slot?_of_item? hi)⟩

theorem Sound.insert_cases {store : Store} (h : store.Sound) (item : Item) :
    (store.item? item.id = none ∧ store.insert item = .ok (store.put item.id item.refreshRatio)) ∨
    (∃ stored, store.item? item.id = some stored ∧ store.insert item = .error (.alreadyExists item.id)) :=
  h.tidy.insert_cases item

/-- Sound stores with the same records are the same. -/
theorem Sound.ext_item? {s t : Store} (hs : s.Sound) (ht : t.Sound) (h : ∀ id, s.item? id = t.item? id) : s = t := by
  have hslot : ∀ id, s.slot? id = t.slot? id := by
    intro id
    cases hi : s.item? id with
    | none => rw [hs.slot?_eq_none.2 hi, ht.slot?_eq_none.2 (h id ▸ hi)]
    | some item => rw [slot?_of_item? hi, slot?_of_item? (h id ▸ hi)]
  have hshards : s.shards = t.shards := by
    refine Vector.ext fun i hi => Std.ExtTreeMap.ext_getElem? fun id => ?_
    -- an id that is at home in the shard is looked up there; any other is in neither
    by_cases hid : id.shard = ⟨i, hi⟩
    · have := hslot id
      rwa [slot?, slot?, shard_eq hid, shard_eq hid] at this
    · have hsi : id ∉ s.shards[i] := fun hm => hid (hs.placed ⟨i, hi⟩ id hm)
      have hti : id ∉ t.shards[i] := fun hm => hid (ht.placed ⟨i, hi⟩ id hm)
      rw [Std.ExtTreeMap.getElem?_eq_none hsi, Std.ExtTreeMap.getElem?_eq_none hti]
  cases s
  cases t
  exact congrArg Store.mk hshards

/-! ## The list of the records -/

/-- What is in a shard of a tidy store is what the store finds for its id. -/
theorem Tidy.of_mem_shard {store : Store} (h : store.Tidy) {i : Fin 256} {entry : ItemId × Slot}
    (he : entry ∈ store.shards[i].toList) : entry.1.shard = i ∧ store.slot? entry.1 = some entry.2 := by
  have hs : store.shards[i][entry.1]? = some entry.2 := Std.ExtTreeMap.mem_toList_iff_getElem?_eq_some.1 he
  have hid : entry.1.shard = i :=
    h.placed i entry.1 (Std.ExtTreeMap.mem_iff_isSome_getElem?.2 (by rw [hs]; rfl))
  exact ⟨hid, by rw [slot?, shard_eq hid, hs]⟩

theorem Tidy.shardItems_eq {store : Store} (h : store.Tidy) (i : Fin 256) :
    shardItems store.shards[i] = store.shards[i].toList.map (·.2.item) := by
  rw [shardItems, List.filterMap_eq_map_iff_forall_eq_some]
  intro entry he
  rw [h.live _ _ (h.of_mem_shard he).2]
  rfl

theorem Tidy.mem_shardItems {store : Store} (h : store.Tidy) {i : Fin 256} {item : Item} :
    item ∈ shardItems store.shards[i] ↔ item.id.shard = i ∧ store.item? item.id = some item := by
  rw [h.shardItems_eq, List.mem_map]
  constructor
  · rintro ⟨entry, he, rfl⟩
    obtain ⟨hid, hs⟩ := h.of_mem_shard he
    have heq := h.id_eq _ _ hs
    exact ⟨heq ▸ hid, by rw [heq, h.item?_eq, hs]; rfl⟩
  · rintro ⟨hid, hi⟩
    have hs := slot?_of_item? hi
    rw [slot?, shard_eq hid] at hs
    exact ⟨_, Std.ExtTreeMap.mem_toList_iff_getElem?_eq_some.2 hs, rfl⟩

theorem mem_toList_iff {store : Store} {item : Item} :
    item ∈ store.toList ↔ ∃ i : Fin 256, item ∈ shardItems store.shards[i] := by
  rw [toList, List.mem_flatMap]
  constructor
  · rintro ⟨shard, hshard, hi⟩
    obtain ⟨i, hi', rfl⟩ := Vector.getElem_of_mem (Vector.mem_toList_iff.1 hshard)
    exact ⟨⟨i, hi'⟩, hi⟩
  · rintro ⟨i, hi⟩
    exact ⟨store.shards[i], by simp, hi⟩

theorem Tidy.mem_toList {store : Store} (h : store.Tidy) {item : Item} :
    item ∈ store.toList ↔ store.item? item.id = some item := by
  simp only [mem_toList_iff, h.mem_shardItems, exists_and_right, exists_eq', true_and]

theorem Tidy.ascending_shardItems {store : Store} (h : store.Tidy) (i : Fin 256) :
    Ascending (shardItems store.shards[i]) := by
  have hkeys : (store.shards[i].toList.map (·.1)).Pairwise fun a b => compare a b = .lt := by
    rw [Std.ExtTreeMap.map_fst_toList_eq_keys]
    exact Std.ExtTreeMap.ordered_keys
  rw [Ascending, h.shardItems_eq, List.pairwise_map]
  refine (List.pairwise_map.1 hkeys).imp_of_mem fun {a b} ha hb hlt => ?_
  rw [h.id_eq _ _ (h.of_mem_shard ha).2, h.id_eq _ _ (h.of_mem_shard hb).2]
  exact hlt

/-- The records come in the order of their ids, each id once. -/
theorem Tidy.ascending_toList {store : Store} (h : store.Tidy) : Ascending store.toList := by
  rw [Ascending, toList, List.pairwise_flatMap]
  constructor
  · intro shard hshard
    obtain ⟨i, hi, rfl⟩ := Vector.getElem_of_mem (Vector.mem_toList_iff.1 hshard)
    exact h.ascending_shardItems ⟨i, hi⟩
  · rw [List.pairwise_iff_getElem]
    intro i j hi hj hij a ha b hb
    rw [Vector.length_toList] at hi hj
    apply ItemId.compare_of_shard_lt
    rw [((h.mem_shardItems (i := ⟨i, hi⟩)).1 (by simpa using ha)).1,
      ((h.mem_shardItems (i := ⟨j, hj⟩)).1 (by simpa using hb)).1]
    exact hij

theorem foldl_add_eq_length {α β : Type} {f : α → Nat} {g : α → List β} (l : List α) (h : ∀ a ∈ l, (g a).length = f a)
    (n : Nat) : l.foldl (fun total a => total + f a) n = n + (l.flatMap g).length := by
  induction l generalizing n with
  | nil => rfl
  | cons a l ih =>
    rw [List.foldl_cons, ih fun other ho => h other (List.mem_cons_of_mem _ ho), List.flatMap_cons,
      List.length_append, h a List.mem_cons_self]
    omega

/-- There are as many records as slots. -/
theorem Tidy.length_toList {store : Store} (h : store.Tidy) : store.toList.length = store.size := by
  have hshards : ∀ shard ∈ store.shards.toList, (shardItems shard).length = shard.size := by
    intro shard hshard
    obtain ⟨i, hi, rfl⟩ := Vector.getElem_of_mem (Vector.mem_toList_iff.1 hshard)
    have hi' := h.shardItems_eq ⟨i, hi⟩
    simp only [Fin.getElem_fin] at hi'
    rw [hi', List.length_map, Std.ExtTreeMap.length_toList]
  rw [toList, size, foldl_add_eq_length _ hshards, Nat.zero_add]

theorem Sound.mem_toList {store : Store} (h : store.Sound) {item : Item} :
    item ∈ store.toList ↔ store.item? item.id = some item := h.tidy.mem_toList

theorem Sound.ascending_toList {store : Store} (h : store.Sound) : Ascending store.toList := h.tidy.ascending_toList

theorem Sound.length_toList {store : Store} (h : store.Sound) : store.toList.length = store.size := h.tidy.length_toList

/-! ## How many -/

theorem size_eq_sum (store : Store) : store.size = (store.shards.toList.map (·.size)).sum := by
  rw [size, List.sum_eq_foldl, List.foldl_map]

theorem size_empty : (∅ : Store).size = 0 := by
  have hshards : (∅ : Store).shards.toList = List.replicate 256 ∅ := Vector.toList_replicate
  rw [size_eq_sum, hshards, List.map_replicate, Std.ExtTreeMap.size_empty, List.sum_replicate_nat, Nat.mul_zero]

/-- The slots of a shard are counted in the place of those that were there. -/
theorem size_setShard (store : Store) (id : ItemId) (shard : Shard) :
    (store.setShard id shard).size + (store.shard id).size = store.size + shard.size := by
  have hlt : id.shard.val < (store.shards.toList.map (·.size)).length := by simp
  have hshard : (store.shards.toList.map (·.size))[id.shard.val] = (store.shard id).size := by simp [Store.shard]
  have hsum : store.size = ((store.shards.toList.map (·.size)).take id.shard.val).sum +
      ((store.shard id).size + ((store.shards.toList.map (·.size)).drop (id.shard.val + 1)).sum) := by
    rw [size_eq_sum, ← List.sum_take_add_sum_drop _ id.shard.val, List.drop_eq_getElem_cons hlt, List.sum_cons, hshard]
  have hset : (store.setShard id shard).size = ((store.shards.toList.map (·.size)).take id.shard.val).sum +
      shard.size + ((store.shards.toList.map (·.size)).drop (id.shard.val + 1)).sum := by
    rw [size_eq_sum, setShard, Vector.toList_set, List.map_set, List.sum_set, if_pos hlt]
  omega

theorem size_put_of_none {store : Store} {id : ItemId} (h : store.slot? id = none) (item : Item) :
    (store.put id item).size = store.size + 1 := by
  have hid : (store.shard id).contains id = false := (store.contains_eq_isSome id).trans (by rw [h]; rfl)
  have hset := store.size_setShard id ((store.shard id).insert id ⟨item, false⟩)
  rw [Std.ExtTreeMap.size_insert, hid] at hset
  unfold put
  simp only [Bool.false_eq_true, if_false] at hset
  omega

theorem size_put_of_some {store : Store} {id : ItemId} {slot : Slot} (h : store.slot? id = some slot) (item : Item) :
    (store.put id item).size = store.size := by
  have hid : (store.shard id).contains id = true := (store.contains_eq_isSome id).trans (by rw [h]; rfl)
  have hset := store.size_setShard id ((store.shard id).insert id ⟨item, false⟩)
  rw [Std.ExtTreeMap.size_insert, if_pos hid] at hset
  unfold put
  omega

/-- With the item of a slot, one slot goes. -/
theorem size_remove {store : Store} {id : ItemId} {slot : Slot} (h : store.slot? id = some slot) :
    (store.remove id).size + 1 = store.size := by
  have hid : (store.shard id).contains id = true := (store.contains_eq_isSome id).trans (by rw [h]; rfl)
  have hset := store.size_setShard id ((store.shard id).erase id)
  have hpos : (store.shard id).size ≠ 0 := fun hzero => by
    have hempty : store.shard id = ∅ := Std.ExtTreeMap.eq_empty_iff_size_eq_zero.2 hzero
    rw [hempty, Std.ExtTreeMap.contains_empty] at hid
    cases hid
  rw [Std.ExtTreeMap.size_erase, if_pos hid] at hset
  unfold remove
  omega

end Store

end TransferRegistry
