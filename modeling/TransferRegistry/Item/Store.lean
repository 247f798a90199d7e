import Std.Data.ExtTreeMap
import TransferRegistry.Item.Basic

/-!
# The store of items

* `Store`: 256 ordered maps, one for each first byte of an id, so that the items of all of them in turn are in the
  order of their ids. A slot holds a record and whether it is marked as removed; a marked slot reads as absent.
* `Store.get`, `Store.read`, `Store.modify`, `Store.change`, `Store.toList` see the slots that are not marked;
  `Store.insert`, `Store.remove`, `Store.contains` and `Store.size` see every slot.
* `HeldStore`: a store with handles on slots. A handle shows its slot as it is now; once the item is removed, it
  shows the last record, whatever is stored under the id later.
-/

namespace TransferRegistry

/-- A place for a record, and whether the record is marked as removed. -/
structure Slot where
  item : Item
  removed : Bool
deriving DecidableEq

/-- The slots of the ids with one first byte. -/
abbrev Shard := Std.ExtTreeMap ItemId Slot

/-- The items, by the first byte of their id. -/
structure Store where
  shards : Vector Shard 256

namespace Store

def empty : Store := ⟨Vector.replicate 256 ∅⟩

instance : EmptyCollection Store := ⟨empty⟩
instance : Inhabited Store := ⟨empty⟩

def shard (store : Store) (id : ItemId) : Shard := store.shards[id.shard]

def setShard (store : Store) (id : ItemId) (shard : Shard) : Store := ⟨store.shards.set id.shard shard⟩

/-! ## Looking up -/

def slot? (store : Store) (id : ItemId) : Option Slot := (store.shard id)[id]?

/-- Whether there is a slot for an id, marked or not. -/
def contains (store : Store) (id : ItemId) : Bool := (store.shard id).contains id

/-- The record of an id whose slot is not marked. -/
def item? (store : Store) (id : ItemId) : Option Item :=
  match store.slot? id with
  | some slot => if slot.removed then none else some slot.item
  | none => none

def get (store : Store) (id : ItemId) : Except ItemError Item :=
  match store.item? id with
  | some item => .ok item
  | none => .error (.notFound id)

def read {α : Type} (store : Store) (id : ItemId) (look : Item → α) : Except ItemError α := look <$> store.get id

/-- The records that a shard shows, by their ids. -/
def shardItems (shard : Shard) : List Item :=
  shard.toList.filterMap fun entry => if entry.2.removed then none else some entry.2.item

/-- The records, in the order of their ids. -/
def toList (store : Store) : List Item := store.shards.toList.flatMap shardItems

def size (store : Store) : Nat := store.shards.toList.foldl (fun total shard => total + shard.size) 0

def isEmpty (store : Store) : Bool := store.shards.toList.all (·.isEmpty)

/-- How many slots each first byte has, for those that have some. -/
def occupancy (store : Store) : List (Nat × Nat) :=
  (store.shards.toList.zipIdx.map fun (shard, i) => (i, shard.size)).filter (·.2 ≠ 0)

/-! ## Changing -/

/-- Stores a new item, with the ratio of its counters. -/
def insert (store : Store) (item : Item) : Except ItemError Store :=
  if store.contains item.id then .error (.alreadyExists item.id)
  else .ok (store.setShard item.id ((store.shard item.id).insert item.id ⟨item.refreshRatio, false⟩))

/-- Takes an item out; nothing happens where there is none. -/
def remove (store : Store) (id : ItemId) : Store := store.setShard id ((store.shard id).erase id)

def put (store : Store) (id : ItemId) (item : Item) : Store :=
  store.setShard id ((store.shard id).insert id ⟨item, false⟩)

def modify (store : Store) (id : ItemId) (change : Item → Item) : Except ItemError Store :=
  match store.item? id with
  | some item => .ok (store.put id (change item))
  | none => .error (.notFound id)

/-- Changes the record of an id by a function that also gives an answer. -/
def change {α : Type} (store : Store) (id : ItemId) (f : Item → α × Item) : Except ItemError (α × Store) := do
  let (answer, item) := f (← store.get id)
  return (answer, store.put id item)

/-- Sets the state of an item; also gives the state it had. -/
def updateState (store : Store) (id : ItemId) (state : ItemState) : Except ItemError (ItemState × Store) := do
  let item ← store.get id
  return (item.state, store.put id { item with state })

/-- Marks the slot of an id as removed, and leaves it where it is. -/
def markRemoved (store : Store) (id : ItemId) : Store :=
  match store.slot? id with
  | some slot => store.setShard id ((store.shard id).insert id { slot with removed := true })
  | none => store

end Store

/-! ## Handles -/

/-- A handle on the slot of an id: still in the store, or taken out. -/
inductive Handle where
  | stored (id : ItemId)
  | detached (slot : Slot)

/-- A store with the handles that are held on its slots. -/
structure HeldStore where
  store : Store
  handles : List Handle

namespace HeldStore

def empty : HeldStore := ⟨∅, []⟩

/-- Holds a new handle on the slot of an id; gives its number. -/
def hold (held : HeldStore) (id : ItemId) : Option (Nat × HeldStore) :=
  if held.store.contains id then some (held.handles.length, { held with handles := held.handles ++ [.stored id] })
  else none

def show? (held : HeldStore) : Handle → Option Slot
  | .stored id => held.store.slot? id
  | .detached slot => some slot

def slot? (held : HeldStore) (n : Nat) : Option Slot := held.handles[n]?.bind held.show?

/-- Takes an item out and marks its slot, which the handles on it keep. -/
def remove (held : HeldStore) (id : ItemId) : HeldStore :=
  match held.store.slot? id with
  | none => held
  | some slot =>
    { store := held.store.remove id
      handles := held.handles.map fun handle =>
        match handle with
        | .stored other => if other = id then .detached { slot with removed := true } else .stored other
        | .detached other => .detached other }

/-- Marks the slot of the handle with a number as removed. -/
def markRemoved (held : HeldStore) (n : Nat) : HeldStore :=
  match held.handles[n]? with
  | some (.stored id) => { held with store := held.store.markRemoved id }
  | some (.detached slot) => { held with handles := held.handles.set n (.detached { slot with removed := true }) }
  | none => held

end HeldStore

end TransferRegistry
