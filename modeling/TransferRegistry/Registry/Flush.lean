import TransferRegistry.Registry.Bulk
import TransferRegistry.Storage.Backend

/-!
# Storing changes

* `Registry.collectChanges` makes of the drained queues what is to be stored: visible items that are new or changed,
  visible items that are removed, and hidden records. A hidden item is taken out of the visible ones and its record
  goes to the hidden ones.
* `runWrites` has a backend do writes in their order, up to the first that fails. The visible items that are new or
  changed come first and the removed ones last, so an item that moves between the two collections is always in one.
* `Registry.flush` stores what is queued, and queues it again where that fails.
-/

namespace TransferRegistry

/-- What is to be stored. -/
structure ChangeSet where
  upserts : ItemChanges
  removals : ItemChanges
  hiddenRecords : HiddenChanges

namespace Registry

/-- What drained queues ask to be stored of one id among the visible items that are new or changed. -/
def upsertOf (r : Registry) (items : Pending) (id : ItemId) : Option (Change Item) :=
  match r.items.item? id, r.hidden.entry? id with
  | some item, none => some ⟨some item, if items[id]? = some .add then .add else .update⟩
  | _, _ => none

def removalOf (r : Registry) (items : Pending) (id : ItemId) : Option (Change Item) :=
  match r.items.item? id, r.hidden.entry? id with
  | some _, some _ => some ⟨none, .remove⟩
  | some _, none => none
  | none, _ => if items.contains id then some ⟨none, .remove⟩ else none

def hiddenRecordOf (r : Registry) (hidden : Pending) (id : ItemId) : Option (Change HiddenRecord) :=
  match r.items.item? id, r.hidden.entry? id with
  | some item, some entry => some ⟨some ⟨entry, item⟩, .update⟩
  | _, _ => if hidden.contains id then some ⟨none, .remove⟩ else none

/-- The map of what a function gives for ids. -/
def tabulate {α : Type} (ids : List ItemId) (f : ItemId → Option α) : Std.ExtTreeMap ItemId α :=
  .ofList (ids.filterMap fun id => (f id).map fun a => (id, a)) compare

/-- What drained queues ask to be stored, by the present state of each of their ids. -/
def collectChanges (r : Registry) (items hidden : Pending) : ChangeSet :=
  let ids := distinctIds (items.keys ++ hidden.keys)
  { upserts := tabulate ids (r.upsertOf items)
    removals := tabulate ids (r.removalOf items)
    hiddenRecords := tabulate ids (r.hiddenRecordOf hidden) }

end Registry

/-! ## Writes -/

inductive Write where
  | upserts (changes : ItemChanges)
  | hiddenRecords (changes : HiddenChanges)
  | removals (changes : ItemChanges)

/-- The writes that changes need, in their order. -/
def ChangeSet.writes (c : ChangeSet) : List Write :=
  (if c.upserts.isEmpty then [] else [.upserts c.upserts])
    ++ (if c.hiddenRecords.isEmpty then [] else [.hiddenRecords c.hiddenRecords])
    ++ (if c.removals.isEmpty then [] else [.removals c.removals])

variable {σ : Type}

/-- Has a backend do a write; the answer is how many changes it was. -/
def Write.run (backend : Backend σ) : Write → Call σ Nat
  | upserts changes => backend.saveItems changes
  | hiddenRecords changes => backend.saveHidden changes
  | removals changes => backend.saveItems changes

def Write.event (count : Nat) : Write → Event
  | upserts _ => .itemsSynced count
  | hiddenRecords _ => .hiddenSynced count
  | removals _ => .itemsRemoved count

/-- Has a backend do writes, up to the first that fails. -/
def runWrites (backend : Backend σ) : List Write → Call σ Unit
  | [], s => ⟨s, .ok (), []⟩
  | write :: writes, s =>
    let first := write.run backend s
    match first.answer with
    | .error e => ⟨first.state, .error e, first.log⟩
    | .ok count => (runWrites backend writes first.state).after (first.log ++ [write.event count])

namespace Registry

def drained (r : Registry) : Registry :=
  { r with
    itemUpdates := ∅
    hiddenUpdates := ∅
    stats := (r.stats.set .itemsUpdates 0).set .hiddenUpdates 0 }

/-- The registry with drained entries back in its queues. -/
def requeued (r : Registry) (items hidden : Pending) : Registry :=
  let items := r.itemUpdates.restore items
  let hidden := r.hiddenUpdates.restore hidden
  { r with
    itemUpdates := items
    hiddenUpdates := hidden
    stats := (r.stats.set .itemsUpdates (tallied items.size)).set .hiddenUpdates (tallied hidden.size) }

def flushSeeds (r : Registry) (backend : Backend σ) (s : σ) : Step (Registry × σ) (Except StorageError Unit) :=
  if r.seeds.dirty then
    let saved := backend.saveSeeds r.seeds.config s
    match saved.answer with
    | .error e => ⟨(r, saved.state), .error e, saved.log ++ [.seedsFailed e]⟩
    | .ok _ =>
      ⟨({ r with seeds := { r.seeds with dirty := false } }, saved.state), .ok (), saved.log ++ [.seedsSynced]⟩
  else ⟨(r, s), .ok (), []⟩

/-- Stores what is queued and the seeds, and notes the time. -/
def flush (r : Registry) (now : Int64) (backend : Backend σ) (s : σ) :
    Step (Registry × σ) (Except StorageError Unit) :=
  let items := r.itemUpdates
  let hidden := r.hiddenUpdates
  let written := runWrites backend (r.collectChanges items hidden).writes s
  match written.answer with
  | .error e =>
    ⟨(r.drained.requeued items hidden, written.state), .error e,
      written.log ++ [.changesFailed items.size hidden.size e]⟩
  | .ok _ =>
    let seeds := r.drained.flushSeeds backend written.state
    let log := written.log ++ seeds.log
    match seeds.answer with
    | .error e => ⟨seeds.state, .error e, log⟩
    | .ok _ => ⟨(seeds.state.1.setStat .timestampSave now, seeds.state.2), .ok (), log⟩

end Registry

end TransferRegistry
