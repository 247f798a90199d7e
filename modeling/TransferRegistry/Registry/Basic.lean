import TransferRegistry.Hidden
import TransferRegistry.Item.Store
import TransferRegistry.Log.Event
import TransferRegistry.Pending
import TransferRegistry.Seed.Basic
import TransferRegistry.Stats

/-!
# The registry

`Registry` joins the store of items, the set of hidden ids, the seeds, the statistics and the two queues of changes
that are still to be stored. Here are its parts and how they are counted; the requests are in the other modules of
this folder, each as a function that gives the registry after it, an answer, and what was logged.
-/

namespace TransferRegistry

/-- All that the program keeps. -/
structure Registry where
  config : Configuration
  items : Store
  hidden : HiddenSet
  seeds : SeedKeeper
  stats : Stats
  itemUpdates : Pending
  hiddenUpdates : Pending

namespace Registry

def start (config : Configuration) (now : Int64) : Registry where
  config
  items := ∅
  hidden := .empty config.core.hiddenPasskey
  seeds := .ofGeneration config.seeds
  stats := .start now
  itemUpdates := ∅
  hiddenUpdates := ∅

def addStat (r : Registry) (event : StatsEvent) (value : Int64) : Registry :=
  { r with stats := r.stats.add event value }

def setStat (r : Registry) (event : StatsEvent) (value : Int64) : Registry :=
  { r with stats := r.stats.set event value }

/-- A number of things as a counter. -/
def tallied (n : Nat) : Int64 := Int64.ofNat n

/-- Queues a change of an item and counts the queue. -/
def queueItem (r : Registry) (id : ItemId) (action : UpdatesAction) : Registry :=
  let pending := r.itemUpdates.push id action
  { r with itemUpdates := pending, stats := r.stats.set .itemsUpdates (tallied pending.size) }

def queueHidden (r : Registry) (id : ItemId) (action : UpdatesAction) : Registry :=
  let pending := r.hiddenUpdates.push id action
  { r with hiddenUpdates := pending, stats := r.stats.set .hiddenUpdates (tallied pending.size) }

def countHidden (r : Registry) : Registry := r.setStat .hidden (tallied r.hidden.size)

/-! ## What is there -/

/-- How many items are stored, hidden ones too. -/
def itemCount (r : Registry) : Nat := r.items.size

def hiddenCount (r : Registry) : Nat := r.hidden.size

/-- The record of an item that is not hidden. -/
def getItem (r : Registry) (id : ItemId) : Except ItemError Item :=
  if r.hidden.contains id then .error (.notFound id) else r.items.get id

/-- The records of the items that are not hidden, in the order of their ids. -/
def listItems (r : Registry) : List Item := r.items.toList.filter fun item => !r.hidden.contains item.id

end Registry

end TransferRegistry
