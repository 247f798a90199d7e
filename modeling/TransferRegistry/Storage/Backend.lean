import TransferRegistry.Log.Event
import TransferRegistry.Seed.Basic
import TransferRegistry.Storage.Change

/-!
# Where state is stored

`Backend σ` is a place that keeps the visible items, the hidden records and the seeds; `σ` is what it is like, with
all it keeps. `Recorder` is the simplest of them: it answers what it was given, keeps a list of its calls, and fails
in those that it was told to fail in.
-/

namespace TransferRegistry

/-- A request to a place of state `σ`, which may fail and which may leave it changed all the same. -/
abbrev Call (σ α : Type) := σ → Step σ (Except StorageError α)

structure Backend (σ : Type) where
  loadItems : Call σ (List Item)
  /-- The hidden entries with their items. -/
  loadHidden : Call σ (List HiddenRecord)
  /-- None where no seeds were stored yet. -/
  loadSeeds : Call σ (Option SeedConfig)
  /-- Does changes to the visible items; the answer is how many. -/
  saveItems : ItemChanges → Call σ Nat
  /-- Does changes to the hidden records; the answer is how many. -/
  saveHidden : HiddenChanges → Call σ Nat
  saveSeeds : SeedConfig → Call σ Unit

/-! ## Recording calls -/

inductive RecordedCall where
  | loadItems
  | loadHidden
  | loadSeeds
  | saveItems (changes : List (ItemId × Change Item))
  | saveHidden (changes : List (ItemId × Change HiddenRecord))
  | saveSeeds (config : SeedConfig)
deriving DecidableEq

def RecordedCall.name : RecordedCall → String
  | loadItems => "load_items"
  | loadHidden => "load_hidden"
  | loadSeeds => "load_seeds"
  | saveItems _ => "save_items"
  | saveHidden _ => "save_hidden"
  | saveSeeds _ => "save_seeds"

/-- What a recorder answers, which calls it fails in, and the calls so far. A call fails by its name, or by its name
with `#` and the number of the calls of that name. -/
structure Recorder where
  items : List Item
  hidden : List HiddenRecord
  seeds : Option SeedConfig
  failing : List String
  calls : List RecordedCall

namespace Recorder

def answer {α : Type} (call : RecordedCall) (value : α) (r : Recorder) : Step Recorder (Except StorageError α) :=
  let calls := r.calls ++ [call]
  let number := (calls.filter fun other => other.name = call.name).length
  let fails := r.failing.any fun f => f = call.name || f = s!"{call.name}#{number}"
  ⟨{ r with calls }, if fails then .error (.sealing s!"injected {call.name}") else .ok value, []⟩

def backend : Backend Recorder where
  loadItems r := r.answer .loadItems r.items
  loadHidden r := r.answer .loadHidden r.hidden
  loadSeeds r := r.answer .loadSeeds r.seeds
  saveItems changes r := r.answer (.saveItems changes.toList) changes.size
  saveHidden changes r := r.answer (.saveHidden changes.toList) changes.size
  saveSeeds config r := r.answer (.saveSeeds config) ()

end Recorder

end TransferRegistry
