import TransferRegistry.Json.Codec

/-!
# Statistics

`Stats` are counters of 64 bits that wrap around, one for each `StatsEvent`, with the time of the start.
`Stats.add` and `Stats.set` change the counter of an event, `Stats.get` reads it.
-/

namespace TransferRegistry

open Json (Codec toJson fromJson?)

/-- What is counted. -/
inductive StatsEvent where
  | items
  | itemsUpdates
  | hidden
  | hiddenUpdates
  | bulkCalls
  | itemsProcessed
  | itemsFailed
  | unauthorized
  | progressReports
  | seedChanges
  | timestampSave
deriving DecidableEq

namespace StatsEvent

def all : List StatsEvent :=
  [items, itemsUpdates, hidden, hiddenUpdates, bulkCalls, itemsProcessed, itemsFailed, unauthorized,
    progressReports, seedChanges, timestampSave]

def name : StatsEvent → String
  | items => "Items"
  | itemsUpdates => "ItemsUpdates"
  | hidden => "Hidden"
  | hiddenUpdates => "HiddenUpdates"
  | bulkCalls => "BulkCalls"
  | itemsProcessed => "ItemsProcessed"
  | itemsFailed => "ItemsFailed"
  | unauthorized => "Unauthorized"
  | progressReports => "ProgressReports"
  | seedChanges => "SeedChanges"
  | timestampSave => "TimestampSave"

instance : Codec StatsEvent := .ofNames all name

end StatsEvent

/-- The counters. -/
structure Stats where
  started : Int64
  timestampSave : Int64
  items : Int64
  itemsUpdates : Int64
  hidden : Int64
  hiddenUpdates : Int64
  bulkCalls : Int64
  itemsProcessed : Int64
  itemsFailed : Int64
  unauthorized : Int64
  progressReports : Int64
  seedChanges : Int64
deriving DecidableEq

namespace Stats

/-- All counters at zero, from a time on. -/
def start (now : Int64) : Stats where
  started := now
  timestampSave := 0
  items := 0
  itemsUpdates := 0
  hidden := 0
  hiddenUpdates := 0
  bulkCalls := 0
  itemsProcessed := 0
  itemsFailed := 0
  unauthorized := 0
  progressReports := 0
  seedChanges := 0

def get (s : Stats) : StatsEvent → Int64
  | .items => s.items
  | .itemsUpdates => s.itemsUpdates
  | .hidden => s.hidden
  | .hiddenUpdates => s.hiddenUpdates
  | .bulkCalls => s.bulkCalls
  | .itemsProcessed => s.itemsProcessed
  | .itemsFailed => s.itemsFailed
  | .unauthorized => s.unauthorized
  | .progressReports => s.progressReports
  | .seedChanges => s.seedChanges
  | .timestampSave => s.timestampSave

def set (s : Stats) (event : StatsEvent) (value : Int64) : Stats :=
  match event with
  | .items => { s with items := value }
  | .itemsUpdates => { s with itemsUpdates := value }
  | .hidden => { s with hidden := value }
  | .hiddenUpdates => { s with hiddenUpdates := value }
  | .bulkCalls => { s with bulkCalls := value }
  | .itemsProcessed => { s with itemsProcessed := value }
  | .itemsFailed => { s with itemsFailed := value }
  | .unauthorized => { s with unauthorized := value }
  | .progressReports => { s with progressReports := value }
  | .seedChanges => { s with seedChanges := value }
  | .timestampSave => { s with timestampSave := value }

def add (s : Stats) (event : StatsEvent) (value : Int64) : Stats := s.set event (s.get event + value)

/-- After a counter got a value, it has that value, and every other counter is as it was. -/
theorem get_set (s : Stats) (event other : StatsEvent) (value : Int64) :
    (s.set event value).get other = if event = other then value else s.get other := by
  cases event <;> cases other <;> rfl

end Stats

instance : Codec Stats where
  toJson s := .record
    [("started", toJson s.started), ("timestamp_run_save", toJson s.timestampSave), ("items", toJson s.items),
      ("items_updates", toJson s.itemsUpdates), ("hidden", toJson s.hidden),
      ("hidden_updates", toJson s.hiddenUpdates), ("bulk_calls", toJson s.bulkCalls),
      ("items_processed", toJson s.itemsProcessed), ("items_failed", toJson s.itemsFailed),
      ("unauthorized", toJson s.unauthorized), ("progress_reports", toJson s.progressReports),
      ("seed_changes", toJson s.seedChanges)]
  fromJson? v := do
    let ms ← Json.readMembers?
      ["started", "timestamp_run_save", "items", "items_updates", "hidden", "hidden_updates", "bulk_calls",
        "items_processed", "items_failed", "unauthorized", "progress_reports", "seed_changes"] v
    return {
      started := ← ms.required "started" fromJson?
      timestampSave := ← ms.required "timestamp_run_save" fromJson?
      items := ← ms.required "items" fromJson?
      itemsUpdates := ← ms.required "items_updates" fromJson?
      hidden := ← ms.required "hidden" fromJson?
      hiddenUpdates := ← ms.required "hidden_updates" fromJson?
      bulkCalls := ← ms.required "bulk_calls" fromJson?
      itemsProcessed := ← ms.required "items_processed" fromJson?
      itemsFailed := ← ms.required "items_failed" fromJson?
      unauthorized := ← ms.required "unauthorized" fromJson?
      progressReports := ← ms.required "progress_reports" fromJson?
      seedChanges := ← ms.required "seed_changes" fromJson? }

end TransferRegistry
