import TransferRegistry.Item.Error
import TransferRegistry.Log.Level
import TransferRegistry.Storage.Error

/-!
# What is logged

`Event` has a constructor for each kind of line; `Event.severity`, `Event.origin` and `Event.text` are what is shown
of it. A `Step` is what a request leaves, with the events it reported.
-/

namespace TransferRegistry

/-- What the program reports while it works. -/
inductive Event where
  -- items
  | itemAdded (id : ItemId) (name : String)
  | itemFailed (id : ItemId) (previous : ItemState)
  | uploadReset (id : ItemId)
  -- hidden ids
  | hid (id : ItemId)
  | passkeyRejected
  -- bulk requests
  | actionRefused (reason : ItemError)
  | itemDeleted (id : ItemId) (name : String)
  | orphanDropped (id : ItemId)
  | bulkDone (message : String)
  -- seeds
  | seedsSaved (count : UInt64)
  | seedsGenerated (count length : UInt64)
  | restartAcknowledged
  -- loading
  | duplicateSkipped (id : ItemId)
  | itemsLoaded (count : Nat)
  | mismatchDropped (entry item : ItemId)
  | storedTwice (id : ItemId)
  | hiddenLoaded (count : Nat)
  | seedsLoaded (count : Nat)
  | seedsAbsent
  -- flushing
  | itemsSynced (count : Nat)
  | hiddenSynced (count : Nat)
  | itemsRemoved (count : Nat)
  | changesFailed (items hidden : Nat) (reason : StorageError)
  | seedsFailed (reason : StorageError)
  | seedsSynced
  -- documents
  | directoryOpened (path : String)
  | keyDerived
  | documentWritten (name : String)
  -- configuration
  | passkeyEmpty
  | passkeyWeak
  -- the program
  | loggingStarted
  | programStarted (name version : String)
  | openFailed (path : String) (reason : StorageError)
  | loadFailed (reason : StorageError)
  | persistenceDisabled
  | deadlockWatchStarted
  | flushingStarted (interval : UInt64)
  | flushStarted
  | flushFailed (reason : StorageError)
  | flushCompleted
  | shutdownRequested
  | finalFlushStarted
  | finalFlushFailed (reason : StorageError)
  | shutdownCompleted
deriving DecidableEq

/-- The part of the program that reports. -/
inductive Origin where
  | program
  | logging
  | configuration
  | items
  | hidden
  | bulk
  | seeds
  | sync
  | documents
deriving DecidableEq

/-- The name of a part in a line. -/
def Origin.path : Origin → String
  | program => "swarm_keeper"
  | logging => "swarm_keeper::logging"
  | configuration => "swarm_keeper::config::impls::configuration"
  | items => "swarm_keeper::swarm::impls::swarm_manager_items"
  | hidden => "swarm_keeper::hidden::impls::hidden_set"
  | bulk => "swarm_keeper::swarm::impls::swarm_manager_actions"
  | seeds => "swarm_keeper::seeds::impls::seed_config_manager"
  | sync => "swarm_keeper::swarm::impls::swarm_manager_updates"
  | documents => "swarm_keeper::persistence::impls::json_state_backend"

namespace Event

def severity : Event → Severity
  | changesFailed .. | seedsFailed _ | openFailed .. | loadFailed _ | flushFailed _ | finalFlushFailed _ => .error
  | passkeyRejected | orphanDropped _ | duplicateSkipped _ | mismatchDropped .. | storedTwice _ | passkeyEmpty
  | passkeyWeak | persistenceDisabled => .warn
  | uploadReset _ | hid _ | actionRefused _ | itemDeleted .. | keyDerived | documentWritten _ => .debug
  | _ => .info

/-- The part that reports an event. -/
def origin : Event → Origin
  | itemAdded .. | itemFailed .. | uploadReset _ => .items
  | hid _ | passkeyRejected => .hidden
  | actionRefused _ | itemDeleted .. | orphanDropped _ | bulkDone _ => .bulk
  | seedsSaved _ | seedsGenerated .. | restartAcknowledged => .seeds
  | duplicateSkipped _ | itemsLoaded _ | mismatchDropped .. | storedTwice _ | hiddenLoaded _ | seedsLoaded _
  | seedsAbsent | itemsSynced _ | hiddenSynced _ | itemsRemoved _ | changesFailed .. | seedsFailed _
  | seedsSynced => .sync
  | directoryOpened _ | keyDerived | documentWritten _ => .documents
  | passkeyEmpty | passkeyWeak => .configuration
  | loggingStarted => .logging
  | _ => .program

def text : Event → String
  | itemAdded id name => s!"[ITEMS] Added {id} ({name})"
  | itemFailed id previous => s!"[ITEMS] {id} moved from {previous} to error"
  | uploadReset id => s!"[ITEMS] Reset upload counter of {id}"
  | hid id => s!"[HIDDEN] Hid {id}"
  | passkeyRejected => "[HIDDEN] Rejected request with an invalid or missing passkey"
  | actionRefused reason => s!"[BULK] {reason.message}"
  | itemDeleted id name => s!"[BULK] Deleted {id} ({name})"
  | orphanDropped id => s!"[HIDDEN] Dropped orphan hidden entry {id}"
  | bulkDone message => s!"[BULK] {message}"
  | seedsSaved count => s!"[SEEDS] Saved {count} seeds, restart required"
  | seedsGenerated count length => s!"[SEEDS] Generated {count} seeds of {length} characters, restart required"
  | restartAcknowledged => "[SEEDS] Restart acknowledged"
  | duplicateSkipped id => s!"[LOAD ITEMS] Skipped duplicate item {id}"
  | itemsLoaded count => s!"[LOAD ITEMS] Loaded {count} items"
  | mismatchDropped entry item => s!"[LOAD HIDDEN] Dropped hidden entry {entry} carrying item {item}"
  | storedTwice id => s!"[LOAD HIDDEN] {id} was also stored as visible, moving it back under seal"
  | hiddenLoaded count => s!"[LOAD HIDDEN] Loaded {count} hidden entries"
  | seedsLoaded count => s!"[LOAD SEEDS] Loaded {count} seeds"
  | seedsAbsent => "[LOAD SEEDS] No persisted seeds, using the configured defaults"
  | itemsSynced count => s!"[SYNC ITEMS UPDATES] Synced {count} items"
  | hiddenSynced count => s!"[SYNC HIDDEN UPDATES] Synced {count} hidden records"
  | itemsRemoved count => s!"[SYNC ITEMS UPDATES] Removed {count} items"
  | changesFailed items hidden reason =>
    s!"[SYNC UPDATES] Unable to sync {items} item and {hidden} hidden changes: {reason.message}"
  | seedsFailed reason => s!"[SYNC SEEDS] Unable to sync the seed config: {reason.message}"
  | seedsSynced => "[SYNC SEEDS] Synced the seed config"
  | directoryOpened path => s!"[PERSIST] Using state directory {path}"
  | keyDerived => "[PERSIST] Derived the hidden record key"
  | documentWritten name => s!"[PERSIST] Wrote {name}"
  | passkeyEmpty => "[VALIDATE CONFIG] [core] hidden_passkey is empty, hidden items cannot be restored"
  | passkeyWeak => "[VALIDATE CONFIG] [core] hidden_passkey is weak, use at least 12 characters of mixed classes"
  | loggingStarted => "logging initialized."
  | programStarted name version => s!"{name} - Version: {version}"
  | openFailed path reason => s!"[BOOT] Unable to open state directory {path}: {reason.message}"
  | loadFailed reason => s!"[BOOT] Unable to load persisted state: {reason.message}"
  | persistenceDisabled => "[BOOT] Persistence is disabled, state will be lost on shutdown"
  | deadlockWatchStarted => "[BOOT] Starting thread for deadlocks..."
  | flushingStarted interval => s!"[BOOT] Starting thread for state updates with {interval} seconds delay..."
  | flushStarted => "[STATE UPDATES] Starting batch updates..."
  | flushFailed reason => s!"[STATE UPDATES] Batch updates failed, retrying next round: {reason.message}"
  | flushCompleted => "[STATE UPDATES] Batch updates completed"
  | shutdownRequested => "Shutdown request received, shutting down..."
  | finalFlushStarted => "Saving final state..."
  | finalFlushFailed reason => s!"Unable to save final state: {reason.message}"
  | shutdownCompleted => "Shutting down completed"

end Event

/-- What a request leaves: the state after it, the answer, and what was logged meanwhile. -/
structure Step (σ α : Type) where
  state : σ
  answer : α
  log : List Event

/-- The same state and answer after events that came before. -/
def Step.after {σ α : Type} (log : List Event) (step : Step σ α) : Step σ α :=
  { step with log := log ++ step.log }

end TransferRegistry
