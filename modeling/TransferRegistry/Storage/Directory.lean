import TransferRegistry.Storage.Backend
import TransferRegistry.Storage.Document
import TransferRegistry.Storage.Seal
import TransferRegistry.Text.Quoted

/-!
# State in a directory

`StateDirectory` keeps state in three documents of a directory: the visible items, the sealed hidden records, and the
seeds. A document is written to a file of its own first, which then takes the place of the document: a write that fails
may leave anything in its file, and so it leaves the document as it was. To change a collection the stored one is read
first; what cannot be read is never overwritten. The last key is kept, and a new one is derived only for another salt.
-/

namespace TransferRegistry

open Crypto (Bytes)
open Json (Codec toJson fromJson?)

/-- A directory and the passkey of its hidden records. -/
structure StateDirectory where
  path : FilePath
  passkey : String

/-- The files and what they were after each change so far, the last key, the random supply, and what was logged. -/
structure Disk where
  files : FileTree
  history : List FileTree
  key : Option SealKey
  entropy : Entropy
  log : List Event
  /-- What becomes of the next files that are written: one with some content fails and is left with that content. -/
  faults : List (Option Bytes)

/-- A disk to which nothing was done yet, and on which no write fails halfway. -/
def Disk.start (files : FileTree) (key : Option SealKey) (entropy : Entropy) : Disk := ⟨files, [], key, entropy, [], []⟩

/-- An action on the files that may fail. -/
abbrev DiskAction (α : Type) := ExceptT StorageError (StateM Disk) α

def Disk.report (event : Event) : DiskAction Unit := modify fun d => { d with log := d.log ++ [event] }

/-- Takes what is needed out of the random supply. -/
def Disk.draw {α : Type} (take : Entropy → α × Entropy) : DiskAction α :=
  modifyGet fun d =>
    let (a, entropy) := take d.entropy
    (a, { d with entropy })

namespace StateDirectory

def itemsFile : String := "items.json"
def hiddenFile : String := "hidden.json"
def seedsFile : String := "seeds.json"

variable (dir : StateDirectory)

def file (name : String) : FilePath := dir.path ++ [name]

/-! ## Documents -/

/-- The data of the document with a name, if there is one. -/
def readDocument {α : Type} [Codec α] (name : String) : DiskAction (Option α) := do
  match (← get).files.read (dir.file name) with
  | .error .notFound => return none
  | .error .other => throw .io
  | .ok content =>
    let data ← MonadExcept.ofExcept (StateDocument.ofBytes name content)
    return some data

def changeFiles (change : FileTree → Except FileError FileTree) : DiskAction Unit := do
  match change (← get).files with
  | .ok files => modify fun d => { d with files, history := d.history ++ [files] }
  | .error _ => throw .io

/-- Takes what becomes of the next file that is written. -/
def nextFault : DiskAction (Option Bytes) :=
  modifyGet fun d => (d.faults.head?.join, { d with faults := d.faults.tail })

/-- Puts a file with a content at a path. Where that fails halfway, another content is left there. -/
def writeFile (path : FilePath) (content : Bytes) : DiskAction Unit := do
  match ← nextFault with
  | none => changeFiles (·.write path content)
  | some torn =>
    changeFiles (·.write path torn)
    throw .io

def writeDocument {α : Type} [Codec α] (name : String) (data : α) : DiskAction Unit := do
  let draft := dir.file (name ++ ".tmp")
  writeFile draft (StateDocument.bytes data)
  changeFiles (·.rename draft (dir.file name))
  Disk.report (.documentWritten name)

/-! ## Hidden records -/

/-- Whether a key can be used for a salt; without a salt any key can. -/
def usable (salt : Option Bytes) (key : SealKey) : Bool :=
  match salt with
  | none => true
  | some salt => key.salt = salt

/-- The key for a salt, or without one the last key, or one with a new salt. -/
def sealKey (salt : Option Bytes) : DiskAction SealKey := do
  match (← get).key.filter (usable salt) with
  | some key => return key
  | none =>
    let salt ← match salt with
      | some salt => pure salt
      | none => Disk.draw SealKey.generateSalt
    let key ← MonadExcept.ofExcept (SealKey.derive dir.passkey salt)
    Disk.report .keyDerived
    modify fun d => { d with key := some key }
    return key

def openRecord (key : SealKey) (r : SealedRecord) : Except StorageError HiddenRecord :=
  match key.decrypt? r with
  | none => .error .unsealFailed
  | some plain =>
    match decodeBytes? plain with
    | none => .error .serialization
    | some record => .ok record

/-- Opens stored records, up to the first that cannot be opened. -/
def openRecords (key : SealKey) : List SealedRecord → Except StorageError (List HiddenRecord)
  | [] => .ok []
  | r :: rest => do
    let record ← openRecord key r
    let records ← openRecords key rest
    return record :: records

/-- The stored hidden records, by the ids of their entries. -/
def readHidden : DiskAction (Std.ExtTreeMap ItemId HiddenRecord) := do
  match ← dir.readDocument (α := SealedDocument) hiddenFile with
  | none => return ∅
  | some document =>
    match Text.Base64.decode? document.salt with
    | none => throw .unsealFailed
    | some salt =>
      let key ← dir.sealKey (some salt)
      let records ← MonadExcept.ofExcept (openRecords key document.records)
      return byId (·.entry.id) records

/-- Seals records, each under a new nonce. -/
def sealRecords (key : SealKey) : List HiddenRecord → DiskAction (List SealedRecord)
  | [] => return []
  | record :: records => do
    let nonce ← Disk.draw SealKey.generateNonce
    let rest ← sealRecords key records
    return key.encrypt nonce (compactBytes record) :: rest

/-! ## Requests -/

/-- The visible items; none where there is no document. -/
def loadItems : DiskAction (List Item) := do
  return (← dir.readDocument itemsFile).getD []

/-- The hidden records in the order of their ids; none where there is no document. -/
def loadHidden : DiskAction (List HiddenRecord) := do
  return (← dir.readHidden).values

def loadSeeds : DiskAction (Option SeedConfig) := dir.readDocument seedsFile

/-- Does changes to the visible items; the answer is how many. -/
def saveItems (changes : ItemChanges) : DiskAction Nat := do
  let stored ← dir.loadItems
  dir.writeDocument itemsFile (applyChanges (byId (·.id) stored) changes).values
  return changes.size

/-- Does changes to the hidden records, all of which are sealed anew; the answer is how many. -/
def saveHidden (changes : HiddenChanges) : DiskAction Nat := do
  let stored ← dir.readHidden
  let key ← dir.sealKey none
  let records ← sealRecords key (applyChanges stored changes).values
  dir.writeDocument hiddenFile (⟨key.saltText, records⟩ : SealedDocument)
  return changes.size

def saveSeeds (config : SeedConfig) : DiskAction Unit := dir.writeDocument seedsFile config

/-- Makes the directory, which is shown as `shown`. -/
def create (shown : String) : DiskAction Unit := do
  changeFiles (·.createDirectories dir.path)
  Disk.report (.directoryOpened shown)

/-- How a directory is shown where secrets must not be. -/
def debugText (shown : String) : String :=
  s!"JsonStateBackend \x7b path: {Text.quoted shown}, passkey: \"<redacted>\" \x7d"

end StateDirectory

def DiskAction.call {α : Type} (action : DiskAction α) : Call Disk α := fun d =>
  let (answer, after) := action.run.run { d with log := [] }
  ⟨after, answer, after.log⟩

def StateDirectory.backend (dir : StateDirectory) : Backend Disk where
  loadItems := dir.loadItems.call
  loadHidden := dir.loadHidden.call
  loadSeeds := dir.loadSeeds.call
  saveItems changes := (dir.saveItems changes).call
  saveHidden changes := (dir.saveHidden changes).call
  saveSeeds config := (dir.saveSeeds config).call

end TransferRegistry
