import TransferRegistry.Json.Codec
import TransferRegistry.Json.Parser
import TransferRegistry.Json.Printer
import TransferRegistry.Storage.Error
import TransferRegistry.Storage.FileTree
import TransferRegistry.Text.Utf8

/-!
# Stored documents

A stored document is a JSON file with a version and data. `StateDocument.bytes` is its file, and
`StateDocument.ofBytes` reads the data back; a document is decoded as a whole before its version is looked at.
-/

namespace TransferRegistry

open Crypto (Bytes)
open Json (Codec toJson fromJson?)

variable {α : Type}

/-- Data with the version of its form. -/
structure StateDocument (α : Type) where
  version : UInt32
  data : α
deriving DecidableEq

instance [Codec α] : Codec (StateDocument α) where
  toJson d := .record [("version", toJson d.version), ("data", toJson d.data)]
  fromJson? v := do
    let ms ← Json.readMembers? ["version", "data"] v
    return { version := ← ms.required "version" fromJson?, data := ← ms.required "data" fromJson? }

/-- The value that is decoded from the bytes of a JSON text. -/
def decodeBytes? [Codec α] (b : Bytes) : Option α := do
  let s ← Text.ofUtf8? b
  let v ← Json.parse? s
  fromJson? v

/-- The bytes of a value on one line. -/
def compactBytes [Codec α] (a : α) : Bytes := Text.utf8 (toJson a).compact

namespace StateDocument

/-- The file of data in the present version. -/
def bytes [Codec α] (data : α) : Bytes := Text.utf8 (toJson (⟨stateVersion, data⟩ : StateDocument α)).pretty

def ofBytes [Codec α] (name : String) (b : Bytes) : Except StorageError α :=
  match (decodeBytes? b : Option (StateDocument α)) with
  | none => .error .serialization
  | some d => if d.version = stateVersion then .ok d.data else .error (.unsupportedVersion name d.version)

end StateDocument

end TransferRegistry
