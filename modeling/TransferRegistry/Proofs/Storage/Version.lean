import TransferRegistry.Proofs.Storage.Content

/-!
# Documents of another version

A document is decoded as a whole before its version is looked at, so the version of a foreign document is told only where
its data happen to have the present form.

* `StateDocument.Writes`: a text is a record with some version and some data, whatever their form;
  `StateDocument.writes_pretty` is such a text.
* `foreignFault`: why a document of another version is refused.
* `StateDirectory.refused_foreign`: every request that reads a document of another version is refused for that.
* `StateDirectory.untold_foreign`: documents of version 2 with data of another form, whose version no request tells.
-/

namespace TransferRegistry

open Crypto (Bytes)
open Json (Codec fromJson? toJson)

variable {α : Type}

/-- The bytes are the text of a record with a version and data, which may be anything. -/
def StateDocument.Writes (content : Bytes) (version : UInt32) (data : Json) : Prop :=
  ∃ text value members, Text.ofUtf8? content = some text ∧ Json.parse? text = some value ∧
    Json.readMembers? ["version", "data"] value = some members ∧
    members.required "version" fromJson? = some version ∧ members.get? "data" = some data

/-- What is decoded of such a record. -/
theorem StateDocument.Writes.decodeBytes? [Codec α] {content : Bytes} {version : UInt32} {data : Json}
    (h : StateDocument.Writes content version data) :
    (decodeBytes? content : Option (StateDocument α)) = (fromJson? data).map fun a => ⟨version, a⟩ := by
  obtain ⟨text, value, members, htext, hvalue, hmembers, hversion, hdata⟩ := h
  have hread : (fromJson? value : Option (StateDocument α)) = (fromJson? data).map fun a => ⟨version, a⟩ := by
    show (Json.readMembers? ["version", "data"] value).bind _ = _
    rw [hmembers, Option.bind_some, hversion]
    show (members.required "data" fromJson?).bind _ = _
    rw [Json.Members.required, hdata, Option.bind_some]
    cases (fromJson? data : Option α) <;> rfl
  rw [TransferRegistry.decodeBytes?, htext, Option.bind_eq_bind, Option.bind_some, hvalue]
  exact hread

/-- Each value can be the data of a document in each version. -/
theorem StateDocument.writes_pretty (version : UInt32) {data : Json} (h : Json.Proper data) :
    StateDocument.Writes (Text.utf8 (Json.record [("version", toJson version), ("data", data)]).pretty) version data := by
  have hproper : Json.Proper (Json.record [("version", toJson version), ("data", data)]) := by
    refine Json.proper_record fun m hm => ?_
    simp only [List.mem_cons, List.not_mem_nil, or_false] at hm
    rcases hm with rfl | rfl
    · exact Json.Faithful.proper version
    · exact h
  refine ⟨_, _, _, Text.ofUtf8?_utf8 _, Json.parse?_pretty hproper, Json.readMembers?_record rfl (by decide), ?_, rfl⟩
  exact Json.required_of_lookup (a := version) rfl

/-- Why a document of another version is refused: for the version if its data have the form of `α`, else for the data. -/
def foreignFault (α : Type) [Codec α] (name : String) (version : UInt32) (data : Json) : StorageError :=
  match (fromJson? data : Option α) with
  | some _ => .unsupportedVersion name version
  | none => .serialization

theorem StateDocument.ofBytes_foreign [Codec α] {content : Bytes} {version : UInt32} {data : Json}
    (h : StateDocument.Writes content version data) (hversion : version ≠ stateVersion) (name : String) :
    (StateDocument.ofBytes name content : Except StorageError α) = .error (foreignFault α name version data) := by
  rw [StateDocument.ofBytes, h.decodeBytes?, foreignFault]
  cases (fromJson? data : Option α) with
  | some a => exact if_neg hversion
  | none => rfl

namespace StateDirectory

open DiskAction (on_bind_error call_eq)

/-- There is a document with a version and data. -/
def Stores (dir : StateDirectory) (d : Disk) (name : String) (version : UInt32) (data : Json) : Prop :=
  ∃ content, d.files.read (dir.file name) = .ok content ∧ StateDocument.Writes content version data

section

variable {dir : StateDirectory} {d : Disk} {name : String} {version : UInt32} {data : Json}

theorem on_readDocument_foreign [Codec α] (h : dir.Stores d name version data) (hversion : version ≠ stateVersion) :
    (dir.readDocument (α := α) name).on d = (.error (foreignFault α name version data), d) := by
  obtain ⟨content, hread, hwrites⟩ := h
  rw [on_readDocument, document, hread]
  simp only [StateDocument.ofBytes_foreign hwrites hversion]
  rfl

theorem items_foreign (h : dir.Stores d itemsFile version data) (hversion : version ≠ stateVersion) :
    (dir.backend.loadItems d).answer = .error (foreignFault (List Item) itemsFile version data) ∧
      ∀ changes, (dir.backend.saveItems changes d).answer =
        .error (foreignFault (List Item) itemsFile version data) := by
  have hload : dir.loadItems.on { d with log := [] } = (.error (foreignFault (List Item) itemsFile version data), _) :=
    on_bind_error (on_readDocument_foreign (d := { d with log := [] }) h hversion) _
  exact ⟨(call_eq hload).1, fun _ => (call_eq (on_bind_error hload _)).1⟩

theorem hidden_foreign (h : dir.Stores d hiddenFile version data) (hversion : version ≠ stateVersion) :
    (dir.backend.loadHidden d).answer = .error (foreignFault SealedDocument hiddenFile version data) ∧
      ∀ changes, (dir.backend.saveHidden changes d).answer =
        .error (foreignFault SealedDocument hiddenFile version data) := by
  have hread : dir.readHidden.on { d with log := [] } = (.error (foreignFault SealedDocument hiddenFile version data), _) :=
    on_bind_error (on_readDocument_foreign (d := { d with log := [] }) h hversion) _
  exact ⟨(call_eq (on_bind_error hread _)).1, fun _ => (call_eq (on_bind_error hread _)).1⟩

theorem seeds_foreign (h : dir.Stores d seedsFile version data) (hversion : version ≠ stateVersion) :
    (dir.backend.loadSeeds d).answer = .error (foreignFault SeedConfig seedsFile version data) := by
  have hread : (dir.readDocument (α := SeedConfig) seedsFile).on { d with log := [] } =
      (.error (foreignFault SeedConfig seedsFile version data), _) := on_readDocument_foreign h hversion
  exact (call_eq hread).1

end

/-- **A document of another version is refused** by every request that reads it, and for its version exactly where its
data have the present form. -/
theorem refused_foreign {version : UInt32} (hversion : version ≠ stateVersion) (dir : StateDirectory) (d : Disk)
    (data : Json) :
    (dir.Stores d itemsFile version data →
      (dir.backend.loadItems d).answer = .error (foreignFault (List Item) itemsFile version data) ∧
        ∀ changes, (dir.backend.saveItems changes d).answer =
          .error (foreignFault (List Item) itemsFile version data)) ∧
    (dir.Stores d hiddenFile version data →
      (dir.backend.loadHidden d).answer = .error (foreignFault SealedDocument hiddenFile version data) ∧
        ∀ changes, (dir.backend.saveHidden changes d).answer =
          .error (foreignFault SealedDocument hiddenFile version data)) ∧
    (dir.Stores d seedsFile version data →
      (dir.backend.loadSeeds d).answer = .error (foreignFault SeedConfig seedsFile version data)) :=
  ⟨fun h => items_foreign h hversion, fun h => hidden_foreign h hversion, fun h => seeds_foreign h hversion⟩

namespace Sample

/-- A record of another form than those that are stored. -/
def otherForm : Json := .record [("items", .arr [])]

def noSeeds : SeedConfig := ⟨[], 1, 0, false⟩

theorem proper_otherForm : Json.Proper otherForm :=
  Json.proper_record fun m hm => by
    obtain rfl := List.mem_singleton.1 hm
    exact .arr (List.forall_mem_nil _)

/-- The text of a document of version 2. -/
def second (data : Json) : Bytes :=
  Text.utf8 (Json.record [("version", toJson (2 : UInt32)), ("data", data)]).pretty

/-- A directory of documents of version 2. -/
def foreign (items hidden seeds : Json) : Disk :=
  .start ⟨(((∅ : FileTree).nodes.insert (vault.file itemsFile) (.file (second items))).insert (vault.file hiddenFile)
    (.file (second hidden))).insert (vault.file seedsFile) (.file (second seeds))⟩ none default

theorem stores_foreign {items hidden seeds : Json} (hitems : Json.Proper items) (hhidden : Json.Proper hidden)
    (hseeds : Json.Proper seeds) :
    vault.Stores (foreign items hidden seeds) itemsFile 2 items ∧
      vault.Stores (foreign items hidden seeds) hiddenFile 2 hidden ∧
      vault.Stores (foreign items hidden seeds) seedsFile 2 seeds := by
  have hput : ∀ (t : FileTree) (name : String) (content : Bytes), t.read (vault.file name) = .error .notFound →
      FileTree.read ⟨t.nodes.insert (vault.file name) (.file content)⟩ (vault.file name) = .ok content := by
    intro t name content hnone
    refine FileTree.read_insert (vault.file_ne_nil name) ?_ content
    rw [hnone]
    exact nofun
  have haside : ∀ (t : FileTree) (name other : String) (content : Bytes), name ≠ other →
      FileTree.read ⟨t.nodes.insert (vault.file name) (.file content)⟩ (vault.file other) = t.read (vault.file other) :=
    fun t name other content hne => FileTree.read_insert_of_aside (vault.file_aside hne) _
  refine ⟨⟨second items, ?_, StateDocument.writes_pretty 2 hitems⟩,
    ⟨second hidden, ?_, StateDocument.writes_pretty 2 hhidden⟩, ⟨second seeds, ?_, StateDocument.writes_pretty 2 hseeds⟩⟩
  · refine (haside _ _ _ _ (by decide)).trans ((haside _ _ _ _ (by decide)).trans ?_)
    exact hput ∅ _ _ (by decide +kernel)
  · refine (haside _ _ _ _ (by decide)).trans (hput _ _ _ ?_)
    exact (haside _ _ _ _ (by decide)).trans (by decide +kernel)
  · refine hput _ _ _ ?_
    exact (haside _ _ _ _ (by decide)).trans ((haside _ _ _ _ (by decide)).trans (by decide +kernel))

/-- Items and seeds in their form, and hidden records in another. -/
def half : Disk := foreign (.arr []) otherForm (toJson noSeeds)

/-- All documents in another form. -/
def garbled : Disk := foreign otherForm otherForm otherForm

end Sample

/-- Items and seeds are refused for their version; the hidden records are not, as their data have another form. -/
theorem refused_foreign_sample :
    (2 : UInt32) ≠ stateVersion ∧ Sample.vault.Stores Sample.half itemsFile 2 (.arr []) ∧
      Sample.vault.Stores Sample.half hiddenFile 2 Sample.otherForm ∧
      Sample.vault.Stores Sample.half seedsFile 2 (toJson Sample.noSeeds) ∧
      (Sample.vault.backend.loadItems Sample.half).answer = .error (.unsupportedVersion itemsFile 2) ∧
      (Sample.vault.backend.saveItems ∅ Sample.half).answer = .error (.unsupportedVersion itemsFile 2) ∧
      (Sample.vault.backend.loadHidden Sample.half).answer = .error .serialization ∧
      (Sample.vault.backend.saveHidden ∅ Sample.half).answer = .error .serialization ∧
      (Sample.vault.backend.loadSeeds Sample.half).answer = .error (.unsupportedVersion seedsFile 2) := by
  have hversion : (2 : UInt32) ≠ stateVersion := by decide
  have hempty : Json.Proper (.arr []) := .arr (List.forall_mem_nil _)
  obtain ⟨hitems, hhidden, hseeds⟩ :=
    Sample.stores_foreign hempty Sample.proper_otherForm (Json.Faithful.proper Sample.noSeeds)
  have hlist : foreignFault (List Item) itemsFile 2 (.arr []) = .unsupportedVersion itemsFile 2 := by decide +kernel
  have hsealed : foreignFault SealedDocument hiddenFile 2 Sample.otherForm = .serialization := by decide +kernel
  have hconfig : foreignFault SeedConfig seedsFile 2 (toJson Sample.noSeeds) = .unsupportedVersion seedsFile 2 := by
    decide +kernel
  have hrefused := refused_foreign hversion Sample.vault Sample.half
  obtain ⟨hloadItems, hsaveItems⟩ := (hrefused _).1 hitems
  obtain ⟨hloadHidden, hsaveHidden⟩ := (hrefused _).2.1 hhidden
  have hloadSeeds := (hrefused _).2.2 hseeds
  rw [hlist] at hloadItems hsaveItems
  rw [hsealed] at hloadHidden hsaveHidden
  rw [hconfig] at hloadSeeds
  exact ⟨hversion, hitems, hhidden, hseeds, hloadItems, hsaveItems ∅, hloadHidden, hsaveHidden ∅, hloadSeeds⟩

/-- No request tells the version of documents whose data have another form. -/
theorem untold_foreign :
    (2 : UInt32) ≠ stateVersion ∧ Sample.vault.Stores Sample.garbled itemsFile 2 Sample.otherForm ∧
      Sample.vault.Stores Sample.garbled hiddenFile 2 Sample.otherForm ∧
      Sample.vault.Stores Sample.garbled seedsFile 2 Sample.otherForm ∧
      (Sample.vault.backend.loadItems Sample.garbled).answer = .error .serialization ∧
      (Sample.vault.backend.saveItems ∅ Sample.garbled).answer = .error .serialization ∧
      (Sample.vault.backend.loadHidden Sample.garbled).answer = .error .serialization ∧
      (Sample.vault.backend.saveHidden ∅ Sample.garbled).answer = .error .serialization ∧
      (Sample.vault.backend.loadSeeds Sample.garbled).answer = .error .serialization := by
  have hversion : (2 : UInt32) ≠ stateVersion := by decide
  obtain ⟨hitems, hhidden, hseeds⟩ :=
    Sample.stores_foreign Sample.proper_otherForm Sample.proper_otherForm Sample.proper_otherForm
  have hlist : foreignFault (List Item) itemsFile 2 Sample.otherForm = .serialization := by decide +kernel
  have hsealed : foreignFault SealedDocument hiddenFile 2 Sample.otherForm = .serialization := by decide +kernel
  have hconfig : foreignFault SeedConfig seedsFile 2 Sample.otherForm = .serialization := by decide +kernel
  obtain ⟨hloadItems, hsaveItems⟩ := items_foreign hitems hversion
  obtain ⟨hloadHidden, hsaveHidden⟩ := hidden_foreign hhidden hversion
  have hloadSeeds := seeds_foreign hseeds hversion
  rw [hlist] at hloadItems hsaveItems
  rw [hsealed] at hloadHidden hsaveHidden
  rw [hconfig] at hloadSeeds
  exact ⟨hversion, hitems, hhidden, hseeds, hloadItems, hsaveItems ∅, hloadHidden, hsaveHidden ∅, hloadSeeds⟩

end StateDirectory

end TransferRegistry
