import TransferRegistry.Proofs.Storage.Archive
import TransferRegistry.Proofs.Storage.Directory

/-!
# What the documents of a directory contain

* `StateDirectory.Alike`: two disks have the same documents, and `Untouched` all the same files; to load leaves them so.
* `storedCopy`: of the items of a document, the one that is loaded for an id.
* `Content`: any items in any order, and any hidden records under the ids of their entries. `Content.archive` has the
  items by their ids, and a write makes of it what `Archive.after` says (`archive_after`, `foldl_after`).
* `StateDirectory.Contains`: the documents of a directory have a content. `contains_of_loads`: they have one where they
  can be loaded.
* `StateDirectory.Unreliable`: a backend that does what the directory does, or fails and leaves the documents as they
  were. `Contains.finishes_write`, `Contains.finishes_saveSeeds`: a request to it is done as a whole or not at all;
  `Contains.runWrites`: a list of writes is done up to the first that fails.
-/

namespace TransferRegistry

open Json (Codec Faithful reread)

variable {α : Type}

theorem DiskAction.call_eq {action : DiskAction α} {d d' : Disk} {answer : Except StorageError α}
    (h : action.on { d with log := [] } = (answer, d')) :
    (action.call d).answer = answer ∧ (action.call d).state = d' := by
  have hrun : action.run.run { d with log := [] } = (answer, d') := h
  simp only [DiskAction.call, hrun, and_self]

/-- The copy of an id among the items of a document, as it is loaded. -/
def storedCopy (items : List Item) (id : ItemId) : Option Item := (items.find? (·.id = id)).map (·.refreshRatio)

/-- What is in the documents. -/
structure Content where
  items : List Item
  hidden : Std.ExtTreeMap ItemId HiddenRecord
  seeds : Option SeedConfig

namespace Content

/-- The items by their ids, and the rest. -/
def archive (c : Content) : Archive := ⟨byId (·.id) c.items, c.hidden, c.seeds⟩

/-- The content after a write. -/
def after (c : Content) (w : Write) : Content :=
  match w with
  | .upserts _ | .removals _ => { c with items := (c.archive.after w).visible.values }
  | .hiddenRecords _ => { c with hidden := (c.archive.after w).hidden }

theorem archive_after (c : Content) {w : Write} (hw : w.WellKeyed) : (c.after w).archive = c.archive.after w := by
  have hitems : ∀ changes : ItemChanges, (Write.upserts changes).WellKeyed →
      byId (·.id) ((applyChanges (byId (·.id) c.items) changes).map fun _ => reread).values =
        (applyChanges (byId (·.id) c.items) changes).map fun _ => reread := fun changes hc =>
    byId_values (((keyed_byId _ c.items).applyChanges hc).map Item.id_reread)
  cases w with
  | upserts changes | removals changes => exact congrArg (Archive.mk · c.hidden c.seeds) (hitems changes hw)
  | hiddenRecords changes => rfl

theorem items_after_upserts (c : Content) (changes : ItemChanges) :
    (c.after (.upserts changes)).items = ((applyChanges (byId (·.id) c.items) changes).map fun _ => reread).values := rfl

theorem nodup_after {c : Content} (h : (c.items.map (·.id)).Nodup) {w : Write} (hw : w.WellKeyed) :
    ((c.after w).items.map (·.id)).Nodup := by
  have hkeyed : ∀ changes : ItemChanges, (Write.upserts changes).WellKeyed →
      (((applyChanges (byId (·.id) c.items) changes).map fun _ => Json.reread).values.map (·.id)).Nodup :=
    fun changes hc => (((keyed_byId _ c.items).applyChanges hc).map Item.id_reread).nodup_values
  cases w with
  | upserts changes | removals changes => exact hkeyed changes hw
  | hiddenRecords changes => exact h

theorem foldl_after {c : Content} {writes : List Write} (hw : ∀ w ∈ writes, w.WellKeyed) (h : (c.items.map (·.id)).Nodup) :
    (writes.foldl after c).archive = writes.foldl Archive.after c.archive ∧
      ((writes.foldl after c).items.map (·.id)).Nodup := by
  induction writes generalizing c with
  | nil => exact ⟨rfl, h⟩
  | cons w writes ih =>
    have hfirst := hw w List.mem_cons_self
    rw [List.foldl_cons, List.foldl_cons, ← c.archive_after hfirst]
    exact ih (fun other ho => hw other (List.mem_cons_of_mem _ ho)) (nodup_after h hfirst)

end Content

namespace StateDirectory

open DiskAction (on_bind call_eq)

variable {dir : StateDirectory} {d d' : Disk} {c : Content}

/-! ## Disks with the same documents -/

/-- The documents are the same, and a key that fits still does. -/
structure Alike (dir : StateDirectory) (d d' : Disk) : Prop where
  reads (name : String) (hname : name ∈ documents) : d'.files.read (dir.file name) = d.files.read (dir.file name)
  key : dir.KeyFits d → dir.KeyFits d'

theorem Alike.refl (dir : StateDirectory) (d : Disk) : dir.Alike d d := ⟨fun _ _ => rfl, id⟩

theorem Alike.trans {d'' : Disk} (h : dir.Alike d d') (h' : dir.Alike d' d'') : dir.Alike d d'' :=
  ⟨fun name hn => (h'.reads name hn).trans (h.reads name hn), h'.key ∘ h.key⟩

/-- All files are the same. -/
structure Untouched (dir : StateDirectory) (d d' : Disk) : Prop extends d.SameFiles d' where
  key : dir.KeyFits d → dir.KeyFits d'

theorem Untouched.trans {d'' : Disk} (h : dir.Untouched d d') (h' : dir.Untouched d' d'') : dir.Untouched d d'' :=
  ⟨h.toSameFiles.trans h'.toSameFiles, h'.key ∘ h.key⟩

theorem Untouched.alike (h : dir.Untouched d d') : dir.Alike d d' := ⟨fun _ _ => by rw [h.files], h.key⟩

theorem alike_of_files (hfiles : d.SameFiles d') (hkey : dir.KeyFits d') : dir.Alike d d' :=
  Untouched.alike ⟨hfiles, fun _ => hkey⟩

/-- The log is no part of the documents. -/
theorem alike_unlogged (dir : StateDirectory) (d : Disk) : dir.Alike d { d with log := [] } := ⟨fun _ _ => rfl, id⟩

theorem document_congr [Codec α] {t t' : FileTree} {name : String}
    (h : t'.read (dir.file name) = t.read (dir.file name)) :
    dir.document (α := α) t' name = dir.document t name := by rw [document, document, h]

theorem hiddenIn_congr {t t' : FileTree} (h : t'.read (dir.file hiddenFile) = t.read (dir.file hiddenFile)) :
    dir.hiddenIn t' = dir.hiddenIn t := by rw [hiddenIn, hiddenIn, document_congr h]

theorem itemsFile_mem : itemsFile ∈ documents := by simp [documents]
theorem hiddenFile_mem : hiddenFile ∈ documents := by simp [documents]
theorem seedsFile_mem : seedsFile ∈ documents := by simp [documents]

/-! ## What is loaded -/

theorem on_loadItems (dir : StateDirectory) (d : Disk) :
    dir.loadItems.on d = ((dir.document d.files itemsFile).map (·.getD []), d) := by
  unfold StateDirectory.loadItems
  rw [on_bind, on_readDocument]
  cases dir.document (α := List Item) d.files itemsFile <;> rfl

theorem on_loadHidden (hkey : dir.KeyFits d) :
    ∃ d', dir.loadHidden.on d = ((dir.hiddenIn d.files).map (·.values), d') ∧ d.SameFiles d' ∧ dir.KeyFits d' := by
  obtain ⟨d', hread, hfiles, hfits, -⟩ := on_readHidden hkey
  refine ⟨d', ?_, hfiles, hfits⟩
  rw [StateDirectory.loadHidden, on_bind, hread]
  cases dir.hiddenIn d.files <;> rfl

theorem loadItems_eq (dir : StateDirectory) (d : Disk) :
    (dir.backend.loadItems d).answer = (dir.document d.files itemsFile).map (·.getD []) ∧
      dir.Untouched d (dir.backend.loadItems d).state := by
  obtain ⟨hanswer, hstate⟩ := call_eq (dir.on_loadItems { d with log := [] })
  refine ⟨hanswer, ?_⟩
  show dir.Untouched d (dir.loadItems.call d).state
  rw [hstate]
  exact ⟨⟨rfl, rfl⟩, id⟩

theorem loadHidden_eq (hkey : dir.KeyFits d) :
    (dir.backend.loadHidden d).answer = (dir.hiddenIn d.files).map (·.values) ∧
      dir.Untouched d (dir.backend.loadHidden d).state := by
  have hkey : dir.KeyFits { d with log := [] } := hkey
  obtain ⟨d', hload, hfiles, hfits⟩ := on_loadHidden hkey
  obtain ⟨hanswer, hstate⟩ := call_eq hload
  refine ⟨hanswer, ?_⟩
  show dir.Untouched d (dir.loadHidden.call d).state
  rw [hstate]
  exact ⟨⟨hfiles.files, hfiles.faults⟩, fun _ => hfits⟩

theorem loadSeeds_eq (dir : StateDirectory) (d : Disk) :
    (dir.backend.loadSeeds d).answer = dir.document d.files seedsFile ∧
      dir.Untouched d (dir.backend.loadSeeds d).state := by
  have hon : dir.loadSeeds.on { d with log := [] } = (dir.document d.files seedsFile, { d with log := [] }) := by
    rw [StateDirectory.loadSeeds, on_readDocument]
  obtain ⟨hanswer, hstate⟩ := call_eq hon
  refine ⟨hanswer, ?_⟩
  show dir.Untouched d (dir.loadSeeds.call d).state
  rw [hstate]
  exact ⟨⟨rfl, rfl⟩, id⟩

/-! ## Documents with a content -/

/-- The documents of a directory have a content. -/
structure Contains (dir : StateDirectory) (d : Disk) (c : Content) : Prop where
  key : dir.KeyFits d
  items : (dir.document d.files itemsFile).map (·.getD []) = .ok c.items
  hidden : dir.hiddenIn d.files = .ok c.hidden
  seeds : dir.document d.files seedsFile = .ok c.seeds

/-- Where there is a document of items alone, in any order, they are the content. -/
theorem contains_items (hkey : dir.KeyFits d) {items : List Item}
    (hitems : d.files.read (dir.file itemsFile) = .ok (StateDocument.bytes items))
    (hhidden : d.files.read (dir.file hiddenFile) = .error .notFound)
    (hseeds : d.files.read (dir.file seedsFile) = .error .notFound) :
    dir.Contains d ⟨items.map reread, ∅, none⟩ where
  key := hkey
  items := by
    rw [document, hitems]
    show ((StateDocument.ofBytes itemsFile (StateDocument.bytes items)).map some).map (·.getD []) = _
    rw [StateDocument.ofBytes_bytes]
    rfl
  hidden := by
    rw [hiddenIn, document, hhidden]
  seeds := by
    rw [document, hseeds]

theorem Contains.alike (h : dir.Contains d c) (hd : dir.Alike d d') : dir.Contains d' c where
  key := hd.key h.key
  items := by rw [document_congr (hd.reads _ itemsFile_mem), h.items]
  hidden := by rw [hiddenIn_congr (hd.reads _ hiddenFile_mem), h.hidden]
  seeds := by rw [document_congr (hd.reads _ seedsFile_mem), h.seeds]

theorem Contains.loadItems (h : dir.Contains d c) :
    (dir.backend.loadItems d).answer = .ok c.items ∧ dir.Untouched d (dir.backend.loadItems d).state := by
  rw [← h.items]
  exact dir.loadItems_eq d

theorem Contains.loadHidden (h : dir.Contains d c) :
    (dir.backend.loadHidden d).answer = .ok c.hidden.values ∧ dir.Untouched d (dir.backend.loadHidden d).state := by
  have hanswer := loadHidden_eq h.key
  rwa [h.hidden] at hanswer

theorem Contains.loadSeeds (h : dir.Contains d c) :
    (dir.backend.loadSeeds d).answer = .ok c.seeds ∧ dir.Untouched d (dir.backend.loadSeeds d).state := by
  rw [← h.seeds]
  exact dir.loadSeeds_eq d

/-- Documents that can be loaded have a content. -/
theorem contains_of_loads {items : List Item} {records : List HiddenRecord} {seeds : Option SeedConfig}
    (hkey : dir.KeyFits d) (hitems : (dir.backend.loadItems d).answer = .ok items)
    (hhidden : (dir.backend.loadHidden d).answer = .ok records) (hseeds : (dir.backend.loadSeeds d).answer = .ok seeds) :
    ∃ hidden, hidden.values = records ∧ dir.Contains d ⟨items, hidden, seeds⟩ := by
  rw [(dir.loadItems_eq d).1] at hitems
  rw [(loadHidden_eq hkey).1] at hhidden
  rw [(dir.loadSeeds_eq d).1] at hseeds
  cases hread : dir.hiddenIn d.files with
  | error e =>
    rw [hread] at hhidden
    cases hhidden
  | ok hidden =>
    rw [hread] at hhidden
    exact ⟨hidden, Except.ok.inj hhidden, hkey, hitems, hread, hseeds⟩

theorem keyed_openDocument {document : SealedDocument} {hidden : Std.ExtTreeMap ItemId HiddenRecord}
    (h : dir.openDocument document = .ok hidden) : Keyed (fun record : HiddenRecord => record.entry.id) hidden := by
  unfold openDocument at h
  split at h
  · cases h
  · split at h
    · cases h
    · rename_i key _
      cases hopen : openRecords key document.records with
      | error e =>
        rw [hopen] at h
        cases h
      | ok records =>
        rw [hopen] at h
        obtain rfl := Except.ok.inj h
        exact keyed_byId _ records

/-- Hidden records are read under the ids of their entries. -/
theorem keyed_hiddenIn {t : FileTree} {hidden : Std.ExtTreeMap ItemId HiddenRecord} (h : dir.hiddenIn t = .ok hidden) :
    Keyed (fun record : HiddenRecord => record.entry.id) hidden := by
  unfold hiddenIn at h
  split at h
  · cases h
  · obtain rfl := Except.ok.inj h
    exact keyed_empty _
  · exact keyed_openDocument h

/-! ## What is saved -/

/-- An answer is an error and the documents are as they were, or the disk is as it should be. -/
def Finishes (dir : StateDirectory) (d : Disk) (P : Disk → Prop) : Except StorageError α × Disk → Prop
  | (.error _, d') => dir.Alike d d'
  | (.ok _, d') => P d'

/-- A document that can be read can be replaced. -/
theorem read_ne_other [Codec α] {t : FileTree} {name : String} {data : Option α}
    (h : dir.document t name = .ok data) : t.read (dir.file name) ≠ .error .other := by
  intro hread
  rw [document, hread] at h
  cases h

/-- A document that could be read is as it was, with the others, as the files could not be changed, or has the data. -/
theorem on_writeDocument_cases [Codec α] [Faithful α] {name : String} (hname : name ∈ documents) (hkey : dir.KeyFits d)
    (hread : d.files.read (dir.file name) ≠ .error .other) (data : α) :
    ∃ answer d', (dir.writeDocument name data).on d = (answer, d') ∧
      match answer with
      | .error e => e = .io ∧ dir.Alike d d'
      | .ok _ => dir.KeyFits d' ∧ dir.document d'.files name = .ok (some (reread data)) ∧
          ∀ other ∈ documents, other ≠ name → d'.files.read (dir.file other) = d.files.read (dir.file other) := by
  obtain ⟨answer, d', hwrite, hkept, hothers, hdone⟩ := dir.on_writeDocument hname data d
  have hfits : dir.KeyFits d' := fun key hk => hkey key (hkept ▸ hk)
  refine ⟨answer, d', hwrite, ?_⟩
  cases answer with
  | error e =>
    refine ⟨hdone.1, fun other ho => ?_, fun _ => hfits⟩
    by_cases heq : other = name
    · rw [heq]
      exact hdone.2
    · exact hothers other ho heq
  | ok _ =>
    refine ⟨hfits, ?_, hothers⟩
    rw [document, hdone hread]
    show (StateDocument.ofBytes name (StateDocument.bytes data)).map some = .ok (some (reread data))
    rw [StateDocument.ofBytes_bytes]
    rfl

theorem Contains.read_items (h : dir.Contains d c) : d.files.read (dir.file itemsFile) ≠ .error .other := by
  have hitems := h.items
  cases hdocument : dir.document (α := List Item) d.files itemsFile with
  | error e =>
    rw [hdocument] at hitems
    cases hitems
  | ok items => exact read_ne_other hdocument

theorem read_of_hiddenIn {t : FileTree} {stored : Std.ExtTreeMap ItemId HiddenRecord} (h : dir.hiddenIn t = .ok stored) :
    t.read (dir.file hiddenFile) ≠ .error .other := by
  rw [hiddenIn] at h
  cases hdocument : dir.document (α := SealedDocument) t hiddenFile with
  | error e =>
    rw [hdocument] at h
    cases h
  | ok document => exact read_ne_other hdocument

theorem Contains.on_saveItems (h : dir.Contains d c) (changes : ItemChanges) :
    dir.Finishes d (dir.Contains · (c.after (.upserts changes))) ((dir.saveItems changes).on d) := by
  obtain ⟨answer, d', hwrite, hdone⟩ :=
    on_writeDocument_cases itemsFile_mem h.key h.read_items (applyChanges (byId (·.id) c.items) changes).values
  unfold saveItems
  rw [on_bind, dir.on_loadItems, h.items]
  simp only
  rw [on_bind, hwrite]
  cases answer with
  | error e => exact hdone.2
  | ok _ =>
    obtain ⟨hfits, hdata, hothers⟩ := hdone
    refine ⟨hfits, ?_, ?_, ?_⟩
    · rw [hdata, c.items_after_upserts, values_map]
      rfl
    · exact (hiddenIn_congr (hothers _ hiddenFile_mem (by decide))).trans h.hidden
    · exact (document_congr (hothers _ seedsFile_mem (by decide))).trans h.seeds

/-- Records under the ids of their entries are opened again, each under the id of its entry. -/
theorem openDocument_sealed {key : SealKey} (hkey : SealKey.derive dir.passkey key.salt = .ok key)
    {records : Std.ExtTreeMap ItemId HiddenRecord} (h : Keyed (fun record : HiddenRecord => record.entry.id) records)
    {sealedRecords : List SealedRecord} (hopen : openRecords key sealedRecords = .ok (records.values.map reread)) :
    dir.openDocument ⟨key.saltText, sealedRecords⟩ = .ok (records.map fun _ => reread) := by
  have hreread : Keyed (fun record : HiddenRecord => record.entry.id) (records.map fun _ => reread) := h.map fun _ => rfl
  unfold openDocument
  simp only [SealKey.saltText, Text.Base64.decode?_encode, hkey, hopen]
  rw [← values_map]
  exact congrArg Except.ok (byId_values hreread)

/-- To change the hidden records is to write a document of them all, sealed with the key of its salt, which stays that of
the document before. Only for want of a passkey nothing is written. -/
theorem on_saveHidden_eq (hkey : dir.KeyFits d) {stored : Std.ExtTreeMap ItemId HiddenRecord}
    (hread : dir.hiddenIn d.files = .ok stored) (changes : HiddenChanges) :
    (dir.passkey = "" ∧ ∃ e d', (dir.saveHidden changes).on d = (.error e, d') ∧ d.SameFiles d' ∧ dir.KeyFits d') ∨
    ∃ key sealedRecords d', d.SameFiles d' ∧ dir.KeyFits d' ∧ SealKey.derive dir.passkey key.salt = .ok key ∧
      openRecords key sealedRecords = .ok ((applyChanges stored changes).values.map reread) ∧
      (∀ old : SealedDocument, dir.document d.files hiddenFile = .ok (some old) → key.saltText = old.salt) ∧
      (dir.saveHidden changes).on d = (do
        dir.writeDocument hiddenFile (⟨key.saltText, sealedRecords⟩ : SealedDocument)
        return changes.size : DiskAction Nat).on d' := by
  obtain ⟨d₁, hload, hfiles₁, hkey₁, hlast⟩ := on_readHidden hkey
  obtain ⟨found, d₂, hfound, hfiles₂, hkey₂, hkept, hderive⟩ := on_sealKey_none hkey₁
  unfold saveHidden
  rw [on_bind, hload, hread]
  simp only
  rw [on_bind, hfound]
  cases found with
  | error e => exact Or.inl ⟨hderive, e, d₂, rfl, hfiles₁.trans hfiles₂, hkey₂⟩
  | ok key =>
    obtain ⟨sealedRecords, d₃, hseal, hfiles₃, hkey₃, hopen⟩ := on_sealRecords key (applyChanges stored changes).values d₂
    refine Or.inr ⟨key, sealedRecords, d₃, (hfiles₁.trans hfiles₂).trans hfiles₃, fun other ho => hkey₂ other (hkey₃ ▸ ho),
      hderive, hopen, fun old hold => ?_, ?_⟩
    · -- the document was read first, so its key is the last one
      have hopened : dir.openDocument old = .ok stored := by rwa [hiddenIn, hold] at hread
      obtain ⟨last, hlast, hsalt⟩ := hlast old stored hold hopened
      obtain rfl := Except.ok.inj (hkept last hlast)
      exact Text.Base64.encode_of_decode? hsalt
    · simp only
      rw [on_bind, hseal]

theorem Contains.on_saveHidden (h : dir.Contains d c) {changes : HiddenChanges}
    (hc : ∀ (id : ItemId) (change : Change HiddenRecord) (record : HiddenRecord), changes[id]? = some change →
      change.result = some record → record.entry.id = id) :
    dir.Finishes d (dir.Contains · (c.after (.hiddenRecords changes))) ((dir.saveHidden changes).on d) := by
  rcases on_saveHidden_eq h.key h.hidden changes with ⟨-, e, d', hon, hfiles, hfits⟩ |
    ⟨key, sealedRecords, d₁, hfiles, hfits, hderive, hopen, -, hon⟩
  · rw [hon]
    exact alike_of_files hfiles hfits
  · have hd : dir.Alike d d₁ := alike_of_files hfiles hfits
    obtain ⟨answer, d', hwrite, hdone⟩ := on_writeDocument_cases hiddenFile_mem hfits (read_of_hiddenIn (h.alike hd).hidden)
      (⟨key.saltText, sealedRecords⟩ : SealedDocument)
    rw [hon, on_bind, hwrite]
    cases answer with
    | error e => exact hd.trans hdone.2
    | ok _ =>
      obtain ⟨hfits, hdata, hothers⟩ := hdone
      have hkeyed : Keyed (fun record : HiddenRecord => record.entry.id) (applyChanges c.hidden changes) :=
        (keyed_hiddenIn h.hidden).applyChanges hc
      refine ⟨hfits, ?_, ?_, ?_⟩
      · show (dir.document (α := List Item) d'.files itemsFile).map (·.getD []) = _
        rw [document_congr (hothers _ itemsFile_mem (by decide)), (h.alike hd).items]
        rfl
      · rw [hiddenIn, hdata]
        exact openDocument_sealed hderive hkeyed hopen
      · exact (document_congr (hothers _ seedsFile_mem (by decide))).trans (h.alike hd).seeds

theorem Contains.on_saveSeeds (h : dir.Contains d c) (config : SeedConfig) :
    dir.Finishes d (dir.Contains · { c with seeds := some config }) ((dir.saveSeeds config).on d) := by
  obtain ⟨answer, d', hwrite, hdone⟩ := on_writeDocument_cases seedsFile_mem h.key (read_ne_other h.seeds) config
  unfold saveSeeds
  rw [hwrite]
  cases answer with
  | error e => exact hdone.2
  | ok _ =>
    obtain ⟨hfits, hdata, hothers⟩ := hdone
    refine ⟨hfits, ?_, ?_, hdata⟩
    · show (dir.document (α := List Item) d'.files itemsFile).map (·.getD []) = _
      rw [document_congr (hothers _ itemsFile_mem (by decide)), h.items]
    · exact (hiddenIn_congr (hothers _ hiddenFile_mem (by decide))).trans h.hidden

/-! ## Backends that may fail -/

/-- A request that does what another does, or fails and leaves the documents as they were. -/
def Attempts (dir : StateDirectory) (request sure : Call Disk α) : Prop :=
  ∀ d, request d = sure d ∨ (∃ e, (request d).answer = .error e) ∧ dir.Alike d (request d).state

/-- A backend that saves in the directory, but may fail in every request. -/
structure Unreliable (dir : StateDirectory) (backend : Backend Disk) : Prop where
  saveItems (changes : ItemChanges) : dir.Attempts (backend.saveItems changes) (dir.backend.saveItems changes)
  saveHidden (changes : HiddenChanges) : dir.Attempts (backend.saveHidden changes) (dir.backend.saveHidden changes)
  saveSeeds (config : SeedConfig) : dir.Attempts (backend.saveSeeds config) (dir.backend.saveSeeds config)

theorem unreliable_backend (dir : StateDirectory) : dir.Unreliable dir.backend :=
  ⟨fun _ _ => Or.inl rfl, fun _ _ => Or.inl rfl, fun _ _ => Or.inl rfl⟩

/-- How a request ends that does an action or fails. -/
theorem Attempts.finishes {request : Call Disk α} {action : DiskAction α} (h : dir.Attempts request action.call)
    {P : Disk → Prop} (hon : dir.Finishes { d with log := [] } P (action.on { d with log := [] })) :
    dir.Finishes d P ((request d).answer, (request d).state) := by
  rcases h d with heq | ⟨⟨e, he⟩, halike⟩
  · cases hrun : action.on { d with log := [] } with
    | mk answer d' =>
      obtain ⟨hanswer, hstate⟩ := call_eq hrun
      rw [heq, hanswer, hstate]
      rw [hrun] at hon
      cases answer with
      | error e => exact (alike_unlogged dir d).trans hon
      | ok _ => exact hon
  · rw [he]
    exact halike

variable {backend : Backend Disk}

theorem Contains.finishes_saveItems (h : dir.Contains d c) (hb : dir.Unreliable backend) (changes : ItemChanges) :
    dir.Finishes d (dir.Contains · (c.after (.upserts changes)))
      ((backend.saveItems changes d).answer, (backend.saveItems changes d).state) :=
  (hb.saveItems changes).finishes ((h.alike (alike_unlogged dir d)).on_saveItems changes)

theorem Contains.finishes_saveHidden (h : dir.Contains d c) (hb : dir.Unreliable backend) {changes : HiddenChanges}
    (hc : ∀ (id : ItemId) (change : Change HiddenRecord) (record : HiddenRecord), changes[id]? = some change →
      change.result = some record → record.entry.id = id) :
    dir.Finishes d (dir.Contains · (c.after (.hiddenRecords changes)))
      ((backend.saveHidden changes d).answer, (backend.saveHidden changes d).state) :=
  (hb.saveHidden changes).finishes ((h.alike (alike_unlogged dir d)).on_saveHidden hc)

theorem Contains.finishes_write (h : dir.Contains d c) (hb : dir.Unreliable backend) {w : Write} (hw : w.WellKeyed) :
    dir.Finishes d (dir.Contains · (c.after w)) ((w.run backend d).answer, (w.run backend d).state) := by
  cases w with
  | upserts changes | removals changes => exact h.finishes_saveItems hb changes
  | hiddenRecords changes =>
    exact h.finishes_saveHidden hb fun id change record hchange hresult => (hw id change record hchange hresult).1

theorem Contains.finishes_saveSeeds (h : dir.Contains d c) (hb : dir.Unreliable backend) (config : SeedConfig) :
    dir.Finishes d (dir.Contains · { c with seeds := some config })
      ((backend.saveSeeds config d).answer, (backend.saveSeeds config d).state) :=
  (hb.saveSeeds config).finishes ((h.alike (alike_unlogged dir d)).on_saveSeeds config)

/-- Of writes, those up to the first that fails are done, and it leaves the documents as they were. -/
theorem Contains.runWrites (hb : dir.Unreliable backend) (writes : List Write) (hw : ∀ w ∈ writes, w.WellKeyed)
    {d : Disk} {c : Content} (h : dir.Contains d c) :
    ∃ k, (runWrites backend (writes.take k) d).answer = .ok () ∧
      dir.Alike (TransferRegistry.runWrites backend (writes.take k) d).state
        (TransferRegistry.runWrites backend writes d).state ∧
      dir.Contains (TransferRegistry.runWrites backend writes d).state ((writes.take k).foldl Content.after c) ∧
      ((TransferRegistry.runWrites backend writes d).answer = .ok () → writes.take k = writes) := by
  induction writes generalizing d c with
  | nil => exact ⟨0, rfl, Alike.refl dir d, h, fun _ => rfl⟩
  | cons w writes ih =>
    have hfinishes := h.finishes_write hb (hw w List.mem_cons_self)
    cases hanswer : (w.run backend d).answer with
    | error e =>
      rw [hanswer] at hfinishes
      refine ⟨0, rfl, ?_, ?_, ?_⟩ <;> rw [TransferRegistry.runWrites, hanswer]
      · exact hfinishes
      · exact h.alike hfinishes
      · exact nofun
    | ok count =>
      rw [hanswer] at hfinishes
      obtain ⟨k, hcut, halike, hcontains, hall⟩ := ih (fun other ho => hw other (List.mem_cons_of_mem _ ho)) hfinishes
      refine ⟨k + 1, ?_, ?_, ?_, ?_⟩ <;> rw [List.take_succ_cons] <;> simp only [TransferRegistry.runWrites, hanswer]
      · exact hcut
      · exact halike
      · exact hcontains
      · exact fun hok => by rw [hall hok]

/-- A directory for the samples. -/
def Sample.vault : StateDirectory := ⟨[], "open sesame"⟩

end StateDirectory

end TransferRegistry
