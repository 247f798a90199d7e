import TransferRegistry.Proofs.Storage.Content

/-!
# A directory that holds an archive

* `StateDirectory.Holds`: the documents of a directory hold an archive, item by item in the order of the ids, with every
  record under its own id. It is a content (`holds_iff`).
* `Holds.ends_saveSeeds`: a request to an unreliable backend is done as a whole or not at all.
* `Holds.runWrites`: a list of writes is done up to the first that fails.
-/

namespace TransferRegistry

variable {α : Type}

namespace Archive

variable {a : Archive} {w : Write}

/-- The content of documents that hold the archive. -/
def content (a : Archive) : Content := ⟨a.visible.values, a.hidden, a.seeds⟩

theorem WellKeyed.archive_content (h : a.WellKeyed) : a.content.archive = a :=
  congrArg (Archive.mk · a.hidden a.seeds) (byId_values h.visible)

theorem WellKeyed.after_content (h : a.WellKeyed) (w : Write) : a.content.after w = (a.after w).content := by
  unfold Content.after
  rw [h.archive_content]
  cases w <;> rfl

theorem WellKeyed.foldl_after {writes : List Write} (h : a.WellKeyed) (hw : ∀ w ∈ writes, w.WellKeyed) :
    writes.foldl Content.after a.content = (writes.foldl Archive.after a).content ∧
      (writes.foldl Archive.after a).WellKeyed := by
  induction writes generalizing a with
  | nil => exact ⟨rfl, h⟩
  | cons w writes ih =>
    rw [List.foldl_cons, List.foldl_cons, h.after_content]
    exact ih (h.after (hw w List.mem_cons_self)) fun other ho => hw other (List.mem_cons_of_mem _ ho)

end Archive

namespace StateDirectory

variable {dir : StateDirectory} {d d' : Disk} {a : Archive}

/-- The documents of a directory hold an archive. -/
structure Holds (dir : StateDirectory) (d : Disk) (a : Archive) : Prop where
  key : dir.KeyFits d
  visible : (dir.document d.files itemsFile).map (·.getD []) = .ok a.visible.values
  hidden : dir.hiddenIn d.files = .ok a.hidden
  seeds : dir.document d.files seedsFile = .ok a.seeds
  wellKeyed : a.WellKeyed

theorem holds_iff : dir.Holds d a ↔ dir.Contains d a.content ∧ a.WellKeyed :=
  ⟨fun h => ⟨⟨h.key, h.visible, h.hidden, h.seeds⟩, h.wellKeyed⟩,
    fun ⟨h, ha⟩ => ⟨h.key, h.items, h.hidden, h.seeds, ha⟩⟩

theorem Holds.contains (h : dir.Holds d a) : dir.Contains d a.content := (holds_iff.1 h).1

theorem Holds.alike (h : dir.Holds d a) (hd : dir.Alike d d') : dir.Holds d' a :=
  holds_iff.2 ⟨h.contains.alike hd, h.wellKeyed⟩

/-- A directory without documents holds nothing. -/
theorem holds_empty (hkey : dir.KeyFits d)
    (h : ∀ name ∈ documents, d.files.read (dir.file name) = .error .notFound) : dir.Holds d .empty where
  key := hkey
  visible := by
    rw [document, h _ itemsFile_mem]
    rfl
  hidden := by
    rw [hiddenIn, document, h _ hiddenFile_mem]
    rfl
  seeds := by
    rw [document, h _ seedsFile_mem]
    rfl
  wellKeyed := Archive.wellKeyed_empty

theorem Holds.loadItems (h : dir.Holds d a) :
    (dir.backend.loadItems d).answer = .ok a.visible.values ∧ dir.Untouched d (dir.backend.loadItems d).state :=
  h.contains.loadItems

theorem Holds.loadHidden (h : dir.Holds d a) :
    (dir.backend.loadHidden d).answer = .ok a.hidden.values ∧ dir.Untouched d (dir.backend.loadHidden d).state :=
  h.contains.loadHidden

/-! ## What is saved -/

/-- An answer is an error and the documents are as they were, or the documents hold the archive. -/
def Ends (dir : StateDirectory) (d : Disk) (a : Archive) : Except StorageError α × Disk → Prop
  | (.error _, d') => dir.Alike d d'
  | (.ok _, d') => dir.Holds d' a

theorem ends_of_finishes {end' : Except StorageError α × Disk} (h : dir.Finishes d (dir.Contains · a.content) end')
    (ha : a.WellKeyed) : dir.Ends d a end' := by
  obtain ⟨answer, d'⟩ := end'
  cases answer with
  | error e => exact h
  | ok _ => exact holds_iff.2 ⟨h, ha⟩

variable {backend : Backend Disk}

theorem Holds.ends_saveSeeds (h : dir.Holds d a) (hb : dir.Unreliable backend) (config : SeedConfig) :
    dir.Ends d { a with seeds := some config } ((backend.saveSeeds config d).answer, (backend.saveSeeds config d).state) :=
  ends_of_finishes (h.contains.finishes_saveSeeds hb config) ⟨h.wellKeyed.visible, h.wellKeyed.hidden⟩

/-- Of writes, those up to the first that fails are done, and it leaves the documents as they were. -/
theorem Holds.runWrites (hb : dir.Unreliable backend) (writes : List Write) (hw : ∀ w ∈ writes, w.WellKeyed) {d : Disk}
    {a : Archive} (h : dir.Holds d a) :
    ∃ k, (runWrites backend (writes.take k) d).answer = .ok () ∧
      dir.Alike (TransferRegistry.runWrites backend (writes.take k) d).state
        (TransferRegistry.runWrites backend writes d).state ∧
      dir.Holds (TransferRegistry.runWrites backend writes d).state ((writes.take k).foldl Archive.after a) ∧
      ((TransferRegistry.runWrites backend writes d).answer = .ok () → writes.take k = writes) := by
  obtain ⟨k, hcut, halike, hcontains, hall⟩ := h.contains.runWrites hb writes hw
  obtain ⟨hcontent, hkeyed⟩ := h.wellKeyed.foldl_after fun w hmem => hw w (List.mem_of_mem_take hmem)
  rw [hcontent] at hcontains
  exact ⟨k, hcut, halike, holds_iff.2 ⟨hcontains, hkeyed⟩, hall⟩

end StateDirectory

end TransferRegistry
