import TransferRegistry.Proofs.Storage.Content

/-!
# Directories that can be written

* `FileTree.takesFile_of_change`: where a file can be put, one still can after a file was put or taken away.
* `StateDirectory.Writable`: files can be put in the place of each document and of its draft. `StateDirectory.Ready`:
  nor will a write fail halfway, so every document can be written (`on_writeDocument_ok`) and written again.
* `Contains.runWrites_ok`, `Contains.saveSeeds_ok`: what is to be stored in such a directory is stored, if there is a
  passkey and the documents can be read.
-/

namespace TransferRegistry

open Json (Codec Faithful)

namespace FileTree

variable {t t' : FileTree} {changed path : FilePath}

theorem takesFile_of_change (h : t.takesFile path = true) (hpath : path ≠ []) (hdirectory : changed ≠ path.dropLast)
    (hothers : ∀ other, changed ≠ other → t'.nodes[other]? = t.nodes[other]?)
    (hfile : t'.nodes[changed]? ≠ some .directory) : t'.takesFile path = true := by
  obtain ⟨hvalid, hparent, hfree⟩ := takesFile_iff.1 h
  refine takesFile_iff.2 ⟨hvalid, ?_, ?_⟩
  · rw [node?, hothers _ hdirectory]
    exact hparent
  · by_cases heq : changed = path
    · rw [node?, if_neg hpath, ← heq]
      exact hfile
    · rw [node?, hothers _ heq]
      exact hfree

end FileTree

namespace StateDirectory

open DiskAction (on_bind call_eq)

variable {dir : StateDirectory} {d : Disk} {c : Content}

/-- Files can be put in the place of the documents and of their drafts. -/
def Writable (dir : StateDirectory) (t : FileTree) : Prop :=
  ∀ name ∈ documents, t.takesFile (dir.file name) = true ∧ t.takesFile (dir.file (name ++ ".tmp")) = true

instance (t : FileTree) : Decidable (dir.Writable t) :=
  inferInstanceAs (Decidable (∀ name ∈ documents, _))

theorem file_ne_dropLast (dir : StateDirectory) (name other : String) : dir.file name ≠ (dir.file other).dropLast := by
  intro heq
  have hlength := congrArg List.length heq
  simp [file] at hlength

theorem Writable.of_change {t t' : FileTree} (h : dir.Writable t) {changed : String}
    (hothers : ∀ other, dir.file changed ≠ other → t'.nodes[other]? = t.nodes[other]?)
    (hfile : t'.nodes[dir.file changed]? ≠ some .directory) : dir.Writable t' := by
  have hkept : ∀ name, t.takesFile (dir.file name) = true → t'.takesFile (dir.file name) = true := fun name hname =>
    FileTree.takesFile_of_change hname (dir.file_ne_nil name) (dir.file_ne_dropLast changed name) hothers hfile
  exact fun name hname => ⟨hkept _ (h name hname).1, hkept _ (h name hname).2⟩

theorem Writable.insert {t : FileTree} (h : dir.Writable t) (name : String) (content : Crypto.Bytes) :
    dir.Writable ⟨t.nodes.insert (dir.file name) (.file content)⟩ := by
  refine h.of_change (fun other ho => FileTree.getElem?_insert_of_ne t.nodes _ ho) ?_
  rw [Std.ExtTreeMap.getElem?_insert_self]
  exact nofun

theorem Writable.erase {t : FileTree} (h : dir.Writable t) (name : String) :
    dir.Writable ⟨t.nodes.erase (dir.file name)⟩ := by
  refine h.of_change (fun other ho => FileTree.getElem?_erase_of_ne t.nodes ho) ?_
  rw [Std.ExtTreeMap.getElem?_erase_self]
  exact nofun

/-- Every document can be written: the files take it, and no write will fail halfway. -/
structure Ready (dir : StateDirectory) (d : Disk) : Prop where
  faults : d.faults = []
  writable : dir.Writable d.files

theorem Ready.sameFiles {d' : Disk} (h : dir.Ready d) (hd : d.SameFiles d') : dir.Ready d' :=
  ⟨hd.faults.trans h.faults, hd.files ▸ h.writable⟩

theorem Ready.unlogged (h : dir.Ready d) : dir.Ready { d with log := [] } := h.sameFiles ⟨rfl, rfl⟩

theorem on_writeDocument_ok {α : Type} [Codec α] (h : dir.Ready d) {name : String} (hname : name ∈ documents)
    (data : α) : ∃ d', (dir.writeDocument name data).on d = (.ok (), d') ∧ dir.Ready d' := by
  unfold writeDocument
  generalize StateDocument.bytes data = bytes
  have hdrafted := h.writable.insert (name ++ ".tmp") bytes
  have hwrite : d.files.write (dir.file (name ++ ".tmp")) bytes =
      .ok ⟨d.files.nodes.insert (dir.file (name ++ ".tmp")) (.file bytes)⟩ := if_pos (h.writable name hname).2
  have hcontent : (FileTree.mk (d.files.nodes.insert (dir.file (name ++ ".tmp")) (.file bytes))).content?
      (dir.file (name ++ ".tmp")) = some bytes := by
    rw [FileTree.content?, FileTree.node?, if_neg (dir.file_ne_nil _), Std.ExtTreeMap.getElem?_insert_self]
  have hrename : FileTree.rename ⟨d.files.nodes.insert (dir.file (name ++ ".tmp")) (.file bytes)⟩
      (dir.file (name ++ ".tmp")) (dir.file name) = .ok ⟨((d.files.nodes.insert (dir.file (name ++ ".tmp"))
        (.file bytes)).erase (dir.file (name ++ ".tmp"))).insert (dir.file name) (.file bytes)⟩ := by
    simp only [FileTree.rename, hcontent, (hdrafted name hname).1, if_true]
  simp only [on_bind, on_writeFile_of_sure h.faults, on_changeFiles, hwrite, hrename]
  exact ⟨_, rfl, h.faults, (hdrafted.erase (name ++ ".tmp")).insert name bytes⟩

/-! ## What is stored -/

theorem on_saveItems_ok {stored : List Item} (h : (dir.document d.files itemsFile).map (·.getD []) = .ok stored)
    (hready : dir.Ready d) (changes : ItemChanges) :
    ∃ d', (dir.saveItems changes).on d = (.ok changes.size, d') ∧ dir.Ready d' := by
  obtain ⟨d', hwrite, hafter⟩ := on_writeDocument_ok hready itemsFile_mem (applyChanges (byId (·.id) stored) changes).values
  refine ⟨d', ?_, hafter⟩
  unfold saveItems
  rw [on_bind, dir.on_loadItems, h]
  simp only
  rw [on_bind, hwrite]
  rfl

theorem on_saveHidden_ok (hkey : dir.KeyFits d) {stored : Std.ExtTreeMap ItemId HiddenRecord}
    (hread : dir.hiddenIn d.files = .ok stored) (hready : dir.Ready d) (hpasskey : dir.passkey ≠ "")
    (changes : HiddenChanges) :
    ∃ d', (dir.saveHidden changes).on d = (.ok changes.size, d') ∧ dir.Ready d' := by
  rcases on_saveHidden_eq hkey hread changes with ⟨hempty, -⟩ | ⟨key, sealedRecords, d₁, hfiles, -, -, -, -, hon⟩
  · exact absurd hempty hpasskey
  · obtain ⟨d', hwrite, hafter⟩ := on_writeDocument_ok (hready.sameFiles hfiles) hiddenFile_mem
      (⟨key.saltText, sealedRecords⟩ : SealedDocument)
    refine ⟨d', ?_, hafter⟩
    rw [hon, on_bind, hwrite]
    rfl

theorem Contains.write_ok (h : dir.Contains d c) (hready : dir.Ready d) (hpasskey : dir.passkey ≠ "") (w : Write) :
    ∃ count, (w.run dir.backend d).answer = .ok count ∧ dir.Ready (w.run dir.backend d).state := by
  have hd := h.alike (alike_unlogged dir d)
  cases w with
  | upserts changes | removals changes =>
    obtain ⟨d', hon, hafter⟩ := on_saveItems_ok hd.items hready.unlogged changes
    obtain ⟨hanswer, hstate⟩ := call_eq hon
    exact ⟨_, hanswer, by rw [Write.run]; exact hstate ▸ hafter⟩
  | hiddenRecords changes =>
    obtain ⟨d', hon, hafter⟩ := on_saveHidden_ok hd.key hd.hidden hready.unlogged hpasskey changes
    obtain ⟨hanswer, hstate⟩ := call_eq hon
    exact ⟨_, hanswer, hstate ▸ hafter⟩

theorem saveSeeds_ok (hready : dir.Ready d) (config : SeedConfig) :
    (dir.backend.saveSeeds config d).answer = .ok () := by
  obtain ⟨d', hon, -⟩ := on_writeDocument_ok hready.unlogged seedsFile_mem config
  exact (call_eq hon).1

/-- In a directory that can be written, all writes are done. -/
theorem Contains.runWrites_ok (hpasskey : dir.passkey ≠ "") (writes : List Write) (hkeyed : ∀ w ∈ writes, w.WellKeyed)
    {d : Disk} {c : Content} (h : dir.Contains d c) (hready : dir.Ready d) :
    (TransferRegistry.runWrites dir.backend writes d).answer = .ok () ∧
      dir.Ready (TransferRegistry.runWrites dir.backend writes d).state := by
  induction writes generalizing d c with
  | nil => exact ⟨rfl, hready⟩
  | cons w writes ih =>
    have hfinishes := h.finishes_write (unreliable_backend dir) (hkeyed w List.mem_cons_self)
    obtain ⟨count, hanswer, hafter⟩ := h.write_ok hready hpasskey w
    rw [hanswer] at hfinishes
    simp only [TransferRegistry.runWrites, hanswer]
    exact ih (fun other ho => hkeyed other (List.mem_cons_of_mem _ ho)) hfinishes hafter

end StateDirectory

end TransferRegistry
