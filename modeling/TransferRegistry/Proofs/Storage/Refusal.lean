import TransferRegistry.Proofs.Storage.Content

/-!
# Requests that are refused

A request to change a document reads, opens, merges and seals before it writes, and each of these can fail.

* `DiskAction.Quiet`: an action that leaves the files as they are, whatever it answers. All that is done before a
  document is written is quiet.
* `Spares`: two trees of files that differ in the draft of a document at most. `Sparing`: an action that spares all
  files but a draft wherever it fails; `sparing_writeDocument`, and so is what starts with quiet actions
  (`Sparing.after_quiet`).
* `careful_saves`: no refused request changes a document, and none is done on a document that cannot be read. A draft
  may be left with anything (`spares_write`); it is not read.
-/

namespace TransferRegistry

open Json (Codec)

variable {α β : Type}

namespace DiskAction

/-! ## Actions that leave the files alone -/

/-- Whatever an action answers, the files are as they were. -/
def Quiet (action : DiskAction α) : Prop := ∀ d, (action.on d).2.files = d.files

theorem Quiet.bind {x : DiskAction α} {f : α → DiskAction β} (hx : Quiet x) (hf : ∀ a, Quiet (f a)) :
    Quiet (x >>= f) := by
  intro d
  have hfiles := hx d
  rcases on_bind_cases x f d with ⟨e, d', hfirst, hrun⟩ | ⟨a, d', hfirst, hrun⟩
  · rw [hrun]
    rwa [hfirst] at hfiles
  · rw [hrun, hf a d']
    rwa [hfirst] at hfiles

theorem quiet_pure (a : α) : Quiet (pure a) := fun _ => rfl

theorem quiet_get : Quiet get := fun _ => rfl

theorem quiet_ofExcept (x : Except StorageError α) : Quiet (MonadExcept.ofExcept x) := by
  intro d
  rw [on_ofExcept]

theorem quiet_draw (take : Entropy → α × Entropy) : Quiet (Disk.draw take) := fun _ => rfl

theorem quiet_report (event : Event) : Quiet (Disk.report event) := fun _ => rfl

/-- What goes on only after an action has done that action first. -/
theorem ok_of_bind {x : DiskAction α} {f : α → DiskAction β} {d : Disk} {b : β} (h : ((x >>= f).on d).1 = .ok b) :
    ∃ a, (x.on d).1 = .ok a := by
  rcases on_bind_cases x f d with ⟨e, d', -, hrun⟩ | ⟨a, d', hfirst, -⟩
  · rw [hrun] at h
    cases h
  · exact ⟨a, by rw [hfirst]⟩

theorem ok_bind_pure {x : DiskAction α} {g : α → β} {d : Disk} {a : α} (h : (x.on d).1 = .ok a) :
    ((do return g (← x)).on d).1 = .ok (g a) := by
  rw [on_bind]
  cases hrun : x.on d with
  | mk answer d' =>
    rw [hrun] at h
    obtain rfl : answer = .ok a := h
    rfl

end DiskAction

namespace StateDirectory

open DiskAction (Quiet on_bind on_bind_cases quiet_pure quiet_get quiet_ofExcept quiet_draw quiet_report ok_of_bind
  ok_bind_pure)

variable (dir : StateDirectory)

theorem quiet_loadItems : Quiet dir.loadItems := by
  intro d
  rw [on_loadItems]

theorem quiet_sealKey (salt : Option Crypto.Bytes) : Quiet (dir.sealKey salt) := by
  unfold sealKey
  apply Quiet.bind quiet_get
  intro d
  cases d.key.filter (usable salt) with
  | some key => exact quiet_pure key
  | none =>
    have hderive : ∀ salt, Quiet (do
        let key ← MonadExcept.ofExcept (SealKey.derive dir.passkey salt)
        Disk.report .keyDerived
        modify fun d => { d with key := some key }
        return key : DiskAction SealKey) := by
      intro salt
      apply Quiet.bind (quiet_ofExcept _)
      intro key
      apply Quiet.bind (quiet_report _)
      intro _
      exact fun d => rfl
    cases salt with
    | some salt => exact hderive salt
    | none => exact Quiet.bind (quiet_draw _) hderive

theorem quiet_readHidden : Quiet dir.readHidden := by
  unfold readHidden
  apply Quiet.bind
  · intro d
    rw [on_readDocument]
  intro document
  cases document with
  | none => exact quiet_pure _
  | some document =>
    cases hsalt : Text.Base64.decode? document.salt with
    | none =>
      simp only [hsalt]
      exact fun d => rfl
    | some salt =>
      simp only [hsalt]
      apply Quiet.bind (dir.quiet_sealKey _)
      intro key
      apply Quiet.bind (quiet_ofExcept _)
      intro records
      exact quiet_pure _

theorem quiet_sealRecords (key : SealKey) (records : List HiddenRecord) : Quiet (sealRecords key records) := by
  intro d
  obtain ⟨sealedRecords, d', hon, hfiles, -⟩ := on_sealRecords key records d
  rw [hon]
  exact hfiles.files

/-! ## What is spared -/

/-- No document differs, and nothing else but the draft of one, which is a file then. -/
structure Spares (name : String) (t t' : FileTree) : Prop where
  documents : ∀ other ∈ documents, t'.read (dir.file other) = t.read (dir.file other)
  others : ∀ path, path ≠ dir.file (name ++ ".tmp") → t'.node? path = t.node? path
  draft : t'.node? (dir.file (name ++ ".tmp")) = t.node? (dir.file (name ++ ".tmp")) ∨
    ∃ content, t'.node? (dir.file (name ++ ".tmp")) = some (.file content)

theorem Spares.refl (name : String) (t : FileTree) : dir.Spares name t t :=
  ⟨fun _ _ => rfl, fun _ _ => rfl, Or.inl rfl⟩

/-- To write a draft spares all else, whatever is written. -/
theorem spares_write {name : String} (hname : name ∈ documents) {t t' : FileTree} {content : Crypto.Bytes}
    (h : t.write (dir.file (name ++ ".tmp")) content = .ok t') : dir.Spares name t t' where
  documents other ho := dir.read_drafted hname ho h
  others path hpath := by
    rw [FileTree.eq_of_write h, FileTree.node?, FileTree.node?, FileTree.getElem?_insert_of_ne t.nodes _ hpath.symm]
  draft := by
    refine Or.inr ⟨content, ?_⟩
    rw [FileTree.eq_of_write h, FileTree.node?, if_neg (dir.file_ne_nil _), Std.ExtTreeMap.getElem?_insert_self]

/-- Where an action fails, it has spared all but a draft. -/
def Sparing (name : String) (action : DiskAction α) : Prop :=
  ∀ d e, (action.on d).1 = .error e → dir.Spares name d.files (action.on d).2.files

variable {dir} {name : String}

theorem Sparing.after_quiet {x : DiskAction α} {f : α → DiskAction β} (hx : Quiet x)
    (hf : ∀ a, dir.Sparing name (f a)) : dir.Sparing name (x >>= f) := by
  intro d e he
  have hfiles : (x.on d).2.files = d.files := hx d
  rcases on_bind_cases x f d with ⟨fault, d', hfirst, hrun⟩ | ⟨a, d', hfirst, hrun⟩
  · rw [hfirst] at hfiles
    rw [hrun, hfiles]
    exact Spares.refl dir name d.files
  · rw [hfirst] at hfiles
    rw [hrun] at he ⊢
    have hspares := hf a d' e he
    rwa [hfiles] at hspares

/-- The answer does not matter. -/
theorem Sparing.map {x : DiskAction α} (hx : dir.Sparing name x) (b : β) :
    dir.Sparing name (x >>= fun _ => pure b) := by
  intro d e he
  rcases on_bind_cases x (fun _ => pure b) d with ⟨fault, d', hfirst, hrun⟩ | ⟨a, d', -, hrun⟩
  · have hspares := hx d fault (by rw [hfirst])
    rw [hrun]
    rwa [hfirst] at hspares
  · rw [hrun] at he
    cases he

/-- A document is replaced in the last step, and only the draft is written before, as a whole or not. -/
theorem sparing_writeDocument [Codec α] (hname : name ∈ documents) (data : α) :
    dir.Sparing name (dir.writeDocument name data) := by
  intro d e he
  unfold writeDocument at he ⊢
  generalize StateDocument.bytes data = bytes at he ⊢
  rcases on_writeFile_cases (dir.file (name ++ ".tmp")) bytes d with ⟨d₁, hon, -, hwrite⟩ | ⟨d₁, hon, -, hleft⟩
  · rw [on_bind, hon] at he ⊢
    simp only [on_bind, on_changeFiles] at he ⊢
    cases hrename : d₁.files.rename (dir.file (name ++ ".tmp")) (dir.file name) with
    | error fault => exact dir.spares_write hname hwrite
    | ok renamed =>
      simp only [hrename] at he
      cases he
  · rw [DiskAction.on_bind_error hon]
    rcases hleft with heq | ⟨torn, htorn⟩
    · show dir.Spares name d.files d₁.files
      rw [heq]
      exact Spares.refl dir name d.files
    · exact dir.spares_write hname htorn

/-! ## Requests -/

theorem sparing_saveItems (changes : ItemChanges) : dir.Sparing itemsFile (dir.saveItems changes) := by
  unfold saveItems
  apply Sparing.after_quiet dir.quiet_loadItems
  intro stored
  exact (sparing_writeDocument itemsFile_mem _).map _

theorem sparing_saveHidden (changes : HiddenChanges) : dir.Sparing hiddenFile (dir.saveHidden changes) := by
  unfold saveHidden
  apply Sparing.after_quiet dir.quiet_readHidden
  intro stored
  apply Sparing.after_quiet (dir.quiet_sealKey none)
  intro key
  apply Sparing.after_quiet (quiet_sealRecords key _)
  intro records
  exact (sparing_writeDocument hiddenFile_mem _).map _

theorem Sparing.call {action : DiskAction α} (h : dir.Sparing name action) {d : Disk} {e : StorageError}
    (he : (action.call d).answer = .error e) : dir.Spares name d.files (action.call d).state.files :=
  h { d with log := [] } e he

/-- The stored items are read before anything is changed. -/
theorem loads_of_saveItems {d : Disk} {changes : ItemChanges} {count : Nat}
    (h : (dir.backend.saveItems changes d).answer = .ok count) :
    ∃ items, (dir.backend.loadItems d).answer = .ok items := by
  obtain ⟨items, hitems⟩ : ∃ items, (dir.loadItems.on { d with log := [] }).1 = .ok items := by
    apply ok_of_bind
    exact h
  exact ⟨items, hitems⟩

/-- The stored hidden records are opened before anything is changed. -/
theorem loads_of_saveHidden {d : Disk} {changes : HiddenChanges} {count : Nat}
    (h : (dir.backend.saveHidden changes d).answer = .ok count) :
    ∃ records, (dir.backend.loadHidden d).answer = .ok records := by
  obtain ⟨stored, hstored⟩ : ∃ stored, (dir.readHidden.on { d with log := [] }).1 = .ok stored := by
    apply ok_of_bind
    exact h
  exact ⟨stored.values, ok_bind_pure hstored⟩

/-- A request to change a document spares all but a draft where it is refused, and is done only where what is stored
could be loaded. -/
structure Careful (dir : StateDirectory) (name : String) (d : Disk) (loaded : Except StorageError β)
    (saved : Step Disk (Except StorageError α)) : Prop where
  refused : ∀ e, saved.answer = .error e → dir.Spares name d.files saved.state.files
  done : ∀ a, saved.answer = .ok a → ∃ data, loaded = .ok data

/-- **A refused request changes no document**, whatever the files, the passkey, the last key and the changes are, and
what cannot be read is never overwritten. -/
theorem careful_saves (dir : StateDirectory) (d : Disk) :
    (∀ changes, dir.Careful itemsFile d (dir.backend.loadItems d).answer (dir.backend.saveItems changes d)) ∧
      (∀ changes, dir.Careful hiddenFile d (dir.backend.loadHidden d).answer (dir.backend.saveHidden changes d)) ∧
      ∀ config e, (dir.backend.saveSeeds config d).answer = .error e →
        dir.Spares seedsFile d.files (dir.backend.saveSeeds config d).state.files := by
  refine ⟨fun changes => ⟨?_, ?_⟩, fun changes => ⟨?_, ?_⟩, ?_⟩
  · intro e he
    exact (sparing_saveItems changes).call he
  · intro count hcount
    exact loads_of_saveItems hcount
  · intro e he
    exact (sparing_saveHidden changes).call he
  · intro count hcount
    exact loads_of_saveHidden hcount
  · intro config e he
    exact (sparing_writeDocument seedsFile_mem config).call he

namespace Sample

/-- A directory in which the document of the hidden records is no JSON. -/
def spoiled : Disk := .start ⟨(∅ : Std.ExtTreeMap FilePath FileNode).insert ["hidden.json"] (.file [120])⟩ none default

/-- The same, but the next write fails after its first byte. -/
def cutOff : Disk := { spoiled with faults := [some [123]] }

end Sample

/-- Hidden records are refused there, while items are stored, unless the write of their draft is cut off. -/
theorem careful_saves_spoiled :
    (Sample.vault.backend.saveHidden ∅ Sample.spoiled).answer = .error .serialization ∧
      Sample.vault.Spares hiddenFile Sample.spoiled.files
        (Sample.vault.backend.saveHidden ∅ Sample.spoiled).state.files ∧
      (Sample.vault.backend.saveItems ∅ Sample.spoiled).answer = .ok 0 ∧
      (∃ items, (Sample.vault.backend.loadItems Sample.spoiled).answer = .ok items) ∧
      (Sample.vault.backend.saveItems ∅ Sample.cutOff).answer = .error .io ∧
      (Sample.vault.backend.saveItems ∅ Sample.cutOff).state.files.read ["items.json.tmp"] = .ok [123] ∧
      Sample.vault.Spares itemsFile Sample.cutOff.files (Sample.vault.backend.saveItems ∅ Sample.cutOff).state.files := by
  have hrefused : (Sample.vault.backend.saveHidden ∅ Sample.spoiled).answer = .error .serialization := by
    decide +kernel
  have hdone : (Sample.vault.backend.saveItems ∅ Sample.spoiled).answer = .ok 0 := by decide +kernel
  obtain ⟨hitems, hhidden, -⟩ := careful_saves Sample.vault Sample.spoiled
  have hcutOff : (Sample.vault.backend.saveItems ∅ Sample.cutOff).answer = .error .io := by decide +kernel
  exact ⟨hrefused, (hhidden ∅).refused _ hrefused, hdone, (hitems ∅).done _ hdone, hcutOff, by decide +kernel,
    ((careful_saves Sample.vault Sample.cutOff).1 ∅).refused _ hcutOff⟩

end StateDirectory

end TransferRegistry
