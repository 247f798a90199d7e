import TransferRegistry.Proofs.Storage.Collection
import TransferRegistry.Proofs.Storage.Document
import TransferRegistry.Proofs.Storage.FileTree

/-!
# What the actions of a directory do

* `DiskAction.on`: what an action answers on a disk, and the disk after it; `on_bind` and `on_bind_cases` take actions
  apart.
* `on_writeFile_cases`: a file is written, or it is left as it was or with any content.
* `on_writeDocument`: a document is written as a whole or left as it was, and the others are left alone.
* `KeyFits`: the last key is the key of the passkey and its salt, so what is read does not depend on it
  (`on_readHidden`).
* `on_sealRecords`: sealed records are opened with the key they were sealed with.
-/

namespace TransferRegistry

open Crypto (Bytes)
open Json (Codec Faithful reread)

/-! ## Actions -/

namespace DiskAction

variable {α β : Type}

/-- What an action answers on a disk, and the disk after it. -/
def on (action : DiskAction α) (d : Disk) : Except StorageError α × Disk := action.run.run d

@[simp] theorem on_pure (a : α) (d : Disk) : (pure a : DiskAction α).on d = (.ok a, d) := rfl

@[simp] theorem on_get (d : Disk) : (get : DiskAction Disk).on d = (.ok d, d) := rfl

@[simp] theorem on_ofExcept (x : Except StorageError α) (d : Disk) :
    (MonadExcept.ofExcept x : DiskAction α).on d = (x, d) := by
  cases x <;> rfl

theorem on_bind (x : DiskAction α) (f : α → DiskAction β) (d : Disk) :
    (x >>= f).on d = match x.on d with
      | (.ok a, d') => (f a).on d'
      | (.error e, d') => (.error e, d') := by
  rw [on, ExceptT.run_bind, StateT.run_bind]
  cases hx : x.on d with
  | mk answer after =>
    have hrun : x.run.run d = (answer, after) := hx
    rw [hrun]
    cases answer <;> rfl

/-- The first action fails, and that is all, or the next one is done after it. -/
theorem on_bind_cases (x : DiskAction α) (f : α → DiskAction β) (d : Disk) :
    (∃ e d', x.on d = (.error e, d') ∧ (x >>= f).on d = (.error e, d')) ∨
      ∃ a d', x.on d = (.ok a, d') ∧ (x >>= f).on d = (f a).on d' := by
  rw [on_bind]
  cases hx : x.on d with
  | mk answer d' =>
    cases answer with
    | error e => exact Or.inl ⟨e, d', rfl, rfl⟩
    | ok a => exact Or.inr ⟨a, d', rfl, rfl⟩

/-- What fails is not gone on with. -/
theorem on_bind_error {x : DiskAction α} {d d' : Disk} {e : StorageError} (h : x.on d = (.error e, d'))
    (f : α → DiskAction β) : (x >>= f).on d = (.error e, d') := by
  rw [on_bind, h]

@[simp] theorem on_draw (take : Entropy → α × Entropy) (d : Disk) :
    (Disk.draw take).on d = (.ok (take d.entropy).1, { d with entropy := (take d.entropy).2 }) := rfl

end DiskAction

/-- The files of two disks are the same, and so is what becomes of those that are written next. -/
structure Disk.SameFiles (d d' : Disk) : Prop where
  files : d'.files = d.files
  faults : d'.faults = d.faults

theorem Disk.SameFiles.refl (d : Disk) : d.SameFiles d := ⟨rfl, rfl⟩

theorem Disk.SameFiles.trans {d d' d'' : Disk} (h : d.SameFiles d') (h' : d'.SameFiles d'') : d.SameFiles d'' :=
  ⟨h'.files.trans h.files, h'.faults.trans h.faults⟩

namespace StateDirectory

open DiskAction (on_bind)

variable (dir : StateDirectory) {α : Type} [Codec α]

/-! ## Documents -/

/-- The data of the document with a name, if there is one. -/
def document (t : FileTree) (name : String) : Except StorageError (Option α) :=
  match t.read (dir.file name) with
  | .error .notFound => .ok none
  | .error .other => .error .io
  | .ok content => (StateDocument.ofBytes name content).map some

theorem on_readDocument (name : String) (d : Disk) :
    (dir.readDocument (α := α) name).on d = (dir.document d.files name, d) := by
  unfold readDocument document
  rw [on_bind]
  simp only [DiskAction.on_get]
  cases d.files.read (dir.file name) with
  | error e => cases e <;> rfl
  | ok content =>
    simp only
    rw [on_bind, DiskAction.on_ofExcept]
    cases StateDocument.ofBytes (α := α) name content <;> rfl

theorem on_changeFiles (change : FileTree → Except FileError FileTree) (d : Disk) :
    (changeFiles change).on d = match change d.files with
      | .ok files => (.ok (), { d with files, history := d.history ++ [files] })
      | .error _ => (.error .io, d) := by
  unfold changeFiles
  rw [on_bind]
  simp only [DiskAction.on_get]
  cases change d.files <;> rfl

/-- A file is written, or it is not and then it is as it was or has some other content. -/
theorem on_writeFile_cases (path : FilePath) (content : Bytes) (d : Disk) :
    (∃ d', (writeFile path content).on d = (.ok (), d') ∧ d'.key = d.key ∧ d.files.write path content = .ok d'.files) ∨
      ∃ d', (writeFile path content).on d = (.error .io, d') ∧ d'.key = d.key ∧
        (d'.files = d.files ∨ ∃ torn, d.files.write path torn = .ok d'.files) := by
  unfold writeFile
  have hfault : nextFault.on d = (.ok d.faults.head?.join, { d with faults := d.faults.tail }) := rfl
  rw [on_bind, hfault]
  cases d.faults.head?.join with
  | none =>
    simp only [on_changeFiles]
    cases hwrite : d.files.write path content with
    | error e => exact Or.inr ⟨_, rfl, rfl, Or.inl rfl⟩
    | ok written => exact Or.inl ⟨_, rfl, rfl, rfl⟩
  | some torn =>
    simp only [on_bind, on_changeFiles]
    cases hwrite : d.files.write path torn with
    | error e => exact Or.inr ⟨_, rfl, rfl, Or.inl rfl⟩
    | ok written => exact Or.inr ⟨_, rfl, rfl, Or.inr ⟨torn, hwrite⟩⟩

/-- Without faults a file is written where one can be put. -/
theorem on_writeFile_of_sure {d : Disk} (h : d.faults = []) (path : FilePath) (content : Bytes) :
    (writeFile path content).on d = (changeFiles (·.write path content)).on d := by
  obtain ⟨files, history, key, entropy, log, faults⟩ := d
  obtain rfl : faults = [] := h
  rfl

/-! ## Changes of documents -/

/-- The names of the documents. -/
def documents : List String := [itemsFile, hiddenFile, seedsFile]

theorem file_aside {name other : String} (h : name ≠ other) : FilePath.Aside (dir.file name) (dir.file other) := by
  refine ⟨fun heq => h ?_, ?_⟩
  · have := List.append_cancel_left heq
    exact List.singleton_inj.1 this
  · simp [file]

theorem file_ne_nil (name : String) : dir.file name ≠ [] := by simp [file]

/-- No draft has the name of a document. -/
theorem draft_ne {name other : String} (hname : name ∈ documents) (ho : other ∈ documents) : name ++ ".tmp" ≠ other := by
  simp only [documents, List.mem_cons, List.not_mem_nil, or_false] at hname ho
  rcases ho with rfl | rfl | rfl <;> rcases hname with rfl | rfl | rfl <;> decide

/-- What a draft is left with is read in none of the documents. -/
theorem read_drafted {name other : String} (hname : name ∈ documents) (ho : other ∈ documents) {t t' : FileTree}
    {content : Bytes} (h : t.write (dir.file (name ++ ".tmp")) content = .ok t') :
    t'.read (dir.file other) = t.read (dir.file other) := by
  rw [FileTree.eq_of_write h]
  exact FileTree.read_insert_of_aside (dir.file_aside (draft_ne hname ho)) _

/-- A draft that takes the place of its document has that read as it was written, and the others as they were. -/
theorem read_renamed {name : String} (hname : name ∈ documents) {t drafted renamed : FileTree} {content : Bytes}
    (hwrite : t.write (dir.file (name ++ ".tmp")) content = .ok drafted)
    (hrename : drafted.rename (dir.file (name ++ ".tmp")) (dir.file name) = .ok renamed) :
    (∀ other ∈ documents, other ≠ name → renamed.read (dir.file other) = t.read (dir.file other)) ∧
      (t.read (dir.file name) ≠ .error .other → renamed.read (dir.file name) = .ok content) := by
  obtain ⟨moved, hmoved, rfl⟩ := FileTree.eq_of_rename hrename
  obtain rfl : content = moved := by
    rw [FileTree.eq_of_write hwrite, FileTree.content?, FileTree.node?, if_neg (dir.file_ne_nil _),
      Std.ExtTreeMap.getElem?_insert_self] at hmoved
    exact Option.some.inj hmoved
  -- the draft is taken away, and then the document is put in
  have herased : ∀ other ∈ documents, FileTree.read ⟨drafted.nodes.erase (dir.file (name ++ ".tmp"))⟩ (dir.file other) =
      t.read (dir.file other) := fun other ho =>
    (FileTree.read_erase_of_aside (dir.file_aside (draft_ne hname ho))).trans (dir.read_drafted hname ho hwrite)
  refine ⟨fun other ho hne => ?_, fun hread => ?_⟩
  · exact (FileTree.read_insert_of_aside (dir.file_aside hne.symm) _).trans (herased other ho)
  · rw [← herased name hname] at hread
    exact FileTree.read_insert (dir.file_ne_nil name) hread _

/-- How the writing of a document ends: the files could not be changed and all documents are as they were, or that one
has the data; the last key and what is read of other documents are as they were in either case. -/
theorem on_writeDocument {name : String} (hname : name ∈ documents) (data : α) (d : Disk) :
    ∃ answer d', (dir.writeDocument name data).on d = (answer, d') ∧ d'.key = d.key ∧
      (∀ other ∈ documents, other ≠ name → d'.files.read (dir.file other) = d.files.read (dir.file other)) ∧
      match answer with
      | .error e => e = .io ∧ d'.files.read (dir.file name) = d.files.read (dir.file name)
      | .ok _ => d.files.read (dir.file name) ≠ .error .other →
          d'.files.read (dir.file name) = .ok (StateDocument.bytes data) := by
  unfold writeDocument
  generalize StateDocument.bytes data = bytes
  rcases on_writeFile_cases (dir.file (name ++ ".tmp")) bytes d with ⟨d₁, hon, hkey, hwrite⟩ | ⟨d₁, hon, hkey, hleft⟩
  · have hdrafted : ∀ other ∈ documents, d₁.files.read (dir.file other) = d.files.read (dir.file other) :=
      fun other ho => dir.read_drafted hname ho hwrite
    rw [on_bind, hon]
    simp only [on_bind, on_changeFiles]
    cases hrename : d₁.files.rename (dir.file (name ++ ".tmp")) (dir.file name) with
    | error e => exact ⟨_, d₁, rfl, hkey, fun other ho _ => hdrafted other ho, rfl, hdrafted name hname⟩
    | ok renamed =>
      obtain ⟨hothers, hdata⟩ := dir.read_renamed hname hwrite hrename
      exact ⟨_, _, rfl, hkey, hothers, hdata⟩
  · have hdrafted : ∀ other ∈ documents, d₁.files.read (dir.file other) = d.files.read (dir.file other) := by
      rcases hleft with heq | ⟨torn, htorn⟩
      · rw [heq]
        exact fun _ _ => rfl
      · exact fun other ho => dir.read_drafted hname ho htorn
    exact ⟨_, d₁, DiskAction.on_bind_error hon _, hkey, fun other ho _ => hdrafted other ho, rfl, hdrafted name hname⟩

/-! ## Keys -/

/-- The last key, if there is one, is the key of the passkey and its salt. -/
def KeyFits (d : Disk) : Prop := ∀ key, d.key = some key → SealKey.derive dir.passkey key.salt = .ok key

theorem salt_of_derive {passkey : String} {salt : Bytes} {key : SealKey} (h : SealKey.derive passkey salt = .ok key) :
    key.salt = salt := by
  rw [SealKey.derive] at h
  split at h
  · cases h
  · obtain rfl := Except.ok.inj h
    rfl

/-- Every salt makes a key of a passkey. -/
theorem derive_ok {passkey : String} (h : passkey ≠ "") (salt : Bytes) : ∃ key, SealKey.derive passkey salt = .ok key := by
  rw [SealKey.derive, if_neg (by simpa using h)]
  exact ⟨_, rfl⟩

variable {dir}

/-- To derive a key changes no file, and it is kept. -/
theorem on_deriveKey {d : Disk} (hd : dir.KeyFits d) (salt : Bytes) :
    ∃ d', (do
      let key ← MonadExcept.ofExcept (SealKey.derive dir.passkey salt)
      Disk.report .keyDerived
      modify fun d => { d with key := some key }
      return key : DiskAction SealKey).on d = (SealKey.derive dir.passkey salt, d') ∧
      d.SameFiles d' ∧ dir.KeyFits d' ∧ ∀ key, SealKey.derive dir.passkey salt = .ok key → d'.key = some key := by
  cases hkey : SealKey.derive dir.passkey salt with
  | error e => exact ⟨d, rfl, .refl d, hd, nofun⟩
  | ok key =>
    refine ⟨_, rfl, ⟨rfl, rfl⟩, fun kept hkept => ?_, fun kept hkept => ?_⟩
    · obtain rfl : key = kept := Option.some.inj hkept
      rw [salt_of_derive hkey, hkey]
    · rw [Except.ok.inj hkept]

/-- The key for a salt is derived from it, whichever was the last one. -/
theorem on_sealKey_some {d : Disk} (hd : dir.KeyFits d) (salt : Bytes) :
    ∃ d', (dir.sealKey (some salt)).on d = (SealKey.derive dir.passkey salt, d') ∧ d.SameFiles d' ∧
      dir.KeyFits d' ∧ ∀ key, SealKey.derive dir.passkey salt = .ok key → d'.key = some key := by
  unfold sealKey
  rw [on_bind]
  simp only [DiskAction.on_get]
  cases hkey : d.key.filter (usable (some salt)) with
  | some key =>
    obtain ⟨hkept, husable⟩ := Option.filter_eq_some_iff.1 hkey
    have hsalt : key.salt = salt := by simpa [usable] using husable
    refine ⟨d, ?_, .refl d, hd, fun other ho => ?_⟩
    · rw [← hsalt, hd key hkept]
      rfl
    · rw [← hsalt, hd key hkept] at ho
      rw [hkept, Except.ok.inj ho]
  | none =>
    obtain ⟨d', hderive, hfiles, hfits, hkept⟩ := on_deriveKey hd salt
    refine ⟨d', ?_, hfiles, hfits, hkept⟩
    rw [← hderive]
    rfl

/-- Without a salt the key is the last one, or it is made of a new salt, which only fails without a passkey. -/
theorem on_sealKey_none {d : Disk} (hd : dir.KeyFits d) :
    ∃ answer d', (dir.sealKey none).on d = (answer, d') ∧ d.SameFiles d' ∧ dir.KeyFits d' ∧
      (∀ key, d.key = some key → answer = .ok key) ∧
      match answer with
      | .error _ => dir.passkey = ""
      | .ok key => SealKey.derive dir.passkey key.salt = .ok key := by
  unfold sealKey
  rw [on_bind]
  simp only [DiskAction.on_get]
  cases hkey : d.key.filter (usable none) with
  | some key =>
    obtain ⟨hkept, -⟩ := Option.filter_eq_some_iff.1 hkey
    refine ⟨_, d, rfl, .refl d, hd, fun other ho => ?_, hd key hkept⟩
    rw [← Option.some.inj (hkept.symm.trans ho)]
  | none =>
    have hnone := Option.filter_eq_none_iff.1 hkey
    -- the salt is drawn first, which leaves files and key alone
    have hdrawn : dir.KeyFits { d with entropy := (SealKey.generateSalt d.entropy).2 } := hd
    obtain ⟨d', hderive, hfiles, hfits, -⟩ := on_deriveKey hdrawn (SealKey.generateSalt d.entropy).1
    refine ⟨SealKey.derive dir.passkey (SealKey.generateSalt d.entropy).1, d', ?_, ⟨hfiles.files, hfiles.faults⟩, hfits,
      fun key hkept => absurd rfl (hnone key hkept), ?_⟩
    · simp only
      rw [on_bind, DiskAction.on_draw]
      exact hderive
    · cases hmade : SealKey.derive dir.passkey (SealKey.generateSalt d.entropy).1 with
      | error e =>
        by_contra hpasskey
        obtain ⟨key, hkey⟩ := derive_ok hpasskey (SealKey.generateSalt d.entropy).1
        rw [hkey] at hmade
        cases hmade
      | ok key =>
        show SealKey.derive dir.passkey key.salt = .ok key
        rw [salt_of_derive hmade, hmade]

/-! ## Hidden records -/

variable (dir) in
/-- The hidden records of a document, under the key of its salt. -/
def openDocument (document : SealedDocument) : Except StorageError (Std.ExtTreeMap ItemId HiddenRecord) :=
  match Text.Base64.decode? document.salt with
  | none => .error .unsealFailed
  | some salt =>
    match SealKey.derive dir.passkey salt with
    | .error e => .error e
    | .ok key => (openRecords key document.records).map (byId (·.entry.id))

variable (dir) in
/-- The hidden records of a tree of files. -/
def hiddenIn (t : FileTree) : Except StorageError (Std.ExtTreeMap ItemId HiddenRecord) :=
  match dir.document (α := SealedDocument) t hiddenFile with
  | .error e => .error e
  | .ok none => .ok ∅
  | .ok (some document) => dir.openDocument document

/-- What is read does not depend on the last key; after it the key of the document is the last one. -/
theorem on_readHidden {d : Disk} (hd : dir.KeyFits d) :
    ∃ d', dir.readHidden.on d = (dir.hiddenIn d.files, d') ∧ d.SameFiles d' ∧ dir.KeyFits d' ∧
      ∀ document stored, dir.document d.files hiddenFile = .ok (some document) → dir.openDocument document = .ok stored →
        ∃ key, d'.key = some key ∧ Text.Base64.decode? document.salt = some key.salt := by
  unfold readHidden hiddenIn
  rw [on_bind, on_readDocument]
  cases dir.document (α := SealedDocument) d.files hiddenFile with
  | error e => exact ⟨d, rfl, .refl d, hd, nofun⟩
  | ok document =>
    cases document with
    | none => exact ⟨d, rfl, .refl d, hd, nofun⟩
    | some document =>
      simp only [openDocument]
      cases hsalt : Text.Base64.decode? document.salt with
      | none =>
        refine ⟨d, rfl, .refl d, hd, fun other stored ho hopen => ?_⟩
        obtain rfl := Option.some.inj (Except.ok.inj ho)
        rw [hsalt] at hopen
        cases hopen
      | some salt =>
        obtain ⟨d', hkey, hfiles, hfits, hkept⟩ := on_sealKey_some hd salt
        refine ⟨d', ?_, hfiles, hfits, fun other stored ho hopen => ?_⟩
        · simp only
          rw [on_bind, hkey]
          cases SealKey.derive dir.passkey salt with
          | error e => rfl
          | ok key =>
            simp only
            rw [on_bind, DiskAction.on_ofExcept]
            cases openRecords key document.records <;> rfl
        · obtain rfl := Option.some.inj (Except.ok.inj ho)
          simp only [hsalt] at hopen
          cases hderive : SealKey.derive dir.passkey salt with
          | error e =>
            rw [hderive] at hopen
            cases hopen
          | ok key => exact ⟨key, hkept key hderive, by rw [hsalt, salt_of_derive hderive]⟩

/-- Sealed records are opened with the key they were sealed with. -/
theorem on_sealRecords (key : SealKey) (records : List HiddenRecord) (d : Disk) :
    ∃ sealedRecords d', (sealRecords key records).on d = (.ok sealedRecords, d') ∧ d.SameFiles d' ∧
      d'.key = d.key ∧ openRecords key sealedRecords = .ok (records.map reread) := by
  induction records generalizing d with
  | nil => exact ⟨[], d, rfl, .refl d, rfl, rfl⟩
  | cons record records ih =>
    obtain ⟨rest, d', hrest, hfiles, hkey, hopen⟩ := ih { d with entropy := (SealKey.generateNonce d.entropy).2 }
    have hnonce : (SealKey.generateNonce d.entropy).1.length = SealKey.parameters.nonceLength := Entropy.length_take _ _
    refine ⟨key.encrypt (SealKey.generateNonce d.entropy).1 (compactBytes record) :: rest, d', ?_,
      ⟨hfiles.files, hfiles.faults⟩, hkey, ?_⟩
    · rw [sealRecords, on_bind, DiskAction.on_draw]
      simp only
      rw [on_bind, hrest]
      rfl
    · rw [openRecords, openRecord_encrypt key hnonce, hopen]
      rfl

end StateDirectory

end TransferRegistry
