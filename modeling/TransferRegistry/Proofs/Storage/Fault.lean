import TransferRegistry.Proofs.Storage.Content

/-!
# Why requests for hidden records fail

* `DiskAction.FailsBy`: whatever an action fails with has a property; it has where this is so of all that the action does
  (`FailsBy.bind`).
* `StateDirectory.HiddenFault`: what can go wrong with hidden records where there is a passkey.
* `StateDirectory.failsBy_loadHidden`, `StateDirectory.failsBy_saveHidden`: with a passkey nothing else does, whatever the
  files, the last key and the changes are.
-/

namespace TransferRegistry

open Crypto (Bytes)
open Json (Codec)

variable {α β : Type}

namespace DiskAction

/-! ## Failures of actions -/

/-- Whatever an action fails with has the property. -/
def FailsBy (P : StorageError → Prop) (action : DiskAction α) : Prop := ∀ d e, (action.on d).1 = .error e → P e

variable {P : StorageError → Prop}

theorem FailsBy.bind {x : DiskAction α} {f : α → DiskAction β} (hx : FailsBy P x) (hf : ∀ a, FailsBy P (f a)) :
    FailsBy P (x >>= f) := by
  intro d e he
  rcases on_bind_cases x f d with ⟨fault, d', hfirst, hrun⟩ | ⟨a, d', -, hrun⟩
  · rw [hrun] at he
    obtain rfl : fault = e := Except.error.inj he
    exact hx d fault (by rw [hfirst])
  · rw [hrun] at he
    exact hf a d' e he

theorem failsBy_of_ok {action : DiskAction α} (h : ∀ d, ∃ a, (action.on d).1 = .ok a) : FailsBy P action := by
  intro d e he
  obtain ⟨a, ha⟩ := h d
  rw [ha] at he
  cases he

theorem failsBy_pure (a : α) : FailsBy P (pure a) := failsBy_of_ok fun _ => ⟨a, rfl⟩

theorem failsBy_get : FailsBy P get := failsBy_of_ok fun d => ⟨d, rfl⟩

theorem failsBy_modify (f : Disk → Disk) : FailsBy P (modify f) := failsBy_of_ok fun _ => ⟨⟨⟩, rfl⟩

theorem failsBy_draw (take : Entropy → α × Entropy) : FailsBy P (Disk.draw take) := failsBy_of_ok fun _ => ⟨_, rfl⟩

theorem failsBy_throw {fault : StorageError} (h : P fault) : FailsBy P (throw fault : DiskAction α) := by
  intro d e he
  obtain rfl : fault = e := Except.error.inj he
  exact h

theorem failsBy_ofExcept {x : Except StorageError α} (h : ∀ e, x = .error e → P e) :
    FailsBy P (MonadExcept.ofExcept x) := by
  intro d e he
  rw [on_ofExcept] at he
  exact h e he

theorem FailsBy.call {action : DiskAction α} (h : FailsBy P action) {d : Disk} {e : StorageError}
    (he : (action.call d).answer = .error e) : P e :=
  h { d with log := [] } e he

end DiskAction

namespace StateDirectory

open DiskAction (FailsBy failsBy_of_ok failsBy_pure failsBy_get failsBy_modify failsBy_draw failsBy_throw
  failsBy_ofExcept)

/-! ## Hidden records -/

/-- What can go wrong with hidden records where there is a passkey. -/
inductive HiddenFault : StorageError → Prop where
  | io : HiddenFault .io
  | serialization : HiddenFault .serialization
  | unsupportedVersion (found : UInt32) : HiddenFault (.unsupportedVersion hiddenFile found)
  | unsealFailed : HiddenFault .unsealFailed

variable {dir : StateDirectory} {e : StorageError}

theorem HiddenFault.ne_missingPasskey (h : HiddenFault e) : e ≠ .missingPasskey := by
  cases h <;> exact nofun

theorem hiddenFault_openRecords {key : SealKey} {records : List SealedRecord} (h : openRecords key records = .error e) :
    HiddenFault e := by
  have hopen : ∀ {r e}, openRecord key r = .error e → HiddenFault e := by
    intro r e he
    unfold openRecord at he
    split at he
    · cases he
      exact .unsealFailed
    · split at he
      · cases he
        exact .serialization
      · cases he
  induction records with
  | nil => cases h
  | cons r rest ih =>
    rw [openRecords] at h
    cases hr : openRecord key r with
    | error fault =>
      rw [hr] at h
      cases h
      exact hopen hr
    | ok record =>
      rw [hr] at h
      cases hrest : openRecords key rest with
      | error fault =>
        rw [hrest] at h
        cases h
        exact ih hrest
      | ok records =>
        rw [hrest] at h
        cases h

theorem failsBy_readSealed (dir : StateDirectory) :
    FailsBy HiddenFault (dir.readDocument (α := SealedDocument) hiddenFile) := by
  intro d e he
  rw [on_readDocument] at he
  unfold document StateDocument.ofBytes at he
  split at he
  · cases he
  · cases he
    exact .io
  · split at he
    · cases he
      exact .serialization
    · split at he
      · cases he
      · cases he
        exact .unsupportedVersion _

/-- A key is there or can be derived. -/
theorem failsBy_sealKey (h : dir.passkey ≠ "") (salt : Option Bytes) : FailsBy HiddenFault (dir.sealKey salt) := by
  have hderive : ∀ salt, FailsBy HiddenFault (MonadExcept.ofExcept (SealKey.derive dir.passkey salt)) := by
    intro salt
    obtain ⟨key, hkey⟩ := derive_ok h salt
    rw [hkey]
    exact failsBy_pure key
  unfold sealKey
  refine failsBy_get.bind fun d => ?_
  cases d.key.filter (usable salt) with
  | some key => exact failsBy_pure key
  | none =>
    have hkept : ∀ salt, FailsBy HiddenFault (do
        let key ← MonadExcept.ofExcept (SealKey.derive dir.passkey salt)
        Disk.report .keyDerived
        modify fun d => { d with key := some key }
        return key : DiskAction SealKey) := fun salt =>
      (hderive salt).bind fun key => (failsBy_modify _).bind fun _ => (failsBy_modify _).bind fun _ => failsBy_pure key
    cases salt with
    | some salt => exact hkept salt
    | none => exact (failsBy_draw _).bind hkept

theorem failsBy_readHidden (h : dir.passkey ≠ "") : FailsBy HiddenFault dir.readHidden := by
  unfold readHidden
  refine dir.failsBy_readSealed.bind fun document => ?_
  cases document with
  | none => exact failsBy_pure _
  | some document =>
    cases hsalt : Text.Base64.decode? document.salt with
    | none =>
      simp only [hsalt]
      exact failsBy_throw .unsealFailed
    | some salt =>
      simp only [hsalt]
      refine (failsBy_sealKey h _).bind fun key => ?_
      exact (failsBy_ofExcept fun _ => hiddenFault_openRecords).bind fun records => failsBy_pure _

theorem failsBy_sealRecords (key : SealKey) (records : List HiddenRecord) :
    FailsBy HiddenFault (sealRecords key records) :=
  failsBy_of_ok fun d => by
    obtain ⟨sealedRecords, d', hon, -⟩ := on_sealRecords key records d
    exact ⟨sealedRecords, by rw [hon]⟩

theorem failsBy_changeFiles (change : FileTree → Except FileError FileTree) :
    FailsBy HiddenFault (changeFiles change) := by
  intro d e he
  rw [on_changeFiles] at he
  split at he
  · cases he
  · cases he
    exact .io

theorem failsBy_writeFile (path : FilePath) (content : Crypto.Bytes) :
    FailsBy HiddenFault (writeFile path content) := by
  have hfault : FailsBy HiddenFault nextFault := failsBy_of_ok fun _ => ⟨_, rfl⟩
  refine hfault.bind fun fault => ?_
  cases fault with
  | none => exact failsBy_changeFiles _
  | some torn => exact (failsBy_changeFiles _).bind fun _ => failsBy_throw .io

theorem failsBy_writeDocument [Codec α] (name : String) (data : α) :
    FailsBy HiddenFault (dir.writeDocument name data) :=
  (failsBy_writeFile _ _).bind fun _ => (failsBy_changeFiles _).bind fun _ => failsBy_modify _

/-- With a passkey, hidden records are loaded or one of the faults is told. -/
theorem failsBy_loadHidden (h : dir.passkey ≠ "") : FailsBy HiddenFault dir.loadHidden :=
  (failsBy_readHidden h).bind fun _ => failsBy_pure _

/-- With a passkey, changes to hidden records are done or one of the faults is told. -/
theorem failsBy_saveHidden (h : dir.passkey ≠ "") (changes : HiddenChanges) :
    FailsBy HiddenFault (dir.saveHidden changes) := by
  unfold saveHidden
  refine (failsBy_readHidden h).bind fun stored => ?_
  refine (failsBy_sealKey h none).bind fun key => ?_
  refine (failsBy_sealRecords key _).bind fun records => ?_
  exact (failsBy_writeDocument hiddenFile _).bind fun _ => failsBy_pure _

end StateDirectory

end TransferRegistry
