import TransferRegistry.CommandLine
import TransferRegistry.Proofs.Config.Load
import TransferRegistry.Proofs.Storage.Fault

/-!
# What a configuration that passed is good for

* `Configuration.reseeded`: a configuration with seeds drawn as it says; it passes like the one before
  (`Configuration.Valid.reseeded`).
* `Configuration.Serves`: the log, the stored state and the drawing of seeds can do with a configuration.
* `Configuration.exact_and_enough`: configurations pass exactly where they are `Valid`, and those that pass serve.
* `boot_serving`: a program that runs has a configuration that passed, and stores its state in the directory of that.
-/

namespace TransferRegistry

namespace Configuration

/-- The configuration with as many seeds of such a length as it says, drawn in place of those that it gives. -/
def reseeded (c : Configuration) (e : Entropy) : Configuration :=
  { c with seeds.defaultSeeds := (generateSeeds c.seeds.seedCount.toNat c.seeds.seedLength.toNat e).1 }

/-- The directory of the stored state at a path, with the passkey of the configuration. -/
def directory (c : Configuration) (path : FilePath) : StateDirectory := ⟨path, c.core.hiddenPasskey⟩

/-- All who go on with a configuration can do with it. -/
structure Serves (c : Configuration) : Prop where
  /-- The log has a level. -/
  level : ∃ level, parseLevel c.logLevel = .ok level
  /-- Where the state is stored, no request for hidden records lacks a passkey, whatever the files and the last key. -/
  loads : c.persistence.enabled = true → ∀ path d,
    ((c.directory path).backend.loadHidden d).answer ≠ .error .missingPasskey
  saves : c.persistence.enabled = true → ∀ path d changes,
    ((c.directory path).backend.saveHidden changes d).answer ≠ .error .missingPasskey
  /-- Whatever is drawn, the new seeds pass. -/
  reseeds : ∀ e, (c.reseeded e).validate = .ok ()

variable {c : Configuration}

theorem Valid.reseeded (h : c.Valid) (e : Entropy) : (c.reseeded e).Valid where
  level := h.level
  seeds seed hseed := by
    have hdrawn := (generateSeeds_spec c.seeds.seedCount.toNat c.seeds.seedLength.toNat e).2 seed hseed
    exact hdrawn.visible (Nat.one_le_iff_ne_zero.1 h.length.1)
  length := h.length
  count := h.count
  path := h.path
  interval := h.interval
  passkey := h.passkey

theorem Valid.serves (h : c.Valid) : c.Serves where
  level := h.level
  loads henabled path d hmissing := by
    have hpasskey : (c.directory path).passkey ≠ "" := h.passkey henabled
    exact ((StateDirectory.failsBy_loadHidden hpasskey).call hmissing).ne_missingPasskey rfl
  saves henabled path d changes hmissing := by
    have hpasskey : (c.directory path).passkey ≠ "" := h.passkey henabled
    exact ((StateDirectory.failsBy_saveHidden hpasskey changes).call hmissing).ne_missingPasskey rfl
  reseeds e := validate_eq_ok.2 (h.reseeded e)

/-- **Configurations pass exactly where they are valid, and those that pass serve**: their level is read, no request for
hidden records lacks a passkey where the state is stored, and drawn seeds pass in place of the given ones. -/
theorem exact_and_enough (c : Configuration) : (c.validate = .ok () ↔ c.Valid) ∧ (c.validate = .ok () → c.Serves) :=
  ⟨validate_eq_ok, fun hpass => (validate_eq_ok.1 hpass).serves⟩

namespace Sample

/-- A configuration with the least interval, a seed in Greek, and blanks around the path. -/
def greek : Configuration where
  logLevel := "warn"
  core := ⟨"σ"⟩
  seeds := ⟨256, 64, ["σπόρος"]⟩
  persistence := ⟨true, " data\t", 1⟩

end Sample

/-- It passes, so it serves. -/
theorem exact_and_enough_greek : Sample.greek.validate = .ok () ∧ Sample.greek.Valid ∧ Sample.greek.Serves := by
  have hpass : Sample.greek.validate = .ok () := by decide +kernel
  obtain ⟨hvalid, hserves⟩ := exact_and_enough Sample.greek
  exact ⟨hpass, hvalid.1 hpass, hserves hpass⟩

/-- No configuration is loaded but one that passed. -/
theorem valid_of_load {files : FileTree} {path : String} {create : Bool} {e : Entropy}
    (h : (load files path create e).result = .ok c) : c.Valid := by
  rcases fromFile_or_unread files path with ⟨found, hfound⟩ | hunread
  · rw [(load_of_fromFile hfound create e).2] at h
    cases hpass : found.validate with
    | error fault =>
      rw [hpass] at h
      cases h
    | ok _ =>
      rw [hpass] at h
      cases h
      exact validate_eq_ok.1 hpass
  · cases create with
    | false =>
      rw [(load_refused hunread e).2] at h
      cases h
    | true =>
      by_cases hwrites : ∃ written, Writes files path e written
      · obtain ⟨written, hwritten⟩ := hwrites
        rw [(load_written hunread hwritten).2] at h
        cases h
      · rw [(load_unwritten hunread (not_exists.1 hwrites)).2] at h
        cases h

end Configuration

/-! ## The running program -/

variable {s s' : Service} {p p' : Progress}

/-- The directory that the configuration of a service asks for, if it asks for one. -/
def Service.ownDirectory (s : Service) : Option StateDirectory :=
  if s.config.persistence.enabled then some (s.config.directory (FilePath.ofText s.config.persistence.path)) else none

theorem openState_serving (h : openState s p = .serving s' p') (henabled : s.config.persistence.enabled = true) :
    s'.config = s.config ∧ s'.directory.map (·.1) = s'.ownDirectory := by
  unfold openState at h
  simp only at h
  split at h
  · cases h
  · split at h
    · cases h
    · cases h
      exact ⟨rfl, (if_pos henabled).symm⟩

theorem startService_serving {c : Configuration} {level : LevelFilter} {now : Int64}
    (h : startService c level now p = .serving s' p') : s'.config = c ∧ s'.directory.map (·.1) = s'.ownDirectory := by
  unfold startService at h
  simp only at h
  split at h
  · rename_i henabled
    exact openState_serving h henabled
  · rename_i hdisabled
    cases h
    exact ⟨rfl, (if_neg hdisabled).symm⟩

/-- **A program that runs has a configuration that passed**, and stores its state in the directory of that, if at all. -/
theorem boot_serving {i : Invocation} {files : FileTree} {now : Int64} {e : Entropy}
    (h : boot i files now e = .serving s p) : s.config.Valid ∧ s.directory.map (·.1) = s.ownDirectory := by
  unfold boot at h
  simp only at h
  split at h
  · cases h
  split at h
  · cases h
  rename_i c hload
  split at h
  · cases h
  split at h
  · cases h
  split at h
  · rename_i hstart
    split at h
    · cases h
    · cases h
      obtain ⟨rfl, hdirectory⟩ := startService_serving hstart
      exact ⟨Configuration.valid_of_load hload, hdirectory⟩
  · rename_i hended
    exact absurd h (hended s p)

end TransferRegistry
