import TransferRegistry.Config.Load
import TransferRegistry.Proofs.Config.Toml
import TransferRegistry.Proofs.Config.Validate
import TransferRegistry.Proofs.Storage.FileTree

/-!
# A configuration file that was made is one to start with

* `load_of_fromFile`, `load_refused`, `load_written`, `load_unwritten`: the four ways in which loading ends.
* `Writes.fromFile`: what was written to a path is read from it.
* `survives_and_boots`: every configuration is read from the bytes of its text as it was, and every load keeps what
  `Booting` promises: files change only in place of a file that is not read, and from a file that was made the next load
  gives the configuration in it.
-/

namespace TransferRegistry.Configuration

/-- There is no configuration to be read at a path. -/
def Unread (files : FileTree) (path : String) : Prop := ∃ fault, fromFile files path = .error fault

/-- The text of a new configuration is put at a path. -/
def Writes (files : FileTree) (path : String) (e : Entropy) (written : FileTree) : Prop :=
  files.write (FilePath.ofText path) (Text.utf8 (generate e).1.toToml) = .ok written

/-- What one load of a path promises, of the files before it and of what it leaves. -/
structure Booting (files : FileTree) (path : String) (create : Bool) (e : Entropy) (done : ConfigLoading) : Prop where
  /-- Files change only where a new one was asked for, in place of one that is not read. -/
  changed : done.files ≠ files → create = true ∧ Unread files path ∧ Writes files path e done.files
  /-- A file that is read stays, with a configuration that passes or with one that is refused. -/
  judged : ∀ c, fromFile files path = .ok c → done.files = files ∧ done.result = c.validate.map fun _ => c
  /-- A new file is told as an error. -/
  told : ∀ written, create = true → Unread files path → Writes files path e written →
    done.files = written ∧ done.result = .error .created
  /-- From the new file the next load gives what was written, which passes, and lets it stay. -/
  next : ∀ written, create = true → Unread files path → Writes files path e written → ∀ create' e',
    (load done.files path create' e').result = .ok (generate e).1 ∧ (generate e).1.validate = .ok () ∧
      (load done.files path create' e').files = done.files

variable {files written : FileTree} {path : String} {create : Bool} {e : Entropy}

/-! ## How loading ends -/

theorem load_of_fromFile {c : Configuration} (h : fromFile files path = .ok c) (create : Bool) (e : Entropy) :
    (load files path create e).files = files ∧ (load files path create e).result = c.validate.map fun _ => c := by
  unfold load
  simp only [h, and_self]

/-- No new file is asked for. -/
theorem load_refused (h : Unread files path) (e : Entropy) :
    (load files path false e).files = files ∧ (load files path false e).result = .error .absent := by
  obtain ⟨fault, hfault⟩ := h
  unfold load
  simp only [hfault, Bool.false_eq_true, if_false, and_self]

theorem load_written (h : Unread files path) (hwrites : Writes files path e written) :
    (load files path true e).files = written ∧ (load files path true e).result = .error .created := by
  obtain ⟨fault, hfault⟩ := h
  unfold Writes at hwrites
  unfold load createFile
  rw [hfault]
  -- The drawn configuration is kept closed.
  generalize generate e = drawn at hwrites ⊢
  obtain ⟨config, entropy⟩ := drawn
  simp only [hwrites, if_true, and_self]

theorem load_unwritten (h : Unread files path) (hwrites : ∀ written, ¬ Writes files path e written) :
    (load files path true e).files = files ∧ (load files path true e).result = .error .notCreated := by
  obtain ⟨fault, hfault⟩ := h
  unfold Writes at hwrites
  unfold load createFile
  rw [hfault]
  generalize generate e = drawn at hwrites ⊢
  obtain ⟨config, entropy⟩ := drawn
  cases hwrite : files.write (FilePath.ofText path) (Text.utf8 config.toToml) with
  | ok written => exact absurd hwrite (hwrites written)
  | error => simp only [hwrite, if_true, and_self]

theorem fromFile_or_unread (files : FileTree) (path : String) :
    (∃ c, fromFile files path = .ok c) ∨ Unread files path := by
  cases h : fromFile files path with
  | ok c => exact Or.inl ⟨c, rfl⟩
  | error fault => exact Or.inr ⟨fault, h⟩

/-! ## A new file -/

theorem Writes.fromFile (h : Writes files path e written) (hrooted : files.Rooted) :
    fromFile written path = .ok (generate e).1 := by
  unfold Configuration.fromFile
  rw [hrooted.read_of_write h]
  simp only [ofBytes?_utf8]

/-- From a new file the next load gives what was written. -/
theorem Writes.load (h : Writes files path e written) (hrooted : files.Rooted) (create : Bool) (e' : Entropy) :
    (load written path create e').result = .ok (generate e).1 ∧ (load written path create e').files = written := by
  obtain ⟨hfiles, hresult⟩ := load_of_fromFile (h.fromFile hrooted) create e'
  rw [validate_generate e] at hresult
  exact ⟨hresult, hfiles⟩

/-- Where loading changes files, a new file was asked for and written. -/
theorem changed_of_load (h : (load files path create e).files ≠ files) :
    create = true ∧ Unread files path ∧ Writes files path e (load files path create e).files := by
  rcases fromFile_or_unread files path with ⟨c, hc⟩ | hunread
  · exact absurd (load_of_fromFile hc create e).1 h
  · cases create with
    | false => exact absurd (load_refused hunread e).1 h
    | true =>
      by_cases hwrites : ∃ written, Writes files path e written
      · obtain ⟨written, hwritten⟩ := hwrites
        rw [(load_written hunread hwritten).1]
        exact ⟨rfl, hunread, hwritten⟩
      · have hnone : ∀ written, ¬ Writes files path e written := not_exists.1 hwrites
        exact absurd (load_unwritten hunread hnone).1 h

/-- A file that is cut off within its first line. -/
def cutOff : FileTree := ⟨(∅ : FileTree).nodes.insert ["config.toml"] (.file (Text.utf8 "log_level = \"in"))⟩

theorem ofText_config : FilePath.ofText "config.toml" = ["config.toml"] := by
  have hsplit : "config.toml".splitOn "/" = ["config.toml"] := by
    rw [String.splitOn, if_neg (by decide +kernel)]
    -- No character is the separator; the split does not compute, so they are passed one by one.
    repeat rw [String.splitOnAux, if_neg (by decide +kernel), if_neg (by decide +kernel)]
    rw [String.splitOnAux, if_pos (by decide +kernel)]
    decide +kernel
  rw [FilePath.ofText, hsplit]
  decide +kernel

/-- A configuration is read from the bytes of its text as it was, and what was written to a path boots. -/
theorem survives_and_boots :
    (∀ c : Configuration, ofBytes? (Text.utf8 c.toToml) = some c) ∧
      ∀ (files : FileTree) (path : String) (create : Bool) (e : Entropy), files.Rooted →
        Booting files path create e (load files path create e) := by
  refine ⟨ofBytes?_utf8, ?_⟩
  intro files path create e hrooted
  constructor
  case changed => exact changed_of_load
  case judged =>
    intro c hc
    exact load_of_fromFile hc create e
  case told =>
    rintro written rfl hunread hwrites
    exact load_written hunread hwrites
  case next =>
    rintro written rfl hunread hwrites create' e'
    obtain ⟨hfiles, -⟩ := load_written hunread hwrites
    obtain ⟨hresult, hstays⟩ := hwrites.load hrooted create' e'
    rw [hfiles]
    exact ⟨hresult, validate_generate e, hstays⟩

/-- The file that is cut off is written anew, and then read. -/
theorem survives_and_boots_cutOff : cutOff.Rooted ∧ ∃ written, Writes cutOff "config.toml" default written ∧
    (load cutOff "config.toml" true default).files = written ∧
    (load cutOff "config.toml" true default).result = .error .created ∧
    (load written "config.toml" false default).result = .ok (generate default).1 := by
  have hempty : FileTree.write ∅ ["config.toml"] (Text.utf8 "log_level = \"in") = .ok cutOff :=
    if_pos (by decide +kernel)
  have hrooted : cutOff.Rooted := FileTree.rooted_empty.write hempty
  have hunread : Unread cutOff "config.toml" := by
    refine ⟨.malformed, ?_⟩
    unfold Configuration.fromFile
    rw [ofText_config]
    decide +kernel
  have htakes : cutOff.takesFile (FilePath.ofText "config.toml") = true := by
    rw [ofText_config]
    decide +kernel
  have hwrites : Writes cutOff "config.toml" default ⟨cutOff.nodes.insert (FilePath.ofText "config.toml")
      (.file (Text.utf8 (generate default).1.toToml))⟩ := if_pos htakes
  have hboots := survives_and_boots.2 cutOff "config.toml" true default hrooted
  obtain ⟨hfiles, hcreated⟩ := hboots.told _ rfl hunread hwrites
  have hnext := hboots.next _ rfl hunread hwrites false default
  rw [hfiles] at hnext
  exact ⟨hrooted, _, hwrites, hfiles, hcreated, hnext.1⟩

end TransferRegistry.Configuration
