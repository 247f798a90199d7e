import TransferRegistry.Config.Toml
import TransferRegistry.Config.Validate
import TransferRegistry.Storage.FileTree

/-!
# Loading the configuration

`Configuration.fromFile` reads a configuration file. `Configuration.load` also validates it, and makes a new file in
place of one that cannot be read, if it is asked to; it then still gives no configuration, so that the new file is
looked at first.
-/

namespace TransferRegistry

/-- Why a configuration file was not read. -/
inductive ConfigFileError where
  | unreadable
  | malformed
deriving DecidableEq

def ConfigFileError.message : ConfigFileError → String
  | unreadable => "the file cannot be read"
  | malformed => "the file is no configuration"

/-- What loading leaves: the files, the random supply, what was told on the way, and the configuration. -/
structure ConfigLoading where
  files : FileTree
  entropy : Entropy
  notes : List String
  warnings : List String
  result : Except ConfigError Configuration

namespace Configuration

def fromFile (files : FileTree) (path : String) : Except ConfigFileError Configuration :=
  match files.read (FilePath.ofText path) with
  | .error _ => .error .unreadable
  | .ok content =>
    match ofBytes? content with
    | none => .error .malformed
    | some config => .ok config

/-- Writes a new configuration file to a path. -/
def createFile (files : FileTree) (path : String) (e : Entropy) : ConfigLoading :=
  let (config, entropy) := generate e
  match files.write (FilePath.ofText path) (Text.utf8 config.toToml) with
  | .ok files =>
    { files, entropy, notes := []
      warnings := [s!"A random hidden passkey was written to {path}, review the file and restart..."]
      result := .error .created }
  | .error _ =>
    { files, entropy, notes := []
      warnings := [s!"{path} could not be created, check permissions..."]
      result := .error .notCreated }

/-- Loads the configuration file at a path; `create` asks for a new file where it cannot be read. -/
def load (files : FileTree) (path : String) (create : Bool) (e : Entropy) : ConfigLoading :=
  match fromFile files path with
  | .ok config =>
    { files, entropy := e, notes := ["[VALIDATE] Validating configuration..."], warnings := []
      result := config.validate.map fun _ => config }
  | .error fault =>
    let warnings := ["No config file found or corrupt.", s!"[ERROR] {fault.message}"]
    if create then
      let created := createFile files path e
      { created with warnings := warnings ++ "Creating config file.." :: created.warnings }
    else
      let hint :=
        s!"You can either create your own {path} file, or start this app using '--create-config' as parameter."
      { files, entropy := e, notes := [], warnings := warnings ++ [hint], result := .error .absent }

end Configuration

end TransferRegistry
