/-!
# What can go wrong with stored state

`StorageError` has the causes and `StorageError.message` their wording. What the file system and the JSON reader have
to say about a failure is left out.
-/

namespace TransferRegistry

def stateVersion : UInt32 := 1

/-- Why state was not stored or not read. -/
inductive StorageError where
  | io
  | serialization
  | unsupportedVersion (file : String) (found : UInt32)
  | missingPasskey
  | sealing (reason : String)
  | unsealFailed
deriving DecidableEq

def StorageError.message : StorageError → String
  | io => "I/O error"
  | serialization => "Serialization error"
  | unsupportedVersion file found => s!"Unsupported state version {found} in {file}, expected {stateVersion}"
  | missingPasskey => "A hidden passkey is required to seal hidden records"
  | sealing reason => s!"Sealing error: {reason}"
  | unsealFailed => "Unable to unseal hidden records with the configured passkey"

end TransferRegistry
