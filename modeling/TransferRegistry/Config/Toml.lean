import TransferRegistry.Config.Basic
import TransferRegistry.Text.Utf8
import TransferRegistry.Toml.Decode
import TransferRegistry.Toml.Parser
import TransferRegistry.Toml.Printer

/-!
# The configuration file

`Configuration.toToml` is the text of a configuration file, and `Configuration.ofToml?` reads one.
`Configuration.ofBytes?` reads the bytes of a file, in which what is no UTF-8 counts as a replacement character.
-/

namespace TransferRegistry

open Crypto (Bytes)
open Toml (string? boolean? uint64? strings? fields? assignment heading quoted naturalText booleanText stringsText)

/-! ## Reading -/

/-- The passkey has to be there. -/
def CoreConfig.ofToml? (v : Toml) : Option CoreConfig := do
  let f ← fields? ["hidden_passkey"] v
  return { hiddenPasskey := ← (f "hidden_passkey").bind string? }

/-- Seeds may be left out. -/
def SeedGeneration.ofToml? (v : Toml) : Option SeedGeneration := do
  let f ← fields? ["seed_length", "seed_count", "default_seeds"] v
  return {
    seedLength := ← (f "seed_length").bind uint64?
    seedCount := ← (f "seed_count").bind uint64?
    defaultSeeds := ← match f "default_seeds" with
      | some seeds => strings? seeds
      | none => some [] }

/-- Every field has to be there. -/
def PersistenceConfig.ofToml? (v : Toml) : Option PersistenceConfig := do
  let f ← fields? ["enabled", "path", "interval"] v
  return {
    enabled := ← (f "enabled").bind boolean?
    path := ← (f "path").bind string?
    interval := ← (f "interval").bind uint64? }

namespace Configuration

def ofValue? (v : Toml) : Option Configuration := do
  let f ← fields? ["log_level", "core", "seeds", "persistence"] v
  return {
    logLevel := ← (f "log_level").bind string?
    core := ← (f "core").bind CoreConfig.ofToml?
    seeds := ← (f "seeds").bind SeedGeneration.ofToml?
    persistence := ← (f "persistence").bind PersistenceConfig.ofToml? }

/-- The configuration in the text of a file. -/
def ofToml? (s : String) : Option Configuration := (Toml.parse? s).bind ofValue?

def ofBytes? (b : Bytes) : Option Configuration := ofToml? (Text.ofUtf8Lossy b)

/-! ## Writing -/

/-- The characters of the file of a configuration. -/
def tomlChars (c : Configuration) : List Char :=
  assignment "log_level" (quoted c.logLevel)
    ++ heading "core"
    ++ assignment "hidden_passkey" (quoted c.core.hiddenPasskey)
    ++ heading "seeds"
    ++ assignment "seed_length" (naturalText c.seeds.seedLength.toNat)
    ++ assignment "seed_count" (naturalText c.seeds.seedCount.toNat)
    ++ assignment "default_seeds" (stringsText c.seeds.defaultSeeds)
    ++ heading "persistence"
    ++ assignment "enabled" (booleanText c.persistence.enabled)
    ++ assignment "path" (quoted c.persistence.path)
    ++ assignment "interval" (naturalText c.persistence.interval.toNat)

/-- The text of the file of a configuration. -/
def toToml (c : Configuration) : String := String.ofList c.tomlChars

end Configuration

end TransferRegistry
