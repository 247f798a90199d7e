import TransferRegistry.Json.Codec
import TransferRegistry.Seed.Generate
import TransferRegistry.Passkey
import TransferRegistry.Text.Quoted

/-!
# Configuration

`Configuration` holds what a configuration file says. `Configuration.generate` is the one that is written where there
is no file: with random seeds and a random passkey.
-/

namespace TransferRegistry

open Json (Codec toJson fromJson?)

/-- What the hidden items need. -/
structure CoreConfig where
  /-- The secret that shows hidden items and ends their hiding; an empty one never does. -/
  hiddenPasskey : String
deriving DecidableEq

/-- Which seeds there are at the start, and how new ones are made. -/
structure SeedGeneration where
  seedLength : UInt64
  seedCount : UInt64
  defaultSeeds : List String
deriving DecidableEq

/-- Where and how often the state is stored. -/
structure PersistenceConfig where
  enabled : Bool
  path : String
  /-- Seconds between two flushes. -/
  interval : UInt64
deriving DecidableEq

/-- What a configuration file says. -/
structure Configuration where
  logLevel : String
  core : CoreConfig
  seeds : SeedGeneration
  persistence : PersistenceConfig
deriving DecidableEq

namespace Configuration

def newSeedCount : Nat := 4

def newSeedLength : Nat := 32

def generate (e : Entropy) : Configuration × Entropy :=
  let (passkey, e) := Passkey.generate e
  let (seeds, e) := generateSeeds newSeedCount newSeedLength e
  ({ logLevel := "info"
     core := { hiddenPasskey := passkey }
     seeds :=
      { seedLength := UInt64.ofNat newSeedLength, seedCount := UInt64.ofNat newSeedCount, defaultSeeds := seeds }
     persistence := { enabled := true, path := "./data", interval := 60 } }, e)

/-- How a configuration is shown where secrets must not be. -/
def debugText (c : Configuration) : String :=
  let seeds := ", ".intercalate (c.seeds.defaultSeeds.map Text.quoted)
  s!"Configuration \x7b log_level: {Text.quoted c.logLevel}, "
    ++ "core: CoreConfig \x7b hidden_passkey: \"<redacted>\" \x7d, "
    ++ s!"seeds: SeedGenerationConfig \x7b seed_length: {c.seeds.seedLength}, seed_count: {c.seeds.seedCount}, "
    ++ s!"default_seeds: [{seeds}] \x7d, "
    ++ s!"persistence: PersistenceConfig \x7b enabled: {c.persistence.enabled}, "
    ++ s!"path: {Text.quoted c.persistence.path}, interval: {c.persistence.interval} \x7d \x7d"

end Configuration

/-! ## JSON -/

instance : Codec CoreConfig where
  toJson c := .record [("hidden_passkey", toJson c.hiddenPasskey)]
  fromJson? v := do
    let ms ← Json.readMembers? ["hidden_passkey"] v
    return { hiddenPasskey := ← ms.required "hidden_passkey" fromJson? }

instance : Codec SeedGeneration where
  toJson g := .record
    [("seed_length", toJson g.seedLength), ("seed_count", toJson g.seedCount),
      ("default_seeds", toJson g.defaultSeeds)]
  fromJson? v := do
    let ms ← Json.readMembers? ["seed_length", "seed_count", "default_seeds"] v
    return {
      seedLength := ← ms.required "seed_length" fromJson?
      seedCount := ← ms.required "seed_count" fromJson?
      defaultSeeds := ← ms.defaulted "default_seeds" fromJson? [] }

instance : Codec PersistenceConfig where
  toJson p := .record [("enabled", toJson p.enabled), ("path", toJson p.path), ("interval", toJson p.interval)]
  fromJson? v := do
    let ms ← Json.readMembers? ["enabled", "path", "interval"] v
    return {
      enabled := ← ms.required "enabled" fromJson?
      path := ← ms.required "path" fromJson?
      interval := ← ms.required "interval" fromJson? }

instance : Codec Configuration where
  toJson c := .record
    [("log_level", toJson c.logLevel), ("core", toJson c.core), ("seeds", toJson c.seeds),
      ("persistence", toJson c.persistence)]
  fromJson? v := do
    let ms ← Json.readMembers? ["log_level", "core", "seeds", "persistence"] v
    return {
      logLevel := ← ms.required "log_level" fromJson?
      core := ← ms.required "core" fromJson?
      seeds := ← ms.required "seeds" fromJson?
      persistence := ← ms.required "persistence" fromJson? }

end TransferRegistry
