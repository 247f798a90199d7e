import TransferRegistry.Config.Basic

/-!
# Seeds

`SeedKeeper` holds the seed list with the number and length of the seeds that are made next, and whether it changed
since it was last stored. `SeedKeeper.save` takes a list over and makes its length the number of seeds,
`SeedKeeper.autoGenerate` draws that many, and both ask for a restart until `SeedKeeper.acknowledgeRestart`.
-/

namespace TransferRegistry

open Json (Codec toJson fromJson?)

/-- The seeds, how new ones are made, and whether a restart is due. -/
structure SeedConfig where
  seeds : List String
  seedLength : UInt64
  seedCount : UInt64
  restartRequired : Bool
deriving DecidableEq

instance : Codec SeedConfig where
  toJson c := .record
    [("seeds", toJson c.seeds), ("seedLength", toJson c.seedLength), ("seedCount", toJson c.seedCount),
      ("restartRequired", toJson c.restartRequired)]
  fromJson? v := do
    let ms ← Json.readMembers? ["seeds", "seedLength", "seedCount", "restartRequired"] v
    return {
      seeds := ← ms.required "seeds" fromJson?
      seedLength := ← ms.required "seedLength" fromJson?
      seedCount := ← ms.required "seedCount" fromJson?
      restartRequired := ← ms.defaulted "restartRequired" fromJson? false }

/-- The seed configuration, and whether it changed since it was stored. -/
structure SeedKeeper where
  config : SeedConfig
  dirty : Bool
deriving DecidableEq

namespace SeedKeeper

/-- The seeds of a configuration; no restart is due. -/
def ofGeneration (g : SeedGeneration) : SeedKeeper where
  config := ⟨g.defaultSeeds, g.seedLength, g.seedCount, false⟩
  dirty := false

def save (k : SeedKeeper) (seeds : List String) : SeedKeeper where
  config := { k.config with seeds, seedCount := UInt64.ofNat seeds.length, restartRequired := true }
  dirty := true

def autoGenerate (k : SeedKeeper) (e : Entropy) : SeedKeeper × Entropy :=
  let (seeds, e) := generateSeeds k.config.seedCount.toNat k.config.seedLength.toNat e
  ({ config := { k.config with seeds, restartRequired := true }, dirty := true }, e)

/-- The restart has been done; nothing happens where none was due. -/
def acknowledgeRestart (k : SeedKeeper) : SeedKeeper :=
  if k.config.restartRequired then { config := { k.config with restartRequired := false }, dirty := true } else k

/-- Takes a stored configuration over; to be restored, the program was restarted. -/
def restore (k : SeedKeeper) (config : SeedConfig) : SeedKeeper :=
  { k with config := { config with restartRequired := false } }

/-- Whether there is something to store, which is taken to be stored from now on. -/
def takeDirty (k : SeedKeeper) : Bool × SeedKeeper := (k.dirty, { k with dirty := false })

/-- There is something to store after all. -/
def markDirty (k : SeedKeeper) : SeedKeeper := { k with dirty := true }

end SeedKeeper

end TransferRegistry
