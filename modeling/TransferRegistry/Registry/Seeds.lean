import TransferRegistry.Registry.Basic

/-!
# Requests for the seeds

Saving, drawing and acknowledging, with what they count and log; the answer is the configuration after the request.
-/

namespace TransferRegistry.Registry

def saveSeeds (r : Registry) (seeds : List String) : Step Registry SeedConfig :=
  let keeper := r.seeds.save seeds
  ⟨{ r with seeds := keeper }.addStat .seedChanges 1, keeper.config, [.seedsSaved keeper.config.seedCount]⟩

def autoGenerateSeeds (r : Registry) (e : Entropy) : Step Registry SeedConfig × Entropy :=
  let (keeper, e) := r.seeds.autoGenerate e
  (⟨{ r with seeds := keeper }.addStat .seedChanges 1, keeper.config,
    [.seedsGenerated keeper.config.seedCount keeper.config.seedLength]⟩, e)

def acknowledgeRestart (r : Registry) : Step Registry SeedConfig :=
  let keeper := r.seeds.acknowledgeRestart
  ⟨{ r with seeds := keeper }, keeper.config,
    if r.seeds.config.restartRequired then [.restartAcknowledged] else []⟩

end TransferRegistry.Registry
