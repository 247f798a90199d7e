import TransferRegistry.Main
import TransferRegistry.Item.Lifecycle
import TransferRegistry.Registry.Items
import TransferRegistry.Registry.Seeds
import TransferRegistry.Proofs.Registry.Durability
import TransferRegistry.Proofs.Registry.Gate
import TransferRegistry.Proofs.Registry.Revision
import TransferRegistry.Proofs.Registry.Lifecycle
import TransferRegistry.Proofs.Registry.Counters
import TransferRegistry.Proofs.Registry.Rollback
import TransferRegistry.Proofs.Registry.Secrecy
import TransferRegistry.Proofs.Registry.Statistics
import TransferRegistry.Proofs.Registry.Retry
import TransferRegistry.Proofs.Registry.Separation
import TransferRegistry.Proofs.Registry.Recovery
import TransferRegistry.Proofs.Storage.Writable
import TransferRegistry.Proofs.Storage.Shared
import TransferRegistry.Proofs.Registry.Pointwise
import TransferRegistry.Proofs.Registry.Unhiding
import TransferRegistry.Proofs.Registry.Duplicates
import TransferRegistry.Proofs.Registry.PartialLoad
import TransferRegistry.Proofs.Storage.Refusal
import TransferRegistry.Proofs.Storage.Merge
import TransferRegistry.Proofs.Item.OneMap
import TransferRegistry.Proofs.Toml.Document
import TransferRegistry.Proofs.Config.Toml
import TransferRegistry.Proofs.Config.Validate
import TransferRegistry.Proofs.Config.Load
import TransferRegistry.Proofs.Item.Id
import TransferRegistry.Proofs.Seed.History
import TransferRegistry.Proofs.Storage.Version
import TransferRegistry.Proofs.Config.Accepted
import TransferRegistry.Proofs.Registry.Coalescing
