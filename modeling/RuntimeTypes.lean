import RuntimeTypes.Proofs.Arena.Schedule
import RuntimeTypes.Proofs.Arena.Slots
import RuntimeTypes.Proofs.Config.LogLevel
import RuntimeTypes.Proofs.Forest.Planting
import RuntimeTypes.Proofs.Hierarchy.Walks
import RuntimeTypes.Proofs.TypeSystem.Account
import RuntimeTypes.Proofs.TypeSystem.Afresh
import RuntimeTypes.Proofs.TypeSystem.Casts
import RuntimeTypes.Proofs.TypeSystem.Chaining
import RuntimeTypes.Proofs.TypeSystem.CommonBase
import RuntimeTypes.Proofs.TypeSystem.Conflicts
import RuntimeTypes.Proofs.TypeSystem.Enumeration
import RuntimeTypes.Proofs.TypeSystem.Instantiation
import RuntimeTypes.Proofs.TypeSystem.Isolation
import RuntimeTypes.Proofs.TypeSystem.Ledger
import RuntimeTypes.Proofs.TypeSystem.Logging
import RuntimeTypes.Proofs.TypeSystem.Messages
import RuntimeTypes.Proofs.TypeSystem.Orders
import RuntimeTypes.Proofs.TypeSystem.Settings
import RuntimeTypes.Registry.Batch
import RuntimeTypes.Text.Inspect
