import ArbiterCore.SNode.Ledger
import ArbiterCore.SNode.Attribution
import ArbiterCore.SNode.ExactlyOnce
import ArbiterCore.Member.Feed
import ArbiterCore.Consensus.DropSafety
import ArbiterCore.Consensus.CheckpointUnique
import ArbiterCore.Dataplane.TableSetDrops
import ArbiterCore.Serve.LeaseFile
import ArbiterCore.SNode.StatementIDs
import ArbiterCore.Wire.Codec
import ArbiterCore.Authority.Received
import ArbiterCore.Install.CopysetRuns
import ArbiterCore.Install.GateRuns
import ArbiterCore.SNode.PublicationGate
import ArbiterCore.Consensus.Readiness
import ArbiterCore.Dataplane.BackupChains
import ArbiterCore.Member.FallbackCoverage
import ArbiterCore.Authority.Freshness
import ArbiterCore.Authority.DispositionRoot
import ArbiterCore.Dataplane.RestartWatcher
import ArbiterCore.Dataplane.PartFiles
import ArbiterCore.SNode.PartitionIDs
import ArbiterCore.Dataplane.LeaderRetry
import ArbiterCore.SNode.RebuildResult
import ArbiterCore.SNode.Accounting
import ArbiterCore.SNode.FailureAtomic
