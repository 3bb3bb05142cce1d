import Rackline.Lib.SharePrice
import Rackline.Lib.ShareQueue
import Rackline.Lib.Replay
import Rackline.PoolRun
import Rackline.Proofs.Ledger
import Rackline.Proofs.Freeze
import Rackline.Proofs.Conservation
import Rackline.CreditRun
import Rackline.Proofs.Recapitalize
import Rackline.Proofs.Default
import Rackline.Proofs.Control
import Rackline.Proofs.RepaymentPaths
import Rackline.Proofs.Exposure
import Rackline.Proofs.Authorization
import Rackline.Proofs.Quote
import Rackline.Proofs.ReferenceLedger
import Rackline.Proofs.ReferenceVault
import Rackline.Proofs.Settlement
import Rackline.Relay
import Rackline.Proofs.Payers
import Rackline.Proofs.OpenAmounts
import Rackline.Proofs.Pledge
import Rackline.Proofs.Buckets
import Rackline.Proofs.Unattributed
import Rackline.Proofs.Release
import Rackline.Proofs.ControlRelease
import Rackline.Proofs.NativeEvidence
import Rackline.ChainIndexer
import Rackline.Proofs.IndexedFinality
import Rackline.Proofs.JobProgress
import Rackline.Proofs.ProofStatus
import Rackline.Proofs.AuditChain
import Rackline.ShareProjection
import Rackline.Proofs.ShareProjection
import Rackline.ReceivableProjection
import Rackline.Proofs.ReceivableProjection
import Rackline.ProtocolLogs
import Rackline.RepaymentPairing
import Rackline.Proofs.RepaymentLegs
import Rackline.Proofs.RepaymentPairing
import Rackline.CreditProjection
import Rackline.Proofs.Emissions
import Rackline.Proofs.CreditProjection
import Rackline.DebtProjection
import Rackline.Proofs.DebtProjection
import Rackline.ReadModels
import Rackline.Proofs.PathIndependence
import Rackline.AccountRegistry
import Rackline.Proofs.Bindings
import Rackline.TxIntents
import Rackline.Proofs.NonceSlots
import Rackline.Dispatcher
import Rackline.Proofs.TxOutcome
import Rackline.AssetRegistry
import Rackline.Proofs.Collateral
import Rackline.Proofs.Replacement
import Rackline.LedgerTables
import Rackline.ReceivableService
import Rackline.Lib.Delivery
import Rackline.Proofs.RevisionDelivery
import Rackline.CashReconciliation
import Rackline.Proofs.CashConservation
import Rackline.SettlementLegs
import Rackline.Proofs.LegSafety
import Rackline.LedgerRun
import Rackline.Proofs.LedgerBounds
import Rackline.Proofs.AccrualFrequency
import Rackline.Proofs.Schedules
import Rackline.Proofs.Reserves
import Rackline.AuthorizationVerifier
import Rackline.Proofs.AssertionUse
import Rackline.Lib.LimitOrder
import Rackline.Proofs.FillRate
import Rackline.Lib.Seniority
import Rackline.SweepLogs
import Rackline.Proofs.Waterfall
import Rackline.Reconciler
import Rackline.Proofs.Reconciled
import Rackline.Collector
import Rackline.Proofs.Collection
import Rackline.Evm.Bytes
import Rackline.EscrowLogs
import Rackline.Proofs.EconomicKeys
import Rackline.Proofs.Rejections
import Rackline.Proofs.ReceivableStates
import Rackline.Lib.LittleEndian
import Rackline.BitcoinLib
import Rackline.BtcSpvVerifier
import Rackline.Proofs.ProofOfWork
import Rackline.Lib.TxFormat
import Rackline.BitcoinProver
import Rackline.Proofs.TxParsing
import Rackline.Lib.MerkleTree
import Rackline.Proofs.MerkleProofs
import Rackline.Evm.Sha256
import Rackline.Proofs.SpvInclusion
import Rackline.HashCreditManager
import Rackline.Proofs.LegacyDebt
import Rackline.Lib.Window
import Rackline.Proofs.TrailingRevenue
import Rackline.Proofs.EmittedLogs
import Rackline.Proofs.Freshness
import Rackline.Proofs.RelayOps
import Rackline.Proofs.IngestedFacts
import Rackline.Proofs.NotedLogs
import Rackline.Proofs.BookTotals
import Rackline.Proofs.Ingestible
import Rackline.Proofs.ReceivableViews
import Rackline.Proofs.LogOrder
import Rackline.Proofs.LogCompletion
import Rackline.Lib.AbiCodec
import Rackline.EvmV1Decoder
import Rackline.Proofs.DecodedReceipts
import Rackline.CheckpointManager
import Rackline.Proofs.SpvAcceptance
import Rackline.GovernanceTimelock
import Rackline.Proofs.Governance
