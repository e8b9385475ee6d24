import Sdaqf.Guard
import Sdaqf.History
import Sdaqf.Naming
import Sdaqf.Domain
import Sdaqf.Workflow
import Sdaqf.Tables
import Sdaqf.Store
import Sdaqf.Budget
import Sdaqf.Events
import Sdaqf.Ingest
import Sdaqf.Tick
import Sdaqf.Causes
import Sdaqf.Replay
import Sdaqf.ReplayEvents
import Sdaqf.ReplayLedger
import Sdaqf.Validate
import Sdaqf.Epochs
import Sdaqf.Runs
import Sdaqf.Sample
import Sdaqf.Readings
import Sdaqf.Lifecycle
import Sdaqf.Steps
import Sdaqf.BudgetSteps
import Sdaqf.Projections
import Sdaqf.Recovery
import Sdaqf.EpochChains
import Sdaqf.LiveWrites
import Sdaqf.LivePolicy
import Sdaqf.EpochCalls
import Sdaqf.Linearization
import Sdaqf.Absorption
import Sdaqf.Exclusion
import Sdaqf.LiveLog
import Sdaqf.Fencing
import Sdaqf.Confirmations
import Sdaqf.Finalization
import Sdaqf.Stranding
import Sdaqf.Sorting
import Sdaqf.PublicState
import Sdaqf.Enumeration
import Sdaqf.Commuting
import Sdaqf.PairClosure
import Sdaqf.ContextDomain
import Sdaqf.ContextSelection
import Sdaqf.ContextCorrectness
import Sdaqf.ContextOrder
import Sdaqf.ContextAccounting
import Sdaqf.SolverDomain
import Sdaqf.TextContracts
import Sdaqf.SolverContracts
import Sdaqf.Solver
import Sdaqf.SolverVerification
import Sdaqf.SolverSemantics
import Sdaqf.SolverSearch
import Sdaqf.SolverSoundness
import Sdaqf.SolverConclusions
import Sdaqf.SolverAcceptance
import Sdaqf.PlanDomain
import Sdaqf.Observations
import Sdaqf.StateDerivation
import Sdaqf.WorkflowContracts
import Sdaqf.Completion
import Sdaqf.CompletionSoundness
import Sdaqf.AcceptedTexts
import Sdaqf.ContractLaws
import Sdaqf.ObservationGrammar
import Sdaqf.ProjectionTotality
import Sdaqf.ObservationLaws
import Sdaqf.JsonText
import Sdaqf.Payloads
import Sdaqf.Baselines
import Sdaqf.BaselineChanges
import Sdaqf.EvidenceLedger
import Sdaqf.EvidenceGate
import Sdaqf.LockedStore
import Sdaqf.JsonFiles
import Sdaqf.LedgerStore
import Sdaqf.Walks
import Sdaqf.ContextTraversal
import Sdaqf.ContextArtifacts
import Sdaqf.JsonSizes
import Sdaqf.ContextLaws
import Sdaqf.HostProposals
import Sdaqf.ContextCompaction
import Sdaqf.CompactionExtracts
import Sdaqf.CompactionSizes
import Sdaqf.LosslessCompaction
import Sdaqf.ContextSnapshots
import Sdaqf.SnapshotDropping
import Sdaqf.SnapshotBuilding
import Sdaqf.SnapshotLaws
import Sdaqf.SnapshotService
import Sdaqf.JsonSpelling
import Sdaqf.TextSearch
import Sdaqf.Checkpoints
import Sdaqf.CheckpointRedaction
import Sdaqf.CheckpointRecovery
import Sdaqf.ByteFrames
import Sdaqf.RepositoryDigest
import Sdaqf.Ranking
import Sdaqf.AgentFindings
import Sdaqf.AgentFindingPolicy
import Sdaqf.BigEndian
import Sdaqf.PngValidation
import Sdaqf.PngGrammar
import Sdaqf.PngAcceptance
import Sdaqf.SpecificationText
import Sdaqf.Specification
import Sdaqf.Dictionaries
import Sdaqf.SimpleCycles
import Sdaqf.WaitReports
import Sdaqf.ReceiptMerging
import Sdaqf.TextSubstitution
import Sdaqf.OutputRedaction
import Sdaqf.HandoffResume
import Sdaqf.ApprovalConsumption
import Sdaqf.BudgetConservation
