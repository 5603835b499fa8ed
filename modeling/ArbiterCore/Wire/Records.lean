-- SUMMARY: The records that the wire carries: the commands of the Raft log and everything they contain.
import ArbiterCore.Base.GoSlice
import ArbiterCore.Base.GoUnion

/-!
# Records of the wire

The canonical Go forms. A field that is a Go slice is a `Slice`, so that nil and
empty are told apart, a pointer is an `Option`, and a struct of pointers of which
one is to be set is a `GoUnion`. The zero value of a record is
`default`. The records from `PartitionCommitment` to `SafeSnapshotManifest` and
from `SnapshotPin` to `SnapshotArtifactReadySubmission` are those of the replay
package.
-/

namespace ArbiterCore.Wire

open GoSlice (Slice)

/-! ## Enumerations -/

/-- `StatementKindInsert` is 1. -/
abbrev StatementKind := Int32

/-- `NodeRoleVerifier` is 1 and `NodeRoleSNode` 2. -/
abbrev NodeRole := Int32

/-- `ChallengeVerdictSafe` is 1 and `ChallengeVerdictRejected` 2. -/
abbrev ChallengeVerdict := Int32

/-- `TableRetireReasonTableDeleted` is 1 and `TableRetireReasonDatabaseDeleted` 2. -/
abbrev TableRetireReason := Int32

/-- A string type of the source: the closed set of reasons is `exclusionReasonFromPB`. -/
abbrev CheckpointExclusionReason := String

/-! ## Statements, claims and promotions -/

structure StatementID where
  clientAccount : String
  clientSeq : UInt64
  (clientNonce clientLane : String)
  deriving Inhabited

structure StatementEnvelope where
  statementID : StatementID
  statementKind : StatementKind
  (sql sqlHash settingsHash payloadRef payloadHash : String)
  payloadLength : UInt64
  (targetTableID userJWS : String)
  envelopeVersion : UInt32
  networkID : String
  keeperShardID : UInt32
  payloadFormat : String
  clientRevision : UInt32
  (schemaHash rowIDProfileID : String)
  deriving Inhabited

structure CandidatePart where
  (tableID partitionID partName partRowLtHash partPhysHash : String)
  (rowCount bytes : UInt64)
  deriving Inhabited

structure PartitionLtHashSum where
  (tableID partitionID newPartsLtHashSum : String)
  deriving Inhabited

structure RCRecord where
  statementID : StatementID
  sourceNode : String
  candidateParts : Slice CandidatePart
  sourceClaimRoot : String
  partitionNewPartSums : Slice PartitionLtHashSum
  deriving Inhabited

structure PartScan where
  (tableID partitionID claimedPartRowLtHash scannedPartRowLtHash livePartName : String)
  deriving Inhabited

structure ByteSideScanMsg where
  replicaID : String
  blockSeq : UInt64
  parts : Slice PartScan
  (scanHash signature : String)
  deriving Inhabited

structure AnchorRef where
  (l3BlockHash stateRoot l2TxRef : String)
  l2BlockNumber : UInt64
  daRef : String
  deriving Inhabited

structure NodeRegistration where
  nodeID : String
  roles : Slice NodeRole
  ed25519Pubkey : Slice UInt8
  dialAddr : String
  registrationSeq : UInt64
  deriving Inhabited

structure PartRef where
  (tableID partitionID partRowLtHash partName : String)
  deriving Inhabited

structure PromoteSafePartition where
  (tableID partitionID : String)
  promotionSeq : UInt64
  (baseSafeSnapshotID basePartitionRoot : String)
  candidateParts : Slice PartRef
  deriving Inhabited

structure UnsafeCleanup where
  (tableID partitionID : String)
  promotionSeq : UInt64
  parts : Slice PartRef
  rejectedBlockSeq : UInt64
  deriving Inhabited

structure SafePartMapping where
  (partRowLtHash safePartName partPhysHash : String)
  deriving Inhabited

structure PromotionAck where
  nodeID : String
  promotionSeq : UInt64
  (tableID partitionID postPartitionCommitment : String)
  (parts safePartitionParts : Slice SafePartMapping)
  applied : Bool
  detail : String
  deriving Inhabited

structure CleanupAck where
  nodeID : String
  promotionSeq : UInt64
  (tableID partitionID : String)
  rejectedBlockSeq : UInt64
  deriving Inhabited

/-! ## Replay records -/

structure PartitionCommitment where
  (tableID partitionID root : String)
  deriving Inhabited

structure PartManifestEntry where
  (tableID partitionID partName partPhysHash partRowLtHash : String)
  (rowCount bytes : UInt64)
  storageRefs : Slice String
  deriving Inhabited

structure ExecutionReceipt where
  blockSeq : UInt64
  (prevSafeSnapshotID prevStateRoot schemaSnapshotID executorProfileID statementRoot : String)
  (payloadRoot sourceClaimRoot computedStateRoot : String)
  matchSourceRoot : Bool
  partitionCommitmentsAfter : Slice PartitionCommitment
  affectedParts : Slice PartManifestEntry
  replayLogHash : String
  deriving Inhabited

structure ReplayAttestation where
  replicaID : String
  receipt : ExecutionReceipt
  (receiptHash signature : String)
  matchSourceRoot : Bool
  deriving Inhabited

structure TableManifest where
  (tableID schemaHash : String)
  partitionRoots : Slice PartitionCommitment
  activeParts : Slice PartManifestEntry
  deriving Inhabited

structure TrackFrontier where
  (indexerID safeBlockSeq appliedPromotionSeq : UInt64)
  deriving Inhabited

structure SafeSnapshotManifest where
  (snapshotID parentSnapshotID : String)
  safeBlockSeq : UInt64
  (stateRoot schemaSnapshotID schemaRoot executorProfileID dataRoot manifestRoot : String)
  tables : Slice TableManifest
  trackFrontiers : Slice TrackFrontier
  deriving Inhabited

/-! ## Consensus parameters, the table registry and checkpoints -/

structure TableRegistryParams where
  chainID : UInt64
  databasesContract : String
  (siIndexerID activationBlock : UInt64)
  confirmation : String
  deriving Inhabited

structure ClientLaneParams where
  maxLanesPerAccount : UInt32
  deriving Inhabited

structure L2BlockRef where
  number : UInt64
  hash : String
  deriving Inhabited

structure L2EventRef where
  blockNumber : UInt64
  blockHash : String
  logIndex : UInt64
  txHash : String
  deriving Inhabited

structure LegacyTable where
  (databaseID tableID : String)
  created : L2EventRef
  deriving Inhabited

structure SIIndexerEntry where
  (indexerID activationBlock : UInt64)
  (signer sNodeNodeID enrollmentJWS : String)
  deriving Inhabited

structure VerifierEntry where
  nodeID : String
  ed25519Pubkey : Slice UInt8
  hostIndexerID : Option UInt64
  (replicaSigner consentJWS : String)
  weight : UInt32
  failureDomain : String
  (verify replicate counts sharedRMT : Bool)
  deriving Inhabited

structure IndexerFailureDomain where
  indexerID : UInt64
  failureDomain : String
  deriving Inhabited

structure Stage3Params where
  groupSize : UInt32
  networkFillDefault : Bool
  minSafeCopies : UInt32
  strictCopies : Bool
  indexerFailureDomains : Slice IndexerFailureDomain
  (maxLagPublications lagLow : UInt32)
  evidenceTimeoutL2Blocks : UInt64
  (maxUncleanedPartsPerPartition maxUncleanedPartsPerTable : UInt32)
  (excludeQuarantinedHosts purge evictionVoiding ownerAwareSelection placement reselection : Bool)
  (checkpoints narrowedDrain : Bool)
  deriving Inhabited

structure ConsensusParamsUpdate where
  (networkID genesisSnapshotID : String)
  expectedEpoch : UInt64
  previousParamsDigest : String
  authorityAddresses : Slice String
  (maxWriters expectedPromotionSeq : UInt64)
  artifactDispositionCapability : UInt32
  tableRegistry : Option TableRegistryParams
  clientLanes : Option ClientLaneParams
  siIndexers : Slice SIIndexerEntry
  verifiers : Slice VerifierEntry
  tracksEnabled : Bool
  stage3 : Option Stage3Params
  deriving Inhabited

structure ExcludedTable where
  tableID : String
  reason : CheckpointExclusionReason
  deriving Inhabited

structure CheckpointGroup where
  databaseID : String
  groupGeneration : UInt64
  excluded : Slice ExcludedTable
  deriving Inhabited

structure MemberCheckpointBody where
  nodeID : String
  (ownerIndexerID checkpointSeq : UInt64)
  groups : Slice CheckpointGroup
  snapshotID : String
  entry : TrackFrontier
  deriving Inhabited

/-! ## Snapshot queries -/

structure SnapshotPin where
  networkID : String
  keeperShardID : UInt32
  snapshotID : String
  safeBlockSeq : UInt64
  (manifestRoot stateRoot schemaSnapshotID schemaRoot : String)
  deriving Inhabited

structure SnapshotReadPart where
  (tableID partitionID partName partPhysHash partRowLtHash : String)
  (rowCount bytes : UInt64)
  deriving Inhabited

structure SnapshotReadTable where
  (database table tableID schemaHash : String)
  partitionRoots : Slice PartitionCommitment
  activeParts : Slice SnapshotReadPart
  deriving Inhabited

structure SnapshotReadSet where
  readSnapshot : SnapshotPin
  tables : Slice SnapshotReadTable
  deriving Inhabited

structure SnapshotQueryBinding where
  envelopeVersion : UInt32
  (inputKind clientAccount statementID statementKind networkID : String)
  keeperShardID : UInt32
  (sqlHash settingsHash targetTableID schemaHash rowIDProfileID : String)
  clientRevision : UInt32
  readSnapshot : SnapshotPin
  (readSetRoot schemaSnapshotID schemaRoot logicalDatabase queryProfileID : String)
  (executorProfileID reservationID : String)
  fencingGeneration : UInt64
  deriving Inhabited

structure SnapshotQueryInput where
  binding : SnapshotQueryBinding
  sql : String
  readSet : SnapshotReadSet
  deriving Inhabited

structure SnapshotQueryEnvelope where
  input : SnapshotQueryInput
  (inputRoot userJWS : String)
  deriving Inhabited

structure SnapshotQueryReservation where
  reservationID : String
  fencingGeneration : UInt64
  (clientAccount statementID : String)
  readSnapshot : SnapshotPin
  (executorProfileID queryProfileID activationID : String)
  deriving Inhabited

structure SnapshotQueryReceipt where
  blockSeq : UInt64
  (statementRoot inputRoot readSetRoot : String)
  readSnapshot : SnapshotPin
  (schemaSnapshotID executorProfileID queryProfileID reservationID : String)
  fencingGeneration : UInt64
  (executionOutcome abortRecordRoot : String)
  outputRowCount : UInt64
  (outputRowsRoot sourceClaimRoot computedStateRoot : String)
  matchSourceRoot : Bool
  partitionCommitmentsAfter : Slice PartitionCommitment
  affectedParts : Slice PartManifestEntry
  replayLogHash : String
  deriving Inhabited

structure SnapshotQueryAttestation where
  replicaID : String
  receipt : SnapshotQueryReceipt
  (receiptHash signature : String)
  deriving Inhabited

structure ActiveQueryPolicy where
  (activationID networkID : String)
  keeperShardID : UInt32
  activationBlockSeq : UInt64
  (executorProfileID queryProfileID : String)
  enabled : Bool
  deriving Inhabited

structure ExecutorProfileTransition where
  networkID : String
  keeperShardID : UInt32
  (prevSnapshotID prevStateRoot oldExecutorProfileID newExecutorProfileID schemaSnapshotID : String)
  (schemaRoot dataRoot nextSnapshotID nextStateRoot nextManifestRoot : String)
  activation : ActiveQueryPolicy
  deriving Inhabited

structure ExecutorProfileTransitionReceipt where
  (transitionRoot replicaID signature : String)
  deriving Inhabited

structure SnapshotArtifactReady where
  (snapshotID manifestRoot schemaRoot artifactSetRoot publisherID retentionPolicyID : String)
  deriving Inhabited

structure SnapshotQueryAbortRecord where
  blockSeq : UInt64
  (statementID inputRoot reservationID : String)
  fencingGeneration : UInt64
  (reasonCode cleanupAuthorizationRoot prevSnapshotID nextSnapshotID : String)
  deriving Inhabited

structure SnapshotQueryClaim where
  (sourceNode statementID : String)
  (statementSeq blockSeq : UInt64)
  (inputRoot reservationID : String)
  fencingGeneration : UInt64
  executionOutcome : String
  outputRowCount : UInt64
  (outputRowsRoot computedStateRoot : String)
  (partitionDeltas partitionCommitmentsAfter : Slice PartitionCommitment)
  candidateParts : Slice SnapshotReadPart
  deriving Inhabited

structure SnapshotArtifactReadySubmission where
  record : SnapshotArtifactReady
  signature : String
  deriving Inhabited

/-! ## Commands -/

structure SubmitStatement where
  envelope : StatementEnvelope
  nonMembershipProof : Slice UInt8
  deriving Inhabited

structure SealL3Block where
  deriving Inhabited

structure MarkReplaying where
  blockSeq : UInt64
  deriving Inhabited

structure RegisterRC where
  rc : RCRecord
  sourceJWS : String
  deriving Inhabited

structure RecordAttestation where
  attestation : ReplayAttestation
  deriving Inhabited

structure RecordByteSideScan where
  scan : ByteSideScanMsg
  deriving Inhabited

structure RecordAnchorFinality where
  l3BlockSeq : UInt64
  anchor : AnchorRef
  (finalityReached lastMergeableReached : Bool)
  deriving Inhabited

structure RecordPromotionIssued where
  promote : PromoteSafePartition
  authorityJWS : String
  deriving Inhabited

structure RecordPromotionAck where
  ack : PromotionAck
  sourceJWS : String
  deriving Inhabited

structure PublishSafeSnapshot where
  manifest : SafeSnapshotManifest
  deriving Inhabited

structure ScheduleUnsafeCleanup where
  cleanup : UnsafeCleanup
  authorityJWS : String
  deriving Inhabited

structure RecordCleanupAck where
  ack : CleanupAck
  sourceJWS : String
  deriving Inhabited

structure OpenChallenge where
  blockSeq : UInt64
  (reason openedBy : String)
  deriving Inhabited

structure ResolveChallenge where
  blockSeq : UInt64
  verdict : ChallengeVerdict
  deriving Inhabited

structure RegisterNode where
  registration : NodeRegistration
  (signerJWS ed25519Signature : String)
  deriving Inhabited

structure MarkActive where
  nodeID : String
  registrationSeq : UInt64
  (signerJWS ed25519Signature : String)
  deriving Inhabited

structure EvictNode where
  (nodeID reason : String)
  expectedRegistrationSeq : UInt64
  authorityJWS : String
  deriving Inhabited

structure UpdateConsensusParams where
  update : ConsensusParamsUpdate
  authorityJWS : String
  deriving Inhabited

structure SeedLegacyTables where
  atBlock : L2BlockRef
  tables : Slice LegacyTable
  indexerID : Option UInt64
  deriving Inhabited

structure AddTable where
  (databaseID tableID : String)
  (created schema : L2EventRef)
  schemaVersion : UInt32
  (schemaHash schemaJSON : String)
  ownerIndexerID : Option UInt64
  deriving Inhabited

structure RetireTables where
  databaseID : String
  tableIDs : Slice String
  deleted : L2EventRef
  reason : TableRetireReason
  deriving Inhabited

structure AdvanceL2Cursor where
  toBlock : L2BlockRef
  deriving Inhabited

structure RecordTablePurged where
  nodeID : String
  incarnationSeq : UInt64
  (signerJWS ed25519Signature : String)
  deriving Inhabited

structure QuarantineIndexer where
  (indexerID expectedGeneration : UInt64)
  (reason authorityJWS : String)
  deriving Inhabited

structure ReleaseIndexer where
  (indexerID expectedGeneration : UInt64)
  acknowledgedRejectedBlocks : Slice UInt64
  authorityJWS : String
  deriving Inhabited

structure RebalanceGroup where
  ownerIndexerID : UInt64
  databaseID : String
  expectedGeneration : UInt64
  (add remove : Slice String)
  networkFill : Bool
  authorityJWS : String
  deriving Inhabited

structure ReselectVerifiers where
  l3BlockSeq : UInt64
  expectedSet : Slice String
  authorityJWS : String
  deriving Inhabited

structure MemberReady where
  nodeID : String
  ownerIndexerID : UInt64
  databaseID : String
  generation : UInt64
  ed25519Signature : String
  deriving Inhabited

structure MemberCheckpoint where
  checkpoint : MemberCheckpointBody
  replicaJWS : String
  deriving Inhabited

structure MarkMemberLagging where
  nodeID : String
  ownerIndexerID : UInt64
  databaseID : String
  observedEntry : TrackFrontier
  authorityJWS : String
  deriving Inhabited

structure AcquireSnapshotQueryRequest where
  networkID : String
  keeperShardID : UInt32
  (clientAccount statementID requestID controlJWS : String)
  deriving Inhabited

structure ReleaseSnapshotQueryRequest where
  networkID : String
  keeperShardID : UInt32
  (clientAccount statementID requestID controlJWS reservationID : String)
  fencingGeneration : UInt64
  deriving Inhabited

structure BeginSnapshotQuery where
  request : AcquireSnapshotQueryRequest
  deriving Inhabited

structure GrantSnapshotQuery where
  requestID : String
  reservation : SnapshotQueryReservation
  deriving Inhabited

structure ReleaseSnapshotQuery where
  request : ReleaseSnapshotQueryRequest
  deriving Inhabited

structure SubmitSnapshotQuery where
  envelope : SnapshotQueryEnvelope
  nonMembershipProof : Slice UInt8
  deriving Inhabited

structure AbortSnapshotQuery where
  record : SnapshotQueryAbortRecord
  authorityJWS : String
  deriving Inhabited

structure ActivateQueryProfile where
  activation : ActiveQueryPolicy
  authorityJWS : String
  deriving Inhabited

structure RecordSnapshotQueryClaim where
  claim : SnapshotQueryClaim
  deriving Inhabited

structure RecordSnapshotQueryAttestation where
  attestation : SnapshotQueryAttestation
  deriving Inhabited

structure PublishExecutorProfileTransition where
  transition : ExecutorProfileTransition
  manifest : SafeSnapshotManifest
  receipts : Slice ExecutorProfileTransitionReceipt
  authorityJWS : String
  deriving Inhabited

structure RecordSnapshotArtifactReady where
  submission : SnapshotArtifactReadySubmission
  deriving Inhabited

/-! ## Artifact dispositions -/

structure ArtifactDispositionPolicyV1 where
  (policyID kind : String)
  administratorAddresses : Slice String
  deriving Inhabited

structure ArtifactDispositionBindPolicyV1 where
  policy : ArtifactDispositionPolicyV1
  deriving Inhabited

structure ArtifactDispositionOriginV1 where
  (kind parentSnapshotID : String)
  safeBlockSeq : UInt64
  (activationID transitionRoot clientAccount statementID requestID reservationID : String)
  (fencingGeneration blockSeq statementSeq : UInt64)
  (statementRoot inputRoot userJWSHash executionOutcome : String)
  candidateSeq : UInt64
  deriving Inhabited

structure ArtifactDispositionUseV1 where
  referenceID : String
  pin : SnapshotPin
  principalID : String
  origin : ArtifactDispositionOriginV1
  continuationObligationSeq : UInt64
  deriving Inhabited

structure ArtifactDispositionRegisterCandidateV1 where
  pin : SnapshotPin
  manifest : SafeSnapshotManifest
  (publisherID retentionPolicyID publicationReferenceID : String)
  origin : ArtifactDispositionOriginV1
  deriving Inhabited

structure ArtifactDispositionRecordReadyV1 where
  candidateSeq : UInt64
  submission : SnapshotArtifactReadySubmission
  deriving Inhabited

structure ArtifactDispositionPublishCandidateV1 where
  candidateSeq : UInt64
  manifest : SafeSnapshotManifest
  transition : ExecutorProfileTransition
  transitionReceipts : Slice ExecutorProfileTransitionReceipt
  deriving Inhabited

structure ArtifactDispositionCancelCandidateV1 where
  candidateSeq : UInt64
  reasonCode : String
  deriving Inhabited

structure ArtifactDispositionRetirementTargetV1 where
  pin : SnapshotPin
  retentionPolicyID : String
  deriving Inhabited

structure ArtifactDispositionAdmitUseV1 where
  use : ArtifactDispositionUseV1
  deriving Inhabited

structure ArtifactDispositionCloseUseV1 where
  use : ArtifactDispositionUseV1
  expectedRegistryRevision : UInt64
  deriving Inhabited

structure ArtifactDispositionOpenChallengeV1 where
  pin : SnapshotPin
  origin : ArtifactDispositionOriginV1
  attestation : SnapshotQueryAttestation
  replayUse : ArtifactDispositionUseV1
  deriving Inhabited

structure ArtifactDispositionResolveObligationV1 where
  obligationSeq : UInt64
  deriving Inhabited

structure ArtifactDispositionGrantReservationV1 where
  (clientAccount statementID controlBindingDigest : String)
  deriving Inhabited

inductive DispositionField where
  | bindPolicy | registerCandidate | recordReady | publishCandidate | cancelCandidate
  | beginRetirement | finishRetirement | admitUse | closeUse | openChallenge
  | resolveObligation | grantReservation
  deriving DecidableEq

abbrev DispositionField.Payload : DispositionField → Type
  | .bindPolicy => ArtifactDispositionBindPolicyV1
  | .registerCandidate => ArtifactDispositionRegisterCandidateV1
  | .recordReady => ArtifactDispositionRecordReadyV1
  | .publishCandidate => ArtifactDispositionPublishCandidateV1
  | .cancelCandidate => ArtifactDispositionCancelCandidateV1
  | .beginRetirement => ArtifactDispositionRetirementTargetV1
  | .finishRetirement => ArtifactDispositionRetirementTargetV1
  | .admitUse => ArtifactDispositionAdmitUseV1
  | .closeUse => ArtifactDispositionCloseUseV1
  | .openChallenge => ArtifactDispositionOpenChallengeV1
  | .resolveObligation => ArtifactDispositionResolveObligationV1
  | .grantReservation => ArtifactDispositionGrantReservationV1

/-- The fields in the order of the source. -/
def DispositionField.all : List DispositionField :=
  [.bindPolicy, .registerCandidate, .recordReady, .publishCandidate, .cancelCandidate,
   .beginRetirement, .finishRetirement, .admitUse, .closeUse, .openChallenge, .resolveObligation,
   .grantReservation]

theorem DispositionField.mem_all (f : DispositionField) : f ∈ all := by
  cases f <;> decide

theorem DispositionField.nodup_all : all.Nodup := by decide

/-- Exactly one action is set in a valid command. -/
abbrev ArtifactDispositionActionV1 := GoUnion DispositionField DispositionField.Payload

structure ArtifactDispositionCommandV1 where
  version : UInt32
  networkID : String
  keeperShardID : UInt32
  (actorID requestID : String)
  expectedRevision : UInt64
  action : ArtifactDispositionActionV1
  deriving Inhabited

structure ArtifactDispositionRegistryObservationV1 where
  referenceID : String
  pin : SnapshotPin
  principalID : String
  registryRevision : UInt64
  (observation recordDigest : String)
  deriving Inhabited

structure ArtifactDispositionSourceObservationV1 where
  obligationSeq : UInt64
  sourceKind : String
  sourceIndex : UInt64
  sourceIdentity : ArtifactDispositionOriginV1
  replacementObligationSeqs : Slice UInt64
  deriving Inhabited

structure ArtifactDispositionValidationV1 where
  version : UInt32
  (commandRoot actorID actorRole administratorJWSHash : String)
  registryObservations : Slice ArtifactDispositionRegistryObservationV1
  sourceObservations : Slice ArtifactDispositionSourceObservationV1
  capacityAllowanceOrdinal : UInt64
  deriving Inhabited

structure ArtifactDispositionCmd where
  command : ArtifactDispositionCommandV1
  administratorJWS : String
  validation : ArtifactDispositionValidationV1
  deriving Inhabited

/-! ## The union -/

inductive CommandField where
  | submitStatement | sealL3Block | markReplaying | registerRC | recordAttestation
  | recordByteSideScan | recordAnchorFinality | recordPromotionIssued | recordPromotionAck
  | publishSafeSnapshot | scheduleUnsafeCleanup | recordCleanupAck | openChallenge
  | resolveChallenge | registerNode | markActive | evictNode | updateConsensusParams
  | beginSnapshotQuery | grantSnapshotQuery | releaseSnapshotQuery | submitSnapshotQuery
  | abortSnapshotQuery | activateQueryProfile | recordSnapshotQueryClaim
  | recordSnapshotQueryAttestation | publishExecutorProfileTransition
  | recordSnapshotArtifactReady | artifactDisposition | seedLegacyTables | addTable
  | retireTables | advanceL2Cursor | recordTablePurged | quarantineIndexer | releaseIndexer
  | rebalanceGroup | reselectVerifiers | memberReady | memberCheckpoint | markMemberLagging
  deriving DecidableEq

abbrev CommandField.Payload : CommandField → Type
  | .submitStatement => SubmitStatement
  | .sealL3Block => SealL3Block
  | .markReplaying => MarkReplaying
  | .registerRC => RegisterRC
  | .recordAttestation => RecordAttestation
  | .recordByteSideScan => RecordByteSideScan
  | .recordAnchorFinality => RecordAnchorFinality
  | .recordPromotionIssued => RecordPromotionIssued
  | .recordPromotionAck => RecordPromotionAck
  | .publishSafeSnapshot => PublishSafeSnapshot
  | .scheduleUnsafeCleanup => ScheduleUnsafeCleanup
  | .recordCleanupAck => RecordCleanupAck
  | .openChallenge => OpenChallenge
  | .resolveChallenge => ResolveChallenge
  | .registerNode => RegisterNode
  | .markActive => MarkActive
  | .evictNode => EvictNode
  | .updateConsensusParams => UpdateConsensusParams
  | .beginSnapshotQuery => BeginSnapshotQuery
  | .grantSnapshotQuery => GrantSnapshotQuery
  | .releaseSnapshotQuery => ReleaseSnapshotQuery
  | .submitSnapshotQuery => SubmitSnapshotQuery
  | .abortSnapshotQuery => AbortSnapshotQuery
  | .activateQueryProfile => ActivateQueryProfile
  | .recordSnapshotQueryClaim => RecordSnapshotQueryClaim
  | .recordSnapshotQueryAttestation => RecordSnapshotQueryAttestation
  | .publishExecutorProfileTransition => PublishExecutorProfileTransition
  | .recordSnapshotArtifactReady => RecordSnapshotArtifactReady
  | .artifactDisposition => ArtifactDispositionCmd
  | .seedLegacyTables => SeedLegacyTables
  | .addTable => AddTable
  | .retireTables => RetireTables
  | .advanceL2Cursor => AdvanceL2Cursor
  | .recordTablePurged => RecordTablePurged
  | .quarantineIndexer => QuarantineIndexer
  | .releaseIndexer => ReleaseIndexer
  | .rebalanceGroup => RebalanceGroup
  | .reselectVerifiers => ReselectVerifiers
  | .memberReady => MemberReady
  | .memberCheckpoint => MemberCheckpoint
  | .markMemberLagging => MarkMemberLagging

/-- The fields in the order of the source. -/
def CommandField.all : List CommandField :=
  [.submitStatement, .sealL3Block, .markReplaying, .registerRC, .recordAttestation,
   .recordByteSideScan, .recordAnchorFinality, .recordPromotionIssued, .recordPromotionAck,
   .publishSafeSnapshot, .scheduleUnsafeCleanup, .recordCleanupAck, .openChallenge,
   .resolveChallenge, .registerNode, .markActive, .evictNode, .updateConsensusParams,
   .beginSnapshotQuery, .grantSnapshotQuery, .releaseSnapshotQuery, .submitSnapshotQuery,
   .abortSnapshotQuery, .activateQueryProfile, .recordSnapshotQueryClaim,
   .recordSnapshotQueryAttestation, .publishExecutorProfileTransition,
   .recordSnapshotArtifactReady, .artifactDisposition, .seedLegacyTables, .addTable,
   .retireTables, .advanceL2Cursor, .recordTablePurged, .quarantineIndexer, .releaseIndexer,
   .rebalanceGroup, .reselectVerifiers, .memberReady, .memberCheckpoint, .markMemberLagging]

theorem CommandField.mem_all (f : CommandField) : f ∈ all := by
  cases f <;> decide

theorem CommandField.nodup_all : all.Nodup := by decide

/-- A decoded log entry: exactly one field is set. -/
abbrev Command := GoUnion CommandField CommandField.Payload

end ArbiterCore.Wire
