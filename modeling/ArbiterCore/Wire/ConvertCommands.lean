-- SUMMARY: The converters of consensus parameters and of the commands outside snapshot queries.
import ArbiterCore.Wire.Convert

/-!
# Converters of parameters and commands

The stage-3 commands, the reports of purged tables and the quarantine commands
are their own requests, so that their converters are named after them.
-/

namespace ArbiterCore.Wire

open GoSlice (Slice)
open Proto MsgType

variable {D : Descriptors}

/-- As `Converts`, for a message that may be absent. -/
abbrev ConvertsOpt {α : Type} {ty : MsgType} (toPB : Option α → Option (PB ty))
    (fromPB : Option (PB ty) → Option α) (canon : α → α) : Prop :=
  ∀ v, (∀ D, OptConforms (logSchema D) (toPB v)) ∧ fromPB (toPB v) = v.map canon

theorem convertsOpt_map {α : Type} {ty : MsgType} {toPB : α → PB ty} {fromPB : PB ty → α} {canon : α → α}
    (h : Converts toPB fromPB canon) : ConvertsOpt (Option.map toPB) (Option.map fromPB) canon := by
  intro v
  refine ⟨fun D m hm => ?_, ?_⟩
  · obtain ⟨x, -, rfl⟩ := Option.mem_map.mp hm
    exact (h x).1 D
  · rw [Option.map_map]
    exact congrArg (Option.map · v) (funext fun x => (h x).2)

/-! ## Consensus parameters and the table registry -/

def tableRegistryParamsToPB (v : Option TableRegistryParams) : Option (PB tableRegistryParams) :=
  v.map fun v => build [.uint64 "chain_id" v.chainID,
    .text "databases_contract" v.databasesContract, .uint64 "si_indexer_id" v.siIndexerID,
    .uint64 "activation_block" v.activationBlock, .text "confirmation" v.confirmation]

def tableRegistryParamsFromPB (m : Option (PB tableRegistryParams)) : Option TableRegistryParams :=
  m.map fun m =>
    ⟨m.uint64 "chain_id", m.text "databases_contract", m.uint64 "si_indexer_id",
      m.uint64 "activation_block", m.text "confirmation"⟩

@[simp] theorem tableRegistryParamsToPB_spec : ConvertsOpt tableRegistryParamsToPB tableRegistryParamsFromPB id :=
  convertsOpt_map (converts (fun _ => rfl) (by simp))

def clientLaneParamsToPB (v : Option ClientLaneParams) : Option (PB clientLaneParams) :=
  v.map fun v => build [.uint32 "max_lanes_per_account" v.maxLanesPerAccount]

def clientLaneParamsFromPB (m : Option (PB clientLaneParams)) : Option ClientLaneParams :=
  m.map fun m =>
    ⟨m.uint32 "max_lanes_per_account"⟩

@[simp] theorem clientLaneParamsToPB_spec : ConvertsOpt clientLaneParamsToPB clientLaneParamsFromPB id :=
  convertsOpt_map (converts (fun _ => rfl) (by simp))

def l2BlockRefToPB (v : Option L2BlockRef) : Option (PB l2BlockRef) :=
  v.map fun v => build [.uint64 "number" v.number, .text "hash" v.hash]

def l2BlockRefFromPB (m : Option (PB l2BlockRef)) : Option L2BlockRef :=
  m.map fun m =>
    ⟨m.uint64 "number", m.text "hash"⟩

@[simp] theorem l2BlockRefToPB_spec : ConvertsOpt l2BlockRefToPB l2BlockRefFromPB id :=
  convertsOpt_map (converts (fun _ => rfl) (by simp))

def l2EventRefToPB (v : Option L2EventRef) : Option (PB l2EventRef) :=
  v.map fun v => build [.uint64 "block_number" v.blockNumber, .text "block_hash" v.blockHash,
    .uint64 "log_index" v.logIndex, .text "tx_hash" v.txHash]

def l2EventRefFromPB (m : Option (PB l2EventRef)) : Option L2EventRef :=
  m.map fun m =>
    ⟨m.uint64 "block_number", m.text "block_hash", m.uint64 "log_index", m.text "tx_hash"⟩

@[simp] theorem l2EventRefToPB_spec : ConvertsOpt l2EventRefToPB l2EventRefFromPB id :=
  convertsOpt_map (converts (fun _ => rfl) (by simp))

def siIndexerEntryToPB (v : SIIndexerEntry) : PB siIndexerEntry :=
  build [.uint64 "indexer_id" v.indexerID, .uint64 "activation_block" v.activationBlock,
    .text "signer" v.signer, .text "snode_node_id" v.sNodeNodeID,
    .text "enrollment_jws" v.enrollmentJWS]

def siIndexerEntryFromPB (m : PB siIndexerEntry) : SIIndexerEntry :=
  ⟨m.uint64 "indexer_id", m.uint64 "activation_block", m.text "signer", m.text "snode_node_id",
    m.text "enrollment_jws"⟩

@[simp] theorem siIndexerEntryToPB_spec : Converts siIndexerEntryToPB siIndexerEntryFromPB id :=
  converts (fun _ => rfl) (by simp [siIndexerEntryFromPB])

def verifierEntryToPB (v : VerifierEntry) : PB verifierEntry :=
  build [.text "node_id" v.nodeID, .bytes "ed25519_pubkey" (cloneBytes v.ed25519Pubkey),
    .optUint64 "host_indexer_id" v.hostIndexerID, .text "replica_signer" v.replicaSigner,
    .text "consent_jws" v.consentJWS, .uint32 "weight" v.weight,
    .text "failure_domain" v.failureDomain, .bool "verify" v.verify,
    .bool "replicate" v.replicate, .bool "counts" v.counts, .bool "shared_rmt" v.sharedRMT]

def verifierEntryFromPB (m : PB verifierEntry) : VerifierEntry :=
  ⟨m.text "node_id", cloneBytes (m.bytes "ed25519_pubkey"), m.optUint64 "host_indexer_id",
    m.text "replica_signer", m.text "consent_jws", m.uint32 "weight", m.text "failure_domain",
    m.bool "verify", m.bool "replicate", m.bool "counts", m.bool "shared_rmt"⟩

def VerifierEntry.canon (v : VerifierEntry) : VerifierEntry :=
  { v with ed25519Pubkey := v.ed25519Pubkey.nilIfEmpty }

@[simp] theorem verifierEntryToPB_spec : Converts verifierEntryToPB verifierEntryFromPB VerifierEntry.canon :=
  converts (fun _ => rfl) (by simp [verifierEntryFromPB, VerifierEntry.canon])

@[simp] def siIndexerEntriesToPB (v : Slice SIIndexerEntry) : Slice (PB siIndexerEntry) :=
  mapSlice siIndexerEntryToPB v

@[simp] def siIndexerEntriesFromPB (ms : Slice (PB siIndexerEntry)) : Slice SIIndexerEntry :=
  mapSlice siIndexerEntryFromPB ms

@[simp] def verifierEntriesToPB (v : Slice VerifierEntry) : Slice (PB verifierEntry) :=
  mapSlice verifierEntryToPB v

@[simp] def verifierEntriesFromPB (ms : Slice (PB verifierEntry)) : Slice VerifierEntry :=
  mapSlice verifierEntryFromPB ms

def indexerFailureDomainToPB (v : IndexerFailureDomain) : PB indexerFailureDomain :=
  build [.uint64 "indexer_id" v.indexerID, .text "failure_domain" v.failureDomain]

def indexerFailureDomainFromPB (m : PB indexerFailureDomain) : IndexerFailureDomain :=
  ⟨m.uint64 "indexer_id", m.text "failure_domain"⟩

@[simp] theorem indexerFailureDomainToPB_spec :
    Converts indexerFailureDomainToPB indexerFailureDomainFromPB id :=
  converts (fun _ => rfl) (by simp [indexerFailureDomainFromPB])

def stage3ParamsToPB (v : Option Stage3Params) : Option (PB stage3Params) :=
  v.map fun v => build [.uint32 "group_size" v.groupSize,
    .bool "network_fill_default" v.networkFillDefault, .uint32 "min_safe_copies" v.minSafeCopies,
    .bool "strict_copies" v.strictCopies,
    .msgs "indexer_failure_domains" (mapSlice indexerFailureDomainToPB v.indexerFailureDomains),
    .uint32 "max_lag_publications" v.maxLagPublications, .uint32 "lag_low" v.lagLow,
    .uint64 "evidence_timeout_l2_blocks" v.evidenceTimeoutL2Blocks,
    .uint32 "max_uncleaned_parts_per_partition" v.maxUncleanedPartsPerPartition,
    .uint32 "max_uncleaned_parts_per_table" v.maxUncleanedPartsPerTable,
    .bool "exclude_quarantined_hosts" v.excludeQuarantinedHosts, .bool "purge" v.purge,
    .bool "eviction_voiding" v.evictionVoiding,
    .bool "owner_aware_selection" v.ownerAwareSelection, .bool "placement" v.placement,
    .bool "reselection" v.reselection, .bool "checkpoints" v.checkpoints,
    .bool "narrowed_drain" v.narrowedDrain]

def stage3ParamsFromPB (m : Option (PB stage3Params)) : Option Stage3Params :=
  m.map fun m =>
    ⟨m.uint32 "group_size", m.bool "network_fill_default", m.uint32 "min_safe_copies",
      m.bool "strict_copies",
      mapSlice indexerFailureDomainFromPB (m.msgs "indexer_failure_domains"),
      m.uint32 "max_lag_publications", m.uint32 "lag_low", m.uint64 "evidence_timeout_l2_blocks",
      m.uint32 "max_uncleaned_parts_per_partition", m.uint32 "max_uncleaned_parts_per_table",
      m.bool "exclude_quarantined_hosts", m.bool "purge", m.bool "eviction_voiding",
      m.bool "owner_aware_selection", m.bool "placement", m.bool "reselection",
      m.bool "checkpoints", m.bool "narrowed_drain"⟩

def Stage3Params.canon (v : Stage3Params) : Stage3Params :=
  { v with indexerFailureDomains := v.indexerFailureDomains.nilIfEmpty }

@[simp] theorem stage3ParamsToPB_spec : ConvertsOpt stage3ParamsToPB stage3ParamsFromPB Stage3Params.canon :=
  convertsOpt_map (converts (fun _ => rfl) (by simp [Stage3Params.canon]))

def consensusParamsUpdateToPB (v : ConsensusParamsUpdate) : PB consensusParamsUpdate :=
  build [.text "network_id" v.networkID, .text "genesis_snapshot_id" v.genesisSnapshotID,
    .uint64 "expected_epoch" v.expectedEpoch,
    .text "previous_params_digest" v.previousParamsDigest,
    .texts "authority_addresses" (mapSlice id v.authorityAddresses),
    .uint64 "max_writers" v.maxWriters, .uint64 "expected_promotion_seq" v.expectedPromotionSeq,
    .uint32 "artifact_disposition_capability" v.artifactDispositionCapability,
    .optMsg "table_registry" (tableRegistryParamsToPB v.tableRegistry),
    .optMsg "client_lanes" (clientLaneParamsToPB v.clientLanes),
    .msgs "si_indexers" (siIndexerEntriesToPB v.siIndexers),
    .msgs "verifiers" (verifierEntriesToPB v.verifiers), .bool "tracks_enabled" v.tracksEnabled,
    .optMsg "stage3" (stage3ParamsToPB v.stage3)]

def consensusParamsUpdateFromPB (m : PB consensusParamsUpdate) : ConsensusParamsUpdate :=
  ⟨m.text "network_id", m.text "genesis_snapshot_id", m.uint64 "expected_epoch",
    m.text "previous_params_digest", mapSlice id (m.texts "authority_addresses"),
    m.uint64 "max_writers", m.uint64 "expected_promotion_seq",
    m.uint32 "artifact_disposition_capability",
    tableRegistryParamsFromPB (m.optMsg "table_registry"),
    clientLaneParamsFromPB (m.optMsg "client_lanes"), siIndexerEntriesFromPB (m.msgs "si_indexers"),
    verifierEntriesFromPB (m.msgs "verifiers"), m.bool "tracks_enabled",
    stage3ParamsFromPB (m.optMsg "stage3")⟩

def ConsensusParamsUpdate.canon (v : ConsensusParamsUpdate) : ConsensusParamsUpdate :=
  { v with
    authorityAddresses := v.authorityAddresses.nilIfEmpty
    siIndexers := v.siIndexers.nilIfEmpty
    verifiers := mapSlice VerifierEntry.canon v.verifiers
    stage3 := v.stage3.map Stage3Params.canon }

@[simp] theorem consensusParamsUpdateToPB_spec :
    Converts consensusParamsUpdateToPB consensusParamsUpdateFromPB ConsensusParamsUpdate.canon :=
  converts (fun _ => rfl) (by simp [consensusParamsUpdateFromPB, ConsensusParamsUpdate.canon])

/-- An absent reference is the zero one. -/
@[simp] def l2BlockRefValue (m : Option (PB l2BlockRef)) : L2BlockRef :=
  (l2BlockRefFromPB m).getD default

@[simp] def l2EventRefValue (m : Option (PB l2EventRef)) : L2EventRef :=
  (l2EventRefFromPB m).getD default

def legacyTableToPB (v : LegacyTable) : PB legacyTable :=
  build [.text "database_id" v.databaseID, .text "table_id" v.tableID,
    .optMsg "created" (l2EventRefToPB (some v.created))]

def legacyTableFromPB (m : PB legacyTable) : LegacyTable :=
  ⟨m.text "database_id", m.text "table_id", l2EventRefValue (m.optMsg "created")⟩

@[simp] theorem legacyTableToPB_spec : Converts legacyTableToPB legacyTableFromPB id :=
  converts (fun _ => rfl) (by simp [legacyTableFromPB])

@[simp] def legacyTablesToPB (v : Slice LegacyTable) : Slice (PB legacyTable) :=
  mapSlice legacyTableToPB v

@[simp] def legacyTablesFromPB (ms : Slice (PB legacyTable)) : Slice LegacyTable :=
  mapSlice legacyTableFromPB ms

/-! ## Commands -/

def submitStatementToPB (v : SubmitStatement) : PB submitStatementCmd :=
  build [.msg "envelope" (envelopeToPB v.envelope),
    .bytes "non_membership_proof" v.nonMembershipProof]

def submitStatementFromPB (m : PB submitStatementCmd) : SubmitStatement :=
  ⟨envelopeFromPB (m.msg "envelope"), m.bytes "non_membership_proof"⟩

def SubmitStatement.canon (v : SubmitStatement) : SubmitStatement :=
  { v with nonMembershipProof := v.nonMembershipProof.nilIfEmpty }

@[simp] theorem submitStatementToPB_spec :
    Converts submitStatementToPB submitStatementFromPB SubmitStatement.canon :=
  converts (fun _ => rfl) (by simp [submitStatementFromPB, SubmitStatement.canon])

def sealL3BlockToPB (_ : SealL3Block) : PB sealL3BlockCmd :=
  build []

def sealL3BlockFromPB (_ : PB sealL3BlockCmd) : SealL3Block := { }

@[simp] theorem sealL3BlockToPB_spec : Converts sealL3BlockToPB sealL3BlockFromPB id :=
  converts (fun _ => rfl) (by simp [sealL3BlockFromPB])

def markReplayingToPB (v : MarkReplaying) : PB markReplayingCmd :=
  build [.uint64 "block_seq" v.blockSeq]

def markReplayingFromPB (m : PB markReplayingCmd) : MarkReplaying :=
  ⟨m.uint64 "block_seq"⟩

@[simp] theorem markReplayingToPB_spec : Converts markReplayingToPB markReplayingFromPB id :=
  converts (fun _ => rfl) (by simp [markReplayingFromPB])

def registerRCToPB (v : RegisterRC) : PB registerRCCmd :=
  build [.msg "rc" (rcToPB v.rc), .text "source_jws" v.sourceJWS]

def registerRCFromPB (m : PB registerRCCmd) : RegisterRC :=
  ⟨rcFromPB (m.msg "rc"), m.text "source_jws"⟩

def RegisterRC.canon (v : RegisterRC) : RegisterRC := { v with rc := v.rc.canon }

@[simp] theorem registerRCToPB_spec : Converts registerRCToPB registerRCFromPB RegisterRC.canon :=
  converts (fun _ => rfl) (by simp [registerRCFromPB, RegisterRC.canon])

def recordAttestationToPB (v : RecordAttestation) : PB recordAttestationCmd :=
  build [.msg "attestation" (attestationToPB v.attestation)]

def recordAttestationFromPB (m : PB recordAttestationCmd) : RecordAttestation :=
  ⟨attestationFromPB (m.msg "attestation")⟩

def RecordAttestation.canon (v : RecordAttestation) : RecordAttestation :=
  { v with attestation := v.attestation.canon }

@[simp] theorem recordAttestationToPB_spec :
    Converts recordAttestationToPB recordAttestationFromPB RecordAttestation.canon :=
  converts (fun _ => rfl) (by simp [recordAttestationFromPB, RecordAttestation.canon])

def recordByteSideScanToPB (v : RecordByteSideScan) : PB recordByteSideScanCmd :=
  build [.msg "scan" (scanToPB v.scan)]

def recordByteSideScanFromPB (m : PB recordByteSideScanCmd) : RecordByteSideScan :=
  ⟨scanFromPB (m.msg "scan")⟩

def RecordByteSideScan.canon (v : RecordByteSideScan) : RecordByteSideScan :=
  { v with scan := v.scan.canon }

@[simp] theorem recordByteSideScanToPB_spec :
    Converts recordByteSideScanToPB recordByteSideScanFromPB RecordByteSideScan.canon :=
  converts (fun _ => rfl) (by simp [recordByteSideScanFromPB, RecordByteSideScan.canon])

def recordAnchorFinalityToPB (v : RecordAnchorFinality) : PB recordAnchorFinalityCmd :=
  build [.uint64 "l3_block_seq" v.l3BlockSeq, .msg "anchor" (anchorRefToPB v.anchor),
    .bool "finality_reached" v.finalityReached,
    .bool "last_mergeable_reached" v.lastMergeableReached]

def recordAnchorFinalityFromPB (m : PB recordAnchorFinalityCmd) : RecordAnchorFinality :=
  ⟨m.uint64 "l3_block_seq", anchorRefFromPB (m.msg "anchor"), m.bool "finality_reached",
    m.bool "last_mergeable_reached"⟩

@[simp] theorem recordAnchorFinalityToPB_spec :
    Converts recordAnchorFinalityToPB recordAnchorFinalityFromPB id :=
  converts (fun _ => rfl) (by simp [recordAnchorFinalityFromPB])

def recordPromotionIssuedToPB (v : RecordPromotionIssued) : PB recordPromotionIssuedCmd :=
  build [.msg "promote" (promoteToPB v.promote), .text "authority_jws" v.authorityJWS]

def recordPromotionIssuedFromPB (m : PB recordPromotionIssuedCmd) : RecordPromotionIssued :=
  ⟨promoteFromPB (m.msg "promote"), m.text "authority_jws"⟩

def RecordPromotionIssued.canon (v : RecordPromotionIssued) : RecordPromotionIssued :=
  { v with promote := v.promote.canon }

@[simp] theorem recordPromotionIssuedToPB_spec :
    Converts recordPromotionIssuedToPB recordPromotionIssuedFromPB RecordPromotionIssued.canon :=
  converts (fun _ => rfl) (by simp [recordPromotionIssuedFromPB, RecordPromotionIssued.canon])

def recordPromotionAckToPB (v : RecordPromotionAck) : PB recordPromotionAckCmd :=
  build [.msg "ack" (promotionAckToPB v.ack), .text "source_jws" v.sourceJWS]

def recordPromotionAckFromPB (m : PB recordPromotionAckCmd) : RecordPromotionAck :=
  ⟨promotionAckFromPB (m.msg "ack"), m.text "source_jws"⟩

def RecordPromotionAck.canon (v : RecordPromotionAck) : RecordPromotionAck :=
  { v with ack := v.ack.canon }

@[simp] theorem recordPromotionAckToPB_spec :
    Converts recordPromotionAckToPB recordPromotionAckFromPB RecordPromotionAck.canon :=
  converts (fun _ => rfl) (by simp [recordPromotionAckFromPB, RecordPromotionAck.canon])

def publishSafeSnapshotToPB (v : PublishSafeSnapshot) : PB publishSafeSnapshotCmd :=
  build [.msg "manifest" (manifestToPB v.manifest)]

def publishSafeSnapshotFromPB (m : PB publishSafeSnapshotCmd) : PublishSafeSnapshot :=
  ⟨manifestFromPB (m.msg "manifest")⟩

def PublishSafeSnapshot.canon (v : PublishSafeSnapshot) : PublishSafeSnapshot :=
  { v with manifest := v.manifest.canon }

@[simp] theorem publishSafeSnapshotToPB_spec :
    Converts publishSafeSnapshotToPB publishSafeSnapshotFromPB PublishSafeSnapshot.canon :=
  converts (fun _ => rfl) (by simp [publishSafeSnapshotFromPB, PublishSafeSnapshot.canon])

def scheduleUnsafeCleanupToPB (v : ScheduleUnsafeCleanup) : PB scheduleUnsafeCleanupCmd :=
  build [.msg "cleanup" (cleanupToPB v.cleanup), .text "authority_jws" v.authorityJWS]

def scheduleUnsafeCleanupFromPB (m : PB scheduleUnsafeCleanupCmd) : ScheduleUnsafeCleanup :=
  ⟨cleanupFromPB (m.msg "cleanup"), m.text "authority_jws"⟩

def ScheduleUnsafeCleanup.canon (v : ScheduleUnsafeCleanup) : ScheduleUnsafeCleanup :=
  { v with cleanup := v.cleanup.canon }

@[simp] theorem scheduleUnsafeCleanupToPB_spec :
    Converts scheduleUnsafeCleanupToPB scheduleUnsafeCleanupFromPB ScheduleUnsafeCleanup.canon :=
  converts (fun _ => rfl) (by simp [scheduleUnsafeCleanupFromPB, ScheduleUnsafeCleanup.canon])

def recordCleanupAckToPB (v : RecordCleanupAck) : PB recordCleanupAckCmd :=
  build [.msg "ack" (cleanupAckToPB v.ack), .text "source_jws" v.sourceJWS]

def recordCleanupAckFromPB (m : PB recordCleanupAckCmd) : RecordCleanupAck :=
  ⟨cleanupAckFromPB (m.msg "ack"), m.text "source_jws"⟩

@[simp] theorem recordCleanupAckToPB_spec : Converts recordCleanupAckToPB recordCleanupAckFromPB id :=
  converts (fun _ => rfl) (by simp [recordCleanupAckFromPB])

def openChallengeToPB (v : OpenChallenge) : PB openChallengeCmd :=
  build [.uint64 "block_seq" v.blockSeq, .text "reason" v.reason, .text "opened_by" v.openedBy]

def openChallengeFromPB (m : PB openChallengeCmd) : OpenChallenge :=
  ⟨m.uint64 "block_seq", m.text "reason", m.text "opened_by"⟩

@[simp] theorem openChallengeToPB_spec : Converts openChallengeToPB openChallengeFromPB id :=
  converts (fun _ => rfl) (by simp [openChallengeFromPB])

def resolveChallengeToPB (v : ResolveChallenge) : PB resolveChallengeCmd :=
  build [.uint64 "block_seq" v.blockSeq, .enum "verdict" v.verdict]

def resolveChallengeFromPB (m : PB resolveChallengeCmd) : ResolveChallenge :=
  ⟨m.uint64 "block_seq", m.enum "verdict"⟩

@[simp] theorem resolveChallengeToPB_spec : Converts resolveChallengeToPB resolveChallengeFromPB id :=
  converts (fun _ => rfl) (by simp [resolveChallengeFromPB])

def registerNodeToPB (v : RegisterNode) : PB registerNodeCmd :=
  build [.msg "registration" (registrationToPB v.registration), .text "signer_jws" v.signerJWS,
    .text "ed25519_signature" v.ed25519Signature]

def registerNodeFromPB (m : PB registerNodeCmd) : RegisterNode :=
  ⟨registrationFromPB (m.msg "registration"), m.text "signer_jws", m.text "ed25519_signature"⟩

def RegisterNode.canon (v : RegisterNode) : RegisterNode :=
  { v with registration := v.registration.canon }

@[simp] theorem registerNodeToPB_spec : Converts registerNodeToPB registerNodeFromPB RegisterNode.canon :=
  converts (fun _ => rfl) (by simp [registerNodeFromPB, RegisterNode.canon])

def markActiveToPB (v : MarkActive) : PB markActiveCmd :=
  build [.text "node_id" v.nodeID, .uint64 "registration_seq" v.registrationSeq,
    .text "signer_jws" v.signerJWS, .text "ed25519_signature" v.ed25519Signature]

def markActiveFromPB (m : PB markActiveCmd) : MarkActive :=
  ⟨m.text "node_id", m.uint64 "registration_seq", m.text "signer_jws", m.text "ed25519_signature"⟩

@[simp] theorem markActiveToPB_spec : Converts markActiveToPB markActiveFromPB id :=
  converts (fun _ => rfl) (by simp [markActiveFromPB])

def evictNodeToPB (v : EvictNode) : PB evictNodeCmd :=
  build [.text "node_id" v.nodeID, .text "reason" v.reason,
    .uint64 "expected_registration_seq" v.expectedRegistrationSeq,
    .text "authority_jws" v.authorityJWS]

def evictNodeFromPB (m : PB evictNodeCmd) : EvictNode :=
  ⟨m.text "node_id", m.text "reason", m.uint64 "expected_registration_seq", m.text "authority_jws"⟩

@[simp] theorem evictNodeToPB_spec : Converts evictNodeToPB evictNodeFromPB id :=
  converts (fun _ => rfl) (by simp [evictNodeFromPB])

def updateConsensusParamsToPB (v : UpdateConsensusParams) : PB updateConsensusParamsCmd :=
  build [.msg "update" (consensusParamsUpdateToPB v.update), .text "authority_jws" v.authorityJWS]

def updateConsensusParamsFromPB (m : PB updateConsensusParamsCmd) : UpdateConsensusParams :=
  ⟨consensusParamsUpdateFromPB (m.msg "update"), m.text "authority_jws"⟩

def UpdateConsensusParams.canon (v : UpdateConsensusParams) : UpdateConsensusParams :=
  { v with update := v.update.canon }

@[simp] theorem updateConsensusParamsToPB_spec :
    Converts updateConsensusParamsToPB updateConsensusParamsFromPB UpdateConsensusParams.canon :=
  converts (fun _ => rfl) (by simp [updateConsensusParamsFromPB, UpdateConsensusParams.canon])

def seedLegacyTablesToPB (v : SeedLegacyTables) : PB seedLegacyTablesCmd :=
  build [.optMsg "at_block" (l2BlockRefToPB (some v.atBlock)),
    .msgs "tables" (legacyTablesToPB v.tables), .optUint64 "indexer_id" v.indexerID]

def seedLegacyTablesFromPB (m : PB seedLegacyTablesCmd) : SeedLegacyTables :=
  ⟨l2BlockRefValue (m.optMsg "at_block"), legacyTablesFromPB (m.msgs "tables"),
    m.optUint64 "indexer_id"⟩

def SeedLegacyTables.canon (v : SeedLegacyTables) : SeedLegacyTables :=
  { v with tables := v.tables.nilIfEmpty }

@[simp] theorem seedLegacyTablesToPB_spec :
    Converts seedLegacyTablesToPB seedLegacyTablesFromPB SeedLegacyTables.canon :=
  converts (fun _ => rfl) (by simp [seedLegacyTablesFromPB, SeedLegacyTables.canon])

def addTableToPB (v : AddTable) : PB addTableCmd :=
  build [.text "database_id" v.databaseID, .text "table_id" v.tableID,
    .optMsg "created" (l2EventRefToPB (some v.created)),
    .optMsg "schema" (l2EventRefToPB (some v.schema)), .uint32 "schema_version" v.schemaVersion,
    .text "schema_hash" v.schemaHash, .text "schema_json" v.schemaJSON,
    .optUint64 "owner_indexer_id" v.ownerIndexerID]

def addTableFromPB (m : PB addTableCmd) : AddTable :=
  ⟨m.text "database_id", m.text "table_id", l2EventRefValue (m.optMsg "created"),
    l2EventRefValue (m.optMsg "schema"), m.uint32 "schema_version", m.text "schema_hash",
    m.text "schema_json", m.optUint64 "owner_indexer_id"⟩

@[simp] theorem addTableToPB_spec : Converts addTableToPB addTableFromPB id :=
  converts (fun _ => rfl) (by simp [addTableFromPB])

def retireTablesToPB (v : RetireTables) : PB retireTablesCmd :=
  build [.text "database_id" v.databaseID, .texts "table_ids" (mapSlice id v.tableIDs),
    .optMsg "deleted" (l2EventRefToPB (some v.deleted)), .enum "reason" v.reason]

def retireTablesFromPB (m : PB retireTablesCmd) : RetireTables :=
  ⟨m.text "database_id", mapSlice id (m.texts "table_ids"), l2EventRefValue (m.optMsg "deleted"),
    m.enum "reason"⟩

def RetireTables.canon (v : RetireTables) : RetireTables :=
  { v with tableIDs := v.tableIDs.nilIfEmpty }

@[simp] theorem retireTablesToPB_spec : Converts retireTablesToPB retireTablesFromPB RetireTables.canon :=
  converts (fun _ => rfl) (by simp [retireTablesFromPB, RetireTables.canon])

def advanceL2CursorToPB (v : AdvanceL2Cursor) : PB advanceL2CursorCmd :=
  build [.optMsg "to" (l2BlockRefToPB (some v.toBlock))]

def advanceL2CursorFromPB (m : PB advanceL2CursorCmd) : AdvanceL2Cursor :=
  ⟨l2BlockRefValue (m.optMsg "to")⟩

@[simp] theorem advanceL2CursorToPB_spec : Converts advanceL2CursorToPB advanceL2CursorFromPB id :=
  converts (fun _ => rfl) (by simp [advanceL2CursorFromPB])

def recordTablePurgedToRequest (v : RecordTablePurged) : PB recordTablePurgedCmd :=
  build [.text "node_id" v.nodeID, .uint64 "incarnation_seq" v.incarnationSeq,
    .text "signer_jws" v.signerJWS, .text "ed25519_signature" v.ed25519Signature]

def recordTablePurgedFromRequest (m : PB recordTablePurgedCmd) : RecordTablePurged :=
  ⟨m.text "node_id", m.uint64 "incarnation_seq", m.text "signer_jws", m.text "ed25519_signature"⟩

@[simp] theorem recordTablePurgedToRequest_spec :
    Converts recordTablePurgedToRequest recordTablePurgedFromRequest id :=
  converts (fun _ => rfl) (by simp [recordTablePurgedFromRequest])

def quarantineIndexerToRequest (v : QuarantineIndexer) : PB quarantineIndexerCmd :=
  build [.uint64 "indexer_id" v.indexerID, .uint64 "expected_generation" v.expectedGeneration,
    .text "reason" v.reason, .text "authority_jws" v.authorityJWS]

def quarantineIndexerFromRequest (m : PB quarantineIndexerCmd) : QuarantineIndexer :=
  ⟨m.uint64 "indexer_id", m.uint64 "expected_generation", m.text "reason", m.text "authority_jws"⟩

@[simp] theorem quarantineIndexerToRequest_spec :
    Converts quarantineIndexerToRequest quarantineIndexerFromRequest id :=
  converts (fun _ => rfl) (by simp [quarantineIndexerFromRequest])

def releaseIndexerToRequest (v : ReleaseIndexer) : PB releaseIndexerCmd :=
  build [.uint64 "indexer_id" v.indexerID, .uint64 "expected_generation" v.expectedGeneration,
    .uints "acknowledged_rejected_blocks" (mapSlice id v.acknowledgedRejectedBlocks),
    .text "authority_jws" v.authorityJWS]

def releaseIndexerFromRequest (m : PB releaseIndexerCmd) : ReleaseIndexer :=
  ⟨m.uint64 "indexer_id", m.uint64 "expected_generation",
    mapSlice id (m.uints "acknowledged_rejected_blocks"), m.text "authority_jws"⟩

def ReleaseIndexer.canon (v : ReleaseIndexer) : ReleaseIndexer :=
  { v with acknowledgedRejectedBlocks := v.acknowledgedRejectedBlocks.nilIfEmpty }

@[simp] theorem releaseIndexerToRequest_spec :
    Converts releaseIndexerToRequest releaseIndexerFromRequest ReleaseIndexer.canon :=
  converts (fun _ => rfl) (by simp [releaseIndexerFromRequest, ReleaseIndexer.canon])

def rebalanceGroupToRequest (v : RebalanceGroup) : PB rebalanceGroupCmd :=
  build [.uint64 "owner_indexer_id" v.ownerIndexerID, .text "database_id" v.databaseID,
    .uint64 "expected_generation" v.expectedGeneration, .texts "add" (mapSlice id v.add),
    .texts "remove" (mapSlice id v.remove), .bool "network_fill" v.networkFill,
    .text "authority_jws" v.authorityJWS]

def rebalanceGroupFromRequest (m : PB rebalanceGroupCmd) : RebalanceGroup :=
  ⟨m.uint64 "owner_indexer_id", m.text "database_id", m.uint64 "expected_generation",
    mapSlice id (m.texts "add"), mapSlice id (m.texts "remove"), m.bool "network_fill",
    m.text "authority_jws"⟩

def RebalanceGroup.canon (v : RebalanceGroup) : RebalanceGroup :=
  { v with
    add := v.add.nilIfEmpty
    remove := v.remove.nilIfEmpty }

@[simp] theorem rebalanceGroupToRequest_spec :
    Converts rebalanceGroupToRequest rebalanceGroupFromRequest RebalanceGroup.canon :=
  converts (fun _ => rfl) (by simp [rebalanceGroupFromRequest, RebalanceGroup.canon])

def reselectVerifiersToRequest (v : ReselectVerifiers) : PB reselectVerifiersCmd :=
  build [.uint64 "l3_block_seq" v.l3BlockSeq, .texts "expected_set" (mapSlice id v.expectedSet),
    .text "authority_jws" v.authorityJWS]

def reselectVerifiersFromRequest (m : PB reselectVerifiersCmd) : ReselectVerifiers :=
  ⟨m.uint64 "l3_block_seq", mapSlice id (m.texts "expected_set"), m.text "authority_jws"⟩

def ReselectVerifiers.canon (v : ReselectVerifiers) : ReselectVerifiers :=
  { v with expectedSet := v.expectedSet.nilIfEmpty }

@[simp] theorem reselectVerifiersToRequest_spec :
    Converts reselectVerifiersToRequest reselectVerifiersFromRequest ReselectVerifiers.canon :=
  converts (fun _ => rfl) (by simp [reselectVerifiersFromRequest, ReselectVerifiers.canon])

def memberReadyToRequest (v : MemberReady) : PB memberReadyCmd :=
  build [.text "node_id" v.nodeID, .uint64 "owner_indexer_id" v.ownerIndexerID,
    .text "database_id" v.databaseID, .uint64 "generation" v.generation,
    .text "ed25519_signature" v.ed25519Signature]

def memberReadyFromRequest (m : PB memberReadyCmd) : MemberReady :=
  ⟨m.text "node_id", m.uint64 "owner_indexer_id", m.text "database_id", m.uint64 "generation",
    m.text "ed25519_signature"⟩

@[simp] theorem memberReadyToRequest_spec : Converts memberReadyToRequest memberReadyFromRequest id :=
  converts (fun _ => rfl) (by simp [memberReadyFromRequest])

def markMemberLaggingToRequest (v : MarkMemberLagging) : PB markMemberLaggingCmd :=
  build [.text "node_id" v.nodeID, .uint64 "owner_indexer_id" v.ownerIndexerID,
    .text "database_id" v.databaseID, .msg "observed_entry" (trackFrontierToPB v.observedEntry),
    .text "authority_jws" v.authorityJWS]

def markMemberLaggingFromRequest (m : PB markMemberLaggingCmd) : MarkMemberLagging :=
  ⟨m.text "node_id", m.uint64 "owner_indexer_id", m.text "database_id",
    trackFrontierFromPB (m.msg "observed_entry"), m.text "authority_jws"⟩

@[simp] theorem markMemberLaggingToRequest_spec :
    Converts markMemberLaggingToRequest markMemberLaggingFromRequest id :=
  converts (fun _ => rfl) (by simp [markMemberLaggingFromRequest])

/-! ## Checkpoints -/

/-- The closed set of reasons with their numbers. -/
def exclusionReasons : List (Int32 × CheckpointExclusionReason) :=
  [(1, "not_installed"), (2, "diverged"), (3, "foreign"), (4, "disk_threshold"), (5, "audit_pending"),
   (6, "retiring")]

def exclusionReasonFromPB (r : Int32) : Option CheckpointExclusionReason := exclusionReasons.lookup r

/-- A reason outside the closed set becomes the unspecified one, which decoding refuses. -/
def exclusionReasonToPB (r : CheckpointExclusionReason) : Int32 :=
  ((exclusionReasons.find? (·.2 = r)).map (·.1)).getD 0

def exclusionReasonText (r : Int32) : String :=
  if r = 0 then "CHECKPOINT_EXCLUSION_REASON_UNSPECIFIED" else toString r

def excludedTableToPB (v : ExcludedTable) : PB excludedTable :=
  build [.text "table_id" v.tableID, .enum "reason" (exclusionReasonToPB v.reason)]

def excludedTableFromPB (m : PB excludedTable) : Except String ExcludedTable :=
  match exclusionReasonFromPB (m.enum "reason") with
  | none =>
    let table := m.text "table_id"
    let reason := exclusionReasonText (m.enum "reason")
    .error s!"wire: member checkpoint excludes {table} with reason {
      reason}, which is not a known CheckpointExclusionReason"
  | some reason => .ok ⟨m.text "table_id", reason⟩

def checkpointGroupToPB (v : CheckpointGroup) : PB checkpointGroup :=
  build [.text "database_id" v.databaseID, .uint64 "group_generation" v.groupGeneration,
    .msgs "excluded" (mapSlice excludedTableToPB v.excluded)]

def checkpointGroupFromPB (m : PB checkpointGroup) : Except String CheckpointGroup := do
  let excluded ← (m.msgs "excluded").elems.mapM excludedTableFromPB
  return ⟨m.text "database_id", m.uint64 "group_generation", .ofList excluded⟩

def memberCheckpointBodyToPB (v : MemberCheckpointBody) : PB memberCheckpoint :=
  build [.text "node_id" v.nodeID, .uint64 "owner_indexer_id" v.ownerIndexerID,
    .uint64 "checkpoint_seq" v.checkpointSeq, .msgs "groups" (mapSlice checkpointGroupToPB v.groups),
    .text "snapshot_id" v.snapshotID, .msg "entry" (trackFrontierToPB v.entry)]

def memberCheckpointBodyFromPB : Option (PB memberCheckpoint) → Except String MemberCheckpointBody
  | none => .error "wire: member checkpoint body is required"
  | some m =>
    -- a present zero frontier is legitimate, so that absence is checked on the message
    match m.optMsg "entry" with
    | none => .error "wire: member checkpoint entry is required"
    | some entry => do
      let groups ← (m.msgs "groups").elems.mapM checkpointGroupFromPB
      return ⟨m.text "node_id", m.uint64 "owner_indexer_id", m.uint64 "checkpoint_seq",
        .ofList groups, m.text "snapshot_id", trackFrontierFromPB entry⟩

def memberCheckpointToRequest (v : MemberCheckpoint) : PB memberCheckpointCmd :=
  build [.msg "checkpoint" (memberCheckpointBodyToPB v.checkpoint), .text "replica_jws" v.replicaJWS]

def memberCheckpointFromRequest (m : PB memberCheckpointCmd) : Except String MemberCheckpoint := do
  let checkpoint ← memberCheckpointBodyFromPB (m.optMsg "checkpoint")
  return ⟨checkpoint, m.text "replica_jws"⟩

def CheckpointGroup.canon (v : CheckpointGroup) : CheckpointGroup :=
  { v with excluded := v.excluded.nilIfEmpty }

def MemberCheckpointBody.canon (v : MemberCheckpointBody) : MemberCheckpointBody :=
  { v with groups := mapSlice CheckpointGroup.canon v.groups }

def MemberCheckpoint.canon (v : MemberCheckpoint) : MemberCheckpoint :=
  { v with checkpoint := v.checkpoint.canon }

/-- The reasons of the checkpoint are of the closed set. -/
def MemberCheckpointBody.ReasonsKnown (v : MemberCheckpointBody) : Prop :=
  ∀ g ∈ v.groups.elems, ∀ e ∈ g.excluded.elems, e.reason ∈ exclusionReasons.map (·.2)

theorem exclusionReasonFromPB_toPB {r : CheckpointExclusionReason}
    (h : r ∈ exclusionReasons.map (·.2)) : exclusionReasonFromPB (exclusionReasonToPB r) = some r := by
  have key : ∀ r ∈ exclusionReasons.map (·.2), exclusionReasonFromPB (exclusionReasonToPB r) = some r := by
    decide +kernel
  exact key r h

theorem mapM_map_ok {α β γ ε : Type} {h : α → β} {f : β → Except ε γ} {g : α → γ} : ∀ {l : List α},
    (∀ x ∈ l, f (h x) = .ok (g x)) → (l.map h).mapM f = .ok (l.map g)
  | [], _ => rfl
  | x :: l, hf => by
    have ih := mapM_map_ok fun y hy => hf y (.tail x hy)
    simp [List.mapM_cons, hf x List.mem_cons_self, ih, bind, Except.bind, pure, Except.pure]

theorem excludedTableFromPB_toPB {v : ExcludedTable} (h : v.reason ∈ exclusionReasons.map (·.2)) :
    excludedTableFromPB (excludedTableToPB v) = .ok v := by
  simp [excludedTableFromPB, excludedTableToPB, exclusionReasonFromPB_toPB h]

theorem checkpointGroupFromPB_toPB {v : CheckpointGroup}
    (h : ∀ e ∈ v.excluded.elems, e.reason ∈ exclusionReasons.map (·.2)) :
    checkpointGroupFromPB (checkpointGroupToPB v) = .ok v.canon := by
  have hread : (((checkpointGroupToPB v).msgs "excluded").elems : List (PB excludedTable)) =
      v.excluded.elems.map excludedTableToPB := by
    rw [← elems_mapSlice]
    simp [checkpointGroupToPB]
  have hall : (v.excluded.elems.map excludedTableToPB).mapM excludedTableFromPB = .ok v.excluded.elems := by
    simpa using mapM_map_ok fun e he => excludedTableFromPB_toPB (h e he)
  rw [checkpointGroupFromPB, hread, hall]
  simp [checkpointGroupToPB, CheckpointGroup.canon, bind, Except.bind, pure, Except.pure]

theorem memberCheckpointBodyFromPB_toPB {v : MemberCheckpointBody} (h : v.ReasonsKnown) :
    memberCheckpointBodyFromPB (some (memberCheckpointBodyToPB v)) = .ok v.canon := by
  have hread : (((memberCheckpointBodyToPB v).msgs "groups").elems : List (PB checkpointGroup)) =
      v.groups.elems.map checkpointGroupToPB := by
    rw [← elems_mapSlice]
    simp [memberCheckpointBodyToPB]
  have hall : (v.groups.elems.map checkpointGroupToPB).mapM checkpointGroupFromPB =
      .ok (v.groups.elems.map CheckpointGroup.canon) :=
    mapM_map_ok fun g hg => checkpointGroupFromPB_toPB (h g hg)
  have hentry : (memberCheckpointBodyToPB v).optMsg "entry" = some (trackFrontierToPB v.entry) := by
    simp [memberCheckpointBodyToPB]
  rw [memberCheckpointBodyFromPB]
  simp only [hentry, hread, hall]
  simp [memberCheckpointBodyToPB, MemberCheckpointBody.canon, mapSlice, bind, Except.bind, pure, Except.pure]

theorem memberCheckpointFromRequest_toPB {v : MemberCheckpoint} (h : v.checkpoint.ReasonsKnown) :
    memberCheckpointFromRequest (memberCheckpointToRequest v) = .ok v.canon := by
  have hbody : (memberCheckpointToRequest v).optMsg "checkpoint" =
      some (memberCheckpointBodyToPB v.checkpoint) := by
    simp [memberCheckpointToRequest]
  rw [memberCheckpointFromRequest, hbody, memberCheckpointBodyFromPB_toPB h]
  simp [memberCheckpointToRequest, MemberCheckpoint.canon, bind, Except.bind, pure, Except.pure]

@[simp] theorem excludedTableToPB_conforms (v : ExcludedTable) : Fits D (excludedTableToPB v) :=
  fits_build rfl (by simp)

@[simp] theorem checkpointGroupToPB_conforms (v : CheckpointGroup) :
    Fits D (checkpointGroupToPB v) :=
  fits_build rfl (by simp)

@[simp] theorem memberCheckpointBodyToPB_conforms (v : MemberCheckpointBody) :
    Fits D (memberCheckpointBodyToPB v) :=
  fits_build rfl (by simp)

@[simp] theorem memberCheckpointToRequest_conforms (v : MemberCheckpoint) :
    Fits D (memberCheckpointToRequest v) :=
  fits_build rfl (by simp)

end ArbiterCore.Wire
