-- SUMMARY: The signed commands, statements and bodies, with the JSON that is hashed (types.go, stage3.go, authority).
import ArbiterCore.Base.Json
import ArbiterCore.Wire.Records

/-!
# Signing forms

A signature covers the hash of the canonical JSON of a Go struct, never the
message of the wire. The JSON determines the struct, except that a list that is
left out when it is empty may be nil or empty: `trim` makes such lists nil.
-/

namespace ArbiterCore.Wire

open Function (Injective)
open GoSlice (Slice)
open Json

/-! ## Promotions and cleanups -/

def PartRef.json (v : PartRef) : Json :=
  object [.text "table_id" v.tableID, .text "partition_id" v.partitionID,
    .text "part_row_lthash" v.partRowLtHash, .omitText "part_name" v.partName]

theorem PartRef.json_inj : Injective PartRef.json := by
  rintro ⟨⟩ ⟨⟩ h
  simpa using object_inj h rfl rfl

def PromoteSafePartition.json (v : PromoteSafePartition) : Json :=
  object [.text "table_id" v.tableID, .text "partition_id" v.partitionID,
    .uint64 "promotion_seq" v.promotionSeq, .text "base_safe_snapshot_id" v.baseSafeSnapshotID,
    .text "base_partition_root" v.basePartitionRoot,
    .list "candidate_parts" PartRef.json v.candidateParts]

theorem PromoteSafePartition.json_inj : Injective PromoteSafePartition.json := by
  rintro ⟨⟩ ⟨⟩ h
  simpa [Field.list_inj PartRef.json_inj] using object_inj h rfl rfl

def UnsafeCleanup.json (v : UnsafeCleanup) : Json :=
  object [.text "table_id" v.tableID, .text "partition_id" v.partitionID,
    .uint64 "promotion_seq" v.promotionSeq, .list "parts" PartRef.json v.parts,
    .omitUint64 "rejected_block_seq" v.rejectedBlockSeq]

theorem UnsafeCleanup.json_inj : Injective UnsafeCleanup.json := by
  rintro ⟨⟩ ⟨⟩ h
  simpa [Field.list_inj PartRef.json_inj] using object_inj h rfl rfl

/-! ## Bodies of messages -/

def StatementID.json (v : StatementID) : Json :=
  object [.text "client_account" v.clientAccount, .uint64 "client_seq" v.clientSeq,
    .text "client_nonce" v.clientNonce, .omitText "client_lane" v.clientLane]

theorem StatementID.json_inj : Injective StatementID.json := by
  rintro ⟨⟩ ⟨⟩ h
  simpa using object_inj h rfl rfl

def CandidatePart.json (v : CandidatePart) : Json :=
  object [.text "table_id" v.tableID, .text "partition_id" v.partitionID,
    .omitText "part_name" v.partName, .text "part_row_lthash" v.partRowLtHash,
    .omitText "part_phys_hash" v.partPhysHash, .omitUint64 "row_count" v.rowCount,
    .omitUint64 "bytes" v.bytes]

theorem CandidatePart.json_inj : Injective CandidatePart.json := by
  rintro ⟨⟩ ⟨⟩ h
  simpa using object_inj h rfl rfl

def PartitionLtHashSum.json (v : PartitionLtHashSum) : Json :=
  object [.text "table_id" v.tableID, .text "partition_id" v.partitionID,
    .text "new_parts_lthash_sum" v.newPartsLtHashSum]

theorem PartitionLtHashSum.json_inj : Injective PartitionLtHashSum.json := by
  rintro ⟨⟩ ⟨⟩ h
  simpa using object_inj h rfl rfl

def RCRecord.json (v : RCRecord) : Json :=
  object [.nested "statement_id" v.statementID.json, .text "source_node" v.sourceNode,
    .list "candidate_parts" CandidatePart.json v.candidateParts,
    .text "source_claim_root" v.sourceClaimRoot,
    .list "partition_new_part_sums" PartitionLtHashSum.json v.partitionNewPartSums]

theorem RCRecord.json_inj : Injective RCRecord.json := by
  rintro ⟨⟩ ⟨⟩ h
  simpa [StatementID.json_inj.eq_iff, Field.list_inj CandidatePart.json_inj,
    Field.list_inj PartitionLtHashSum.json_inj] using object_inj h rfl rfl

def NodeRole.json (r : NodeRole) : Json := .num r.toInt

theorem NodeRole.json_inj : Injective NodeRole.json := by
  intro r r' h
  exact Int32.toInt_inj.mp (num.inj h)

def NodeRegistration.json (v : NodeRegistration) : Json :=
  object [.text "node_id" v.nodeID, .list "roles" NodeRole.json v.roles,
    .bytes "ed25519_pubkey" v.ed25519Pubkey, .omitText "dial_addr" v.dialAddr,
    .omitUint64 "registration_seq" v.registrationSeq]

theorem NodeRegistration.json_inj : Injective NodeRegistration.json := by
  rintro ⟨⟩ ⟨⟩ h
  simpa [Field.list_inj NodeRole.json_inj] using object_inj h rfl rfl

def SafePartMapping.json (v : SafePartMapping) : Json :=
  object [.text "part_row_lthash" v.partRowLtHash, .text "safe_part_name" v.safePartName,
    .omitText "part_phys_hash" v.partPhysHash]

theorem SafePartMapping.json_inj : Injective SafePartMapping.json := by
  rintro ⟨⟩ ⟨⟩ h
  simpa using object_inj h rfl rfl

def PromotionAck.json (v : PromotionAck) : Json :=
  object [.text "node_id" v.nodeID, .uint64 "promotion_seq" v.promotionSeq,
    .text "table_id" v.tableID, .text "partition_id" v.partitionID,
    .text "post_partition_commitment" v.postPartitionCommitment,
    .list "parts" SafePartMapping.json v.parts,
    .omitList "safe_partition_parts" SafePartMapping.json v.safePartitionParts,
    .flag "applied" v.applied, .omitText "detail" v.detail]

def PromotionAck.trim (v : PromotionAck) : PromotionAck :=
  { v with safePartitionParts := v.safePartitionParts.nilIfEmpty }

theorem PromotionAck.json_inj {a b : PromotionAck} (h : a.json = b.json) : a.trim = b.trim := by
  have hfields := object_inj h rfl rfl
  simpa [trim, Field.list_inj SafePartMapping.json_inj, Field.omitList_inj SafePartMapping.json_inj] using hfields

def CleanupAck.json (v : CleanupAck) : Json :=
  object [.text "node_id" v.nodeID, .uint64 "promotion_seq" v.promotionSeq,
    .text "table_id" v.tableID, .text "partition_id" v.partitionID,
    .omitUint64 "rejected_block_seq" v.rejectedBlockSeq]

theorem CleanupAck.json_inj : Injective CleanupAck.json := by
  rintro ⟨⟩ ⟨⟩ h
  simpa using object_inj h rfl rfl

def PartScan.json (v : PartScan) : Json :=
  object [.text "table_id" v.tableID, .text "partition_id" v.partitionID,
    .text "claimed_part_row_lthash" v.claimedPartRowLtHash,
    .text "scanned_part_row_lthash" v.scannedPartRowLtHash,
    .omitText "live_part_name" v.livePartName]

/-! ## Consensus parameters -/

def TableRegistryParams.json (v : TableRegistryParams) : Json :=
  object [.uint64 "chain_id" v.chainID, .text "databases_contract" v.databasesContract,
    .uint64 "si_indexer_id" v.siIndexerID, .uint64 "activation_block" v.activationBlock,
    .text "confirmation" v.confirmation]

theorem TableRegistryParams.json_inj : Injective TableRegistryParams.json := by
  rintro ⟨⟩ ⟨⟩ h
  simpa using object_inj h rfl rfl

def ClientLaneParams.json (v : ClientLaneParams) : Json :=
  object [.uint32 "max_lanes_per_account" v.maxLanesPerAccount]

theorem ClientLaneParams.json_inj : Injective ClientLaneParams.json := by
  rintro ⟨⟩ ⟨⟩ h
  simpa using object_inj h rfl rfl

def SIIndexerEntry.json (v : SIIndexerEntry) : Json :=
  object [.uint64 "indexer_id" v.indexerID, .uint64 "activation_block" v.activationBlock,
    .text "signer" v.signer, .text "snode_node_id" v.sNodeNodeID,
    .text "enrollment_jws" v.enrollmentJWS]

theorem SIIndexerEntry.json_inj : Injective SIIndexerEntry.json := by
  rintro ⟨⟩ ⟨⟩ h
  simpa using object_inj h rfl rfl

def VerifierEntry.json (v : VerifierEntry) : Json :=
  object [.text "node_id" v.nodeID, .bytes "ed25519_pubkey" v.ed25519Pubkey,
    .omitPtr "host_indexer_id" number v.hostIndexerID, .omitText "replica_signer" v.replicaSigner,
    .omitText "consent_jws" v.consentJWS, .omitUint32 "weight" v.weight,
    .omitText "failure_domain" v.failureDomain, .omitFlag "verify" v.verify,
    .omitFlag "replicate" v.replicate, .omitFlag "counts" v.counts,
    .omitFlag "shared_rmt" v.sharedRMT]

theorem VerifierEntry.json_inj : Injective VerifierEntry.json := by
  rintro ⟨⟩ ⟨⟩ h
  simpa [Field.omitPtr_inj number_inj] using object_inj h rfl rfl

def IndexerFailureDomain.json (v : IndexerFailureDomain) : Json :=
  object [.uint64 "indexer_id" v.indexerID, .text "failure_domain" v.failureDomain]

theorem IndexerFailureDomain.json_inj : Injective IndexerFailureDomain.json := by
  rintro ⟨⟩ ⟨⟩ h
  simpa using object_inj h rfl rfl

def Stage3Params.json (v : Stage3Params) : Json :=
  object [.uint32 "group_size" v.groupSize, .flag "network_fill_default" v.networkFillDefault,
    .uint32 "min_safe_copies" v.minSafeCopies, .flag "strict_copies" v.strictCopies,
    .omitList "indexer_failure_domains" IndexerFailureDomain.json v.indexerFailureDomains,
    .uint32 "max_lag_publications" v.maxLagPublications, .uint32 "lag_low" v.lagLow,
    .uint64 "evidence_timeout_l2_blocks" v.evidenceTimeoutL2Blocks,
    .uint32 "max_uncleaned_parts_per_partition" v.maxUncleanedPartsPerPartition,
    .uint32 "max_uncleaned_parts_per_table" v.maxUncleanedPartsPerTable,
    .flag "exclude_quarantined_hosts" v.excludeQuarantinedHosts, .flag "purge" v.purge,
    .flag "eviction_voiding" v.evictionVoiding,
    .flag "owner_aware_selection" v.ownerAwareSelection, .flag "placement" v.placement,
    .flag "reselection" v.reselection, .flag "checkpoints" v.checkpoints,
    .flag "narrowed_drain" v.narrowedDrain]

def Stage3Params.trim (v : Stage3Params) : Stage3Params :=
  { v with indexerFailureDomains := v.indexerFailureDomains.nilIfEmpty }

theorem Stage3Params.json_inj {a b : Stage3Params} (h : a.json = b.json) : a.trim = b.trim := by
  have hfields := object_inj h rfl rfl
  simpa [trim, Field.omitList_inj IndexerFailureDomain.json_inj] using hfields

def ConsensusParamsUpdate.json (v : ConsensusParamsUpdate) : Json :=
  object [.text "network_id" v.networkID, .text "genesis_snapshot_id" v.genesisSnapshotID,
    .uint64 "expected_epoch" v.expectedEpoch,
    .text "previous_params_digest" v.previousParamsDigest,
    .list "authority_addresses" str v.authorityAddresses, .uint64 "max_writers" v.maxWriters,
    .uint64 "expected_promotion_seq" v.expectedPromotionSeq,
    .omitUint32 "artifact_disposition_capability" v.artifactDispositionCapability,
    .omitPtr "table_registry" TableRegistryParams.json v.tableRegistry,
    .omitPtr "client_lanes" ClientLaneParams.json v.clientLanes,
    .omitList "si_indexers" SIIndexerEntry.json v.siIndexers,
    .omitList "verifiers" VerifierEntry.json v.verifiers,
    .omitFlag "tracks_enabled" v.tracksEnabled, .omitPtr "stage3" Stage3Params.json v.stage3]

def ConsensusParamsUpdate.trim (v : ConsensusParamsUpdate) : ConsensusParamsUpdate :=
  { v with
    siIndexers := v.siIndexers.nilIfEmpty
    verifiers := v.verifiers.nilIfEmpty
    stage3 := v.stage3.map Stage3Params.trim }

theorem ConsensusParamsUpdate.json_inj {a b : ConsensusParamsUpdate} (h : a.json = b.json) :
    a.trim = b.trim := by
  have hfields := object_inj h rfl rfl
  have hstage3 : ∀ {p q : Option Stage3Params},
      Field.omitPtr "stage3" Stage3Params.json p = Field.omitPtr "stage3" Stage3Params.json q →
      p.map Stage3Params.trim = q.map Stage3Params.trim := by
    intro p q h
    rcases p with _ | p <;> rcases q with _ | q <;> simp [Field.omitPtr] at h ⊢
    exact Stage3Params.json_inj h
  simp only [List.cons.injEq, Field.text_inj, Field.uint64_inj, Field.list_inj str_inj, Field.omitUint32_inj,
    Field.omitPtr_inj TableRegistryParams.json_inj, Field.omitPtr_inj ClientLaneParams.json_inj,
    Field.omitList_inj SIIndexerEntry.json_inj, Field.omitList_inj VerifierEntry.json_inj,
    Field.omitFlag_inj] at hfields
  obtain ⟨hnetwork, hgenesis, hepoch, hdigest, haddresses, hwriters, hpromotion, hcapability, hregistry,
    hlanes, hindexers, hverifiers, htracks, hparams, -⟩ := hfields
  simp only [trim, ConsensusParamsUpdate.mk.injEq]
  exact ⟨hnetwork, hgenesis, hepoch, hdigest, haddresses, hwriters, hpromotion, hcapability, hregistry,
    hlanes, hindexers, hverifiers, htracks, hstage3 hparams⟩

/-! ## Checkpoints -/

def TrackFrontier.json (v : TrackFrontier) : Json :=
  object [.uint64 "indexer_id" v.indexerID, .uint64 "safe_block_seq" v.safeBlockSeq,
    .uint64 "applied_promotion_seq" v.appliedPromotionSeq]

theorem TrackFrontier.json_inj : Injective TrackFrontier.json := by
  rintro ⟨⟩ ⟨⟩ h
  simpa using object_inj h rfl rfl

def ExcludedTable.json (v : ExcludedTable) : Json :=
  object [.text "table_id" v.tableID, .text "reason" v.reason]

theorem ExcludedTable.json_inj : Injective ExcludedTable.json := by
  rintro ⟨⟩ ⟨⟩ h
  simpa using object_inj h rfl rfl

def CheckpointGroup.json (v : CheckpointGroup) : Json :=
  object [.text "database_id" v.databaseID, .uint64 "group_generation" v.groupGeneration,
    .omitList "excluded" ExcludedTable.json v.excluded]

def CheckpointGroup.trim (v : CheckpointGroup) : CheckpointGroup :=
  { v with excluded := v.excluded.nilIfEmpty }

theorem CheckpointGroup.json_inj (a b : CheckpointGroup) (h : a.json = b.json) : a.trim = b.trim := by
  have hfields := object_inj h rfl rfl
  simpa [trim, Field.omitList_inj ExcludedTable.json_inj] using hfields

def MemberCheckpointBody.json (v : MemberCheckpointBody) : Json :=
  object [.text "node_id" v.nodeID, .uint64 "owner_indexer_id" v.ownerIndexerID,
    .uint64 "checkpoint_seq" v.checkpointSeq, .list "groups" CheckpointGroup.json v.groups,
    .text "snapshot_id" v.snapshotID, .nested "entry" v.entry.json]

def MemberCheckpointBody.trim (v : MemberCheckpointBody) : MemberCheckpointBody :=
  { v with groups := v.groups.map (List.map CheckpointGroup.trim) }

theorem MemberCheckpointBody.json_inj {a b : MemberCheckpointBody} (h : a.json = b.json) :
    a.trim = b.trim := by
  have hfields := object_inj h rfl rfl
  simp only [List.cons.injEq, Field.text_inj, Field.uint64_inj, Field.nested_inj, TrackFrontier.json_inj.eq_iff,
    and_true] at hfields
  obtain ⟨hnode, howner, hseq, hgroups, hsnapshot, hentry⟩ := hfields
  simp only [trim, MemberCheckpointBody.mk.injEq]
  exact ⟨hnode, howner, hseq, Field.list_determines CheckpointGroup.json_inj hgroups, hsnapshot, hentry⟩

/-! ## Snapshot queries -/

def SnapshotQueryAbortRecord.json (v : SnapshotQueryAbortRecord) : Json :=
  object [.uint64 "block_seq" v.blockSeq, .text "statement_id" v.statementID,
    .text "input_root" v.inputRoot, .text "reservation_id" v.reservationID,
    .uint64 "fencing_generation" v.fencingGeneration, .text "reason_code" v.reasonCode,
    .text "cleanup_authorization_root" v.cleanupAuthorizationRoot,
    .text "prev_snapshot_id" v.prevSnapshotID, .text "next_snapshot_id" v.nextSnapshotID]

theorem SnapshotQueryAbortRecord.json_inj : Injective SnapshotQueryAbortRecord.json := by
  rintro ⟨⟩ ⟨⟩ h
  simpa using object_inj h rfl rfl

def ActiveQueryPolicy.json (v : ActiveQueryPolicy) : Json :=
  object [.text "activation_id" v.activationID, .text "network_id" v.networkID,
    .uint32 "keeper_shard_id" v.keeperShardID,
    .uint64 "activation_block_seq" v.activationBlockSeq,
    .text "executor_profile_id" v.executorProfileID, .text "query_profile_id" v.queryProfileID,
    .flag "enabled" v.enabled]

theorem ActiveQueryPolicy.json_inj : Injective ActiveQueryPolicy.json := by
  rintro ⟨⟩ ⟨⟩ h
  simpa using object_inj h rfl rfl

end ArbiterCore.Wire

namespace ArbiterCore.Authority

open Function (Injective)
open GoSlice (Slice)
open Wire Json

-- the records of the wire, not those of the storage node under the same names
export Wire (CandidatePart CleanupAck PartManifestEntry PartRef PartitionLtHashSum
  PromoteSafePartition PromotionAck RCRecord SafePartMapping SafeSnapshotManifest StatementID
  TableManifest TrackFrontier UnsafeCleanup)

/-! ## Contexts -/

/-- Binds a message of the data plane to one incarnation of a network. -/
structure MessageContext where
  (networkID genesisSnapshotID : String)
  deriving Inhabited

def MessageContext.json (v : MessageContext) : Json :=
  object [.text "network_id" v.networkID, .text "genesis_snapshot_id" v.genesisSnapshotID]

theorem MessageContext.json_inj : Injective MessageContext.json := by
  rintro ⟨⟩ ⟨⟩ h
  simpa using object_inj h rfl rfl

/-- Binds a token to one incarnation of a network and one authority epoch. -/
structure ConsensusContext where
  (networkID genesisSnapshotID : String)
  authorityEpoch : UInt64
  deriving Inhabited

/-! ## Authority commands -/

structure EvictNodeCommand where
  nodeID : String
  expectedRegistrationSeq : UInt64
  reason : String
  deriving Inhabited

def EvictNodeCommand.json (v : EvictNodeCommand) : Json :=
  object [.text "node_id" v.nodeID, .uint64 "expected_registration_seq" v.expectedRegistrationSeq,
    .text "reason" v.reason]

theorem EvictNodeCommand.json_inj : Injective EvictNodeCommand.json := by
  rintro ⟨⟩ ⟨⟩ h
  simpa using object_inj h rfl rfl

structure QuarantineIndexerCommand where
  (indexerID expectedGeneration : UInt64)
  reason : String
  deriving Inhabited

def QuarantineIndexerCommand.json (v : QuarantineIndexerCommand) : Json :=
  object [.uint64 "indexer_id" v.indexerID, .uint64 "expected_generation" v.expectedGeneration,
    .text "reason" v.reason]

theorem QuarantineIndexerCommand.json_inj : Injective QuarantineIndexerCommand.json := by
  rintro ⟨⟩ ⟨⟩ h
  simpa using object_inj h rfl rfl

structure ReleaseIndexerCommand where
  (indexerID expectedGeneration : UInt64)
  acknowledgedRejectedBlocks : Slice UInt64
  deriving Inhabited

def ReleaseIndexerCommand.json (v : ReleaseIndexerCommand) : Json :=
  object [.uint64 "indexer_id" v.indexerID, .uint64 "expected_generation" v.expectedGeneration,
    .omitList "acknowledged_rejected_blocks" number v.acknowledgedRejectedBlocks]

def ReleaseIndexerCommand.trim (v : ReleaseIndexerCommand) : ReleaseIndexerCommand :=
  { v with acknowledgedRejectedBlocks := v.acknowledgedRejectedBlocks.nilIfEmpty }

theorem ReleaseIndexerCommand.json_inj {a b : ReleaseIndexerCommand} (h : a.json = b.json) :
    a.trim = b.trim := by
  have hfields := object_inj h rfl rfl
  simpa [trim, Field.omitList_inj number_inj] using hfields

structure SettleTrackCommand where
  (indexerID expectedGeneration : UInt64)
  promotionSeqs : Slice UInt64
  deriving Inhabited

def SettleTrackCommand.json (v : SettleTrackCommand) : Json :=
  object [.uint64 "indexer_id" v.indexerID, .uint64 "expected_generation" v.expectedGeneration,
    .list "promotion_seqs" number v.promotionSeqs]

theorem SettleTrackCommand.json_inj : Injective SettleTrackCommand.json := by
  rintro ⟨⟩ ⟨⟩ h
  simpa [Field.list_inj number_inj] using object_inj h rfl rfl

structure RebalanceGroupCommand where
  ownerIndexerID : UInt64
  databaseID : String
  expectedGeneration : UInt64
  (add remove : Slice String)
  networkFill : Bool
  deriving Inhabited

def RebalanceGroupCommand.json (v : RebalanceGroupCommand) : Json :=
  object [.uint64 "owner_indexer_id" v.ownerIndexerID, .text "database_id" v.databaseID,
    .uint64 "expected_generation" v.expectedGeneration, .omitList "add" str v.add,
    .omitList "remove" str v.remove, .flag "network_fill" v.networkFill]

def RebalanceGroupCommand.trim (v : RebalanceGroupCommand) : RebalanceGroupCommand :=
  { v with add := v.add.nilIfEmpty, remove := v.remove.nilIfEmpty }

theorem RebalanceGroupCommand.json_inj {a b : RebalanceGroupCommand} (h : a.json = b.json) :
    a.trim = b.trim := by
  have hfields := object_inj h rfl rfl
  simpa [trim, Field.omitList_inj str_inj] using hfields

structure ReselectVerifiersCommand where
  l3BlockSeq : UInt64
  expectedSet : Slice String
  deriving Inhabited

def ReselectVerifiersCommand.json (v : ReselectVerifiersCommand) : Json :=
  object [.uint64 "l3_block_seq" v.l3BlockSeq, .list "expected_set" str v.expectedSet]

theorem ReselectVerifiersCommand.json_inj : Injective ReselectVerifiersCommand.json := by
  rintro ⟨⟩ ⟨⟩ h
  simpa [Field.list_inj str_inj] using object_inj h rfl rfl

structure MarkMemberLaggingCommand where
  nodeID : String
  ownerIndexerID : UInt64
  databaseID : String
  observedEntry : TrackFrontier
  deriving Inhabited

def MarkMemberLaggingCommand.json (v : MarkMemberLaggingCommand) : Json :=
  object [.text "node_id" v.nodeID, .uint64 "owner_indexer_id" v.ownerIndexerID,
    .text "database_id" v.databaseID, .nested "observed_entry" v.observedEntry.json]

theorem MarkMemberLaggingCommand.json_inj : Injective MarkMemberLaggingCommand.json := by
  rintro ⟨⟩ ⟨⟩ h
  simpa [TrackFrontier.json_inj.eq_iff] using object_inj h rfl rfl

/-! ## Statements and bodies -/

/-- What the signature of a member that is ready covers, with the context. -/
structure MemberReadyBody where
  nodeID : String
  ownerIndexerID : UInt64
  databaseID : String
  generation : UInt64
  deriving Inhabited

def MemberReadyBody.json (v : MemberReadyBody) : Json :=
  object [.text "node_id" v.nodeID, .uint64 "owner_indexer_id" v.ownerIndexerID,
    .text "database_id" v.databaseID, .uint64 "generation" v.generation]

theorem MemberReadyBody.json_inj : Injective MemberReadyBody.json := by
  rintro ⟨⟩ ⟨⟩ h
  simpa using object_inj h rfl rfl

/-- The signer of an indexer consents to one SNode identity of one network. -/
structure SNodeEnrollmentStatement where
  (networkID genesisSnapshotID : String)
  indexerID : UInt64
  sNodeNodeID : String
  deriving Inhabited

def SNodeEnrollmentStatement.json (v : SNodeEnrollmentStatement) : Json :=
  object [.text "network_id" v.networkID, .text "genesis_snapshot_id" v.genesisSnapshotID,
    .uint64 "indexer_id" v.indexerID, .text "snode_node_id" v.sNodeNodeID]

theorem SNodeEnrollmentStatement.json_inj : Injective SNodeEnrollmentStatement.json := by
  rintro ⟨⟩ ⟨⟩ h
  simpa using object_inj h rfl rfl

/-- The signer of a host consents to one member identity of one network. -/
structure GroupMemberConsentStatement where
  (networkID genesisSnapshotID : String)
  hostIndexerID : UInt64
  nodeID : String
  ed25519Pubkey : Slice UInt8
  replicaSigner : String
  deriving Inhabited

def GroupMemberConsentStatement.json (v : GroupMemberConsentStatement) : Json :=
  object [.text "network_id" v.networkID, .text "genesis_snapshot_id" v.genesisSnapshotID,
    .uint64 "host_indexer_id" v.hostIndexerID, .text "node_id" v.nodeID,
    .bytes "ed25519_pubkey" v.ed25519Pubkey, .text "replica_signer" v.replicaSigner]

theorem GroupMemberConsentStatement.json_inj : Injective GroupMemberConsentStatement.json := by
  rintro ⟨⟩ ⟨⟩ h
  simpa using object_inj h rfl rfl

structure MarkActiveBody where
  nodeID : String
  registrationSeq : UInt64
  deriving Inhabited

def MarkActiveBody.json (v : MarkActiveBody) : Json :=
  object [.text "node_id" v.nodeID, .uint64 "registration_seq" v.registrationSeq]

theorem MarkActiveBody.json_inj : Injective MarkActiveBody.json := by
  rintro ⟨⟩ ⟨⟩ h
  simpa using object_inj h rfl rfl

structure TablePurgedBody where
  nodeID : String
  incarnationSeq : UInt64
  deriving Inhabited

def TablePurgedBody.json (v : TablePurgedBody) : Json :=
  object [.text "node_id" v.nodeID, .uint64 "incarnation_seq" v.incarnationSeq]

theorem TablePurgedBody.json_inj : Injective TablePurgedBody.json := by
  rintro ⟨⟩ ⟨⟩ h
  simpa using object_inj h rfl rfl

/-- A scan without its own hash and signature. -/
structure ByteSideScanBody where
  replicaID : String
  blockSeq : UInt64
  parts : Slice PartScan
  deriving Inhabited

def ByteSideScanBody.json (v : ByteSideScanBody) : Json :=
  object [.text "replica_id" v.replicaID, .uint64 "block_seq" v.blockSeq,
    .list "parts" PartScan.json v.parts]

end ArbiterCore.Authority
