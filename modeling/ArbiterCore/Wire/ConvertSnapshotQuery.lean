-- SUMMARY: The converters of the records of snapshot queries.
import ArbiterCore.Wire.Convert

/-!
# Converters of snapshot queries

The lists of these records decode as empty lists, never as nil. The legacy
records that they contain keep the legacy rule.
-/

namespace ArbiterCore.Wire

open GoSlice (Slice)
open Proto MsgType

variable {D : Descriptors}

def snapshotPinToPB (v : SnapshotPin) : PB snapshotPin :=
  build [.text "network_id" v.networkID, .uint32 "keeper_shard_id" v.keeperShardID,
    .text "snapshot_id" v.snapshotID, .uint64 "safe_block_seq" v.safeBlockSeq,
    .text "manifest_root" v.manifestRoot, .text "state_root" v.stateRoot,
    .text "schema_snapshot_id" v.schemaSnapshotID, .text "schema_root" v.schemaRoot]

def snapshotPinFromPB (m : PB snapshotPin) : SnapshotPin :=
  ⟨m.text "network_id", m.uint32 "keeper_shard_id", m.text "snapshot_id", m.uint64 "safe_block_seq",
    m.text "manifest_root", m.text "state_root", m.text "schema_snapshot_id", m.text "schema_root"⟩

@[simp] theorem snapshotPinToPB_spec : Converts snapshotPinToPB snapshotPinFromPB id :=
  converts (fun _ => rfl) (by simp [snapshotPinFromPB])

def snapshotReadPartToPB (v : SnapshotReadPart) : PB snapshotReadPart :=
  build [.text "table_id" v.tableID, .text "partition_id" v.partitionID,
    .text "part_name" v.partName, .text "part_phys_hash" v.partPhysHash,
    .text "part_row_lthash" v.partRowLtHash, .uint64 "row_count" v.rowCount,
    .uint64 "bytes" v.bytes]

def snapshotReadPartFromPB (m : PB snapshotReadPart) : SnapshotReadPart :=
  ⟨m.text "table_id", m.text "partition_id", m.text "part_name", m.text "part_phys_hash",
    m.text "part_row_lthash", m.uint64 "row_count", m.uint64 "bytes"⟩

@[simp] theorem snapshotReadPartToPB_spec : Converts snapshotReadPartToPB snapshotReadPartFromPB id :=
  converts (fun _ => rfl) (by simp [snapshotReadPartFromPB])

def snapshotReadTableToPB (v : SnapshotReadTable) : PB snapshotReadTable :=
  build [.text "database" v.database, .text "table" v.table, .text "table_id" v.tableID,
    .text "schema_hash" v.schemaHash,
    .msgs "partition_roots" (snapshotMap partitionCommitmentToPB v.partitionRoots),
    .msgs "active_parts" (snapshotMap snapshotReadPartToPB v.activeParts)]

def snapshotReadTableFromPB (m : PB snapshotReadTable) : SnapshotReadTable :=
  ⟨m.text "database", m.text "table", m.text "table_id", m.text "schema_hash",
    snapshotMap partitionCommitmentFromPB (m.msgs "partition_roots"),
    snapshotMap snapshotReadPartFromPB (m.msgs "active_parts")⟩

def SnapshotReadTable.canon (v : SnapshotReadTable) : SnapshotReadTable :=
  { v with
    partitionRoots := snapshotClone v.partitionRoots
    activeParts := snapshotClone v.activeParts }

@[simp] theorem snapshotReadTableToPB_spec :
    Converts snapshotReadTableToPB snapshotReadTableFromPB SnapshotReadTable.canon :=
  converts (fun _ => rfl) (by simp [snapshotReadTableFromPB, SnapshotReadTable.canon])

def snapshotReadSetToPB (v : SnapshotReadSet) : PB snapshotReadSet :=
  build [.msg "read_snapshot" (snapshotPinToPB v.readSnapshot),
    .msgs "tables" (snapshotMap snapshotReadTableToPB v.tables)]

def snapshotReadSetFromPB (m : PB snapshotReadSet) : SnapshotReadSet :=
  ⟨snapshotPinFromPB (m.msg "read_snapshot"), snapshotMap snapshotReadTableFromPB (m.msgs "tables")⟩

def SnapshotReadSet.canon (v : SnapshotReadSet) : SnapshotReadSet :=
  { v with tables := snapshotMap SnapshotReadTable.canon v.tables }

@[simp] theorem snapshotReadSetToPB_spec :
    Converts snapshotReadSetToPB snapshotReadSetFromPB SnapshotReadSet.canon :=
  converts (fun _ => rfl) (by simp [snapshotReadSetFromPB, SnapshotReadSet.canon])

def snapshotQueryBindingToPB (v : SnapshotQueryBinding) : PB snapshotQueryBinding :=
  build [.uint32 "envelope_version" v.envelopeVersion, .text "input_kind" v.inputKind,
    .text "client_account" v.clientAccount, .text "statement_id" v.statementID,
    .text "statement_kind" v.statementKind, .text "network_id" v.networkID,
    .uint32 "keeper_shard_id" v.keeperShardID, .text "sql_hash" v.sqlHash,
    .text "settings_hash" v.settingsHash, .text "target_table_id" v.targetTableID,
    .text "schema_hash" v.schemaHash, .text "row_id_profile_id" v.rowIDProfileID,
    .uint32 "client_revision" v.clientRevision,
    .msg "read_snapshot" (snapshotPinToPB v.readSnapshot), .text "read_set_root" v.readSetRoot,
    .text "schema_snapshot_id" v.schemaSnapshotID, .text "schema_root" v.schemaRoot,
    .text "logical_database" v.logicalDatabase, .text "query_profile_id" v.queryProfileID,
    .text "executor_profile_id" v.executorProfileID, .text "reservation_id" v.reservationID,
    .uint64 "fencing_generation" v.fencingGeneration]

def snapshotQueryBindingFromPB (m : PB snapshotQueryBinding) : SnapshotQueryBinding :=
  ⟨m.uint32 "envelope_version", m.text "input_kind", m.text "client_account", m.text "statement_id",
    m.text "statement_kind", m.text "network_id", m.uint32 "keeper_shard_id", m.text "sql_hash",
    m.text "settings_hash", m.text "target_table_id", m.text "schema_hash",
    m.text "row_id_profile_id", m.uint32 "client_revision",
    snapshotPinFromPB (m.msg "read_snapshot"), m.text "read_set_root", m.text "schema_snapshot_id",
    m.text "schema_root", m.text "logical_database", m.text "query_profile_id",
    m.text "executor_profile_id", m.text "reservation_id", m.uint64 "fencing_generation"⟩

@[simp] theorem snapshotQueryBindingToPB_spec :
    Converts snapshotQueryBindingToPB snapshotQueryBindingFromPB id :=
  converts (fun _ => rfl) (by simp [snapshotQueryBindingFromPB])

def snapshotQueryInputToPB (v : SnapshotQueryInput) : PB snapshotQueryInput :=
  build [.msg "binding" (snapshotQueryBindingToPB v.binding), .text "sql" v.sql,
    .msg "read_set" (snapshotReadSetToPB v.readSet)]

def snapshotQueryInputFromPB (m : PB snapshotQueryInput) : SnapshotQueryInput :=
  ⟨snapshotQueryBindingFromPB (m.msg "binding"), m.text "sql",
    snapshotReadSetFromPB (m.msg "read_set")⟩

def SnapshotQueryInput.canon (v : SnapshotQueryInput) : SnapshotQueryInput :=
  { v with readSet := v.readSet.canon }

@[simp] theorem snapshotQueryInputToPB_spec :
    Converts snapshotQueryInputToPB snapshotQueryInputFromPB SnapshotQueryInput.canon :=
  converts (fun _ => rfl) (by simp [snapshotQueryInputFromPB, SnapshotQueryInput.canon])

def snapshotQueryEnvelopeToPB (v : SnapshotQueryEnvelope) : PB snapshotQueryEnvelope :=
  build [.msg "input" (snapshotQueryInputToPB v.input), .text "input_root" v.inputRoot,
    .text "user_jws" v.userJWS]

def snapshotQueryEnvelopeFromPB (m : PB snapshotQueryEnvelope) : SnapshotQueryEnvelope :=
  ⟨snapshotQueryInputFromPB (m.msg "input"), m.text "input_root", m.text "user_jws"⟩

def SnapshotQueryEnvelope.canon (v : SnapshotQueryEnvelope) : SnapshotQueryEnvelope :=
  { v with input := v.input.canon }

@[simp] theorem snapshotQueryEnvelopeToPB_spec :
    Converts snapshotQueryEnvelopeToPB snapshotQueryEnvelopeFromPB SnapshotQueryEnvelope.canon :=
  converts (fun _ => rfl) (by simp [snapshotQueryEnvelopeFromPB, SnapshotQueryEnvelope.canon])

def snapshotQueryReservationToPB (v : SnapshotQueryReservation) : PB snapshotQueryReservation :=
  build [.text "reservation_id" v.reservationID, .uint64 "fencing_generation" v.fencingGeneration,
    .text "client_account" v.clientAccount, .text "statement_id" v.statementID,
    .msg "read_snapshot" (snapshotPinToPB v.readSnapshot),
    .text "executor_profile_id" v.executorProfileID, .text "query_profile_id" v.queryProfileID,
    .text "activation_id" v.activationID]

def snapshotQueryReservationFromPB (m : PB snapshotQueryReservation) : SnapshotQueryReservation :=
  ⟨m.text "reservation_id", m.uint64 "fencing_generation", m.text "client_account",
    m.text "statement_id", snapshotPinFromPB (m.msg "read_snapshot"), m.text "executor_profile_id",
    m.text "query_profile_id", m.text "activation_id"⟩

@[simp] theorem snapshotQueryReservationToPB_spec :
    Converts snapshotQueryReservationToPB snapshotQueryReservationFromPB id :=
  converts (fun _ => rfl) (by simp [snapshotQueryReservationFromPB])

def snapshotQueryReceiptToPB (v : SnapshotQueryReceipt) : PB snapshotQueryReceipt :=
  build [.uint64 "block_seq" v.blockSeq, .text "statement_root" v.statementRoot,
    .text "input_root" v.inputRoot, .text "read_set_root" v.readSetRoot,
    .msg "read_snapshot" (snapshotPinToPB v.readSnapshot),
    .text "schema_snapshot_id" v.schemaSnapshotID,
    .text "executor_profile_id" v.executorProfileID, .text "query_profile_id" v.queryProfileID,
    .text "reservation_id" v.reservationID, .uint64 "fencing_generation" v.fencingGeneration,
    .text "execution_outcome" v.executionOutcome, .text "abort_record_root" v.abortRecordRoot,
    .uint64 "output_row_count" v.outputRowCount, .text "output_rows_root" v.outputRowsRoot,
    .text "source_claim_root" v.sourceClaimRoot, .text "computed_state_root" v.computedStateRoot,
    .bool "match_source_root" v.matchSourceRoot,
    .msgs "partition_commitments_after" (snapshotMap partitionCommitmentToPB v.partitionCommitmentsAfter),
    .msgs "affected_parts" (snapshotMap partManifestEntryToPB v.affectedParts),
    .text "replay_log_hash" v.replayLogHash]

def snapshotQueryReceiptFromPB (m : PB snapshotQueryReceipt) : SnapshotQueryReceipt :=
  ⟨m.uint64 "block_seq", m.text "statement_root", m.text "input_root", m.text "read_set_root",
    snapshotPinFromPB (m.msg "read_snapshot"), m.text "schema_snapshot_id",
    m.text "executor_profile_id", m.text "query_profile_id", m.text "reservation_id",
    m.uint64 "fencing_generation", m.text "execution_outcome", m.text "abort_record_root",
    m.uint64 "output_row_count", m.text "output_rows_root", m.text "source_claim_root",
    m.text "computed_state_root", m.bool "match_source_root",
    snapshotMap partitionCommitmentFromPB (m.msgs "partition_commitments_after"),
    snapshotMap partManifestEntryFromPB (m.msgs "affected_parts"), m.text "replay_log_hash"⟩

def SnapshotQueryReceipt.canon (v : SnapshotQueryReceipt) : SnapshotQueryReceipt :=
  { v with
    partitionCommitmentsAfter := snapshotClone v.partitionCommitmentsAfter
    affectedParts := snapshotMap PartManifestEntry.canon v.affectedParts }

@[simp] theorem snapshotQueryReceiptToPB_spec :
    Converts snapshotQueryReceiptToPB snapshotQueryReceiptFromPB SnapshotQueryReceipt.canon :=
  converts (fun _ => rfl) (by simp [snapshotQueryReceiptFromPB, SnapshotQueryReceipt.canon])

def snapshotQueryAttestationToPB (v : SnapshotQueryAttestation) : PB snapshotQueryAttestation :=
  build [.text "replica_id" v.replicaID, .msg "receipt" (snapshotQueryReceiptToPB v.receipt),
    .text "receipt_hash" v.receiptHash, .text "signature" v.signature]

def snapshotQueryAttestationFromPB (m : PB snapshotQueryAttestation) : SnapshotQueryAttestation :=
  ⟨m.text "replica_id", snapshotQueryReceiptFromPB (m.msg "receipt"), m.text "receipt_hash",
    m.text "signature"⟩

def SnapshotQueryAttestation.canon (v : SnapshotQueryAttestation) : SnapshotQueryAttestation :=
  { v with receipt := v.receipt.canon }

@[simp] theorem snapshotQueryAttestationToPB_spec :
    Converts snapshotQueryAttestationToPB snapshotQueryAttestationFromPB SnapshotQueryAttestation.canon :=
  converts (fun _ => rfl) (by simp [snapshotQueryAttestationFromPB, SnapshotQueryAttestation.canon])

def activeQueryPolicyToPB (v : ActiveQueryPolicy) : PB activeQueryPolicy :=
  build [.text "activation_id" v.activationID, .text "network_id" v.networkID,
    .uint32 "keeper_shard_id" v.keeperShardID,
    .uint64 "activation_block_seq" v.activationBlockSeq,
    .text "executor_profile_id" v.executorProfileID, .text "query_profile_id" v.queryProfileID,
    .bool "enabled" v.enabled]

def activeQueryPolicyFromPB (m : PB activeQueryPolicy) : ActiveQueryPolicy :=
  ⟨m.text "activation_id", m.text "network_id", m.uint32 "keeper_shard_id",
    m.uint64 "activation_block_seq", m.text "executor_profile_id", m.text "query_profile_id",
    m.bool "enabled"⟩

@[simp] theorem activeQueryPolicyToPB_spec : Converts activeQueryPolicyToPB activeQueryPolicyFromPB id :=
  converts (fun _ => rfl) (by simp [activeQueryPolicyFromPB])

def executorProfileTransitionToPB (v : ExecutorProfileTransition) : PB executorProfileTransition :=
  build [.text "network_id" v.networkID, .uint32 "keeper_shard_id" v.keeperShardID,
    .text "prev_snapshot_id" v.prevSnapshotID, .text "prev_state_root" v.prevStateRoot,
    .text "old_executor_profile_id" v.oldExecutorProfileID,
    .text "new_executor_profile_id" v.newExecutorProfileID,
    .text "schema_snapshot_id" v.schemaSnapshotID, .text "schema_root" v.schemaRoot,
    .text "data_root" v.dataRoot, .text "next_snapshot_id" v.nextSnapshotID,
    .text "next_state_root" v.nextStateRoot, .text "next_manifest_root" v.nextManifestRoot,
    .msg "activation" (activeQueryPolicyToPB v.activation)]

def executorProfileTransitionFromPB (m : PB executorProfileTransition) : ExecutorProfileTransition :=
  ⟨m.text "network_id", m.uint32 "keeper_shard_id", m.text "prev_snapshot_id",
    m.text "prev_state_root", m.text "old_executor_profile_id", m.text "new_executor_profile_id",
    m.text "schema_snapshot_id", m.text "schema_root", m.text "data_root",
    m.text "next_snapshot_id", m.text "next_state_root", m.text "next_manifest_root",
    activeQueryPolicyFromPB (m.msg "activation")⟩

@[simp] theorem executorProfileTransitionToPB_spec :
    Converts executorProfileTransitionToPB executorProfileTransitionFromPB id :=
  converts (fun _ => rfl) (by simp [executorProfileTransitionFromPB])

def executorProfileTransitionReceiptToPB (v : ExecutorProfileTransitionReceipt) : PB executorProfileTransitionReceipt :=
  build [.text "transition_root" v.transitionRoot, .text "replica_id" v.replicaID,
    .text "signature" v.signature]

def executorProfileTransitionReceiptFromPB (m : PB executorProfileTransitionReceipt) :
    ExecutorProfileTransitionReceipt :=
  ⟨m.text "transition_root", m.text "replica_id", m.text "signature"⟩

@[simp] theorem executorProfileTransitionReceiptToPB_spec :
    Converts executorProfileTransitionReceiptToPB executorProfileTransitionReceiptFromPB id :=
  converts (fun _ => rfl) (by simp [executorProfileTransitionReceiptFromPB])

def snapshotArtifactReadyToPB (v : SnapshotArtifactReady) : PB snapshotArtifactReady :=
  build [.text "snapshot_id" v.snapshotID, .text "manifest_root" v.manifestRoot,
    .text "schema_root" v.schemaRoot, .text "artifact_set_root" v.artifactSetRoot,
    .text "publisher_id" v.publisherID, .text "retention_policy_id" v.retentionPolicyID]

def snapshotArtifactReadyFromPB (m : PB snapshotArtifactReady) : SnapshotArtifactReady :=
  ⟨m.text "snapshot_id", m.text "manifest_root", m.text "schema_root", m.text "artifact_set_root",
    m.text "publisher_id", m.text "retention_policy_id"⟩

@[simp] theorem snapshotArtifactReadyToPB_spec :
    Converts snapshotArtifactReadyToPB snapshotArtifactReadyFromPB id :=
  converts (fun _ => rfl) (by simp [snapshotArtifactReadyFromPB])

def snapshotQueryAbortRecordToPB (v : SnapshotQueryAbortRecord) : PB snapshotQueryAbortRecord :=
  build [.uint64 "block_seq" v.blockSeq, .text "statement_id" v.statementID,
    .text "input_root" v.inputRoot, .text "reservation_id" v.reservationID,
    .uint64 "fencing_generation" v.fencingGeneration, .text "reason_code" v.reasonCode,
    .text "cleanup_authorization_root" v.cleanupAuthorizationRoot,
    .text "prev_snapshot_id" v.prevSnapshotID, .text "next_snapshot_id" v.nextSnapshotID]

def snapshotQueryAbortRecordFromPB (m : PB snapshotQueryAbortRecord) : SnapshotQueryAbortRecord :=
  ⟨m.uint64 "block_seq", m.text "statement_id", m.text "input_root", m.text "reservation_id",
    m.uint64 "fencing_generation", m.text "reason_code", m.text "cleanup_authorization_root",
    m.text "prev_snapshot_id", m.text "next_snapshot_id"⟩

@[simp] theorem snapshotQueryAbortRecordToPB_spec :
    Converts snapshotQueryAbortRecordToPB snapshotQueryAbortRecordFromPB id :=
  converts (fun _ => rfl) (by simp [snapshotQueryAbortRecordFromPB])

def snapshotQueryClaimToPB (v : SnapshotQueryClaim) : PB snapshotQueryClaim :=
  build [.text "source_node" v.sourceNode, .text "statement_id" v.statementID,
    .uint64 "statement_seq" v.statementSeq, .uint64 "block_seq" v.blockSeq,
    .text "input_root" v.inputRoot, .text "reservation_id" v.reservationID,
    .uint64 "fencing_generation" v.fencingGeneration,
    .text "execution_outcome" v.executionOutcome, .uint64 "output_row_count" v.outputRowCount,
    .text "output_rows_root" v.outputRowsRoot, .text "computed_state_root" v.computedStateRoot,
    .msgs "partition_deltas" (snapshotMap partitionCommitmentToPB v.partitionDeltas),
    .msgs "partition_commitments_after" (snapshotMap partitionCommitmentToPB v.partitionCommitmentsAfter),
    .msgs "candidate_parts" (snapshotMap snapshotReadPartToPB v.candidateParts)]

def snapshotQueryClaimFromPB (m : PB snapshotQueryClaim) : SnapshotQueryClaim :=
  ⟨m.text "source_node", m.text "statement_id", m.uint64 "statement_seq", m.uint64 "block_seq",
    m.text "input_root", m.text "reservation_id", m.uint64 "fencing_generation",
    m.text "execution_outcome", m.uint64 "output_row_count", m.text "output_rows_root",
    m.text "computed_state_root", snapshotMap partitionCommitmentFromPB (m.msgs "partition_deltas"),
    snapshotMap partitionCommitmentFromPB (m.msgs "partition_commitments_after"),
    snapshotMap snapshotReadPartFromPB (m.msgs "candidate_parts")⟩

def SnapshotQueryClaim.canon (v : SnapshotQueryClaim) : SnapshotQueryClaim :=
  { v with
    partitionDeltas := snapshotClone v.partitionDeltas
    partitionCommitmentsAfter := snapshotClone v.partitionCommitmentsAfter
    candidateParts := snapshotClone v.candidateParts }

@[simp] theorem snapshotQueryClaimToPB_spec :
    Converts snapshotQueryClaimToPB snapshotQueryClaimFromPB SnapshotQueryClaim.canon :=
  converts (fun _ => rfl) (by simp [snapshotQueryClaimFromPB, SnapshotQueryClaim.canon])

def snapshotArtifactReadySubmissionToPB (v : SnapshotArtifactReadySubmission) : PB snapshotArtifactReadySubmission :=
  build [.msg "record" (snapshotArtifactReadyToPB v.record), .text "signature" v.signature]

def snapshotArtifactReadySubmissionFromPB (m : PB snapshotArtifactReadySubmission) : SnapshotArtifactReadySubmission :=
  ⟨snapshotArtifactReadyFromPB (m.msg "record"), m.text "signature"⟩

@[simp] theorem snapshotArtifactReadySubmissionToPB_spec :
    Converts snapshotArtifactReadySubmissionToPB snapshotArtifactReadySubmissionFromPB id :=
  converts (fun _ => rfl) (by simp [snapshotArtifactReadySubmissionFromPB])

def acquireSnapshotQueryRequestToPB (v : AcquireSnapshotQueryRequest) : PB acquireSnapshotQueryRequest :=
  build [.text "network_id" v.networkID, .uint32 "keeper_shard_id" v.keeperShardID,
    .text "client_account" v.clientAccount, .text "statement_id" v.statementID,
    .text "request_id" v.requestID, .text "control_jws" v.controlJWS]

def acquireSnapshotQueryRequestFromPB (m : PB acquireSnapshotQueryRequest) : AcquireSnapshotQueryRequest :=
  ⟨m.text "network_id", m.uint32 "keeper_shard_id", m.text "client_account", m.text "statement_id",
    m.text "request_id", m.text "control_jws"⟩

@[simp] theorem acquireSnapshotQueryRequestToPB_spec :
    Converts acquireSnapshotQueryRequestToPB acquireSnapshotQueryRequestFromPB id :=
  converts (fun _ => rfl) (by simp [acquireSnapshotQueryRequestFromPB])

def releaseSnapshotQueryRequestToPB (v : ReleaseSnapshotQueryRequest) : PB releaseSnapshotQueryRequest :=
  build [.text "network_id" v.networkID, .uint32 "keeper_shard_id" v.keeperShardID,
    .text "client_account" v.clientAccount, .text "statement_id" v.statementID,
    .text "request_id" v.requestID, .text "control_jws" v.controlJWS,
    .text "reservation_id" v.reservationID, .uint64 "fencing_generation" v.fencingGeneration]

def releaseSnapshotQueryRequestFromPB (m : PB releaseSnapshotQueryRequest) : ReleaseSnapshotQueryRequest :=
  ⟨m.text "network_id", m.uint32 "keeper_shard_id", m.text "client_account", m.text "statement_id",
    m.text "request_id", m.text "control_jws", m.text "reservation_id",
    m.uint64 "fencing_generation"⟩

@[simp] theorem releaseSnapshotQueryRequestToPB_spec :
    Converts releaseSnapshotQueryRequestToPB releaseSnapshotQueryRequestFromPB id :=
  converts (fun _ => rfl) (by simp [releaseSnapshotQueryRequestFromPB])

def beginSnapshotQueryToPB (v : BeginSnapshotQuery) : PB beginSnapshotQueryCmd :=
  build [.msg "request" (acquireSnapshotQueryRequestToPB v.request)]

def beginSnapshotQueryFromPB (m : PB beginSnapshotQueryCmd) : BeginSnapshotQuery :=
  ⟨acquireSnapshotQueryRequestFromPB (m.msg "request")⟩

@[simp] theorem beginSnapshotQueryToPB_spec : Converts beginSnapshotQueryToPB beginSnapshotQueryFromPB id :=
  converts (fun _ => rfl) (by simp [beginSnapshotQueryFromPB])

def grantSnapshotQueryToPB (v : GrantSnapshotQuery) : PB grantSnapshotQueryCmd :=
  build [.text "request_id" v.requestID,
    .msg "reservation" (snapshotQueryReservationToPB v.reservation)]

def grantSnapshotQueryFromPB (m : PB grantSnapshotQueryCmd) : GrantSnapshotQuery :=
  ⟨m.text "request_id", snapshotQueryReservationFromPB (m.msg "reservation")⟩

@[simp] theorem grantSnapshotQueryToPB_spec : Converts grantSnapshotQueryToPB grantSnapshotQueryFromPB id :=
  converts (fun _ => rfl) (by simp [grantSnapshotQueryFromPB])

def releaseSnapshotQueryToPB (v : ReleaseSnapshotQuery) : PB releaseSnapshotQueryCmd :=
  build [.msg "request" (releaseSnapshotQueryRequestToPB v.request)]

def releaseSnapshotQueryFromPB (m : PB releaseSnapshotQueryCmd) : ReleaseSnapshotQuery :=
  ⟨releaseSnapshotQueryRequestFromPB (m.msg "request")⟩

@[simp] theorem releaseSnapshotQueryToPB_spec :
    Converts releaseSnapshotQueryToPB releaseSnapshotQueryFromPB id :=
  converts (fun _ => rfl) (by simp [releaseSnapshotQueryFromPB])

def submitSnapshotQueryToPB (v : SubmitSnapshotQuery) : PB submitSnapshotQueryCmd :=
  build [.msg "envelope" (snapshotQueryEnvelopeToPB v.envelope),
    .bytes "non_membership_proof" v.nonMembershipProof]

def submitSnapshotQueryFromPB (m : PB submitSnapshotQueryCmd) : SubmitSnapshotQuery :=
  ⟨snapshotQueryEnvelopeFromPB (m.msg "envelope"), m.bytes "non_membership_proof"⟩

def SubmitSnapshotQuery.canon (v : SubmitSnapshotQuery) : SubmitSnapshotQuery :=
  { v with
    envelope := v.envelope.canon
    nonMembershipProof := v.nonMembershipProof.nilIfEmpty }

@[simp] theorem submitSnapshotQueryToPB_spec :
    Converts submitSnapshotQueryToPB submitSnapshotQueryFromPB SubmitSnapshotQuery.canon :=
  converts (fun _ => rfl) (by simp [submitSnapshotQueryFromPB, SubmitSnapshotQuery.canon])

def abortSnapshotQueryToPB (v : AbortSnapshotQuery) : PB abortSnapshotQueryCmd :=
  build [.msg "record" (snapshotQueryAbortRecordToPB v.record),
    .text "authority_jws" v.authorityJWS]

def abortSnapshotQueryFromPB (m : PB abortSnapshotQueryCmd) : AbortSnapshotQuery :=
  ⟨snapshotQueryAbortRecordFromPB (m.msg "record"), m.text "authority_jws"⟩

@[simp] theorem abortSnapshotQueryToPB_spec : Converts abortSnapshotQueryToPB abortSnapshotQueryFromPB id :=
  converts (fun _ => rfl) (by simp [abortSnapshotQueryFromPB])

def activateQueryProfileToPB (v : ActivateQueryProfile) : PB activateQueryProfileCmd :=
  build [.msg "activation" (activeQueryPolicyToPB v.activation),
    .text "authority_jws" v.authorityJWS]

def activateQueryProfileFromPB (m : PB activateQueryProfileCmd) : ActivateQueryProfile :=
  ⟨activeQueryPolicyFromPB (m.msg "activation"), m.text "authority_jws"⟩

@[simp] theorem activateQueryProfileToPB_spec :
    Converts activateQueryProfileToPB activateQueryProfileFromPB id :=
  converts (fun _ => rfl) (by simp [activateQueryProfileFromPB])

def recordSnapshotQueryClaimToPB (v : RecordSnapshotQueryClaim) : PB recordSnapshotQueryClaimCmd :=
  build [.msg "claim" (snapshotQueryClaimToPB v.claim)]

def recordSnapshotQueryClaimFromPB (m : PB recordSnapshotQueryClaimCmd) : RecordSnapshotQueryClaim :=
  ⟨snapshotQueryClaimFromPB (m.msg "claim")⟩

def RecordSnapshotQueryClaim.canon (v : RecordSnapshotQueryClaim) : RecordSnapshotQueryClaim :=
  { v with claim := v.claim.canon }

@[simp] theorem recordSnapshotQueryClaimToPB_spec :
    Converts recordSnapshotQueryClaimToPB recordSnapshotQueryClaimFromPB RecordSnapshotQueryClaim.canon :=
  converts (fun _ => rfl) (by simp [recordSnapshotQueryClaimFromPB, RecordSnapshotQueryClaim.canon])

def recordSnapshotQueryAttestationToPB (v : RecordSnapshotQueryAttestation) : PB recordSnapshotQueryAttestationCmd :=
  build [.msg "attestation" (snapshotQueryAttestationToPB v.attestation)]

def recordSnapshotQueryAttestationFromPB (m : PB recordSnapshotQueryAttestationCmd) : RecordSnapshotQueryAttestation :=
  ⟨snapshotQueryAttestationFromPB (m.msg "attestation")⟩

def RecordSnapshotQueryAttestation.canon (v : RecordSnapshotQueryAttestation) : RecordSnapshotQueryAttestation :=
  { v with attestation := v.attestation.canon }

@[simp] theorem recordSnapshotQueryAttestationToPB_spec :
    Converts recordSnapshotQueryAttestationToPB recordSnapshotQueryAttestationFromPB
      RecordSnapshotQueryAttestation.canon :=
  converts (fun _ => rfl) (by simp [recordSnapshotQueryAttestationFromPB, RecordSnapshotQueryAttestation.canon])

def publishExecutorProfileTransitionToPB (v : PublishExecutorProfileTransition) :
    PB publishExecutorProfileTransitionCmd :=
  build [.msg "transition" (executorProfileTransitionToPB v.transition),
    .msg "manifest" (manifestToPB v.manifest),
    .msgs "receipts" (snapshotMap executorProfileTransitionReceiptToPB v.receipts),
    .text "authority_jws" v.authorityJWS]

def publishExecutorProfileTransitionFromPB (m : PB publishExecutorProfileTransitionCmd) :
    PublishExecutorProfileTransition :=
  ⟨executorProfileTransitionFromPB (m.msg "transition"), manifestFromPB (m.msg "manifest"),
    snapshotMap executorProfileTransitionReceiptFromPB (m.msgs "receipts"), m.text "authority_jws"⟩

def PublishExecutorProfileTransition.canon (v : PublishExecutorProfileTransition) : PublishExecutorProfileTransition :=
  { v with
    manifest := v.manifest.canon
    receipts := snapshotClone v.receipts }

@[simp] theorem publishExecutorProfileTransitionToPB_spec :
    Converts publishExecutorProfileTransitionToPB publishExecutorProfileTransitionFromPB
      PublishExecutorProfileTransition.canon :=
  converts (fun _ => rfl)
    (by simp [publishExecutorProfileTransitionFromPB, PublishExecutorProfileTransition.canon])

def recordSnapshotArtifactReadyToPB (v : RecordSnapshotArtifactReady) : PB recordSnapshotArtifactReadyCmd :=
  build [.msg "submission" (snapshotArtifactReadySubmissionToPB v.submission)]

def recordSnapshotArtifactReadyFromPB (m : PB recordSnapshotArtifactReadyCmd) : RecordSnapshotArtifactReady :=
  ⟨snapshotArtifactReadySubmissionFromPB (m.msg "submission")⟩

@[simp] theorem recordSnapshotArtifactReadyToPB_spec :
    Converts recordSnapshotArtifactReadyToPB recordSnapshotArtifactReadyFromPB id :=
  converts (fun _ => rfl) (by simp [recordSnapshotArtifactReadyFromPB])

end ArbiterCore.Wire
