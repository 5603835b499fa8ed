-- SUMMARY: The message types of the Raft log and their fields.
import ArbiterCore.Base.ProtoBuild

/-!
# The schema of the Raft log

The message types that a `RaftCommand` contains, with their fields. Names, kinds
and cardinalities are those that the converters use. The numbers of the fields
are pinned in the protocol repository: they are a parameter here, of which it is
only used that they are field numbers and tell the fields of a message apart. Every
number is taken as a varint: the repository does not say which have a fixed width. A
few fields belong to requests only and must not occur in the log.
-/

namespace ArbiterCore.Wire

open Proto

inductive MsgType where
  | statementID | statementEnvelopeV2 | candidatePart | partitionLtHashSum | rcRecord
  | partScan | byteSideScanMsg | anchorRef | nodeRegistration | partRef
  | promoteSafePartition | unsafeCleanup | safePartMapping | promotionAck | cleanupAck
  | partitionCommitment | partManifestEntry | executionReceipt | replayAttestation
  | tableManifest | trackFrontier | safeSnapshotManifest | tableRegistryParams
  | clientLaneParams | l2BlockRef | l2EventRef | siIndexerEntry | verifierEntry
  | indexerFailureDomain | stage3Params | consensusParamsUpdate | legacyTable
  | submitStatementCmd | sealL3BlockCmd | markReplayingCmd | registerRCCmd
  | recordAttestationCmd | recordByteSideScanCmd | recordAnchorFinalityCmd
  | recordPromotionIssuedCmd | recordPromotionAckCmd | publishSafeSnapshotCmd
  | scheduleUnsafeCleanupCmd | recordCleanupAckCmd | openChallengeCmd | resolveChallengeCmd
  | registerNodeCmd | markActiveCmd | evictNodeCmd | updateConsensusParamsCmd
  | seedLegacyTablesCmd | addTableCmd | retireTablesCmd | advanceL2CursorCmd
  | recordTablePurgedCmd | quarantineIndexerCmd | releaseIndexerCmd | rebalanceGroupCmd
  | reselectVerifiersCmd | memberReadyCmd | markMemberLaggingCmd | snapshotPin
  | snapshotReadPart | snapshotReadTable | snapshotReadSet | snapshotQueryBinding
  | snapshotQueryInput | snapshotQueryEnvelope | snapshotQueryReservation
  | snapshotQueryReceipt | snapshotQueryAttestation | activeQueryPolicy
  | executorProfileTransition | executorProfileTransitionReceipt | snapshotArtifactReady
  | snapshotQueryAbortRecord | snapshotQueryClaim | snapshotArtifactReadySubmission
  | acquireSnapshotQueryRequest | releaseSnapshotQueryRequest | beginSnapshotQueryCmd
  | grantSnapshotQueryCmd | releaseSnapshotQueryCmd | submitSnapshotQueryCmd
  | abortSnapshotQueryCmd | activateQueryProfileCmd | recordSnapshotQueryClaimCmd
  | recordSnapshotQueryAttestationCmd | publishExecutorProfileTransitionCmd
  | recordSnapshotArtifactReadyCmd | artifactDispositionPolicyV1
  | artifactDispositionOriginV1 | artifactDispositionUseV1
  | artifactDispositionRetirementTargetV1 | artifactDispositionBindPolicyV1
  | artifactDispositionRegisterCandidateV1 | artifactDispositionRecordReadyV1
  | artifactDispositionPublishCandidateV1 | artifactDispositionCancelCandidateV1
  | artifactDispositionAdmitUseV1 | artifactDispositionCloseUseV1
  | artifactDispositionOpenChallengeV1 | artifactDispositionResolveObligationV1
  | artifactDispositionGrantReservationV1 | artifactDispositionRegistryObservationV1
  | artifactDispositionSourceObservationV1 | artifactDispositionValidationV1 | excludedTable
  | checkpointGroup | memberCheckpoint | memberCheckpointCmd | artifactDispositionActionV1
  | artifactDispositionCommandV1 | artifactDispositionCmd | raftCommand
  deriving DecidableEq

/-! ## Fields -/

variable (name : String)

def text : FieldDescriptor MsgType := ⟨name, .text, false, none⟩

/-- A bare name is a text. -/
instance : Coe String (FieldDescriptor MsgType) := ⟨text⟩

def bytes : FieldDescriptor MsgType := ⟨name, .bytes, false, none⟩

/-- A number, an enumeration or a truth value. -/
def num : FieldDescriptor MsgType := ⟨name, .num .varint, false, none⟩

def nums : FieldDescriptor MsgType := ⟨name, .num .varint, true, none⟩

def texts : FieldDescriptor MsgType := ⟨name, .text, true, none⟩

def msg (sub : MsgType) : FieldDescriptor MsgType := ⟨name, .message sub, false, none⟩

def msgs (sub : MsgType) : FieldDescriptor MsgType := ⟨name, .message sub, true, none⟩

/-- A member of a oneof. -/
def arm (oneof name : String) (sub : MsgType) : FieldDescriptor MsgType :=
  ⟨name, .message sub, false, some oneof⟩

/-- The fields that a log entry may have. -/
def logFields : MsgType → List (FieldDescriptor MsgType)
  | .statementID => ["client_account", num "client_seq", "client_nonce", "client_lane"]
  | .statementEnvelopeV2 =>
    [msg "statement_id" .statementID, num "statement_kind", "sql", "sql_hash", "settings_hash",
      "payload_ref", "payload_hash", num "payload_length", "target_table_id", "user_jws",
      num "envelope_version", "network_id", num "keeper_shard_id", "payload_format",
      num "client_revision", "schema_hash", "row_id_profile_id"]
  | .candidatePart =>
    ["table_id", "partition_id", "part_name", "part_row_lthash", "part_phys_hash", num "row_count",
      num "bytes"]
  | .partitionLtHashSum => ["table_id", "partition_id", "new_parts_lthash_sum"]
  | .rcRecord =>
    [msg "statement_id" .statementID, "source_node", msgs "candidate_parts" .candidatePart,
      "source_claim_root", msgs "partition_new_part_sums" .partitionLtHashSum]
  | .partScan =>
    ["table_id", "partition_id", "claimed_part_row_lthash", "scanned_part_row_lthash",
      "live_part_name"]
  | .byteSideScanMsg =>
    ["replica_id", num "block_seq", msgs "parts" .partScan, "scan_hash", "signature"]
  | .anchorRef => ["l3_block_hash", "state_root", "l2_tx_ref", num "l2_block_number", "da_ref"]
  | .nodeRegistration =>
    ["node_id", nums "roles", bytes "ed25519_pubkey", "dial_addr", num "registration_seq"]
  | .partRef => ["table_id", "partition_id", "part_row_lthash", "part_name"]
  | .promoteSafePartition =>
    ["table_id", "partition_id", num "promotion_seq", "base_safe_snapshot_id",
      "base_partition_root", msgs "candidate_parts" .partRef]
  | .unsafeCleanup =>
    ["table_id", "partition_id", num "promotion_seq", msgs "parts" .partRef,
      num "rejected_block_seq"]
  | .safePartMapping => ["part_row_lthash", "safe_part_name", "part_phys_hash"]
  | .promotionAck =>
    ["node_id", num "promotion_seq", "table_id", "partition_id", "post_partition_commitment",
      msgs "parts" .safePartMapping, msgs "safe_partition_parts" .safePartMapping, num "applied",
      "detail"]
  | .cleanupAck =>
    ["node_id", num "promotion_seq", "table_id", "partition_id", num "rejected_block_seq"]
  | .partitionCommitment => ["table_id", "partition_id", "root"]
  | .partManifestEntry =>
    ["table_id", "partition_id", "part_name", "part_phys_hash", "part_row_lthash", num "row_count",
      num "bytes", texts "storage_refs"]
  | .executionReceipt =>
    [num "block_seq", "prev_safe_snapshot_id", "prev_state_root", "schema_snapshot_id",
      "executor_profile_id", "statement_root", "payload_root", "source_claim_root",
      "computed_state_root", num "match_source_root",
      msgs "partition_commitments_after" .partitionCommitment,
      msgs "affected_parts" .partManifestEntry, "replay_log_hash"]
  | .replayAttestation =>
    ["replica_id", msg "receipt" .executionReceipt, "receipt_hash", "signature",
      num "match_source_root"]
  | .tableManifest =>
    ["table_id", "schema_hash", msgs "partition_roots" .partitionCommitment,
      msgs "active_parts" .partManifestEntry]
  | .trackFrontier => [num "indexer_id", num "safe_block_seq", num "applied_promotion_seq"]
  | .safeSnapshotManifest =>
    ["snapshot_id", "parent_snapshot_id", num "safe_block_seq", "state_root", "schema_snapshot_id",
      "schema_root", "executor_profile_id", "data_root", "manifest_root",
      msgs "tables" .tableManifest, msgs "track_frontiers" .trackFrontier]
  | .tableRegistryParams =>
    [num "chain_id", "databases_contract", num "si_indexer_id", num "activation_block",
      "confirmation"]
  | .clientLaneParams => [num "max_lanes_per_account"]
  | .l2BlockRef => [num "number", "hash"]
  | .l2EventRef => [num "block_number", "block_hash", num "log_index", "tx_hash"]
  | .siIndexerEntry =>
    [num "indexer_id", num "activation_block", "signer", "snode_node_id", "enrollment_jws"]
  | .verifierEntry =>
    ["node_id", bytes "ed25519_pubkey", num "host_indexer_id", "replica_signer", "consent_jws",
      num "weight", "failure_domain", num "verify", num "replicate", num "counts", num "shared_rmt"]
  | .indexerFailureDomain => [num "indexer_id", "failure_domain"]
  | .stage3Params =>
    [num "group_size", num "network_fill_default", num "min_safe_copies", num "strict_copies",
      msgs "indexer_failure_domains" .indexerFailureDomain, num "max_lag_publications",
      num "lag_low", num "evidence_timeout_l2_blocks", num "max_uncleaned_parts_per_partition",
      num "max_uncleaned_parts_per_table", num "exclude_quarantined_hosts", num "purge",
      num "eviction_voiding", num "owner_aware_selection", num "placement", num "reselection",
      num "checkpoints", num "narrowed_drain"]
  | .consensusParamsUpdate =>
    ["network_id", "genesis_snapshot_id", num "expected_epoch", "previous_params_digest",
      texts "authority_addresses", num "max_writers", num "expected_promotion_seq",
      num "artifact_disposition_capability", msg "table_registry" .tableRegistryParams,
      msg "client_lanes" .clientLaneParams, msgs "si_indexers" .siIndexerEntry,
      msgs "verifiers" .verifierEntry, num "tracks_enabled", msg "stage3" .stage3Params]
  | .legacyTable => ["database_id", "table_id", msg "created" .l2EventRef]
  | .submitStatementCmd => [msg "envelope" .statementEnvelopeV2, bytes "non_membership_proof"]
  | .sealL3BlockCmd => []
  | .markReplayingCmd => [num "block_seq"]
  | .registerRCCmd => [msg "rc" .rcRecord, "source_jws"]
  | .recordAttestationCmd => [msg "attestation" .replayAttestation]
  | .recordByteSideScanCmd => [msg "scan" .byteSideScanMsg]
  | .recordAnchorFinalityCmd =>
    [num "l3_block_seq", msg "anchor" .anchorRef, num "finality_reached",
      num "last_mergeable_reached"]
  | .recordPromotionIssuedCmd => [msg "promote" .promoteSafePartition, "authority_jws"]
  | .recordPromotionAckCmd => [msg "ack" .promotionAck, "source_jws"]
  | .publishSafeSnapshotCmd => [msg "manifest" .safeSnapshotManifest]
  | .scheduleUnsafeCleanupCmd => [msg "cleanup" .unsafeCleanup, "authority_jws"]
  | .recordCleanupAckCmd => [msg "ack" .cleanupAck, "source_jws"]
  | .openChallengeCmd => [num "block_seq", "reason", "opened_by"]
  | .resolveChallengeCmd => [num "block_seq", num "verdict"]
  | .registerNodeCmd => [msg "registration" .nodeRegistration, "signer_jws", "ed25519_signature"]
  | .markActiveCmd => ["node_id", num "registration_seq", "signer_jws", "ed25519_signature"]
  | .evictNodeCmd => ["node_id", "reason", num "expected_registration_seq", "authority_jws"]
  | .updateConsensusParamsCmd => [msg "update" .consensusParamsUpdate, "authority_jws"]
  | .seedLegacyTablesCmd =>
    [msg "at_block" .l2BlockRef, msgs "tables" .legacyTable, num "indexer_id"]
  | .addTableCmd =>
    ["database_id", "table_id", msg "created" .l2EventRef, msg "schema" .l2EventRef,
      num "schema_version", "schema_hash", "schema_json", num "owner_indexer_id"]
  | .retireTablesCmd => ["database_id", texts "table_ids", msg "deleted" .l2EventRef, num "reason"]
  | .advanceL2CursorCmd => [msg "to" .l2BlockRef]
  | .recordTablePurgedCmd => ["node_id", num "incarnation_seq", "signer_jws", "ed25519_signature"]
  | .quarantineIndexerCmd =>
    [num "indexer_id", num "expected_generation", "reason", "authority_jws"]
  | .releaseIndexerCmd =>
    [num "indexer_id", num "expected_generation", nums "acknowledged_rejected_blocks",
      "authority_jws"]
  | .rebalanceGroupCmd =>
    [num "owner_indexer_id", "database_id", num "expected_generation", texts "add", texts "remove",
      num "network_fill", "authority_jws"]
  | .reselectVerifiersCmd => [num "l3_block_seq", texts "expected_set", "authority_jws"]
  | .memberReadyCmd =>
    ["node_id", num "owner_indexer_id", "database_id", num "generation", "ed25519_signature"]
  | .markMemberLaggingCmd =>
    ["node_id", num "owner_indexer_id", "database_id", msg "observed_entry" .trackFrontier,
      "authority_jws"]
  | .snapshotPin =>
    ["network_id", num "keeper_shard_id", "snapshot_id", num "safe_block_seq", "manifest_root",
      "state_root", "schema_snapshot_id", "schema_root"]
  | .snapshotReadPart =>
    ["table_id", "partition_id", "part_name", "part_phys_hash", "part_row_lthash", num "row_count",
      num "bytes"]
  | .snapshotReadTable =>
    ["database", "table", "table_id", "schema_hash", msgs "partition_roots" .partitionCommitment,
      msgs "active_parts" .snapshotReadPart]
  | .snapshotReadSet => [msg "read_snapshot" .snapshotPin, msgs "tables" .snapshotReadTable]
  | .snapshotQueryBinding =>
    [num "envelope_version", "input_kind", "client_account", "statement_id", "statement_kind",
      "network_id", num "keeper_shard_id", "sql_hash", "settings_hash", "target_table_id",
      "schema_hash", "row_id_profile_id", num "client_revision", msg "read_snapshot" .snapshotPin,
      "read_set_root", "schema_snapshot_id", "schema_root", "logical_database", "query_profile_id",
      "executor_profile_id", "reservation_id", num "fencing_generation"]
  | .snapshotQueryInput =>
    [msg "binding" .snapshotQueryBinding, "sql", msg "read_set" .snapshotReadSet]
  | .snapshotQueryEnvelope => [msg "input" .snapshotQueryInput, "input_root", "user_jws"]
  | .snapshotQueryReservation =>
    ["reservation_id", num "fencing_generation", "client_account", "statement_id",
      msg "read_snapshot" .snapshotPin, "executor_profile_id", "query_profile_id", "activation_id"]
  | .snapshotQueryReceipt =>
    [num "block_seq", "statement_root", "input_root", "read_set_root",
      msg "read_snapshot" .snapshotPin, "schema_snapshot_id", "executor_profile_id",
      "query_profile_id", "reservation_id", num "fencing_generation", "execution_outcome",
      "abort_record_root", num "output_row_count", "output_rows_root", "source_claim_root",
      "computed_state_root", num "match_source_root",
      msgs "partition_commitments_after" .partitionCommitment,
      msgs "affected_parts" .partManifestEntry, "replay_log_hash"]
  | .snapshotQueryAttestation =>
    ["replica_id", msg "receipt" .snapshotQueryReceipt, "receipt_hash", "signature"]
  | .activeQueryPolicy =>
    ["activation_id", "network_id", num "keeper_shard_id", num "activation_block_seq",
      "executor_profile_id", "query_profile_id", num "enabled"]
  | .executorProfileTransition =>
    ["network_id", num "keeper_shard_id", "prev_snapshot_id", "prev_state_root",
      "old_executor_profile_id", "new_executor_profile_id", "schema_snapshot_id", "schema_root",
      "data_root", "next_snapshot_id", "next_state_root", "next_manifest_root",
      msg "activation" .activeQueryPolicy]
  | .executorProfileTransitionReceipt => ["transition_root", "replica_id", "signature"]
  | .snapshotArtifactReady =>
    ["snapshot_id", "manifest_root", "schema_root", "artifact_set_root", "publisher_id",
      "retention_policy_id"]
  | .snapshotQueryAbortRecord =>
    [num "block_seq", "statement_id", "input_root", "reservation_id", num "fencing_generation",
      "reason_code", "cleanup_authorization_root", "prev_snapshot_id", "next_snapshot_id"]
  | .snapshotQueryClaim =>
    ["source_node", "statement_id", num "statement_seq", num "block_seq", "input_root",
      "reservation_id", num "fencing_generation", "execution_outcome", num "output_row_count",
      "output_rows_root", "computed_state_root", msgs "partition_deltas" .partitionCommitment,
      msgs "partition_commitments_after" .partitionCommitment,
      msgs "candidate_parts" .snapshotReadPart]
  | .snapshotArtifactReadySubmission => [msg "record" .snapshotArtifactReady, "signature"]
  | .acquireSnapshotQueryRequest =>
    ["network_id", num "keeper_shard_id", "client_account", "statement_id", "request_id",
      "control_jws"]
  | .releaseSnapshotQueryRequest =>
    ["network_id", num "keeper_shard_id", "client_account", "statement_id", "request_id",
      "control_jws", "reservation_id", num "fencing_generation"]
  | .beginSnapshotQueryCmd => [msg "request" .acquireSnapshotQueryRequest]
  | .grantSnapshotQueryCmd => ["request_id", msg "reservation" .snapshotQueryReservation]
  | .releaseSnapshotQueryCmd => [msg "request" .releaseSnapshotQueryRequest]
  | .submitSnapshotQueryCmd => [msg "envelope" .snapshotQueryEnvelope, bytes "non_membership_proof"]
  | .abortSnapshotQueryCmd => [msg "record" .snapshotQueryAbortRecord, "authority_jws"]
  | .activateQueryProfileCmd => [msg "activation" .activeQueryPolicy, "authority_jws"]
  | .recordSnapshotQueryClaimCmd => [msg "claim" .snapshotQueryClaim]
  | .recordSnapshotQueryAttestationCmd => [msg "attestation" .snapshotQueryAttestation]
  | .publishExecutorProfileTransitionCmd =>
    [msg "transition" .executorProfileTransition, msg "manifest" .safeSnapshotManifest,
      msgs "receipts" .executorProfileTransitionReceipt, "authority_jws"]
  | .recordSnapshotArtifactReadyCmd => [msg "submission" .snapshotArtifactReadySubmission]
  | .artifactDispositionPolicyV1 => ["policy_id", "kind", texts "administrator_addresses"]
  | .artifactDispositionOriginV1 =>
    ["kind", "parent_snapshot_id", num "safe_block_seq", "activation_id", "transition_root",
      "client_account", "statement_id", "request_id", "reservation_id", num "fencing_generation",
      num "block_seq", num "statement_seq", "statement_root", "input_root", "user_jws_hash",
      "execution_outcome", num "candidate_seq"]
  | .artifactDispositionUseV1 =>
    ["reference_id", msg "pin" .snapshotPin, "principal_id",
      msg "origin" .artifactDispositionOriginV1, num "continuation_obligation_seq"]
  | .artifactDispositionRetirementTargetV1 => [msg "pin" .snapshotPin, "retention_policy_id"]
  | .artifactDispositionBindPolicyV1 => [msg "policy" .artifactDispositionPolicyV1]
  | .artifactDispositionRegisterCandidateV1 =>
    [msg "pin" .snapshotPin, msg "manifest" .safeSnapshotManifest, "publisher_id",
      "retention_policy_id", "publication_reference_id", msg "origin" .artifactDispositionOriginV1]
  | .artifactDispositionRecordReadyV1 =>
    [num "candidate_seq", msg "submission" .snapshotArtifactReadySubmission]
  | .artifactDispositionPublishCandidateV1 =>
    [num "candidate_seq", msg "manifest" .safeSnapshotManifest,
      msg "transition" .executorProfileTransition,
      msgs "transition_receipts" .executorProfileTransitionReceipt]
  | .artifactDispositionCancelCandidateV1 => [num "candidate_seq", "reason_code"]
  | .artifactDispositionAdmitUseV1 => [msg "use" .artifactDispositionUseV1]
  | .artifactDispositionCloseUseV1 =>
    [msg "use" .artifactDispositionUseV1, num "expected_registry_revision"]
  | .artifactDispositionOpenChallengeV1 =>
    [msg "pin" .snapshotPin, msg "origin" .artifactDispositionOriginV1,
      msg "attestation" .snapshotQueryAttestation, msg "replay_use" .artifactDispositionUseV1]
  | .artifactDispositionResolveObligationV1 => [num "obligation_seq"]
  | .artifactDispositionGrantReservationV1 =>
    ["client_account", "statement_id", "control_binding_digest"]
  | .artifactDispositionRegistryObservationV1 =>
    ["reference_id", msg "pin" .snapshotPin, "principal_id", num "registry_revision", "observation",
      "record_digest"]
  | .artifactDispositionSourceObservationV1 =>
    [num "obligation_seq", "source_kind", num "source_index",
      msg "source_identity" .artifactDispositionOriginV1, nums "replacement_obligation_seqs"]
  | .artifactDispositionValidationV1 =>
    [num "version", "command_root", "actor_id", "actor_role", "administrator_jws_hash",
      msgs "registry_observations" .artifactDispositionRegistryObservationV1,
      msgs "source_observations" .artifactDispositionSourceObservationV1,
      num "capacity_allowance_ordinal"]
  | .excludedTable => ["table_id", num "reason"]
  | .checkpointGroup => ["database_id", num "group_generation", msgs "excluded" .excludedTable]
  | .memberCheckpoint =>
    ["node_id", num "owner_indexer_id", num "checkpoint_seq", msgs "groups" .checkpointGroup,
      "snapshot_id", msg "entry" .trackFrontier]
  | .memberCheckpointCmd => [msg "checkpoint" .memberCheckpoint, "replica_jws"]
  | .artifactDispositionActionV1 =>
    [arm "action" "bind_policy" .artifactDispositionBindPolicyV1,
      arm "action" "register_candidate" .artifactDispositionRegisterCandidateV1,
      arm "action" "record_ready" .artifactDispositionRecordReadyV1,
      arm "action" "publish_candidate" .artifactDispositionPublishCandidateV1,
      arm "action" "cancel_candidate" .artifactDispositionCancelCandidateV1,
      arm "action" "begin_retirement" .artifactDispositionRetirementTargetV1,
      arm "action" "finish_retirement" .artifactDispositionRetirementTargetV1,
      arm "action" "admit_use" .artifactDispositionAdmitUseV1,
      arm "action" "close_use" .artifactDispositionCloseUseV1,
      arm "action" "open_challenge" .artifactDispositionOpenChallengeV1,
      arm "action" "resolve_obligation" .artifactDispositionResolveObligationV1,
      arm "action" "grant_reservation" .artifactDispositionGrantReservationV1]
  | .artifactDispositionCommandV1 =>
    [num "version", "network_id", num "keeper_shard_id", "actor_id", "request_id",
      num "expected_revision", msg "action" .artifactDispositionActionV1]
  | .artifactDispositionCmd =>
    [msg "command" .artifactDispositionCommandV1, "administrator_jws",
      msg "validation" .artifactDispositionValidationV1]
  | .raftCommand =>
    [arm "cmd" "submit_statement" .submitStatementCmd, arm "cmd" "seal_l3_block" .sealL3BlockCmd,
      arm "cmd" "mark_replaying" .markReplayingCmd, arm "cmd" "register_rc" .registerRCCmd,
      arm "cmd" "record_attestation" .recordAttestationCmd,
      arm "cmd" "record_byte_side_scan" .recordByteSideScanCmd,
      arm "cmd" "record_anchor_finality" .recordAnchorFinalityCmd,
      arm "cmd" "record_promotion_issued" .recordPromotionIssuedCmd,
      arm "cmd" "record_promotion_ack" .recordPromotionAckCmd,
      arm "cmd" "publish_safe_snapshot" .publishSafeSnapshotCmd,
      arm "cmd" "schedule_unsafe_cleanup" .scheduleUnsafeCleanupCmd,
      arm "cmd" "record_cleanup_ack" .recordCleanupAckCmd,
      arm "cmd" "open_challenge" .openChallengeCmd,
      arm "cmd" "resolve_challenge" .resolveChallengeCmd,
      arm "cmd" "register_node" .registerNodeCmd, arm "cmd" "mark_active" .markActiveCmd,
      arm "cmd" "evict_node" .evictNodeCmd,
      arm "cmd" "update_consensus_params" .updateConsensusParamsCmd,
      arm "cmd" "grant_snapshot_query" .grantSnapshotQueryCmd,
      arm "cmd" "release_snapshot_query" .releaseSnapshotQueryCmd,
      arm "cmd" "submit_snapshot_query" .submitSnapshotQueryCmd,
      arm "cmd" "abort_snapshot_query" .abortSnapshotQueryCmd,
      arm "cmd" "activate_query_profile" .activateQueryProfileCmd,
      arm "cmd" "record_snapshot_query_claim" .recordSnapshotQueryClaimCmd,
      arm "cmd" "record_snapshot_query_attestation" .recordSnapshotQueryAttestationCmd,
      arm "cmd" "publish_executor_profile_transition" .publishExecutorProfileTransitionCmd,
      arm "cmd" "record_snapshot_artifact_ready" .recordSnapshotArtifactReadyCmd,
      arm "cmd" "artifact_disposition" .artifactDispositionCmd,
      arm "cmd" "begin_snapshot_query" .beginSnapshotQueryCmd,
      arm "cmd" "seed_legacy_tables" .seedLegacyTablesCmd, arm "cmd" "add_table" .addTableCmd,
      arm "cmd" "retire_tables" .retireTablesCmd, arm "cmd" "advance_l2_cursor" .advanceL2CursorCmd,
      arm "cmd" "record_table_purged" .recordTablePurgedCmd,
      arm "cmd" "quarantine_indexer" .quarantineIndexerCmd,
      arm "cmd" "release_indexer" .releaseIndexerCmd,
      arm "cmd" "rebalance_group" .rebalanceGroupCmd,
      arm "cmd" "reselect_verifiers" .reselectVerifiersCmd,
      arm "cmd" "member_ready" .memberReadyCmd, arm "cmd" "member_checkpoint" .memberCheckpointCmd,
      arm "cmd" "mark_member_lagging" .markMemberLaggingCmd]

/-- The fields that only a request has: a command of the log carries what they hold in a field of
    its own. -/
def requestFields : MsgType → List (FieldDescriptor MsgType)
  | .rcRecord | .promotionAck | .cleanupAck => ["source_jws"]
  | .nodeRegistration => [texts "features", "signer_jws", "ed25519_signature"]
  | _ => []

def fields (ty : MsgType) : List (FieldDescriptor MsgType) := logFields ty ++ requestFields ty

/-- The numbers and the full names of the message types. -/
structure Descriptors where
  number : MsgType → String → Nat
  fullName : MsgType → String
  injective : ∀ ty, ∀ f ∈ fields ty, ∀ g ∈ fields ty,
    number ty f.name = number ty g.name → f.name = g.name
  range : ∀ ty, ∀ f ∈ fields ty, 1 ≤ number ty f.name ∧ number ty f.name < 2 ^ 29

def schema (D : Descriptors) : Schema MsgType := ⟨fields, D.number, D.fullName⟩

/-- The schema without the fields of requests. -/
def logSchema (D : Descriptors) : Schema MsgType := ⟨logFields, D.number, D.fullName⟩

/-! ## Validity -/

theorem names_nodup (ty : MsgType) : ((fields ty).map (·.name)).Nodup := by
  cases ty <;> decide +kernel

theorem singular_of_oneof (ty : MsgType) : ∀ f ∈ fields ty, f.oneof.isSome = true → f.list = false := by
  cases ty <;> decide +kernel

theorem length_fields_le (ty : MsgType) : (fields ty).length ≤ 41 := by
  cases ty <;> decide

variable {D : Descriptors}

theorem schema_valid (D : Descriptors) : (schema D).Valid where
  names := names_nodup
  numbers := D.injective
  range := D.range
  oneofs := singular_of_oneof

theorem logFields_subset {ty : MsgType} {f : FieldDescriptor MsgType} (h : f ∈ logFields ty) :
    f ∈ fields ty :=
  List.mem_append_left _ h

theorem logSchema_valid (D : Descriptors) : (logSchema D).Valid where
  names ty := by
    have h := names_nodup ty
    rw [fields, List.map_append] at h
    exact h.of_append_left
  numbers ty f hf g hg := D.injective ty f (logFields_subset hf) g (logFields_subset hg)
  range ty f hf := D.range ty f (logFields_subset hf)
  oneofs ty f hf := singular_of_oneof ty f (logFields_subset hf)

/-- The message conforms to its type without the fields of requests. -/
abbrev Fits (D : Descriptors) {ty : MsgType} (m : PB ty) : Prop := Conforms (logSchema D) ty m.occs

/-- A message is fit if its fields are those of its type, in their order, and their messages are. -/
theorem fits_build {ty : MsgType} {ps : List (Piece MsgType)}
    (hspec : (ps.map Piece.spec).isSublist ((logFields ty).map (·.spec)) = true)
    (hnested : ∀ p ∈ ps, p.Nested (logSchema D)) : Fits D (build ps : PB ty) :=
  build_conforms (logSchema_valid D) hspec hnested

/-- Numbers in the order of declaration. The numbers of `RaftCommand` skip 29. -/
def Descriptors.declared : Descriptors where
  number ty name :=
    let i := ((fields ty).map (·.name)).idxOf name
    if ty = .raftCommand ∧ 28 ≤ i then i + 2 else i + 1
  fullName _ := ""
  injective ty f hf g hg h := by
    have heq : ((fields ty).map (·.name)).idxOf f.name = ((fields ty).map (·.name)).idxOf g.name := by
      by_cases hty : ty = .raftCommand
      · subst hty
        simp only [true_and] at h
        split at h <;> split at h <;> omega
      · simpa [hty] using h
    exact (List.idxOf_inj (List.mem_map_of_mem hf)).mp heq
  range ty f hf := by
    have hlt := List.idxOf_lt_length_of_mem (List.mem_map_of_mem (f := (·.name)) hf)
    have hle := length_fields_le ty
    rw [List.length_map] at hlt
    simp only
    split <;> omega

end ArbiterCore.Wire
