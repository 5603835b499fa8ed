-- SUMMARY: The canonical JSON and the root of artifact disposition commands (wire/artifact_disposition.go).
import ArbiterCore.Authority.Hashes
import ArbiterCore.Wire.ConvertDisposition

/-!
# Artifact disposition commands

The JSON of a command leaves out what is no part of its identity: the storage
refs of parts and the track frontiers of manifests. Its lists are never null: the
lists of a manifest are made arrays, and every other nil list is refused before
the command is hashed.
-/

namespace ArbiterCore.Wire

open GoSlice (Slice)
open Json

/-! ## Replay records -/

def SnapshotPin.json (v : SnapshotPin) : Json :=
  object [.text "network_id" v.networkID, .uint32 "keeper_shard_id" v.keeperShardID,
    .text "snapshot_id" v.snapshotID, .uint64 "safe_block_seq" v.safeBlockSeq,
    .text "manifest_root" v.manifestRoot, .text "state_root" v.stateRoot,
    .text "schema_snapshot_id" v.schemaSnapshotID, .text "schema_root" v.schemaRoot]

def PartitionCommitment.json (v : PartitionCommitment) : Json :=
  object [.text "table_id" v.tableID, .text "partition_id" v.partitionID, .text "root" v.root]

def ExecutorProfileTransition.json (v : ExecutorProfileTransition) : Json :=
  object [.text "network_id" v.networkID, .uint32 "keeper_shard_id" v.keeperShardID,
    .text "prev_snapshot_id" v.prevSnapshotID, .text "prev_state_root" v.prevStateRoot,
    .text "old_executor_profile_id" v.oldExecutorProfileID,
    .text "new_executor_profile_id" v.newExecutorProfileID,
    .text "schema_snapshot_id" v.schemaSnapshotID, .text "schema_root" v.schemaRoot,
    .text "data_root" v.dataRoot, .text "next_snapshot_id" v.nextSnapshotID,
    .text "next_state_root" v.nextStateRoot, .text "next_manifest_root" v.nextManifestRoot,
    .nested "activation" v.activation.json]

def ExecutorProfileTransitionReceipt.json (v : ExecutorProfileTransitionReceipt) : Json :=
  object [.text "transition_root" v.transitionRoot, .text "replica_id" v.replicaID,
    .text "signature" v.signature]

def SnapshotArtifactReady.json (v : SnapshotArtifactReady) : Json :=
  object [.text "snapshot_id" v.snapshotID, .text "manifest_root" v.manifestRoot,
    .text "schema_root" v.schemaRoot, .text "artifact_set_root" v.artifactSetRoot,
    .text "publisher_id" v.publisherID, .text "retention_policy_id" v.retentionPolicyID]

def SnapshotArtifactReadySubmission.json (v : SnapshotArtifactReadySubmission) : Json :=
  object [.nested "record" v.record.json, .text "signature" v.signature]

/-! ## Canonical projections -/

/-- A part without its storage refs. -/
def canonicalPart (v : PartManifestEntry) : Json :=
  object [.text "table_id" v.tableID, .text "partition_id" v.partitionID,
    .text "part_name" v.partName, .text "part_phys_hash" v.partPhysHash,
    .text "part_row_lthash" v.partRowLtHash, .uint64 "row_count" v.rowCount,
    .uint64 "bytes" v.bytes]

/-- A table of a manifest; its lists are arrays. -/
def canonicalTable (v : TableManifest) : Json :=
  object [.text "table_id" v.tableID, .text "schema_hash" v.schemaHash,
    .nested "partition_roots" (.arr (v.partitionRoots.elems.map PartitionCommitment.json)),
    .nested "active_parts" (.arr (v.activeParts.elems.map canonicalPart))]

/-- A manifest without its track frontiers. -/
def canonicalManifest (v : SafeSnapshotManifest) : Json :=
  object [.text "snapshot_id" v.snapshotID, .text "parent_snapshot_id" v.parentSnapshotID,
    .uint64 "safe_block_seq" v.safeBlockSeq, .text "state_root" v.stateRoot,
    .text "schema_snapshot_id" v.schemaSnapshotID, .text "schema_root" v.schemaRoot,
    .text "executor_profile_id" v.executorProfileID, .text "data_root" v.dataRoot,
    .text "manifest_root" v.manifestRoot,
    .nested "tables" (.arr (v.tables.elems.map canonicalTable))]

/-- A receipt with canonical parts. -/
def canonicalReceipt (v : SnapshotQueryReceipt) : Json :=
  object [.uint64 "block_seq" v.blockSeq, .text "statement_root" v.statementRoot,
    .text "input_root" v.inputRoot, .text "read_set_root" v.readSetRoot,
    .nested "read_snapshot" v.readSnapshot.json, .text "schema_snapshot_id" v.schemaSnapshotID,
    .text "executor_profile_id" v.executorProfileID, .text "query_profile_id" v.queryProfileID,
    .text "reservation_id" v.reservationID, .uint64 "fencing_generation" v.fencingGeneration,
    .text "execution_outcome" v.executionOutcome, .text "abort_record_root" v.abortRecordRoot,
    .uint64 "output_row_count" v.outputRowCount, .text "output_rows_root" v.outputRowsRoot,
    .text "source_claim_root" v.sourceClaimRoot, .text "computed_state_root" v.computedStateRoot,
    .flag "match_source_root" v.matchSourceRoot,
    .list "partition_commitments_after" PartitionCommitment.json v.partitionCommitmentsAfter,
    .nested "affected_parts" (.arr (v.affectedParts.elems.map canonicalPart)),
    .text "replay_log_hash" v.replayLogHash]

/-- An attestation with a canonical receipt. -/
def canonicalAttestation (v : SnapshotQueryAttestation) : Json :=
  object [.text "replica_id" v.replicaID, .nested "receipt" (canonicalReceipt v.receipt),
    .text "receipt_hash" v.receiptHash, .text "signature" v.signature]

/-! ## Actions -/

def ArtifactDispositionPolicyV1.json (v : ArtifactDispositionPolicyV1) : Json :=
  object [.text "policy_id" v.policyID, .text "kind" v.kind,
    .list "administrator_addresses" str v.administratorAddresses]

def ArtifactDispositionOriginV1.json (v : ArtifactDispositionOriginV1) : Json :=
  object [.text "kind" v.kind, .text "parent_snapshot_id" v.parentSnapshotID,
    .uint64 "safe_block_seq" v.safeBlockSeq, .text "activation_id" v.activationID,
    .text "transition_root" v.transitionRoot, .text "client_account" v.clientAccount,
    .text "statement_id" v.statementID, .text "request_id" v.requestID,
    .text "reservation_id" v.reservationID, .uint64 "fencing_generation" v.fencingGeneration,
    .uint64 "block_seq" v.blockSeq, .uint64 "statement_seq" v.statementSeq,
    .text "statement_root" v.statementRoot, .text "input_root" v.inputRoot,
    .text "user_jws_hash" v.userJWSHash, .text "execution_outcome" v.executionOutcome,
    .uint64 "candidate_seq" v.candidateSeq]

def ArtifactDispositionUseV1.json (v : ArtifactDispositionUseV1) : Json :=
  object [.text "reference_id" v.referenceID, .nested "pin" v.pin.json,
    .text "principal_id" v.principalID, .nested "origin" v.origin.json,
    .uint64 "continuation_obligation_seq" v.continuationObligationSeq]

def ArtifactDispositionRetirementTargetV1.json (v : ArtifactDispositionRetirementTargetV1) : Json :=
  object [.nested "pin" v.pin.json, .text "retention_policy_id" v.retentionPolicyID]

/-- The JSON of the action of a field. -/
def DispositionField.json : (f : DispositionField) → f.Payload → Json
  | .bindPolicy, v => object [.nested "policy" v.policy.json]
  | .registerCandidate, v =>
    object [.nested "pin" v.pin.json, .nested "manifest" (canonicalManifest v.manifest),
      .text "publisher_id" v.publisherID, .text "retention_policy_id" v.retentionPolicyID,
      .text "publication_reference_id" v.publicationReferenceID, .nested "origin" v.origin.json]
  | .recordReady, v =>
    object [.uint64 "candidate_seq" v.candidateSeq, .nested "submission" v.submission.json]
  | .publishCandidate, v =>
    object [.uint64 "candidate_seq" v.candidateSeq, .nested "manifest" (canonicalManifest v.manifest),
      .nested "transition" v.transition.json,
      .list "transition_receipts" ExecutorProfileTransitionReceipt.json v.transitionReceipts]
  | .cancelCandidate, v =>
    object [.uint64 "candidate_seq" v.candidateSeq, .text "reason_code" v.reasonCode]
  | .beginRetirement, v => v.json
  | .finishRetirement, v => v.json
  | .admitUse, v => object [.nested "use" v.use.json]
  | .closeUse, v =>
    object [.nested "use" v.use.json, .uint64 "expected_registry_revision" v.expectedRegistryRevision]
  | .openChallenge, v =>
    object [.nested "pin" v.pin.json, .nested "origin" v.origin.json,
      .nested "attestation" (canonicalAttestation v.attestation), .nested "replay_use" v.replayUse.json]
  | .resolveObligation, v => object [.uint64 "obligation_seq" v.obligationSeq]
  | .grantReservation, v =>
    object [.text "client_account" v.clientAccount, .text "statement_id" v.statementID,
      .text "control_binding_digest" v.controlBindingDigest]

/-- The oneof object of the action that is set. -/
def ArtifactDispositionActionV1.json (v : ArtifactDispositionActionV1) : Json :=
  (DispositionField.all.findSome? fun f => (v f).map fun p => object [.nested f.name (f.json p)]).getD .null

def ArtifactDispositionCommandV1.json (v : ArtifactDispositionCommandV1) : Json :=
  object [.uint32 "version" v.version, .text "network_id" v.networkID,
    .uint32 "keeper_shard_id" v.keeperShardID, .text "actor_id" v.actorID, .text "request_id" v.requestID,
    .uint64 "expected_revision" v.expectedRevision, .nested "action" (ArtifactDispositionActionV1.json v.action)]

/-! ## Nil arrays -/

/-- The fields of records that the JSON leaves out. -/
def canonicalProjectionOmits : List (String × String) :=
  [("PartManifestEntry", "StorageRefs"), ("SafeSnapshotManifest", "TrackFrontiers")]

/-- The fields of records that the JSON makes arrays. -/
def canonicalProjectionMaterializes : List (String × String) :=
  [("SafeSnapshotManifest", "Tables"), ("TableManifest", "PartitionRoots"), ("TableManifest", "ActiveParts")]

/-- An array that the walk over a command comes to, in a field of a record. -/
structure WalkedArray where
  (record field elem : String)
  isNil : Bool

def WalkedArray.refused (a : WalkedArray) : Bool :=
  a.isNil ∧ (a.record, a.field) ∉ canonicalProjectionOmits ++ canonicalProjectionMaterializes

def PartManifestEntry.arrays (v : PartManifestEntry) : List WalkedArray :=
  [⟨"PartManifestEntry", "StorageRefs", "string", v.storageRefs.isNone⟩]

def TableManifest.arrays (v : TableManifest) : List WalkedArray :=
  ⟨"TableManifest", "PartitionRoots", "replay.PartitionCommitment", v.partitionRoots.isNone⟩ ::
  ⟨"TableManifest", "ActiveParts", "replay.PartManifestEntry", v.activeParts.isNone⟩ ::
    v.activeParts.elems.flatMap PartManifestEntry.arrays

def SafeSnapshotManifest.arrays (v : SafeSnapshotManifest) : List WalkedArray :=
  ⟨"SafeSnapshotManifest", "Tables", "replay.TableManifest", v.tables.isNone⟩ ::
    v.tables.elems.flatMap TableManifest.arrays ++
  [⟨"SafeSnapshotManifest", "TrackFrontiers", "replay.TrackFrontier", v.trackFrontiers.isNone⟩]

def SnapshotQueryReceipt.arrays (v : SnapshotQueryReceipt) : List WalkedArray :=
  ⟨"SnapshotQueryReceipt", "PartitionCommitmentsAfter", "replay.PartitionCommitment",
    v.partitionCommitmentsAfter.isNone⟩ ::
  ⟨"SnapshotQueryReceipt", "AffectedParts", "replay.PartManifestEntry", v.affectedParts.isNone⟩ ::
    v.affectedParts.elems.flatMap PartManifestEntry.arrays

def DispositionField.arrays : (f : DispositionField) → f.Payload → List WalkedArray
  | .bindPolicy, v => [⟨"ArtifactDispositionPolicyV1", "AdministratorAddresses", "string",
      v.policy.administratorAddresses.isNone⟩]
  | .registerCandidate, v => v.manifest.arrays
  | .publishCandidate, v => v.manifest.arrays ++ [⟨"ArtifactDispositionPublishCandidateV1",
      "TransitionReceipts", "replay.ExecutorProfileTransitionReceipt", v.transitionReceipts.isNone⟩]
  | .openChallenge, v => v.attestation.receipt.arrays
  | _, _ => []

def rejectNilSlices (v : ArtifactDispositionActionV1) : Except String Unit :=
  DispositionField.all.forM fun f => ((v f).elim [] f.arrays).forM fun a =>
    refuseIf a.refused s!"array []{a.elem} must be non-nil"

/-! ## Roots -/

def artifactDispositionCommandDomain : String := "artifact-disposition-command-v1"

/-- What the root of a command does before it hashes. -/
def checkArtifactDispositionCommand (command : ArtifactDispositionCommandV1) : Except String Unit := do
  requireSingleDispositionAction command.action
  wrapError "wire: artifact disposition canonical command" (rejectNilSlices command.action)

def artifactDispositionCommandRoot (digest : Authority.Digest) (command : ArtifactDispositionCommandV1) :
    Except String String := do
  checkArtifactDispositionCommand command
  return digest artifactDispositionCommandDomain command.json

end ArbiterCore.Wire
