-- SUMMARY: The converters between records and messages for statements, claims, promotions and manifests.
import ArbiterCore.Wire.Records
import ArbiterCore.Wire.Schema

/-!
# Converters

For each record the converter to its message and the one back. `canon` is the
form of a record after the wire: the lists of these records decode to nil when
they are empty. Of every pair it is proved that decoding gives the canonical
form, and that the message conforms to its type without the fields of requests.
-/

namespace ArbiterCore.Wire

open GoSlice (Slice)
open Proto MsgType

variable {D : Descriptors}

/-- The messages of a converter are fit, and the one back reads the canonical form from them. -/
abbrev Converts {α : Type} {ty : MsgType} (toPB : α → PB ty) (fromPB : PB ty → α) (canon : α → α) : Prop :=
  ∀ v, (∀ D, Fits D (toPB v)) ∧ fromPB (toPB v) = canon v

/-- A converter writes the fields of its type in their order, with fit messages in them. -/
theorem converts {α : Type} {ty : MsgType} {pieces : α → List (Piece MsgType)} {fromPB : PB ty → α}
    {canon : α → α}
    (hspec : ∀ v, ((pieces v).map Piece.spec).isSublist ((logFields ty).map (·.spec)) = true)
    (hbuild : ∀ v, (∀ D, ∀ p ∈ pieces v, p.Nested (logSchema D)) ∧ fromPB (build (pieces v)) = canon v) :
    Converts (fun v => build (pieces v)) fromPB canon :=
  fun v => ⟨fun D => fits_build (hspec v) ((hbuild v).1 D), (hbuild v).2⟩

/-! ## Slices -/

/-- The legacy conversion of a list: an empty one becomes nil. -/
def mapSlice {α β : Type} (f : α → β) (s : Slice α) : Slice β := .ofList (s.elems.map f)

/-- The conversion of a list of a snapshot query: an empty one stays empty. -/
def snapshotMap {α β : Type} (f : α → β) (s : Slice α) : Slice β := some (s.elems.map f)

def snapshotClone {α : Type} (s : Slice α) : Slice α := some s.elems

/-- Copies bytes; empty ones become nil. -/
def cloneBytes (b : Slice UInt8) : Slice UInt8 := b.nilIfEmpty

section Slices

variable {α β γ : Type} (f : α → β) (g : β → γ) (s : Slice α)

-- not a simp lemma: reading a list back needs the whole slice
theorem elems_mapSlice : (mapSlice f s).elems = s.elems.map f := by
  simp [mapSlice]

@[simp] theorem mem_mapSlice {f : α → β} {s : Slice α} {y : β} :
    y ∈ (mapSlice f s).elems ↔ ∃ x ∈ s.elems, f x = y := by
  simp [mapSlice]

@[simp] theorem mem_snapshotMap {f : α → β} {s : Slice α} {y : β} :
    y ∈ (snapshotMap f s).elems ↔ ∃ x ∈ s.elems, f x = y := by
  simp [snapshotMap]

@[simp] theorem mapSlice_id : mapSlice (fun x => x) s = s.nilIfEmpty := by
  simp [mapSlice]

@[simp] theorem snapshotMap_id : snapshotMap (fun x => x) s = snapshotClone s := by
  simp [snapshotMap, snapshotClone]

@[simp] theorem mapSlice_decoded : mapSlice g (mapSlice f s).nilIfEmpty = mapSlice (fun x => g (f x)) s := by
  simp [mapSlice, Function.comp_def]

@[simp] theorem snapshotMap_decoded :
    snapshotMap g (snapshotMap f s).nilIfEmpty = snapshotMap (fun x => g (f x)) s := by
  simp [snapshotMap, Function.comp_def]

@[simp] theorem snapshotClone_decoded : snapshotClone (snapshotClone s).nilIfEmpty = snapshotClone s := by
  simp [snapshotClone]

@[simp] theorem cloneBytes_decoded (b : Slice UInt8) :
    cloneBytes (cloneBytes b).nilIfEmpty = b.nilIfEmpty := by
  simp [cloneBytes]

end Slices

/-! ## Statements, claims and promotions -/

def statementIDToPB (v : StatementID) : PB statementID :=
  build [.text "client_account" v.clientAccount, .uint64 "client_seq" v.clientSeq,
    .text "client_nonce" v.clientNonce, .text "client_lane" v.clientLane]

def statementIDFromPB (m : PB statementID) : StatementID :=
  ⟨m.text "client_account", m.uint64 "client_seq", m.text "client_nonce", m.text "client_lane"⟩

@[simp] theorem statementIDToPB_spec : Converts statementIDToPB statementIDFromPB id :=
  converts (fun _ => rfl) (by simp [statementIDFromPB])

def envelopeToPB (v : StatementEnvelope) : PB statementEnvelopeV2 :=
  build [.msg "statement_id" (statementIDToPB v.statementID),
    .enum "statement_kind" v.statementKind, .text "sql" v.sql, .text "sql_hash" v.sqlHash,
    .text "settings_hash" v.settingsHash, .text "payload_ref" v.payloadRef,
    .text "payload_hash" v.payloadHash, .uint64 "payload_length" v.payloadLength,
    .text "target_table_id" v.targetTableID, .text "user_jws" v.userJWS,
    .uint32 "envelope_version" v.envelopeVersion, .text "network_id" v.networkID,
    .uint32 "keeper_shard_id" v.keeperShardID, .text "payload_format" v.payloadFormat,
    .uint32 "client_revision" v.clientRevision, .text "schema_hash" v.schemaHash,
    .text "row_id_profile_id" v.rowIDProfileID]

def envelopeFromPB (m : PB statementEnvelopeV2) : StatementEnvelope :=
  ⟨statementIDFromPB (m.msg "statement_id"), m.enum "statement_kind", m.text "sql",
    m.text "sql_hash", m.text "settings_hash", m.text "payload_ref", m.text "payload_hash",
    m.uint64 "payload_length", m.text "target_table_id", m.text "user_jws",
    m.uint32 "envelope_version", m.text "network_id", m.uint32 "keeper_shard_id",
    m.text "payload_format", m.uint32 "client_revision", m.text "schema_hash",
    m.text "row_id_profile_id"⟩

@[simp] theorem envelopeToPB_spec : Converts envelopeToPB envelopeFromPB id :=
  converts (fun _ => rfl) (by simp [envelopeFromPB])

def candidatePartToPB (v : CandidatePart) : PB MsgType.candidatePart :=
  build [.text "table_id" v.tableID, .text "partition_id" v.partitionID,
    .text "part_name" v.partName, .text "part_row_lthash" v.partRowLtHash,
    .text "part_phys_hash" v.partPhysHash, .uint64 "row_count" v.rowCount,
    .uint64 "bytes" v.bytes]

def candidatePartFromPB (m : PB MsgType.candidatePart) : CandidatePart :=
  ⟨m.text "table_id", m.text "partition_id", m.text "part_name", m.text "part_row_lthash",
    m.text "part_phys_hash", m.uint64 "row_count", m.uint64 "bytes"⟩

@[simp] theorem candidatePartToPB_spec : Converts candidatePartToPB candidatePartFromPB id :=
  converts (fun _ => rfl) (by simp [candidatePartFromPB])

def partitionLtHashSumToPB (v : PartitionLtHashSum) : PB partitionLtHashSum :=
  build [.text "table_id" v.tableID, .text "partition_id" v.partitionID,
    .text "new_parts_lthash_sum" v.newPartsLtHashSum]

def partitionSumFromPB (m : PB partitionLtHashSum) : PartitionLtHashSum :=
  ⟨m.text "table_id", m.text "partition_id", m.text "new_parts_lthash_sum"⟩

@[simp] theorem partitionLtHashSumToPB_spec : Converts partitionLtHashSumToPB partitionSumFromPB id :=
  converts (fun _ => rfl) (by simp [partitionSumFromPB])

def rcToPB (v : RCRecord) : PB rcRecord :=
  build [.msg "statement_id" (statementIDToPB v.statementID), .text "source_node" v.sourceNode,
    .msgs "candidate_parts" (mapSlice candidatePartToPB v.candidateParts),
    .text "source_claim_root" v.sourceClaimRoot,
    .msgs "partition_new_part_sums" (mapSlice partitionLtHashSumToPB v.partitionNewPartSums)]

def rcFromPB (m : PB rcRecord) : RCRecord :=
  ⟨statementIDFromPB (m.msg "statement_id"), m.text "source_node",
    mapSlice candidatePartFromPB (m.msgs "candidate_parts"), m.text "source_claim_root",
    mapSlice partitionSumFromPB (m.msgs "partition_new_part_sums")⟩

def RCRecord.canon (v : RCRecord) : RCRecord :=
  { v with
    candidateParts := v.candidateParts.nilIfEmpty
    partitionNewPartSums := v.partitionNewPartSums.nilIfEmpty }

@[simp] theorem rcToPB_spec : Converts rcToPB rcFromPB RCRecord.canon :=
  converts (fun _ => rfl) (by simp [rcFromPB, RCRecord.canon])

def partScanToPB (v : PartScan) : PB MsgType.partScan :=
  build [.text "table_id" v.tableID, .text "partition_id" v.partitionID,
    .text "claimed_part_row_lthash" v.claimedPartRowLtHash,
    .text "scanned_part_row_lthash" v.scannedPartRowLtHash, .text "live_part_name" v.livePartName]

def partScanFromPB (m : PB MsgType.partScan) : PartScan :=
  ⟨m.text "table_id", m.text "partition_id", m.text "claimed_part_row_lthash",
    m.text "scanned_part_row_lthash", m.text "live_part_name"⟩

@[simp] theorem partScanToPB_spec : Converts partScanToPB partScanFromPB id :=
  converts (fun _ => rfl) (by simp [partScanFromPB])

def scanToPB (v : ByteSideScanMsg) : PB byteSideScanMsg :=
  build [.text "replica_id" v.replicaID, .uint64 "block_seq" v.blockSeq,
    .msgs "parts" (mapSlice partScanToPB v.parts), .text "scan_hash" v.scanHash,
    .text "signature" v.signature]

def scanFromPB (m : PB byteSideScanMsg) : ByteSideScanMsg :=
  ⟨m.text "replica_id", m.uint64 "block_seq", mapSlice partScanFromPB (m.msgs "parts"),
    m.text "scan_hash", m.text "signature"⟩

def ByteSideScanMsg.canon (v : ByteSideScanMsg) : ByteSideScanMsg :=
  { v with parts := v.parts.nilIfEmpty }

@[simp] theorem scanToPB_spec : Converts scanToPB scanFromPB ByteSideScanMsg.canon :=
  converts (fun _ => rfl) (by simp [scanFromPB, ByteSideScanMsg.canon])

def anchorRefToPB (v : AnchorRef) : PB anchorRef :=
  build [.text "l3_block_hash" v.l3BlockHash, .text "state_root" v.stateRoot,
    .text "l2_tx_ref" v.l2TxRef, .uint64 "l2_block_number" v.l2BlockNumber,
    .text "da_ref" v.daRef]

def anchorRefFromPB (m : PB anchorRef) : AnchorRef :=
  ⟨m.text "l3_block_hash", m.text "state_root", m.text "l2_tx_ref", m.uint64 "l2_block_number",
    m.text "da_ref"⟩

@[simp] theorem anchorRefToPB_spec : Converts anchorRefToPB anchorRefFromPB id :=
  converts (fun _ => rfl) (by simp [anchorRefFromPB])

def registrationToPB (v : NodeRegistration) : PB nodeRegistration :=
  build [.text "node_id" v.nodeID, .enums "roles" (mapSlice id v.roles),
    .bytes "ed25519_pubkey" v.ed25519Pubkey, .text "dial_addr" v.dialAddr,
    .uint64 "registration_seq" v.registrationSeq]

def registrationFromPB (m : PB nodeRegistration) : NodeRegistration :=
  ⟨m.text "node_id", mapSlice id (m.enums "roles"), m.bytes "ed25519_pubkey", m.text "dial_addr",
    m.uint64 "registration_seq"⟩

def NodeRegistration.canon (v : NodeRegistration) : NodeRegistration :=
  { v with
    roles := v.roles.nilIfEmpty
    ed25519Pubkey := v.ed25519Pubkey.nilIfEmpty }

@[simp] theorem registrationToPB_spec : Converts registrationToPB registrationFromPB NodeRegistration.canon :=
  converts (fun _ => rfl) (by simp [registrationFromPB, NodeRegistration.canon])

def partRefToPB (v : PartRef) : PB partRef :=
  build [.text "table_id" v.tableID, .text "partition_id" v.partitionID,
    .text "part_row_lthash" v.partRowLtHash, .text "part_name" v.partName]

def partRefFromPB (m : PB partRef) : PartRef :=
  ⟨m.text "table_id", m.text "partition_id", m.text "part_row_lthash", m.text "part_name"⟩

@[simp] theorem partRefToPB_spec : Converts partRefToPB partRefFromPB id :=
  converts (fun _ => rfl) (by simp [partRefFromPB])

@[simp] def partRefsFromPB (ms : Slice (PB partRef)) : Slice PartRef := mapSlice partRefFromPB ms

def promoteToPB (v : PromoteSafePartition) : PB promoteSafePartition :=
  build [.text "table_id" v.tableID, .text "partition_id" v.partitionID,
    .uint64 "promotion_seq" v.promotionSeq, .text "base_safe_snapshot_id" v.baseSafeSnapshotID,
    .text "base_partition_root" v.basePartitionRoot,
    .msgs "candidate_parts" (mapSlice partRefToPB v.candidateParts)]

def promoteFromPB (m : PB promoteSafePartition) : PromoteSafePartition :=
  ⟨m.text "table_id", m.text "partition_id", m.uint64 "promotion_seq",
    m.text "base_safe_snapshot_id", m.text "base_partition_root",
    partRefsFromPB (m.msgs "candidate_parts")⟩

def PromoteSafePartition.canon (v : PromoteSafePartition) : PromoteSafePartition :=
  { v with candidateParts := v.candidateParts.nilIfEmpty }

@[simp] theorem promoteToPB_spec : Converts promoteToPB promoteFromPB PromoteSafePartition.canon :=
  converts (fun _ => rfl) (by simp [promoteFromPB, PromoteSafePartition.canon])

def cleanupToPB (v : UnsafeCleanup) : PB unsafeCleanup :=
  build [.text "table_id" v.tableID, .text "partition_id" v.partitionID,
    .uint64 "promotion_seq" v.promotionSeq, .msgs "parts" (mapSlice partRefToPB v.parts),
    .uint64 "rejected_block_seq" v.rejectedBlockSeq]

def cleanupFromPB (m : PB unsafeCleanup) : UnsafeCleanup :=
  ⟨m.text "table_id", m.text "partition_id", m.uint64 "promotion_seq",
    partRefsFromPB (m.msgs "parts"), m.uint64 "rejected_block_seq"⟩

def UnsafeCleanup.canon (v : UnsafeCleanup) : UnsafeCleanup :=
  { v with parts := v.parts.nilIfEmpty }

@[simp] theorem cleanupToPB_spec : Converts cleanupToPB cleanupFromPB UnsafeCleanup.canon :=
  converts (fun _ => rfl) (by simp [cleanupFromPB, UnsafeCleanup.canon])

def safePartMappingToPB (v : SafePartMapping) : PB safePartMapping :=
  build [.text "part_row_lthash" v.partRowLtHash, .text "safe_part_name" v.safePartName,
    .text "part_phys_hash" v.partPhysHash]

def safePartMappingFromPB (m : PB safePartMapping) : SafePartMapping :=
  ⟨m.text "part_row_lthash", m.text "safe_part_name", m.text "part_phys_hash"⟩

@[simp] theorem safePartMappingToPB_spec : Converts safePartMappingToPB safePartMappingFromPB id :=
  converts (fun _ => rfl) (by simp [safePartMappingFromPB])

def promotionAckToPB (v : PromotionAck) : PB promotionAck :=
  build [.text "node_id" v.nodeID, .uint64 "promotion_seq" v.promotionSeq,
    .text "table_id" v.tableID, .text "partition_id" v.partitionID,
    .text "post_partition_commitment" v.postPartitionCommitment,
    .msgs "parts" (mapSlice safePartMappingToPB v.parts),
    .msgs "safe_partition_parts" (mapSlice safePartMappingToPB v.safePartitionParts),
    .bool "applied" v.applied, .text "detail" v.detail]

def promotionAckFromPB (m : PB promotionAck) : PromotionAck :=
  ⟨m.text "node_id", m.uint64 "promotion_seq", m.text "table_id", m.text "partition_id",
    m.text "post_partition_commitment", mapSlice safePartMappingFromPB (m.msgs "parts"),
    mapSlice safePartMappingFromPB (m.msgs "safe_partition_parts"), m.bool "applied",
    m.text "detail"⟩

def PromotionAck.canon (v : PromotionAck) : PromotionAck :=
  { v with
    parts := v.parts.nilIfEmpty
    safePartitionParts := v.safePartitionParts.nilIfEmpty }

@[simp] theorem promotionAckToPB_spec : Converts promotionAckToPB promotionAckFromPB PromotionAck.canon :=
  converts (fun _ => rfl) (by simp [promotionAckFromPB, PromotionAck.canon])

def cleanupAckToPB (v : CleanupAck) : PB cleanupAck :=
  build [.text "node_id" v.nodeID, .uint64 "promotion_seq" v.promotionSeq,
    .text "table_id" v.tableID, .text "partition_id" v.partitionID,
    .uint64 "rejected_block_seq" v.rejectedBlockSeq]

def cleanupAckFromPB (m : PB cleanupAck) : CleanupAck :=
  ⟨m.text "node_id", m.uint64 "promotion_seq", m.text "table_id", m.text "partition_id",
    m.uint64 "rejected_block_seq"⟩

@[simp] theorem cleanupAckToPB_spec : Converts cleanupAckToPB cleanupAckFromPB id :=
  converts (fun _ => rfl) (by simp [cleanupAckFromPB])

def partitionCommitmentToPB (v : PartitionCommitment) : PB partitionCommitment :=
  build [.text "table_id" v.tableID, .text "partition_id" v.partitionID, .text "root" v.root]

def partitionCommitmentFromPB (m : PB partitionCommitment) : PartitionCommitment :=
  ⟨m.text "table_id", m.text "partition_id", m.text "root"⟩

@[simp] theorem partitionCommitmentToPB_spec :
    Converts partitionCommitmentToPB partitionCommitmentFromPB id :=
  converts (fun _ => rfl) (by simp [partitionCommitmentFromPB])

def partManifestEntryToPB (v : PartManifestEntry) : PB partManifestEntry :=
  build [.text "table_id" v.tableID, .text "partition_id" v.partitionID,
    .text "part_name" v.partName, .text "part_phys_hash" v.partPhysHash,
    .text "part_row_lthash" v.partRowLtHash, .uint64 "row_count" v.rowCount,
    .uint64 "bytes" v.bytes, .texts "storage_refs" v.storageRefs]

def partManifestEntryFromPB (m : PB partManifestEntry) : PartManifestEntry :=
  ⟨m.text "table_id", m.text "partition_id", m.text "part_name", m.text "part_phys_hash",
    m.text "part_row_lthash", m.uint64 "row_count", m.uint64 "bytes",
    (m.texts "storage_refs").nilIfEmpty⟩

def PartManifestEntry.canon (v : PartManifestEntry) : PartManifestEntry :=
  { v with storageRefs := v.storageRefs.nilIfEmpty }

@[simp] theorem partManifestEntryToPB_spec :
    Converts partManifestEntryToPB partManifestEntryFromPB PartManifestEntry.canon :=
  converts (fun _ => rfl) (by simp [partManifestEntryFromPB, PartManifestEntry.canon])

def receiptToPB (v : ExecutionReceipt) : PB executionReceipt :=
  build [.uint64 "block_seq" v.blockSeq, .text "prev_safe_snapshot_id" v.prevSafeSnapshotID,
    .text "prev_state_root" v.prevStateRoot, .text "schema_snapshot_id" v.schemaSnapshotID,
    .text "executor_profile_id" v.executorProfileID, .text "statement_root" v.statementRoot,
    .text "payload_root" v.payloadRoot, .text "source_claim_root" v.sourceClaimRoot,
    .text "computed_state_root" v.computedStateRoot, .bool "match_source_root" v.matchSourceRoot,
    .msgs "partition_commitments_after" (mapSlice partitionCommitmentToPB v.partitionCommitmentsAfter),
    .msgs "affected_parts" (mapSlice partManifestEntryToPB v.affectedParts),
    .text "replay_log_hash" v.replayLogHash]

def receiptFromPB (m : PB executionReceipt) : ExecutionReceipt :=
  ⟨m.uint64 "block_seq", m.text "prev_safe_snapshot_id", m.text "prev_state_root",
    m.text "schema_snapshot_id", m.text "executor_profile_id", m.text "statement_root",
    m.text "payload_root", m.text "source_claim_root", m.text "computed_state_root",
    m.bool "match_source_root",
    mapSlice partitionCommitmentFromPB (m.msgs "partition_commitments_after"),
    mapSlice partManifestEntryFromPB (m.msgs "affected_parts"), m.text "replay_log_hash"⟩

def ExecutionReceipt.canon (v : ExecutionReceipt) : ExecutionReceipt :=
  { v with
    partitionCommitmentsAfter := v.partitionCommitmentsAfter.nilIfEmpty
    affectedParts := mapSlice PartManifestEntry.canon v.affectedParts }

@[simp] theorem receiptToPB_spec : Converts receiptToPB receiptFromPB ExecutionReceipt.canon :=
  converts (fun _ => rfl) (by simp [receiptFromPB, ExecutionReceipt.canon])

def attestationToPB (v : ReplayAttestation) : PB replayAttestation :=
  build [.text "replica_id" v.replicaID, .msg "receipt" (receiptToPB v.receipt),
    .text "receipt_hash" v.receiptHash, .text "signature" v.signature,
    .bool "match_source_root" v.matchSourceRoot]

def attestationFromPB (m : PB replayAttestation) : ReplayAttestation :=
  ⟨m.text "replica_id", receiptFromPB (m.msg "receipt"), m.text "receipt_hash", m.text "signature",
    m.bool "match_source_root"⟩

def ReplayAttestation.canon (v : ReplayAttestation) : ReplayAttestation :=
  { v with receipt := v.receipt.canon }

@[simp] theorem attestationToPB_spec : Converts attestationToPB attestationFromPB ReplayAttestation.canon :=
  converts (fun _ => rfl) (by simp [attestationFromPB, ReplayAttestation.canon])

def tableManifestToPB (v : TableManifest) : PB tableManifest :=
  build [.text "table_id" v.tableID, .text "schema_hash" v.schemaHash,
    .msgs "partition_roots" (mapSlice partitionCommitmentToPB v.partitionRoots),
    .msgs "active_parts" (mapSlice partManifestEntryToPB v.activeParts)]

def tableManifestFromPB (m : PB tableManifest) : TableManifest :=
  ⟨m.text "table_id", m.text "schema_hash",
    mapSlice partitionCommitmentFromPB (m.msgs "partition_roots"),
    mapSlice partManifestEntryFromPB (m.msgs "active_parts")⟩

def TableManifest.canon (v : TableManifest) : TableManifest :=
  { v with
    partitionRoots := v.partitionRoots.nilIfEmpty
    activeParts := mapSlice PartManifestEntry.canon v.activeParts }

@[simp] theorem tableManifestToPB_spec : Converts tableManifestToPB tableManifestFromPB TableManifest.canon :=
  converts (fun _ => rfl) (by simp [tableManifestFromPB, TableManifest.canon])

def trackFrontierToPB (v : TrackFrontier) : PB trackFrontier :=
  build [.uint64 "indexer_id" v.indexerID, .uint64 "safe_block_seq" v.safeBlockSeq,
    .uint64 "applied_promotion_seq" v.appliedPromotionSeq]

def trackFrontierFromPB (m : PB trackFrontier) : TrackFrontier :=
  ⟨m.uint64 "indexer_id", m.uint64 "safe_block_seq", m.uint64 "applied_promotion_seq"⟩

@[simp] theorem trackFrontierToPB_spec : Converts trackFrontierToPB trackFrontierFromPB id :=
  converts (fun _ => rfl) (by simp [trackFrontierFromPB])

def manifestToPB (v : SafeSnapshotManifest) : PB safeSnapshotManifest :=
  build [.text "snapshot_id" v.snapshotID, .text "parent_snapshot_id" v.parentSnapshotID,
    .uint64 "safe_block_seq" v.safeBlockSeq, .text "state_root" v.stateRoot,
    .text "schema_snapshot_id" v.schemaSnapshotID, .text "schema_root" v.schemaRoot,
    .text "executor_profile_id" v.executorProfileID, .text "data_root" v.dataRoot,
    .text "manifest_root" v.manifestRoot, .msgs "tables" (mapSlice tableManifestToPB v.tables),
    .msgs "track_frontiers" (mapSlice trackFrontierToPB v.trackFrontiers)]

def manifestFromPB (m : PB safeSnapshotManifest) : SafeSnapshotManifest :=
  ⟨m.text "snapshot_id", m.text "parent_snapshot_id", m.uint64 "safe_block_seq",
    m.text "state_root", m.text "schema_snapshot_id", m.text "schema_root",
    m.text "executor_profile_id", m.text "data_root", m.text "manifest_root",
    mapSlice tableManifestFromPB (m.msgs "tables"),
    mapSlice trackFrontierFromPB (m.msgs "track_frontiers")⟩

def SafeSnapshotManifest.canon (v : SafeSnapshotManifest) : SafeSnapshotManifest :=
  { v with
    tables := mapSlice TableManifest.canon v.tables
    trackFrontiers := v.trackFrontiers.nilIfEmpty }

@[simp] theorem manifestToPB_spec : Converts manifestToPB manifestFromPB SafeSnapshotManifest.canon :=
  converts (fun _ => rfl) (by simp [manifestFromPB, SafeSnapshotManifest.canon])

end ArbiterCore.Wire
