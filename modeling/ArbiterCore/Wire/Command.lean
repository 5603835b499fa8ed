-- SUMMARY: The union of commands, its encoding as a log entry and the decoding with its strict check.
import ArbiterCore.Wire.ConvertCommands
import ArbiterCore.Wire.ConvertDisposition

/-!
# Log entries

`encode` writes the command that is set as a `RaftCommand`, and `decode` reads
one back. Before protobuf decodes an entry, `validateCommandBytes` walks over its
bytes and refuses what decoding would drop or overwrite.
-/

namespace ArbiterCore.Wire

open GoSlice (Slice)
open Proto MsgType

/-! ## The strict check -/

section Validate

variable {M : Type} (S : Schema M)

/-- The wire type of a field that is not packed. -/
def expectedType (fd : FieldDescriptor M) : WireType :=
  match fd.kind with
  | .num k => k.wireType
  | .text | .bytes | .message _ => .bytes

/-- The fields of a message that are left, with the numbers that were seen and the occurrences that
    were counted; `fuel` is the number of bytes. -/
def validateFields : Nat → M → List Nat → Nat → Bytes → Except String Nat
  | _, _, _, count, [] => .ok count
  | 0, _, _, _, _ :: _ => .error "wire: invalid field tag"
  | fuel + 1, ty, seen, count, b :: bs =>
    match consumeTag (b :: bs) with
    | none => .error "wire: invalid field tag"
    | some (num, typ, rest) =>
      match S.findNumber ty num with
      | none => .error s!"wire: unknown {S.fullName ty} field {num}"
      | some fd =>
        -- protobuf permits both packed and unpacked lists of numbers
        let packed := fd.list && expectedType fd != .bytes && typ == .bytes
        if typ != expectedType fd && !packed then
          .error s!"wire: wrong wire type for {S.fullName ty} field {num}"
        else if seen.contains num && !fd.list then
          .error s!"wire: duplicate field {num}"
        else
          match consumeFieldValue typ rest with
          | none => .error s!"wire: invalid field {num}"
          | some (p, rest) =>
            match fd.kind, p with
            | .message sub, .bytes nested =>
              match validateFields fuel sub [] 0 nested with
              | .error e => .error e
              | .ok _ => validateFields fuel ty (num :: seen) (count + 1) rest
            | .message _, _ => .error s!"wire: invalid message field {num}"
            | _, _ => validateFields fuel ty (num :: seen) (count + 1) rest

def validateCommandBytes (b : Bytes) (ty : M) (union : Bool) : Except String Unit :=
  match validateFields S b.length ty [] 0 b with
  | .error e => .error e
  | .ok count =>
    if union && count != 1 then .error s!"wire: exactly one command must be present, got {count}" else .ok ()

end Validate

/-! ## The commands -/

/-- Refuses a signature in the request-only copy of a command's payload. -/
def errRequestOnly (field carrier : String) : String :=
  s!"wire: {field} is request-only; the Raft command carries it in {carrier}"

namespace CommandField

def name : CommandField → String
  | .submitStatement => "submit_statement"
  | .sealL3Block => "seal_l3_block"
  | .markReplaying => "mark_replaying"
  | .registerRC => "register_rc"
  | .recordAttestation => "record_attestation"
  | .recordByteSideScan => "record_byte_side_scan"
  | .recordAnchorFinality => "record_anchor_finality"
  | .recordPromotionIssued => "record_promotion_issued"
  | .recordPromotionAck => "record_promotion_ack"
  | .publishSafeSnapshot => "publish_safe_snapshot"
  | .scheduleUnsafeCleanup => "schedule_unsafe_cleanup"
  | .recordCleanupAck => "record_cleanup_ack"
  | .openChallenge => "open_challenge"
  | .resolveChallenge => "resolve_challenge"
  | .registerNode => "register_node"
  | .markActive => "mark_active"
  | .evictNode => "evict_node"
  | .updateConsensusParams => "update_consensus_params"
  | .beginSnapshotQuery => "begin_snapshot_query"
  | .grantSnapshotQuery => "grant_snapshot_query"
  | .releaseSnapshotQuery => "release_snapshot_query"
  | .submitSnapshotQuery => "submit_snapshot_query"
  | .abortSnapshotQuery => "abort_snapshot_query"
  | .activateQueryProfile => "activate_query_profile"
  | .recordSnapshotQueryClaim => "record_snapshot_query_claim"
  | .recordSnapshotQueryAttestation => "record_snapshot_query_attestation"
  | .publishExecutorProfileTransition => "publish_executor_profile_transition"
  | .recordSnapshotArtifactReady => "record_snapshot_artifact_ready"
  | .artifactDisposition => "artifact_disposition"
  | .seedLegacyTables => "seed_legacy_tables"
  | .addTable => "add_table"
  | .retireTables => "retire_tables"
  | .advanceL2Cursor => "advance_l2_cursor"
  | .recordTablePurged => "record_table_purged"
  | .quarantineIndexer => "quarantine_indexer"
  | .releaseIndexer => "release_indexer"
  | .rebalanceGroup => "rebalance_group"
  | .reselectVerifiers => "reselect_verifiers"
  | .memberReady => "member_ready"
  | .memberCheckpoint => "member_checkpoint"
  | .markMemberLagging => "mark_member_lagging"

def msgType : CommandField → MsgType
  | .submitStatement => .submitStatementCmd
  | .sealL3Block => .sealL3BlockCmd
  | .markReplaying => .markReplayingCmd
  | .registerRC => .registerRCCmd
  | .recordAttestation => .recordAttestationCmd
  | .recordByteSideScan => .recordByteSideScanCmd
  | .recordAnchorFinality => .recordAnchorFinalityCmd
  | .recordPromotionIssued => .recordPromotionIssuedCmd
  | .recordPromotionAck => .recordPromotionAckCmd
  | .publishSafeSnapshot => .publishSafeSnapshotCmd
  | .scheduleUnsafeCleanup => .scheduleUnsafeCleanupCmd
  | .recordCleanupAck => .recordCleanupAckCmd
  | .openChallenge => .openChallengeCmd
  | .resolveChallenge => .resolveChallengeCmd
  | .registerNode => .registerNodeCmd
  | .markActive => .markActiveCmd
  | .evictNode => .evictNodeCmd
  | .updateConsensusParams => .updateConsensusParamsCmd
  | .beginSnapshotQuery => .beginSnapshotQueryCmd
  | .grantSnapshotQuery => .grantSnapshotQueryCmd
  | .releaseSnapshotQuery => .releaseSnapshotQueryCmd
  | .submitSnapshotQuery => .submitSnapshotQueryCmd
  | .abortSnapshotQuery => .abortSnapshotQueryCmd
  | .activateQueryProfile => .activateQueryProfileCmd
  | .recordSnapshotQueryClaim => .recordSnapshotQueryClaimCmd
  | .recordSnapshotQueryAttestation => .recordSnapshotQueryAttestationCmd
  | .publishExecutorProfileTransition => .publishExecutorProfileTransitionCmd
  | .recordSnapshotArtifactReady => .recordSnapshotArtifactReadyCmd
  | .artifactDisposition => .artifactDispositionCmd
  | .seedLegacyTables => .seedLegacyTablesCmd
  | .addTable => .addTableCmd
  | .retireTables => .retireTablesCmd
  | .advanceL2Cursor => .advanceL2CursorCmd
  | .recordTablePurged => .recordTablePurgedCmd
  | .quarantineIndexer => .quarantineIndexerCmd
  | .releaseIndexer => .releaseIndexerCmd
  | .rebalanceGroup => .rebalanceGroupCmd
  | .reselectVerifiers => .reselectVerifiersCmd
  | .memberReady => .memberReadyCmd
  | .memberCheckpoint => .memberCheckpointCmd
  | .markMemberLagging => .markMemberLaggingCmd

def toPB : (f : CommandField) → f.Payload → PB f.msgType
  | .submitStatement => submitStatementToPB
  | .sealL3Block => sealL3BlockToPB
  | .markReplaying => markReplayingToPB
  | .registerRC => registerRCToPB
  | .recordAttestation => recordAttestationToPB
  | .recordByteSideScan => recordByteSideScanToPB
  | .recordAnchorFinality => recordAnchorFinalityToPB
  | .recordPromotionIssued => recordPromotionIssuedToPB
  | .recordPromotionAck => recordPromotionAckToPB
  | .publishSafeSnapshot => publishSafeSnapshotToPB
  | .scheduleUnsafeCleanup => scheduleUnsafeCleanupToPB
  | .recordCleanupAck => recordCleanupAckToPB
  | .openChallenge => openChallengeToPB
  | .resolveChallenge => resolveChallengeToPB
  | .registerNode => registerNodeToPB
  | .markActive => markActiveToPB
  | .evictNode => evictNodeToPB
  | .updateConsensusParams => updateConsensusParamsToPB
  | .beginSnapshotQuery => beginSnapshotQueryToPB
  | .grantSnapshotQuery => grantSnapshotQueryToPB
  | .releaseSnapshotQuery => releaseSnapshotQueryToPB
  | .submitSnapshotQuery => submitSnapshotQueryToPB
  | .abortSnapshotQuery => abortSnapshotQueryToPB
  | .activateQueryProfile => activateQueryProfileToPB
  | .recordSnapshotQueryClaim => recordSnapshotQueryClaimToPB
  | .recordSnapshotQueryAttestation => recordSnapshotQueryAttestationToPB
  | .publishExecutorProfileTransition => publishExecutorProfileTransitionToPB
  | .recordSnapshotArtifactReady => recordSnapshotArtifactReadyToPB
  | .artifactDisposition => artifactDispositionCmdToPB
  | .seedLegacyTables => seedLegacyTablesToPB
  | .addTable => addTableToPB
  | .retireTables => retireTablesToPB
  | .advanceL2Cursor => advanceL2CursorToPB
  | .recordTablePurged => recordTablePurgedToRequest
  | .quarantineIndexer => quarantineIndexerToRequest
  | .releaseIndexer => releaseIndexerToRequest
  | .rebalanceGroup => rebalanceGroupToRequest
  | .reselectVerifiers => reselectVerifiersToRequest
  | .memberReady => memberReadyToRequest
  | .memberCheckpoint => memberCheckpointToRequest
  | .markMemberLagging => markMemberLaggingToRequest

/-- What `encode` refuses of a command. -/
def check : (f : CommandField) → f.Payload → Except String Unit
  | .artifactDisposition, v => requireSingleDispositionAction v.command.action
  | _, _ => .ok ()

def fromPB : (f : CommandField) → PB f.msgType → Except String f.Payload
  | .submitStatement, m => .ok (submitStatementFromPB m)
  | .sealL3Block, m => .ok (sealL3BlockFromPB m)
  | .markReplaying, m => .ok (markReplayingFromPB m)
  | .registerRC, m =>
    if (m.msg "rc" : PB rcRecord).text "source_jws" ≠ "" then
      .error (errRequestOnly "RCRecord.source_jws" "RegisterRCCmd.source_jws")
    else .ok (registerRCFromPB m)
  | .recordAttestation, m => .ok (recordAttestationFromPB m)
  | .recordByteSideScan, m => .ok (recordByteSideScanFromPB m)
  | .recordAnchorFinality, m => .ok (recordAnchorFinalityFromPB m)
  | .recordPromotionIssued, m => .ok (recordPromotionIssuedFromPB m)
  | .recordPromotionAck, m =>
    if (m.msg "ack" : PB promotionAck).text "source_jws" ≠ "" then
      .error (errRequestOnly "PromotionAck.source_jws" "RecordPromotionAckCmd.source_jws")
    else .ok (recordPromotionAckFromPB m)
  | .publishSafeSnapshot, m => .ok (publishSafeSnapshotFromPB m)
  | .scheduleUnsafeCleanup, m => .ok (scheduleUnsafeCleanupFromPB m)
  | .recordCleanupAck, m =>
    if (m.msg "ack" : PB cleanupAck).text "source_jws" ≠ "" then
      .error (errRequestOnly "CleanupAck.source_jws" "RecordCleanupAckCmd.source_jws")
    else .ok (recordCleanupAckFromPB m)
  | .openChallenge, m => .ok (openChallengeFromPB m)
  | .resolveChallenge, m => .ok (resolveChallengeFromPB m)
  | .registerNode, m =>
    let reg : PB nodeRegistration := m.msg "registration"
    if (reg.texts "features").elems ≠ [] then
      .error "wire: NodeRegistration.features is request-only and never part of a RaftCommand"
    else if reg.text "signer_jws" ≠ "" ∨ reg.text "ed25519_signature" ≠ "" then
      .error (errRequestOnly "NodeRegistration.signer_jws / ed25519_signature"
        "RegisterNodeCmd.signer_jws / ed25519_signature")
    else .ok (registerNodeFromPB m)
  | .markActive, m => .ok (markActiveFromPB m)
  | .evictNode, m => .ok (evictNodeFromPB m)
  | .updateConsensusParams, m => .ok (updateConsensusParamsFromPB m)
  | .beginSnapshotQuery, m => .ok (beginSnapshotQueryFromPB m)
  | .grantSnapshotQuery, m => .ok (grantSnapshotQueryFromPB m)
  | .releaseSnapshotQuery, m => .ok (releaseSnapshotQueryFromPB m)
  | .submitSnapshotQuery, m => .ok (submitSnapshotQueryFromPB m)
  | .abortSnapshotQuery, m => .ok (abortSnapshotQueryFromPB m)
  | .activateQueryProfile, m => .ok (activateQueryProfileFromPB m)
  | .recordSnapshotQueryClaim, m => .ok (recordSnapshotQueryClaimFromPB m)
  | .recordSnapshotQueryAttestation, m => .ok (recordSnapshotQueryAttestationFromPB m)
  | .publishExecutorProfileTransition, m => .ok (publishExecutorProfileTransitionFromPB m)
  | .recordSnapshotArtifactReady, m => .ok (recordSnapshotArtifactReadyFromPB m)
  | .artifactDisposition, m => do
    let v := artifactDispositionCmdFromPB (some m)
    requireSingleDispositionAction v.command.action
    return v
  | .seedLegacyTables, m => .ok (seedLegacyTablesFromPB m)
  | .addTable, m => .ok (addTableFromPB m)
  | .retireTables, m => .ok (retireTablesFromPB m)
  | .advanceL2Cursor, m => .ok (advanceL2CursorFromPB m)
  | .recordTablePurged, m => .ok (recordTablePurgedFromRequest m)
  | .quarantineIndexer, m => .ok (quarantineIndexerFromRequest m)
  | .releaseIndexer, m => .ok (releaseIndexerFromRequest m)
  | .rebalanceGroup, m => .ok (rebalanceGroupFromRequest m)
  | .reselectVerifiers, m => .ok (reselectVerifiersFromRequest m)
  | .memberReady, m => .ok (memberReadyFromRequest m)
  | .memberCheckpoint, m => memberCheckpointFromRequest m
  | .markMemberLagging, m => .ok (markMemberLaggingFromRequest m)

/-- The form of a command after the wire. -/
def canon : (f : CommandField) → f.Payload → f.Payload
  | .submitStatement, v => v.canon
  | .registerRC, v => v.canon
  | .recordAttestation, v => v.canon
  | .recordByteSideScan, v => v.canon
  | .recordPromotionIssued, v => v.canon
  | .recordPromotionAck, v => v.canon
  | .publishSafeSnapshot, v => v.canon
  | .scheduleUnsafeCleanup, v => v.canon
  | .registerNode, v => v.canon
  | .updateConsensusParams, v => v.canon
  | .submitSnapshotQuery, v => v.canon
  | .recordSnapshotQueryClaim, v => v.canon
  | .recordSnapshotQueryAttestation, v => v.canon
  | .publishExecutorProfileTransition, v => v.canon
  | .artifactDisposition, v => v.canon
  | .seedLegacyTables, v => v.canon
  | .retireTables, v => v.canon
  | .releaseIndexer, v => v.canon
  | .rebalanceGroup, v => v.canon
  | .reselectVerifiers, v => v.canon
  | .memberCheckpoint, v => v.canon
  | _, v => v

/-- The command of a message. -/
def ofName (name : String) : Option CommandField := all.find? (·.name = name)

end CommandField

/-! ## Encoding -/

/-- Visits the fields of the command: counts those that are set and keeps the last. -/
def encodeFields (c : Command) :
    List CommandField → Nat → Option (Piece MsgType) → Except String (Nat × Option (Piece MsgType))
  | [], set, out => .ok (set, out)
  | f :: fs, set, out =>
    match c f with
    | none => encodeFields c fs set out
    | some x =>
      match f.check x with
      | .error e => .error e
      | .ok _ => encodeFields c fs (set + 1) (some (.msg f.name (f.toPB x)))

def encode (D : Descriptors) (c : Command) : Except String Bytes :=
  match encodeFields c CommandField.all 0 none with
  | .error e => .error e
  | .ok (set, out) =>
    if set != 1 then .error s!"wire: exactly one command must be set, got {set}"
    else .ok (marshal (schema D) .raftCommand (occsOf out.toList))

/-! ## Decoding -/

def decodeCommand (m : PB raftCommand) : Except String Command :=
  match m.arm with
  | none => .error "wire: RaftCommand has no command set"
  | some (name, content) =>
    match CommandField.ofName name with
    | none => .error "wire: RaftCommand has no command set"
    | some f =>
      match f.fromPB ⟨content⟩ with
      | .error e => .error e
      | .ok x => .ok (.only f x)

def decode (D : Descriptors) (b : Bytes) : Except String Command :=
  match validateCommandBytes (schema D) b .raftCommand true with
  | .error e => .error e
  | .ok _ =>
    match unmarshal (schema D) .raftCommand b with
    | none => .error "wire: unmarshal RaftCommand"
    | some m => decodeCommand ⟨m⟩

end ArbiterCore.Wire
