-- SUMMARY: The hash of every signed command, statement and message (authority, types.go, wire/stage3.go).
import ArbiterCore.Authority.Normalize

/-!
# Command hashes

For each family `canonical…` is what its hash function does before it hashes:
the checks that one value carries by itself, and the canonical form. The hash is
the digest of the JSON of that form under the domain of the family.
-/

namespace ArbiterCore.Authority

open GoSlice (Slice)
open Wire Json Text

/-- `replay.CanonicalDigest`: the digest of a JSON value under a domain. -/
abbrev Digest := String → Json → String

/-- A digest without collisions, whose text has no capital letter. -/
structure CanonicalDigest where
  hash : Digest
  injective : Function.Injective2 hash
  small : ∀ domain j, IsSmall (hash domain j)

/-- The number of a domain and a value, in decimal: such digests exist. -/
def CanonicalDigest.counted : CanonicalDigest where
  hash domain j := toString (Encodable.encode (code domain :: j.tokens))
  injective := by
    intro domain domain' j j' h
    have hlist := Encodable.encode_injective (Text.toString_inj h)
    obtain ⟨hdomain, hj⟩ := List.cons.inj hlist
    exact ⟨code_inj hdomain, tokens_inj hj⟩
  small := by
    intro domain j c hc
    rw [Text.toList_toString] at hc
    have hdigit := Nat.isDigit_of_mem_toDigits (by omega) (by omega) hc
    simp only [Char.isDigit, Bool.and_eq_true, decide_eq_true_eq] at hdigit
    refine ⟨lt_of_le_of_lt (UInt32.le_iff_toNat_le.mp hdigit.2) (by decide), ?_⟩
    delta Char.toLower
    rw [dif_neg]
    intro hcap
    exact absurd (UInt32.le_trans hcap.1 hdigit.2) (by decide)

/-- The digest of a canonical form, unless a check failed. -/
def digestOf {α : Type} (digest : Digest) (domain : String) (json : α → Json) (canonical : Except String α) :
    Except String String :=
  canonical.map fun v => digest domain (json v)

theorem digestOf_eq_ok {α : Type} {digest : Digest} {domain : String} {json : α → Json}
    {canonical : Except String α} {h : String} :
    digestOf digest domain json canonical = .ok h ↔ ∃ v, canonical = .ok v ∧ digest domain (json v) = h := by
  cases canonical <;> simp [digestOf, Except.map]

variable [Unicode]

/-! ## Promotions, cleanups and scans -/

def promoteCommandDomain : String := "arbiter-promote-command-v1"

def cleanupCommandDomain : String := "arbiter-cleanup-command-v1"

def domainByteSideScan : String := "arbiter-byte-side-scan-v1"

variable (digest : Digest)

/-- The lists of a promotion are hashed as given. -/
def promoteCommandHash (cmd : PromoteSafePartition) : Except String String :=
  digestOf digest promoteCommandDomain PromoteSafePartition.json (.ok cmd)

def cleanupCommandHash (cmd : UnsafeCleanup) : Except String String :=
  digestOf digest cleanupCommandDomain UnsafeCleanup.json (.ok cmd)

/-- The hash and sign form of a scan: an empty list of parts is nil. -/
def scanBody (m : ByteSideScanMsg) : ByteSideScanBody :=
  ⟨m.replicaID, m.blockSeq, m.parts.nilIfEmpty⟩

def scanHash (m : ByteSideScanMsg) : Except String String :=
  digestOf digest domainByteSideScan ByteSideScanBody.json (.ok (scanBody m))

/-! ## Consensus parameters -/

def consensusParamsUpdateDomain : String := "arbiter-consensus-params-update-command-v1"

def consensusParamsUpdateHash (cmd : ConsensusParamsUpdate) : Except String String :=
  digestOf digest consensusParamsUpdateDomain ConsensusParamsUpdate.json (normalizeConsensusParamsUpdate cmd)

/-! ## Evictions, quarantines, releases and settles -/

def evictNodeCommandDomain : String := "arbiter-evict-node-command-v1"

def quarantineIndexerCommandDomain : String := "arbiter-quarantine-indexer-command-v1"

def releaseIndexerCommandDomain : String := "arbiter-release-indexer-command-v1"

def settleTrackCommandDomain : String := "arbiter-settle-track-command-v1"

def canonicalEvictNode (cmd : EvictNodeCommand) : Except String EvictNodeCommand := do
  refuseIf (isBlank cmd.nodeID ∨ isBlank cmd.reason) "evict node: node ID and reason must be non-empty"
  return cmd

def evictNodeHash (cmd : EvictNodeCommand) : Except String String :=
  digestOf digest evictNodeCommandDomain EvictNodeCommand.json (canonicalEvictNode cmd)

def canonicalQuarantineIndexer (cmd : QuarantineIndexerCommand) : Except String QuarantineIndexerCommand := do
  refuseIf (isBlank cmd.reason) "quarantine indexer: reason must be non-empty"
  return cmd

def quarantineIndexerHash (cmd : QuarantineIndexerCommand) : Except String String :=
  digestOf digest quarantineIndexerCommandDomain QuarantineIndexerCommand.json (canonicalQuarantineIndexer cmd)

/-- Every element is below the next. -/
def ascending : List UInt64 → Bool
  | a :: b :: rest => a < b && ascending (b :: rest)
  | _ => true

def canonicalReleaseIndexer (cmd : ReleaseIndexerCommand) : Except String ReleaseIndexerCommand := do
  refuseIf (¬ascending cmd.acknowledgedRejectedBlocks.elems)
    (s!"release indexer {cmd.indexerID}: " ++
      "acknowledged_rejected_blocks must be sorted ascending without duplicates")
  return cmd.trim

def releaseIndexerHash (cmd : ReleaseIndexerCommand) : Except String String :=
  digestOf digest releaseIndexerCommandDomain ReleaseIndexerCommand.json (canonicalReleaseIndexer cmd)

def canonicalSettleTrack (cmd : SettleTrackCommand) : Except String SettleTrackCommand := do
  refuseIf (cmd.promotionSeqs.elems = [] ∨ ¬ascending cmd.promotionSeqs.elems)
    "settle track: promotion_seqs must be non-empty and strictly ascending"
  return cmd

def settleTrackHash (cmd : SettleTrackCommand) : Except String String :=
  digestOf digest settleTrackCommandDomain SettleTrackCommand.json (canonicalSettleTrack cmd)

/-! ## Groups -/

def rebalanceGroupCommandDomain : String := "arbiter-rebalance-group-command-v1"

def reselectVerifiersCommandDomain : String := "arbiter-reselect-verifiers-command-v1"

def markMemberLaggingCommandDomain : String := "arbiter-mark-member-lagging-command-v1"

def groupMemberConsentDomain : String := "arbiter-group-member-statement-v1"

/-- The keys are ascending without duplicates. -/
def sortedUniqueBy {α : Type} (key : α → String) : List α → Bool
  | a :: b :: rest => key a < key b && sortedUniqueBy key (b :: rest)
  | _ => true

def sortedUnique (ids : List String) : Bool := sortedUniqueBy (fun id => id) ids

def canonicalRebalanceGroup (cmd : RebalanceGroupCommand) : Except String RebalanceGroupCommand := do
  refuseIf (isBlank cmd.databaseID) "rebalance group: database_id must be non-empty"
  refuseIf (¬sortedUnique cmd.add.elems ∨ ¬sortedUnique cmd.remove.elems ∨
      ∃ n ∈ cmd.add.elems, n ∈ cmd.remove.elems)
    ("rebalance group: add and remove must each be sorted ascending without duplicates " ++
      "and share no node")
  return cmd.trim

def rebalanceGroupHash (cmd : RebalanceGroupCommand) : Except String String :=
  digestOf digest rebalanceGroupCommandDomain RebalanceGroupCommand.json (canonicalRebalanceGroup cmd)

def canonicalReselectVerifiers (cmd : ReselectVerifiersCommand) : Except String ReselectVerifiersCommand := do
  refuseIf (cmd.expectedSet.elems.length ≠ 3 ∨ ¬sortedUnique cmd.expectedSet.elems ∨
      ∃ n ∈ cmd.expectedSet.elems, isBlank n)
    "reselect verifiers: expected_set must be three sorted, unique node ids"
  return cmd

def reselectVerifiersHash (cmd : ReselectVerifiersCommand) : Except String String :=
  digestOf digest reselectVerifiersCommandDomain ReselectVerifiersCommand.json (canonicalReselectVerifiers cmd)

def canonicalMarkMemberLagging (cmd : MarkMemberLaggingCommand) : Except String MarkMemberLaggingCommand := do
  refuseIf (isBlank cmd.nodeID ∨ isBlank cmd.databaseID)
    "mark member lagging: node_id and database_id must be non-empty"
  refuseIf (cmd.observedEntry.indexerID ≠ cmd.ownerIndexerID)
    (s!"mark member lagging: observed_entry.indexer_id {cmd.observedEntry.indexerID} " ++
      s!"must equal owner_indexer_id {cmd.ownerIndexerID}")
  return cmd

def markMemberLaggingHash (cmd : MarkMemberLaggingCommand) : Except String String :=
  digestOf digest markMemberLaggingCommandDomain MarkMemberLaggingCommand.json (canonicalMarkMemberLagging cmd)

variable (ctx : MessageContext)

def MessageContext.validate : Except String Unit :=
  refuseIf (isBlank ctx.networkID ∨ isBlank ctx.genesisSnapshotID)
    "message context: network ID and genesis snapshot ID must be non-empty"

/-- The replica signer is hashed in lowercase. -/
def canonicalGroupMemberConsent (stmt : GroupMemberConsentStatement) :
    Except String GroupMemberConsentStatement := do
  wrapError "group member consent" (MessageContext.mk stmt.networkID stmt.genesisSnapshotID).validate
  refuseIf (isBlank stmt.nodeID ∨ isBlank stmt.replicaSigner ∨
      stmt.ed25519Pubkey.elems.length ≠ ed25519PublicKeySize)
    "group member consent: node ID and replica signer must be non-empty and the ed25519 key 32 bytes"
  return { stmt with replicaSigner := lower stmt.replicaSigner }

def groupMemberConsentHash (stmt : GroupMemberConsentStatement) : Except String String :=
  digestOf digest groupMemberConsentDomain GroupMemberConsentStatement.json (canonicalGroupMemberConsent stmt)

/-! ## Messages of SNodes and verifiers -/

def snodeEnrollmentDomain : String := "arbiter-snode-enrollment-statement-v1"

def snodeMessageDomain : String := "arbiter-snode-message-body-v1"

def verifierMessageDomain : String := "arbiter-verifier-message-body-v1"

def canonicalSNodeEnrollment (stmt : SNodeEnrollmentStatement) : Except String SNodeEnrollmentStatement := do
  wrapError "snode enrollment" (MessageContext.mk stmt.networkID stmt.genesisSnapshotID).validate
  refuseIf (isBlank stmt.sNodeNodeID) "snode enrollment: snode node ID must be non-empty"
  return stmt

def snodeEnrollmentHash (stmt : SNodeEnrollmentStatement) : Except String String :=
  digestOf digest snodeEnrollmentDomain SNodeEnrollmentStatement.json (canonicalSNodeEnrollment stmt)

/-- A body as the functions take it: of any type, but only these are signed. -/
inductive MessageBody where
  | registration (r : NodeRegistration)
  | markActive (b : MarkActiveBody)
  | resultClaim (rc : RCRecord)
  | promotionAck (ack : PromotionAck)
  | cleanupAck (ack : CleanupAck)
  | tablePurged (b : TablePurgedBody)
  | other (typeName : String)

/-- `%T` -/
def MessageBody.typeName : MessageBody → String
  | .registration _ => "arbiter.NodeRegistration"
  | .markActive _ => "authority.MarkActiveBody"
  | .resultClaim _ => "arbiter.RCRecord"
  | .promotionAck _ => "arbiter.PromotionAck"
  | .cleanupAck _ => "arbiter.CleanupAck"
  | .tablePurged _ => "authority.TablePurgedBody"
  | .other name => name

/-- The JSON of a body; a body of another type is refused before it is hashed. -/
def MessageBody.json : MessageBody → Json
  | .registration r => r.json
  | .markActive b => b.json
  | .resultClaim rc => rc.json
  | .promotionAck ack => ack.json
  | .cleanupAck ack => ack.json
  | .tablePurged b => b.json
  | .other _ => .null

def canonicalRegistration (r : NodeRegistration) : NodeRegistration :=
  { r with roles := r.roles.nilIfEmpty, ed25519Pubkey := r.ed25519Pubkey.nilIfEmpty }

/-! For each kind the one type of body it takes, with the body as the arbiter
decodes it: every empty list is nil. -/

def registrationBody : MessageBody → Option MessageBody
  | .registration r => some (.registration (canonicalRegistration r))
  | _ => none

def markActiveBody : MessageBody → Option MessageBody
  | .markActive b => some (.markActive b)
  | _ => none

def resultClaimBody : MessageBody → Option MessageBody
  | .resultClaim rc => some (.resultClaim { rc with
      candidateParts := rc.candidateParts.nilIfEmpty
      partitionNewPartSums := rc.partitionNewPartSums.nilIfEmpty })
  | _ => none

def promotionAckBody : MessageBody → Option MessageBody
  | .promotionAck ack => some (.promotionAck { ack with
      parts := ack.parts.nilIfEmpty
      safePartitionParts := ack.safePartitionParts.nilIfEmpty })
  | _ => none

def cleanupAckBody : MessageBody → Option MessageBody
  | .cleanupAck ack => some (.cleanupAck ack)
  | _ => none

def tablePurgedBody : MessageBody → Option MessageBody
  | .tablePurged b => some (.tablePurged b)
  | _ => none

/-- The kinds of messages of a sender, with their bodies. -/
abbrev MessageKinds := List (String × (MessageBody → Option MessageBody))

def snodeMessageKinds : MessageKinds :=
  [("registration", registrationBody), ("mark_active", markActiveBody), ("result_claim", resultClaimBody),
    ("promotion_ack", promotionAckBody), ("cleanup_ack", cleanupAckBody), ("table_purged", tablePurgedBody)]

def verifierMessageKinds : MessageKinds :=
  [("registration", registrationBody), ("mark_active", markActiveBody), ("table_purged", tablePurgedBody)]

def canonicalBody (sender : String) (kinds : MessageKinds) (kind : String) (body : MessageBody) :
    Except String MessageBody :=
  match kinds.lookup kind with
  | none => throw s!"{sender} message: unknown kind {quoted kind}"
  | some canonical =>
    match canonical body with
    | none => throw s!"{sender} message: kind {quoted kind} does not take a {body.typeName} body"
    | some body => pure body

def canonicalSNodeBody (kind : String) (body : MessageBody) : Except String MessageBody :=
  canonicalBody "snode" snodeMessageKinds kind body

def canonicalVerifierBody (kind : String) (body : MessageBody) : Except String MessageBody :=
  canonicalBody "verifier" verifierMessageKinds kind body

/-- A message: its kind, its context and its body. -/
structure Message where
  kind : String
  context : MessageContext
  body : MessageBody

variable (m : Message) (p : ActiveQueryPolicy) (r : SnapshotQueryAbortRecord)

/-- `messagePreimage` -/
def Message.json : Json :=
  object [.text "kind" m.kind, .nested "context" m.context.json, .nested "body" m.body.json]

/-- What a message hash does before it hashes, with the canonical form of bodies. -/
def canonicalMessage (canonicalBody : String → MessageBody → Except String MessageBody) (m : Message) :
    Except String Message := do
  let body ← canonicalBody m.kind m.body
  m.context.validate
  return { m with body := body }

def snodeMessageHash : Except String String :=
  digestOf digest snodeMessageDomain Message.json (canonicalMessage canonicalSNodeBody m)

def verifierMessageHash : Except String String :=
  digestOf digest verifierMessageDomain Message.json (canonicalMessage canonicalVerifierBody m)

/-! ## Messages of members -/

def memberReadyDomain : String := "arbiter-member-ready-v1"

def memberCheckpointDomain : String := "arbiter-member-checkpoint-body-v1"

/-- `memberMessagePreimage` -/
def memberMessageJSON (context : MessageContext) (body : Json) : Json :=
  object [.nested "context" context.json, .nested "body" body]

def canonicalMemberReady (body : MemberReadyBody) : Except String MemberReadyBody := do
  refuseIf (isBlank body.nodeID ∨ isBlank body.databaseID ∨ body.generation < 1)
    "member ready: node_id and database_id must be non-empty and generation at least 1"
  wrapError "member ready" ctx.validate
  return body

def memberReadyHash (body : MemberReadyBody) : Except String String :=
  digestOf digest memberReadyDomain (fun body => memberMessageJSON ctx body.json) (canonicalMemberReady ctx body)

def knownExclusionReason (r : CheckpointExclusionReason) : Bool :=
  r ∈ ["not_installed", "diverged", "foreign", "disk_threshold", "audit_pending", "retiring"]

def canonicalCheckpointGroup (g : CheckpointGroup) : Except String CheckpointGroup := do
  refuseIf (¬sortedUniqueBy ExcludedTable.tableID g.excluded.elems ∨
      ∃ e ∈ g.excluded.elems, ¬knownExclusionReason e.reason)
    (s!"member checkpoint: group {g.databaseID}: " ++
      "excluded must be sorted by table_id without duplicates and name a known reason")
  return g.trim

def canonicalMemberCheckpoint (cp : MemberCheckpointBody) :
    Except String MemberCheckpointBody := do
  refuseIf (cp.checkpointSeq < 1 ∨ isBlank cp.snapshotID)
    "member checkpoint: checkpoint_seq must be at least 1 and snapshot_id non-empty"
  refuseIf (cp.entry.indexerID ≠ cp.ownerIndexerID)
    (s!"member checkpoint: entry.indexer_id {cp.entry.indexerID} " ++
      s!"must equal owner_indexer_id {cp.ownerIndexerID}")
  refuseIf (cp.groups.elems = [] ∨ ¬sortedUniqueBy CheckpointGroup.databaseID cp.groups.elems)
    "member checkpoint: groups must be non-empty and sorted by database_id without duplicates"
  let groups ← cp.groups.elems.mapM canonicalCheckpointGroup
  wrapError "member checkpoint" ctx.validate
  return { cp with groups := some groups }

def memberCheckpointHash (cp : MemberCheckpointBody) : Except String String :=
  digestOf digest memberCheckpointDomain (fun cp => memberMessageJSON ctx cp.json) (canonicalMemberCheckpoint ctx cp)

/-! ## Snapshot queries -/

def snapshotQueryAbortCommandDomain : String := "arbiter-snapshot-query-abort-command-v1"

def queryProfileActivationCommandDomain : String := "arbiter-query-profile-activation-command-v1"

def hasNUL (s : String) : Bool := s.toList.any (· = '\x00')

def validateSnapshotQueryAbortRecord : Except String Unit := do
  refuseIf (r.blockSeq = 0 ∨ r.fencingGeneration = 0)
    "snapshot query abort: block_seq and fencing_generation must be positive"
  [("statement_id", r.statementID), ("input_root", r.inputRoot), ("reservation_id", r.reservationID),
    ("reason_code", r.reasonCode), ("prev_snapshot_id", r.prevSnapshotID),
    ("next_snapshot_id", r.nextSnapshotID)].forM fun f =>
      refuseIf (isBlank f.2 ∨ hasNUL f.2) s!"snapshot query abort: {f.1} must be non-empty and NUL-free"
  refuseIf (hasNUL r.cleanupAuthorizationRoot)
    "snapshot query abort: cleanup_authorization_root must be NUL-free"
  refuseIf (r.prevSnapshotID = r.nextSnapshotID)
    "snapshot query abort: next_snapshot_id must differ from prev_snapshot_id"

def canonicalSnapshotQueryAbort : Except String SnapshotQueryAbortRecord := do
  validateSnapshotQueryAbortRecord r
  return r

def snapshotQueryAbortHash : Except String String :=
  digestOf digest snapshotQueryAbortCommandDomain SnapshotQueryAbortRecord.json (canonicalSnapshotQueryAbort r)

def validateQueryProfileActivation : Except String Unit := do
  let checkField (name value : String) : Except String Unit :=
    refuseIf (isBlank value ∨ hasNUL value)
      s!"query profile activation: {name} must be non-empty and NUL-free"
  checkField "activation_id" p.activationID
  checkField "network_id" p.networkID
  refuseIf (p.keeperShardID ≠ 0) "query profile activation: keeper_shard_id must be zero"
  checkField "executor_profile_id" p.executorProfileID
  checkField "query_profile_id" p.queryProfileID
  refuseIf (!p.enabled) "query profile activation: enabled must be true"

def canonicalQueryProfileActivation : Except String ActiveQueryPolicy := do
  validateQueryProfileActivation p
  return p

def queryProfileActivationHash : Except String String :=
  digestOf digest queryProfileActivationCommandDomain ActiveQueryPolicy.json (canonicalQueryProfileActivation p)

end ArbiterCore.Authority

namespace ArbiterCore.Wire

open Authority

/-! ## Signing forms of the commands of the log -/

/-- Sorted ascending without duplicates, nil when there are none. -/
def sortedUnique (ids : GoSlice.Slice String) : GoSlice.Slice String := .ofList (GoSlice.sortCompact ids.elems)

def RebalanceGroup.canonical (c : RebalanceGroup) : RebalanceGroupCommand :=
  { ownerIndexerID := c.ownerIndexerID, databaseID := c.databaseID,
    expectedGeneration := c.expectedGeneration, add := sortedUnique c.add,
    remove := sortedUnique c.remove, networkFill := c.networkFill }

def ReselectVerifiers.canonical (c : ReselectVerifiers) : ReselectVerifiersCommand :=
  { l3BlockSeq := c.l3BlockSeq, expectedSet := sortedUnique c.expectedSet }

def MarkMemberLagging.canonical (c : MarkMemberLagging) : MarkMemberLaggingCommand :=
  { nodeID := c.nodeID, ownerIndexerID := c.ownerIndexerID, databaseID := c.databaseID,
    observedEntry := c.observedEntry }

def MemberReady.body (c : MemberReady) : MemberReadyBody :=
  { nodeID := c.nodeID, ownerIndexerID := c.ownerIndexerID, databaseID := c.databaseID,
    generation := c.generation }

end ArbiterCore.Wire
