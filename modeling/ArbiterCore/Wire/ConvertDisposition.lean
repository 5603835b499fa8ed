-- SUMMARY: The converters of artifact dispositions: the action, the command and its validation.
import ArbiterCore.Wire.ConvertSnapshotQuery

/-!
# Converters of artifact dispositions

The action is a union on both sides. The message keeps the first of the actions
that are set; a valid command sets one.
-/

namespace ArbiterCore.Wire

open GoSlice (Slice)
open Proto MsgType

variable {D : Descriptors}

def artifactDispositionPolicyToPB (v : ArtifactDispositionPolicyV1) : PB artifactDispositionPolicyV1 :=
  build [.text "policy_id" v.policyID, .text "kind" v.kind,
    .texts "administrator_addresses" (snapshotClone v.administratorAddresses)]

def artifactDispositionPolicyFromPB : Option (PB artifactDispositionPolicyV1) → ArtifactDispositionPolicyV1
  | none => default
  | some m =>
    ⟨m.text "policy_id", m.text "kind", snapshotClone (m.texts "administrator_addresses")⟩

def ArtifactDispositionPolicyV1.canon (v : ArtifactDispositionPolicyV1) : ArtifactDispositionPolicyV1 :=
  { v with administratorAddresses := snapshotClone v.administratorAddresses }

@[simp] theorem artifactDispositionPolicyToPB_spec :
    Converts artifactDispositionPolicyToPB (fun m => artifactDispositionPolicyFromPB (some m))
      ArtifactDispositionPolicyV1.canon :=
  converts (fun _ => rfl) (by simp [artifactDispositionPolicyFromPB, ArtifactDispositionPolicyV1.canon])

def artifactDispositionOriginToPB (v : ArtifactDispositionOriginV1) : PB artifactDispositionOriginV1 :=
  build [.text "kind" v.kind, .text "parent_snapshot_id" v.parentSnapshotID,
    .uint64 "safe_block_seq" v.safeBlockSeq, .text "activation_id" v.activationID,
    .text "transition_root" v.transitionRoot, .text "client_account" v.clientAccount,
    .text "statement_id" v.statementID, .text "request_id" v.requestID,
    .text "reservation_id" v.reservationID, .uint64 "fencing_generation" v.fencingGeneration,
    .uint64 "block_seq" v.blockSeq, .uint64 "statement_seq" v.statementSeq,
    .text "statement_root" v.statementRoot, .text "input_root" v.inputRoot,
    .text "user_jws_hash" v.userJWSHash, .text "execution_outcome" v.executionOutcome,
    .uint64 "candidate_seq" v.candidateSeq]

def artifactDispositionOriginFromPB : Option (PB artifactDispositionOriginV1) → ArtifactDispositionOriginV1
  | none => default
  | some m =>
    ⟨m.text "kind", m.text "parent_snapshot_id", m.uint64 "safe_block_seq", m.text "activation_id",
      m.text "transition_root", m.text "client_account", m.text "statement_id", m.text "request_id",
      m.text "reservation_id", m.uint64 "fencing_generation", m.uint64 "block_seq",
      m.uint64 "statement_seq", m.text "statement_root", m.text "input_root",
      m.text "user_jws_hash", m.text "execution_outcome", m.uint64 "candidate_seq"⟩

@[simp] theorem artifactDispositionOriginToPB_spec :
    Converts artifactDispositionOriginToPB (fun m => artifactDispositionOriginFromPB (some m)) id :=
  converts (fun _ => rfl) (by simp [artifactDispositionOriginFromPB])

def artifactDispositionUseToPB (v : ArtifactDispositionUseV1) : PB artifactDispositionUseV1 :=
  build [.text "reference_id" v.referenceID, .msg "pin" (snapshotPinToPB v.pin),
    .text "principal_id" v.principalID, .msg "origin" (artifactDispositionOriginToPB v.origin),
    .uint64 "continuation_obligation_seq" v.continuationObligationSeq]

def artifactDispositionUseFromPB : Option (PB artifactDispositionUseV1) → ArtifactDispositionUseV1
  | none => default
  | some m =>
    ⟨m.text "reference_id", snapshotPinFromPB (m.msg "pin"), m.text "principal_id",
      artifactDispositionOriginFromPB (m.optMsg "origin"), m.uint64 "continuation_obligation_seq"⟩

@[simp] theorem artifactDispositionUseToPB_spec :
    Converts artifactDispositionUseToPB (fun m => artifactDispositionUseFromPB (some m)) id :=
  converts (fun _ => rfl) (by simp [artifactDispositionUseFromPB])

def artifactDispositionRetirementTargetToPB (v : ArtifactDispositionRetirementTargetV1) :
    PB artifactDispositionRetirementTargetV1 :=
  build [.msg "pin" (snapshotPinToPB v.pin), .text "retention_policy_id" v.retentionPolicyID]

def artifactDispositionRetirementTargetFromPB :
    Option (PB artifactDispositionRetirementTargetV1) → ArtifactDispositionRetirementTargetV1
  | none => default
  | some m =>
    ⟨snapshotPinFromPB (m.msg "pin"), m.text "retention_policy_id"⟩

@[simp] theorem artifactDispositionRetirementTargetToPB_spec :
    Converts artifactDispositionRetirementTargetToPB (fun m => artifactDispositionRetirementTargetFromPB (some m)) id :=
  converts (fun _ => rfl) (by simp [artifactDispositionRetirementTargetFromPB])

def bindPolicyToPB (v : ArtifactDispositionBindPolicyV1) : PB artifactDispositionBindPolicyV1 :=
  build [.msg "policy" (artifactDispositionPolicyToPB v.policy)]

def bindPolicyFromPB (m : PB artifactDispositionBindPolicyV1) : ArtifactDispositionBindPolicyV1 :=
  ⟨artifactDispositionPolicyFromPB (m.optMsg "policy")⟩

def ArtifactDispositionBindPolicyV1.canon (v : ArtifactDispositionBindPolicyV1) : ArtifactDispositionBindPolicyV1 :=
  { v with policy := v.policy.canon }

@[simp] theorem bindPolicyToPB_spec :
    Converts bindPolicyToPB bindPolicyFromPB ArtifactDispositionBindPolicyV1.canon :=
  converts (fun _ => rfl) (by simp [bindPolicyFromPB, ArtifactDispositionBindPolicyV1.canon])

def registerCandidateToPB (v : ArtifactDispositionRegisterCandidateV1) : PB artifactDispositionRegisterCandidateV1 :=
  build [.msg "pin" (snapshotPinToPB v.pin), .msg "manifest" (manifestToPB v.manifest),
    .text "publisher_id" v.publisherID, .text "retention_policy_id" v.retentionPolicyID,
    .text "publication_reference_id" v.publicationReferenceID,
    .msg "origin" (artifactDispositionOriginToPB v.origin)]

def registerCandidateFromPB (m : PB artifactDispositionRegisterCandidateV1) : ArtifactDispositionRegisterCandidateV1 :=
  ⟨snapshotPinFromPB (m.msg "pin"), manifestFromPB (m.msg "manifest"), m.text "publisher_id",
    m.text "retention_policy_id", m.text "publication_reference_id",
    artifactDispositionOriginFromPB (m.optMsg "origin")⟩

def ArtifactDispositionRegisterCandidateV1.canon (v : ArtifactDispositionRegisterCandidateV1) :
    ArtifactDispositionRegisterCandidateV1 :=
  { v with manifest := v.manifest.canon }

@[simp] theorem registerCandidateToPB_spec :
    Converts registerCandidateToPB registerCandidateFromPB ArtifactDispositionRegisterCandidateV1.canon :=
  converts (fun _ => rfl) (by simp [registerCandidateFromPB, ArtifactDispositionRegisterCandidateV1.canon])

def recordReadyToPB (v : ArtifactDispositionRecordReadyV1) : PB artifactDispositionRecordReadyV1 :=
  build [.uint64 "candidate_seq" v.candidateSeq,
    .msg "submission" (snapshotArtifactReadySubmissionToPB v.submission)]

def recordReadyFromPB (m : PB artifactDispositionRecordReadyV1) : ArtifactDispositionRecordReadyV1 :=
  ⟨m.uint64 "candidate_seq", snapshotArtifactReadySubmissionFromPB (m.msg "submission")⟩

@[simp] theorem recordReadyToPB_spec : Converts recordReadyToPB recordReadyFromPB id :=
  converts (fun _ => rfl) (by simp [recordReadyFromPB])

def publishCandidateToPB (v : ArtifactDispositionPublishCandidateV1) : PB artifactDispositionPublishCandidateV1 :=
  build [.uint64 "candidate_seq" v.candidateSeq, .msg "manifest" (manifestToPB v.manifest),
    .msg "transition" (executorProfileTransitionToPB v.transition),
    .msgs "transition_receipts" (snapshotMap executorProfileTransitionReceiptToPB v.transitionReceipts)]

def publishCandidateFromPB (m : PB artifactDispositionPublishCandidateV1) : ArtifactDispositionPublishCandidateV1 :=
  ⟨m.uint64 "candidate_seq", manifestFromPB (m.msg "manifest"),
    executorProfileTransitionFromPB (m.msg "transition"),
    snapshotMap executorProfileTransitionReceiptFromPB (m.msgs "transition_receipts")⟩

def ArtifactDispositionPublishCandidateV1.canon (v : ArtifactDispositionPublishCandidateV1) :
    ArtifactDispositionPublishCandidateV1 :=
  { v with
    manifest := v.manifest.canon
    transitionReceipts := snapshotClone v.transitionReceipts }

@[simp] theorem publishCandidateToPB_spec :
    Converts publishCandidateToPB publishCandidateFromPB ArtifactDispositionPublishCandidateV1.canon :=
  converts (fun _ => rfl) (by simp [publishCandidateFromPB, ArtifactDispositionPublishCandidateV1.canon])

def cancelCandidateToPB (v : ArtifactDispositionCancelCandidateV1) : PB artifactDispositionCancelCandidateV1 :=
  build [.uint64 "candidate_seq" v.candidateSeq, .text "reason_code" v.reasonCode]

def cancelCandidateFromPB (m : PB artifactDispositionCancelCandidateV1) : ArtifactDispositionCancelCandidateV1 :=
  ⟨m.uint64 "candidate_seq", m.text "reason_code"⟩

@[simp] theorem cancelCandidateToPB_spec : Converts cancelCandidateToPB cancelCandidateFromPB id :=
  converts (fun _ => rfl) (by simp [cancelCandidateFromPB])

def admitUseToPB (v : ArtifactDispositionAdmitUseV1) : PB artifactDispositionAdmitUseV1 :=
  build [.msg "use" (artifactDispositionUseToPB v.use)]

def admitUseFromPB (m : PB artifactDispositionAdmitUseV1) : ArtifactDispositionAdmitUseV1 :=
  ⟨artifactDispositionUseFromPB (m.optMsg "use")⟩

@[simp] theorem admitUseToPB_spec : Converts admitUseToPB admitUseFromPB id :=
  converts (fun _ => rfl) (by simp [admitUseFromPB])

def closeUseToPB (v : ArtifactDispositionCloseUseV1) : PB artifactDispositionCloseUseV1 :=
  build [.msg "use" (artifactDispositionUseToPB v.use),
    .uint64 "expected_registry_revision" v.expectedRegistryRevision]

def closeUseFromPB (m : PB artifactDispositionCloseUseV1) : ArtifactDispositionCloseUseV1 :=
  ⟨artifactDispositionUseFromPB (m.optMsg "use"), m.uint64 "expected_registry_revision"⟩

@[simp] theorem closeUseToPB_spec : Converts closeUseToPB closeUseFromPB id :=
  converts (fun _ => rfl) (by simp [closeUseFromPB])

def dispositionChallengeToPB (v : ArtifactDispositionOpenChallengeV1) : PB artifactDispositionOpenChallengeV1 :=
  build [.msg "pin" (snapshotPinToPB v.pin),
    .msg "origin" (artifactDispositionOriginToPB v.origin),
    .msg "attestation" (snapshotQueryAttestationToPB v.attestation),
    .msg "replay_use" (artifactDispositionUseToPB v.replayUse)]

def dispositionChallengeFromPB (m : PB artifactDispositionOpenChallengeV1) : ArtifactDispositionOpenChallengeV1 :=
  ⟨snapshotPinFromPB (m.msg "pin"), artifactDispositionOriginFromPB (m.optMsg "origin"),
    snapshotQueryAttestationFromPB (m.msg "attestation"),
    artifactDispositionUseFromPB (m.optMsg "replay_use")⟩

def ArtifactDispositionOpenChallengeV1.canon (v : ArtifactDispositionOpenChallengeV1) :
    ArtifactDispositionOpenChallengeV1 :=
  { v with attestation := v.attestation.canon }

@[simp] theorem dispositionChallengeToPB_spec :
    Converts dispositionChallengeToPB dispositionChallengeFromPB ArtifactDispositionOpenChallengeV1.canon :=
  converts (fun _ => rfl) (by simp [dispositionChallengeFromPB, ArtifactDispositionOpenChallengeV1.canon])

def resolveObligationToPB (v : ArtifactDispositionResolveObligationV1) : PB artifactDispositionResolveObligationV1 :=
  build [.uint64 "obligation_seq" v.obligationSeq]

def resolveObligationFromPB (m : PB artifactDispositionResolveObligationV1) : ArtifactDispositionResolveObligationV1 :=
  ⟨m.uint64 "obligation_seq"⟩

@[simp] theorem resolveObligationToPB_spec : Converts resolveObligationToPB resolveObligationFromPB id :=
  converts (fun _ => rfl) (by simp [resolveObligationFromPB])

def grantReservationToPB (v : ArtifactDispositionGrantReservationV1) : PB artifactDispositionGrantReservationV1 :=
  build [.text "client_account" v.clientAccount, .text "statement_id" v.statementID,
    .text "control_binding_digest" v.controlBindingDigest]

def grantReservationFromPB (m : PB artifactDispositionGrantReservationV1) : ArtifactDispositionGrantReservationV1 :=
  ⟨m.text "client_account", m.text "statement_id", m.text "control_binding_digest"⟩

@[simp] theorem grantReservationToPB_spec : Converts grantReservationToPB grantReservationFromPB id :=
  converts (fun _ => rfl) (by simp [grantReservationFromPB])

def artifactDispositionRegistryObservationToPB (v : ArtifactDispositionRegistryObservationV1) :
    PB artifactDispositionRegistryObservationV1 :=
  build [.text "reference_id" v.referenceID, .msg "pin" (snapshotPinToPB v.pin),
    .text "principal_id" v.principalID, .uint64 "registry_revision" v.registryRevision,
    .text "observation" v.observation, .text "record_digest" v.recordDigest]

def artifactDispositionRegistryObservationFromPB :
    Option (PB artifactDispositionRegistryObservationV1) → ArtifactDispositionRegistryObservationV1
  | none => default
  | some m =>
    ⟨m.text "reference_id", snapshotPinFromPB (m.msg "pin"), m.text "principal_id",
      m.uint64 "registry_revision", m.text "observation", m.text "record_digest"⟩

@[simp] theorem artifactDispositionRegistryObservationToPB_spec :
    Converts artifactDispositionRegistryObservationToPB
      (fun m => artifactDispositionRegistryObservationFromPB (some m)) id :=
  converts (fun _ => rfl) (by simp [artifactDispositionRegistryObservationFromPB])

def artifactDispositionSourceObservationToPB (v : ArtifactDispositionSourceObservationV1) :
    PB artifactDispositionSourceObservationV1 :=
  build [.uint64 "obligation_seq" v.obligationSeq, .text "source_kind" v.sourceKind,
    .uint64 "source_index" v.sourceIndex,
    .msg "source_identity" (artifactDispositionOriginToPB v.sourceIdentity),
    .uints "replacement_obligation_seqs" (snapshotClone v.replacementObligationSeqs)]

def artifactDispositionSourceObservationFromPB :
    Option (PB artifactDispositionSourceObservationV1) → ArtifactDispositionSourceObservationV1
  | none => default
  | some m =>
    ⟨m.uint64 "obligation_seq", m.text "source_kind", m.uint64 "source_index",
      artifactDispositionOriginFromPB (m.optMsg "source_identity"),
      snapshotClone (m.uints "replacement_obligation_seqs")⟩

def ArtifactDispositionSourceObservationV1.canon (v : ArtifactDispositionSourceObservationV1) :
    ArtifactDispositionSourceObservationV1 :=
  { v with replacementObligationSeqs := snapshotClone v.replacementObligationSeqs }

@[simp] theorem artifactDispositionSourceObservationToPB_spec :
    Converts artifactDispositionSourceObservationToPB
      (fun m => artifactDispositionSourceObservationFromPB (some m)) ArtifactDispositionSourceObservationV1.canon :=
  converts (fun _ => rfl)
    (by simp [artifactDispositionSourceObservationFromPB, ArtifactDispositionSourceObservationV1.canon])

def artifactDispositionValidationToPB (v : ArtifactDispositionValidationV1) : PB artifactDispositionValidationV1 :=
  build [.uint32 "version" v.version, .text "command_root" v.commandRoot,
    .text "actor_id" v.actorID, .text "actor_role" v.actorRole,
    .text "administrator_jws_hash" v.administratorJWSHash,
    .msgs "registry_observations" (snapshotMap artifactDispositionRegistryObservationToPB v.registryObservations),
    .msgs "source_observations" (snapshotMap artifactDispositionSourceObservationToPB v.sourceObservations),
    .uint64 "capacity_allowance_ordinal" v.capacityAllowanceOrdinal]

def artifactDispositionValidationFromPB : Option (PB artifactDispositionValidationV1) → ArtifactDispositionValidationV1
  | none => default
  | some m =>
    ⟨m.uint32 "version", m.text "command_root", m.text "actor_id", m.text "actor_role",
      m.text "administrator_jws_hash",
      snapshotMap (fun m => artifactDispositionRegistryObservationFromPB (some m)) (m.msgs "registry_observations"),
      snapshotMap (fun m => artifactDispositionSourceObservationFromPB (some m)) (m.msgs "source_observations"),
      m.uint64 "capacity_allowance_ordinal"⟩

def ArtifactDispositionValidationV1.canon (v : ArtifactDispositionValidationV1) : ArtifactDispositionValidationV1 :=
  { v with
    registryObservations := snapshotClone v.registryObservations
    sourceObservations := snapshotMap ArtifactDispositionSourceObservationV1.canon v.sourceObservations }

@[simp] theorem artifactDispositionValidationToPB_spec :
    Converts artifactDispositionValidationToPB (fun m => artifactDispositionValidationFromPB (some m))
      ArtifactDispositionValidationV1.canon :=
  converts (fun _ => rfl) (by simp [artifactDispositionValidationFromPB, ArtifactDispositionValidationV1.canon])

/-! ## Actions -/

namespace DispositionField

def name : DispositionField → String
  | .bindPolicy => "bind_policy"
  | .registerCandidate => "register_candidate"
  | .recordReady => "record_ready"
  | .publishCandidate => "publish_candidate"
  | .cancelCandidate => "cancel_candidate"
  | .beginRetirement => "begin_retirement"
  | .finishRetirement => "finish_retirement"
  | .admitUse => "admit_use"
  | .closeUse => "close_use"
  | .openChallenge => "open_challenge"
  | .resolveObligation => "resolve_obligation"
  | .grantReservation => "grant_reservation"

def msgType : DispositionField → MsgType
  | .bindPolicy => .artifactDispositionBindPolicyV1
  | .registerCandidate => .artifactDispositionRegisterCandidateV1
  | .recordReady => .artifactDispositionRecordReadyV1
  | .publishCandidate => .artifactDispositionPublishCandidateV1
  | .cancelCandidate => .artifactDispositionCancelCandidateV1
  | .beginRetirement => .artifactDispositionRetirementTargetV1
  | .finishRetirement => .artifactDispositionRetirementTargetV1
  | .admitUse => .artifactDispositionAdmitUseV1
  | .closeUse => .artifactDispositionCloseUseV1
  | .openChallenge => .artifactDispositionOpenChallengeV1
  | .resolveObligation => .artifactDispositionResolveObligationV1
  | .grantReservation => .artifactDispositionGrantReservationV1

def toPB : (f : DispositionField) → f.Payload → PB f.msgType
  | .bindPolicy, v => bindPolicyToPB v
  | .registerCandidate, v => registerCandidateToPB v
  | .recordReady, v => recordReadyToPB v
  | .publishCandidate, v => publishCandidateToPB v
  | .cancelCandidate, v => cancelCandidateToPB v
  | .beginRetirement, v => artifactDispositionRetirementTargetToPB v
  | .finishRetirement, v => artifactDispositionRetirementTargetToPB v
  | .admitUse, v => admitUseToPB v
  | .closeUse, v => closeUseToPB v
  | .openChallenge, v => dispositionChallengeToPB v
  | .resolveObligation, v => resolveObligationToPB v
  | .grantReservation, v => grantReservationToPB v

def fromPB : (f : DispositionField) → PB f.msgType → f.Payload
  | .bindPolicy, m => bindPolicyFromPB m
  | .registerCandidate, m => registerCandidateFromPB m
  | .recordReady, m => recordReadyFromPB m
  | .publishCandidate, m => publishCandidateFromPB m
  | .cancelCandidate, m => cancelCandidateFromPB m
  | .beginRetirement, m => artifactDispositionRetirementTargetFromPB (some m)
  | .finishRetirement, m => artifactDispositionRetirementTargetFromPB (some m)
  | .admitUse, m => admitUseFromPB m
  | .closeUse, m => closeUseFromPB m
  | .openChallenge, m => dispositionChallengeFromPB m
  | .resolveObligation, m => resolveObligationFromPB m
  | .grantReservation, m => grantReservationFromPB m

def canon : (f : DispositionField) → f.Payload → f.Payload
  | .bindPolicy, v => v.canon
  | .registerCandidate, v => v.canon
  | .recordReady, v => v
  | .publishCandidate, v => v.canon
  | .cancelCandidate, v => v
  | .beginRetirement, v => v
  | .finishRetirement, v => v
  | .admitUse, v => v
  | .closeUse, v => v
  | .openChallenge, v => v.canon
  | .resolveObligation, v => v
  | .grantReservation, v => v

theorem fromPB_toPB (f : DispositionField) (v : f.Payload) : f.fromPB (f.toPB v) = f.canon v := by
  cases f <;> simp [fromPB, toPB, canon]

theorem toPB_conforms (f : DispositionField) (v : f.Payload) :
    Conforms (logSchema D) f.msgType (f.toPB v).occs := by
  cases f <;> simp [toPB, msgType]

/-- The action of a message. -/
def ofName (name : String) : Option DispositionField := all.find? (·.name = name)

@[simp] theorem ofName_name (f : DispositionField) : ofName f.name = some f := by
  cases f <;> rfl

end DispositionField

/-- The first action that is set. -/
def artifactDispositionActionToPB (v : ArtifactDispositionActionV1) : PB artifactDispositionActionV1 :=
  build (DispositionField.all.findSome? fun f => (v f).map fun x => .msg f.name (f.toPB x)).toList

def artifactDispositionActionFromPB :
    Option (PB artifactDispositionActionV1) → ArtifactDispositionActionV1
  | none => default
  | some m =>
    match m.arm with
    | none => default
    | some (name, content) =>
      match DispositionField.ofName name with
      | none => default
      | some f => .only f (f.fromPB ⟨content⟩)

def countArtifactDispositionActions (v : ArtifactDispositionActionV1) : Nat := v.count DispositionField.all

def requireSingleDispositionAction (v : ArtifactDispositionActionV1) : Except String Unit :=
  let n := countArtifactDispositionActions v
  if n ≠ 1 then .error s!"wire: artifact disposition action must set exactly one variant, got {n}" else .ok ()

def ArtifactDispositionActionV1.canon (v : ArtifactDispositionActionV1) : ArtifactDispositionActionV1 :=
  fun f => (v f).map f.canon

/-- The action that is set is the one of the message. -/
theorem artifactDispositionActionToPB_only (f : DispositionField) (x : f.Payload) :
    artifactDispositionActionToPB (.only f x) = build [.msg f.name (f.toPB x)] := by
  have hfirst : (DispositionField.all.findSome? fun g =>
      (GoUnion.only f x g).map fun y => Piece.msg g.name (g.toPB y)) = some (.msg f.name (f.toPB x)) := by
    cases f <;> rfl
  rw [artifactDispositionActionToPB, hfirst]
  rfl

theorem ArtifactDispositionActionV1.canon_only (f : DispositionField) (x : f.Payload) :
    canon (.only f x) = .only f (f.canon x) :=
  GoUnion.eq_only (by simp [canon]) fun g hg => by simp [canon, Ne.symm hg]

theorem artifactDispositionActionFromPB_toPB {v : ArtifactDispositionActionV1}
    (h : countArtifactDispositionActions v = 1) :
    artifactDispositionActionFromPB (some (artifactDispositionActionToPB v)) = v.canon := by
  obtain ⟨f, x, rfl⟩ := (GoUnion.count_eq_one_iff DispositionField.mem_all DispositionField.nodup_all).mp h
  rw [artifactDispositionActionToPB_only, ArtifactDispositionActionV1.canon_only, ← f.fromPB_toPB]
  simp [artifactDispositionActionFromPB, PB.arm, occsOf, Piece.occs, Msg.arm]

theorem artifactDispositionActionToPB_conforms {v : ArtifactDispositionActionV1}
    (h : countArtifactDispositionActions v = 1) :
    Fits D (artifactDispositionActionToPB v) := by
  obtain ⟨f, x, rfl⟩ := (GoUnion.count_eq_one_iff DispositionField.mem_all DispositionField.nodup_all).mp h
  rw [artifactDispositionActionToPB_only]
  refine build_conforms (logSchema_valid D) ?_ (by simpa [Piece.Nested] using f.toPB_conforms x)
  cases f <;> rfl

/-! ## Commands -/

def artifactDispositionCommandToPB (v : ArtifactDispositionCommandV1) :
    PB artifactDispositionCommandV1 :=
  build [.uint32 "version" v.version, .text "network_id" v.networkID,
    .uint32 "keeper_shard_id" v.keeperShardID, .text "actor_id" v.actorID,
    .text "request_id" v.requestID, .uint64 "expected_revision" v.expectedRevision,
    .msg "action" (artifactDispositionActionToPB v.action)]

def artifactDispositionCommandFromPB :
    Option (PB artifactDispositionCommandV1) → ArtifactDispositionCommandV1
  | none => default
  | some m =>
    ⟨m.uint32 "version", m.text "network_id", m.uint32 "keeper_shard_id", m.text "actor_id",
      m.text "request_id", m.uint64 "expected_revision",
      artifactDispositionActionFromPB (m.optMsg "action")⟩

def ArtifactDispositionCommandV1.canon (v : ArtifactDispositionCommandV1) : ArtifactDispositionCommandV1 :=
  { v with action := v.action.canon }

theorem artifactDispositionCommandFromPB_toPB {v : ArtifactDispositionCommandV1}
    (h : countArtifactDispositionActions v.action = 1) :
    artifactDispositionCommandFromPB (some (artifactDispositionCommandToPB v)) = v.canon := by
  simp [artifactDispositionCommandFromPB, artifactDispositionCommandToPB, ArtifactDispositionCommandV1.canon,
    artifactDispositionActionFromPB_toPB h]

theorem artifactDispositionCommandToPB_conforms {v : ArtifactDispositionCommandV1}
    (h : countArtifactDispositionActions v.action = 1) :
    Fits D (artifactDispositionCommandToPB v) :=
  build_conforms (logSchema_valid D) rfl
    (by simp [Piece.Nested, artifactDispositionActionToPB_conforms h])

def artifactDispositionCmdToPB (v : ArtifactDispositionCmd) : PB artifactDispositionCmd :=
  build [.msg "command" (artifactDispositionCommandToPB v.command),
    .text "administrator_jws" v.administratorJWS,
    .msg "validation" (artifactDispositionValidationToPB v.validation)]

def artifactDispositionCmdFromPB : Option (PB artifactDispositionCmd) → ArtifactDispositionCmd
  | none => default
  | some m =>
    ⟨artifactDispositionCommandFromPB (m.optMsg "command"), m.text "administrator_jws",
      artifactDispositionValidationFromPB (m.optMsg "validation")⟩

def ArtifactDispositionCmd.canon (v : ArtifactDispositionCmd) : ArtifactDispositionCmd :=
  { v with
    command := v.command.canon
    validation := v.validation.canon }

theorem artifactDispositionCmdFromPB_toPB {v : ArtifactDispositionCmd}
    (h : countArtifactDispositionActions v.command.action = 1) :
    artifactDispositionCmdFromPB (some (artifactDispositionCmdToPB v)) = v.canon := by
  simp [artifactDispositionCmdFromPB, artifactDispositionCmdToPB, ArtifactDispositionCmd.canon,
    artifactDispositionCommandFromPB_toPB h]

theorem artifactDispositionCmdToPB_conforms {v : ArtifactDispositionCmd}
    (h : countArtifactDispositionActions v.command.action = 1) :
    Fits D (artifactDispositionCmdToPB v) :=
  build_conforms (logSchema_valid D) rfl
    (by simp [Piece.Nested, artifactDispositionCommandToPB_conforms h])

end ArbiterCore.Wire
