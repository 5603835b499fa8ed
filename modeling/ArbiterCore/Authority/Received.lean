-- SUMMARY: Which signed forms keep their hash over the wire (wire/convert.go, authority).
import ArbiterCore.Authority.Hashes
import ArbiterCore.Wire.ConvertCommands

/-!
# Signed forms after the wire

The arbiter and the SNodes recompute a hash over the value they decoded, in which
every empty list is nil. A hash function that makes empty lists nil itself, or
refuses them, therefore gives the hash that was signed. The hashes of promotions
and cleanups take their lists as given.
-/

namespace ArbiterCore.Authority

open GoSlice (Slice)
open Wire

/-! ## The forms -/

/-- A value of a family that is signed and sent. -/
inductive SignedForm where
  | promotion (cmd : PromoteSafePartition)
  | cleanup (cmd : UnsafeCleanup)
  | consensusParamsUpdate (cmd : ConsensusParamsUpdate)
  | rebalanceGroup (cmd : RebalanceGroupCommand)
  | reselectVerifiers (cmd : ReselectVerifiersCommand)
  | markMemberLagging (cmd : MarkMemberLaggingCommand)
  | snodeMessage (m : Message)
  | verifierMessage (m : Message)
  | byteSideScan (m : ByteSideScanMsg)
  | memberReady (ctx : MessageContext) (body : MemberReadyBody)
  | memberCheckpoint (ctx : MessageContext) (cp : MemberCheckpointBody)

def SignedForm.hash [Text.Unicode] (digest : Digest) : SignedForm → Except String String
  | .promotion cmd => promoteCommandHash digest cmd
  | .cleanup cmd => cleanupCommandHash digest cmd
  | .consensusParamsUpdate cmd => consensusParamsUpdateHash digest cmd
  | .rebalanceGroup cmd => rebalanceGroupHash digest cmd
  | .reselectVerifiers cmd => reselectVerifiersHash digest cmd
  | .markMemberLagging cmd => markMemberLaggingHash digest cmd
  | .snodeMessage m => snodeMessageHash digest m
  | .verifierMessage m => verifierMessageHash digest m
  | .byteSideScan m => scanHash digest m
  | .memberReady ctx body => memberReadyHash digest ctx body
  | .memberCheckpoint ctx cp => memberCheckpointHash digest ctx cp

/-- The body that its command carries over the wire, with `token` as signature. -/
def MessageBody.received (token : String) : MessageBody → MessageBody
  | .registration r => .registration (registrationFromPB (registrationToPB r))
  | .markActive b =>
    let m := markActiveFromPB (markActiveToPB ⟨b.nodeID, b.registrationSeq, token, token⟩)
    .markActive ⟨m.nodeID, m.registrationSeq⟩
  | .resultClaim rc => .resultClaim (rcFromPB (rcToPB rc))
  | .promotionAck ack => .promotionAck (promotionAckFromPB (promotionAckToPB ack))
  | .cleanupAck ack => .cleanupAck (cleanupAckFromPB (cleanupAckToPB ack))
  | .tablePurged b =>
    let m := recordTablePurgedFromRequest
      (recordTablePurgedToRequest ⟨b.nodeID, b.incarnationSeq, token, token⟩)
    .tablePurged ⟨m.nodeID, m.incarnationSeq⟩
  | .other name => .other name

/-- The form that the receiver sees: decoded from the message, with `token` as
    the signature that the message carries. The receiver knows the context. -/
def SignedForm.received (token : String) : SignedForm → Except String SignedForm
  | .promotion cmd => .ok (.promotion (promoteFromPB (promoteToPB cmd)))
  | .cleanup cmd => .ok (.cleanup (cleanupFromPB (cleanupToPB cmd)))
  | .consensusParamsUpdate cmd =>
    .ok (.consensusParamsUpdate (consensusParamsUpdateFromPB (consensusParamsUpdateToPB cmd)))
  | .rebalanceGroup cmd =>
    let sent : RebalanceGroup := ⟨cmd.ownerIndexerID, cmd.databaseID, cmd.expectedGeneration, cmd.add,
      cmd.remove, cmd.networkFill, token⟩
    .ok (.rebalanceGroup (rebalanceGroupFromRequest (rebalanceGroupToRequest sent)).canonical)
  | .reselectVerifiers cmd =>
    let sent : ReselectVerifiers := ⟨cmd.l3BlockSeq, cmd.expectedSet, token⟩
    .ok (.reselectVerifiers (reselectVerifiersFromRequest (reselectVerifiersToRequest sent)).canonical)
  | .markMemberLagging cmd =>
    let sent : MarkMemberLagging := ⟨cmd.nodeID, cmd.ownerIndexerID, cmd.databaseID, cmd.observedEntry, token⟩
    .ok (.markMemberLagging (markMemberLaggingFromRequest (markMemberLaggingToRequest sent)).canonical)
  | .snodeMessage m => .ok (.snodeMessage { m with body := m.body.received token })
  | .verifierMessage m => .ok (.verifierMessage { m with body := m.body.received token })
  | .byteSideScan m => .ok (.byteSideScan (scanFromPB (scanToPB m)))
  | .memberReady ctx body =>
    let sent : MemberReady := ⟨body.nodeID, body.ownerIndexerID, body.databaseID, body.generation, token⟩
    .ok (.memberReady ctx (memberReadyFromRequest (memberReadyToRequest sent)).body)
  | .memberCheckpoint ctx cp =>
    (memberCheckpointFromRequest (memberCheckpointToRequest ⟨cp, token⟩)).map
      fun m => .memberCheckpoint ctx m.checkpoint

/-- A promotion or cleanup whose list is empty but not nil. -/
def SignedForm.EmptyList : SignedForm → Prop
  | .promotion cmd => cmd.candidateParts = some []
  | .cleanup cmd => cmd.parts = some []
  | _ => False

/-! ## Promotions and cleanups -/

variable {digest : Digest}

theorem promoteCommandHash_canon {cmd : PromoteSafePartition} (h : cmd.candidateParts ≠ some []) :
    promoteCommandHash digest cmd.canon = promoteCommandHash digest cmd := by
  have hcanon : cmd.canon = cmd := by simp [PromoteSafePartition.canon, Slice.nilIfEmpty_eq_self.mpr h]
  rw [hcanon]

theorem cleanupCommandHash_canon {cmd : UnsafeCleanup} (h : cmd.parts ≠ some []) :
    cleanupCommandHash digest cmd.canon = cleanupCommandHash digest cmd := by
  have hcanon : cmd.canon = cmd := by simp [UnsafeCleanup.canon, Slice.nilIfEmpty_eq_self.mpr h]
  rw [hcanon]

/-- A digest that separates JSON values tells nil from empty. -/
theorem promoteCommandHash_canon_ne (hdigest : Function.Injective2 digest) {cmd : PromoteSafePartition}
    (h : cmd.candidateParts = some []) :
    promoteCommandHash digest cmd.canon ≠ promoteCommandHash digest cmd := by
  intro heq
  have hjson := (hdigest (Except.ok.inj heq)).2
  have hparts := congrArg Wire.PromoteSafePartition.candidateParts (PromoteSafePartition.json_inj hjson)
  simp [PromoteSafePartition.canon, h, Slice.nilIfEmpty, Slice.ofList] at hparts

theorem cleanupCommandHash_canon_ne (hdigest : Function.Injective2 digest) {cmd : UnsafeCleanup}
    (h : cmd.parts = some []) : cleanupCommandHash digest cmd.canon ≠ cleanupCommandHash digest cmd := by
  intro heq
  have hjson := (hdigest (Except.ok.inj heq)).2
  have hparts := congrArg Wire.UnsafeCleanup.parts (UnsafeCleanup.json_inj hjson)
  simp [UnsafeCleanup.canon, h, Slice.nilIfEmpty, Slice.ofList] at hparts

/-! ## Consensus parameters -/

theorem normalizeVerifier_canon [Text.Unicode] (v : VerifierEntry) :
    normalizeVerifier v.canon = normalizeVerifier v := by
  have hvalidate : v.canon.validate = v.validate := by
    simp [VerifierEntry.validate, VerifierEntry.canon]
  cases hv : v.validate with
  | error err =>
    rw [normalizeVerifier, normalizeVerifier, hvalidate, hv]
    rfl
  | ok _ =>
    -- an entry that passes has a key of 32 bytes, which the wire keeps
    have hkey : v.ed25519Pubkey ≠ some [] := by
      intro hnil
      simp only [VerifierEntry.validate, hnil] at hv
      split at hv <;> cases hv
    have hcanon : v.canon = v := by simp [VerifierEntry.canon, Slice.nilIfEmpty_eq_self.mpr hkey]
    rw [hcanon]

theorem normalizeVerifiers_canon [Text.Unicode] (entries : Slice VerifierEntry) (siIndexers : Slice SIIndexerEntry)
    (stage3 : Option Stage3Params) :
    normalizeVerifiers (mapSlice VerifierEntry.canon entries) siIndexers stage3 =
      normalizeVerifiers entries siIndexers stage3 := by
  have hall : (normalizeVerifier ∘ VerifierEntry.canon) = normalizeVerifier := funext normalizeVerifier_canon
  simp [normalizeVerifiers, elems_mapSlice, List.mapM_map, hall]

theorem normalizeStage3_canon (params : Option Stage3Params) (tracks : Bool)
    (siIndexers : Slice SIIndexerEntry) :
    normalizeStage3 (params.map Stage3Params.canon) tracks siIndexers =
      normalizeStage3 params tracks siIndexers := by
  cases params <;> simp [normalizeStage3, Stage3Params.canon]

theorem normalizeConsensusParamsUpdate_canon [Text.Unicode] (cmd : ConsensusParamsUpdate) :
    normalizeConsensusParamsUpdate cmd.canon = normalizeConsensusParamsUpdate cmd := by
  have hindexers : ∀ entries maxWriters,
      normalizeSIIndexers (Slice.nilIfEmpty entries) maxWriters = normalizeSIIndexers entries maxWriters := by
    intro entries maxWriters
    simp [normalizeSIIndexers]
  rw [normalizeConsensusParamsUpdate, normalizeConsensusParamsUpdate]
  simp only [ConsensusParamsUpdate.canon, Slice.elems_nilIfEmpty]
  simp only [hindexers, normalizeStage3_canon, normalizeVerifiers_canon]
  -- what is left differs in the instances of the decided conditions only
  congr!

/-! ## Groups -/

theorem pairwise_of_sortedUnique {l : List String} (h : Authority.sortedUnique l = true) :
    l.Pairwise (· < ·) := by
  refine List.isChain_iff_pairwise.mp ?_
  induction l with
  | nil => exact .nil
  | cons a rest ih =>
    cases rest with
    | nil => exact .singleton a
    | cons b rest =>
      simp only [Authority.sortedUnique, sortedUniqueBy, Bool.and_eq_true, decide_eq_true_eq] at h
      exact .cons_cons h.1 (ih h.2)

/-- Sorting a list that is in order makes it nil when it is empty, and no more. -/
theorem sortedUnique_canonical {s : Slice String} (h : Authority.sortedUnique s.elems = true) :
    Wire.sortedUnique s.nilIfEmpty = s.nilIfEmpty := by
  rw [Wire.sortedUnique, Slice.elems_nilIfEmpty, GoSlice.sortCompact_eq_self (pairwise_of_sortedUnique h),
    Slice.ofList_elems]

theorem canonicalRebalanceGroup_trim (cmd : RebalanceGroupCommand) :
    canonicalRebalanceGroup cmd.trim = canonicalRebalanceGroup cmd := by
  simp only [canonicalRebalanceGroup, RebalanceGroupCommand.trim, Slice.elems_nilIfEmpty, Slice.nilIfEmpty_idem]
  congr!

/-! ## Messages -/

/-- A body keeps its type over the wire, and the canonical form makes every list
    nil that the wire does. -/
theorem canonicalBody_received (token sender : String) {kinds : MessageKinds} (hkinds : kinds ⊆ snodeMessageKinds)
    (kind : String) (body : MessageBody) :
    canonicalBody sender kinds kind (body.received token) = canonicalBody sender kinds kind body := by
  have hname : (body.received token).typeName = body.typeName := by cases body <;> rfl
  have hbody : ∀ entry ∈ snodeMessageKinds, entry.2 (body.received token) = entry.2 body := by
    simp only [snodeMessageKinds, List.forall_mem_cons]
    cases body <;>
      simp [MessageBody.received, registrationBody, markActiveBody, resultClaimBody, promotionAckBody,
        cleanupAckBody, tablePurgedBody, canonicalRegistration, NodeRegistration.canon, RCRecord.canon,
        PromotionAck.canon]
  unfold canonicalBody
  cases hlookup : kinds.lookup kind with
  | none => rfl
  | some canonical =>
    obtain ⟨before, after, rfl, -⟩ := List.lookup_eq_some_iff.mp hlookup
    have hsame : canonical (body.received token) = canonical body :=
      hbody (kind, canonical) (hkinds (by simp))
    simp only [hsame, hname]

/-! ## Checkpoints -/

theorem sortedUniqueBy_map {α β : Type} {key : α → String} {key' : β → String} {f : α → β}
    (h : ∀ a, key' (f a) = key a) (l : List α) : sortedUniqueBy key' (l.map f) = sortedUniqueBy key l := by
  fun_induction sortedUniqueBy key l with
  | case1 a b rest ih =>
    rw [List.map_cons] at ih
    rw [List.map_cons, List.map_cons, sortedUniqueBy, h, h, ih]
  | case2 l hl =>
    match l with
    | [] => rfl
    | [a] => rfl
    | a :: b :: rest => exact absurd rfl (hl a b rest)

theorem canonicalCheckpointGroup_canon (g : CheckpointGroup) :
    canonicalCheckpointGroup g.canon = canonicalCheckpointGroup g := by
  simp only [canonicalCheckpointGroup, CheckpointGroup.canon, CheckpointGroup.trim, Slice.elems_nilIfEmpty,
    Slice.nilIfEmpty_idem]

theorem canonicalMemberCheckpoint_canon (ctx : MessageContext) (cp : MemberCheckpointBody) :
    canonicalMemberCheckpoint ctx cp.canon = canonicalMemberCheckpoint ctx cp := by
  have hsorted : sortedUniqueBy CheckpointGroup.databaseID (cp.groups.elems.map CheckpointGroup.canon) =
      sortedUniqueBy CheckpointGroup.databaseID cp.groups.elems := sortedUniqueBy_map (fun _ => rfl) _
  have hgroups : (canonicalCheckpointGroup ∘ CheckpointGroup.canon) = canonicalCheckpointGroup :=
    funext canonicalCheckpointGroup_canon
  unfold canonicalMemberCheckpoint
  simp only [MemberCheckpointBody.canon, elems_mapSlice, hsorted, List.map_eq_nil_iff, List.mapM_map, hgroups]
  congr!

/-- What the checkpoint hash checks is what the decoder accepts. -/
theorem reasonsKnown_of_canonical {ctx : MessageContext} {cp cp' : MemberCheckpointBody}
    (h : canonicalMemberCheckpoint ctx cp = .ok cp') : cp.ReasonsKnown := by
  intro g hg e he
  simp only [canonicalMemberCheckpoint, bind_eq_ok] at h
  obtain ⟨-, -, -, -, -, -, groups, hgroups, -⟩ := h
  obtain ⟨g', -, hg'⟩ := Except.mem_of_mapM hgroups g hg
  simp only [canonicalCheckpointGroup, bind_eq_ok, refuseIf_eq_ok, not_or, not_exists, not_and, not_not] at hg'
  obtain ⟨-, hchecks, -⟩ := hg'
  have hknown := hchecks.2 e he
  simpa [knownExclusionReason, exclusionReasons] using hknown

/-! ## Every family -/

theorem rebalanceGroupHash_canonical {cmd : RebalanceGroupCommand} {h : String} (token : String)
    (hsigned : rebalanceGroupHash digest cmd = .ok h) :
    rebalanceGroupHash digest (RebalanceGroup.canon ⟨cmd.ownerIndexerID, cmd.databaseID,
      cmd.expectedGeneration, cmd.add, cmd.remove, cmd.networkFill, token⟩).canonical = .ok h := by
  have hsorted : Authority.sortedUnique cmd.add.elems = true ∧ Authority.sortedUnique cmd.remove.elems = true := by
    obtain ⟨cmd', hcanonical, -⟩ := digestOf_eq_ok.mp hsigned
    simp only [canonicalRebalanceGroup, bind_eq_ok, refuseIf_eq_ok, not_or, not_not] at hcanonical
    obtain ⟨-, -, -, hsorted, -⟩ := hcanonical
    exact ⟨hsorted.1, hsorted.2.1⟩
  have hcanonical : (RebalanceGroup.canon ⟨cmd.ownerIndexerID, cmd.databaseID, cmd.expectedGeneration,
      cmd.add, cmd.remove, cmd.networkFill, token⟩).canonical = cmd.trim := by
    simp only [RebalanceGroup.canon, RebalanceGroup.canonical, sortedUnique_canonical hsorted.1,
      sortedUnique_canonical hsorted.2, RebalanceGroupCommand.trim]
  rw [hcanonical, rebalanceGroupHash, canonicalRebalanceGroup_trim]
  exact hsigned

theorem reselectVerifiersHash_canonical [Text.Unicode] {cmd : ReselectVerifiersCommand} {h : String} (token : String)
    (hsigned : reselectVerifiersHash digest cmd = .ok h) :
    reselectVerifiersHash digest
      (ReselectVerifiers.canon ⟨cmd.l3BlockSeq, cmd.expectedSet, token⟩).canonical = .ok h := by
  have hset : cmd.expectedSet.elems.length = 3 ∧ Authority.sortedUnique cmd.expectedSet.elems = true := by
    obtain ⟨cmd', hcanonical, -⟩ := digestOf_eq_ok.mp hsigned
    simp only [canonicalReselectVerifiers, bind_eq_ok, refuseIf_eq_ok, not_or, not_not] at hcanonical
    obtain ⟨-, hset, -⟩ := hcanonical
    exact ⟨hset.1, hset.2.1⟩
  have hnil : cmd.expectedSet ≠ some [] := by
    intro hnil
    simp [hnil] at hset
  have hcanonical : (ReselectVerifiers.canon ⟨cmd.l3BlockSeq, cmd.expectedSet, token⟩).canonical = cmd := by
    have hself := Slice.nilIfEmpty_eq_self.mpr hnil
    have hsorted := sortedUnique_canonical hset.2
    rw [hself] at hsorted
    simp only [ReselectVerifiers.canon, ReselectVerifiers.canonical, hself, hsorted]
  rw [hcanonical]
  exact hsigned

/-- Every form that its signer accepts keeps its hash over the wire, whatever nil
    and empty lists it has, except a promotion or cleanup whose list is empty and
    not nil: its hash changes. -/
theorem hash_received [Text.Unicode] {form : SignedForm} {h : String} (token : String)
    (hsigned : form.hash digest = .ok h) :
    ∃ form', form.received token = .ok form' ∧ (¬form.EmptyList → form'.hash digest = .ok h) ∧
      (form.EmptyList → Function.Injective2 digest → form'.hash digest ≠ .ok h) := by
  cases form with
  | promotion cmd =>
    refine ⟨.promotion cmd.canon, by simp [SignedForm.received], fun hlist => ?_, fun hlist hdigest => ?_⟩
    · exact (promoteCommandHash_canon hlist).trans hsigned
    · exact hsigned ▸ promoteCommandHash_canon_ne hdigest hlist
  | cleanup cmd =>
    refine ⟨.cleanup cmd.canon, by simp [SignedForm.received], fun hlist => ?_, fun hlist hdigest => ?_⟩
    · exact (cleanupCommandHash_canon hlist).trans hsigned
    · exact hsigned ▸ cleanupCommandHash_canon_ne hdigest hlist
  | consensusParamsUpdate cmd =>
    refine ⟨.consensusParamsUpdate cmd.canon, by simp [SignedForm.received], fun _ => ?_, False.elim⟩
    rw [SignedForm.hash, consensusParamsUpdateHash, normalizeConsensusParamsUpdate_canon]
    exact hsigned
  | rebalanceGroup cmd =>
    refine ⟨_, by simp only [SignedForm.received, rebalanceGroupToRequest_spec]; rfl, fun _ => ?_, False.elim⟩
    exact rebalanceGroupHash_canonical token hsigned
  | reselectVerifiers cmd =>
    refine ⟨_, by simp only [SignedForm.received, reselectVerifiersToRequest_spec]; rfl, fun _ => ?_, False.elim⟩
    exact reselectVerifiersHash_canonical token hsigned
  | markMemberLagging cmd =>
    refine ⟨.markMemberLagging cmd, ?_, fun _ => hsigned, False.elim⟩
    simp only [SignedForm.received, markMemberLaggingToRequest_spec]
    rfl
  | snodeMessage m =>
    refine ⟨_, rfl, fun _ => ?_, False.elim⟩
    rw [SignedForm.hash, snodeMessageHash, canonicalMessage, canonicalSNodeBody, canonicalBody_received _ _ (by simp)]
    exact hsigned
  | verifierMessage m =>
    refine ⟨_, rfl, fun _ => ?_, False.elim⟩
    have hkinds : verifierMessageKinds ⊆ snodeMessageKinds := by simp [verifierMessageKinds, snodeMessageKinds]
    rw [SignedForm.hash, verifierMessageHash, canonicalMessage, canonicalVerifierBody,
      canonicalBody_received _ _ hkinds]
    exact hsigned
  | byteSideScan m =>
    refine ⟨.byteSideScan m.canon, by simp [SignedForm.received], fun _ => ?_, False.elim⟩
    have hbody : scanBody m.canon = scanBody m := by simp [scanBody, ByteSideScanMsg.canon]
    rw [SignedForm.hash, scanHash, hbody]
    exact hsigned
  | memberReady ctx body =>
    refine ⟨.memberReady ctx body, ?_, fun _ => hsigned, False.elim⟩
    simp only [SignedForm.received, memberReadyToRequest_spec]
    rfl
  | memberCheckpoint ctx cp =>
    obtain ⟨cp', hcanonical, -⟩ := digestOf_eq_ok.mp hsigned
    have hknown : cp.ReasonsKnown := reasonsKnown_of_canonical hcanonical
    refine ⟨.memberCheckpoint ctx cp.canon, ?_, fun _ => ?_, False.elim⟩
    · have hdecoded := memberCheckpointFromRequest_toPB (v := ⟨cp, token⟩) hknown
      simp only [SignedForm.received, hdecoded, Except.map, MemberCheckpoint.canon]
    · rw [SignedForm.hash, memberCheckpointHash, canonicalMemberCheckpoint_canon]
      exact hsigned

open scoped Text.Unicode in
/-- An acknowledgement with empty lists keeps its hash. -/
theorem hash_received_promotion_ack :
    let ack : PromotionAck := { (default : PromotionAck) with nodeID := "snode-1", parts := some [] }
    let form := SignedForm.snodeMessage ⟨"promotion_ack", ⟨"net", "genesis"⟩, .promotionAck ack⟩
    ∃ h form', form.hash CanonicalDigest.counted.hash = .ok h ∧ form.received "jws" = .ok form' ∧
      form'.hash CanonicalDigest.counted.hash = .ok h := by
  intro ack form
  have hcanonical : canonicalMessage canonicalSNodeBody
      ⟨"promotion_ack", ⟨"net", "genesis"⟩, .promotionAck ack⟩ = .ok _ :=
    bind_eq_ok.mpr ⟨.promotionAck ack.canon, rfl, bind_eq_ok.mpr ⟨(), refuseIf_eq_ok.mpr (by decide), rfl⟩⟩
  obtain ⟨h, hsigned⟩ : ∃ h, form.hash CanonicalDigest.counted.hash = .ok h :=
    ⟨_, digestOf_eq_ok.mpr ⟨_, hcanonical, rfl⟩⟩
  obtain ⟨form', hreceived, hhash, -⟩ := hash_received "jws" hsigned
  exact ⟨h, form', hsigned, hreceived, hhash id⟩

open scoped Text.Unicode in
/-- A promotion with an empty list that is not nil is decoded with nil, which has
    another hash. -/
theorem promotion_empty_list_changes_hash :
    let cmd : PromoteSafePartition :=
      { (default : PromoteSafePartition) with tableID := "db.t", promotionSeq := 7, candidateParts := some [] }
    ∃ h form', (SignedForm.promotion cmd).hash CanonicalDigest.counted.hash = .ok h ∧
      (SignedForm.promotion cmd).received "jws" = .ok form' ∧
      form'.hash CanonicalDigest.counted.hash ≠ .ok h := by
  intro cmd
  refine ⟨_, .promotion cmd.canon, rfl, by simp [SignedForm.received], ?_⟩
  exact promoteCommandHash_canon_ne CanonicalDigest.counted.injective rfl

end ArbiterCore.Authority
