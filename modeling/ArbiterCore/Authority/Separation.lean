-- SUMMARY: A token of one operation is accepted for no other (authority).
import Mathlib.Data.Fintype.Basic
import ArbiterCore.Authority.Tokens

/-!
# Separation of tokens

`Operation` is a call of one of the signers of the package, or of its verifier:
a family, a command and, where the family has one, a consensus context. `Holds`
says what a token holds that a signer made, `Demands` what a verifier found in a
token that it accepts. Each signer and each verifier is read once; that the
two agree only for one family and one canonical command is then an argument about
the formats of tokens.
-/

namespace ArbiterCore.Authority

open GoSlice (Slice)
open Wire Json Text

section

variable [Unicode]

/-! ## Families -/

inductive Family where
  | promotion
  | cleanup
  | consensusParamsUpdate
  | evictNode
  | quarantineIndexer
  | releaseIndexer
  | settleTrack
  | rebalanceGroup
  | reselectVerifiers
  | markMemberLagging
  | snapshotQueryAbort
  | queryProfileActivation
  | artifactDisposition
  | snodeEnrollment
  | groupMemberConsent
  | snodeMessage
  | verifierMessage
  | memberReady
  | memberCheckpoint
  deriving DecidableEq

/-- How a family treats a consensus context: it has none, a token may carry one
    that no verifier reads, or the verifier compares it. -/
inductive Binding where
  | none
  | carried
  | checked

/-- How a family writes its tokens. -/
inductive Format where
  /-- A JWS with a purpose and a hash. -/
  | command (purpose : String)
  /-- A JWS with a purpose, a version and the command under a name. -/
  | exact (purpose : String) (version : UInt32) (name : String)
  /-- An ed25519 signature of the hash. -/
  | ed25519
  deriving DecidableEq

namespace Family

instance : Fintype Family :=
  Fintype.ofList
    [promotion, cleanup, consensusParamsUpdate, evictNode, quarantineIndexer, releaseIndexer, settleTrack,
      rebalanceGroup, reselectVerifiers, markMemberLagging, snapshotQueryAbort, queryProfileActivation,
      artifactDisposition, snodeEnrollment, groupMemberConsent, snodeMessage, verifierMessage, memberReady,
      memberCheckpoint]
    (by intro f; cases f <;> decide)

def Command : Family → Type
  | promotion => PromoteSafePartition
  | cleanup => UnsafeCleanup
  | consensusParamsUpdate => ConsensusParamsUpdate
  | evictNode => EvictNodeCommand
  | quarantineIndexer => QuarantineIndexerCommand
  | releaseIndexer => ReleaseIndexerCommand
  | settleTrack => SettleTrackCommand
  | rebalanceGroup => RebalanceGroupCommand
  | reselectVerifiers => ReselectVerifiersCommand
  | markMemberLagging => MarkMemberLaggingCommand
  | snapshotQueryAbort => SnapshotQueryAbortRecord
  | queryProfileActivation => ActiveQueryPolicy
  | artifactDisposition => ArtifactDispositionCommandV1
  | snodeEnrollment => SNodeEnrollmentStatement
  | groupMemberConsent => GroupMemberConsentStatement
  | snodeMessage => Message
  | verifierMessage => Message
  | memberReady => MessageContext × MemberReadyBody
  | memberCheckpoint => MessageContext × MemberCheckpointBody

/-- A disposition command is canonical as the JSON that is signed. -/
def Canonical : Family → Type
  | artifactDisposition => Json
  | f => f.Command

def binding : Family → Binding
  | promotion | cleanup => .carried
  | evictNode | quarantineIndexer | releaseIndexer | settleTrack | rebalanceGroup | reselectVerifiers
  | markMemberLagging => .checked
  | _ => .none

def format : Family → Format
  | promotion | cleanup => .command promotionPurpose
  | consensusParamsUpdate => .command consensusParamsUpdatePurpose
  | evictNode => .command evictNodePurpose
  | quarantineIndexer => .command quarantineIndexerPurpose
  | releaseIndexer => .command releaseIndexerPurpose
  | settleTrack => .command settleTrackPurpose
  | rebalanceGroup => .command rebalanceGroupPurpose
  | reselectVerifiers => .command reselectVerifiersPurpose
  | markMemberLagging => .command markMemberLaggingPurpose
  | snapshotQueryAbort => .command snapshotQueryAbortPurpose
  | queryProfileActivation => .exact queryProfileActivationPurpose queryProfileActivationVersion "activation"
  | artifactDisposition => .exact artifactDispositionAdminPurpose artifactDispositionAdminVersion "command"
  | snodeEnrollment => .command snodeEnrollmentPurpose
  | groupMemberConsent => .command groupMemberConsentPurpose
  | snodeMessage => .command snodeMessagePurpose
  | verifierMessage => .ed25519
  | memberReady => .ed25519
  | memberCheckpoint => .command memberCheckpointPurpose

def domain : Family → String
  | promotion => promoteCommandDomain
  | cleanup => cleanupCommandDomain
  | consensusParamsUpdate => consensusParamsUpdateDomain
  | evictNode => evictNodeCommandDomain
  | quarantineIndexer => quarantineIndexerCommandDomain
  | releaseIndexer => releaseIndexerCommandDomain
  | settleTrack => settleTrackCommandDomain
  | rebalanceGroup => rebalanceGroupCommandDomain
  | reselectVerifiers => reselectVerifiersCommandDomain
  | markMemberLagging => markMemberLaggingCommandDomain
  | snapshotQueryAbort => snapshotQueryAbortCommandDomain
  | queryProfileActivation => queryProfileActivationCommandDomain
  | artifactDisposition => artifactDispositionCommandDomain
  | snodeEnrollment => snodeEnrollmentDomain
  | groupMemberConsent => groupMemberConsentDomain
  | snodeMessage => snodeMessageDomain
  | verifierMessage => verifierMessageDomain
  | memberReady => memberReadyDomain
  | memberCheckpoint => memberCheckpointDomain

def canonical : (f : Family) → f.Command → Except String f.Canonical
  | promotion, cmd => .ok cmd
  | cleanup, cmd => .ok cmd
  | consensusParamsUpdate, cmd => normalizeConsensusParamsUpdate cmd
  | evictNode, cmd => canonicalEvictNode cmd
  | quarantineIndexer, cmd => canonicalQuarantineIndexer cmd
  | releaseIndexer, cmd => canonicalReleaseIndexer cmd
  | settleTrack, cmd => canonicalSettleTrack cmd
  | rebalanceGroup, cmd => canonicalRebalanceGroup cmd
  | reselectVerifiers, cmd => canonicalReselectVerifiers cmd
  | markMemberLagging, cmd => canonicalMarkMemberLagging cmd
  | snapshotQueryAbort, r => canonicalSnapshotQueryAbort r
  | queryProfileActivation, p => canonicalQueryProfileActivation p
  | artifactDisposition, cmd => (checkArtifactDispositionCommand cmd).map fun _ => cmd.json
  | snodeEnrollment, stmt => canonicalSNodeEnrollment stmt
  | groupMemberConsent, stmt => canonicalGroupMemberConsent stmt
  | snodeMessage, m => canonicalMessage canonicalSNodeBody m
  | verifierMessage, m => canonicalMessage canonicalVerifierBody m
  | memberReady, (ctx, body) => (canonicalMemberReady ctx body).map (ctx, ·)
  | memberCheckpoint, (ctx, cp) => (canonicalMemberCheckpoint ctx cp).map (ctx, ·)

def json : (f : Family) → f.Canonical → Json
  | promotion => PromoteSafePartition.json
  | cleanup => UnsafeCleanup.json
  | consensusParamsUpdate => ConsensusParamsUpdate.json
  | evictNode => EvictNodeCommand.json
  | quarantineIndexer => QuarantineIndexerCommand.json
  | releaseIndexer => ReleaseIndexerCommand.json
  | settleTrack => SettleTrackCommand.json
  | rebalanceGroup => RebalanceGroupCommand.json
  | reselectVerifiers => ReselectVerifiersCommand.json
  | markMemberLagging => MarkMemberLaggingCommand.json
  | snapshotQueryAbort => SnapshotQueryAbortRecord.json
  | queryProfileActivation => ActiveQueryPolicy.json
  | artifactDisposition => fun j => j
  | snodeEnrollment => SNodeEnrollmentStatement.json
  | groupMemberConsent => GroupMemberConsentStatement.json
  | snodeMessage => Message.json
  | verifierMessage => Message.json
  | memberReady => fun m => memberMessageJSON m.1 m.2.json
  | memberCheckpoint => fun m => memberMessageJSON m.1 m.2.json

omit [Unicode] in
/-- Families that share a purpose differ in the domain of their digests. -/
theorem domain_inj : ∀ {f g : Family}, f.domain = g.domain → f = g := by
  decide

omit [Unicode] in
/-- A purpose of an exact payload belongs to one family. -/
theorem format_exact_inj : ∀ {f g : Family} {purpose : String} {version : UInt32} {name : String},
    f.format = .exact purpose version name → g.format = .exact purpose version name → f = g := by
  intro f g purpose version name hf hg
  have hinj : ∀ f g : Family, f.format = g.format → f.format ≠ .command promotionPurpose →
      f.format ≠ .ed25519 → f = g := by
    decide
  exact hinj f g (hf.trans hg.symm) (by simp [hf]) (by simp [hf])

end Family

/-! ## Operations -/

def Binding.Context : Binding → Type
  | .none => Unit
  | .carried => Option ConsensusContext
  | .checked => ConsensusContext

/-- The context that a token carries. -/
def Binding.inToken : (b : Binding) → b.Context → Option ConsensusContext
  | .none, _ => Option.none
  | .carried, ctx => ctx
  | .checked, ctx => some ctx

/-- The context that a verifier compares with the one of the token. -/
def Binding.compared : (b : Binding) → b.Context → Option ConsensusContext
  | .none, _ => Option.none
  | .carried, _ => Option.none
  | .checked, ctx => some ctx

/-- A call of the signer or of the verifier of a family. -/
structure Operation where
  family : Family
  command : family.Command
  context : family.binding.Context

/-- The keys of a signer. -/
structure Keys (S : Scheme) where
  secp256k1 : S.secp256k1.Key
  ed25519 : List UInt8

/-- What a verifier knows: its validator and clock, the signer or the public key
    it expects, and whether it checks the age where both forms exist. -/
structure Verifier where
  validator : Validator
  now : Int64
  signer : String
  publicKey : List UInt8
  enforceAge : Bool

namespace Operation

variable {S : Scheme}

def sign (keys : Keys S) (iat : Int64) : Operation → Except String (Credential S)
  | ⟨.promotion, cmd, none⟩ => signPromotionAt keys.secp256k1 cmd iat
  | ⟨.promotion, cmd, some ctx⟩ => signPromotionWithContextAt keys.secp256k1 cmd ctx iat
  | ⟨.cleanup, cmd, none⟩ => signCleanup keys.secp256k1 cmd iat
  | ⟨.cleanup, cmd, some ctx⟩ => signCleanupWithContextAt keys.secp256k1 cmd ctx iat
  | ⟨.consensusParamsUpdate, cmd, _⟩ => signConsensusParamsUpdateAt keys.secp256k1 cmd iat
  | ⟨.evictNode, cmd, ctx⟩ => signEvictNodeWithContextAt keys.secp256k1 ctx iat cmd
  | ⟨.quarantineIndexer, cmd, ctx⟩ => signQuarantineIndexerWithContextAt keys.secp256k1 ctx iat cmd
  | ⟨.releaseIndexer, cmd, ctx⟩ => signReleaseIndexerWithContextAt keys.secp256k1 ctx iat cmd
  | ⟨.settleTrack, cmd, ctx⟩ => signSettleTrackWithContextAt keys.secp256k1 ctx iat cmd
  | ⟨.rebalanceGroup, cmd, ctx⟩ => signRebalanceGroupWithContextAt keys.secp256k1 ctx iat cmd
  | ⟨.reselectVerifiers, cmd, ctx⟩ => signReselectVerifiersWithContextAt keys.secp256k1 ctx iat cmd
  | ⟨.markMemberLagging, cmd, ctx⟩ => signMarkMemberLaggingWithContextAt keys.secp256k1 ctx iat cmd
  | ⟨.snapshotQueryAbort, r, _⟩ => signSnapshotQueryAbortAt keys.secp256k1 r iat
  | ⟨.queryProfileActivation, p, _⟩ => signQueryProfileActivationAt keys.secp256k1 p iat
  | ⟨.artifactDisposition, cmd, _⟩ => signArtifactDispositionCommandAt keys.secp256k1 cmd iat
  | ⟨.snodeEnrollment, stmt, _⟩ => signSNodeEnrollmentAt keys.secp256k1 iat stmt
  | ⟨.groupMemberConsent, stmt, _⟩ => signGroupMemberConsentAt keys.secp256k1 iat stmt
  | ⟨.snodeMessage, m, _⟩ => signSNodeMessageAt keys.secp256k1 iat m
  | ⟨.verifierMessage, m, _⟩ => signVerifierMessage keys.ed25519 m
  | ⟨.memberReady, (ctx, body), _⟩ => signMemberReady keys.ed25519 ctx body
  | ⟨.memberCheckpoint, (ctx, cp), _⟩ => signMemberCheckpointAt keys.secp256k1 iat ctx cp

/-- The verifier of the family accepts the token for the command and the context. -/
def accepts (w : Verifier) (token : Credential S) : Operation → Bool
  | ⟨.promotion, cmd, _⟩ => (w.validator.authorizePromotion w.now cmd token).isOk
  | ⟨.cleanup, cmd, _⟩ => (w.validator.authorizeCleanup w.now cmd token).isOk
  | ⟨.consensusParamsUpdate, cmd, _⟩ =>
    (w.validator.verifyConsensusParamsUpdate w.now cmd token w.enforceAge).isOk
  | ⟨.evictNode, cmd, ctx⟩ => (w.validator.verifyEvictNode ctx w.now token w.enforceAge cmd).isOk
  | ⟨.quarantineIndexer, cmd, ctx⟩ => (w.validator.verifyQuarantineIndexer ctx w.now token w.enforceAge cmd).isOk
  | ⟨.releaseIndexer, cmd, ctx⟩ => (w.validator.verifyReleaseIndexer ctx w.now token w.enforceAge cmd).isOk
  | ⟨.settleTrack, cmd, ctx⟩ => (w.validator.authorizeSettleTrack ctx w.now token cmd).isOk
  | ⟨.rebalanceGroup, cmd, ctx⟩ => (w.validator.verifyRebalanceGroup ctx w.now token w.enforceAge cmd).isOk
  | ⟨.reselectVerifiers, cmd, ctx⟩ => (w.validator.verifyReselectVerifiers ctx w.now token w.enforceAge cmd).isOk
  | ⟨.markMemberLagging, cmd, ctx⟩ => (w.validator.verifyMarkMemberLagging ctx w.now token w.enforceAge cmd).isOk
  | ⟨.snapshotQueryAbort, r, _⟩ => (w.validator.verifySnapshotQueryAbort w.now r token w.enforceAge).isOk
  | ⟨.queryProfileActivation, p, _⟩ => (w.validator.verifyQueryProfileActivation w.now p token w.enforceAge).isOk
  | ⟨.artifactDisposition, cmd, _⟩ => (w.validator.verifyArtifactDispositionCommand cmd token).isOk
  | ⟨.snodeEnrollment, stmt, _⟩ => (verifySNodeEnrollment token w.signer stmt).isOk
  | ⟨.groupMemberConsent, stmt, _⟩ => (verifyGroupMemberConsent token w.signer stmt).isOk
  | ⟨.snodeMessage, m, _⟩ => (verifySNodeMessage token w.signer m).isOk
  | ⟨.verifierMessage, m, _⟩ => (verifyVerifierMessage w.publicKey m token).isOk
  | ⟨.memberReady, (ctx, body), _⟩ => (verifyMemberReady w.publicKey ctx body token).isOk
  | ⟨.memberCheckpoint, (ctx, cp), _⟩ => (verifyMemberCheckpoint token w.signer ctx cp).isOk

/-- The family with the canonical command, which has the message context in it. -/
def canonical (op : Operation) : Except String ((f : Family) × f.Canonical) :=
  (op.family.canonical op.command).map (⟨op.family, ·⟩)

/-- The consensus context that the verifier of the operation compares. -/
def comparedContext (op : Operation) : Option ConsensusContext := op.family.binding.compared op.context

end Operation

/-! ## Canonical forms and their JSON -/

omit [Unicode] in
theorem isOk_iff {α : Type} {x : Except String α} : x.isOk = true ↔ ∃ a, x = .ok a := by
  cases x <;> simp [Except.isOk, Except.toBool]

omit [Unicode] in
theorem map_eq_ok {α β : Type} {x : Except String α} {f : α → β} {b : β} :
    x.map f = .ok b ↔ ∃ a, x = .ok a ∧ f a = b := by
  cases x <;> simp [Except.map]

/-! A list in normal form is nil when it is empty. -/

omit [Unicode] in
theorem nilIfEmpty_of_sorted {α β : Type} {f : α → Except String β} {l : List α} {out : List β}
    {r : β → β → Prop} [DecidableRel r] (hl : l ≠ []) (hout : l.mapM f = .ok out) :
    Slice.nilIfEmpty (some (out.insertionSort r)) = some (out.insertionSort r) := by
  refine Slice.nilIfEmpty_eq_self.mpr fun hnil => hl ?_
  have hempty : out = [] := by
    have hlength := List.length_insertionSort r out
    rw [Option.some.inj hnil] at hlength
    exact List.eq_nil_of_length_eq_zero hlength.symm
  exact List.forall₂_nil_right_iff.mp (Except.mapM_eq_ok.mp (hempty ▸ hout))

theorem nilIfEmpty_of_normalizeSIIndexers {entries out : Slice SIIndexerEntry} {maxWriters : UInt64}
    (h : normalizeSIIndexers entries maxWriters = .ok out) : out.nilIfEmpty = out := by
  unfold normalizeSIIndexers at h
  split at h
  · obtain rfl := pure_eq_ok.mp h
    rfl
  next hentries =>
  simp only [bind_eq_ok, pure_eq_ok] at h
  obtain ⟨out, hout, -, -, -, -, rfl⟩ := h
  exact nilIfEmpty_of_sorted hentries hout

theorem nilIfEmpty_of_normalizeVerifiers {entries out : Slice VerifierEntry} {siIndexers : Slice SIIndexerEntry}
    {stage3 : Option Stage3Params} (h : normalizeVerifiers entries siIndexers stage3 = .ok out) :
    out.nilIfEmpty = out := by
  unfold normalizeVerifiers at h
  split at h
  · obtain rfl := pure_eq_ok.mp h
    rfl
  next hentries =>
  simp only [bind_eq_ok, pure_eq_ok] at h
  obtain ⟨out, hout, -, -, -, -, rfl⟩ := h
  exact nilIfEmpty_of_sorted hentries hout

omit [Unicode] in
theorem trim_of_normalizeStage3 {params out : Option Stage3Params} {tracks : Bool} {siIndexers : Slice SIIndexerEntry}
    (h : normalizeStage3 params tracks siIndexers = .ok out) : out.map Stage3Params.trim = out := by
  cases params with
  | none =>
    obtain rfl := pure_eq_ok.mp h
    rfl
  | some p =>
    simp only [normalizeStage3, bind_eq_ok, pure_eq_ok] at h
    obtain ⟨-, -, -, -, -, -, -, -, rfl⟩ := h
    simp [Stage3Params.trim]

theorem trim_of_normalize {cmd out : ConsensusParamsUpdate} (h : normalizeConsensusParamsUpdate cmd = .ok out) :
    out.trim = out := by
  simp only [normalizeConsensusParamsUpdate, wrapError_eq_ok, bind_eq_ok, pure_eq_ok] at h
  obtain ⟨-, -, -, -, -, -, -, -, -, -, -, -, -, -, siIndexers, hindexers, stage3, hstage3, verifiers, hverifiers,
    rfl⟩ := h
  simp only [ConsensusParamsUpdate.trim, nilIfEmpty_of_normalizeSIIndexers hindexers,
    nilIfEmpty_of_normalizeVerifiers hverifiers, trim_of_normalizeStage3 hstage3]

section

omit [Unicode]

theorem trim_of_canonicalReleaseIndexer {cmd out : ReleaseIndexerCommand}
    (h : canonicalReleaseIndexer cmd = .ok out) : out.trim = out := by
  simp only [canonicalReleaseIndexer, bind_eq_ok, pure_eq_ok] at h
  obtain ⟨-, -, rfl⟩ := h
  simp [ReleaseIndexerCommand.trim]

theorem trim_of_canonicalRebalanceGroup {cmd out : RebalanceGroupCommand}
    (h : canonicalRebalanceGroup cmd = .ok out) : out.trim = out := by
  simp only [canonicalRebalanceGroup, bind_eq_ok, pure_eq_ok] at h
  obtain ⟨-, -, -, -, rfl⟩ := h
  simp [RebalanceGroupCommand.trim]

theorem trim_of_canonicalMemberCheckpoint {ctx : MessageContext} {cp out : MemberCheckpointBody}
    (h : canonicalMemberCheckpoint ctx cp = .ok out) : out.trim = out := by
  simp only [canonicalMemberCheckpoint, bind_eq_ok, pure_eq_ok] at h
  obtain ⟨-, -, -, -, -, -, groups, hgroups, -, -, rfl⟩ := h
  have htrim : groups.map CheckpointGroup.trim = groups := by
    generalize cp.groups.elems = given at hgroups
    induction given generalizing groups with
    | nil =>
      obtain rfl := pure_eq_ok.mp hgroups
      rfl
    | cons g given ih =>
      simp only [List.mapM_cons, bind_eq_ok, pure_eq_ok] at hgroups
      obtain ⟨g', hg, rest, hrest, rfl⟩ := hgroups
      simp only [canonicalCheckpointGroup, bind_eq_ok, pure_eq_ok] at hg
      obtain ⟨-, -, rfl⟩ := hg
      rw [List.map_cons, ih rest hrest]
      simp [CheckpointGroup.trim]
  simp [MemberCheckpointBody.trim, htrim]

/-! ## Messages -/

theorem canonicalBody_eq_ok {sender kind : String} {kinds : MessageKinds} {x body : MessageBody}
    (h : canonicalBody sender kinds kind x = .ok body) :
    ∃ canonical, kinds.lookup kind = some canonical ∧ canonical x = some body := by
  unfold canonicalBody at h
  split at h
  · cases h
  next canonical hlookup =>
  refine ⟨canonical, hlookup, ?_⟩
  split at h
  · cases h
  · next hbody => rw [hbody, pure_eq_ok.mp h]

/-- A kind takes bodies of one type, so that the JSON of a canonical one
    determines it. -/
theorem kind_json_inj : ∀ entry ∈ snodeMessageKinds, ∀ {x y body body' : MessageBody},
    entry.2 x = some body → entry.2 y = some body' → body.json = body'.json → body = body' := by
  simp only [snodeMessageKinds, List.forall_mem_cons, List.not_mem_nil, false_imp_iff, implies_true, and_true]
  refine ⟨?_, ?_, ?_, ?_, ?_, ?_⟩ <;> intro x y body body' hx hy hjson <;>
    cases x <;> cases y <;> cases hx <;> cases hy
  · exact congrArg MessageBody.registration (NodeRegistration.json_inj hjson)
  · exact congrArg MessageBody.markActive (MarkActiveBody.json_inj hjson)
  · exact congrArg MessageBody.resultClaim (RCRecord.json_inj hjson)
  · have htrim := PromotionAck.json_inj hjson
    simp only [PromotionAck.trim, Slice.nilIfEmpty_idem] at htrim
    exact congrArg MessageBody.promotionAck htrim
  · exact congrArg MessageBody.cleanupAck (CleanupAck.json_inj hjson)
  · exact congrArg MessageBody.tablePurged (TablePurgedBody.json_inj hjson)

theorem canonicalMessage_json_inj {sender : String} {kinds : MessageKinds} (hkinds : kinds ⊆ snodeMessageKinds)
    {x y m m' : Message} (hx : canonicalMessage (canonicalBody sender kinds) x = .ok m)
    (hy : canonicalMessage (canonicalBody sender kinds) y = .ok m') (hjson : m.json = m'.json) : m = m' := by
  simp only [canonicalMessage, bind_eq_ok, pure_eq_ok] at hx hy
  obtain ⟨body, hbody, -, -, rfl⟩ := hx
  obtain ⟨body', hbody', -, -, rfl⟩ := hy
  have hfields := object_inj hjson rfl rfl
  simp only [List.cons.injEq, Field.text_inj, Field.nested_inj, MessageContext.json_inj.eq_iff, and_true] at hfields
  obtain ⟨hkind, hcontext, hbodies⟩ := hfields
  obtain ⟨canonical, hlookup, hcanonical⟩ := canonicalBody_eq_ok hbody
  obtain ⟨canonical', hlookup', hcanonical'⟩ := canonicalBody_eq_ok hbody'
  obtain rfl : canonical = canonical' := Option.some.inj (hlookup.symm.trans (hkind ▸ hlookup'))
  obtain ⟨before, after, rfl, -⟩ := List.lookup_eq_some_iff.mp hlookup
  have hsame := kind_json_inj (x.kind, canonical) (hkinds (by simp)) hcanonical hcanonical' hbodies
  simp only [hkind, hcontext, hsame]

theorem memberMessageJSON_inj {ctx ctx' : MessageContext} {j j' : Json}
    (h : memberMessageJSON ctx j = memberMessageJSON ctx' j') : ctx = ctx' ∧ j = j' := by
  have hfields := object_inj h rfl rfl
  simpa [MessageContext.json_inj.eq_iff] using hfields

end

/-! ## Every family -/

/-- The JSON that is signed determines the canonical command. -/
theorem Family.json_inj {f : Family} {x y : f.Command} {c c' : f.Canonical} (hx : f.canonical x = .ok c)
    (hy : f.canonical y = .ok c') (hjson : f.json c = f.json c') : c = c' := by
  cases f with
  | promotion => exact PromoteSafePartition.json_inj hjson
  | cleanup => exact UnsafeCleanup.json_inj hjson
  | consensusParamsUpdate =>
    have htrim := ConsensusParamsUpdate.json_inj hjson
    exact (trim_of_normalize hx).symm.trans (htrim.trans (trim_of_normalize hy))
  | evictNode => exact EvictNodeCommand.json_inj hjson
  | quarantineIndexer => exact QuarantineIndexerCommand.json_inj hjson
  | releaseIndexer =>
    have htrim := ReleaseIndexerCommand.json_inj hjson
    exact (trim_of_canonicalReleaseIndexer hx).symm.trans (htrim.trans (trim_of_canonicalReleaseIndexer hy))
  | settleTrack => exact SettleTrackCommand.json_inj hjson
  | rebalanceGroup =>
    have htrim := RebalanceGroupCommand.json_inj hjson
    exact (trim_of_canonicalRebalanceGroup hx).symm.trans (htrim.trans (trim_of_canonicalRebalanceGroup hy))
  | reselectVerifiers => exact ReselectVerifiersCommand.json_inj hjson
  | markMemberLagging => exact MarkMemberLaggingCommand.json_inj hjson
  | snapshotQueryAbort => exact SnapshotQueryAbortRecord.json_inj hjson
  | queryProfileActivation => exact ActiveQueryPolicy.json_inj hjson
  | artifactDisposition => exact hjson
  | snodeEnrollment => exact SNodeEnrollmentStatement.json_inj hjson
  | groupMemberConsent => exact GroupMemberConsentStatement.json_inj hjson
  | snodeMessage => exact canonicalMessage_json_inj (by simp) hx hy hjson
  | verifierMessage =>
    have hkinds : verifierMessageKinds ⊆ snodeMessageKinds := by simp [verifierMessageKinds, snodeMessageKinds]
    exact canonicalMessage_json_inj hkinds hx hy hjson
  | memberReady =>
    obtain ⟨hctx, hbody⟩ := memberMessageJSON_inj hjson
    exact Prod.ext hctx (MemberReadyBody.json_inj hbody)
  | memberCheckpoint =>
    obtain ⟨hctx, hbody⟩ := memberMessageJSON_inj hjson
    obtain ⟨cp, hcp, rfl⟩ := map_eq_ok.mp hx
    obtain ⟨cp', hcp', rfl⟩ := map_eq_ok.mp hy
    have htrim := MemberCheckpointBody.json_inj hbody
    rw [trim_of_canonicalMemberCheckpoint hcp, trim_of_canonicalMemberCheckpoint hcp'] at htrim
    exact Prod.ext hctx htrim

/-! ## Payloads -/

omit [Unicode] in
theorem readInt64_num (old n : Int64) : readInt64 old (.num n.toInt) = .ok n := by
  have hbounds : Int64.minValue.toInt ≤ n.toInt ∧ n.toInt ≤ Int64.maxValue.toInt :=
    ⟨Int64.minValue_le_toInt n, Int64.toInt_le n⟩
  simp only [readInt64, if_pos hbounds, Int64.ofInt_toInt]
  rfl

omit [Unicode] in
theorem readUint64Ptr_number (n : UInt64) : readUint64Ptr (number n) = .ok (some n) := by
  have hbounds : (0 : Int) ≤ n.toNat ∧ (n.toNat : Int) < 2 ^ 64 := ⟨by omega, by exact_mod_cast n.toNat_lt⟩
  simp only [readUint64Ptr, number, if_pos hbounds, Int.toNat_natCast, UInt64.ofNat_toNat]
  rfl

/-- The names of the fields stand for themselves. -/
theorem fold_names : fold "iat" = "iat" ∧ fold "purpose" = "purpose" ∧ fold "cmd_hash" = "cmd_hash" ∧
    fold "network_id" = "network_id" ∧ fold "genesis_snapshot_id" = "genesis_snapshot_id" ∧
    fold "authority_epoch" = "authority_epoch" := by
  refine ⟨?_, ?_, ?_, ?_, ?_, ?_⟩ <;> exact IsSmall.fold_eq (by decide)

variable {name : String}

section Set

variable (p : JWSCommandPayload) (s : String)

theorem set_iat (n : Int64) : p.set ("iat", .num n.toInt) = .ok { p with iat := n } := by
  simp only [JWSCommandPayload.set, fold_names, readInt64_num]
  rfl

theorem set_purpose : p.set ("purpose", .str s) = .ok { p with purpose := s } := by
  simp only [JWSCommandPayload.set, fold_names]
  rfl

theorem set_cmdHash : p.set ("cmd_hash", .str s) = .ok { p with cmdHash := s } := by
  simp only [JWSCommandPayload.set, fold_names]
  rfl

theorem set_networkID : p.set ("network_id", .str s) = .ok { p with networkID := s } := by
  simp only [JWSCommandPayload.set, fold_names]
  rfl

theorem set_genesisSnapshotID :
    p.set ("genesis_snapshot_id", .str s) = .ok { p with genesisSnapshotID := s } := by
  simp only [JWSCommandPayload.set, fold_names]
  rfl

theorem set_authorityEpoch (n : UInt64) :
    p.set ("authority_epoch", number n) = .ok { p with authorityEpoch := some n } := by
  simp only [JWSCommandPayload.set, fold_names, readUint64Ptr_number]
  rfl

/-- The names of exact payloads that a command payload does not have. -/
theorem set_other (hname : name ∈ ["version", "activation", "command"]) (j : Json) :
    p.set (name, j) = .ok p := by
  have hsmall : ∀ name ∈ ["version", "activation", "command"], IsSmall name := by decide
  simp only [JWSCommandPayload.set, (hsmall name hname).fold_eq]
  simp only [List.mem_cons, List.not_mem_nil, or_false] at hname
  obtain rfl | rfl | rfl := hname <;> rfl

end Set

/-- Reads the fields of a struct into a payload. -/
def JWSCommandPayload.read (p : JWSCommandPayload) (fields : List Field) : Except String JWSCommandPayload :=
  (fields.filterMap fun f => f.value.map (f.name, ·)).foldlM JWSCommandPayload.set p

theorem read_value {p q : JWSCommandPayload} {j : Json} {fields : List Field}
    (h : p.set (name, j) = .ok q) : p.read (⟨name, some j⟩ :: fields) = q.read fields := by
  simp [JWSCommandPayload.read, h, bind, Except.bind]

/-- A field that is left out keeps its zero value. -/
theorem read_omitText {p q : JWSCommandPayload} {s : String} {fields : List Field}
    (h : p.set (name, .str s) = .ok q) (hempty : s = "" → p = q) :
    p.read (.omitText name s :: fields) = q.read fields := by
  by_cases hs : s = ""
  · rw [Field.omitText, if_pos hs, ← hempty hs]
    rfl
  · rw [Field.omitText, if_neg hs, read_value h]

theorem unmarshalPayload_json (p : JWSCommandPayload) : unmarshalPayload p.json = .ok p := by
  obtain ⟨iat, purpose, cmdHash, networkID, genesisSnapshotID, authorityEpoch⟩ := p
  change (default : JWSCommandPayload).read _ = _
  refine (read_value (set_iat _ iat)).trans ?_
  refine (read_value (set_purpose _ purpose)).trans ?_
  refine (read_value (set_cmdHash _ cmdHash)).trans ?_
  refine (read_omitText (set_networkID _ networkID) (by rintro rfl; rfl)).trans ?_
  refine (read_omitText (set_genesisSnapshotID _ genesisSnapshotID) (by rintro rfl; rfl)).trans ?_
  cases authorityEpoch with
  | none => rfl
  | some epoch => exact read_value (set_authorityEpoch _ epoch)

variable {iat : Int64} {purpose : String}

/-- A verifier of command payloads finds the purpose of an exact one. -/
theorem unmarshalPayload_exactPayload {version : UInt32} {command : Json}
    (hname : name ∈ ["activation", "command"]) :
    unmarshalPayload (exactPayload purpose version iat name command) =
      .ok { (default : JWSCommandPayload) with iat := iat, purpose := purpose } := by
  have hversion : "version" ∈ ["version", "activation", "command"] := List.mem_cons_self
  have hother : name ∈ ["version", "activation", "command"] := List.mem_cons_of_mem _ hname
  simp only [unmarshalPayload, exactPayload, object, Field.text, Field.uint32, Field.int64, Field.nested,
    List.filterMap_cons, Option.map_some, List.filterMap_nil, List.foldlM_cons, List.foldlM_nil, set_purpose,
    set_other _ hversion, set_iat, set_other _ hother]
  rfl

/-! ## What signers write -/

variable {S : Scheme}

/-- The payload of a hash under a purpose, with a context or without one. -/
def commandPayload (purpose : String) (iat : Int64) (hash : String) (ctx : Option ConsensusContext) :
    JWSCommandPayload :=
  { iat := iat, purpose := purpose, cmdHash := hash
    networkID := ctx.elim "" (·.networkID)
    genesisSnapshotID := ctx.elim "" (·.genesisSnapshotID)
    authorityEpoch := ctx.map (·.authorityEpoch) }

/-- The hash of a canonical command. -/
def Family.digest (S : Scheme) (f : Family) (c : f.Canonical) : String := S.digest.hash f.domain (f.json c)

/-- What a token holds that was signed for a canonical command. -/
def Credential.Holds (token : Credential S) (f : Family) (c : f.Canonical) (ctx : Option ConsensusContext) : Prop :=
  match f.format with
  | .command purpose => ∃ key iat, token = signPayload key (commandPayload purpose iat (f.digest S c) ctx)
  | .exact purpose version name =>
    ∃ key iat, token = signInput key (exactPayload purpose version iat name (f.json c))
  | .ed25519 => ∃ priv, token = .hex (S.ed25519.sign priv (f.digest S c))

variable {key : S.secp256k1.Key} {token : Credential S} {α : Type} {label domain : String} {json : α → Json}
  {canonical : Except String α}

omit [Unicode] in
theorem signPurpose_eq_ok
    (h : signPurpose key purpose iat (digestOf S.digest.hash domain json canonical) = .ok token) :
    ∃ c, canonical = .ok c ∧
      token = signPayload key (commandPayload purpose iat (S.digest.hash domain (json c)) none) := by
  simp only [signPurpose, bind_eq_ok, pure_eq_ok, digestOf_eq_ok] at h
  obtain ⟨-, ⟨c, hc, rfl⟩, rfl⟩ := h
  exact ⟨c, hc, rfl⟩

omit [Unicode] in
theorem signWithContextPurpose_eq_ok {ctx : ConsensusContext}
    (h : signWithContextPurpose key (digestOf S.digest.hash domain json canonical) purpose ctx iat = .ok token) :
    ∃ c, canonical = .ok c ∧
      token = signPayload key (commandPayload purpose iat (S.digest.hash domain (json c)) (some ctx)) := by
  simp only [signWithContextPurpose, bind_eq_ok, pure_eq_ok, digestOf_eq_ok] at h
  obtain ⟨-, ⟨c, hc, rfl⟩, -, -, rfl⟩ := h
  exact ⟨c, hc, rfl⟩

omit [Unicode] in
theorem signHash_eq_ok {priv : List UInt8}
    (h : signHash label priv (digestOf S.digest.hash domain json canonical) = .ok token) :
    ∃ c, canonical = .ok c ∧ ∃ priv, token = .hex (S.ed25519.sign priv (S.digest.hash domain (json c))) := by
  simp only [signHash, bind_eq_ok, pure_eq_ok, digestOf_eq_ok] at h
  obtain ⟨-, -, -, ⟨c, hc, rfl⟩, rfl⟩ := h
  exact ⟨c, hc, priv, rfl⟩

theorem signArtifactDispositionCommandAt_eq_ok {cmd : ArtifactDispositionCommandV1}
    (h : signArtifactDispositionCommandAt key cmd iat = .ok token) :
    Family.canonical .artifactDisposition cmd = .ok cmd.json ∧
      token.Holds .artifactDisposition cmd.json none := by
  simp only [signArtifactDispositionCommandAt, artifactDispositionCommandRoot, bind_eq_ok, pure_eq_ok] at h
  obtain ⟨_, ⟨_, hcheck, -⟩, -, -, -, -, rfl⟩ := h
  exact ⟨map_eq_ok.mpr ⟨_, hcheck, rfl⟩, key, iat, rfl⟩

omit [Unicode] in
theorem canonicalQueryProfileActivation_eq {p p' : ActiveQueryPolicy}
    (h : canonicalQueryProfileActivation p = .ok p') : p = p' := by
  simp only [canonicalQueryProfileActivation, bind_eq_ok, pure_eq_ok] at h
  obtain ⟨-, -, rfl⟩ := h
  rfl

omit [Unicode] in
theorem signQueryProfileActivationAt_eq_ok {p : ActiveQueryPolicy}
    (h : signQueryProfileActivationAt key p iat = .ok token) :
    canonicalQueryProfileActivation p = .ok p ∧ token.Holds .queryProfileActivation p none := by
  simp only [signQueryProfileActivationAt, queryProfileActivationHash, digestOf_eq_ok, bind_eq_ok, pure_eq_ok] at h
  obtain ⟨-, ⟨p', hp, -⟩, -, -, rfl⟩ := h
  cases canonicalQueryProfileActivation_eq hp
  exact ⟨hp, key, iat, rfl⟩

/-- The tokens of promotions and cleanups, with a context or without one. -/
theorem Operation.sign_carried {f : Family} (hcarried : f.binding = .carried) {x : f.Command}
    {ctx : f.binding.Context} {keys : Keys S} (h : Operation.sign keys iat ⟨f, x, ctx⟩ = .ok token) :
    ∃ c, f.canonical x = .ok c ∧ token = signPayload keys.secp256k1
      (commandPayload promotionPurpose iat (f.digest S c) (f.binding.inToken ctx)) := by
  cases f with
  | promotion | cleanup =>
    cases ctx with
    | none => exact signPurpose_eq_ok h
    | some ctx => exact signWithContextPurpose_eq_ok h
  | _ => cases hcarried

/-- Every signer writes the canonical form of its command. -/
theorem Operation.holds_of_sign {op : Operation} {keys : Keys S}
    (h : op.sign keys iat = .ok token) :
    ∃ c, op.family.canonical op.command = .ok c ∧
      token.Holds op.family c (op.family.binding.inToken op.context) := by
  obtain ⟨family, command, context⟩ := op
  cases family with
  | promotion | cleanup =>
    obtain ⟨c, hc, htoken⟩ := Operation.sign_carried rfl h
    exact ⟨c, hc, _, _, htoken⟩
  | evictNode | quarantineIndexer | releaseIndexer | settleTrack | rebalanceGroup | reselectVerifiers
  | markMemberLagging =>
    obtain ⟨c, hc, htoken⟩ := signWithContextPurpose_eq_ok h
    exact ⟨c, hc, _, _, htoken⟩
  | consensusParamsUpdate | snapshotQueryAbort | snodeEnrollment | groupMemberConsent | snodeMessage =>
    obtain ⟨c, hc, htoken⟩ := signPurpose_eq_ok h
    exact ⟨c, hc, _, _, htoken⟩
  | queryProfileActivation => exact ⟨_, signQueryProfileActivationAt_eq_ok h⟩
  | artifactDisposition => exact ⟨_, signArtifactDispositionCommandAt_eq_ok h⟩
  | verifierMessage => exact signHash_eq_ok h
  | memberReady =>
    obtain ⟨c, hc, htoken⟩ := signHash_eq_ok h
    exact ⟨_, map_eq_ok.mpr ⟨c, hc, rfl⟩, htoken⟩
  | memberCheckpoint =>
    obtain ⟨c, hc, htoken⟩ := signPurpose_eq_ok h
    exact ⟨_, map_eq_ok.mpr ⟨c, hc, rfl⟩, _, _, htoken⟩

/-! ## What verifiers find -/

/-- The payload has these context fields. -/
def JWSCommandPayload.HasContext (p : JWSCommandPayload) (ctx : ConsensusContext) : Prop :=
  p.networkID = ctx.networkID ∧ p.genesisSnapshotID = ctx.genesisSnapshotID ∧
    p.authorityEpoch = some ctx.authorityEpoch

/-- The token has a payload with this purpose, this hash and, if any, this context. -/
def Credential.Commands (token : Credential S) (purpose hash : String) (ctx : Option ConsensusContext) : Prop :=
  ∃ t p, token = .jws t ∧ unmarshalPayload t.payload = .ok p ∧ p.purpose = purpose ∧
    fold p.cmdHash = fold hash ∧ ∀ x ∈ ctx, p.HasContext x

/-- What a token holds that is accepted for a canonical command. -/
def Credential.Demands (token : Credential S) (f : Family) (c : f.Canonical) (ctx : Option ConsensusContext) : Prop :=
  match f.format with
  | .command purpose => token.Commands purpose (f.digest S c) ctx
  | .exact purpose version name =>
    ∃ t iat, token = .jws t ∧ t.payload = exactPayload purpose version iat name (f.json c)
  | .ed25519 => ∃ pub sig, token = .hex sig ∧ S.ed25519.verify pub (f.digest S c) sig = true

variable {v : Validator} {now : Int64} {hash addr : String} {enforceAge : Bool}

theorem verify_eq_ok (h : v.verify now hash purpose token enforceAge = .ok addr) :
    token.Commands purpose hash none := by
  cases token with
  | hex sig =>
    simp only [Validator.verify, bind_eq_ok] at h
    obtain ⟨-, -, -, -, h⟩ := h
    cases h
  | jws t =>
    simp only [Validator.verify, bind_eq_ok, wrapError_eq_ok, refuseIf_eq_ok, not_not, equalFold,
      Bool.not_eq_true', decide_eq_false_iff_not] at h
    obtain ⟨-, -, -, -, -, -, -, -, p, hp, -, hpurpose, -, hhash, -⟩ := h
    exact ⟨t, p, rfl, hp, hpurpose, hhash, nofun⟩

theorem verifyExactContext_eq_ok {ctx : ConsensusContext}
    (h : verifyExactContext v now label hash purpose token ctx enforceAge = .ok addr) :
    token.Commands purpose hash (some ctx) := by
  simp only [verifyExactContext, bind_eq_ok] at h
  obtain ⟨-, -, _, hverify, h⟩ := h
  obtain ⟨t, p, rfl, hp, hpurpose, hhash, -⟩ := verify_eq_ok hverify
  simp only [bind_eq_ok, wrapError_eq_ok, hp, Except.ok.injEq, refuseIf_eq_ok, not_or, not_not] at h
  obtain ⟨_, rfl, -, hctx, -⟩ := h
  exact ⟨t, p, rfl, hp, hpurpose, hhash, by simpa [JWSCommandPayload.HasContext] using hctx⟩

theorem verifySignedBy_eq_ok {signer : String} {u : Unit}
    (h : verifySignedBy hash purpose token signer = .ok u) : token.Commands purpose hash none := by
  simp only [verifySignedBy, bind_eq_ok, wrapError_eq_ok] at h
  obtain ⟨_, -, _, hverify, -⟩ := h
  exact verify_eq_ok hverify

omit [Unicode] in
theorem verifyHash_eq_ok {refusal : String} {pub : List UInt8}
    (h : (verifyHash label refusal pub (digestOf S.digest.hash domain json canonical) token).isOk = true) :
    ∃ c, canonical = .ok c ∧
      ∃ pub sig, token = .hex sig ∧ S.ed25519.verify pub (S.digest.hash domain (json c)) sig = true := by
  obtain ⟨u, hu⟩ := isOk_iff.mp h
  simp only [verifyHash, bind_eq_ok, digestOf_eq_ok] at hu
  obtain ⟨-, -, _, ⟨c, hc, rfl⟩, hu⟩ := hu
  cases token with
  | jws t => cases hu
  | hex sig => exact ⟨c, hc, pub, sig, rfl, by simpa [refuseIf_eq_ok] using hu⟩

omit [Unicode] in
theorem parseExactToken_eq_ok {version : UInt32} {command : Json} {r : JWS × Int64}
    (h : parseExactToken label purpose version name command token = .ok r) :
    ∃ t iat, token = .jws t ∧ t.payload = exactPayload purpose version iat name command := by
  cases token with
  | hex sig => cases h
  | jws t =>
    simp only [parseExactToken, bind_eq_ok, refuseIf_eq_ok, not_not] at h
    obtain ⟨-, -, iat, -, -, hpayload, -⟩ := h
    exact ⟨t, iat, rfl, hpayload⟩

theorem verifyQueryProfileActivation_eq_ok {p : ActiveQueryPolicy}
    (h : v.verifyQueryProfileActivation now p token enforceAge = .ok addr) :
    canonicalQueryProfileActivation p = .ok p ∧ token.Demands .queryProfileActivation p none := by
  simp only [Validator.verifyQueryProfileActivation, queryProfileActivationHash, digestOf_eq_ok, bind_eq_ok] at h
  obtain ⟨-, -, -, -, _, ⟨p', hp, -⟩, r, hparse, -⟩ := h
  cases canonicalQueryProfileActivation_eq hp
  exact ⟨hp, parseExactToken_eq_ok hparse⟩

theorem verifyArtifactDispositionCommand_eq_ok {cmd : ArtifactDispositionCommandV1}
    (h : v.verifyArtifactDispositionCommand cmd token = .ok addr) :
    Family.canonical .artifactDisposition cmd = .ok cmd.json ∧
      token.Demands .artifactDisposition cmd.json none := by
  simp only [Validator.verifyArtifactDispositionCommand, artifactDispositionCommandRoot, bind_eq_ok] at h
  obtain ⟨-, -, _, ⟨_, hcheck, -⟩, -, -, r, hparse, -⟩ := h
  exact ⟨map_eq_ok.mpr ⟨_, hcheck, rfl⟩, parseExactToken_eq_ok hparse⟩

/-- A verifier that compares the hash of its command finds that of the canonical one. -/
theorem commands_of_isOk {β : Type} {check : String → Except String β} {ctx : Option ConsensusContext}
    (hcheck : ∀ {hash b}, check hash = .ok b → token.Commands purpose hash ctx)
    (h : (digestOf S.digest.hash domain json canonical >>= check).isOk = true) :
    ∃ c, canonical = .ok c ∧ token.Commands purpose (S.digest.hash domain (json c)) ctx := by
  obtain ⟨b, hb⟩ := isOk_iff.mp h
  obtain ⟨hash, hhash, hb⟩ := bind_eq_ok.mp hb
  obtain ⟨c, hc, rfl⟩ := digestOf_eq_ok.mp hhash
  exact ⟨c, hc, hcheck hb⟩

/-- Every verifier finds the canonical form of its command. -/
theorem Operation.demands_of_accepts {op : Operation} {w : Verifier}
    (h : op.accepts w token = true) :
    ∃ c, op.family.canonical op.command = .ok c ∧ token.Demands op.family c op.comparedContext := by
  obtain ⟨family, command, context⟩ := op
  cases family with
  | promotion | cleanup | consensusParamsUpdate | snapshotQueryAbort =>
    exact commands_of_isOk verify_eq_ok h
  | evictNode | quarantineIndexer | releaseIndexer | settleTrack | rebalanceGroup | reselectVerifiers
  | markMemberLagging => exact commands_of_isOk verifyExactContext_eq_ok h
  | snodeEnrollment | groupMemberConsent | snodeMessage => exact commands_of_isOk verifySignedBy_eq_ok h
  | queryProfileActivation =>
    obtain ⟨addr, hverify⟩ := isOk_iff.mp h
    exact ⟨_, verifyQueryProfileActivation_eq_ok hverify⟩
  | artifactDisposition =>
    obtain ⟨addr, hverify⟩ := isOk_iff.mp h
    exact ⟨_, verifyArtifactDispositionCommand_eq_ok hverify⟩
  | verifierMessage => exact verifyHash_eq_ok h
  | memberReady =>
    obtain ⟨c, hc, htoken⟩ := verifyHash_eq_ok h
    exact ⟨_, map_eq_ok.mpr ⟨c, hc, rfl⟩, htoken⟩
  | memberCheckpoint =>
    obtain ⟨c, hc, htoken⟩ := commands_of_isOk verifySignedBy_eq_ok h
    exact ⟨_, map_eq_ok.mpr ⟨c, hc, rfl⟩, htoken⟩

/-! ## Separation -/

section Formats

variable {f g : Family} {token : Credential S} {c : f.Canonical} {d : g.Canonical} {ctx ctx' : Option ConsensusContext}

omit [Unicode] in
/-- Digests separate the families and the JSON of their commands. -/
theorem Family.digest_inj (h : f.digest S c = g.digest S d) : f = g ∧ f.json c = g.json d := by
  obtain ⟨hdomain, hjson⟩ := S.digest.injective h
  exact ⟨Family.domain_inj hdomain, hjson⟩

theorem digest_of_fold (h : fold (f.digest S c) = fold (g.digest S d)) : f.digest S c = g.digest S d := by
  simpa [Family.digest, (S.digest.small _ _).fold_eq] using h

omit [Unicode] in
/-- No verifier of command payloads wants the purpose of an exact one. -/
theorem format_exact {version : UInt32} (h : f.format = .exact purpose version name) :
    name ∈ ["activation", "command"] ∧ ∀ g : Family, g.format ≠ .command purpose := by
  cases f <;> cases h
  · exact ⟨by simp, by decide⟩
  · exact ⟨by simp, by decide⟩

omit [Unicode] in
theorem exactPayload_inj {purpose' name' : String} {version version' : UInt32} {iat' : Int64}
    {command command' : Json}
    (h : exactPayload purpose version iat name command = exactPayload purpose' version' iat' name' command') :
    purpose = purpose' ∧ version = version' ∧ iat = iat' ∧ name = name' ∧ command = command' := by
  simp only [exactPayload, object, Field.text, Field.uint32, Field.int64, Field.nested, List.filterMap_cons,
    Option.map_some, List.filterMap_nil, obj.injEq, List.cons.injEq, Prod.mk.injEq, str.injEq, num.injEq,
    true_and, and_true, Int.natCast_inj, UInt32.toNat_inj, Int64.toInt_inj] at h
  exact h

/-- A token that one family made and another one accepts is of one family and one JSON. -/
theorem family_of_holds_demands (hholds : token.Holds f c ctx) (hdemands : token.Demands g d ctx') :
    f = g ∧ f.json c = g.json d := by
  unfold Credential.Holds at hholds
  unfold Credential.Demands at hdemands
  cases hf : f.format <;> cases hg : g.format <;> simp only [hf, hg] at hholds hdemands
  case command.command =>
    obtain ⟨key, iat, rfl⟩ := hholds
    obtain ⟨t, p, ⟨⟩, hp, -, hhash, -⟩ := hdemands
    obtain rfl := Except.ok.inj ((unmarshalPayload_json _).symm.trans hp)
    exact Family.digest_inj (digest_of_fold hhash)
  case command.exact =>
    obtain ⟨key, iat, rfl⟩ := hholds
    obtain ⟨t, iat', ⟨⟩, hpayload⟩ := hdemands
    -- a command payload starts with its issue time, an exact one with its purpose
    simp [JWSCommandPayload.json, exactPayload, object, Field.int64, Field.text] at hpayload
  case exact.command =>
    obtain ⟨key, iat, rfl⟩ := hholds
    obtain ⟨t, p, ⟨⟩, hp, hpurpose, -⟩ := hdemands
    obtain ⟨hname, hother⟩ := format_exact hf
    obtain rfl := Except.ok.inj ((unmarshalPayload_exactPayload hname).symm.trans hp)
    exact absurd (hg.trans (congrArg _ hpurpose.symm)) (hother g)
  case exact.exact =>
    obtain ⟨key, iat, rfl⟩ := hholds
    obtain ⟨t, iat', ⟨⟩, hpayload⟩ := hdemands
    obtain ⟨rfl, rfl, -, rfl, hjson⟩ := exactPayload_inj hpayload
    exact ⟨Family.format_exact_inj hf hg, hjson⟩
  case command.ed25519 | exact.ed25519 =>
    obtain ⟨key, iat, rfl⟩ := hholds
    obtain ⟨pub, sig, ⟨⟩, -⟩ := hdemands
  case ed25519.command | ed25519.exact =>
    obtain ⟨priv, rfl⟩ := hholds
    obtain ⟨t, x, ⟨⟩, -⟩ := hdemands
  case ed25519.ed25519 =>
    obtain ⟨priv, rfl⟩ := hholds
    obtain ⟨pub, sig, ⟨⟩, hverify⟩ := hdemands
    exact Family.digest_inj (S.ed25519.exact _ _ _ _ hverify).symm

end Formats

omit [Unicode] in
/-- The families that compare a context sign command payloads. -/
theorem Family.format_of_checked {f : Family} (h : f.binding = .checked) : ∃ purpose, f.format = .command purpose := by
  cases f <;> first | exact ⟨_, rfl⟩ | cases h

omit [Unicode] in
theorem Binding.compared_cases (b : Binding) (ctx ctx' : b.Context) :
    (b.compared ctx = Option.none ∧ b.compared ctx' = Option.none) ∨
      (b = .checked ∧ ∃ x y, b.compared ctx = some x ∧ b.inToken ctx = some x ∧ b.compared ctx' = some y) := by
  cases b with
  | none => exact .inl ⟨rfl, rfl⟩
  | carried => exact .inl ⟨rfl, rfl⟩
  | checked => exact .inr ⟨rfl, ctx, ctx', rfl, rfl, rfl⟩

/-- A context that is compared is the one in the token. -/
theorem context_of_holds_demands {f : Family} {c d : f.Canonical} {ctx ctx' : f.binding.Context}
    (hholds : token.Holds f c (f.binding.inToken ctx))
    (hdemands : token.Demands f d (f.binding.compared ctx')) :
    f.binding.compared ctx = f.binding.compared ctx' := by
  obtain ⟨h, h'⟩ | ⟨hchecked, x, y, hx, htoken, hy⟩ := f.binding.compared_cases ctx ctx'
  · rw [h, h']
  obtain ⟨purpose, hformat⟩ := Family.format_of_checked hchecked
  rw [htoken] at hholds
  rw [hy] at hdemands
  simp only [Credential.Holds, hformat] at hholds
  simp only [Credential.Demands, hformat] at hdemands
  obtain ⟨key, iat, rfl⟩ := hholds
  obtain ⟨t, p, hjws, hp, -, -, hctx⟩ := hdemands
  cases hjws
  obtain rfl := Except.ok.inj ((unmarshalPayload_json _).symm.trans hp)
  obtain ⟨hnetwork, hgenesis, hepoch⟩ := hctx y rfl
  obtain rfl : x = y := by
    cases x
    cases y
    simp_all [commandPayload]
  rw [hx, hy]

/-! ## Tokens that are accepted -/

omit [Unicode] in
/-- The recovery byte that a signer adds is the one a verifier takes away. -/
theorem recoverAddress_sign (key : S.secp256k1.Key) (token : JWS) (what : String) :
    let sig := S.secp256k1.sign key token.toSigningInput
    recoverAddress S what token { sig with v := if 27 ≤ sig.v + 27 then sig.v + 27 - 27 else sig.v + 27 } =
      .ok (S.secp256k1.address key) := by
  intro sig
  have hv : sig.v ≤ 1 := (S.secp256k1.sign_canonical key token.toSigningInput).1
  have hbyte : (if 27 ≤ sig.v + 27 then sig.v + 27 - 27 else sig.v + 27) = sig.v := by
    have hle : 27 ≤ sig.v + 27 := by
      simp only [UInt8.le_iff_toNat_le, UInt8.toNat_add] at hv ⊢
      have h1 : (1 : UInt8).toNat = 1 := rfl
      have h27 : (27 : UInt8).toNat = 27 := rfl
      omega
    rw [if_pos hle, UInt8.add_sub_cancel]
  rw [recoverAddress, hbyte, S.secp256k1.recover_sign key token.toSigningInput]
  rfl

theorem unmarshalAlg_jwsHeader : unmarshalAlg jwsHeader = .ok "ES256K" := by
  have hnames : fold "alg" = "alg" ∧ fold "typ" = "typ" := by
    constructor <;> exact IsSmall.fold_eq (by decide)
  simp only [unmarshalAlg, jwsHeader, object, Field.text, List.filterMap_cons, Option.map_some,
    List.filterMap_nil, List.foldlM_cons, hnames]
  rfl

/-- A validator accepts the tokens of the keys that it allows, under their purpose and
    for their hash, as long as they are not too old. The context has no part in it. -/
theorem verify_signPayload_iff {p : JWSCommandPayload} :
    v.verify now hash purpose (signPayload key p) enforceAge = .ok addr ↔
      S.secp256k1.address key ∈ v.allowedAddresses ∧ p.purpose = purpose ∧ equalFold p.cmdHash hash = true ∧
        (enforceAge = true → 0 < v.maxTokenAge ∧ v.checkAge now "authority" p.iat = .ok ()) ∧
        S.secp256k1.address key = addr := by
  have hrecover := recoverAddress_sign (S := S) key ⟨⟨jwsHeader, p.json⟩,
    { S.secp256k1.sign key ⟨jwsHeader, p.json⟩ with v := (S.secp256k1.sign key ⟨jwsHeader, p.json⟩).v + 27 }⟩
    "authority"
  dsimp only at hrecover
  simp only [Validator.verify, signPayload, signInput, bind_eq_ok, wrapError_eq_ok, unmarshalAlg_jwsHeader,
    unmarshalPayload_json, Except.ok.injEq, exists_eq_left', refuseIf_eq_ok, exists_const, hrecover]
  have hne : S.secp256k1.address key ∈ v.allowedAddresses → v.allowedAddresses ≠ [] := List.ne_nil_of_mem
  have hpos : ¬v.maxTokenAge ≤ 0 ↔ 0 < v.maxTokenAge := Int64.not_le
  cases enforceAge with
  | false =>
    simp only [Bool.false_eq_true, if_false, bind_eq_ok, Except.ok.injEq, exists_eq_left', refuseIf_eq_ok,
      exists_const, pure_eq_ok]
    grind
  | true =>
    simp only [if_true, bind_eq_ok, Except.ok.injEq, exists_eq_left', refuseIf_eq_ok, exists_const, pure_eq_ok]
    grind

/-- A validator that allows the key accepts its tokens under their purpose, as long
    as they are not too old. -/
theorem verify_signPayload {p : JWSCommandPayload}
    (hallowed : S.secp256k1.address key ∈ v.allowedAddresses)
    (hage : enforceAge = true → 0 < v.maxTokenAge ∧ v.checkAge now "authority" p.iat = .ok ()) :
    v.verify now p.cmdHash p.purpose (signPayload key p) enforceAge = .ok (S.secp256k1.address key) :=
  verify_signPayload_iff.mpr ⟨hallowed, rfl, by simp [equalFold], hage, rfl⟩

theorem verifyExactContext_signPayload {ctx : ConsensusContext}
    (hctx : ¬(isBlank ctx.networkID ∨ isBlank ctx.genesisSnapshotID))
    (hallowed : S.secp256k1.address key ∈ v.allowedAddresses) :
    verifyExactContext v now label hash purpose (signPayload key (commandPayload purpose iat hash (some ctx))) ctx
      false = .ok (S.secp256k1.address key) := by
  have hverify : v.verify now hash purpose (signPayload key (commandPayload purpose iat hash (some ctx))) false =
      .ok (S.secp256k1.address key) := verify_signPayload hallowed nofun
  simp only [verifyExactContext, bind_eq_ok, hverify, Except.ok.injEq, exists_eq_left', refuseIf_eq_ok, exists_const]
  refine ⟨hctx, ?_⟩
  simp only [signPayload, signInput, unmarshalPayload_json, bind_eq_ok, wrapError_eq_ok, Except.ok.injEq,
    exists_eq_left', refuseIf_eq_ok, exists_const, pure_eq_ok]
  simp [commandPayload]

/-- A scheme with one secp256k1 key, whose ed25519 signatures are the texts. -/
def Scheme.oneKey : Scheme where
  digest := .counted
  secp256k1 :=
    { Key := Unit
      address := fun _ => "0x00000000000000000000000000000000000000a1"
      sign := fun _ _ => ⟨1, 1, 0⟩
      recover := fun _ _ => some "0x00000000000000000000000000000000000000a1"
      recover_sign := fun _ _ => rfl
      sign_canonical := fun _ _ => by decide }
  ed25519 :=
    { Signature := String
      sign := fun _ text => text
      verify := fun _ text signature => text = signature
      exact := by simp }

/-- A verifier that takes no context accepts the tokens of all contexts or of none. -/
theorem accepts_of_carried {f : Family} (hcarried : f.binding = .carried) {x y : f.Command}
    {ctx ctx' other : f.binding.Context} {keys : Keys S} {w : Verifier} {token' : Credential S}
    (hsign : Operation.sign keys iat ⟨f, x, ctx⟩ = .ok token)
    (hsign' : Operation.sign keys iat ⟨f, x, ctx'⟩ = .ok token')
    (haccepts : Operation.accepts w token ⟨f, y, other⟩ = true) :
    Operation.accepts w token' ⟨f, y, other⟩ = true := by
  obtain ⟨c, hc, rfl⟩ := Operation.sign_carried hcarried hsign
  obtain ⟨c', hc', rfl⟩ := Operation.sign_carried hcarried hsign'
  obtain rfl : c = c' := Except.ok.inj (hc.symm.trans hc')
  let payload := fun ctx => commandPayload promotionPurpose iat (f.digest S c) ctx
  have hverify : ∀ ctx ctx' {hash addr}, w.validator.verify w.now hash promotionPurpose
        (signPayload keys.secp256k1 (payload ctx)) true = .ok addr →
      w.validator.verify w.now hash promotionPurpose
        (signPayload keys.secp256k1 (payload ctx')) true = .ok addr := by
    intro _ _ _ _ h
    have hparts := verify_signPayload_iff.mp h
    exact verify_signPayload_iff.mpr hparts
  cases f with
  | promotion | cleanup =>
    obtain ⟨addr, haccepts⟩ := isOk_iff.mp haccepts
    obtain ⟨hash, hhash, haccepts⟩ := bind_eq_ok.mp haccepts
    exact isOk_iff.mpr ⟨addr, bind_eq_ok.mpr ⟨hash, hhash, hverify _ _ haccepts⟩⟩
  | _ => cases hcarried

/-! ## The result -/

/-- A token made for one operation is accepted for another only if both are of one
    family, have one canonical command with its message context, and, in the families
    whose verifier compares it, one consensus context. In the families whose tokens carry
    a context that no verifier takes, one bound to any other context is accepted as well. -/
theorem accepted_only_for_same_operation {a b : Operation} {keys : Keys S} {iat : Int64} {w : Verifier}
    {token : Credential S} (hsign : a.sign keys iat = .ok token) (haccepts : b.accepts w token = true) :
    a.family = b.family ∧ a.comparedContext = b.comparedContext ∧
      (∃ c, a.canonical = .ok c ∧ b.canonical = .ok c) ∧
      (a.family.binding = .carried → ∀ ctx token',
        Operation.sign keys iat ⟨a.family, a.command, ctx⟩ = .ok token' → b.accepts w token' = true) := by
  obtain ⟨c, hc, hholds⟩ := Operation.holds_of_sign hsign
  obtain ⟨d, hd, hdemands⟩ := Operation.demands_of_accepts haccepts
  obtain ⟨f, x, ctx⟩ := a
  obtain ⟨g, y, ctx'⟩ := b
  obtain ⟨rfl, hjson⟩ := family_of_holds_demands hholds hdemands
  obtain rfl := Family.json_inj hc hd hjson
  refine ⟨rfl, context_of_holds_demands hholds hdemands, ⟨⟨f, c⟩, ?_, ?_⟩, ?_⟩
  · exact map_eq_ok.mpr ⟨c, hc, rfl⟩
  · exact map_eq_ok.mpr ⟨c, hd, rfl⟩
  · exact fun hcarried _ _ hsign' => accepts_of_carried hcarried hsign hsign' haccepts

end

open scoped Text.Unicode in
/-- An eviction that its own verifier accepts. -/
theorem accepted_only_for_same_eviction :
    let evict : Operation := ⟨.evictNode, ⟨"snode-1", 4, "lost"⟩, ⟨"net", "genesis", 3⟩⟩
    let keys : Keys Scheme.oneKey := ⟨(), []⟩
    let w : Verifier := ⟨⟨["0x00000000000000000000000000000000000000a1"], 0⟩, 0, "", [], false⟩
    ∃ token, evict.sign keys 7 = .ok token ∧ evict.accepts w token = true ∧ ∃ c, evict.canonical = .ok c := by
  intro evict keys w
  obtain ⟨hash, hhash⟩ : ∃ hash, evictNodeHash Scheme.oneKey.digest.hash ⟨"snode-1", 4, "lost"⟩ = .ok hash :=
    ⟨_, digestOf_eq_ok.mpr ⟨_, bind_eq_ok.mpr ⟨(), refuseIf_eq_ok.mpr (by decide), rfl⟩, rfl⟩⟩
  let token : Credential Scheme.oneKey :=
    signPayload () (commandPayload evictNodePurpose 7 hash (some ⟨"net", "genesis", 3⟩))
  have hsign : evict.sign keys 7 = .ok token :=
    bind_eq_ok.mpr ⟨_, hhash, bind_eq_ok.mpr ⟨(), refuseIf_eq_ok.mpr (by decide), rfl⟩⟩
  have haccepts : evict.accepts w token = true := isOk_iff.mpr
    ⟨_, bind_eq_ok.mpr ⟨_, hhash, verifyExactContext_signPayload (by decide) List.mem_cons_self⟩⟩
  obtain ⟨-, -, ⟨c, hc, -⟩, -⟩ := accepted_only_for_same_operation hsign haccepts
  exact ⟨_, hsign, haccepts, c, hc⟩

open scoped Text.Unicode in
/-- The verifier of promotions has no context: it accepts a token that was bound to
    another epoch. -/
theorem promotion_accepted_in_other_context :
    let promotion (epoch : UInt64) : Operation :=
      ⟨.promotion, (default : PromoteSafePartition), some ⟨"net", "genesis", epoch⟩⟩
    let keys : Keys Scheme.oneKey := ⟨(), []⟩
    let w : Verifier := ⟨⟨["0x00000000000000000000000000000000000000a1"], 60000000000⟩, 7, "", [], true⟩
    ∃ token, (promotion 1).sign keys 7 = .ok token ∧ (promotion 2).accepts w token = true := by
  intro promotion keys w
  obtain ⟨hash, hhash⟩ : ∃ hash, promoteCommandHash Scheme.oneKey.digest.hash default = .ok hash := ⟨_, rfl⟩
  let token : Credential Scheme.oneKey :=
    signPayload () (commandPayload promotionPurpose 7 hash (some ⟨"net", "genesis", 1⟩))
  have hage : 0 < w.validator.maxTokenAge ∧ w.validator.checkAge w.now "authority" 7 = .ok () :=
    ⟨by decide +kernel,
      bind_eq_ok.mpr ⟨(), refuseIf_eq_ok.mpr (by decide +kernel), refuseIf_eq_ok.mpr (by decide +kernel)⟩⟩
  have hsign : (promotion 1).sign keys 7 = .ok token :=
    bind_eq_ok.mpr ⟨_, hhash, bind_eq_ok.mpr ⟨(), refuseIf_eq_ok.mpr (by decide), rfl⟩⟩
  have haccepts : (promotion 2).accepts w token = true := isOk_iff.mpr
    ⟨_, bind_eq_ok.mpr ⟨_, hhash, verify_signPayload List.mem_cons_self fun _ => hage⟩⟩
  exact ⟨token, hsign, haccepts⟩

end ArbiterCore.Authority
