-- SUMMARY: Authority tokens: their payloads, the signers of every family and the verifiers (authority).
import ArbiterCore.Authority.Disposition

/-!
# Tokens

A token of most families is a compact JWS whose payload carries a purpose and the
hash of a command. The tokens of artifact dispositions and of query profile
activations carry the command itself in a payload that has to be exact. Verifiers
and members sign a hash with ed25519, and the signature alone is sent.

Signatures are ideal: a secp256k1 signature gives back the address of its key,
and an ed25519 signature verifies for the text that was signed and no other.
-/

namespace ArbiterCore.Authority

open GoSlice (Slice)
open Wire Json Text

variable [Unicode]

/-! ## Signatures -/

/-- A recoverable secp256k1 signature. -/
structure Signature where
  (r s : Nat)
  v : UInt8

/-- The header and the payload of a JWS. -/
structure SigningInput where
  (header payload : Json)

def secp256k1Order : Nat := 0xfffffffffffffffffffffffffffffffebaaedce6af48a03bbfd25e8cd0364141

structure Secp256k1 where
  Key : Type
  /-- The lowercase address of a key. -/
  address : Key → String
  sign : Key → SigningInput → Signature
  /-- The lowercase address that `SigToPub` recovers. -/
  recover : SigningInput → Signature → Option String
  recover_sign : ∀ key input, recover input (sign key input) = some (address key)
  /-- Signing gives a low s and a recovery id 0 or 1. -/
  sign_canonical : ∀ key input, (sign key input).v ≤ 1 ∧ 0 < (sign key input).r ∧
    (sign key input).r < secp256k1Order ∧ 0 < (sign key input).s ∧ (sign key input).s ≤ secp256k1Order / 2

structure Ed25519 where
  Signature : Type
  sign : List UInt8 → String → Signature
  verify : List UInt8 → String → Signature → Bool
  /-- A signature verifies only for the text that was signed. -/
  exact : ∀ pub priv text text', verify pub text (sign priv text') = true → text = text'

/-- The assumptions on digests and signatures. -/
structure Scheme where
  digest : CanonicalDigest
  secp256k1 : Secp256k1
  ed25519 : Ed25519

/-- A compact JWS. -/
structure JWS extends SigningInput where
  signature : Signature

/-- What is sent as a token or as a signature in hex. -/
inductive Credential (S : Scheme) where
  | jws (token : JWS)
  | hex (signature : S.ed25519.Signature)

/-! ## Payloads -/

structure JWSCommandPayload where
  iat : Int64
  (purpose cmdHash networkID genesisSnapshotID : String)
  authorityEpoch : Option UInt64
  deriving Inhabited

def JWSCommandPayload.json (p : JWSCommandPayload) : Json :=
  object [.int64 "iat" p.iat, .text "purpose" p.purpose, .text "cmd_hash" p.cmdHash,
    .omitText "network_id" p.networkID, .omitText "genesis_snapshot_id" p.genesisSnapshotID,
    .omitPtr "authority_epoch" number p.authorityEpoch]

def jwsHeader : Json := object [.text "alg" "ES256K", .text "typ" "JWT"]

/-! Decoding into a struct: null leaves a field as it was, and a value of another
type is an error. -/

def readText (old : String) : Json → Except String String
  | .str s => pure s
  | .null => pure old
  | _ => throw "json: cannot unmarshal value into Go struct field of type string"

def readInt64 (old : Int64) : Json → Except String Int64
  | .num n =>
    if Int64.minValue.toInt ≤ n ∧ n ≤ Int64.maxValue.toInt then pure (.ofInt n)
    else throw "json: cannot unmarshal number into Go struct field of type int64"
  | .null => pure old
  | _ => throw "json: cannot unmarshal value into Go struct field of type int64"

def readUint64Ptr : Json → Except String (Option UInt64)
  | .num n =>
    if 0 ≤ n ∧ n < 2 ^ 64 then pure (some (.ofNat n.toNat))
    else throw "json: cannot unmarshal number into Go struct field of type uint64"
  | .null => pure none
  | _ => throw "json: cannot unmarshal value into Go struct field of type uint64"

/-- Sets the field of a name, which is matched without case; other names are ignored. -/
def JWSCommandPayload.set (p : JWSCommandPayload) (field : String × Json) : Except String JWSCommandPayload :=
  match fold field.1 with
  | "iat" => do return { p with iat := ← readInt64 p.iat field.2 }
  | "purpose" => do return { p with purpose := ← readText p.purpose field.2 }
  | "cmd_hash" => do return { p with cmdHash := ← readText p.cmdHash field.2 }
  | "network_id" => do return { p with networkID := ← readText p.networkID field.2 }
  | "genesis_snapshot_id" => do return { p with genesisSnapshotID := ← readText p.genesisSnapshotID field.2 }
  | "authority_epoch" => do return { p with authorityEpoch := ← readUint64Ptr field.2 }
  | _ => pure p

/-- `json.Unmarshal` into the zero payload. -/
def unmarshalPayload : Json → Except String JWSCommandPayload
  | .obj fields => fields.foldlM JWSCommandPayload.set default
  | .null => pure default
  | _ => throw "json: cannot unmarshal value into Go value of type authority.JWSCommandPayload"

/-- The algorithm that a header names. -/
def unmarshalAlg : Json → Except String String
  | .obj fields => fields.foldlM (fun alg field =>
      match fold field.1 with
      | "alg" => readText alg field.2
      | "typ" => do let _ ← readText "" field.2; return alg
      | _ => pure alg) ""
  | .null => pure ""
  | _ => throw "json: cannot unmarshal value into Go value of type authority.jwsHeader"

/-! ## Signers -/

variable {S : Scheme} (key : S.secp256k1.Key)

/-- The token of a header and a payload, with the recovery byte of Ethereum. -/
def signInput (payload : Json) : Credential S :=
  let signature := S.secp256k1.sign key ⟨jwsHeader, payload⟩
  .jws { header := jwsHeader, payload := payload, signature := { signature with v := signature.v + 27 } }

def signPayload (payload : JWSCommandPayload) : Credential S :=
  signInput key payload.json

/-- Signs a hash under a purpose, without a context. -/
def signPurpose (purpose : String) (iat : Int64) (hash : Except String String) :
    Except String (Credential S) := do
  let h ← hash
  return signPayload key { (default : JWSCommandPayload) with iat := iat, purpose := purpose, cmdHash := h }

/-- Signs a hash under a purpose with the three fields of the context. -/
def signWithContextPurpose (hash : Except String String) (purpose : String)
    (context : ConsensusContext) (iat : Int64) : Except String (Credential S) := do
  let h ← hash
  refuseIf (isBlank context.networkID ∨ isBlank context.genesisSnapshotID)
    "authority context: network ID and genesis snapshot ID must be non-empty"
  return signPayload key
    { iat := iat, purpose := purpose, cmdHash := h, networkID := context.networkID,
      genesisSnapshotID := context.genesisSnapshotID, authorityEpoch := some context.authorityEpoch }

/-! ## Verifiers -/

structure Validator where
  /-- The lowercase addresses that are allowed. -/
  allowedAddresses : List String
  /-- In nanoseconds. -/
  maxTokenAge : Int64

def clockSkewToleranceSeconds : Int64 := 5

def errEmptyAllowlist : String := "authority allowlist is empty: refusing to authorize any command"

def errMaxTokenAge : String :=
  "authority validator: MaxTokenAge must be positive (fail-closed; a zero value would mean never-expiring tokens)"

variable (v : Validator) (now : Int64) (label : String) (priv : List UInt8) (cmd : PromoteSafePartition)

/-- `int64(d.Seconds())` of a positive number of nanoseconds. The seconds are a float64:
    what is within half of the last place below the next second is rounded up to it. -/
def wholeSeconds (d : Int64) : Int64 :=
  let sec := d / 1000000000
  let left := 1000000000 - d.toInt % 1000000000
  if left * 2 ^ 53 ≤ 1000000000 * 2 ^ sec.toInt.toNat.log2 then sec + 1 else sec

/-- The age check of a token; `label` names the kind of the token. -/
def Validator.checkAge (iat : Int64) : Except String Unit := do
  refuseIf (clockSkewToleranceSeconds < iat - now) s!"{label} token issued in the future"
  refuseIf (wholeSeconds v.maxTokenAge + clockSkewToleranceSeconds < now - iat) s!"{label} token expired"

/-- The address that a token of these segments recovers to. -/
def recoverAddress (S : Scheme) (what : String) (token : JWS) (signature : Signature) : Except String String :=
  match S.secp256k1.recover token.toSigningInput signature with
  | none => throw s!"recover {what} address"
  | some addr => pure addr

def Validator.verify (wantCmdHash wantPurpose : String)
    (credential : Credential S) (enforceAge : Bool) : Except String String := do
  refuseIf (v.allowedAddresses = []) errEmptyAllowlist
  refuseIf (enforceAge ∧ v.maxTokenAge ≤ 0) errMaxTokenAge
  match credential with
  -- hex has no dots, so that it is one part
  | .hex _ => throw "authority token: want JWS compact form with 3 parts, got 1"
  | .jws token => do
    let alg ← wrapError "authority token header" (unmarshalAlg token.header)
    refuseIf (alg ≠ "ES256K" ∧ alg ≠ "secp256k1") s!"authority token: unexpected alg {quoted alg}"
    let payload ← wrapError "authority token payload" (unmarshalPayload token.payload)
    refuseIf (payload.purpose ≠ wantPurpose)
      s!"authority token: unexpected purpose {quoted payload.purpose} (want {quoted wantPurpose})"
    refuseIf (!equalFold payload.cmdHash wantCmdHash) "authority token: command hash mismatch"
    if enforceAge then v.checkAge now "authority" payload.iat else pure ()
    let sig := token.signature
    let addr ← recoverAddress S "authority" token { sig with v := if 27 ≤ sig.v then sig.v - 27 else sig.v }
    refuseIf (addr ∉ v.allowedAddresses) s!"authority address {addr} not in allowlist"
    return addr

/-- The token carries exactly the context. -/
def verifyExactContext (label hash purpose : String) (credential : Credential S)
    (ctx : ConsensusContext) (enforceAge : Bool) : Except String String := do
  refuseIf (isBlank ctx.networkID ∨ isBlank ctx.genesisSnapshotID)
    s!"{label}: network ID and genesis snapshot ID must be non-empty"
  let addr ← v.verify now hash purpose credential enforceAge
  match credential with
  | .hex _ => throw s!"{label} token payload"
  | .jws token => do
    let payload ← wrapError s!"{label} token payload" (unmarshalPayload token.payload)
    refuseIf (payload.networkID ≠ ctx.networkID ∨ payload.genesisSnapshotID ≠ ctx.genesisSnapshotID ∨
        payload.authorityEpoch ≠ some ctx.authorityEpoch)
      s!"{label} token: consensus context mismatch"
    return addr

/-- The single-signer form: the recovered address is the signer. -/
def verifySignedBy (wantHash purpose : String) (credential : Credential S) (signer : String) :
    Except String Unit := do
  let want ← normalizeSignerAddress signer
  let v : Validator := { allowedAddresses := [want], maxTokenAge := 0 }
  let _ ← wrapError purpose (v.verify 0 wantHash purpose credential false)

/-! ## Exact payloads -/

/-- The payload of a token that carries its command under `name`. -/
def exactPayload (purpose : String) (version : UInt32) (iat : Int64) (name : String) (command : Json) : Json :=
  object [.text "purpose" purpose, .uint32 "version" version, .int64 "iat" iat, .nested name command]

/-- The fields of an object that has exactly the allowed ones, once each and not null. -/
def strictJSONObject (allowed : List String) : Json → Except String (List (String × Json))
  | .obj fields => do
    let _ ← fields.foldlM (fun seen field => do
      refuseIf (field.1 ∉ allowed) s!"unknown field {quoted field.1}"
      refuseIf (field.1 ∈ seen) s!"duplicate field {quoted field.1}"
      refuseIf (field.2 = .null) s!"null field {quoted field.1}"
      return field.1 :: seen) ([] : List String)
    allowed.forM fun key => refuseIf (fields.lookup key = none) s!"missing field {quoted key}"
    return fields
  | _ => throw "must be an object"

def readUint32 : Json → Except String UInt32
  | .num n =>
    if 0 ≤ n ∧ n < 2 ^ 32 then pure (.ofNat n.toNat)
    else throw "json: cannot unmarshal number into Go value of type uint32"
  | _ => throw "json: cannot unmarshal value into Go value of type uint32"

/-- The issue time of an exact payload; `label` names the token. -/
def parseExactPayload (label purpose : String) (version : UInt32) (name : String) (command payload : Json) :
    Except String Int64 := do
  let fields ← wrapError s!"{label} token payload" (strictJSONObject ["purpose", "version", "iat", name] payload)
  let gotPurpose ← wrapError s!"{label} token purpose" (readText "" ((fields.lookup "purpose").getD .null))
  let gotVersion ← wrapError s!"{label} token version" (readUint32 ((fields.lookup "version").getD .null))
  let iat ← wrapError s!"{label} token iat" (readInt64 0 ((fields.lookup "iat").getD .null))
  refuseIf (gotPurpose ≠ purpose ∨ gotVersion ≠ version ∨ iat ≤ 0)
    s!"{label} token: unexpected purpose, version, or non-positive iat"
  refuseIf (fields.lookup name ≠ some command) s!"{label} token: {name} mismatch or non-canonical {name}"
  return iat

/-- A recovery byte 27 or 28 and a low s. -/
def validateExactSignature (sig : Signature) : Except String Unit := do
  refuseIf (sig.v ≠ 27 ∧ sig.v ≠ 28) s!"{label} token signature: recovery V must be 27 or 28"
  refuseIf (sig.r = 0 ∨ secp256k1Order ≤ sig.r ∨ sig.s = 0 ∨ secp256k1Order / 2 < sig.s)
    s!"{label} token signature: require canonical low-S R||S"

/-- Parses a token with an exact payload: the token and its issue time. -/
def parseExactToken (label purpose : String) (version : UInt32) (name : String) (command : Json)
    (credential : Credential S) : Except String (JWS × Int64) :=
  match credential with
  | .hex _ => throw s!"{label} token: want non-empty JWS compact form with 3 parts"
  | .jws token => do
    refuseIf (token.header ≠ jwsHeader) s!"{label} token: non-canonical header"
    let iat ← parseExactPayload label purpose version name command token.payload
    refuseIf (token.payload ≠ exactPayload purpose version iat name command)
      s!"{label} token: non-canonical payload"
    validateExactSignature label token.signature
    return (token, iat)

/-! ## Promotions and cleanups -/

def promotionPurpose : String := "arbiter-promotion"

def signPromotionAt (iat : Int64) : Except String (Credential S) :=
  signPurpose key promotionPurpose iat (promoteCommandHash S.digest.hash cmd)

def signPromotionWithContextAt (context : ConsensusContext) (iat : Int64) : Except String (Credential S) :=
  signWithContextPurpose key (promoteCommandHash S.digest.hash cmd) promotionPurpose context iat

def signCleanup (cmd : UnsafeCleanup) (iat : Int64) : Except String (Credential S) :=
  signPurpose key promotionPurpose iat (cleanupCommandHash S.digest.hash cmd)

def signCleanupWithContextAt (cmd : UnsafeCleanup) (context : ConsensusContext)
    (iat : Int64) : Except String (Credential S) :=
  signWithContextPurpose key (cleanupCommandHash S.digest.hash cmd) promotionPurpose context iat

def Validator.authorizePromotion (token : Credential S) : Except String String := do
  v.verify now (← promoteCommandHash S.digest.hash cmd) promotionPurpose token true

def Validator.authorizeCleanup (cmd : UnsafeCleanup)
    (token : Credential S) : Except String String := do
  v.verify now (← cleanupCommandHash S.digest.hash cmd) promotionPurpose token true

/-! ## Commands without a context -/

def consensusParamsUpdatePurpose : String := "arbiter-consensus-params-update-v1"

def snapshotQueryAbortPurpose : String := "housegate-snapshot-query-abort-v1"

def signConsensusParamsUpdateAt (cmd : ConsensusParamsUpdate) (iat : Int64) :
    Except String (Credential S) :=
  signPurpose key consensusParamsUpdatePurpose iat (consensusParamsUpdateHash S.digest.hash cmd)

/-- `VerifyConsensusParamsUpdate`, or with the age `AuthorizeConsensusParamsUpdate`. -/
def Validator.verifyConsensusParamsUpdate (cmd : ConsensusParamsUpdate)
    (token : Credential S) (enforceAge : Bool) : Except String String := do
  v.verify now (← consensusParamsUpdateHash S.digest.hash cmd) consensusParamsUpdatePurpose token enforceAge

def signSnapshotQueryAbortAt (r : SnapshotQueryAbortRecord) (iat : Int64) :
    Except String (Credential S) :=
  signPurpose key snapshotQueryAbortPurpose iat (snapshotQueryAbortHash S.digest.hash r)

def Validator.verifySnapshotQueryAbort (r : SnapshotQueryAbortRecord)
    (token : Credential S) (enforceAge : Bool) : Except String String := do
  v.verify now (← snapshotQueryAbortHash S.digest.hash r) snapshotQueryAbortPurpose token enforceAge

/-! ## Commands of one consensus context -/

def evictNodePurpose : String := "arbiter-evict-node-v1"

def quarantineIndexerPurpose : String := "arbiter-quarantine-indexer-v1"

def releaseIndexerPurpose : String := "arbiter-release-indexer-v1"

def settleTrackPurpose : String := "arbiter-settle-track-v1"

def rebalanceGroupPurpose : String := "arbiter-rebalance-group-v1"

def reselectVerifiersPurpose : String := "arbiter-reselect-verifiers-v1"

def markMemberLaggingPurpose : String := "arbiter-mark-member-lagging-v1"

section Context

variable (key : S.secp256k1.Key) (ctx : ConsensusContext) (iat : Int64) (v : Validator) (now : Int64)
  (token : Credential S) (enforceAge : Bool)

def signEvictNodeWithContextAt (cmd : EvictNodeCommand) : Except String (Credential S) :=
  signWithContextPurpose key (evictNodeHash S.digest.hash cmd) evictNodePurpose ctx iat

def Validator.verifyEvictNode (cmd : EvictNodeCommand) : Except String String := do
  verifyExactContext v now "evict node" (← evictNodeHash S.digest.hash cmd) evictNodePurpose token ctx enforceAge

def signQuarantineIndexerWithContextAt (cmd : QuarantineIndexerCommand) : Except String (Credential S) :=
  signWithContextPurpose key (quarantineIndexerHash S.digest.hash cmd) quarantineIndexerPurpose ctx iat

def Validator.verifyQuarantineIndexer (cmd : QuarantineIndexerCommand) : Except String String := do
  verifyExactContext v now "quarantine indexer" (← quarantineIndexerHash S.digest.hash cmd)
    quarantineIndexerPurpose token ctx enforceAge

def signReleaseIndexerWithContextAt (cmd : ReleaseIndexerCommand) : Except String (Credential S) :=
  signWithContextPurpose key (releaseIndexerHash S.digest.hash cmd) releaseIndexerPurpose ctx iat

def Validator.verifyReleaseIndexer (cmd : ReleaseIndexerCommand) : Except String String := do
  verifyExactContext v now "release indexer" (← releaseIndexerHash S.digest.hash cmd)
    releaseIndexerPurpose token ctx enforceAge

def signSettleTrackWithContextAt (cmd : SettleTrackCommand) : Except String (Credential S) :=
  signWithContextPurpose key (settleTrackHash S.digest.hash cmd) settleTrackPurpose ctx iat

/-- A settle is never a Raft command, so that its age is always checked. -/
def Validator.authorizeSettleTrack (cmd : SettleTrackCommand) : Except String String := do
  verifyExactContext v now "settle track" (← settleTrackHash S.digest.hash cmd) settleTrackPurpose token ctx true

def signRebalanceGroupWithContextAt (cmd : RebalanceGroupCommand) : Except String (Credential S) :=
  signWithContextPurpose key (rebalanceGroupHash S.digest.hash cmd) rebalanceGroupPurpose ctx iat

def Validator.verifyRebalanceGroup (cmd : RebalanceGroupCommand) : Except String String := do
  verifyExactContext v now "rebalance group" (← rebalanceGroupHash S.digest.hash cmd)
    rebalanceGroupPurpose token ctx enforceAge

def signReselectVerifiersWithContextAt (cmd : ReselectVerifiersCommand) : Except String (Credential S) :=
  signWithContextPurpose key (reselectVerifiersHash S.digest.hash cmd) reselectVerifiersPurpose ctx iat

def Validator.verifyReselectVerifiers (cmd : ReselectVerifiersCommand) : Except String String := do
  verifyExactContext v now "reselect verifiers" (← reselectVerifiersHash S.digest.hash cmd)
    reselectVerifiersPurpose token ctx enforceAge

def signMarkMemberLaggingWithContextAt (cmd : MarkMemberLaggingCommand) : Except String (Credential S) :=
  signWithContextPurpose key (markMemberLaggingHash S.digest.hash cmd) markMemberLaggingPurpose ctx iat

def Validator.verifyMarkMemberLagging (cmd : MarkMemberLaggingCommand) : Except String String := do
  verifyExactContext v now "mark member lagging" (← markMemberLaggingHash S.digest.hash cmd)
    markMemberLaggingPurpose token ctx enforceAge

end Context

/-! ## Statements and messages of one signer -/

def snodeEnrollmentPurpose : String := "arbiter-snode-enrollment-v1"

def groupMemberConsentPurpose : String := "arbiter-group-member-v1"

def snodeMessagePurpose : String := "arbiter-snode-message-v1"

def memberCheckpointPurpose : String := "arbiter-member-checkpoint-v1"

section Signer

variable (key : S.secp256k1.Key) (iat : Int64) (jws : Credential S) (signer : String)

def signSNodeEnrollmentAt (stmt : SNodeEnrollmentStatement) : Except String (Credential S) :=
  signPurpose key snodeEnrollmentPurpose iat (snodeEnrollmentHash S.digest.hash stmt)

def verifySNodeEnrollment (stmt : SNodeEnrollmentStatement) : Except String Unit := do
  verifySignedBy (← snodeEnrollmentHash S.digest.hash stmt) snodeEnrollmentPurpose jws signer

def signGroupMemberConsentAt (stmt : GroupMemberConsentStatement) : Except String (Credential S) :=
  signPurpose key groupMemberConsentPurpose iat (groupMemberConsentHash S.digest.hash stmt)

def verifyGroupMemberConsent (stmt : GroupMemberConsentStatement) : Except String Unit := do
  verifySignedBy (← groupMemberConsentHash S.digest.hash stmt) groupMemberConsentPurpose jws signer

def signSNodeMessageAt (m : Message) : Except String (Credential S) :=
  signPurpose key snodeMessagePurpose iat (snodeMessageHash S.digest.hash m)

def verifySNodeMessage (m : Message) : Except String Unit := do
  verifySignedBy (← snodeMessageHash S.digest.hash m) snodeMessagePurpose jws signer

def signMemberCheckpointAt (ctx : MessageContext) (cp : MemberCheckpointBody) : Except String (Credential S) :=
  signPurpose key memberCheckpointPurpose iat (memberCheckpointHash S.digest.hash ctx cp)

def verifyMemberCheckpoint (ctx : MessageContext) (cp : MemberCheckpointBody) : Except String Unit := do
  verifySignedBy (← memberCheckpointHash S.digest.hash ctx cp) memberCheckpointPurpose jws signer

end Signer

/-! ## Ed25519 messages -/

def ed25519PrivateKeySize : Nat := 64

/-- Signs the text of a hash; `label` names the message. -/
def signHash (hash : Except String String) : Except String (Credential S) := do
  refuseIf (priv.length ≠ ed25519PrivateKeySize)
    s!"{label}: ed25519 private key must be {ed25519PrivateKeySize} bytes, got {priv.length}"
  let h ← hash
  return .hex (S.ed25519.sign priv h)

def verifyHash (label refusal : String) (pub : List UInt8) (hash : Except String String)
    (credential : Credential S) : Except String Unit := do
  refuseIf (pub.length ≠ ed25519PublicKeySize)
    s!"{label}: ed25519 public key must be {ed25519PublicKeySize} bytes, got {pub.length}"
  let h ← hash
  match credential with
  -- the dots of a JWS are no hex
  | .jws _ => throw s!"{label}: signature must be 64 bytes of hex"
  | .hex sig => refuseIf (!S.ed25519.verify pub h sig) refusal

def signVerifierMessage (m : Message) : Except String (Credential S) :=
  signHash "verifier message" priv (verifierMessageHash S.digest.hash m)

def verifyVerifierMessage (pub : List UInt8) (m : Message) (sigHex : Credential S) : Except String Unit :=
  verifyHash "verifier message" s!"verifier message: {m.kind} signature does not verify" pub
    (verifierMessageHash S.digest.hash m) sigHex

def signMemberReady (ctx : MessageContext) (body : MemberReadyBody) : Except String (Credential S) :=
  signHash "member ready" priv (memberReadyHash S.digest.hash ctx body)

def verifyMemberReady (pub : List UInt8) (ctx : MessageContext) (body : MemberReadyBody)
    (sigHex : Credential S) : Except String Unit :=
  verifyHash "member ready" "member ready: signature does not verify" pub
    (memberReadyHash S.digest.hash ctx body) sigHex

/-! ## Tokens with exact payloads -/

def artifactDispositionAdminPurpose : String := "housegate-artifact-disposition-command-v1"

def artifactDispositionAdminVersion : UInt32 := 1

def queryProfileActivationPurpose : String := "housegate-query-profile-activation-v1"

def queryProfileActivationVersion : UInt32 := 1

/-- The signer has to be the actor of the command. -/
def signArtifactDispositionCommandAt (command : ArtifactDispositionCommandV1)
    (iat : Int64) : Except String (Credential S) := do
  let _ ← artifactDispositionCommandRoot S.digest.hash command
  refuseIf (command.actorID ≠ S.secp256k1.address key)
    (s!"artifact disposition command actor {quoted command.actorID} " ++
      s!"does not match signing authority {S.secp256k1.address key}")
  refuseIf (iat ≤ 0) "artifact disposition administrator token iat must be positive"
  return signInput key (exactPayload artifactDispositionAdminPurpose artifactDispositionAdminVersion iat "command"
    command.json)

def Validator.verifyArtifactDispositionCommand (command : ArtifactDispositionCommandV1)
    (credential : Credential S) : Except String String := do
  refuseIf (v.allowedAddresses = []) errEmptyAllowlist
  let _ ← artifactDispositionCommandRoot S.digest.hash command
  refuseIf (command.actorID ≠ lower command.actorID) "artifact disposition command actor must be lowercase"
  let (token, _) ← parseExactToken "artifact disposition" artifactDispositionAdminPurpose
    artifactDispositionAdminVersion "command" command.json credential
  let sig := token.signature
  let actor ← recoverAddress S "artifact disposition authority" token { sig with v := sig.v - 27 }
  refuseIf (actor ≠ command.actorID)
    s!"artifact disposition token actor {actor} does not bind command actor {command.actorID}"
  refuseIf (actor ∉ v.allowedAddresses) s!"authority address {actor} not in allowlist"
  return actor

def signQueryProfileActivationAt (p : ActiveQueryPolicy) (iat : Int64) :
    Except String (Credential S) := do
  let _ ← queryProfileActivationHash S.digest.hash p
  refuseIf (iat ≤ 0) "query profile activation token iat must be positive"
  return signInput key (exactPayload queryProfileActivationPurpose queryProfileActivationVersion iat "activation"
    p.json)

def Validator.verifyQueryProfileActivation (p : ActiveQueryPolicy)
    (credential : Credential S) (enforceAge : Bool) : Except String String := do
  refuseIf (v.allowedAddresses = []) errEmptyAllowlist
  refuseIf (enforceAge ∧ v.maxTokenAge ≤ 0) errMaxTokenAge
  let _ ← queryProfileActivationHash S.digest.hash p
  let (token, iat) ← parseExactToken "query profile activation" queryProfileActivationPurpose
    queryProfileActivationVersion "activation" p.json credential
  if enforceAge then v.checkAge now "query profile activation" iat else pure ()
  let sig := token.signature
  let actor ← recoverAddress S "query profile activation authority" token { sig with v := sig.v - 27 }
  refuseIf (actor ∉ v.allowedAddresses) s!"authority address {actor} not in allowlist"
  return actor

end ArbiterCore.Authority
