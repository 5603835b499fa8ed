-- SUMMARY: The normal form of a consensus parameter update (authority/consensus.go, consensus.go, stage3.go).
import Mathlib.Data.String.Basic
import ArbiterCore.Authority.Forms
import ArbiterCore.Base.Checked

/-!
# Normalized consensus parameter updates

`normalizeConsensusParamsUpdate` checks an update by itself and returns a copy
with sorted lists, lowercase addresses and no empty list. It reads a list only
through its elements, so that nil and empty give the same normal form.
-/

namespace ArbiterCore

section Errors

variable {α β : Type}

/-- `fmt.Errorf` with a text before the error. -/
def wrapError (what : String) : Except String α → Except String α :=
  Except.mapError fun err => what ++ ": " ++ err

/-- A check that returns its error when the condition holds. -/
def refuseIf (refused : Prop) [Decidable refused] (err : String) : Except String Unit :=
  if refused then throw err else pure ()

theorem wrapError_eq_ok {what : String} {x : Except String α} {a : α} :
    wrapError what x = .ok a ↔ x = .ok a := by
  cases x <;> simp [wrapError, Except.mapError]

theorem refuseIf_eq_ok {refused : Prop} [Decidable refused] {err : String} {u : Unit} :
    refuseIf refused err = .ok u ↔ ¬refused := by
  by_cases h : refused <;> simp [refuseIf, h, throw, throwThe, MonadExceptOf.throw, pure, Except.pure]

end Errors

export Except (bind_eq_ok pure_eq_ok)

end ArbiterCore

namespace ArbiterCore.Wire

open GoSlice (Slice)
open Text

/-! ## Checks of the parameters -/

def tableRegistryConfirmationFinalized : String := "finalized"

def tableRegistryConfirmationSafe : String := "safe"

def TableRegistryParams.validate (p : TableRegistryParams) : Except String Unit :=
  if p.chainID = 0 then throw "table registry: chain_id must be positive"
  else if !isAddress p.databasesContract then
    throw "table registry: databases_contract must be a lowercase 0x-prefixed 20-byte address"
  else if p.activationBlock = 0 then throw "table registry: activation_block must be at least 1"
  else if p.confirmation ≠ tableRegistryConfirmationFinalized ∧
      p.confirmation ≠ tableRegistryConfirmationSafe then
    throw (s!"table registry: confirmation must be {quoted tableRegistryConfirmationFinalized}" ++
      s!" or {quoted tableRegistryConfirmationSafe}")
  else pure ()

def ClientLaneParams.validate (p : ClientLaneParams) : Except String Unit :=
  if p.maxLanesPerAccount = 0 then throw "client lanes: max_lanes_per_account must be at least 1"
  else pure ()

def validNodeID (id : String) : Bool :=
  id ≠ "" && !id.toList.any fun c => isSpace c || isControl c

def zeroAddress : String := "0x0000000000000000000000000000000000000000"

/-- Checks one entry whose signer is lowercase. -/
def SIIndexerEntry.validate (e : SIIndexerEntry) : Except String Unit :=
  if e.activationBlock = 0 then
    throw s!"si_indexers: indexer {e.indexerID}: activation_block must be at least 1"
  else if !isAddress e.signer || e.signer = zeroAddress then
    throw (s!"si_indexers: indexer {e.indexerID}: " ++
      "signer must be a non-zero lowercase 0x-prefixed 20-byte address")
  else if !validNodeID e.sNodeNodeID then
    throw (s!"si_indexers: indexer {e.indexerID}: " ++
      "snode_node_id must be non-empty and free of whitespace and control characters")
  else if isBlank e.enrollmentJWS then
    throw s!"si_indexers: indexer {e.indexerID}: enrollment_jws is required"
  else pure ()

def ed25519PublicKeySize : Nat := 32

def VerifierEntry.validate (e : VerifierEntry) : Except String Unit :=
  if isBlank e.nodeID then throw "verifiers: node_id is required"
  else if e.ed25519Pubkey.elems.length ≠ ed25519PublicKeySize then
    throw (s!"verifiers: {e.nodeID}: ed25519_pubkey must be {ed25519PublicKeySize} bytes, " ++
      s!"got {e.ed25519Pubkey.elems.length}")
  else pure ()

/-- The entry is a member: it names a host. -/
def VerifierEntry.isMember (e : VerifierEntry) : Bool := e.hostIndexerID.isSome

def stage3Switches : List (String × (Stage3Params → Bool)) :=
  [("purge", Stage3Params.purge), ("eviction_voiding", Stage3Params.evictionVoiding),
    ("owner_aware_selection", Stage3Params.ownerAwareSelection), ("placement", Stage3Params.placement),
    ("reselection", Stage3Params.reselection), ("checkpoints", Stage3Params.checkpoints),
    ("narrowed_drain", Stage3Params.narrowedDrain)]

def Stage3Params.failureDomain (p : Stage3Params) (indexerID : UInt64) : Option String :=
  (p.indexerFailureDomains.elems.find? (·.indexerID = indexerID)).map (·.failureDomain)

/-- The failure domains in order; `prev` is the indexer before them. -/
def checkFailureDomains : Option UInt64 → List IndexerFailureDomain → Except String Unit
  | _, [] => pure ()
  | prev, d :: rest =>
    if !validNodeID d.failureDomain then
      throw (s!"stage3: indexer_failure_domains: indexer {d.indexerID}: " ++
        "failure_domain must be non-empty and free of whitespace and control characters")
    else if ∃ p ∈ prev, d.indexerID ≤ p then
      throw "stage3: indexer_failure_domains must be sorted by indexer_id without duplicates"
    else checkFailureDomains (some d.indexerID) rest

/-- Every switch that is on needs those before it; `earlier` are these. -/
def checkSwitches (p : Stage3Params) :
    List (String × (Stage3Params → Bool)) → List (String × (Stage3Params → Bool)) → Except String Unit
  | _, [] => pure ()
  | earlier, switch :: rest =>
    match if switch.2 p then earlier.find? (!·.2 p) else none with
    | some off => throw s!"stage3: switch {switch.1} requires {off.1}"
    | none => checkSwitches p (earlier ++ [switch]) rest

def Stage3Params.validate (p : Stage3Params) : Except String Unit := do
  refuseIf (p.groupSize < 1) "stage3: group_size must be at least 1"
  refuseIf (p.minSafeCopies < 1) "stage3: min_safe_copies must be at least 1"
  refuseIf (p.lagLow < 1 ∨ p.maxLagPublications ≤ p.lagLow)
    ("stage3: lag_low must satisfy 1 <= lag_low < max_lag_publications, " ++
      s!"got lag_low {p.lagLow} and max_lag_publications {p.maxLagPublications}")
  refuseIf (p.evidenceTimeoutL2Blocks < 1) "stage3: evidence_timeout_l2_blocks must be at least 1"
  refuseIf (p.maxUncleanedPartsPerPartition < 1 ∨ p.maxUncleanedPartsPerTable < 1)
    "stage3: max_uncleaned_parts_per_partition and max_uncleaned_parts_per_table must be at least 1"
  checkFailureDomains none p.indexerFailureDomains.elems
  checkSwitches p [] stage3Switches
  refuseIf ((1 < p.minSafeCopies ∨ p.strictCopies) ∧ ¬(p.checkpoints ∧ p.narrowedDrain))
    ("stage3: min_safe_copies above 1 and strict_copies require the checkpoints " ++
      "and narrowed_drain switches")

end ArbiterCore.Wire

namespace ArbiterCore.Authority

open GoSlice (Slice)
open Wire Text

variable [Unicode]

/-! ## The normalizer -/

/-- A lowercase address of twenty bytes, not all zero. -/
def normalizeSignerAddress (signer : String) : Except String String :=
  let s := lower signer
  match s.toList with
  | '0' :: 'x' :: digits =>
    if s.utf8ByteSize ≠ 42 then throw s!"signer {quoted signer} must be a 0x-prefixed 20-byte address"
    else if !digits.all isHexDigit || digits.all (· = '0') then
      throw s!"signer {quoted signer} must be a non-zero hex address"
    else pure s
  | _ => throw s!"signer {quoted signer} must be a 0x-prefixed 20-byte address"

def normalizeAuthorityAddress (address : String) : Except String String :=
  match address.toList with
  | '0' :: x :: digits =>
    if address.utf8ByteSize ≠ 42 ∨ (x ≠ 'x' ∧ x ≠ 'X') then
      throw s!"authority address {quoted address} must be a 0x-prefixed 20-byte hex address"
    else if !digits.all isHexDigit then throw s!"invalid authority address {quoted address}"
    else if digits.all (· = '0') then throw "zero authority address is not allowed"
    else pure (lower address)
  | _ => throw s!"authority address {quoted address} must be a 0x-prefixed 20-byte hex address"

/-- The sorted entries: no indexer and no SNode twice. -/
def checkSIIndexers : Option UInt64 → List String → List SIIndexerEntry → Except String Unit
  | _, _, [] => pure ()
  | prev, nodes, e :: rest =>
    if prev = some e.indexerID then throw s!"si_indexers: duplicate indexer_id {e.indexerID}"
    else if e.sNodeNodeID ∈ nodes then
      throw s!"si_indexers: snode_node_id {quoted e.sNodeNodeID} is enrolled twice"
    else checkSIIndexers (some e.indexerID) (e.sNodeNodeID :: nodes) rest

def normalizeSIIndexer (e : SIIndexerEntry) : Except String SIIndexerEntry := do
  let e := { e with signer := lower e.signer }
  e.validate
  return e

def normalizeSIIndexers (entries : Slice SIIndexerEntry) (maxWriters : UInt64) :
    Except String (Slice SIIndexerEntry) :=
  if entries.elems = [] then pure none
  else do
    let out ← entries.elems.mapM normalizeSIIndexer
    let out := out.insertionSort (·.indexerID ≤ ·.indexerID)
    checkSIIndexers none [] out
    refuseIf (maxWriters.toNat < out.length)
      s!"si_indexers: max_writers {maxWriters} is below the {out.length} enrolled indexers"
    return some out

def normalizeStage3 (params : Option Stage3Params) (tracksEnabled : Bool)
    (siIndexers : Slice SIIndexerEntry) : Except String (Option Stage3Params) :=
  match params with
  | none => pure none
  | some p => do
    let p := { p with
      indexerFailureDomains :=
        .ofList (p.indexerFailureDomains.elems.insertionSort (·.indexerID ≤ ·.indexerID)) }
    p.validate
    refuseIf (!tracksEnabled) "stage3 requires tracks_enabled in the same update"
    p.indexerFailureDomains.elems.forM fun d =>
      refuseIf (¬∃ e ∈ siIndexers.elems, e.indexerID = d.indexerID)
        (s!"stage3: indexer_failure_domains names indexer {d.indexerID}, " ++
          "which has no si_indexers entry")
    siIndexers.elems.forM fun e =>
      refuseIf (p.placement ∧ (p.failureDomain e.indexerID).isNone)
        ("stage3: the placement switch needs a failure domain for every si_indexers entry; " ++
          s!"indexer {e.indexerID} has none")
    return some p

/-- Copies an entry with its replica signer lowercased. -/
def cloneVerifierEntry (v : VerifierEntry) : VerifierEntry :=
  { v with replicaSigner := lower v.replicaSigner }

/-- The rule of a failure domain of a member. -/
def validFailureDomain (d : String) : Bool :=
  d ≠ "" && !d.toList.any fun c => isSpace c || isControl c

def validateVerifierStage3Fields (e : VerifierEntry) : Except String Unit :=
  if !e.isMember then
    if e.replicaSigner ≠ "" ∨ e.consentJWS ≠ "" ∨ e.weight ≠ 0 ∨ e.failureDomain ≠ "" ∨ e.verify ∨
        e.replicate ∨ e.counts ∨ e.sharedRMT then
      throw (s!"verifiers: {e.nodeID}: an entry without host_indexer_id carries no replica_signer, " ++
        "consent_jws, weight, failure_domain or member flags")
    else pure ()
  else if (normalizeSignerAddress e.replicaSigner).isOk = false then
    throw (s!"verifiers: {e.nodeID}: " ++
      "replica_signer must be a non-zero lowercase 0x-prefixed 20-byte address")
  else if isBlank e.consentJWS then
    throw s!"verifiers: {e.nodeID}: consent_jws is required on an entry with host_indexer_id"
  else if e.weight < 1 ∨ 64 < e.weight then
    throw s!"verifiers: {e.nodeID}: weight must be 1 to 64, got {e.weight}"
  else if !validFailureDomain e.failureDomain then
    throw (s!"verifiers: {e.nodeID}: " ++
      "failure_domain must be non-empty and free of whitespace and control characters")
  else if !e.verify ∧ !e.replicate then
    throw s!"verifiers: {e.nodeID}: a member entry needs verify or replicate"
  else if e.counts ∧ !e.replicate then throw s!"verifiers: {e.nodeID}: counts requires replicate"
  else if e.verify ∧ !e.sharedRMT then
    throw (s!"verifiers: {e.nodeID}: " ++
      "shared_rmt=false with verify=true is refused until the per-operator transport exists")
  else pure ()

def normalizeVerifier (v : VerifierEntry) : Except String VerifierEntry := do
  v.validate
  let e := cloneVerifierEntry v
  validateVerifierStage3Fields e
  return e

/-- The sorted entries: no node, key or replica signer twice. -/
def checkVerifiers : Option String → List (List UInt8) → List String → List VerifierEntry → Except String Unit
  | _, _, _, [] => pure ()
  | prev, keys, signers, v :: rest =>
    if prev = some v.nodeID then throw s!"verifiers: duplicate node_id {quoted v.nodeID}"
    else if v.ed25519Pubkey.elems ∈ keys then
      throw s!"verifiers: {v.nodeID} reuses another verifier's ed25519_pubkey"
    else if v.isMember ∧ v.replicaSigner ∈ signers then
      throw s!"verifiers: {v.nodeID} reuses another entry's replica_signer"
    else checkVerifiers (some v.nodeID) (v.ed25519Pubkey.elems :: keys)
      (if v.isMember then v.replicaSigner :: signers else signers) rest

/-- A member is hosted by an enrolled indexer, is no SNode, and has the failure
    domain of its host. -/
def checkHost (siIndexers : Slice SIIndexerEntry) (stage3 : Option Stage3Params) (v : VerifierEntry) :
    Except String Unit :=
  match v.hostIndexerID with
  | none => pure ()
  | some host =>
    if ¬∃ e ∈ siIndexers.elems, e.indexerID = host then
      throw s!"verifiers: {v.nodeID}: host_indexer_id {host} has no si_indexers entry in this update"
    else if ∃ e ∈ siIndexers.elems, e.sNodeNodeID = v.nodeID then
      throw s!"verifiers: {v.nodeID}: node_id is an si_indexers snode_node_id"
    else
      match stage3 with
      | none =>
        throw (s!"verifiers: {v.nodeID}: an entry with host_indexer_id needs the stage3 parameter " ++
          "in the same update")
      | some p =>
        let domain := (p.failureDomain host).getD ""
        if domain ≠ v.failureDomain then
          throw (s!"verifiers: {v.nodeID}: failure_domain {quoted v.failureDomain} differs from " ++
            s!"stage3.indexer_failure_domains[{host}] = {quoted domain}")
        else pure ()

def normalizeVerifiers (entries : Slice VerifierEntry) (siIndexers : Slice SIIndexerEntry)
    (stage3 : Option Stage3Params) : Except String (Slice VerifierEntry) :=
  if entries.elems = [] then pure none
  else do
    let out ← entries.elems.mapM normalizeVerifier
    let out := out.insertionSort (·.nodeID ≤ ·.nodeID)
    checkVerifiers none [] [] out
    out.forM (checkHost siIndexers stage3)
    return some out

def normalizeTableRegistry (registry : TableRegistryParams) : Except String TableRegistryParams := do
  let registry := { registry with databasesContract := lower registry.databasesContract }
  registry.validate
  return registry

def normalizeClientLanes (lanes : ClientLaneParams) : Except String ClientLaneParams := do
  lanes.validate
  return lanes

def normalizeConsensusParamsUpdate (cmd : ConsensusParamsUpdate) : Except String ConsensusParamsUpdate :=
  wrapError "consensus params update" do
    refuseIf (isBlank cmd.networkID ∨ isBlank cmd.genesisSnapshotID ∨ isBlank cmd.previousParamsDigest)
      "network ID, genesis snapshot ID and previous params digest must be non-empty"
    refuseIf (cmd.maxWriters = 0) "max writers must be positive"
    refuseIf (1 < cmd.artifactDispositionCapability) "artifact disposition capability must be 0 or 1"
    refuseIf (cmd.authorityAddresses.elems = []) "authority addresses must be non-empty"
    let addresses ← cmd.authorityAddresses.elems.mapM normalizeAuthorityAddress
    let tableRegistry ← cmd.tableRegistry.mapM normalizeTableRegistry
    let clientLanes ← cmd.clientLanes.mapM normalizeClientLanes
    let siIndexers ← normalizeSIIndexers cmd.siIndexers cmd.maxWriters
    let stage3 ← normalizeStage3 cmd.stage3 cmd.tracksEnabled siIndexers
    let verifiers ← normalizeVerifiers cmd.verifiers siIndexers stage3
    return { cmd with
      authorityAddresses := some (GoSlice.sortCompact addresses)
      tableRegistry := tableRegistry
      clientLanes := clientLanes
      siIndexers := siIndexers
      verifiers := verifiers
      stage3 := stage3 }

end ArbiterCore.Authority
