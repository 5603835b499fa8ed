-- SUMMARY: The checkpoint step of a member and its checkpoint_seq journal (checkpoint*.go, mode.go).
import ArbiterCore.Base.Text
import ArbiterCore.Base.Threads
import ArbiterCore.Install.Journal
import ArbiterCore.Registry.Snapshot

/-!
# Checkpoints

The checkpoint step of a member reads the registry and the installer, plans a
checkpoint for every owner and signs it under the next checkpoint_seq of the
owner. The journal of the sequences has one entry per owner, with the signer that
wrote it last.
-/

namespace ArbiterCore.Checkpoint

open Conc Registry Install

/-! ## The plan -/

/-- A copied table, and why it is excluded. -/
structure TableInstallState where
  tableID : String
  excluded : Option ExclusionReason
  deriving DecidableEq

structure OwnerInstallState where
  snapshotID : String
  entry : TrackFrontier
  tables : List TableInstallState

/-- Why a copy is excluded from a checkpoint at the owner's journal `j`. -/
def exclusionOf (j : OwnerJournal) (stats : Stats) (t : TableState) : Option ExclusionReason :=
  if t.foreign then some .foreign
  else if t.diverged then some .diverged
  else if t.installing then some .notInstalled
  else if ¬ stats.auditClean then some .auditPending
  else if t.snapshotID ≠ j.snapshotID ∨ t.entry ≠ j.entry then
    if stats.installsPaused then some .diskThreshold else some .notInstalled
  else none

variable (snap : Snapshot) (owner : Nat)

/-- The copy is one of the live incarnation of its table, which the owner owns. -/
def countsFor (t : TableState) : Bool :=
  match snap.live t.tableKey with
  | none => false
  | some live => live.seq = t.incarnationSeq && snap.owner live = owner

def installStateOf (j : OwnerJournal) (tables : List TableState)
    (stats : Stats) : OwnerInstallState where
  snapshotID := j.snapshotID
  entry := j.entry
  tables :=
    ((tables.filter (countsFor snap owner)).map fun t => ⟨t.tableKey, exclusionOf j stats t⟩)
      |>.insertionSort (·.tableID ≤ ·.tableID)

/-- The live incarnation of the key, if it is physical and the owner owns it. -/
def ownedLive (key : String) : Option TableIncarnation :=
  (snap.live key).filter fun live => live.hasPhysicalTables && snap.owner live = owner

/-- The keys of a database in registry order, each once. -/
def keysOf (database : String) : List String → List TableIncarnation → List String
  | _, [] => []
  | seen, inc :: rest =>
    if inc.databaseID ≠ database ∨ inc.key ∈ seen then keysOf database seen rest
    else inc.key :: keysOf database (inc.key :: seen) rest

def liveTablesOf (database : String) : List TableIncarnation :=
  ((keysOf database [] snap.incarnations).filterMap (ownedLive snap owner)).insertionSort
    (·.key ≤ ·.key)

/-- Why a checkpoint excludes a live incarnation, if it does. -/
def reasonFor (installed : GoMap String (Option ExclusionReason)) (live : TableIncarnation) :
    Option ExclusionReason :=
  match live.status with
  | .pending | .active => (installed.lookup live.key).getD (some .notInstalled)
  | .retiring | .purging => some .retiring
  | .legacy | .refused | .purged => none

/-- The part of a checkpoint about one group. -/
def checkpointGroup
    (installed : GoMap String (Option ExclusionReason)) (g : DatabaseGroup) : CheckpointGroup where
  databaseID := g.databaseID
  groupGeneration := g.generation
  excluded := (liveTablesOf snap owner g.databaseID).filterMap fun live =>
    (reasonFor installed live).map fun reason => ⟨live.key, reason⟩

/-- The exclusions by table key. -/
def installedOf (st : OwnerInstallState) : GoMap String (Option ExclusionReason) :=
  st.tables.foldl (fun m t => m.insert t.tableID t.excluded) .empty

/-- The groups of the owner that the node is a current member of. -/
def memberGroups (nodeID : String) (owner : Nat) : List DatabaseGroup :=
  snap.groups.filter fun g => g.ownerIndexerID = owner && g.members.any (·.nodeID = nodeID)

/-- The checkpoint of the node for the owner, with checkpoint_seq 0. -/
def planCheckpoint (nodeID : String) (owner : Nat) (st : OwnerInstallState) :
    Option MemberCheckpoint :=
  if st.snapshotID = "" ∨ st.entry.indexerID ≠ owner then none
  else
    let groups := (memberGroups snap nodeID owner).map (checkpointGroup snap owner (installedOf st))
    if groups = [] then none
    else some {
      nodeID := nodeID
      ownerIndexerID := owner
      checkpointSeq := 0
      groups := groups.insertionSort (·.databaseID ≤ ·.databaseID)
      snapshotID := st.snapshotID
      entry := st.entry }

/-- Two checkpoints are equal up to their checkpoint_seq. -/
def sameCheckpointContent (a b : MemberCheckpoint) : Bool :=
  a.nodeID = b.nodeID ∧ a.ownerIndexerID = b.ownerIndexerID ∧ a.snapshotID = b.snapshotID ∧
    a.entry = b.entry ∧ a.groups = b.groups

/-- The registry stores the content of the group `cg` of the checkpoint `cp`. -/
def storedGroup (cp : MemberCheckpoint) (cg : CheckpointGroup) : Bool :=
  match snap.group cp.ownerIndexerID cg.databaseID with
  | none => false
  | some g =>
    match (g.members.find? (·.nodeID = cp.nodeID)).bind (·.checkpoint) with
    | none => false
    | some stored =>
      stored.snapshotID = cp.snapshotID && stored.entry = cp.entry &&
        stored.groups.find? (·.databaseID = cg.databaseID) = some cg

/-- The arbiter already holds the content of the checkpoint. -/
def checkpointCurrent (last : Option MemberCheckpoint) (cp : MemberCheckpoint) :
    Bool :=
  last.any (sameCheckpointContent · cp) || cp.groups.all (storedGroup snap cp)

/-! ## The journal of the sequences -/

/-- The line of an owner. -/
structure CheckpointSeqEntry where
  ownerIndexerID : Nat
  replicaSigner : String
  checkpointSeq : Nat
  deriving DecidableEq

abbrev CheckpointSeqs : Type := GoMap Nat CheckpointSeqEntry

/-- A normalized address. -/
def isReplicaSigner (s : String) : Bool := Text.isAddress s

def badEntryText : String :=
  s!"member consensus: checkpoint_seq.json: owner {
    owner}: want one entry per owner with a lowercase 0x replica_signer and a checkpoint_seq of at least 1"

/-- Reads the lines of the file into the map. -/
def readEntries : List CheckpointSeqEntry → CheckpointSeqs → Except String CheckpointSeqs
  | [], seqs => .ok seqs
  | e :: rest, seqs =>
    if (seqs.lookup e.ownerIndexerID).isSome ∨ ¬ isReplicaSigner e.replicaSigner ∨ e.checkpointSeq = 0 then
      .error (badEntryText e.ownerIndexerID)
    else readEntries rest (seqs.insert e.ownerIndexerID e)

/-- Opens the store; a missing file is an empty journal. -/
def openCheckpointSeqStore : Option (List CheckpointSeqEntry) → Except String CheckpointSeqs
  | none => .ok .empty
  | some entries => readEntries entries .empty

/-- The lines of the file, sorted by owner. -/
def documentOf (seqs : CheckpointSeqs) : List CheckpointSeqEntry :=
  (seqs.toList.map (·.2)).insertionSort (·.ownerIndexerID ≤ ·.ownerIndexerID)

/-- The highest sequence that is known to be used under the signer. -/
def lastSeq (seqs : CheckpointSeqs) (owner : Nat) (replicaSigner : String) (published : Nat) : Nat :=
  match seqs.lookup owner with
  | some e => if e.replicaSigner = replicaSigner then max published e.checkpointSeq else published
  | none => published

/-! ## The step -/

/-- How the arbiter answers a checkpoint. -/
inductive Submitted where
  | accepted
  | switchOff
  | ended
  | refused
  deriving DecidableEq

inductive CheckpointOp : Type → Type where
  /-- The view of the registry, if it is enabled. -/
  | view : CheckpointOp (Option Snapshot)
  | isRegistered : CheckpointOp Bool
  /-- The address of the signer, once the mode has opened the journal. -/
  | checkpointSigner : CheckpointOp (Option String)
  | readyCopies : CheckpointOp (List Copy)
  /-- The locked section of `Stats`. -/
  | stats (copies : List Copy) : CheckpointOp Stats
  | ctxDone : CheckpointOp Bool
  | entry (owner : Nat) : CheckpointOp (Option OwnerJournal)
  /-- The locked section of `Tables`. -/
  | tables (owner : Nat) (copies : List Copy) : CheckpointOp (List TableState)
  | lastAccepted (owner : Nat) : CheckpointOp (Option MemberCheckpoint)
  | memberCheckpointHash (cp : MemberCheckpoint) : CheckpointOp (Except String Unit)
  /-- The locked section of `Next`. -/
  | next (owner : Nat) (replicaSigner : String) (published : Nat) : CheckpointOp (Except String Nat)
  | sign (replicaSigner : String) (cp : MemberCheckpoint) : CheckpointOp (Except String Unit)
  | submit (cp : MemberCheckpoint) : CheckpointOp Submitted
  /-- Remembers an accepted checkpoint. -/
  | accept (cp : MemberCheckpoint) : CheckpointOp Unit

abbrev CheckpointM (α : Type) : Type 1 := Fallible String CheckpointOp α

structure ModeConfig where
  nodeID : String
  /-- The configured peers, ascending. -/
  owners : List Nat

def nextSeq (replicaSigner : String) (published : Nat) : CheckpointM Nat :=
  if isReplicaSigner replicaSigner then call (.next owner replicaSigner published)
  else throw s!"member consensus: replica_signer {replicaSigner} is not a lowercase 0x-prefixed 20-byte address"

/-- Gives the checkpoint the next checkpoint_seq of its owner and signs it. What the
    hash refuses uses no sequence. -/
def signCheckpoint (replicaSigner : String) (cp : MemberCheckpoint) (published : Nat) :
    CheckpointM MemberCheckpoint := do
  call (.memberCheckpointHash { cp with checkpointSeq := 1 })
  let seq ← nextSeq cp.ownerIndexerID replicaSigner published
  let signed := { cp with checkpointSeq := seq }
  mapError (s!"member consensus: sign checkpoint {seq} of owner {cp.ownerIndexerID}: " ++ ·)
    (call (.sign replicaSigner signed))
  pure signed

/-- The sequence that the registry publishes under the signer, else 0. -/
def publishedUnder (nodeID : String) (owner : Nat) (replicaSigner : String) : Nat :=
  match snap.publishedCheckpointSeq nodeID owner with
  | some seq => if seq.replicaSigner = replicaSigner then seq.checkpointSeq else 0
  | none => 0

/-- Signs and submits a checkpoint; returns whether the step goes on. -/
def sendCheckpoint (nodeID replicaSigner : String) (cp : MemberCheckpoint) :
    CheckpointM Bool := do
  let published := publishedUnder snap nodeID cp.ownerIndexerID replicaSigner
  match ← attempt (signCheckpoint replicaSigner cp published) with
  | .error _ => pure true
  | .ok signed =>
    match ← ask (.submit signed) with
    | .accepted => do
      ask (.accept signed)
      pure true
    | .ended => pure false
    | .switchOff | .refused => pure true

/-- The step for one owner; returns whether it goes on. -/
def checkpointOwner (cfg : ModeConfig) (snap : Snapshot) (replicaSigner : String) (stats : Stats)
    (owner : Nat) : CheckpointM Bool := do
  if ← ask .ctxDone then pure false
  else
    match ← ask (.entry owner) with
    | none => pure true
    | some j => do
      let copies ← ask .readyCopies
      let tables ← ask (.tables owner copies)
      match planCheckpoint snap cfg.nodeID owner (installStateOf snap owner j tables stats) with
      | none => pure true
      | some cp => do
        let last ← ask (.lastAccepted cp.ownerIndexerID)
        if checkpointCurrent snap last cp then pure true
        else sendCheckpoint snap cfg.nodeID replicaSigner cp

def checkpointOwners (cfg : ModeConfig) (snap : Snapshot) (replicaSigner : String) (stats : Stats) :
    List Nat → CheckpointM Unit
  | [] => pure ()
  | owner :: rest => do
    if ← checkpointOwner cfg snap replicaSigner stats owner then
      checkpointOwners cfg snap replicaSigner stats rest
    else pure ()

/-- The registry lets members submit checkpoints. -/
def checkpointsOn : Bool := snap.stage3.any (·.checkpoints)

def checkpointStep (cfg : ModeConfig) : CheckpointM Unit := do
  match ← ask .view with
  | none => pure ()
  | some snap =>
    if ¬ checkpointsOn snap then pure ()
    else do
      if ← ask .isRegistered then do
        match ← ask .checkpointSigner with
        | none => pure ()
        | some replicaSigner => do
          let copies ← ask .readyCopies
          let stats ← ask (.stats copies)
          checkpointOwners cfg snap replicaSigner stats cfg.owners
      else pure ()

end ArbiterCore.Checkpoint
