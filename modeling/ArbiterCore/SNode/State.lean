-- SUMMARY: The durable local state of the storage node and its mutators (state.go, registry.go).
import ArbiterCore.SNode.Types

/-!
# Local state

`LocalState` is the content of `state.json`. Every mutator of the state store is
a function from the current state to the state it writes, to nothing (the call
succeeds without a write) or to an error. How a write reaches the disk and the
memory is in `ArbiterCore.SNode.Store`.
-/

namespace ArbiterCore

/-- One safe-side part as it was immediately before a promotion publishes. -/
structure PromotionSafePart where
  name : String
  partitionID : String
  partitionValue : String
  physHash : String
  deriving DecidableEq

/-- The write-ahead boundary of a safe publication: durable before REPLACE
    PARTITION, and there until the applied acknowledgement is durable. -/
structure PromotionIntent where
  promotionSeq : Nat
  basePartitionRoot : String
  postPartitionRoot : String
  baseSafeSnapshotID : String
  candidatePartHashes : List String
  unsafePartNames : List String
  safePartsBefore : List PromotionSafePart
  deriving DecidableEq

/-- The complete hg_safe inventory of a partition that was last acknowledged as
    applied, or that a rebuild wrote. -/
structure AckedSafeInventory where
  promotionSeq : Nat
  parts : List SafePartMapping
  rebuilt : Bool
  deriving DecidableEq

/-- The key of one cleanup's acknowledgement. -/
structure CleanupAckKey where
  partition : PartitionKey
  promotionSeq : Nat
  rejectedBlockSeq : Nat
  deriving DecidableEq

/-- The text by which the sources key and order acknowledgements. -/
def CleanupAckKey.text (k : CleanupAckKey) : String :=
  k.partition.table ++ "\x00" ++ k.partition.partition ++ "\x00" ++ toString k.promotionSeq ++
    "\x00" ++ toString k.rejectedBlockSeq

def cleanupAckKey (ack : CleanupAck) : CleanupAckKey :=
  ⟨⟨ack.tableID, ack.partitionID⟩, ack.promotionSeq, ack.rejectedBlockSeq⟩

structure LocalState where
  watermarks : GoMap PartitionKey Nat
  lastAcks : GoMap PartitionKey PromotionAck
  baseRoots : GoMap PartitionKey String
  baseSnapshotIDs : GoMap PartitionKey String
  unpromotedSums : GoMap PartitionKey String
  /-- The row hash intake recorded for a part; `""` once it was removed. -/
  intakeParts : GoMap (PartitionKey × String) String
  promotedUnsafeParts : GoMap PartitionKey (List String)
  promotionIntents : GoMap PartitionKey PromotionIntent
  registrationSeq : UInt64
  owedCleanupAcks : GoMap CleanupAckKey CleanupAck
  ackedSafeInventories : GoMap PartitionKey AckedSafeInventory
  deriving DecidableEq

def newLocalState : LocalState where
  watermarks := .empty
  lastAcks := .empty
  baseRoots := .empty
  baseSnapshotIDs := .empty
  unpromotedSums := .empty
  intakeParts := .empty
  promotedUnsafeParts := .empty
  promotionIntents := .empty
  registrationSeq := 0
  owedCleanupAcks := .empty
  ackedSafeInventories := .empty

/-- What a mutator does with the state: an error, nothing, or a new state to write. -/
abbrev Mutation := Except GoError (Option LocalState)

namespace LocalState

/-! ## Readers -/

variable (s : LocalState) (k : PartitionKey)

def watermark : Nat := s.watermarks.getD k 0

def lastAck : Option PromotionAck := s.lastAcks.lookup k

def baseRoot : String := s.baseRoots.getD k ""

def baseSnapshotID : String := s.baseSnapshotIDs.getD k ""

def unpromotedSum : String := s.unpromotedSums.getD k ""

def pendingPromotion : Option PromotionIntent :=
  s.promotionIntents.lookup k

def promoted : List String := s.promotedUnsafeParts.getD k []

/-- The recorded inventory of a partition, else the one that an applied last
    acknowledgement with a complete inventory carries. -/
def ackedSafeInventory : Option AckedSafeInventory :=
  match s.ackedSafeInventories.lookup k with
  | some inv => some inv
  | none =>
    match s.lastAcks.lookup k with
    | some ack =>
      if ack.applied ∧ ack.safePartitionParts ≠ [] then
        some ⟨ack.promotionSeq, ack.safePartitionParts, false⟩
      else none
    | none => none

/-- The owed acknowledgements in key order. -/
def owedCleanupAckList : List CleanupAck :=
  (s.owedCleanupAcks.toList.insertionSort (fun a b => a.1.text ≤ b.1.text)).map (·.2)

variable (seq : Nat) (ack : PromotionAck) (newBaseRoot newBaseSnapshotID : String) (table : String)

/-- The first owed acknowledgement, in key order, of a cleanup of the table. -/
def owedCleanupAckOf : Option CleanupAck :=
  s.owedCleanupAckList.find? (·.tableID = table)

/-! ## Promotion mutators -/

def promotionIntentCommandEqual (a b : PromotionIntent) : Bool :=
  a.promotionSeq == b.promotionSeq && a.basePartitionRoot == b.basePartitionRoot &&
    a.postPartitionRoot == b.postPartitionRoot && a.baseSafeSnapshotID == b.baseSafeSnapshotID &&
    a.candidatePartHashes == b.candidatePartHashes && a.unsafePartNames == b.unsafePartNames

def promotionIntentsEqual (a b : PromotionIntent) : Bool :=
  promotionIntentCommandEqual a b && a.safePartsBefore == b.safePartsBefore

/-- Journals a publication intent. The exact intent is idempotent, the same
    command may refresh its safe inventory, another command is refused. -/
def beginPromotion (intent : PromotionIntent) : Mutation :=
  let next := { s with promotionIntents := s.promotionIntents.insert k intent }
  match s.promotionIntents.lookup k with
  | none => .ok (some next)
  | some existing =>
    if promotionIntentsEqual existing intent then .ok none
    else if promotionIntentCommandEqual existing intent then .ok (some next)
    else
      .error (errorf (s!"promotion intent already exists for {k.table}/{k.partition} " ++
        s!"at seq {existing.promotionSeq}"))

/-- Makes an applied acknowledgement's complete inventory the acknowledged one. -/
def recordAckedSafeInventory : LocalState :=
  if ¬ ack.applied then s
  else if ack.safePartitionParts = [] then
    { s with ackedSafeInventories := s.ackedSafeInventories.erase k }
  else
    { s with ackedSafeInventories :=
        s.ackedSafeInventories.insert k ⟨ack.promotionSeq, ack.safePartitionParts, false⟩ }

/-- Writes down an inventory that only the last acknowledgement carries. -/
def keepAckedSafeInventory : LocalState :=
  match s.ackedSafeInventory k with
  | some inv => { s with ackedSafeInventories := s.ackedSafeInventories.insert k inv }
  | none => s

/-- Moves the watermark of `k` to `seq` with its acknowledgement and base. -/
def advance : LocalState :=
  { s with
    watermarks := s.watermarks.insert k seq
    lastAcks := s.lastAcks.insert k ack
    baseRoots := s.baseRoots.insert k newBaseRoot
    baseSnapshotIDs := s.baseSnapshotIDs.insert k newBaseSnapshotID }

def recordAck : Mutation :=
  .ok (some ((s.keepAckedSafeInventory k).advance k seq ack newBaseRoot newBaseSnapshotID))

/-- Journals a settle's not-applied answer, and removes an intent of `k` at `seq`
    in the same write. -/
def recordSettledNotApplied : Mutation :=
  let next := (s.keepAckedSafeInventory k).advance k seq ack newBaseRoot newBaseSnapshotID
  match next.promotionIntents.lookup k with
  | some intent =>
    if intent.promotionSeq = seq then
      .ok (some { next with promotionIntents := next.promotionIntents.erase k })
    else .ok (some next)
  | none => .ok (some next)

/-- Whether `ack` differs from `previous` in its physical inventory only. -/
def refreshes (previous ack : PromotionAck) : Prop :=
  previous.promotionSeq = ack.promotionSeq ∧ s.watermark k = ack.promotionSeq ∧
    previous.nodeID = ack.nodeID ∧ previous.tableID = ack.tableID ∧
    previous.partitionID = ack.partitionID ∧
    previous.postPartitionCommitment = ack.postPartitionCommitment ∧
    previous.applied = ack.applied

instance (s : LocalState) (k : PartitionKey) (previous ack : PromotionAck) :
    Decidable (s.refreshes k previous ack) :=
  inferInstanceAs (Decidable (_ ∧ _ ∧ _ ∧ _ ∧ _ ∧ _ ∧ _))

/-- Upgrades the physical inventory of the last acknowledgement. -/
def recordRefreshedAck : Mutation :=
  match s.lastAcks.lookup k with
  | none => .error (errorf "cannot refresh a different promotion ACK")
  | some previous =>
    if s.refreshes k previous ack then
      let next := { s with lastAcks := s.lastAcks.insert k ack }
      match s.ackedSafeInventory k with
      | none => .ok (some (next.recordAckedSafeInventory k ack))
      | some inv =>
        if inv.promotionSeq < ack.promotionSeq then
          .ok (some (next.recordAckedSafeInventory k ack))
        else .ok (some next)
    else .error (errorf "cannot refresh a different promotion ACK")

/-- Appends the names that are neither empty nor there already. -/
def appendNew (existing : List String) : List String → List String
  | [] => existing
  | p :: ps =>
    if p = "" ∨ p ∈ existing then appendNew existing ps else appendNew (existing ++ [p]) ps

/-- Extends the exclusion of `k` by the promoted part names. -/
def excludePromoted (names : List String) : LocalState :=
  if names = [] then s
  else { s with promotedUnsafeParts :=
    s.promotedUnsafeParts.insert k (appendNew (s.promoted k) names) }

/-- The state of an applied promotion whose unpromoted sum is `sum`. -/
def appliedPromotion (newBaseRoot newBaseSnapshotID sum : String) (unsafePartNames : List String) :
    LocalState :=
  let next := { s with unpromotedSums := s.unpromotedSums.insert k sum }
  let next := (next.recordAckedSafeInventory k ack).advance k seq ack newBaseRoot newBaseSnapshotID
  let next := next.excludePromoted k unsafePartNames
  { next with promotionIntents := next.promotionIntents.erase k }

def recordAppliedPromotion [LtHash] (s : LocalState) (k : PartitionKey) (seq : Nat)
    (ack : PromotionAck) (newBaseRoot newBaseSnapshotID : String)
    (partLtHashHexes unsafePartNames : List String) : Mutation := do
  let acc ← parseAccumulatorHex (s.unpromotedSum k)
  let acc ← subHashes acc partLtHashHexes
  return some (s.appliedPromotion k seq ack newBaseRoot newBaseSnapshotID (accumulatorHex acc)
    unsafePartNames)

/-! ## Intake accounting -/

def addUnpromoted [LtHash] (s : LocalState) (k : PartitionKey) (partLtHashHex : String) :
    Mutation := do
  let acc ← parseAccumulatorHex (s.unpromotedSum k)
  let part ← parseAccumulatorHex partLtHashHex
  return some { s with unpromotedSums := s.unpromotedSums.insert k (accumulatorHex (acc + part)) }

def drainUnpromoted [LtHash] (s : LocalState) (k : PartitionKey) (partLtHashHexes : List String) :
    Mutation := do
  let acc ← parseAccumulatorHex (s.unpromotedSum k)
  let acc ← subHashes acc partLtHashHexes
  return some { s with unpromotedSums := s.unpromotedSums.insert k (accumulatorHex acc) }

def addUnpromotedPart [LtHash] (s : LocalState) (k : PartitionKey)
    (partName partLtHashHex : String) : Mutation :=
  match s.intakeParts.lookup (k, partName) with
  | some previous =>
    if previous = partLtHashHex then .ok none
    else .error (errorf s!"intake part {partName} already recorded with a different hash")
  | none => do
    let acc ← parseAccumulatorHex (s.unpromotedSum k)
    let part ← parseAccumulatorHex partLtHashHex
    return some { s with
      unpromotedSums := s.unpromotedSums.insert k (accumulatorHex (acc + part))
      intakeParts := s.intakeParts.insert (k, partName) partLtHashHex }

/-- Takes a part out of the sum of `k` and leaves the removed marker. -/
def subtractPart [LtHash] (s : LocalState) (k : PartitionKey) (partName partLtHashHex : String) :
    Except GoError LocalState := do
  let acc ← parseAccumulatorHex (s.unpromotedSum k)
  let part ← parseAccumulatorHex partLtHashHex
  return { s with
    unpromotedSums := s.unpromotedSums.insert k (accumulatorHex (acc - part))
    intakeParts := s.intakeParts.insert (k, partName) "" }

def removeUnpromotedPart [LtHash] (s : LocalState) (k : PartitionKey)
    (partName partLtHashHex : String) : Mutation :=
  match s.intakeParts.lookup (k, partName) with
  | none => (s.subtractPart k partName partLtHashHex).map some
  | some previous =>
    if previous = "" then .ok none
    else if previous ≠ partLtHashHex then
      .error (errorf s!"intake part {partName} hash mismatch during removal")
    else (s.subtractPart k partName partLtHashHex).map some

/-! ## Cleanups -/

/-- The check of one part of a rejected-part cleanup. -/
def checkRejectedPart (p : PartRef) : Except GoError Unit :=
  if p.tableID ≠ k.table ∨ p.partitionID ≠ k.partition then
    .error (errorf (s!"cleanup part {p.partName} names {p.tableID}/{p.partitionID}, " ++
      s!"not the cleanup's {k.table}/{k.partition}"))
  else if p.partName = "" then
    .error (errorf s!"cleanup part for {k.table}/{k.partition} has empty part_name")
  else
    match s.intakeParts.lookup (k, p.partName) with
    | some recorded =>
      if recorded ≠ "" ∧ recorded ≠ p.partRowLtHash then
        .error (errorf (s!"intake part {p.partName} of {k.table}/{k.partition} is recorded " ++
          "with a different row lthash than the cleanup names"))
      else .ok ()
    | none => .ok ()

def checkRejectedParts (promotionSeq : Nat)
    (parts : List PartRef) : Except GoError Unit :=
  if promotionSeq ≠ 0 then
    .error (errorf s!"cleanup carries promotion_seq {promotionSeq}; it must be 0")
  else parts.forM (s.checkRejectedPart k)

/-- Takes the recorded parts out of the accounting of `k`, and reports whether
    there was one. -/
def removeRejectedParts [LtHash] (s : LocalState) (k : PartitionKey) :
    List PartRef → Except GoError (LocalState × Bool)
  | [] => .ok (s, false)
  | p :: ps =>
    if s.intakeParts.getD (k, p.partName) "" = "" then s.removeRejectedParts k ps
    else do
      let next ← s.subtractPart k p.partName p.partRowLtHash
      let (last, _) ← next.removeRejectedParts k ps
      return (last, true)

/-- Removes the names from the exclusion of `k`, and reports whether any was there. -/
def forgetPromotedParts (partNames : List String) :
    LocalState × Bool :=
  let existing := s.promoted k
  let kept := existing.filter (· ∉ partNames)
  if kept.length = existing.length then (s, false)
  else if kept = [] then ({ s with promotedUnsafeParts := s.promotedUnsafeParts.erase k }, true)
  else ({ s with promotedUnsafeParts := s.promotedUnsafeParts.insert k kept }, true)

/-- Makes `ack` owed, and reports whether it was not already. -/
def oweCleanupAck (ack : CleanupAck) : LocalState × Bool :=
  if s.owedCleanupAcks.lookup (cleanupAckKey ack) = some ack then (s, false)
  else ({ s with owedCleanupAcks := s.owedCleanupAcks.insert (cleanupAckKey ack) ack }, true)

/-- The accounting of a rejected-part cleanup; any other cleanup has none. -/
def accountRejected [LtHash] (s : LocalState) (cmd : UnsafeCleanup) :
    Except GoError (LocalState × Bool) :=
  if cmd.rejectedBlockSeq ≠ 0 then do
    s.checkRejectedParts cmd.key cmd.promotionSeq cmd.parts
    s.removeRejectedParts cmd.key cmd.parts
  else pure (s, false)

def recordExecutedCleanup [LtHash] (s : LocalState) (cmd : UnsafeCleanup) (ack : CleanupAck) :
    Mutation := do
  if ack.tableID ≠ cmd.tableID ∨ ack.partitionID ≠ cmd.partitionID ∨
      ack.promotionSeq ≠ cmd.promotionSeq ∨ ack.rejectedBlockSeq ≠ cmd.rejectedBlockSeq then
    throw (errorf (s!"acknowledgement of {ack.tableID}/{ack.partitionID} " ++
      s!"(promotion_seq {ack.promotionSeq}, rejected_block_seq {ack.rejectedBlockSeq}) " ++
      s!"is not the acknowledgement of the cleanup of {cmd.tableID}/{cmd.partitionID} " ++
      s!"(promotion_seq {cmd.promotionSeq}, rejected_block_seq {cmd.rejectedBlockSeq})"))
  else
    let (next, removed) ← s.accountRejected cmd
    let (next, forgotten) := next.forgetPromotedParts cmd.key (cmd.parts.map (·.partName))
    let (next, owed) := next.oweCleanupAck ack
    return if removed || forgotten || owed then some next else none

def clearOwedCleanupAck (ack : CleanupAck) : Mutation :=
  if s.owedCleanupAcks.lookup (cleanupAckKey ack) = some ack then
    .ok (some { s with owedCleanupAcks := s.owedCleanupAcks.erase (cleanupAckKey ack) })
  else .ok none

/-! ## The purge gate and dropped tables -/

/-- The work that holds a table's purge. -/
inductive PurgeHold where
  | intent (partition : String)
  | promoted (partition : String)
  | unpromoted (partition : String)
  | owed (ack : CleanupAck)
  deriving DecidableEq

/-- The first partition with a non-zero unpromoted sum. -/
def unpromotedRowsIn [LtHash] : List (PartitionKey × String) → Except GoError (Option PartitionKey)
  | [] => .ok none
  | (k, sum) :: rest => do
    let acc ← parseAccumulatorHex sum
    if acc ≠ 0 then return some k else unpromotedRowsIn rest

/-- The checks that the purge gate and `ForgetTable` share, in their order. -/
def purgeHold [LtHash] (s : LocalState) (table : String) : Except GoError (Option PurgeHold) :=
  match s.promotionIntents.keys.find? (·.table = table) with
  | some k => .ok (some (.intent k.partition))
  | none =>
    match s.promotedUnsafeParts.toList.find? (fun e => e.1.table = table ∧ e.2 ≠ []) with
    | some e => .ok (some (.promoted e.1.partition))
    | none => do
      match ← unpromotedRowsIn (s.unpromotedSums.toList.filter (·.1.table = table)) with
      | some k => return some (.unpromoted k.partition)
      | none =>
        match s.owedCleanupAckOf table with
        | some ack => return some (.owed ack)
        | none => return none

def PurgeHold.refusal : PurgeHold → GoError
  | .intent p => errorf s!"snode: forget table {table}: promotion intent for partition {p} is unresolved"
  | .promoted p => errorf s!"snode: forget table {table}: promoted parts of partition {p} await cleanup"
  | .unpromoted p => errorf s!"snode: forget table {table}: partition {p} has unpromoted rows"
  | .owed ack => errorf (s!"snode: forget table {table}: the acknowledgement of the cleanup of " ++
      s!"partition {ack.partitionID} (promotion_seq {ack.promotionSeq}, " ++
      s!"rejected_block_seq {ack.rejectedBlockSeq}) is owed to the arbiter")

/-- The state without any entry of the table but its watermarks. -/
def dropTable : LocalState :=
  { s with
    baseRoots := s.baseRoots.eraseWhere (·.table = table)
    baseSnapshotIDs := s.baseSnapshotIDs.eraseWhere (·.table = table)
    unpromotedSums := s.unpromotedSums.eraseWhere (·.table = table)
    lastAcks := s.lastAcks.eraseWhere (·.table = table)
    intakeParts := s.intakeParts.eraseWhere (·.1.table = table)
    promotedUnsafeParts := s.promotedUnsafeParts.eraseWhere (·.table = table)
    ackedSafeInventories := s.ackedSafeInventories.eraseWhere (·.table = table) }

/-- Whether `dropTable` deletes anything. -/
def hasTable : Bool :=
  s.baseRoots.keys.any (·.table = table) || s.baseSnapshotIDs.keys.any (·.table = table) ||
    s.unpromotedSums.keys.any (·.table = table) || s.lastAcks.keys.any (·.table = table) ||
    s.intakeParts.keys.any (·.1.table = table) ||
    s.promotedUnsafeParts.keys.any (·.table = table) ||
    s.ackedSafeInventories.keys.any (·.table = table)

def forgetTable [LtHash] (s : LocalState) (table : String) : Mutation := do
  match ← s.purgeHold table with
  | some hold => throw (hold.refusal table)
  | none => return if s.hasTable table then some (s.dropTable table) else none

/-! ## Rebuilt inventories -/

/-- One rebuilt hg_safe partition, at the arbiter's publish sequence number. -/
structure RebuiltSafeInventory where
  tableID : String
  partitionID : String
  publishSeq : Nat
  parts : List SafePartMapping
  deriving DecidableEq

def RebuiltSafeInventory.key (inv : RebuiltSafeInventory) : PartitionKey :=
  ⟨inv.tableID, inv.partitionID⟩

/-- The pending intents, as a refused rebuild names them. -/
def pendingIntentsText : String :=
  String.intercalate ", " ((s.promotionIntents.toList.map fun e =>
    s!"{e.1.table}/{e.1.partition} at promotion {e.2.promotionSeq}").insertionSort (· ≤ ·))

def checkRebuild (inventories : List RebuiltSafeInventory) :
    Except GoError Unit :=
  if s.promotionIntents.keys ≠ [] then
    .error ⟨.rebuildIntentPending,
      "snode: a promotion intent is pending; settle the track before a rebuild: " ++
        s.pendingIntentsText⟩
  else
    match inventories.find? (fun inv => s.watermark inv.key < inv.publishSeq) with
    | some inv => .error ⟨.rebuildJournalBehind,
        "snode: the journal is behind the arbiter's acknowledged inventory; " ++
          "a rebuild needs the journal the lost ClickHouse served: " ++
          s!"{inv.tableID}/{inv.partitionID} is at promotion {s.watermark inv.key}, the arbiter acknowledged promotion {
            inv.publishSeq}"⟩
    | none => .ok ()

def recordRebuiltSafeInventories (inventories : List RebuiltSafeInventory) :
    Mutation := do
  s.checkRebuild inventories
  let rebuilt := inventories.foldl (fun m inv => m.insert inv.key ⟨inv.publishSeq, inv.parts, true⟩)
    s.ackedSafeInventories
  return some { s with ackedSafeInventories := rebuilt }

/-- Reserves the next registration sequence number. -/
def nextRegistrationSeq (nowMillis : UInt64) : Mutation :=
  .ok (some { s with registrationSeq := max (s.registrationSeq + 1) nowMillis })

end LocalState

end ArbiterCore
