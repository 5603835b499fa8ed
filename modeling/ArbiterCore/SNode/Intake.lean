-- SUMMARY: Intake: prepare, claim, look up, abort and converge (staged.go, intake.go, converge.go, journal.go).
import ArbiterCore.SNode.Promote

/-!
# Intake

`prepareLocalStatement` writes a statement's rows to hg_unsafe between two
durable records. A call that finds an unfinished record first converges it: it
attributes parts to the statement by scanning row ids, and then repairs the
record or aborts the partial write. Everything runs under the intake lock.
-/

namespace ArbiterCore

open Conc

/-! ## The intake journal -/

/-- The file name of a record: the hex digits of the statement id. -/
def recordName (flatID : String) : String :=
  let digit := fun n : Nat => (Nat.toDigits 16 n)
  String.ofList (flatID.toUTF8.toList.flatMap fun b =>
    digit (b.toNat / 16) ++ digit (b.toNat % 16)) ++ ".json"

/-- The validation of a decoded record. -/
def validateDecoded (rec : IntakeRecord) : Handler IntakeRecord := do
  within s!"validate intake record {recordName rec.statementID}"
    (fromExcept (validateIntakeRecord rec))
  return rec

/-- `intakeJournal.load`: the record of a statement, if it is a valid one. -/
def loadRecord (flatID : String) : Handler (Option IntakeRecord) := do
  match ← (call (.journalLoad flatID) : Handler _) with
  | none => return none
  | some rec => return some (← validateDecoded rec)

/-- `intakeJournal.save`: writes a valid record along a valid transition. -/
def saveRecord (rec : IntakeRecord) : Handler Unit := do
  fromExcept (validateIntakeRecord rec)
  match ← within "load previous intake record" (loadRecord rec.statementID) with
  | some previous =>
    if validIntakeTransition previous.lifecycle rec.lifecycle then call (.journalWrite rec)
    else throw (errorf ("invalid intake lifecycle transition " ++ previous.lifecycle.text ++ " -> " ++
      rec.lifecycle.text))
  | none =>
    if rec.lifecycle = .preparing then call (.journalWrite rec)
    else throw (errorf ("new intake record must start at Preparing, got " ++ rec.lifecycle.text))

/-! ## Checks -/

structure PrepareRequest where
  envelope : StatementEnvelope
  payloadEncoding : String
  revision : Int
  deriving DecidableEq

section

variable [HouseGate] (r : Role) (statementID : String) (env : StatementEnvelope) (rec : IntakeRecord)
  (req : PrepareRequest) (sch : TableSchema) (name : String) (partNames : List String)

/-- Checks the signed payload format and client revision; `cls` is the class of
    its payload mismatches. -/
def validatePrepareBindings (cls : ErrKind) : Except GoError (String × Int) :=
  let env := req.envelope
  if env.payloadFormat ≠ HouseGate.payloadFormat then
    .error (sentinel .encodingNotSupported s!"signed payload format {env.payloadFormat}")
  else if env.clientRevision = 0 then
    .error (sentinel cls "signed client revision must be non-zero")
  else if req.payloadEncoding ≠ env.payloadFormat then
    .error (sentinel cls s!"request payload encoding {req.payloadEncoding} does not match signed payload format {
      env.payloadFormat}")
  else if req.revision ≤ 0 ∨ req.revision ≠ env.clientRevision then
    .error (sentinel cls s!"request revision {req.revision} does not match signed client revision {env.clientRevision}")
  else .ok (env.payloadFormat, env.clientRevision)

/-- The same checks on what a record recovers. -/
def validateRecordedBindings : Except GoError Unit :=
  match validatePrepareBindings ⟨rec.envelope, rec.payloadEncoding, rec.revision⟩
      .payloadMismatchPostRecord with
  | .error e => .error (e.wrap s!"statement {rec.statementID} recorded bindings")
  | .ok _ => .ok ()

/-- The table's schema, if it is the one the client signed. -/
def resolveEnvelopeSchema : Handler TableSchema := do
  let schema ← mapError (fun e => sentinel .schemaUnknown e.text) (call (.schemaFor env.targetTableID))
  let want := HouseGate.tableSchemaHash r.networkID schema
  if env.schemaHash ≠ want then
    throw (sentinel .schemaHashMismatch
      s!"statement {env.statementID.flat} schema_hash {env.schemaHash}, source has {want}")
  else return schema

def validatePayloadBinding (payload : List UInt8) : Except GoError Unit :=
  if env.payloadRef = "" then .error (errorf "payload_ref is required")
  else if env.payloadHash = "" then
    .error (errorf "payload_hash is required when payload_ref is set")
  else if payload.length ≠ env.payloadLength then
    .error (errorf s!"payload_length mismatch: got {payload.length} want {env.payloadLength}")
  else if HouseGate.digestBytes payload ≠ env.payloadHash then
    .error (errorf s!"payload_hash mismatch: got {HouseGate.digestBytes payload} want {env.payloadHash}")
  else .ok ()

variable {env} in
theorem validatePayloadBinding_ok {payload : List UInt8} (h : validatePayloadBinding env payload = .ok ()) :
    payload.length = env.payloadLength ∧ HouseGate.digestBytes payload = env.payloadHash := by
  unfold validatePayloadBinding at h
  split_ifs at h with _ _ hlength hhash
  exact ⟨not_not.mp hlength, not_not.mp hhash⟩

/-- A repeated prepare has to carry what the record carries. -/
def validateReplayRequest (payload : List UInt8) : Except GoError Unit :=
  let changed := fun what => sentinel .payloadMismatchPostRecord
    s!"statement {rec.statementID} {what} changed across prepare attempts"
  if rec.envelope ≠ req.envelope then .error (changed "envelope")
  else if rec.payloadEncoding ≠ req.payloadEncoding then .error (changed "payload encoding")
  else if rec.revision ≠ req.revision then .error (changed "revision")
  else
    match validatePayloadBinding req.envelope payload with
    | .error e => .error (sentinel .payloadMismatchPostRecord e.text)
    | .ok _ => .ok ()

/-! ## Parts of a statement -/

/-- The row ids of a statement with `n` rows. -/
def derivedRowIDs (table statementID : String) (n : Nat) : List String :=
  (List.range n).map (HouseGate.rowID r.networkID table statementID)

/-- The rows of a statement. -/
def statementRows (table statementID : String) (values : List String) : List Row :=
  values.mapIdx fun i v => ⟨HouseGate.rowID r.networkID table statementID i, v⟩

theorem statementRows_ids (table flat : String) (values : List String) :
    (statementRows r table flat values).map (·.rowID) =
      derivedRowIDs r table flat (statementRows r table flat values).length := by
  refine List.ext_getElem (by simp [derivedRowIDs]) fun i _ _ => ?_
  simp [statementRows, derivedRowIDs]

/-- The partitions of the rows, sorted. -/
def touchedPartitions (rows : List Row) : Except GoError (List String) := do
  let ids ← rows.mapM fun row => HouseGate.partitionIDForRow sch row.values
  return ids.dedup.insertionSort (· ≤ ·)

/-- Every row is in a touched partition. -/
theorem touchedPartitions_ok {sch : TableSchema} {rows : List Row} {touched : List String}
    (h : touchedPartitions sch rows = .ok touched) :
    ∀ row ∈ rows, ∃ pid ∈ touched, HouseGate.partitionIDForRow sch row.values = .ok pid := by
  simp only [touchedPartitions, Except.bind_eq_ok, Except.pure_eq_ok] at h
  obtain ⟨ids, hids, rfl⟩ := h
  intro row hrow
  obtain ⟨pid, hpid, hok⟩ := Except.mem_of_mapM hids row hrow
  refine ⟨pid, ?_, hok⟩
  rw [List.mem_insertionSort]
  exact List.mem_dedup.mpr hpid

def partNamesForPartition (parts : List Part) (pid : String) : List String :=
  (partsInLogicalPartition parts sch pid).map (·.name)

/-- The active parts of each touched partition. -/
def preWriteInventory (before : List Part) (touched : List String) : GoMap String (List String) :=
  touched.foldl (fun m pid => m.insert pid (partNamesForPartition sch before pid)) .empty

omit [HouseGate] in
/-- The inventory of a touched partition names its parts. -/
theorem preWriteInventory_getD (sch : TableSchema) (before : List Part) (touched : List String) (pid : String) :
    (preWriteInventory sch before touched).getD pid [] =
      if pid ∈ touched then partNamesForPartition sch before pid else [] := by
  have hfold : ∀ (ts : List String) (m : GoMap String (List String)),
      (ts.foldl (fun m pid => m.insert pid (partNamesForPartition sch before pid)) m).getD pid [] =
        if pid ∈ ts then partNamesForPartition sch before pid else m.getD pid [] := by
    intro ts
    induction ts with
    | nil => exact fun m => rfl
    | cons t ts ih =>
      intro m
      rw [List.foldl_cons, ih, GoMap.getD_insert]
      by_cases hts : pid ∈ ts
      · simp [hts]
      · by_cases ht : pid = t
        · simp [ht]
        · simp [hts, ht]
  rw [preWriteInventory, hfold, GoMap.getD_empty]

/-- The parts with rows that are new since `before`. -/
def diffParts (before after : List Part) : List Part :=
  after.filter fun p => p.rows > 0 ∧ p.name ∉ before.map (·.name)

def subtractParts (all removed : List Part) : List Part :=
  all.filter fun p => p.name ∉ removed.map (·.name)

/-- INSERT of the rows; none is no statement at all. -/
def insertRows (rows : List Row) : Handler Unit :=
  if rows = [] then pure () else call (.insertRows sch rows)

/-- Records each scanned part as unpromoted and makes it a candidate. -/
def addCandidates (env : StatementEnvelope) (sch : TableSchema) (newParts : List Part) :
    List PartScanResult → Handler (List CandidatePart)
  | [] => pure []
  | scan :: scans =>
    match newParts.find? (·.name = scan.partName) with
    | none => throw (errorf s!"scan result {scan.partName} has no system.parts metadata")
    | some info => do
      let _ ← fromExcept (parseAccumulatorHex scan.rowLtHash)
      let pid := logicalPartitionID sch info
      call (.write (.addUnpromotedPart ⟨env.targetTableID, pid⟩ scan.partName scan.rowLtHash))
      let rest ← addCandidates env sch newParts scans
      return ⟨env.targetTableID, pid, scan.partName, scan.rowLtHash, info.physHash, scan.rowCount,
        info.bytes⟩ :: rest

/-- The sum of the candidates' row hashes, by partition. -/
def partitionSums (candidates : List CandidatePart) : List PartitionLtHashSum :=
  let pids := (candidates.map (·.partitionID)).dedup.insertionSort (· ≤ ·)
  pids.map fun pid => ⟨env.targetTableID, pid, accumulatorHex
    (sumOf ((candidates.filter (·.partitionID = pid)).map (·.partRowLtHash)))⟩

def assembleRC (newParts : List Part) (scans : List PartScanResult) : Handler RCRecord := do
  let candidates ← addCandidates env sch newParts scans
  let sourceRoot ← call .sourceClaimRoot
  return ⟨env.statementID, r.nodeID, candidates, sourceRoot, partitionSums env candidates⟩

/-- `HashUnsafeParts` of the new parts. -/
def hashNewParts (newParts : List Part) : Handler (List PartScanResult) :=
  if newParts = [] then pure []
  else within "hash new parts" (call (.scanParts .hgUnsafe sch (newParts.map (·.name))))

/-- Lists what is new since `before`, hashes it and assembles the claim. -/
def assembleAfterWrite (before : List Part) (rec : IntakeRecord) :
    Handler (PreparedLocalResult × RCRecord) := do
  let after ← within "list active parts after write"
    (call (.activeParts .hgUnsafe sch.tableID))
  let newParts := diffParts before after
  if rec.expectedRowCount > 0 ∧ newParts = [] then
    throw (errorf "source write produced no new parts")
  else do
    let scans ← hashNewParts sch newParts
    let rc ← assembleRC r env sch newParts scans
    return (⟨rec.statementID, r.nodeID, env.payloadRef, env.payloadHash, env.payloadLength,
      rec.payloadEncoding, rec.revision, rc.candidateParts, rc.partitionNewPartSums,
      rc.sourceClaimRoot, .unsafeWritten⟩, rc)

/-! ## Aborts -/

def validateAbortPart : Except GoError Unit :=
  match rec.result with
  | none => .ok ()
  | some result =>
    if result.candidateParts.any (·.partName = name) then .ok ()
    else .error (errorf s!"abort part {name} is not attributed to statement {rec.statementID}")

/-- Takes an aborted part out of the unpromoted rows. -/
def excludeAbortedPart : Handler Unit :=
  match rec.result with
  | none => pure ()
  | some result =>
    match result.candidateParts.find? (·.partName = name) with
    | none => pure ()
    | some part => call (.write (.removeUnpromotedPart part.key part.partName part.partRowLtHash))

/-- DROP PART for an abort; a part that is gone is fine. -/
def dropAbortPart : Handler Unit := do
  match ← (ask (.dropPart .hgUnsafe sch.tableID name (.abort rec.statementID)) : Handler _) with
  | .ok _ => pure ()
  | .error e =>
    if e.kind = .noSuchDataPart then pure ()
    else throw ((e.wrap s!"ALTER TABLE hg_unsafe.{sch.tableID} DROP PART '{escapeSQLString name}'").wrap
      s!"abort drop {name}")

def dropAbortParts (rec : IntakeRecord) (sch : TableSchema) (names : List String) : Handler Unit :=
  names.forM fun name => do
    fromExcept (validateAbortPart rec name)
    dropAbortPart rec sch name
    within s!"exclude aborted part {name}" (excludeAbortedPart rec name)

/-- Drops the parts of a pending abort and marks the record cleaned. -/
def runAbort : Handler IntakeRecord :=
  match rec.abort with
  | none => throw (errorf s!"statement {rec.statementID} is AbortPending without abort details")
  | some abort => do
    dropAbortParts rec sch abort.partNames
    let cleaned := { rec with lifecycle := .cleaned }
    within "persist cleaned" (saveRecord cleaned)
    return cleaned

/-! ## Convergence -/

/-- Marks a record that no convergence may touch again. -/
def persistConvergenceFailure {α : Type} (rec : IntakeRecord) (detail partName : String) :
    Handler α := do
  within "persist converge failure" (saveRecord { rec with convergeFailed := detail })
  if partName = "" then throw (sentinel .convergenceForeignRows s!"statement {rec.statementID}")
  else throw (sentinel .convergenceForeignRows s!"statement {rec.statementID} part {partName}")

/-- Whether a listed part may be one of the record's statement. -/
def suspect (part : Part) : Bool :=
  let pid := logicalPartitionID sch part
  part.rows ≠ 0 ∧ pid ∈ rec.touchedPartitions ∧ part.name ∉ rec.preWriteInventory.getD pid []

/-- Scans the suspects among the parts: those attributed to the statement, and
    the row ids they hold. A foreign row id fails for good. -/
def attributeParts (rec : IntakeRecord) (sch : TableSchema) (expected : List String) :
    List Part → Handler (List Part × List String)
  | [] => pure ([], [])
  | part :: parts =>
    if suspect rec sch part then do
      let rowIDs ← within s!"converge scan {part.name}"
        (call (.scanPartRowIDs sch.tableID part.name))
      if rowIDs.all (· ∈ expected) then do
        let (attributed, seen) ← attributeParts rec sch expected parts
        return (part :: attributed, rowIDs ++ seen)
      else
        persistConvergenceFailure rec
          s!"part {part.name} carries a row id outside the statement's derived set" part.name
    else attributeParts rec sch expected parts

def convergeIntake : Handler IntakeRecord := do
  if rec.convergeFailed ≠ "" then
    throw (sentinel .convergenceForeignRows s!"statement {rec.statementID}: {rec.convergeFailed}")
  else
    match rec.lifecycle with
    | .abortPending => runAbort rec sch
    | .preparing => do
      let expected := derivedRowIDs r sch.tableID rec.statementID rec.expectedRowCount
      let current ← within "converge list parts" (call (.activeParts .hgUnsafe sch.tableID))
      let (attributed, seen) ← attributeParts rec sch expected current
      if seen.length = rec.expectedRowCount ∧ rec.expectedRowCount > 0 then
        if expected.all (fun id => seen.count id = 1) then do
          let (result, rc) ← within "converge repair"
            (assembleAfterWrite r rec.envelope sch (subtractParts current attributed) rec)
          let repaired := { rec with lifecycle := .unsafeWritten, result := some result, rc := some rc }
          within "persist repaired record" (saveRecord repaired)
          return repaired
        else
          persistConvergenceFailure rec
            "candidate parts do not contain each derived row id exactly once" ""
      else if seen.length > rec.expectedRowCount then
        persistConvergenceFailure rec
          "candidate parts contain more rows than the statement's expected row count" ""
      else do
        let aborting := { rec with
          lifecycle := .abortPending
          abort := some ⟨attributed.map (·.name), "partial write converged"⟩ }
        within "persist abort intent" (saveRecord aborting)
        runAbort aborting sch
    | _ => return rec

/-- Converges an unfinished record; any other stays. -/
def converged : Handler IntakeRecord :=
  if rec.lifecycle = .preparing ∨ rec.lifecycle = .abortPending then convergeIntake r rec sch
  else pure rec

/-! ## The entry points -/

/-- The result of a record that has one. -/
def preparedResult (flat : String) (rec : IntakeRecord) : Except GoError PreparedLocalResult :=
  match rec.result with
  | some result => .ok result
  | none => .error (errorf ("statement " ++ flat ++ " in " ++ rec.lifecycle.text ++
      " has no prepared result"))

/-- Writes a statement that has no unsafe bytes. -/
def prepareFresh (encoding : String) (revision : Int) (sch : TableSchema) (payload : List UInt8) :
    Handler PreparedLocalResult := do
  let flat := req.envelope.statementID.flat
  mapError (fun e => sentinel .payloadMismatchPreWrite e.text)
    (fromExcept (validatePayloadBinding req.envelope payload))
  if ¬ r.connected then
    throw (errorf "snode: payload store and clickhouse connection are required")
  else do
    let values ← mapError (fun e => sentinel .payloadMismatchPreWrite s!"decode payload: {e.text}")
      (fromExcept (HouseGate.decodePayload sch revision payload))
    let rows := statementRows r sch.tableID flat values
    let touched ← within "partition ids" (fromExcept (touchedPartitions sch rows))
    let before ← within "list active parts before write"
      (call (.activeParts .hgUnsafe sch.tableID))
    let inventory := preWriteInventory sch before touched
    let full := touched.find? fun pid => (inventory.getD pid []).length ≥ r.hardPartsPerPartition
    match if r.disableHardParts then none else full with
    | some pid => throw ⟨.backpressure, ErrKind.backpressure.text ++
        s!": hg_unsafe.{sch.tableID} partition {pid} has {(inventory.getD pid []).length} active parts (hard limit {
          r.hardPartsPerPartition})"⟩
    | none => do
      let preparing : IntakeRecord := ⟨flat, .preparing, req.envelope, encoding, revision, touched, inventory,
        rows.length, none, none, none, ""⟩
      within "persist preparing intent" (saveRecord preparing)
      within "spool payload" (call (.putPayload req.envelope.payloadRef payload))
      within "source write" (insertRows sch rows)
      let (result, rc) ← assembleAfterWrite r req.envelope sch before preparing
      within "persist unsafe written" (saveRecord
        { preparing with lifecycle := .unsafeWritten, result := some result, rc := some rc })
      return result

def prepareLocalStatement (payload : List UInt8) : Handler PreparedLocalResult := do
  let (encoding, revision) ← fromExcept (validatePrepareBindings req .payloadMismatchPreWrite)
  let flat := req.envelope.statementID.flat
  let found ← within "intake journal" (loadRecord flat)
  let admissible : Handler Unit :=
    call (.requireAdmissible req.envelope.targetTableID req.envelope.schemaHash)
  match found with
  | none => do
    admissible
    let sch ← resolveEnvelopeSchema r req.envelope
    prepareFresh r req encoding revision sch payload
  | some rec => do
    if rec.lifecycle = .cleaned then admissible else pure ()
    let sch ← resolveEnvelopeSchema r req.envelope
    fromExcept (validateReplayRequest rec req payload)
    let now ← converged r rec sch
    if now.lifecycle = .unsafeWritten ∨ now.lifecycle = .rcBound then
      fromExcept (preparedResult flat now)
    else prepareFresh r req encoding revision sch payload

inductive ClaimCategory where
  | accepted
  | terminalReject
  | unknown
  deriving DecidableEq

structure ClaimOutcome where
  category : ClaimCategory
  boundSource : String
  reason : String
  deriving DecidableEq

/-- Sends the claim of a prepared record and binds the record once it is accepted. -/
def registerClaim (rc : RCRecord) (result : PreparedLocalResult) : Handler ClaimOutcome := do
  call (.signResultClaim rc)
  match ← (ask (.registerResultClaim rc) : Handler _) with
  | .ok _ => do
    if rec.lifecycle ≠ .rcBound then
      within "persist rc bound" (saveRecord { rec with
        lifecycle := .rcBound
        result := some { result with lifecycle := .rcBound } })
    else pure ()
    return ⟨.accepted, r.nodeID, ""⟩
  | .error e =>
    if e.kind = .invalidArgument then return ⟨.terminalReject, "", e.text⟩
    else return ⟨.unknown, "", e.text⟩

def registerPreparedClaim : Handler ClaimOutcome := do
  let notPrepared := fun detail : String => sentinel .notPrepared s!"statement {statementID}{detail}"
  match ← within "intake journal" (loadRecord statementID) with
  | none => throw (notPrepared "")
  | some rec =>
    if rec.lifecycle = .cleaned then throw (notPrepared "")
    else do
      fromExcept (validateRecordedBindings rec)
      let sch ← resolveEnvelopeSchema r rec.envelope
      let now ← converged r rec sch
      if now.lifecycle ≠ .unsafeWritten ∧ now.lifecycle ≠ .rcBound then throw (notPrepared "")
      else
        match now.rc, now.result with
        | some rc, some result => registerClaim r now rc result
        | _, _ => throw (notPrepared " has no durable prepared claim")

def lookupPreparedStatement : Handler (Option PreparedLocalResult) := do
  match ← within "intake journal" (loadRecord statementID) with
  | none => return none
  | some rec =>
    if rec.lifecycle = .cleaned then return none
    else do
      call (.requireOwned rec.envelope.targetTableID)
      fromExcept (validateRecordedBindings rec)
      let sch ← resolveEnvelopeSchema r rec.envelope
      let now ← converged r rec sch
      match now.lifecycle with
      | .unsafeWritten | .rcBound => return some (← fromExcept (preparedResult statementID now))
      | .cleaned => return none
      | _ => throw (errorf ("statement " ++ statementID ++ " has unknown intake lifecycle " ++
          now.lifecycle.text))

def sortedUniqueStrings (values : List String) : List String := values.dedup.insertionSort (· ≤ ·)

def requireExactAbortParts (candidates : List CandidatePart) (requested : List String) :
    Except GoError Unit :=
  let want := sortedUniqueStrings (candidates.map (·.partName))
  let got := sortedUniqueStrings requested
  if want.length ≠ got.length then
    .error (errorf s!"abort parts must exactly match the {want.length} prepared candidate parts")
  else if want ≠ got then
    .error (errorf "abort parts must exactly match the prepared candidate parts")
  else .ok ()

/-- A record with a result is aborted with exactly its candidate parts. -/
def requireOwnParts : Except GoError Unit :=
  match rec.result with
  | some result => requireExactAbortParts result.candidateParts partNames
  | none => .ok ()

/-- The parts an abort drops: a pending abort keeps its own. -/
def abortParts : List String :=
  match rec.lifecycle, rec.abort with
  | .abortPending, some abort => sortedUniqueStrings (abort.partNames ++ sortedUniqueStrings partNames)
  | _, _ => sortedUniqueStrings partNames

/-- Aborts a record that has not been cleaned. -/
def abortRecord (reason : String) : Handler Unit := do
  within s!"statement {rec.statementID}" (fromExcept (requireOwnParts rec partNames))
  let aborting := { rec with
    lifecycle := .abortPending
    abort := some ⟨abortParts rec partNames, reason⟩ }
  within "persist abort intent" (saveRecord aborting)
  let _ ← runAbort aborting sch
  return ()

def abortPreparedStatement (reason : String) : Handler Unit := do
  match ← within "intake journal" (loadRecord statementID) with
  | none =>
    if partNames = [] then pure () else throw (sentinel .notPrepared s!"statement {statementID}")
  | some rec =>
    if rec.lifecycle = .cleaned then pure ()
    else do
      fromExcept (validateRecordedBindings rec)
      let sch ← resolveEnvelopeSchema r rec.envelope
      let now ← converged r rec sch
      if now.lifecycle = .cleaned then pure () else abortRecord now sch partNames reason

/-- Converges one record at startup; a record that needs an operator is skipped. -/
def convergeRecord : Handler Unit := do
  within s!"converge intake {rec.statementID}" (fromExcept (validateRecordedBindings rec))
  let sch ← within s!"converge intake {rec.statementID} current binding"
    (resolveEnvelopeSchema r rec.envelope)
  match ← attempt (convergeIntake r rec sch) with
  | .ok _ => pure ()
  | .error e =>
    if e.kind = .convergenceForeignRows then pure ()
    else throw (e.wrap s!"converge intake {rec.statementID}")

def convergeRecords (r : Role) : List IntakeRecord → Handler Unit
  | [] => pure ()
  | rec :: recs => do
    if rec.lifecycle = .preparing ∨ rec.lifecycle = .abortPending then convergeRecord r rec
    else pure ()
    convergeRecords r recs

/-- `intakeJournal.list`: all records, if they are valid. -/
def listRecords : Handler (List IntakeRecord) := do
  let records ← (call .journalList : Handler _)
  records.forM fun rec => do
    let _ ← validateDecoded rec
    pure ()
  return records

def convergeStartup : Handler Unit := do
  let records ← within "list intake journal" listRecords
  convergeRecords r records

/-! ## Calls -/

/-- The calls that the intake lock serialises. -/
inductive IntakeCall where
  | prepare (req : PrepareRequest) (payload : List UInt8)
  | register (statementID : String)
  | lookup (statementID : String)
  | abort (statementID : String) (partNames : List String) (reason : String)
  | startup

/-- What a call returns. -/
inductive IntakeReply where
  | prepared (result : PreparedLocalResult)
  | claimed (outcome : ClaimOutcome)
  | found (result : Option PreparedLocalResult)
  | done

def IntakeCall.handler : IntakeCall → Handler IntakeReply
  | .prepare req payload => do return .prepared (← prepareLocalStatement r req payload)
  | .register id => do return .claimed (← registerPreparedClaim r id)
  | .lookup id => do return .found (← lookupPreparedStatement r id)
  | .abort id names reason => do
    abortPreparedStatement r id names reason
    return .done
  | .startup => do
    convergeStartup r
    return .done

end

namespace SmallNode

/-- A statement of one row. -/
def request (account : String) : PrepareRequest where
  envelope :=
    { statementID := ⟨account, 1, "n", ""⟩
      payloadRef := "ref"
      payloadHash := "A"
      payloadLength := 1
      targetTableID := "t"
      payloadFormat := "native"
      clientRevision := 1
      schemaHash := "t"
      unread := "" }
  payloadEncoding := "native"
  revision := 1

def payload : List UInt8 := [65]

/-- The part that the INSERT of the statement writes. -/
def landedPart (name account : String) : StoredPart :=
  ⟨name, "all", "", "f", "", 1, letI := gate; statementRows role "t" (account ++ ":1:n") ["A"]⟩

/-- The outcomes of an undisturbed prepare whose INSERT writes one part. -/
def prepareAnswers (landed : List StoredPart) : List Answer :=
  List.replicate 7 .ok ++ { landed := landed } :: List.replicate 6 .ok

end SmallNode

end ArbiterCore
