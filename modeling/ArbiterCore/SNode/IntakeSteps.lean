-- SUMMARY: What the steps of an intake do, and the invariant between the intake journal and hg_unsafe.
import ArbiterCore.SNode.Intake

/-!
# Steps of the intake

`IntakeStep` lists what one operation of an intake call can do, with what the
call knows at that point. `IntakeInv` relates the intake journal to the parts of
hg_unsafe, and every step keeps it. What everything else may do meanwhile is
`IntakeRely`: cleanups drop parts of accepted claims.
-/

namespace ArbiterCore

open Conc

/-- The journal holds the record. -/
abbrev World.HasRecord (w : World) (rec : IntakeRecord) : Prop :=
  w.journal.lookup rec.statementID = some rec

theorem World.HasRecord.of_id {w : World} {rec : IntakeRecord} {id : String}
    (h : w.journal.lookup id = some rec) (hid : rec.statementID = id) : w.HasRecord rec := by
  subst hid
  exact h

theorem World.HasRecord.of_journal {w w' : World} {rec : IntakeRecord} (h : w.HasRecord rec)
    (hj : w'.journal = w.journal) : w'.HasRecord rec :=
  (congrArg (·.lookup rec.statementID) hj).trans h

variable [HouseGate]

/-! ## Rows of a statement -/

/-- The row belongs to the statement `id` of the table. -/
def RowOf (r : Role) (table id : String) (row : Row) : Prop :=
  ∃ i, row.rowID = HouseGate.rowID r.networkID table id i

/-- All rows of the part belong to the statement. -/
def PartOf (r : Role) (table id : String) (p : StoredPart) : Prop :=
  ∀ row ∈ p.content, RowOf r table id row

omit [HouseGate] in
/-- The row ids of the parts. -/
def rowIDs (ps : List StoredPart) : List String := ps.flatMap (·.content.map (·.rowID))

variable {id t : String}

theorem RowOf.unique {r : Role} {t' id' : String} {row : Row} (h : RowOf r t id row)
    (h' : RowOf r t' id' row) : t = t' ∧ id = id' := by
  obtain ⟨i, hi⟩ := h
  obtain ⟨j, hj⟩ := h'
  obtain ⟨-, ht, hid, -⟩ := HouseGate.rowID_injective _ _ _ _ _ _ _ _ (hi.symm.trans hj)
  exact ⟨ht, hid⟩

variable {p : StoredPart}

/-- A part with rows belongs to one statement. -/
theorem PartOf.unique {r : Role} {t' id' : String} (hp : p.content ≠ []) (h : PartOf r t id p)
    (h' : PartOf r t' id' p) : t = t' ∧ id = id' := by
  obtain ⟨row, hrow⟩ := List.exists_mem_of_ne_nil _ hp
  exact (h row hrow).unique (h' row hrow)

/-- Parts whose row ids are derived ones belong to the statement. -/
theorem partOf_of_rowIDs {r : Role} {n : Nat} {ps : List StoredPart}
    (h : ∀ x ∈ rowIDs ps, x ∈ derivedRowIDs r t id n) : ∀ p ∈ ps, PartOf r t id p := by
  intro p hp row hrow
  have hmem : row.rowID ∈ rowIDs ps :=
    List.mem_flatMap.mpr ⟨p, hp, List.mem_map_of_mem hrow⟩
  obtain ⟨i, -, hi⟩ := List.mem_map.mp (h _ hmem)
  exact ⟨i, hi.symm⟩

/-- The candidate that an intake makes of a part. -/
def candidatePart (r : Role) (table : String) (p : StoredPart) : CandidatePart :=
  ⟨table, p.partition (r.schemas table), p.name,
    accumulatorHex (partHash (r.schemas table) p), p.physHash, p.content.length, p.bytes⟩

variable {w w' : World}

namespace World

open Classical in
/-- The active parts of a statement. -/
noncomputable def own (w : World) (r : Role) (table id : String) : List StoredPart :=
  (w.parts .hgUnsafe table).filter (PartOf r table id ·)

omit [HouseGate] in
/-- An accepted claim has a candidate of this name. -/
def Claimed (w : World) (table name : String) : Prop :=
  ∃ rc ∈ w.claims, ∃ c ∈ rc.candidateParts, c.tableID = table ∧ c.partName = name

omit [HouseGate] in
/-- A cleanup that names the part has executed a DROP. -/
def CleanedUp (w : World) (table name : String) : Prop :=
  ∃ cmd ∈ w.dropped, cmd.tableID = table ∧ name ∈ cmd.parts.map (·.partName)

theorem mem_own {r : Role} {table : String} :
    p ∈ w.own r table id ↔ p ∈ w.parts .hgUnsafe table ∧ PartOf r table id p := by
  simp [own]

/-- What is left of a statement's parts when the table is filtered. -/
theorem own_filter {r : Role} {table : String} {keep : StoredPart → Bool}
    (h : w'.parts .hgUnsafe table = (w.parts .hgUnsafe table).filter keep) :
    w'.own r table id = (w.own r table id).filter keep := by
  unfold own
  rw [h, List.filter_filter, List.filter_filter]
  exact List.filter_congr fun p _ => Bool.and_comm ..

end World

/-! ## Interference -/

/-- What promotions, cleanups and everything else may do during an intake call:
    hg_unsafe loses parts of accepted claims, to cleanups, and none of a statement
    that is being prepared. -/
structure IntakeRely (r : Role) (w w' : World) : Prop where
  journal : w'.journal = w.journal
  born : w'.born = w.born
  claims : w'.claims = w.claims
  aborted : w'.aborted = w.aborted
  dropped : w.dropped ⊆ w'.dropped
  parts : ∀ t, ∃ keep : StoredPart → Bool,
    w'.parts .hgUnsafe t = (w.parts .hgUnsafe t).filter keep ∧
      ∀ p ∈ w.parts .hgUnsafe t, keep p = false → w.Claimed t p.name ∧ w'.CleanedUp t p.name ∧
        ∀ id rec, w.journal.lookup id = some rec → rec.lifecycle = .preparing → ¬ PartOf r t id p

namespace IntakeRely

variable {r : Role}

theorem refl (w : World) : IntakeRely r w w :=
  ⟨rfl, rfl, rfl, rfl, fun _ h => h, fun _ => ⟨fun _ => true, by simp, nofun⟩⟩

theorem cleanedUp (h : IntakeRely r w w') {n : String} (hc : w.CleanedUp t n) :
    w'.CleanedUp t n := by
  obtain ⟨cmd, hcmd, hn⟩ := hc
  exact ⟨cmd, h.dropped hcmd, hn⟩

theorem claimed (h : IntakeRely r w w') {n : String} : w'.Claimed t n ↔ w.Claimed t n := by
  unfold World.Claimed
  rw [h.claims]

theorem trans {w'' : World} (h : IntakeRely r w w') (h' : IntakeRely r w' w'') :
    IntakeRely r w w'' := by
  refine ⟨h'.journal.trans h.journal, h'.born.trans h.born, h'.claims.trans h.claims,
    h'.aborted.trans h.aborted, fun _ hc => h'.dropped (h.dropped hc), fun t => ?_⟩
  obtain ⟨keep, hparts, hkeep⟩ := h.parts t
  obtain ⟨keep', hparts', hkeep'⟩ := h'.parts t
  refine ⟨fun p => keep p && keep' p, ?_, fun p hp hno => ?_⟩
  · rw [hparts', hparts, List.filter_filter]
    exact List.filter_congr fun p _ => Bool.and_comm ..
  cases hk : keep p with
  | false =>
    obtain ⟨hcl, hup, hother⟩ := hkeep p hp hk
    exact ⟨hcl, h'.cleanedUp hup, hother⟩
  | true =>
    have hno' : keep' p = false := by simpa [hk] using hno
    obtain ⟨hcl, hup, hother⟩ := hkeep' p (hparts ▸ List.mem_filter.mpr ⟨hp, hk⟩) hno'
    exact ⟨h.claimed.mp hcl, hup, h.journal ▸ hother⟩

/-- Nothing appears in hg_unsafe. -/
theorem mem_parts (h : IntakeRely r w w') (hp : p ∈ w'.parts .hgUnsafe t) : p ∈ w.parts .hgUnsafe t := by
  obtain ⟨keep, hparts, -⟩ := h.parts t
  exact List.mem_of_mem_filter (hparts ▸ hp)

/-- The parts of a statement that is being prepared stay. -/
theorem mem_parts_of_preparing (h : IntakeRely r w w') {rec : IntakeRecord}
    (hrec : w.journal.lookup id = some rec) (hlife : rec.lifecycle = .preparing)
    (hp : p ∈ w.parts .hgUnsafe t) (hpart : PartOf r t id p) : p ∈ w'.parts .hgUnsafe t := by
  obtain ⟨keep, hparts, hkeep⟩ := h.parts t
  rw [hparts]
  refine List.mem_filter.mpr ⟨hp, ?_⟩
  by_contra hk
  exact (hkeep p hp (by simpa using hk)).2.2 id rec hrec hlife hpart

end IntakeRely

/-! ## The invariant -/

/-- The table of a record. -/
def IntakeRecord.table (rec : IntakeRecord) : String := rec.envelope.targetTableID

/-- The derived row ids of a record. -/
def IntakeRecord.derived (r : Role) (rec : IntakeRecord) : List String :=
  derivedRowIDs r rec.table rec.statementID rec.expectedRowCount

/-- The record expects the rows of a payload to which its envelope is bound. -/
def IntakeRecord.Decoded (r : Role) (rec : IntakeRecord) : Prop :=
  ∃ payload values, payload.length = rec.envelope.payloadLength ∧
    HouseGate.digestBytes payload = rec.envelope.payloadHash ∧
    HouseGate.decodePayload (r.schemas rec.table) rec.revision payload = .ok values ∧
    rec.expectedRowCount = values.length

/-- The active parts of a record's statement. -/
noncomputable def World.ownOf (w : World) (r : Role) (rec : IntakeRecord) : List StoredPart :=
  w.own r rec.table rec.statementID

/-- A record whose INSERT may have written some of its rows: the statement's parts
    are in touched partitions, and new since the inventory. -/
structure Preparing (r : Role) (w : World) (rec : IntakeRecord) : Prop where
  noResult : rec.result = none
  touched : ∀ p ∈ w.ownOf r rec, p.partition (r.schemas rec.table) ∈ rec.touchedPartitions
  fresh : ∀ p ∈ w.ownOf r rec, ∀ pid, p.name ∉ rec.preWriteInventory.getD pid []
  ids : (rowIDs (w.ownOf r rec)).Subperm (rec.derived r)
  unclaimed : ∀ p ∈ w.ownOf r rec, ¬ w.Claimed rec.table p.name
  inventory : ∀ pid, ∀ n ∈ rec.preWriteInventory.getD pid [],
    ∃ p, (rec.table, p) ∈ w.born ∧ p.name = n

/-- A record with a result: its candidates are the parts `ps`, which hold every
    row once, and are there until a cleanup drops them. -/
structure Written (r : Role) (w : World) (rec : IntakeRecord) (result : PreparedLocalResult)
    (rc : RCRecord) (ps : List StoredPart) : Prop where
  hasResult : rec.result = some result
  hasRC : rec.rc = some rc
  named : result.statementID = rec.statementID
  statement : rc.statementID = rec.envelope.statementID
  claims : rc.candidateParts = result.candidateParts
  candidates : result.candidateParts = ps.map (candidatePart r rec.table)
  born : ∀ p ∈ ps, (rec.table, p) ∈ w.born
  ids : (rowIDs ps).Perm (rec.derived r)
  own : ∀ p ∈ w.ownOf r rec, p ∈ ps
  active : ∀ p ∈ ps, p ∈ w.ownOf r rec ∨ w.CleanedUp rec.table p.name

/-- A record whose abort names all active parts of the statement, and otherwise
    only parts that are gone. -/
structure Aborting (r : Role) (w : World) (rec : IntakeRecord) (abort : IntakeAbort) : Prop where
  hasAbort : rec.abort = some abort
  own : ∀ p ∈ w.ownOf r rec, p.name ∈ abort.partNames
  born : ∀ n ∈ abort.partNames,
    ∃ p, (rec.table, p) ∈ w.born ∧ p.name = n ∧
      (p ∈ w.parts .hgUnsafe rec.table → PartOf r rec.table rec.statementID p)
  candidates : ∀ result, rec.result = some result → ∀ c ∈ result.candidateParts,
    ∃ p, (rec.table, p) ∈ w.born ∧ c = candidatePart r rec.table p ∧
      PartOf r rec.table rec.statementID p

/-- What a record says about hg_unsafe. -/
def RecordInv (r : Role) (w : World) (rec : IntakeRecord) : Prop :=
  match rec.lifecycle with
  | .preparing => Preparing r w rec
  | .unsafeWritten | .rcBound => ∃ result rc ps, Written r w rec result rc ps
  | .abortPending => ∃ abort, Aborting r w rec abort
  | .cleaned => w.ownOf r rec = []

section

variable {r : Role} {w : World} {rec : IntakeRecord}

theorem recordInv_preparing (h : rec.lifecycle = .preparing) :
    RecordInv r w rec ↔ Preparing r w rec := by
  unfold RecordInv
  rw [h]

theorem recordInv_written (h : rec.lifecycle = .unsafeWritten ∨ rec.lifecycle = .rcBound) :
    RecordInv r w rec ↔ ∃ result rc ps, Written r w rec result rc ps := by
  unfold RecordInv
  rcases h with h | h <;> rw [h]

theorem recordInv_aborting (h : rec.lifecycle = .abortPending) :
    RecordInv r w rec ↔ ∃ abort, Aborting r w rec abort := by
  unfold RecordInv
  rw [h]

theorem recordInv_cleaned (h : rec.lifecycle = .cleaned) :
    RecordInv r w rec ↔ w.ownOf r rec = [] := by
  unfold RecordInv
  rw [h]

theorem Written.partOf {result : PreparedLocalResult} {rc : RCRecord} {ps : List StoredPart}
    (h : Written r w rec result rc ps) : ∀ p ∈ ps, PartOf r rec.table rec.statementID p :=
  partOf_of_rowIDs fun _ hx => h.ids.mem_iff.mp hx

end

/-- What holds of the parts and the journal by themselves. -/
structure IntakeBase (r : Role) (w : World) : Prop where
  active : ∀ t, ∀ p ∈ w.parts .hgUnsafe t, (t, p) ∈ w.born
  names : ∀ t p q, (t, p) ∈ w.born → (t, q) ∈ w.born → p.name = q.name → p = q
  nonempty : ∀ t p, (t, p) ∈ w.born → p.content ≠ []
  pure : ∀ t p, (t, p) ∈ w.born → ∃ id, PartOf r t id p
  ids : ∀ id rec, w.journal.lookup id = some rec →
    rec.statementID = id ∧ rec.envelope.statementID.flat = id
  decoded : ∀ id rec, w.journal.lookup id = some rec → rec.Decoded r
  /-- The candidates of a record's claim were written. -/
  rcs : ∀ id rec rc, w.journal.lookup id = some rec → rec.rc = some rc →
    ∀ c ∈ rc.candidateParts, ∃ p, (c.tableID, p) ∈ w.born ∧ p.name = c.partName
  claims : ∀ rc ∈ w.claims, ∀ c ∈ rc.candidateParts,
    ∃ p, (c.tableID, p) ∈ w.born ∧ p.name = c.partName

/-- The invariant between the intake journal, the claims and hg_unsafe. -/
structure IntakeInv (r : Role) (w : World) : Prop extends IntakeBase r w where
  records : ∀ id rec, w.journal.lookup id = some rec → RecordInv r w rec
  known : ∀ t p id, (t, p) ∈ w.born → PartOf r t id p →
    ∃ rec, w.journal.lookup id = some rec ∧ rec.table = t
  claimed : ∀ rc ∈ w.claims, ∀ c ∈ rc.candidateParts,
    ∃ p, (c.tableID, p) ∈ w.born ∧ c = candidatePart r c.tableID p ∧
      PartOf r c.tableID rc.statementID.flat p
  aborted : ∀ d ∈ w.aborted, PartOf r d.table d.statementID d.part

/-! ## Steps -/

/-- The part may be one of the record's statement. -/
def Suspect (r : Role) (rec : IntakeRecord) (p : StoredPart) : Prop :=
  suspect rec (r.schemas rec.table) p.info = true

/-- Why a convergence fails for good: a part that was suspected has a row of
    another statement, or the suspected parts hold too many rows. -/
inductive Confused (r : Role) (w : World) (rec : IntakeRecord) : Prop where
  | foreign (p : StoredPart) (hp : (rec.table, p) ∈ w.born) (hs : Suspect r rec p)
      (hrow : ∃ row ∈ p.content, row.rowID ∉ rec.derived r)
  | overfull (ps : List StoredPart) (hps : ∀ p ∈ ps, p ∈ w.parts .hgUnsafe rec.table)
      (hnodup : ps.Nodup) (hpart : ∀ p ∈ ps, PartOf r rec.table rec.statementID p)
      (hids : ¬ (rowIDs ps).Subperm (rec.derived r))

/-- What a call may do: register a claim, and abort a prepared statement after the
    claims that were accepted so far. -/
structure Permit where
  claim : Prop
  abort : List RCRecord → String → Prop

/-- The records that a call may write. -/
inductive RecordStep (r : Role) (permit : Permit) (w : World) : IntakeRecord → Prop where
  | preparing {rec : IntakeRecord} (hlife : rec.lifecycle = .preparing)
      (hflat : rec.envelope.statementID.flat = rec.statementID) (hdecoded : rec.Decoded r)
      (hold : ∀ old, w.journal.lookup rec.statementID = some old →
        old.lifecycle = .cleaned ∧ old.envelope = rec.envelope)
      (hinv : ∀ pid, ∀ n ∈ rec.preWriteInventory.getD pid [],
        ∃ p, (rec.table, p) ∈ w.born ∧ p.name = n)
      (hresult : rec.result = none) (hrc : rec.rc = none) :
      RecordStep r permit w rec
  | failed {old : IntakeRecord} (detail : String)
      (hold : w.HasRecord old) (hlife : old.lifecycle = .preparing)
      (hwhy : Confused r w old) :
      RecordStep r permit w { old with convergeFailed := detail }
  | written {old : IntakeRecord} {result : PreparedLocalResult} {rc : RCRecord}
      {ps : List StoredPart} (hold : w.HasRecord old)
      (hlife : old.lifecycle = .preparing) (hps : ∀ p ∈ ps, p ∈ w.parts .hgUnsafe old.table)
      (hall : ∀ p ∈ w.parts .hgUnsafe old.table, Suspect r old p → p ∈ ps)
      (hids : (rowIDs ps).Perm (old.derived r))
      (hcand : result.candidateParts = ps.map (candidatePart r old.table))
      (hrc : rc.candidateParts = result.candidateParts)
      (hname : result.statementID = old.statementID)
      (hstmt : rc.statementID = old.envelope.statementID) :
      RecordStep r permit w
        { old with lifecycle := .unsafeWritten, result := some result, rc := some rc }
  | bound {old : IntakeRecord} {result : PreparedLocalResult} {rc : RCRecord}
      (hold : w.HasRecord old)
      (hlife : old.lifecycle = .unsafeWritten) (hresult : old.result = some result)
      (hrc : old.rc = some rc) (hclaim : rc ∈ w.claims) :
      RecordStep r permit w
        { old with
          lifecycle := .rcBound
          result := some { result with lifecycle := .rcBound } }
  | incomplete {old : IntakeRecord} {abort : IntakeAbort}
      (hold : w.HasRecord old) (hlife : old.lifecycle = .preparing)
      (hall : ∀ p ∈ w.parts .hgUnsafe old.table, Suspect r old p → p.name ∈ abort.partNames)
      (hnames : ∀ n ∈ abort.partNames, ∃ p, (old.table, p) ∈ w.born ∧ p.name = n ∧
        (p ∈ w.parts .hgUnsafe old.table → PartOf r old.table old.statementID p)) :
      RecordStep r permit w { old with lifecycle := .abortPending, abort := some abort }
  | aborting {old : IntakeRecord} {abort : IntakeAbort} {result : PreparedLocalResult}
      (hold : w.HasRecord old)
      (hlife : old.lifecycle = .unsafeWritten) (hresult : old.result = some result)
      (hnames : ∀ n, n ∈ abort.partNames ↔ n ∈ result.candidateParts.map (·.partName))
      (hmay : permit.abort w.claims old.statementID) :
      RecordStep r permit w { old with lifecycle := .abortPending, abort := some abort }
  | cleaned {old : IntakeRecord} {abort : IntakeAbort}
      (hold : w.HasRecord old)
      (hlife : old.lifecycle = .abortPending) (habort : old.abort = some abort)
      (hgone : ∀ p ∈ w.parts .hgUnsafe old.table, p.name ∉ abort.partNames) :
      RecordStep r permit w { old with lifecycle := .cleaned }

/-- What one operation of an intake call on the statement `id` does. -/
inductive IntakeStep (r : Role) (faults : Faults) (permit : Permit) (id : String)
    (w : World) : World → Prop where
  | idle : IntakeStep r faults permit id w w
  | record (rec : IntakeRecord) (hid : rec.statementID = id) (h : RecordStep r permit w rec) :
      IntakeStep r faults permit id w { w with journal := w.journal.insert rec.statementID rec }
  | insert {rec : IntakeRecord} {rows : List Row} {landed : List StoredPart} {w' : World}
      (failed : List FailedInsert) (hrec : w.journal.lookup id = some rec)
      (hid : rec.statementID = id) (hlife : rec.lifecycle = .preparing)
      (hquiet : ∀ p ∈ w.parts .hgUnsafe rec.table, ¬ Suspect r rec p)
      (hrows : rows.map (·.rowID) = rec.derived r)
      (htouched : ∀ row ∈ rows, ∃ pid ∈ rec.touchedPartitions,
        HouseGate.partitionIDForRow (r.schemas rec.table) row.values = .ok pid)
      (hland : landable (r.schemas rec.table) rows w.born landed)
      (h : w.inserted (r.schemas rec.table) landed = some w') :
      IntakeStep r faults permit id w { w' with failed := failed }
  | drop {rec : IntakeRecord} {abort : IntakeAbort} {name : String}
      (hrec : w.journal.lookup id = some rec) (hid : rec.statementID = id)
      (hlife : rec.lifecycle = .abortPending) (habort : rec.abort = some abort)
      (hname : name ∈ abort.partNames) :
      IntakeStep r faults permit id w
        ((w.partDropped .hgUnsafe rec.table name).noteDrop rec.table
          ((w.parts .hgUnsafe rec.table).filter (·.name = name)) (.abort rec.statementID))
  | add {rec : IntakeRecord} {p : StoredPart} {fault : WriteFault} {e : GoError} {c : CandidatePart}
      (hrec : w.journal.lookup id = some rec) (hid : rec.statementID = id)
      (hlife : rec.lifecycle = .preparing) (hp : p ∈ w.ownOf r rec)
      (hc : c = candidatePart r rec.table p)
      (hf : faults (.addUnpromotedPart c.key c.partName c.partRowLtHash) fault = true) :
      IntakeStep r faults permit id w
        (w.written (.addUnpromotedPart c.key c.partName c.partRowLtHash) fault
          (w.store.write (.addUnpromotedPart c.key c.partName c.partRowLtHash) fault e).2)
  | remove {rec : IntakeRecord} {result : PreparedLocalResult} {fault : WriteFault} {e : GoError}
      {c : CandidatePart} (hrec : w.journal.lookup id = some rec) (hid : rec.statementID = id)
      (hlife : rec.lifecycle = .abortPending) (hresult : rec.result = some result)
      (hc : c ∈ result.candidateParts)
      (hf : faults (.removeUnpromotedPart c.key c.partName c.partRowLtHash) fault = true) :
      IntakeStep r faults permit id w
        (w.written (.removeUnpromotedPart c.key c.partName c.partRowLtHash) fault
          (w.store.write (.removeUnpromotedPart c.key c.partName c.partRowLtHash) fault e).2)
  | claim {rec : IntakeRecord} {rc : RCRecord} (hrec : w.journal.lookup id = some rec)
      (hid : rec.statementID = id) (hmay : permit.claim)
      (hlife : rec.lifecycle = .unsafeWritten ∨ rec.lifecycle = .rcBound) (hrc : rec.rc = some rc) :
      IntakeStep r faults permit id w { w with claims := w.claims ++ [rc] }

/-! ## Steps keep the invariant -/

section Preservation

variable {r : Role} {faults : Faults} {permit : Permit} {id : String}
  {w w' : World} {rec : IntakeRecord}

omit [HouseGate] in
theorem World.CleanedUp.mono (h : w.dropped ⊆ w'.dropped) {n : String} (hc : w.CleanedUp t n) :
    w'.CleanedUp t n := by
  obtain ⟨cmd, hcmd, hn⟩ := hc
  exact ⟨cmd, h hcmd, hn⟩

/-- A record stands when its statement loses parts: an aborting one any of them,
    and another one claimed parts, to a cleanup. -/
theorem RecordInv.shrink {keep : StoredPart → Bool} (h : RecordInv r w rec)
    (hborn : w.born ⊆ w'.born) (hdropped : w.dropped ⊆ w'.dropped)
    (hclaims : rec.lifecycle = .preparing → ∀ p ∈ w.ownOf r rec, w'.Claimed rec.table p.name →
      w.Claimed rec.table p.name)
    (hback : ∀ p, (rec.table, p) ∈ w.born → p ∈ w'.parts .hgUnsafe rec.table →
      p ∈ w.parts .hgUnsafe rec.table)
    (hown : w'.ownOf r rec = (w.ownOf r rec).filter keep)
    (hlost : ∀ p ∈ w.ownOf r rec, keep p = false → rec.lifecycle = .abortPending ∨
      w.Claimed rec.table p.name ∧ w'.CleanedUp rec.table p.name) : RecordInv r w' rec := by
  have hsub : ∀ p ∈ w'.ownOf r rec, p ∈ w.ownOf r rec := fun p hp =>
    List.mem_of_mem_filter (hown ▸ hp)
  have written : rec.lifecycle ≠ .abortPending → ∀ {result rc ps},
      Written r w rec result rc ps → Written r w' rec result rc ps := by
    intro hlife result rc ps h
    refine { h with
      born := fun p hp => hborn (h.born p hp)
      own := fun p hp => h.own p (hsub p hp)
      active := fun p hp => ?_ }
    rcases h.active p hp with hact | hup
    · cases hk : keep p with
      | true => exact .inl (hown ▸ List.mem_filter.mpr ⟨hact, hk⟩)
      | false =>
        rcases hlost p hact hk with habort | ⟨-, hup⟩
        · exact absurd habort hlife
        · exact .inr hup
    · exact .inr (hup.mono hdropped)
  unfold RecordInv at h ⊢
  cases hl : rec.lifecycle with
  | preparing =>
    rw [hl] at h
    -- no part is lost, since the parts of a preparing record are not claimed
    have hkept : ∀ p ∈ w.ownOf r rec, keep p = true := by
      intro p hp
      by_contra hk
      rcases hlost p hp (by simpa using hk) with habort | ⟨hcl, -⟩
      · cases hl.symm.trans habort
      · exact h.unclaimed p hp hcl
    have hsame : w'.ownOf r rec = w.ownOf r rec := hown.trans (List.filter_eq_self.mpr hkept)
    exact {
      noResult := h.noResult
      touched := hsame ▸ h.touched
      fresh := hsame ▸ h.fresh
      ids := hsame ▸ h.ids
      unclaimed := fun p hp hc => h.unclaimed p (hsub p hp) (hclaims hl p (hsub p hp) hc)
      inventory := fun pid n hn => by
        obtain ⟨p, hp, hname⟩ := h.inventory pid n hn
        exact ⟨p, hborn hp, hname⟩ }
  | unsafeWritten | rcBound =>
    rw [hl] at h
    obtain ⟨result, rc, ps, h⟩ := h
    exact ⟨result, rc, ps, written (hl ▸ nofun) h⟩
  | abortPending =>
    rw [hl] at h
    obtain ⟨abort, h⟩ := h
    refine ⟨abort, h.hasAbort, fun p hp => h.own p (hsub p hp), fun n hn => ?_,
      fun result hres c hc => ?_⟩
    · obtain ⟨p, hp, hname, hpart⟩ := h.born n hn
      exact ⟨p, hborn hp, hname, fun hact => hpart (hback p hp hact)⟩
    · obtain ⟨p, hp, hrest⟩ := h.candidates result hres c hc
      exact ⟨p, hborn hp, hrest⟩
  | cleaned =>
    rw [hl] at h
    have hnil : w.ownOf r rec = [] := h
    show w'.ownOf r rec = []
    rw [hown, hnil, List.filter_nil]

/-- A record is about the statement's parts, the claims and the cleanups only. -/
theorem RecordInv.frame (h : RecordInv r w rec) (hborn : w.born ⊆ w'.born)
    (hclaims : w'.claims = w.claims) (hdropped : w'.dropped = w.dropped)
    (hback : ∀ p, (rec.table, p) ∈ w.born → p ∈ w'.parts .hgUnsafe rec.table →
      p ∈ w.parts .hgUnsafe rec.table)
    (hown : w'.ownOf r rec = w.ownOf r rec) : RecordInv r w' rec := by
  refine h.shrink hborn (hdropped ▸ List.Subset.refl _) (fun _ p _ hc => ?_) hback
    (hown.trans (List.filter_true _).symm) nofun
  obtain ⟨rc, hrc, hc⟩ := hc
  exact ⟨rc, hclaims ▸ hrc, hc⟩

theorem IntakeBase.rely (h : IntakeBase r w) (hr : IntakeRely r w w') : IntakeBase r w' where
  active t p hp := hr.born ▸ h.active t p (hr.mem_parts hp)
  names := hr.born ▸ h.names
  nonempty := hr.born ▸ h.nonempty
  pure := hr.born ▸ h.pure
  ids := hr.journal ▸ h.ids
  decoded := hr.journal ▸ h.decoded
  rcs := by
    rw [hr.journal, hr.born]
    exact h.rcs
  claims := by
    rw [hr.claims, hr.born]
    exact h.claims

/-- The others keep the invariant. -/
theorem IntakeInv.rely (h : IntakeInv r w) (hr : IntakeRely r w w') : IntakeInv r w' where
  toIntakeBase := h.toIntakeBase.rely hr
  records id rec hrec := by
    obtain ⟨keep, hparts, hkeep⟩ := hr.parts rec.table
    refine (h.records id rec (hr.journal ▸ hrec)).shrink (hr.born ▸ List.Subset.refl _) hr.dropped
      (fun _ _ _ => hr.claimed.mp) (fun _ _ hp => hr.mem_parts hp) (World.own_filter hparts)
      fun p hp hk => .inr ?_
    obtain ⟨hclaimed, hup, -⟩ := hkeep p (World.mem_own.mp hp).1 hk
    exact ⟨hclaimed, hup⟩
  known := by
    rw [hr.born, hr.journal]
    exact h.known
  claimed := by
    rw [hr.claims, hr.born]
    exact h.claimed
  aborted := hr.aborted ▸ h.aborted

/-! ### Records -/

/-- A written record keeps the statement, its rows and its table. -/
theorem RecordStep.keeps (h : IntakeBase r w) (hs : RecordStep r permit w rec) :
    rec.envelope.statementID.flat = rec.statementID ∧ rec.Decoded r ∧
      ∀ old, w.journal.lookup rec.statementID = some old → old.table = rec.table := by
  cases hs with
  | preparing _ hflat hdecoded hold =>
    exact ⟨hflat, hdecoded, fun old hlook => congrArg (·.targetTableID) (hold old hlook).2⟩
  | failed _ hold | written hold | bound hold | incomplete hold | aborting hold | cleaned hold =>
    have hdecoded := h.decoded _ _ hold
    refine ⟨(h.ids _ _ hold).2, hdecoded, fun old hlook => ?_⟩
    cases Option.some.inj (hold.symm.trans hlook)
    rfl

theorem RecordStep.rcs (h : IntakeBase r w) (hs : RecordStep r permit w rec) {rc : RCRecord}
    (hrc : rec.rc = some rc) : ∀ c ∈ rc.candidateParts,
      ∃ p, (c.tableID, p) ∈ w.born ∧ p.name = c.partName := by
  cases hs with
  | preparing _ _ _ _ _ _ hnone => exact nomatch hnone.symm.trans hrc
  | written _ _ hps _ _ hcand hclaims =>
    cases Option.some.inj hrc
    intro c hc
    rw [hclaims, hcand] at hc
    obtain ⟨p, hp, rfl⟩ := List.mem_map.mp hc
    exact ⟨p, h.active _ p (hps p hp), rfl⟩
  | failed _ hold | bound hold | incomplete hold | aborting hold | cleaned hold =>
    exact h.rcs _ _ rc hold hrc

theorem RecordStep.base (h : IntakeBase r w) (hs : RecordStep r permit w rec) :
    IntakeBase r { w with journal := w.journal.insert rec.statementID rec } := by
  refine { h with
    ids := fun id rec' hlook => ?_
    decoded := fun id rec' hlook => ?_
    rcs := fun id rec' rc hlook hrc => ?_ }
  all_goals
    simp only [GoMap.lookup_insert] at hlook
    split at hlook
  · next hid =>
    cases hlook
    exact ⟨hid.symm, (hs.keeps h).1.trans hid.symm⟩
  · exact h.ids id rec' hlook
  · cases hlook
    exact (hs.keeps h).2.1
  · exact h.decoded id rec' hlook
  · cases hlook
    exact hs.rcs h hrc
  · exact h.rcs id rec' rc hlook hrc

variable {sch : TableSchema}

omit [HouseGate] in
theorem suspect_iff :
    suspect rec sch p.info = true ↔ p.content ≠ [] ∧ p.partition sch ∈ rec.touchedPartitions ∧
      p.name ∉ rec.preWriteInventory.getD (p.partition sch) [] := by
  simp [suspect, StoredPart.partition, StoredPart.info, List.length_eq_zero_iff]

/-- The parts of a preparing statement are suspected. -/
theorem Preparing.suspect (h : IntakeBase r w) (hp : Preparing r w rec) (hown : p ∈ w.ownOf r rec) :
    Suspect r rec p := by
  have hborn := h.active _ p (World.mem_own.mp hown).1
  exact suspect_iff.mpr ⟨h.nonempty _ p hborn, hp.touched p hown, hp.fresh p hown _⟩

/-- A written record is true of hg_unsafe. -/
theorem RecordStep.recordInv (h : IntakeInv r w) (hs : RecordStep r permit w rec) :
    RecordInv r w rec := by
  cases hs with
  | preparing hlife _ _ hold hinv hresult _ =>
    have hnil : w.ownOf r rec = [] := by
      refine List.eq_nil_iff_forall_not_mem.mpr fun p hp => ?_
      obtain ⟨hact, hpart⟩ := World.mem_own.mp hp
      -- a part of the statement has a record, and that record is cleaned
      obtain ⟨old, hlook, -⟩ := h.known _ p _ (h.active _ p hact) hpart
      obtain ⟨hcleaned, henv⟩ := hold old hlook
      have hnone := (recordInv_cleaned hcleaned).mp (h.records _ old hlook)
      have htable : old.table = rec.table := congrArg (·.targetTableID) henv
      rw [World.ownOf, htable, (h.ids _ old hlook).1] at hnone
      exact List.not_mem_nil (hnone.symm ▸ World.mem_own.mpr ⟨hact, hpart⟩)
    refine (recordInv_preparing hlife).mpr ?_
    constructor
    case noResult => exact hresult
    case inventory => exact hinv
    all_goals simp [hnil, rowIDs]
  | @failed old detail hold hlife _ =>
    have hp := (recordInv_preparing hlife).mp (h.records _ _ hold)
    have hlife' : { old with convergeFailed := detail }.lifecycle = .preparing := hlife
    exact (recordInv_preparing hlife').mpr
      ⟨hp.noResult, hp.touched, hp.fresh, hp.ids, hp.unclaimed, hp.inventory⟩
  | @written old result rc ps hold hlife hps hall hids hcand hrc hname hstmt =>
    have hp := (recordInv_preparing hlife).mp (h.records _ _ hold)
    have hpart : ∀ p ∈ ps, PartOf r old.table old.statementID p :=
      partOf_of_rowIDs fun _ hx => hids.mem_iff.mp hx
    refine (recordInv_written (.inl rfl)).mpr ⟨result, rc, ps, rfl, rfl, hname, hstmt, hrc, hcand, ?_,
      hids, ?_, ?_⟩
    · exact fun p hp => h.active _ p (hps p hp)
    · exact fun p hown => hall p (World.mem_own.mp hown).1 (hp.suspect h.toIntakeBase hown)
    · exact fun p hp => .inl (World.mem_own.mpr ⟨hps p hp, hpart p hp⟩)
  | bound hold hlife hresult _ _ =>
    obtain ⟨result', rc, ps, hw⟩ := (recordInv_written (.inl hlife)).mp (h.records _ _ hold)
    cases Option.some.inj (hw.hasResult.symm.trans hresult)
    exact (recordInv_written (.inr rfl)).mpr ⟨_, rc, ps, rfl, hw.hasRC, hw.named, hw.statement, hw.claims,
      hw.candidates, hw.born, hw.ids, hw.own, hw.active⟩
  | @incomplete old abort hold hlife hall hnames =>
    have hp := (recordInv_preparing hlife).mp (h.records _ _ hold)
    refine (recordInv_aborting rfl).mpr ⟨abort, rfl, ?_, hnames, ?_⟩
    · exact fun p hown => hall p (World.mem_own.mp hown).1 (hp.suspect h.toIntakeBase hown)
    · exact fun result hres => nomatch hp.noResult.symm.trans hres
  | @aborting old abort result hold hlife hresult hnames _ =>
    obtain ⟨_, rc, ps, hw⟩ := (recordInv_written (.inl hlife)).mp (h.records _ _ hold)
    cases Option.some.inj (hw.hasResult.symm.trans hresult)
    have hmem : ∀ n, n ∈ abort.partNames ↔ ∃ p ∈ ps, p.name = n := by
      intro n
      rw [hnames, hw.candidates, List.map_map, List.mem_map]
      rfl
    refine (recordInv_aborting rfl).mpr ⟨abort, rfl, ?_, ?_, ?_⟩
    · exact fun p hp => (hmem _).mpr ⟨p, hw.own p hp, rfl⟩
    · intro n hn
      obtain ⟨p, hp, rfl⟩ := (hmem n).mp hn
      exact ⟨p, hw.born p hp, rfl, fun _ => hw.partOf p hp⟩
    · intro result' hres c hc
      cases Option.some.inj (hresult.symm.trans hres)
      rw [hw.candidates] at hc
      obtain ⟨p, hp, rfl⟩ := List.mem_map.mp hc
      exact ⟨p, hw.born p hp, rfl, hw.partOf p hp⟩
  | cleaned hold hlife habort hgone =>
    obtain ⟨abort, ha⟩ := (recordInv_aborting hlife).mp (h.records _ _ hold)
    cases Option.some.inj (ha.hasAbort.symm.trans habort)
    refine (recordInv_cleaned rfl).mpr (List.eq_nil_iff_forall_not_mem.mpr fun p hp => ?_)
    exact hgone p (World.mem_own.mp hp).1 (ha.own p hp)

/-- The invariant after a record is written. -/
theorem RecordStep.inv (h : IntakeInv r w) (hs : RecordStep r permit w rec) :
    IntakeInv r { w with journal := w.journal.insert rec.statementID rec } where
  toIntakeBase := hs.base h.toIntakeBase
  records id rec' hlook := by
    simp only [GoMap.lookup_insert] at hlook
    split at hlook
    · cases hlook
      exact (hs.recordInv h).frame (List.Subset.refl _) rfl rfl (fun _ _ h => h) rfl
    · exact (h.records id rec' hlook).frame (List.Subset.refl _) rfl rfl (fun _ _ h => h) rfl
  known t p id hp hpart := by
    obtain ⟨old, hlook, htable⟩ := h.known t p id hp hpart
    simp only [GoMap.lookup_insert]
    split
    · next hid =>
      subst hid
      exact ⟨rec, rfl, ((hs.keeps h.toIntakeBase).2.2 old hlook).symm.trans htable⟩
    · exact ⟨old, hlook, htable⟩
  claimed := h.claimed
  aborted := h.aborted

/-! ### INSERT -/

variable {landed : List StoredPart}

omit [HouseGate] in
theorem World.inserted_parts (h : w.inserted sch landed = some w') (t : String) :
    w'.parts .hgUnsafe t = w.parts .hgUnsafe t ++ if t = sch.tableID then landed else [] := by
  obtain ⟨t', ht', rfl⟩ := Option.map_eq_some_iff.mp h
  by_cases ht : t = sch.tableID
  · subst ht
    rw [if_pos rfl]
    exact (World.setTable_parts_self w ..).trans (Table.add_parts ht')
  · rw [if_neg ht, List.append_nil]
    exact World.setTable_parts_of_ne (fun h => ht h.2) w t'

omit [HouseGate] in
theorem World.inserted_frame (h : w.inserted sch landed = some w') :
    w'.born = w.born ++ landed.map (sch.tableID, ·) ∧ w'.journal = w.journal ∧
      w'.claims = w.claims ∧ w'.dropped = w.dropped ∧ w'.aborted = w.aborted := by
  obtain ⟨t', ht', rfl⟩ := Option.map_eq_some_iff.mp h
  exact ⟨rfl, rfl, rfl, rfl, rfl⟩

/-- New parts of one statement keep what holds of the parts. -/
theorem IntakeBase.insert {rows : List Row} (h : IntakeBase r w)
    (hland : landable sch rows w.born landed) (hpart : ∀ p ∈ landed, PartOf r sch.tableID id p)
    (hins : w.inserted sch landed = some w') : IntakeBase r w' := by
  obtain ⟨hborn, hjournal, hclaims, -, -⟩ := World.inserted_frame hins
  have hnew : ∀ t p, (t, p) ∈ w'.born ↔ (t, p) ∈ w.born ∨ t = sch.tableID ∧ p ∈ landed := by
    intro t p
    rw [hborn, List.mem_append, List.mem_map]
    refine or_congr_right ⟨?_, ?_⟩
    · rintro ⟨q, hq, heq⟩
      cases heq
      exact ⟨rfl, hq⟩
    · rintro ⟨rfl, hp⟩
      exact ⟨p, hp, rfl⟩
  have hlanded : ∀ p ∈ landed, p ∈ w'.parts .hgUnsafe sch.tableID := fun p hp => by
    rw [World.inserted_parts hins, if_pos rfl]
    exact List.mem_append_right _ hp
  -- a new name is the name of no part before
  have hfresh : ∀ p q, (sch.tableID, p) ∈ w.born → q ∈ landed → p.name ≠ q.name :=
    fun p q hp hq => (hland.1 q hq).2.2.1 _ hp rfl
  constructor
  case active =>
    intro t p hp
    rw [World.inserted_parts hins] at hp
    rw [hnew]
    rcases List.mem_append.mp hp with hp | hp
    · exact .inl (h.active t p hp)
    · split at hp
      · next ht => exact .inr ⟨ht, hp⟩
      · cases hp
  case names =>
    intro t p q hp hq hname
    rcases (hnew t p).mp hp with hp | ⟨rfl, hpl⟩ <;> rcases (hnew _ q).mp hq with hq | ⟨ht, hql⟩
    · exact h.names t p q hp hq hname
    · exact absurd hname (hfresh p q (ht ▸ hp) hql)
    · exact absurd hname.symm (hfresh q p hq hpl)
    · exact Table.eq_of_name (hlanded p hpl) (hlanded q hql) hname
  case nonempty =>
    intro t p hp
    rcases (hnew t p).mp hp with hp | ⟨-, hp⟩
    · exact h.nonempty t p hp
    · exact (hland.1 p hp).1
  case pure =>
    intro t p hp
    rcases (hnew t p).mp hp with hp | ⟨rfl, hpl⟩
    · exact h.pure t p hp
    · exact ⟨id, hpart p hpl⟩
  case ids => exact hjournal ▸ h.ids
  case decoded => exact hjournal ▸ h.decoded
  case rcs =>
    intro id rec rc hlook hrc c hc
    obtain ⟨p, hp, hname⟩ := h.rcs id rec rc (hjournal ▸ hlook) hrc c hc
    exact ⟨p, (hnew _ p).mpr (.inl hp), hname⟩
  case claims =>
    intro rc hrc c hc
    obtain ⟨p, hp, hname⟩ := h.claims rc (hclaims ▸ hrc) c hc
    exact ⟨p, (hnew _ p).mpr (.inl hp), hname⟩

/-- What an INSERT adds to the parts of a statement. -/
theorem World.own_inserted (hins : w.inserted sch landed = some w')
    (hpart : ∀ p ∈ landed, PartOf r sch.tableID id p) (hne : ∀ p ∈ landed, p.content ≠ [])
    (t id' : String) :
    w'.own r t id' = w.own r t id' ++ if t = sch.tableID ∧ id' = id then landed else [] := by
  unfold World.own
  rw [World.inserted_parts hins, List.filter_append]
  congr 1
  by_cases ht : t = sch.tableID
  · subst ht
    by_cases hid : id' = id
    · subst hid
      simpa using hpart
    · simp only [if_true, hid, and_false, if_false, List.filter_eq_nil_iff, decide_eq_true_eq]
      exact fun p hp h => hid (h.unique (hne p hp) (hpart p hp)).2
  · simp [ht]

section Insert

variable {rows : List Row} {landed : List StoredPart}

/-- The row ids of what an INSERT of a statement wrote. -/
theorem landed_ids (hrows : rows.map (·.rowID) = rec.derived r)
    (hland : landable (r.schemas rec.table) rows w.born landed) :
    (rowIDs landed).Subperm (rec.derived r) := by
  obtain ⟨l, hperm, hsub⟩ := hland.2
  have hids : (l.map (·.rowID)).Perm (rowIDs landed) := by
    have := hperm.map (·.rowID)
    rwa [List.map_flatMap] at this
  exact ⟨l.map (·.rowID), hids, hrows ▸ hsub.map _⟩

theorem IntakeInv.insert (h : IntakeInv r w)
    (hrec : w.HasRecord rec) (hlife : rec.lifecycle = .preparing)
    (hquiet : ∀ p ∈ w.parts .hgUnsafe rec.table, ¬ Suspect r rec p)
    (hrows : rows.map (·.rowID) = rec.derived r)
    (htouched : ∀ row ∈ rows, ∃ pid ∈ rec.touchedPartitions,
      HouseGate.partitionIDForRow (r.schemas rec.table) row.values = .ok pid)
    (hland : landable (r.schemas rec.table) rows w.born landed)
    (hins : w.inserted (r.schemas rec.table) landed = some w') : IntakeInv r w' := by
  have htable := r.schemas_tableID rec.table
  have hids := landed_ids hrows hland
  have hpart := partOf_of_rowIDs (landed_ids hrows hland).subset
  rw [← htable] at hpart
  have hown := World.own_inserted hins hpart fun p hp => (hland.1 p hp).1
  obtain ⟨hborn, hjournal, hclaims, hdropped, haborted⟩ := World.inserted_frame hins
  have hsub : w.born ⊆ w'.born := hborn ▸ List.subset_append_left ..
  have hprep := (recordInv_preparing hlife).mp (h.records _ _ hrec)
  have hempty : w.ownOf r rec = [] := List.eq_nil_iff_forall_not_mem.mpr fun p hp =>
    hquiet p (World.mem_own.mp hp).1 (hprep.suspect h.toIntakeBase hp)
  constructor
  case toIntakeBase => exact h.toIntakeBase.insert hland hpart hins
  case records =>
    intro id rec' hlook
    rw [hjournal] at hlook
    have hid := (h.ids id rec' hlook).1
    by_cases hsame : id = rec.statementID
    · subst hsame
      cases Option.some.inj (hrec.symm.trans hlook)
      have hnow : w'.ownOf r rec = landed := by
        have := hown rec.table rec.statementID
        rwa [if_pos ⟨htable.symm, rfl⟩, show w.own r rec.table rec.statementID = [] from hempty,
          List.nil_append] at this
      refine (recordInv_preparing hlife).mpr ⟨hprep.noResult, ?_, ?_, hnow ▸ hids, ?_, ?_⟩
      · rw [hnow]
        intro p hp
        obtain ⟨row, hrow⟩ := List.exists_mem_of_ne_nil _ (hland.1 p hp).1
        have hmem : row ∈ rows := hland.2.subset (List.mem_flatMap.mpr ⟨p, hp, hrow⟩)
        obtain ⟨pid, hpid, hok⟩ := htouched row hmem
        cases ((hland.1 p hp).2.2.2 row hrow).symm.trans hok
        exact hpid
      · rw [hnow]
        intro p hp pid hn
        obtain ⟨q, hq, hname⟩ := hprep.inventory pid _ hn
        exact (hland.1 p hp).2.2.1 _ hq htable.symm hname
      · rw [hnow]
        rintro p hp ⟨rc, hrc, c, hc, hct, hcn⟩
        obtain ⟨q, hq, hname⟩ := h.claims rc (hclaims ▸ hrc) c hc
        exact (hland.1 p hp).2.2.1 _ hq (hct.trans htable.symm) (hname.trans hcn)
      · intro pid n hn
        obtain ⟨q, hq, hname⟩ := hprep.inventory pid n hn
        exact ⟨q, hsub hq, hname⟩
    · refine (h.records id rec' hlook).frame hsub hclaims hdropped (fun p hp hact => ?_) ?_
      · rw [World.inserted_parts hins] at hact
        rcases List.mem_append.mp hact with hact | hact
        · exact hact
        · split at hact
          · next ht => exact absurd rfl ((hland.1 p hact).2.2.1 _ hp ht)
          · cases hact
      have := hown rec'.table rec'.statementID
      rwa [if_neg fun hand => hsame (hid.symm.trans hand.2), List.append_nil] at this
  case known =>
    intro t p id hp hpt
    rw [hjournal]
    rw [hborn] at hp
    rcases List.mem_append.mp hp with hp | hp
    · exact h.known t p id hp hpt
    obtain ⟨q, hq, heq⟩ := List.mem_map.mp hp
    cases heq
    obtain ⟨-, rfl⟩ := hpt.unique (hland.1 p hq).1 (hpart p hq)
    exact ⟨rec, hrec, htable.symm⟩
  case claimed =>
    intro rc hrc c hc
    obtain ⟨p, hp, hrest⟩ := h.claimed rc (hclaims ▸ hrc) c hc
    exact ⟨p, hsub hp, hrest⟩
  case aborted => exact haborted ▸ h.aborted

end Insert

/-! ### DROP PART, claims and accounting -/

omit [HouseGate] in
theorem World.partDropped_parts (table name t : String) :
    (w.partDropped .hgUnsafe table name).parts .hgUnsafe t =
      (w.parts .hgUnsafe t).filter fun p => t ≠ table ∨ p.name ≠ name := by
  by_cases ht : t = table
  · subst ht
    refine (World.setTable_parts_self w ..).trans ?_
    simp [World.parts]
  · refine (World.setTable_parts_of_ne (fun h => ht h.2) w _).trans ?_
    simp [ht]

theorem IntakeBase.drop (h : IntakeBase r w) (table name id : String) (removed : List StoredPart) :
    IntakeBase r ((w.partDropped .hgUnsafe table name).noteDrop table removed (.abort id)) :=
  { h with active := fun t p hp =>
      h.active t p (List.mem_of_mem_filter (World.partDropped_parts table name t ▸ hp)) }

theorem IntakeInv.drop {abort : IntakeAbort} {name : String} (h : IntakeInv r w)
    (hrec : w.HasRecord rec) (hlife : rec.lifecycle = .abortPending)
    (habort : rec.abort = some abort) (hname : name ∈ abort.partNames) :
    IntakeInv r ((w.partDropped .hgUnsafe rec.table name).noteDrop rec.table
      ((w.parts .hgUnsafe rec.table).filter (·.name = name)) (.abort rec.statementID)) := by
  obtain ⟨_, ha⟩ := (recordInv_aborting hlife).mp (h.records _ _ hrec)
  cases Option.some.inj (ha.hasAbort.symm.trans habort)
  -- the part that is dropped belongs to the statement
  have hpart : ∀ p ∈ w.parts .hgUnsafe rec.table, p.name = name →
      PartOf r rec.table rec.statementID p := by
    intro p hp hpn
    obtain ⟨q, hq, hqn, hqpart⟩ := ha.born name hname
    cases h.names _ p q (h.active _ p hp) hq (hpn.trans hqn.symm)
    exact hqpart hp
  constructor
  case toIntakeBase => exact h.toIntakeBase.drop ..
  case records =>
    intro id rec' hlook
    refine (h.records id rec' hlook).shrink (List.Subset.refl _) (List.Subset.refl _) (fun _ _ _ hc => hc)
      (fun p _ hp => List.mem_of_mem_filter (World.partDropped_parts _ _ rec'.table ▸ hp))
      (World.own_filter (World.partDropped_parts _ _ rec'.table)) fun p hp hk => .inl ?_
    obtain ⟨hact, hpart'⟩ := World.mem_own.mp hp
    obtain ⟨ht, hn⟩ : rec'.table = rec.table ∧ p.name = name := by simpa using hk
    rw [ht] at hact
    have hsame := (hpart'.unique (h.nonempty _ p (h.active _ p hact)) (hpart p hact hn)).2
    rw [← (h.ids id rec' hlook).1, hsame] at hlook
    cases Option.some.inj (hrec.symm.trans hlook)
    exact hlife
  case known => exact h.known
  case claimed => exact h.claimed
  case aborted =>
    intro d hd
    rcases List.mem_append.mp hd with hd | hd
    · exact h.aborted d hd
    · obtain ⟨p, hp, rfl⟩ := List.mem_map.mp hd
      obtain ⟨hact, hn⟩ := List.mem_filter.mp hp
      exact hpart p hact (by simpa using hn)

theorem IntakeBase.claim {rc : RCRecord} (h : IntakeBase r w)
    (hrec : w.HasRecord rec) (hrc : rec.rc = some rc) :
    IntakeBase r { w with claims := w.claims ++ [rc] } := by
  refine { h with claims := fun rc' hrc' => ?_ }
  rcases List.mem_append.mp hrc' with hrc' | hrc'
  · exact h.claims rc' hrc'
  · cases List.mem_singleton.mp hrc'
    exact h.rcs _ _ rc hrec hrc

theorem IntakeInv.claim {rc : RCRecord} (h : IntakeInv r w)
    (hrec : w.HasRecord rec)
    (hlife : rec.lifecycle = .unsafeWritten ∨ rec.lifecycle = .rcBound) (hrc : rec.rc = some rc) :
    IntakeInv r { w with claims := w.claims ++ [rc] } := by
  obtain ⟨result, _, ps, hw⟩ := (recordInv_written hlife).mp (h.records _ _ hrec)
  cases Option.some.inj (hw.hasRC.symm.trans hrc)
  have hflat : rc.statementID.flat = rec.statementID := by
    rw [hw.statement, (h.ids _ _ hrec).2]
  have hcand : ∀ c ∈ rc.candidateParts, ∃ p ∈ ps, c = candidatePart r rec.table p := by
    intro c hc
    rw [hw.claims, hw.candidates] at hc
    obtain ⟨p, hp, rfl⟩ := List.mem_map.mp hc
    exact ⟨p, hp, rfl⟩
  have hclaimed : ∀ rc' ∈ w.claims ++ [rc], ∀ c ∈ rc'.candidateParts,
      ∃ p, (c.tableID, p) ∈ w.born ∧ c = candidatePart r c.tableID p ∧
        PartOf r c.tableID rc'.statementID.flat p := by
    intro rc' hrc' c hc
    rcases List.mem_append.mp hrc' with hrc' | hrc'
    · exact h.claimed rc' hrc' c hc
    · cases List.mem_singleton.mp hrc'
      obtain ⟨p, hp, rfl⟩ := hcand c hc
      exact ⟨p, hw.born p hp, rfl, hflat.symm ▸ hw.partOf p hp⟩
  constructor
  case toIntakeBase => exact h.toIntakeBase.claim hrec hrc
  case records =>
    intro id rec' hlook
    refine (h.records id rec' hlook).shrink (List.Subset.refl _) (List.Subset.refl _) (fun hl p hpo => ?_)
      (fun _ _ hp => hp) (List.filter_true _).symm nofun
    rintro ⟨rc', hrc', c, hc, hct, hcn⟩
    rcases List.mem_append.mp hrc' with hrc' | hrc'
    · exact ⟨rc', hrc', c, hc, hct, hcn⟩
    -- a part of the claim belongs to its statement, whose record has a result
    cases List.mem_singleton.mp hrc'
    obtain ⟨q, hq, rfl⟩ := hcand c hc
    obtain ⟨hact, hpart⟩ := World.mem_own.mp hpo
    have hct : rec.table = rec'.table := hct
    have hpq : p = q := h.names _ p q (h.active _ p hact) (hct ▸ hw.born q hq) hcn.symm
    subst hpq
    have hsame := (hpart.unique (h.nonempty _ p (h.active _ p hact)) (hw.partOf p hq)).2
    rw [← (h.ids id rec' hlook).1, hsame] at hlook
    cases Option.some.inj (hrec.symm.trans hlook)
    rcases hlife with hlife | hlife <;> cases hl.symm.trans hlife
  case known => exact h.known
  case claimed => exact hclaimed
  case aborted => exact h.aborted

/-- The invariant is not about the state store and the rows of failed INSERTs. -/
theorem IntakeBase.frame (h : IntakeBase r w) {store : Store} {failed : List FailedInsert}
    {writes : List StateWrite} :
    IntakeBase r { w with store := store, failed := failed, writes := writes } :=
  { h with }

theorem IntakeInv.frame (h : IntakeInv r w) {store : Store} {failed : List FailedInsert}
    {writes : List StateWrite} :
    IntakeInv r { w with store := store, failed := failed, writes := writes } where
  toIntakeBase := h.toIntakeBase.frame
  records id rec hlook := (h.records id rec hlook).frame (List.Subset.refl _) rfl rfl (fun _ _ h => h) rfl
  known := h.known
  claimed := h.claimed
  aborted := h.aborted

/-! ### All steps -/

/-- Every step of an intake keeps the invariant. -/
theorem IntakeStep.inv (h : IntakeInv r w) (hs : IntakeStep r faults permit id w w') :
    IntakeInv r w' := by
  cases hs with
  | idle => exact h
  | record rec _ hs => exact hs.inv h
  | insert failed hrec hid hlife hquiet hrows htouched hland hins =>
    exact (h.insert (.of_id hrec hid) hlife hquiet hrows htouched hland hins).frame
  | drop hrec hid hlife habort hname => exact h.drop (.of_id hrec hid) hlife habort hname
  | add => exact h.frame
  | remove => exact h.frame
  | claim hrec hid _ hlife hrc => exact h.claim (.of_id hrec hid) hlife hrc

/-- A call writes no record of another statement. -/
theorem IntakeStep.lookup_of_ne (hs : IntakeStep r faults permit id w w') {id' : String}
    (hne : id' ≠ id) : w'.journal.lookup id' = w.journal.lookup id' := by
  cases hs with
  | record rec hid _ => exact GoMap.lookup_insert_of_ne (hid ▸ hne) ..
  | insert failed _ _ _ _ _ _ _ hins =>
    obtain ⟨-, hjournal, -⟩ := World.inserted_frame hins
    exact congrArg (·.lookup id') hjournal
  | _ => rfl

theorem RecordStep.mono {permit' : Permit} (hs : RecordStep r permit w rec)
    (h : ∀ cs id, permit.abort cs id → permit'.abort cs id) : RecordStep r permit' w rec := by
  cases hs with
  | preparing hlife hflat hdecoded hold hinv hresult hrc =>
    exact .preparing hlife hflat hdecoded hold hinv hresult hrc
  | failed detail hold hlife hwhy => exact .failed detail hold hlife hwhy
  | written hold hlife hps hall hids hcand hrc hname hstmt =>
    exact .written hold hlife hps hall hids hcand hrc hname hstmt
  | bound hold hlife hresult hrc hclaim => exact .bound hold hlife hresult hrc hclaim
  | incomplete hold hlife hall hnames => exact .incomplete hold hlife hall hnames
  | aborting hold hlife hresult hnames hmay =>
    exact .aborting hold hlife hresult hnames (h _ _ hmay)
  | cleaned hold hlife habort hgone => exact .cleaned hold hlife habort hgone

/-- A call that may do less does nothing else. -/
theorem IntakeStep.mono {permit' : Permit} (hs : IntakeStep r faults permit id w w')
    (hclaim : permit.claim → permit'.claim)
    (habort : ∀ cs id, permit.abort cs id → permit'.abort cs id) :
    IntakeStep r faults permit' id w w' := by
  cases hs with
  | idle => exact .idle
  | record rec hid hs => exact .record rec hid (hs.mono habort)
  | insert failed hrec hid hlife hquiet hrows htouched hland hins =>
    exact .insert failed hrec hid hlife hquiet hrows htouched hland hins
  | drop hrec hid hlife habort hname => exact .drop hrec hid hlife habort hname
  | add hrec hid hlife hp hc hf => exact .add hrec hid hlife hp hc hf
  | remove hrec hid hlife hresult hc hf => exact .remove hrec hid hlife hresult hc hf
  | claim hrec hid hmay hlife hrc => exact .claim hrec hid (hclaim hmay) hlife hrc

/-- A call that registers no claim leaves the claims alone. -/
theorem IntakeStep.claims (hs : IntakeStep r faults permit id w w') (hno : ¬ permit.claim) :
    w'.claims = w.claims := by
  cases hs with
  | claim _ _ hmay => exact absurd hmay hno
  | insert failed _ _ _ _ _ _ _ hins =>
    obtain ⟨-, -, hclaims, -⟩ := World.inserted_frame hins
    exact hclaims
  | _ => rfl

/-- A bound record stays bound. -/
theorem IntakeStep.rcBound (hs : IntakeStep r faults permit id w w') {id' : String}
    (hlook : w.journal.lookup id' = some rec) (hbound : rec.lifecycle = .rcBound) :
    w'.journal.lookup id' = some rec := by
  cases hs with
  | record rec' _ hs =>
    simp only [GoMap.lookup_insert]
    split
    · next hid =>
      subst hid
      cases hs with
      | preparing _ _ _ hold =>
        cases (hold _ hlook).1.symm.trans hbound
      | failed _ hold hlife | written hold hlife | bound hold hlife | incomplete hold hlife
      | aborting hold hlife | cleaned hold hlife =>
        cases Option.some.inj (hold.symm.trans hlook)
        cases hlife.symm.trans hbound
    · exact hlook
  | insert failed _ _ _ _ _ _ _ hins =>
    obtain ⟨-, hjournal, -⟩ := World.inserted_frame hins
    exact hjournal ▸ hlook
  | _ => exact hlook

end Preservation

end ArbiterCore
