-- SUMMARY: The world of a storage node: ClickHouse tables, journals, messages, and the operations on them.
import ArbiterCore.Base.Threads
import ArbiterCore.SNode.Journal
import ArbiterCore.SNode.Store
import Mathlib.Algebra.Field.ZMod

/-!
# The world of a storage node

ClickHouse is modelled by the active parts of each table, with their rows. Every
statement is atomic: it takes effect by the time it returns, or never, and its
error does not say which. `Op` lists the atomic operations of the handlers and
`Op.run` answers them; an `Answer` picks the outcome.

Some fields of `World` are histories that no code reads: what was sent, what
each REPLACE published, which parts were ever written.
-/

namespace ArbiterCore

/-! ## Tables -/

/-- The part of a table's schema that the storage node reads. -/
structure TableSchema where
  tableID : String
  partitionBy : String
  deriving DecidableEq

/-- A row: its `_hg_row_id` and its column values. -/
structure Row where
  rowID : String
  values : String
  deriving DecidableEq

/-- One active part as system.parts lists it. -/
structure Part where
  name : String
  partitionID : String
  partitionValue : String
  physHash : String
  path : String
  rows : Nat
  bytes : Nat
  deriving DecidableEq

/-- An active part with its rows. -/
structure StoredPart where
  name : String
  partitionID : String
  partitionValue : String
  physHash : String
  path : String
  bytes : Nat
  content : List Row
  deriving DecidableEq

def StoredPart.info (p : StoredPart) : Part :=
  ⟨p.name, p.partitionID, p.partitionValue, p.physHash, p.path, p.content.length, p.bytes⟩

/-- `LogicalPartitionID`: the protocol's partition id of a part. -/
def logicalPartitionID (sch : TableSchema) (p : Part) : String :=
  if sch.partitionBy = "" then "all" else "p_" ++ p.partitionValue

/-- The protocol's partition id of a stored part. -/
def StoredPart.partition (sch : TableSchema) (p : StoredPart) : String :=
  logicalPartitionID sch p.info

/-- The parts of one logical partition. -/
def partitionOf (sch : TableSchema) (pid : String) (parts : List StoredPart) : List StoredPart :=
  parts.filter (·.partition sch = pid)

/-- The active parts of one table; their names are distinct. -/
structure Table where
  parts : List StoredPart
  nodup : (parts.map (·.name)).Nodup

namespace Table

def empty : Table := ⟨[], List.nodup_nil⟩

/-- The table without the parts that fail the test. -/
def keep (t : Table) (p : StoredPart → Bool) : Table :=
  ⟨t.parts.filter p, t.nodup.sublist (List.filter_sublist.map _)⟩

/-- The table with new parts, if their names are free. -/
def add (t : Table) (new : List StoredPart) : Option Table :=
  if h : ((t.parts ++ new).map (·.name)).Nodup then some ⟨t.parts ++ new, h⟩ else none

def names (t : Table) : List String := t.parts.map (·.name)

@[simp] theorem keep_parts (t : Table) (p : StoredPart → Bool) :
    (t.keep p).parts = t.parts.filter p := rfl

theorem add_parts {t t' : Table} {new : List StoredPart} (h : t.add new = some t') :
    t'.parts = t.parts ++ new := by
  simp only [add] at h
  split at h
  · cases h
    rfl
  · cases h

/-- A part is determined by its name. -/
theorem eq_of_name {t : Table} {p q : StoredPart} (hp : p ∈ t.parts) (hq : q ∈ t.parts)
    (h : p.name = q.name) : p = q :=
  List.inj_on_of_nodup_map t.nodup hp hq h

end Table

def partsInLogicalPartition (parts : List Part) (sch : TableSchema) (pid : String) : List Part :=
  parts.filter (logicalPartitionID sch · = pid)

/-! ## External libraries -/

/-- The replay library of the protocol (external): the hash and the id of a row,
    its partition, and the digests and codecs of payloads and schemas. The tables of
    package unicode come with it. -/
class HouseGate extends LtHash, Unicode where
  rowHash : TableSchema → Row → Acc
  /-- `RowID(network, table, statement, ordinal)`. -/
  rowID : String → String → String → Nat → String
  rowID_injective : ∀ n t s i n' t' s' i', rowID n t s i = rowID n' t' s' i' →
    n = n' ∧ t = t' ∧ s = s' ∧ i = i'
  /-- The column values of the rows of a payload. -/
  decodePayload : TableSchema → Int → List UInt8 → Except GoError (List String)
  partitionIDForRow : TableSchema → String → Except GoError String
  tableSchemaHash : String → TableSchema → String
  digestBytes : List UInt8 → String
  /-- The only payload format: ClickHouse Native wire bytes. -/
  payloadFormat : String

section Hashes

variable [HouseGate]

open LtHash (Acc)

/-- The row LtHash of a part: the sum over its rows. -/
def partHash (sch : TableSchema) (p : StoredPart) : Acc :=
  (p.content.map (HouseGate.rowHash sch)).sum

/-- The content root of a list of parts. -/
def contentRoot (sch : TableSchema) (parts : List StoredPart) : Acc :=
  (parts.map (partHash sch)).sum

end Hashes

/-- A part scan: name, row LtHash and row count. -/
structure PartScanResult where
  partName : String
  rowLtHash : String
  rowCount : Nat
  deriving DecidableEq

/-! ## The world -/

inductive Database where
  | hgUnsafe
  | hgSafe
  | hgPromote
  deriving DecidableEq

def Database.text : Database → String
  | .hgUnsafe => "hg_unsafe"
  | .hgSafe => "hg_safe"
  | .hgPromote => "hg_promote"

/-- One effective REPLACE PARTITION: its command and the parts of the partition
    before and after it. -/
structure Publication where
  cmd : PromoteSafePartition
  before : List StoredPart
  after : List StoredPart

/-- Why a part is dropped. -/
inductive DropReason where
  | shadow
  /-- The abort of an intake. -/
  | abort (statementID : String)
  | cleanup (cmd : UnsafeCleanup)
  deriving DecidableEq

/-- A part of hg_unsafe that the abort of a statement dropped. -/
structure AbortDrop where
  statementID : String
  table : String
  part : StoredPart

/-- The rows of an INSERT that failed, without those it wrote. -/
structure FailedInsert where
  table : String
  rows : List Row

structure World where
  store : Store
  journal : GoMap String IntakeRecord
  tables : Database → String → Table
  /-- Every part ever written to hg_unsafe, by table. -/
  born : List (String × StoredPart)
  /-- The effective REPLACEs, oldest first. -/
  published : List Publication
  /-- The promotion acknowledgements that left this node. -/
  acks : List PromotionAck
  /-- The result claims that the arbiter accepted. -/
  claims : List RCRecord
  /-- The cleanups whose first DROP PART was executed. -/
  dropped : List UnsafeCleanup
  aborted : List AbortDrop
  failed : List FailedInsert
  /-- The state writes that took effect, oldest first. -/
  writes : List StateWrite
  /-- The cleanup acknowledgements that the arbiter accepted. -/
  acceptedCleanups : List CleanupAck

namespace World

/-- The state in memory. -/
def state (w : World) : LocalState := w.store.mem

/-- The active parts of a table. -/
def parts (w : World) (db : Database) (table : String) : List StoredPart := (w.tables db table).parts

theorem parts_nodup (w : World) (db : Database) (table : String) : (w.parts db table).Nodup :=
  (w.tables db table).nodup.of_map

/-- Replaces the active parts of one table. -/
def setTable (w : World) (db : Database) (table : String) (t : Table) : World :=
  { w with tables := fun db' table' => if db' = db ∧ table' = table then t else w.tables db' table' }

/-- A crash loses everything but what is durable, the tables and the histories. -/
def crash (w : World) : World := { w with store := w.store.restart }

@[simp] theorem setTable_parts_self (w : World) (db : Database) (table : String) (t : Table) :
    (w.setTable db table t).parts db table = t.parts := by
  simp [setTable, parts]

theorem setTable_parts_of_ne {db db' : Database} {table table' : String}
    (h : ¬ (db' = db ∧ table' = table)) (w : World) (t : Table) :
    (w.setTable db table t).parts db' table' = w.parts db' table' := by
  simp [setTable, parts, h]

end World

/-! ## Operations -/

/-- The configuration of a storage node. -/
structure Role where
  nodeID : String
  networkID : String
  /-- The payload store and the ClickHouse connection are configured. -/
  connected : Bool
  disableHardParts : Bool
  hardPartsPerPartition : Nat
  /-- The schema of each table. -/
  schemas : String → TableSchema
  schemas_tableID : ∀ t, (schemas t).tableID = t

/-- The atomic operations of the handlers. -/
inductive Op : Type → Type where
  /-- Reads the state in memory. -/
  | state : Op LocalState
  | write (w : StateWrite) : Op (Except GoError Unit)
  | authorizePromotion (cmd : PromoteSafePartition) : Op (Except GoError Unit)
  | authorizeCleanup (cmd : UnsafeCleanup) : Op (Except GoError Unit)
  | requireOwned (table : String) : Op (Except GoError Unit)
  | requireAdmissible (table schemaHash : String) : Op (Except GoError Unit)
  | schemaFor (table : String) : Op (Except GoError TableSchema)
  | auditBeforeShadow (cmd : PromoteSafePartition) : Op (Except GoError Unit)
  | activeParts (db : Database) (table : String) : Op (Except GoError (List Part))
  | scanParts (db : Database) (sch : TableSchema) (names : List String) :
      Op (Except GoError (List PartScanResult))
  | scanPartRowIDs (table partName : String) : Op (Except GoError (List String))
  | promoteTableExists (table : String) : Op (Except GoError Bool)
  | insertRows (sch : TableSchema) (rows : List Row) : Op (Except GoError Unit)
  /-- ATTACH PARTITION of hg_promote from another database. -/
  | attachPartition (src : Database) (sch : TableSchema) (pid : String) : Op (Except GoError Unit)
  /-- REPLACE PARTITION of hg_safe from hg_promote, for the command. -/
  | replacePartition (sch : TableSchema) (cmd : PromoteSafePartition) : Op (Except GoError Unit)
  | dropPartition (db : Database) (sch : TableSchema) (pid : String) : Op (Except GoError Unit)
  | dropPart (db : Database) (table name : String) (reason : DropReason) : Op (Except GoError Unit)
  /-- Drops a table in all three databases. -/
  | dropTables (table : String) : Op (Except GoError Unit)
  | ackPromotion (ack : PromotionAck) : Op (Except GoError Unit)
  | ackCleanup (ack : CleanupAck) : Op (Except GoError Unit)
  /-- The root that a claim carries for the whole node (assembled externally). -/
  | sourceClaimRoot : Op (Except GoError String)
  | signResultClaim (rc : RCRecord) : Op (Except GoError Unit)
  | registerResultClaim (rc : RCRecord) : Op (Except GoError Unit)
  | journalLoad (flatID : String) : Op (Except GoError (Option IntakeRecord))
  | journalWrite (rec : IntakeRecord) : Op (Except GoError Unit)
  | journalList : Op (Except GoError (List IntakeRecord))
  | putPayload (ref : String) (payload : List UInt8) : Op (Except GoError Unit)

/-- The outcome of one operation: its error, whether a failed operation took
    effect, the names ClickHouse gives to new parts, the parts an INSERT wrote,
    the answer of an external service, and the place where a state write failed. -/
structure Answer where
  err : Option GoError := none
  effect : Bool := true
  names : List String := []
  landed : List StoredPart := []
  found : Bool := true
  text : String := ""
  fault : WriteFault := .none

variable {res : Except GoError Unit}

namespace Answer

/-- Nothing fails, and no part is new. -/
def ok : Answer := {}

/-- The answer to a query or a check that changes nothing. -/
def query {β : Type} (a : Answer) (w : World) (result : β) : Option (Except GoError β × World) :=
  match a.err with
  | none => some (.ok result, w)
  | some e => some (.error e, w)

/-- The answer to a statement that leads from `w` to `w'`. -/
def statement (a : Answer) (w w' : World) : Option (Except GoError Unit × World) :=
  match a.err with
  | none => some (.ok (), w')
  | some e => some (.error e, if a.effect then w' else w)

theorem query_cases {β : Type} {a : Answer} {w w' : World} {result : β} {res : Except GoError β}
    (h : a.query w result = some (res, w')) : w' = w ∧ (res = .ok result ∨ ∃ e, res = .error e) := by
  simp only [query] at h
  split at h <;> cases h
  · exact ⟨rfl, .inl rfl⟩
  · exact ⟨rfl, .inr ⟨_, rfl⟩⟩

theorem statement_cases {a : Answer} {w w₁ w' : World} (h : a.statement w w₁ = some (res, w')) :
    (res = .ok () ∧ w' = w₁) ∨ (∃ e, res = .error e) ∧ (w' = w ∨ w' = w₁) := by
  simp only [statement] at h
  split at h <;> cases h
  · exact .inl ⟨rfl, rfl⟩
  refine .inr ⟨⟨_, rfl⟩, ?_⟩
  split
  · exact .inr rfl
  · exact .inl rfl

end Answer

/-- The error of a DROP PART that finds nothing to drop. -/
def ErrKind.gone : ErrKind → Bool
  | .noSuchDataPart | .unknownTable => true
  | _ => false

/-- The parts under new names, which no part of the table `t` has. -/
def renamed (parts : List StoredPart) (t : Table) (names : List String) :
    Option (List StoredPart) :=
  if names.length = parts.length ∧ ∀ n ∈ names, n ∉ t.names then
    some (List.zipWith (fun p n => { p with name := n }) parts names)
  else none

/-- The listing of system.parts, ordered by name. -/
def listing (parts : List StoredPart) : List Part :=
  (parts.map (·.info)).insertionSort (fun a b => a.name ≤ b.name)

section Semantics

variable [HouseGate]

/-- The scan of the parts with rows among the named ones. -/
def scanned (sch : TableSchema) (parts : List StoredPart) (names : List String) :
    List PartScanResult :=
  names.filterMap fun n =>
    (parts.find? fun p => p.name = n ∧ p.content ≠ []).map fun p =>
      ⟨p.name, accumulatorHex (partHash sch p), p.content.length⟩

/-- Whether an INSERT of `rows` may write the parts `landed`: new parts, with rows
    of one partition each. -/
def landable (sch : TableSchema) (rows : List Row) (born : List (String × StoredPart))
    (landed : List StoredPart) : Prop :=
  (∀ p ∈ landed, p.content ≠ [] ∧ p.name ≠ "" ∧ (∀ b ∈ born, b.1 = sch.tableID → b.2.name ≠ p.name) ∧
      ∀ row ∈ p.content, HouseGate.partitionIDForRow sch row.values = .ok (p.partition sch)) ∧
    (landed.flatMap (·.content)).Subperm rows

instance (sch : TableSchema) (rows : List Row) (born : List (String × StoredPart))
    (landed : List StoredPart) : Decidable (landable sch rows born landed) :=
  inferInstanceAs (Decidable (_ ∧ _))

namespace World

variable (w : World)

/-- An INSERT that wrote the parts `landed`. -/
def inserted (sch : TableSchema) (landed : List StoredPart) : Option World :=
  ((w.tables .hgUnsafe sch.tableID).add landed).map fun t =>
    { w.setTable .hgUnsafe sch.tableID t with born := w.born ++ landed.map (sch.tableID, ·) }

/-- ATTACH PARTITION of hg_promote with the parts `new`. -/
def attached (sch : TableSchema) (new : List StoredPart) : Option World :=
  ((w.tables .hgPromote sch.tableID).add new).map (w.setTable .hgPromote sch.tableID)

/-- REPLACE PARTITION of hg_safe by the parts `new`. -/
def replaced (sch : TableSchema) (cmd : PromoteSafePartition) (new : List StoredPart) :
    Option World :=
  let before := partitionOf sch cmd.partitionID (w.parts .hgSafe sch.tableID)
  (((w.tables .hgSafe sch.tableID).keep (·.partition sch ≠ cmd.partitionID)).add new).map fun t =>
    { w.setTable .hgSafe sch.tableID t with published := w.published ++ [⟨cmd, before, new⟩] }

def partitionDropped (db : Database) (sch : TableSchema) (pid : String) : World :=
  w.setTable db sch.tableID ((w.tables db sch.tableID).keep (·.partition sch ≠ pid))

def partDropped (db : Database) (table name : String) : World :=
  w.setTable db table ((w.tables db table).keep (·.name ≠ name))

/-- Notes that a DROP PART was executed and removed the parts `removed`. -/
def noteDrop (table : String) (removed : List StoredPart) : DropReason → World
  | .shadow => w
  | .abort id => { w with aborted := w.aborted ++ removed.map (⟨id, table, ·⟩) }
  | .cleanup cmd => { w with dropped := w.dropped ++ [cmd] }

def tablesDropped (table : String) : World :=
  { w with tables := fun db table' => if table' = table then .empty else w.tables db table' }

end World

/-- The faults of state writes that a system allows. -/
abbrev Faults := StateWrite → WriteFault → Bool

/-- State writes take effect or fail without one; the writes that change the
    memory first do not fail. -/
def atomicWrites : Faults
  | _, .none => true
  | w, .beforeRename => !w.inPlace
  | _, .afterRename => false

theorem atomicWrites_cases {sw : StateWrite} {fault : WriteFault} {st st' : Store} {e : GoError}
    (hf : atomicWrites sw fault = true) (h : st.write sw fault e = (res, st')) :
    st' = st ∨ ∃ next, sw.apply st.mem = .ok (some next) ∧ st' = ⟨next, next⟩ := by
  simp only [Store.write] at h
  split at h
  · cases h
    exact .inl rfl
  · cases h
    exact .inl rfl
  next next hap =>
  cases fault with
  | none =>
    cases h
    exact .inr ⟨next, hap, rfl⟩
  | beforeRename =>
    have hin : sw.inPlace = false := by simpa [atomicWrites] using hf
    cases h
    simp [hin]
  | afterRename => cases hf

/-- Whether a state write that meets `fault` succeeds and changes the state. -/
def effective (sw : StateWrite) (fault : WriteFault) (s : LocalState) : Bool :=
  match sw.apply s, fault with
  | .ok (some _), .none => true
  | _, _ => false

/-- The world after a state write that left `store`. -/
def World.written (w : World) (sw : StateWrite) (fault : WriteFault) (store : Store) : World :=
  { w with
    store := store
    writes := if effective sw fault w.state then w.writes ++ [sw] else w.writes }

/-- The answer of a state write. -/
def runWrite (faults : Faults) (sw : StateWrite) (a : Answer) (w : World) :
    Option (Except GoError Unit × World) :=
  if faults sw a.fault then
    match w.store.write sw a.fault (a.err.getD (errorf "write")) with
    | (res, store) => some (res, w.written sw a.fault store)
  else none

/-- The answer of a DROP PART. An error that says the part is gone is only given
    when it is. -/
def runDropPart (db : Database) (table name : String) (reason : DropReason) (a : Answer)
    (w : World) : Option (Except GoError Unit × World) :=
  let removed := (w.parts db table).filter (·.name = name)
  let done := (w.partDropped db table name).noteDrop table removed reason
  match a.err with
  | none => if removed ≠ [] then some (.ok (), done) else none
  | some e =>
    if e.kind.gone then if removed ≠ [] then none else some (.error e, w.noteDrop table [] reason)
    else some (.error e, if a.effect then done else w)

omit [HouseGate] in
/-- A DROP PART of an abort removes the named part or does nothing; when it
    succeeds or says that the part is gone, it is. -/
theorem runDropPart_abort_cases {db : Database} {table name id : String} {a : Answer}
    {w w₂ : World} (h : runDropPart db table name (.abort id) a w = some (res, w₂)) :
    (w₂ = w ∨ w₂ = (w.partDropped db table name).noteDrop table
      ((w.parts db table).filter (·.name = name)) (.abort id)) ∧
    ((res = .ok () ∨ ∃ e, res = .error e ∧ e.kind.gone = true) →
      ∀ p ∈ w₂.parts db table, p.name ≠ name) := by
  have hdone : ∀ p ∈ ((w.partDropped db table name).noteDrop table
      ((w.parts db table).filter (·.name = name)) (.abort id)).parts db table, p.name ≠ name := by
    intro p hp
    have hp : p ∈ (w.partDropped db table name).parts db table := hp
    rw [World.partDropped, World.setTable_parts_self, Table.keep_parts] at hp
    simpa using List.of_mem_filter hp
  unfold runDropPart at h
  dsimp only at h
  split at h
  · obtain ⟨-, h⟩ := Option.ite_none_right_eq_some.mp h
    cases h
    exact ⟨.inr rfl, fun _ => hdone⟩
  split at h
  · next e _ hgone =>
    obtain ⟨hnil, h⟩ := Option.ite_none_left_eq_some.mp h
    cases h
    have hsame : w.noteDrop table [] (.abort id) = w := by simp [World.noteDrop]
    rw [hsame]
    refine ⟨.inl rfl, fun _ p hp hn => hnil ?_⟩
    exact List.ne_nil_of_mem (List.mem_filter.mpr ⟨hp, by simpa using hn⟩)
  · next e _ hgone =>
    cases h
    refine ⟨?_, ?_⟩
    · split
      · exact .inr rfl
      · exact .inl rfl
    · rintro (h | ⟨e', h, hg⟩)
      · cases h
      · cases h
        exact absurd hg hgone

/-- The answer of an INSERT. -/
def runInsert (sch : TableSchema) (rows : List Row) (a : Answer) (w : World) :
    Option (Except GoError Unit × World) :=
  let written := a.landed.flatMap (·.content)
  if landable sch rows w.born a.landed then
    (w.inserted sch a.landed).bind fun w' =>
      match a.err with
      | none => if written.Perm rows then some (.ok (), w') else none
      | some e => some (.error e, { w' with failed := w'.failed ++ [⟨sch.tableID, rows.diff written⟩] })
  else none

theorem runInsert_cases {sch : TableSchema} {rows : List Row} {a : Answer} {w w₂ : World}
    (h : runInsert sch rows a w = some (res, w₂)) :
    landable sch rows w.born a.landed ∧ ∃ w', w.inserted sch a.landed = some w' ∧
      (res = .ok () ∧ (a.landed.flatMap (·.content)).Perm rows ∧ w₂ = w' ∨
        (∃ e, res = .error e) ∧ ∃ failed, w₂ = { w' with failed := failed }) := by
  obtain ⟨hland, h⟩ := Option.ite_none_right_eq_some.mp h
  obtain ⟨w', hins, h⟩ := Option.bind_eq_some_iff.mp h
  refine ⟨hland, w', hins, ?_⟩
  cases ha : a.err with
  | none =>
    rw [ha] at h
    obtain ⟨hperm, h⟩ := Option.ite_none_right_eq_some.mp h
    cases h
    exact .inl ⟨rfl, hperm, rfl⟩
  | some e =>
    rw [ha] at h
    cases h
    exact .inr ⟨⟨e, rfl⟩, _, rfl⟩

/-- Answers an operation. -/
def Op.run (r : Role) (faults : Faults) : {β : Type} → Op β → Answer → World → Option (β × World)
  | _, .state, _, w => some (w.state, w)
  | _, .write sw, a, w => runWrite faults sw a w
  | _, .authorizePromotion _, a, w => a.query w ()
  | _, .authorizeCleanup _, a, w => a.query w ()
  | _, .requireOwned _, a, w => a.query w ()
  | _, .requireAdmissible _ _, a, w => a.query w ()
  | _, .schemaFor table, a, w => a.query w (r.schemas table)
  | _, .auditBeforeShadow _, a, w => a.query w ()
  | _, .activeParts db table, a, w => a.query w (listing (w.parts db table))
  | _, .scanParts db sch names, a, w => a.query w (scanned sch (w.parts db sch.tableID) names)
  | _, .scanPartRowIDs table name, a, w =>
    a.query w (((w.parts .hgUnsafe table).filter (·.name = name)).flatMap
      (·.content.map (·.rowID)))
  | _, .promoteTableExists _, a, w => a.query w a.found
  | _, .insertRows sch rows, a, w => runInsert sch rows a w
  | _, .attachPartition src sch pid, a, w =>
    (renamed (partitionOf sch pid (w.parts src sch.tableID)) (w.tables .hgPromote sch.tableID)
      a.names).bind fun new => (w.attached sch new).bind (a.statement w)
  | _, .replacePartition sch cmd, a, w =>
    (renamed (partitionOf sch cmd.partitionID (w.parts .hgPromote sch.tableID))
      (w.tables .hgSafe sch.tableID) a.names).bind fun new =>
        (w.replaced sch cmd new).bind (a.statement w)
  | _, .dropPartition db sch pid, a, w => a.statement w (w.partitionDropped db sch pid)
  | _, .dropPart db table name reason, a, w => runDropPart db table name reason a w
  | _, .dropTables table, a, w => a.statement w (w.tablesDropped table)
  | _, .ackPromotion ack, a, w => a.statement w { w with acks := w.acks ++ [ack] }
  | _, .ackCleanup ack, a, w =>
    a.statement w { w with acceptedCleanups := w.acceptedCleanups ++ [ack] }
  | _, .sourceClaimRoot, a, w => a.query w a.text
  | _, .signResultClaim _, a, w => a.query w ()
  | _, .registerResultClaim rc, a, w => a.statement w { w with claims := w.claims ++ [rc] }
  | _, .journalLoad flatID, a, w => a.query w (w.journal.lookup flatID)
  | _, .journalWrite rec, a, w =>
    a.statement w { w with journal := w.journal.insert rec.statementID rec }
  | _, .journalList, a, w => a.query w (w.journal.toList.map (·.2))
  | _, .putPayload _ _, a, w => a.query w ()

/-- The machine that answers the operations of the node `r`. -/
def machine (r : Role) (faults : Faults) : Conc.Machine Op World where
  Choice := Answer
  run := Op.run r faults

end Semantics

/-- A handler: a program over the operations that may return an error. -/
abbrev Handler (α : Type) : Type 1 := Conc.Fallible GoError Op α

/-- Wraps the error of a handler. -/
abbrev within {α : Type} (context : String) (p : Handler α) : Handler α := Conc.mapError (·.wrap context) p

/-! ## A small node

An instance of the parameters on which executions can be evaluated: row hashes
count rows modulo 3, and a payload has one row per byte. -/

namespace SmallNode

/-- The characters `l` after their number in unary, then `rest`. -/
def framed (l rest : List Char) : List Char :=
  List.replicate l.length '1' ++ '0' :: (l ++ rest)

theorem unary_injective : ∀ {n n' : Nat} {m m' : List Char},
    List.replicate n '1' ++ '0' :: m = List.replicate n' '1' ++ '0' :: m' → n = n' ∧ m = m'
  | 0, 0, _, _, h => ⟨rfl, by simpa using h⟩
  | 0, n' + 1, _, _, h => by simp [List.replicate_succ] at h
  | n + 1, 0, _, _, h => by simp [List.replicate_succ] at h
  | n + 1, n' + 1, _, _, h => by
    simp only [List.replicate_succ, List.cons_append, List.cons.injEq, true_and] at h
    obtain ⟨rfl, rfl⟩ := unary_injective h
    exact ⟨rfl, rfl⟩

theorem framed_injective {l l' rest rest' : List Char} (h : framed l rest = framed l' rest') :
    l = l' ∧ rest = rest' := by
  obtain ⟨hlen, happ⟩ := unary_injective h
  exact List.append_inj happ hlen

def decode (s : String) : ZMod 3 := if s = "0x1" then 1 else if s = "0x2" then 2 else 0

def encode (a : ZMod 3) : String := if a = 0 then "0x0" else if a = 1 then "0x1" else "0x2"

theorem forall₂_decode {hs : List String} {as : List (ZMod 3)}
    (h : List.Forall₂ (fun h a => h ≠ "" ∧ (.ok (decode h) : Except GoError (ZMod 3)) = .ok a) hs as) :
    "" ∉ hs ∧ as = hs.map decode := by
  induction h with
  | nil => exact ⟨List.not_mem_nil, rfl⟩
  | cons hx _ ih =>
    obtain ⟨hne, ha⟩ := hx
    cases ha
    exact ⟨List.not_mem_cons_of_ne_of_not_mem hne.symm ih.1, by rw [ih.2, List.map_cons]⟩

scoped instance gate : HouseGate where
  Acc := ZMod 3
  decode s := .ok (decode s)
  encode := encode
  decode_encode := by decide
  encode_ne_empty := by decide
  sumPartRowLtHashes hs :=
    if "" ∈ hs then .error (errorf ("part row lthash " ++ toString (hs.idxOf "") ++ ": no accumulator"))
    else .ok (encode (hs.map decode).sum)
  sum_decoded hs as h := by
    obtain ⟨hne, rfl⟩ := forall₂_decode h
    rw [if_neg hne]
  sum_strict hs h hmem hbad := by
    obtain rfl | ⟨e, he⟩ := hbad
    · exact ⟨_, if_pos hmem⟩
    · cases he
  toUnicode := .ascii
  rowHash _ _ := 1
  rowID n t s i := String.ofList (framed n.toList (framed t.toList (framed s.toList
    (List.replicate i '1'))))
  rowID_injective n t s i n' t' s' i' h := by
    obtain ⟨hn, h⟩ := framed_injective (String.ofList_injective h)
    obtain ⟨ht, h⟩ := framed_injective h
    obtain ⟨hs, h⟩ := framed_injective h
    exact ⟨String.toList_inj.mp hn, String.toList_inj.mp ht, String.toList_inj.mp hs,
      by simpa using congrArg List.length h⟩
  decodePayload _ _ payload := .ok (payload.map fun b => String.singleton (Char.ofNat b.toNat))
  partitionIDForRow sch values := .ok (if sch.partitionBy = "" then "all" else "p_" ++ values)
  tableSchemaHash _ sch := sch.tableID
  digestBytes payload := String.ofList (payload.map fun b => Char.ofNat b.toNat)
  payloadFormat := "native"

def role : Role where
  nodeID := "n"
  networkID := "net"
  connected := true
  disableHardParts := true
  hardPartsPerPartition := 0
  schemas t := ⟨t, ""⟩
  schemas_tableID _ := rfl

/-- A fresh node whose table `t` holds the parts `t'` in hg_unsafe. -/
def world (t' : Table) : World where
  store := ⟨newLocalState, newLocalState⟩
  journal := .empty
  tables db t := if db = .hgUnsafe ∧ t = "t" then t' else .empty
  born := t'.parts.map ("t", ·)
  published := []
  acks := []
  claims := []
  dropped := []
  aborted := []
  failed := []
  writes := []
  acceptedCleanups := []

end SmallNode

end ArbiterCore
