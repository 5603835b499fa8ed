-- SUMMARY: The rebuild of an owner's lost ClickHouse (snode/rebuild, ddl/table.go).
import ArbiterCore.Install.Gate
import ArbiterCore.Registry.Snapshot
import ArbiterCore.SNode.Promote

/-!
# The rebuild

`rebuild` restores the hg_safe tables of a quarantined indexer on a new ClickHouse. It
fences the replicas of the lost server, creates the owned tables, fetches every missing
part of the arbiter's SafeParts into scratch tables of hg_promote, attaches what the gate
keeps to hg_safe, and journals the part names that it finds there. A run may stop at any
statement, and the next one starts over.

Scratch tables are recognised by their names only.
-/

namespace ArbiterCore.Rebuild

open Conc Registry

/-! ## Inputs -/

/-- The configuration of a rebuild; `nodeID` is the replica name of the node. -/
structure Config where
  networkID : String
  indexerID : Nat
  nodeID : String
  stateDir : String
  keeperShardID : Nat
  genesisTables : List TableSchema
  dryRun : Bool

/-- A part that the arbiter acknowledged as safe. -/
structure SafePart where
  partName : String
  partRowLtHash : String
  partPhysHash : String
  deriving DecidableEq

structure PartitionState where
  tableID : String
  partitionID : String
  basePartitionRoot : String
  publishSeq : Nat
  safeParts : List SafePart
  deriving DecidableEq

structure PromotionOutcome where
  promotionSeq : Nat
  acked : Bool
  deriving DecidableEq

/-- The answers of the arbiter. `schema` decodes the schema of a chain incarnation, and
    `schemaHash` is the hash that the registry records for an incarnation. -/
structure Inputs where
  registry : Snapshot
  quarantinedIndexers : List Nat
  schema : TableIncarnation → Except String TableSchema
  schemaHash : TableIncarnation → String
  states : List (List PartitionState)
  unacked : List PromotionOutcome

/-- What a backup holds of a partition. -/
structure BackupPart where
  name : String
  hashOfAllFiles : String
  rows : Nat
  deriving DecidableEq

/-- The second source: the parts of a backup, by table and partition. -/
structure ObjectStore where
  parts : String → String → List BackupPart

inductive FailureKind where
  | plain
  /-- ClickHouse's REPLICA_ALREADY_EXISTS. -/
  | replicaExists
  /-- ClickHouse refuses to drop an active replica. -/
  | replicaActive
  deriving DecidableEq

structure Failure where
  kind : FailureKind
  text : String
  deriving DecidableEq

def errorText (text : String) : Failure := ⟨.plain, text⟩

/-- The failure with a text before its own. -/
def Failure.wrap (e : Failure) (before : String) : Failure := { e with text := before ++ ": " ++ e.text }

/-! ## Tables and partitions -/

/-- A table that the indexer owns; the marker of a genesis table is 0. -/
structure OwnedTable where
  tableID : String
  schema : TableSchema
  marker : Nat
  physical : String
  deriving DecidableEq

structure OwnedPartition where
  table : OwnedTable
  state : PartitionState
  deriving DecidableEq

section

variable [HouseGate]

/-- The table of a live incarnation. -/
def ownedTable (cfg : Config) (inp : Inputs) (live : TableIncarnation) : Except Failure OwnedTable := do
  let key := live.key
  let (sch, marker) ←
    if live.origin = .genesis then
      match cfg.genesisTables.reverse.find? (·.tableID = key) with
      | some sch => Except.ok (sch, 0)
      | none => .error (errorText s!"rebuild: genesis table {key} is not in the configured genesis tables")
    else
      match inp.schema live with
      | .ok sch => .ok (sch, live.seq)
      | .error e => .error (errorText s!"rebuild: {e}")
  let recorded := inp.schemaHash live
  let hash := HouseGate.tableSchemaHash cfg.networkID sch
  if recorded ≠ "" ∧ recorded ≠ hash then
    .error (errorText s!"rebuild: table {key} has schema hash {hash} here, the registry has {recorded}")
  else .ok ⟨key, sch, marker, chTableName key⟩

/-- The tables of the keys of `incs` that are not in `seen`. -/
def ownedTablesFrom (cfg : Config) (inp : Inputs) :
    List String → List TableIncarnation → Except Failure (List OwnedTable)
  | _, [] => .ok []
  | seen, inc :: incs =>
    if inc.key ∈ seen then ownedTablesFrom cfg inp seen incs
    else
      let seen := inc.key :: seen
      match inp.registry.live inc.key with
      | none => ownedTablesFrom cfg inp seen incs
      | some live =>
        if inp.registry.owner live ≠ cfg.indexerID then ownedTablesFrom cfg inp seen incs
        else
          match live.status with
          | .pending | .active | .retiring => do
            let t ← ownedTable cfg inp live
            let ts ← ownedTablesFrom cfg inp seen incs
            return t :: ts
          | _ => ownedTablesFrom cfg inp seen incs

def ownedTables (cfg : Config) (inp : Inputs) : Except Failure (List OwnedTable) :=
  (ownedTablesFrom cfg inp [] inp.registry.incarnations).map
    (·.insertionSort (·.tableID ≤ ·.tableID))

end

/-- The order of the partitions: by table, then by partition. -/
def OwnedPartition.le (a b : OwnedPartition) : Prop :=
  a.table.tableID < b.table.tableID ∨
    a.table.tableID = b.table.tableID ∧ a.state.partitionID ≤ b.state.partitionID

instance : DecidableRel OwnedPartition.le := fun _ _ => inferInstanceAs (Decidable (_ ∨ _))

/-- One element for every run of the same partition, the first of which is `a`. -/
def compactFrom (a : OwnedPartition) : List OwnedPartition → List OwnedPartition
  | [] => [a]
  | b :: l =>
    if a.table.tableID = b.table.tableID ∧ a.state.partitionID = b.state.partitionID then
      compactFrom a l
    else a :: compactFrom b l

def compactPartitions : List OwnedPartition → List OwnedPartition
  | [] => []
  | a :: l => compactFrom a l

/-- The partitions with safe parts of the owned tables. -/
def ownedPartitions (tables : List OwnedTable) (states : List (List PartitionState)) :
    List OwnedPartition :=
  compactPartitions ((states.flatten.filterMap fun p =>
    match tables.reverse.find? (·.tableID = p.tableID) with
    | some t => if p.safeParts = [] then none else some ⟨t, p⟩
    | none => none).insertionSort OwnedPartition.le)

/-- What the restore of a partition must produce. -/
def manifest (p : OwnedPartition) : List SafePartMapping :=
  p.state.safeParts.map fun e => ⟨e.partRowLtHash, e.partName, e.partPhysHash⟩

def rowHashes (parts : List SafePartMapping) : List String := parts.map (·.partRowLtHash)

/-- The identity of a part across names. -/
structure PartContent where
  row : String
  phys : String
  deriving DecidableEq

/-- Removes the contents from `want` one by one; `none` when one of them is not wanted. -/
def subtract (want : List SafePartMapping) : List PartContent → Option (List SafePartMapping)
  | [] => some want
  | h :: hs =>
    match want.findIdx? fun m => m.partRowLtHash = h.row ∧ m.partPhysHash = h.phys with
    | none => none
    | some i => subtract (want.eraseIdx i) hs

/-! ## Operations -/

inductive Source where
  | ownUnsafe
  | objectStore
  deriving DecidableEq

inductive RebuildOp : Type → Type where
  /-- The journal accepts a rebuild, and which inventories it already holds as rebuilt;
      `names` asks for the part names too. -/
  | checkJournal (inventories : List LocalState.RebuiltSafeInventory) (names : Bool) :
      RebuildOp (Except Failure (List Bool))
  | recordInventories (inventories : List LocalState.RebuiltSafeInventory) :
      RebuildOp (Except Failure Unit)
  | tableExists (db : Database) (name : String) : RebuildOp (Except Failure Bool)
  | activeParts (db : Database) (name : String) : RebuildOp (Except Failure (List Part))
  | scanParts (db : Database) (name : String) (sch : TableSchema) (names : List String) :
      RebuildOp (Except Failure (List PartScanResult))
  | scanAllParts (db : Database) (name : String) (sch : TableSchema) :
      RebuildOp (Except Failure (List PartScanResult))
  /-- This server holds the replica of the node at the path. -/
  | holdsReplica (name path : String) : RebuildOp (Except Failure Bool)
  /-- The children of the root of the incarnations' own Keeper paths. -/
  | scopedRootChildren : RebuildOp (Except Failure (List String))
  | keeperReplicas (tableID : String) : RebuildOp (Except Failure (List String))
  | replicaIsActive (tableID replica : String) : RebuildOp (Except Failure Bool)
  | dropReplica (tableID replica : String) : RebuildOp (Except Failure Unit)
  | replicaHost (path replica : String) : RebuildOp String
  /-- Renders the three tables of a schema. -/
  | intents (sch : TableSchema) : RebuildOp (Except Failure Unit)
  | ensureDatabases : RebuildOp (Except Failure Unit)
  /-- CREATE TABLE IF NOT EXISTS of a protocol table. -/
  | createTable (db : Database) (name comment : String) : RebuildOp (Except Failure Unit)
  /-- Removes the replica of this node if no local table has the name. -/
  | dropStaleReplica (name : String) : RebuildOp (Except Failure Unit)
  | verifyTable (db : Database) (name comment : String) : RebuildOp (Except Failure Unit)
  /-- Waits until the replication queue is empty or the time is up. -/
  | waitSynced (name : String) : RebuildOp (Except Failure Unit)
  /-- The tables of hg_promote whose name contains the text. -/
  | listContaining (text : String) : RebuildOp (Except Failure (List String))
  /-- DROP TABLE IF EXISTS in hg_promote. -/
  | dropTable (name : String) : RebuildOp (Except Failure Unit)
  /-- CREATE TABLE in hg_promote with the structure of an hg_safe table. -/
  | createScratch (name safe : String) : RebuildOp (Except Failure Unit)
  /-- ATTACH PARTITION of a scratch from hg_unsafe. -/
  | fillFromUnsafe (name : String) (sch : TableSchema) (pid physical : String) :
      RebuildOp (Except Failure Unit)
  /-- The object store creates the scratch with the partition of its backup. -/
  | restorePartitions (tableID pid name : String) : RebuildOp (Except Failure Unit)
  | dropPart (name part : String) : RebuildOp (Except Failure Unit)
  /-- ATTACH PARTITION of hg_safe from a scratch. -/
  | attachToSafe (physical : String) (sch : TableSchema) (pid name : String) :
      RebuildOp (Except Failure Unit)

abbrev RebuildM (α : Type) : Type 1 := Fallible Failure RebuildOp α

abbrev within {α : Type} (context : String) (p : RebuildM α) : RebuildM α := mapError (·.wrap context) p

/-! ## The fence -/

structure FenceResult where
  tableID : String
  path : String
  present : Bool
  dropped : Bool
  deriving DecidableEq

def fenceActive (cfg : Config) (tableID path : String) : RebuildM FenceResult := do
  let host ← ask (.replicaHost path cfg.nodeID)
  throw (errorText s!"fence: replica {cfg.nodeID} of {tableID} is active at {host}; the old ClickHouse is not fenced")

/-- Removes the replica of the lost server from the path of one table. -/
def fenceTable (cfg : Config) (tableID : String) : RebuildM FenceResult := do
  let path := zooKeeperPathFor cfg.keeperShardID tableID .shared
  let replicas ← within "rebuild fence" (call (.keeperReplicas tableID))
  if cfg.nodeID ∉ replicas then return ⟨tableID, path, false, false⟩
  else do
    let active ← within "rebuild fence" (call (.replicaIsActive tableID cfg.nodeID))
    if active then fenceActive cfg tableID path
    else
      match ← attempt (call (.dropReplica tableID cfg.nodeID)) with
      | .ok _ => return ⟨tableID, path, true, true⟩
      | .error e =>
        -- the old server came back between the check and the drop
        if e.kind = .replicaActive then fenceActive cfg tableID path
        else throw (e.wrap "rebuild fence")

def fence (cfg : Config) (tableIDs : List String) : RebuildM (List FenceResult) := do
  let children ← within "rebuild fence" (call .scopedRootChildren)
  if children ≠ [] then
    throw (errorText (s!"fence: /sentio/{cfg.keeperShardID}/unsafe_inc has children " ++
      GoSlice.text children ++ "; the scoped root must be empty before the purge switch"))
  else tableIDs.mapM' (fenceTable cfg)

/-- Which of the tables this server already holds a replica of. -/
def locallyHeld (cfg : Config) : List OwnedTable → RebuildM (List String)
  | [] => pure []
  | t :: ts => do
    let held ← within s!"rebuild fence: look up the local replica of {t.tableID}"
      (call (.holdsReplica t.physical (zooKeeperPathFor cfg.keeperShardID t.tableID .shared)))
    let rest ← locallyHeld cfg ts
    return if held then t.tableID :: rest else rest

/-! ## Creating the tables -/

/-- Creates one protocol table; a stale replica of this node is removed once. -/
def createOne (cfg : Config) (name comment : String) (db : Database) : RebuildM Unit := do
  match ← attempt (call (.createTable db name comment)) with
  | .ok _ => pure ()
  | .error e =>
    if db = .hgUnsafe ∧ e.kind = .replicaExists then do
      within s!"ddl: create {db.text}.{name}: stale replica {cfg.nodeID}"
        (call (.dropStaleReplica name))
      within s!"ddl: create {db.text}.{name}" (call (.createTable db name comment))
    else throw (e.wrap s!"ddl: create {db.text}.{name}")

def protocolDatabases : List Database := [.hgUnsafe, .hgSafe, .hgPromote]

/-- Creates and verifies the three tables on the shared Keeper path. -/
def ensureTable (cfg : Config) (sch : TableSchema) (marker : Nat) : RebuildM Unit := do
  let name := chTableName sch.tableID
  let comment := expectedComment marker
  call (.intents sch)
  call .ensureDatabases
  protocolDatabases.forM (createOne cfg name comment)
  let verified ← protocolDatabases.mapM' fun db => attempt (call (.verifyTable db name comment))
  let errs := errorsOf verified
  if errs = [] then pure () else throw (errorText ("\n".intercalate (errs.map (·.text))))

/-! ## Scratch tables -/

def scratchMarker : String := "__rebuild_"

/-- The name of the scratch number `n` of a table. -/
def scratchName (physical : String) (n : Nat) : String := physical ++ scratchMarker ++ toString n

/-- Drops every table of hg_promote whose name marks it as a scratch. -/
def dropScratches : RebuildM Unit := do
  let names ← within "rebuild restore: list scratch tables"
    (call (.listContaining scratchMarker))
  names.forM fun n => within s!"rebuild restore: drop scratch hg_promote.{n}" (call (.dropTable n))

/-! ## Plans -/

structure PartitionReport where
  tableID : String
  partitionID : String
  publishSeq : Nat
  parts : Nat
  fromOwnUnsafe : Nat
  fromObjectStore : Nat
  missing : List String
  root : String
  deriving DecidableEq

/-- The plan of a partition: the row hashes that hg_safe holds, and what it needs with the
    source of each part. -/
structure Planned where
  part : OwnedPartition
  held : List String
  need : List (SafePartMapping × Source)
  report : PartitionReport

def foreignSafeParts (physical pid : String) : Failure :=
  errorText s!"rebuild: hg_safe.{physical} partition {
    pid} holds parts outside the arbiter's SafeParts; only an empty or already rebuilt table is rebuilt"

section

variable [HouseGate]

/-- The scanned parts of one partition. -/
def contentScan (db : Database) (name : String) (sch : TableSchema) (pid : String) :
    RebuildM (List PartScanResult) := do
  let parts ← call (.activeParts db name)
  let names := (partsInLogicalPartition parts sch pid).map (·.name)
  if names = [] then return []
  else do
    let scans ← call (.scanParts db name sch names)
    let _ ← fromExcept ((LtHash.sumPartRowLtHashes (scans.map (·.rowLtHash))).mapError
      fun e => errorText e.text)
    return scans

/-- The row hash of the part in a scan; a part without rows has none. -/
def rowHashIn (scans : List PartScanResult) (name : String) : String :=
  ((scans.reverse.find? (·.partName = name)).map (·.rowLtHash)).getD ""

/-- The active parts of a partition with their contents. -/
def localContent (db : Database) (name : String) (sch : TableSchema) (pid : String) :
    RebuildM (List (Part × PartContent)) := do
  let parts ← call (.activeParts db name)
  let parts := partsInLogicalPartition parts sch pid
  if parts = [] then return []
  else do
    let scans ← contentScan db name sch pid
    return parts.map fun p => (p, ⟨rowHashIn scans p.name, p.physHash⟩)

/-- Takes one part with the physical hash from a list of them. -/
def takeOne (phys : List String) (h : String) : Option (List String) :=
  if h ∈ phys then some (phys.erase h) else none

/-- Finds a source for every needed part: hg_unsafe first, then the object store. -/
def assignSources (inUnsafe inStore : List String) :
    List SafePartMapping → List (SafePartMapping × Source) × List String
  | [] => ([], [])
  | m :: ms =>
    match takeOne inUnsafe m.partPhysHash with
    | some rest => let (need, missing) := assignSources rest inStore ms; ((m, .ownUnsafe) :: need, missing)
    | none =>
      match takeOne inStore m.partPhysHash with
      | some rest =>
        let (need, missing) := assignSources inUnsafe rest ms
        ((m, .objectStore) :: need, missing)
      | none =>
        let (need, missing) := assignSources inUnsafe inStore ms
        (need, m.safePartName :: missing)

variable (pl : Planned) (p : OwnedPartition) (cfg : Config) (inp : Inputs) (store : Option ObjectStore)

/-- What hg_safe holds of the partition, and what it still needs. -/
def planLocal : RebuildM (List String × List SafePartMapping) := do
  let t := p.table
  let pid := p.state.partitionID
  let found ← within s!"rebuild restore: hg_safe.{t.physical} partition {pid}"
    (localContent .hgSafe t.physical t.schema pid)
  match subtract (manifest p) (found.map (·.2)) with
  | none => throw (foreignSafeParts t.physical pid)
  | some need => do
    let held := found.map (·.2.row)
    let plan ← fromExcept ((Install.Gate.planPartition (rowHashes (manifest p))
      p.state.basePartitionRoot held).mapError fun e =>
        errorText s!"rebuild restore: {t.tableID} partition {pid}: {e}")
    if plan.diverged then throw (foreignSafeParts t.physical pid)
    else return (held, need)

/-- A dry run knows of no local parts: it reads nothing of hg_safe. -/
def planHeld (dry : Bool) (p : OwnedPartition) : RebuildM (List String × List SafePartMapping) :=
  if dry then pure ([], manifest p) else planLocal p

def planPartition (dry : Bool) (p : OwnedPartition) : RebuildM Planned := do
  let t := p.table
  let pid := p.state.partitionID
  let (held, need) ← planHeld dry p
  let listed ← within s!"rebuild restore: hg_unsafe.{t.physical}"
    (call (.activeParts .hgUnsafe t.physical))
  let inUnsafe := (partsInLogicalPartition listed t.schema pid).map (·.physHash)
  let inStore := (store.map fun s => (s.parts t.tableID pid).map (·.hashOfAllFiles)).getD []
  let (sourced, missing) := assignSources inUnsafe inStore need
  return ⟨p, held, sourced, t.tableID, pid, p.state.publishSeq, (manifest p).length,
    sourced.countP (·.2 = .ownUnsafe), sourced.countP (·.2 = .objectStore), missing,
    p.state.basePartitionRoot⟩

/-- The refusal of a plan with missing parts. -/
def missingRefusal : Failure :=
  let t := pl.part.table.tableID
  let pid := pl.part.state.partitionID
  match (manifest pl.part).find? (·.safePartName ∈ pl.report.missing) with
  | some m => errorText s!"rebuild: no source holds part {m.safePartName} (row hash {
    abbreviateRoot m.partRowLtHash}, hash_of_all_files {m.partPhysHash}) of {t} partition {pid}"
  | none =>
    let first := pl.report.missing.headD ""
    errorText s!"rebuild: no source holds part {first} (row hash ?, hash_of_all_files ?) of {t} partition {pid}"

/-- Refuses the first plan with missing parts. -/
def refuseMissing (plans : List Planned) : Except Failure Unit :=
  match plans.find? (·.report.missing ≠ []) with
  | some pl => .error (missingRefusal pl)
  | none => .ok ()

/-! ## Restoring -/

/-- The recorded physical hash of a row hash; of two entries the later one counts. -/
def recordedPhys (group : List SafePartMapping) (row : String) : String :=
  ((group.reverse.find? (·.partRowLtHash = row)).map (·.partPhysHash)).getD ""

def physIn (parts : List Part) (name : String) : String :=
  ((parts.reverse.find? (·.name = name)).map (·.physHash)).getD ""

/-- Keeps the needed parts of a scratch and drops the others; returns the row hashes that
    were kept. -/
def gateScratch (name : String) (t : OwnedTable) (pid : String) (group : List SafePartMapping) :
    RebuildM (List String) := do
  let scans ← within s!"rebuild restore: scan hg_promote.{name}"
    (call (.scanAllParts .hgPromote name t.schema))
  let parts ← within s!"rebuild restore: parts of hg_promote.{name}"
    (call (.activeParts .hgPromote name))
  let scratch := scans.map fun s =>
    (⟨s.partName, s.rowLtHash, s.rowCount⟩ : Install.Gate.ScratchPart)
  -- the parts whose files are the recorded ones come first
  let recorded := fun p : Install.Gate.ScratchPart => physIn parts p.name = recordedPhys group p.rowLtHash
  let offered := scratch.filter recorded ++ scratch.filter fun p => ¬ recorded p
  let c ← fromExcept ((Install.Gate.classify ⟨rowHashes group, none⟩ offered).mapError fun e =>
    errorText s!"rebuild restore: classify hg_promote.{name}: {e}")
  c.drop.forM fun drop =>
    within s!"rebuild restore: drop part {drop} of hg_promote.{name}" (call (.dropPart name drop))
  match c.keep.find? fun keep => physIn parts keep ≠ recordedPhys group (rowHashIn scans keep) with
  | some keep =>
    let got := physIn parts keep
    let want := recordedPhys group (rowHashIn scans keep)
    throw (errorText s!"rebuild: part {keep} of {t.tableID} partition {pid} came back with hash_of_all_files {
      got}; the arbiter records {want}")
  | none => return c.kept

/-- Creates a scratch with the partition of one source. -/
def fillScratch (t : OwnedTable) (pid name : String) : Source → RebuildM Unit
  | .ownUnsafe => do
    within s!"rebuild restore: create scratch hg_promote.{name}"
      (call (.createScratch name t.physical))
    within s!"rebuild restore: attach {t.tableID} partition {pid} from hg_unsafe"
      (call (.fillFromUnsafe name t.schema pid t.physical))
  | .objectStore => within "rebuild restore" (call (.restorePartitions t.tableID pid name))

/-- Fetches the parts of one source into a fresh scratch, gates it, attaches what is left
    to hg_safe and drops the scratch. -/
def restoreFrom (n : Nat) (source : Source) (group : List SafePartMapping) : RebuildM (List String) := do
  let t := pl.part.table
  let pid := pl.part.state.partitionID
  let name := scratchName t.physical n
  fillScratch t pid name source
  let kept ← gateScratch name t pid group
  within s!"rebuild restore: attach {t.tableID} partition {pid} to hg_safe"
    (call (.attachToSafe t.physical t.schema pid name))
  within s!"rebuild restore: drop scratch hg_promote.{name}" (call (.dropTable name))
  return kept

/-- Restores from the sources in order; `n` counts the scratches. -/
def restoreSources (pl : Planned) (n : Nat) : List Source → RebuildM (List String × Nat)
  | [] => pure ([], n)
  | source :: sources => do
    let group := (pl.need.filter (·.2 = source)).map (·.1)
    if group = [] then restoreSources pl n sources
    else do
      let kept ← restoreFrom pl (n + 1) source group
      let (rest, n) ← restoreSources pl (n + 1) sources
      return (kept ++ rest, n)

/-- Restores one partition and checks its closure; returns the number of scratches. -/
def restorePartition (n : Nat) : RebuildM Nat := do
  if pl.need = [] then return n
  else do
    let t := pl.part.table
    let pid := pl.part.state.partitionID
    let _ ← fromExcept ((quotePartition t.schema pid).mapError fun e => errorText e.text)
    let (kept, n) ← restoreSources pl n [.ownUnsafe, .objectStore]
    match Install.Gate.closure pl.part.state.basePartitionRoot pl.held kept with
    | .error _ =>
      let held := abbreviateRoot (Install.Gate.sumText pl.held)
      let got := abbreviateRoot (Install.Gate.sumText kept)
      let root := abbreviateRoot pl.part.state.basePartitionRoot
      throw (errorText s!"rebuild: {t.tableID} partition {pid} does not close: local {held} plus kept {
        got} is not the base root {root}")
    | .ok _ => do
      let found ← within s!"rebuild restore: hg_safe.{t.physical} partition {pid}"
        (localContent .hgSafe t.physical t.schema pid)
      if subtract (manifest pl.part) (found.map (·.2)) = some [] then return n
      else throw (foreignSafeParts t.physical pid)

def restoreAll (n : Nat) : List Planned → RebuildM Unit
  | [] => pure ()
  | pl :: pls => do
    let n ← restorePartition pl n
    restoreAll n pls

/-! ## Checks -/

/-- The partitions of hg_safe are those with safe parts. -/
def checkPartitionSet (partitions : List OwnedPartition) (t : OwnedTable) : RebuildM Unit := do
  let ids := (partitions.filter (·.table.tableID = t.tableID)).map (·.state.partitionID)
  let parts ← within s!"rebuild restore: hg_safe.{t.physical}"
    (call (.activeParts .hgSafe t.physical))
  fromExcept ((Install.Gate.partitionSet ids (parts.map (logicalPartitionID t.schema))).mapError
    fun e => errorText s!"rebuild restore: hg_safe.{t.physical}: {e}")

/-- The inventory of a partition under the names that hg_safe holds now. -/
def readBack : RebuildM LocalState.RebuiltSafeInventory := do
  let t := p.table
  let pid := p.state.partitionID
  let found ← within s!"rebuild journal: hg_safe.{t.physical} partition {pid}"
    (localContent .hgSafe t.physical t.schema pid)
  if subtract (manifest p) (found.map (·.2)) = some [] then
    return ⟨t.tableID, pid, p.state.publishSeq, found.map fun f => ⟨f.2.row, f.1.name, f.2.phys⟩⟩
  else throw (foreignSafeParts t.physical pid)

/-- Every hg_safe table exists with exactly the partitions of the arbiter. -/
def tablesComplete (partitions : List OwnedPartition) : List OwnedTable → RebuildM Bool
  | [] => pure true
  | t :: ts => do
    let found ← call (.tableExists .hgSafe t.physical)
    if ¬ found then return false
    else
      match ← attempt (checkPartitionSet partitions t) with
      | .error _ => return false
      | .ok _ => tablesComplete partitions ts

/-- The inventories of the partitions whose content is complete; `none` if one is not. -/
def currentInventories : List OwnedPartition → RebuildM (Option (List LocalState.RebuiltSafeInventory))
  | [] => pure (some [])
  | p :: ps => do
    let t := p.table
    let pid := p.state.partitionID
    let found ← localContent .hgSafe t.physical t.schema pid
    if subtract (manifest p) (found.map (·.2)) ≠ some [] then return none
    else do
      let rest ← currentInventories ps
      return rest.map (⟨t.tableID, pid, p.state.publishSeq,
        found.map fun f => ⟨f.2.row, f.1.name, f.2.phys⟩⟩ :: ·)

/-- Whether hg_safe and the journal already hold what a run would produce. -/
def alreadyRebuilt (tables : List OwnedTable) (partitions : List OwnedPartition)
    (journaled : List Bool) : RebuildM Bool := do
  if false ∈ journaled then return false
  else if ← tablesComplete partitions tables then
    match ← currentInventories partitions with
    | none => return false
    | some current => do
      let named ← call (.checkJournal current true)
      return false ∉ named
  else return false

/-! ## The rebuild -/

structure Report where
  fence : List FenceResult
  partitions : List PartitionReport
  alreadyRebuilt : Bool
  dryRun : Bool
  deriving DecidableEq

def Config.check : Except Failure Unit :=
  if cfg.networkID = "" ∨ cfg.stateDir = "" ∨ cfg.nodeID = "" then
    .error (errorText "rebuild: Config needs NetworkID, StateDir and Pinned's three databases and node id")
  else .ok ()

/-- The promotions that are not acknowledged, in order. -/
def unackedSeqs : List Nat :=
  ((inp.unacked.filter (¬ ·.acked)).map (·.promotionSeq)).insertionSort (· ≤ ·)

/-- The refusals before anything is touched. -/
def checkAdmitted : Except Failure Unit := do
  cfg.check
  if cfg.indexerID ∉ inp.quarantinedIndexers then
    throw (errorText s!"rebuild: indexer {cfg.indexerID} is not quarantined; a live track's hg_safe is never rebuilt")
  else if unackedSeqs inp ≠ [] then
    throw (errorText (s!"rebuild: indexer {cfg.indexerID} has issued, unacknowledged promotions " ++
      GoSlice.text ((unackedSeqs inp).map toString) ++ "; settle them first (arbiter-admin indexer settle)"))
  else pure ()

/-- The report of a partition that needs nothing. -/
def restedReport : PartitionReport :=
  ⟨p.table.tableID, p.state.partitionID, p.state.publishSeq, p.state.safeParts.length, 0, 0, [],
    p.state.basePartitionRoot⟩

/-- Fences, creates and restores, and journals the inventories. -/
def rebuildTables (tables : List OwnedTable) (partitions : List OwnedPartition) : RebuildM Report := do
  let held ← locallyHeld cfg tables
  let fenced ← fence cfg ((tables.map (·.tableID)).filter (· ∉ held))
  tables.forM fun t => within "rebuild tables" (ensureTable cfg t.schema t.marker)
  tables.forM fun t => within s!"rebuild tables: replication queue of hg_unsafe.{t.physical}"
    (call (.waitSynced t.physical))
  dropScratches
  let plans ← partitions.mapM' (planPartition store false)
  fromExcept (refuseMissing plans)
  restoreAll 0 plans
  tables.forM (checkPartitionSet partitions)
  dropScratches
  let inventories ← partitions.mapM' readBack
  within "rebuild journal" (call (.recordInventories inventories))
  return ⟨fenced, plans.map (·.report), false, false⟩

def rebuild : RebuildM Report := do
  fromExcept (checkAdmitted cfg inp)
  let tables ← fromExcept (ownedTables cfg inp)
  let partitions := ownedPartitions tables inp.states
  let expected := partitions.map fun p =>
    (⟨p.table.tableID, p.state.partitionID, p.state.publishSeq, []⟩ : LocalState.RebuiltSafeInventory)
  let journaled ← call (.checkJournal expected false)
  if cfg.dryRun then do
    let plans ← partitions.mapM' (planPartition store true)
    fromExcept (refuseMissing plans)
    return ⟨[], plans.map (·.report), false, true⟩
  else if ← alreadyRebuilt tables partitions journaled then
    return ⟨[], partitions.map restedReport, true, false⟩
  else rebuildTables cfg store tables partitions

end

/-! ## The world of a rebuild -/

/-- A table; `scratch` is a history: a rebuild created it as restore scratch. -/
structure RebuildTable where
  comment : String
  data : Table
  scratch : Bool

/-- The tables of hg_safe and hg_promote, those of hg_unsafe without their parts, and the
    journal. The replicas of hg_unsafe fill from the pool at any time, so what they hold is
    an answer. `dropped` is a history of the tables that DROP TABLE removed. -/
structure RebuildWorld where
  tables : GoMap (Database × String) RebuildTable
  journal : LocalState
  dropped : List (String × RebuildTable)

/-- The outcome of an operation: its error, whether a failed statement took effect, the
    names of new parts, the parts that come from outside, and the answer of a query. -/
structure RebuildAnswer where
  err : Option Failure := none
  effect : Bool := true
  names : List String := []
  landed : List StoredPart := []
  found : Bool := true
  texts : List String := []
  text : String := ""

namespace RebuildAnswer

/-- The answer to a query. -/
def query {β : Type} (a : RebuildAnswer) (w : RebuildWorld) (result : β) :
    Option (Except Failure β × RebuildWorld) :=
  match a.err with
  | none => some (.ok result, w)
  | some e => some (.error e, w)

/-- The answer to a query of something that may be missing. -/
def queryOf {β : Type} (a : RebuildAnswer) (w : RebuildWorld) (result : Option β) :
    Option (Except Failure β × RebuildWorld) :=
  match a.err, result with
  | none, some b => some (.ok b, w)
  | none, none => none
  | some e, _ => some (.error e, w)

/-- The answer to a statement that leads from `w` to `w'`, if it can be executed. -/
def statement (a : RebuildAnswer) (w : RebuildWorld) (w' : Option RebuildWorld) :
    Option (Except Failure Unit × RebuildWorld) :=
  match a.err, w' with
  | none, some w' => some (.ok (), w')
  | none, none => none
  | some e, some w' => some (.error e, if a.effect then w' else w)
  | some e, none => some (.error e, w)

end RebuildAnswer

namespace RebuildWorld

variable (w : RebuildWorld) (db : Database) (name : String)

def table : Option RebuildTable := w.tables.lookup (db, name)

def parts : List StoredPart :=
  ((w.table db name).map (·.data.parts)).getD []

def setTable (t : RebuildTable) : RebuildWorld :=
  { w with tables := w.tables.insert (db, name) t }

/-- CREATE TABLE IF NOT EXISTS. -/
def created (name comment : String) : RebuildWorld :=
  match w.table db name with
  | some _ => w
  | none => w.setTable db name ⟨comment, .empty, false⟩

/-- CREATE TABLE AS an hg_safe table. -/
def scratchCreated (name safe : String) : Option RebuildWorld :=
  match w.table .hgPromote name, w.table .hgSafe safe with
  | none, some t => some (w.setTable .hgPromote name ⟨t.comment, .empty, true⟩)
  | _, _ => none

/-- New parts of a table. -/
def partsAdded (new : List StoredPart) : Option RebuildWorld := do
  let t ← w.table db name
  let data ← t.data.add new
  return w.setTable db name { t with data := data }

/-- RESTORE into a table, which it creates; one with parts is refused. -/
def restored (new : List StoredPart) : Option RebuildWorld :=
  match w.table .hgPromote name with
  | none => (w.setTable .hgPromote name ⟨"", .empty, true⟩).partsAdded .hgPromote name new
  | some t => if t.data.parts = [] then w.partsAdded .hgPromote name new else none

def partDropped (name part : String) : Option RebuildWorld := do
  let t ← w.table .hgPromote name
  if t.data.parts.any (·.name = part) then
    return w.setTable .hgPromote name { t with data := t.data.keep (·.name ≠ part) }
  else none

/-- DROP TABLE IF EXISTS in hg_promote. -/
def tableDropped : RebuildWorld :=
  match w.table .hgPromote name with
  | none => w
  | some t => { w with
      tables := w.tables.erase (.hgPromote, name)
      dropped := w.dropped ++ [(name, t)] }

/-- ATTACH PARTITION of hg_safe from a scratch, under new names. -/
def attachedToSafe (physical : String) (sch : TableSchema) (pid name : String)
    (names : List String) : Option RebuildWorld := do
  let t ← w.table .hgSafe physical
  let new ← renamed (partitionOf sch pid (w.parts .hgPromote name)) t.data names
  w.partsAdded .hgSafe physical new

end RebuildWorld

/-- The text occurs in the name. -/
def Contains (name text : String) : Prop := text.toList <:+: name.toList

instance (name text : String) : Decidable (Contains name text) :=
  inferInstanceAs (Decidable (_ <:+: _))

/-- Whether the journal holds the inventory as rebuilt, with its part names if asked. -/
def journalHolds (s : LocalState) (names : Bool) (inv : LocalState.RebuiltSafeInventory) : Bool :=
  match s.ackedSafeInventories.lookup inv.key with
  | none => false
  | some got => got.rebuilt && got.promotionSeq == inv.publishSeq &&
      (!names || got.parts.isPerm inv.parts)

section

variable [HouseGate]

/-- Answers an operation. -/
def RebuildOp.run : {β : Type} → RebuildOp β → RebuildAnswer → RebuildWorld → Option (β × RebuildWorld)
  | _, .checkJournal inventories names, a, w =>
    match w.journal.checkRebuild inventories with
    | .error e => some (.error (errorText e.text), w)
    | .ok _ => a.query w (inventories.map (journalHolds w.journal names))
  | _, .recordInventories inventories, a, w =>
    match w.journal.recordRebuiltSafeInventories inventories with
    | .error e => some (.error (errorText e.text), w)
    | .ok next => a.statement w (some { w with journal := next.getD w.journal })
  | _, .tableExists db name, a, w => a.query w (w.table db name).isSome
  | _, .activeParts db name, a, w =>
    a.query w (listing (if db = .hgUnsafe then a.landed else w.parts db name))
  | _, .scanParts db name sch names, a, w =>
    a.queryOf w ((w.table db name).map fun t => scanned sch t.data.parts names)
  | _, .scanAllParts db name sch, a, w =>
    a.queryOf w ((w.table db name).map fun t =>
      scanned sch t.data.parts ((listing t.data.parts).map (·.name)))
  | _, .holdsReplica _ _, a, w => a.query w a.found
  | _, .scopedRootChildren, a, w => a.query w a.texts
  | _, .keeperReplicas _, a, w => a.query w a.texts
  | _, .replicaIsActive _ _, a, w => a.query w a.found
  | _, .dropReplica _ _, a, w => a.query w ()
  | _, .replicaHost _ _, a, w => some (a.text, w)
  | _, .intents _, a, w => a.query w ()
  | _, .ensureDatabases, a, w => a.query w ()
  | _, .createTable db name comment, a, w => a.statement w (some (w.created db name comment))
  | _, .dropStaleReplica _, a, w => a.query w ()
  | _, .verifyTable db name comment, a, w =>
    a.queryOf w (if (w.table db name).any (·.comment = comment) then some () else none)
  | _, .waitSynced _, a, w => a.query w ()
  | _, .listContaining text, a, w =>
    a.query w ((w.tables.keys.filter fun k => k.1 = .hgPromote ∧ Contains k.2 text).map (·.2))
  | _, .dropTable name, a, w => a.statement w (some (w.tableDropped name))
  | _, .createScratch name safe, a, w => a.statement w (w.scratchCreated name safe)
  | _, .fillFromUnsafe name sch pid _, a, w =>
    if a.landed.all (·.partition sch = pid) then a.statement w (w.partsAdded .hgPromote name a.landed)
    else none
  | _, .restorePartitions _ _ name, a, w => a.statement w (w.restored name a.landed)
  | _, .dropPart name part, a, w => a.statement w (w.partDropped name part)
  | _, .attachToSafe physical sch pid name, a, w =>
    a.statement w (w.attachedToSafe physical sch pid name a.names)

def rebuildMachine : Machine RebuildOp RebuildWorld := ⟨RebuildAnswer, RebuildOp.run⟩

end

end ArbiterCore.Rebuild
